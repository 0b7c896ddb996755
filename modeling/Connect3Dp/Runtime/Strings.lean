import Connect3Dp.Runtime.Values
import Mathlib.Data.List.Basic

/-!
# Strings

The string operations of the runtime that look at single characters. A string of the runtime is a
sequence of UTF-16 code units and its length and its indices count these; `utf16Length` is that
length and `utf16` that sequence. A `String` holds whole characters, so unpaired surrogates do not
occur in it; they do in a part of its sequence.

Code units and the escaped text of a URI are both written character by character, and both are read
back: each is a prefix code (`IsPrefixCode.flatMap_injective`).
-/

namespace Connect3Dp

/-! ### Prefix codes -/

/-- A code none of whose words is empty or starts another. -/
structure IsPrefixCode {α β : Type*} (f : α → List β) : Prop where
  ne_nil : ∀ a, f a ≠ []
  eq_of_append : ∀ {a b x y}, f a ++ x = f b ++ y → a = b

/-- A text is read back from its code. -/
theorem IsPrefixCode.flatMap_injective {α β : Type*} {f : α → List β} (h : IsPrefixCode f) :
    Function.Injective fun l : List α => l.flatMap f := by
  intro l
  induction l with
  | nil =>
    intro l' heq
    cases l' with
    | nil => rfl
    | cons b l' =>
      obtain ⟨hb, -⟩ := List.append_eq_nil_iff.mp (heq.symm : f b ++ l'.flatMap f = [])
      exact absurd hb (h.ne_nil b)
  | cons a l ih =>
    intro l' heq
    cases l' with
    | nil =>
      obtain ⟨ha, -⟩ := List.append_eq_nil_iff.mp (heq : f a ++ l.flatMap f = [])
      exact absurd ha (h.ne_nil a)
    | cons b l' =>
      have hcons : f a ++ l.flatMap f = f b ++ l'.flatMap f := heq
      obtain rfl := h.eq_of_append hcons
      exact congrArg (a :: ·) (ih (List.append_cancel_left hcons))

/-! ### Characters -/

/-- The number of UTF-16 code units of a character. -/
def utf16Units (c : Char) : ℕ := if c.toNat < 0x10000 then 1 else 2

/-- `string.Length`. -/
def utf16Length (cs : List Char) : ℕ := cs.foldr (fun c n => utf16Units c + n) 0

/-- `Substring(n)`. Where `n` falls inside a character, that character stays. -/
def substringFrom : ℕ → List Char → List Char
  | _, [] => []
  | 0, cs => cs
  | n + 1, c :: cs =>
    if utf16Units c ≤ n + 1 then substringFrom (n + 1 - utf16Units c) cs else c :: cs

/-- The code units of a character. -/
def utf16Char (c : Char) : List UInt16 :=
  if c.toNat < 0x10000 then [.ofNat c.toNat]
  else [.ofNat (0xd800 + (c.toNat - 0x10000) / 0x400),
    .ofNat (0xdc00 + (c.toNat - 0x10000) % 0x400)]

/-- The code units of a string. -/
def utf16 (s : String) : List UInt16 := s.toList.flatMap utf16Char

/-- `ToLowerInvariant()`. Beyond ASCII it follows the Unicode table `lower`. -/
def toLowerInvariant (lower : Char → Char) (s : String) : String :=
  .ofList (s.toList.map fun c => if c.toNat < 0x80 then c.toLower else lower c)

/-- `char.IsWhiteSpace`. -/
def isWhiteSpace (c : Char) : Bool :=
  let n := c.toNat
  (0x09 ≤ n && n ≤ 0x0d) || n == 0x20 || n == 0x85 || n == 0xa0 || n == 0x1680 ||
    (0x2000 ≤ n && n ≤ 0x200a) || n == 0x2028 || n == 0x2029 || n == 0x202f || n == 0x205f ||
    n == 0x3000

/-- `Trim()`. -/
def trim (s : String) : String :=
  .ofList ((s.toList.dropWhile isWhiteSpace).reverse.dropWhile isWhiteSpace).reverse

/-- `string.IsNullOrWhiteSpace`. -/
def isNullOrWhiteSpace : NetString → Bool
  | none => true
  | some s => s.toList.all isWhiteSpace

/-- Code units are equal when the numbers they are made from are. -/
theorem uint16_ofNat_inj {m n : ℕ} (hm : m < 0x10000) (hn : n < 0x10000)
    (h : UInt16.ofNat m = UInt16.ofNat n) : m = n := by
  have hnat := congrArg UInt16.toNat h
  simp only [UInt16.toNat_ofNat'] at hnat
  omega

theorem isPrefixCode_utf16Char : IsPrefixCode utf16Char where
  ne_nil c := by
    unfold utf16Char
    split <;> simp
  eq_of_append := by
    intro a b x y h
    have ha : a.toNat < 0xd800 ∨ 0xdfff < a.toNat ∧ a.toNat < 0x110000 := a.valid
    have hb : b.toNat < 0xd800 ∨ 0xdfff < b.toNat ∧ b.toNat < 0x110000 := b.valid
    -- A character of the basic plane is no surrogate, so the first code unit tells the two apart.
    unfold utf16Char at h
    apply Char.toNat_inj.mp
    split at h <;> split at h <;>
      simp only [List.cons_append, List.nil_append, List.cons.injEq] at h
    · exact uint16_ofNat_inj (by omega) (by omega) h.1
    · have hhigh := uint16_ofNat_inj (by omega) (by omega) h.1
      omega
    · have hhigh := uint16_ofNat_inj (by omega) (by omega) h.1
      omega
    · have hhigh := uint16_ofNat_inj (by omega) (by omega) h.1
      have hlow := uint16_ofNat_inj (by omega) (by omega) h.2.1
      omega

theorem utf16_injective : Function.Injective utf16 := fun _ _ h =>
  String.toList_injective (isPrefixCode_utf16Char.flatMap_injective h)

theorem utf16_append (s t : String) : utf16 (s ++ t) = utf16 s ++ utf16 t := by
  simp [utf16, String.toList_append]

theorem toLowerInvariant_append (lower : Char → Char) (s t : String) :
    toLowerInvariant lower (s ++ t) = toLowerInvariant lower s ++ toLowerInvariant lower t := by
  simp [toLowerInvariant]

/-! ### Escaped text -/

/-- The characters that `Uri.EscapeDataString` leaves as they are. -/
def isUnreserved (b : UInt8) : Bool :=
  (0x41 ≤ b && b ≤ 0x5a) || (0x61 ≤ b && b ≤ 0x7a) || (0x30 ≤ b && b ≤ 0x39) || b == 0x2d ||
    b == 0x2e || b == 0x5f || b == 0x7e

/-- A hexadecimal digit, in upper case. -/
def hexDigit (n : ℕ) : UInt16 := .ofNat (if n < 10 then 0x30 + n else 0x37 + n)

def escapeByte (b : UInt8) : List UInt16 :=
  if isUnreserved b then [b.toUInt16] else [0x25, hexDigit (b.toNat / 16), hexDigit (b.toNat % 16)]

/-- `Uri.EscapeDataString`. -/
def escapeDataString (s : String) : List UInt16 := s.toByteArray.data.toList.flatMap escapeByte

theorem hexDigit_inj {m n : ℕ} (hm : m < 16) (hn : n < 16) (h : hexDigit m = hexDigit n) :
    m = n := by
  have hnat := uint16_ofNat_inj (by split <;> omega) (by split <;> omega) h
  split at hnat <;> split at hnat <;> omega

theorem toUInt16_ne_of_isUnreserved {b c : UInt8} (hb : isUnreserved b = true)
    (hc : isUnreserved c = false) : b.toUInt16 ≠ c.toUInt16 := by
  intro h
  rw [UInt8.toUInt16_inj.mp h, hc] at hb
  cases hb

theorem hexDigit_ne_slash {n : ℕ} (hn : n < 16) : hexDigit n ≠ 0x2f := by
  intro h
  have hnat := uint16_ofNat_inj (n := 0x2f) (by split <;> omega) (by omega) h
  split at hnat <;> omega

theorem isPrefixCode_escapeByte : IsPrefixCode escapeByte where
  ne_nil b := by
    unfold escapeByte
    split <;> simp
  eq_of_append := by
    intro a b x y h
    unfold escapeByte at h
    split at h <;> split at h <;>
      simp only [List.cons_append, List.nil_append, List.cons.injEq] at h
    · exact UInt8.toUInt16_inj.mp h.1
    · exact absurd h.1 (toUInt16_ne_of_isUnreserved ‹_› (c := 0x25) rfl)
    · exact absurd h.1.symm (toUInt16_ne_of_isUnreserved ‹_› (c := 0x25) rfl)
    · have ha := UInt8.toNat_lt a
      have hb := UInt8.toNat_lt b
      have hhigh := hexDigit_inj (by omega) (by omega) h.2.1
      have hlow := hexDigit_inj (by omega) (by omega) h.2.2.1
      exact UInt8.toNat_inj.mp (by omega)

theorem escapeDataString_injective : Function.Injective escapeDataString := by
  intro s t h
  have hlist : s.toByteArray.data.toList = t.toByteArray.data.toList :=
    isPrefixCode_escapeByte.flatMap_injective h
  exact String.toByteArray_inj.mp (ByteArray.ext (Array.toList_inj.mp hlist))

/-- A slash is escaped. -/
theorem slash_notMem_escapeDataString (s : String) : (0x2f : UInt16) ∉ escapeDataString s := by
  intro h
  obtain ⟨b, -, hb⟩ := List.mem_flatMap.mp h
  have hlt := UInt8.toNat_lt b
  unfold escapeByte at hb
  split at hb
  · have hslash : (0x2f : UInt16) = b.toUInt16 := List.mem_singleton.mp hb
    exact toUInt16_ne_of_isUnreserved ‹_› (c := 0x2f) rfl hslash.symm
  · simp only [List.mem_cons, List.not_mem_nil, or_false] at hb
    rcases hb with h | h | h
    · cases h
    · exact hexDigit_ne_slash (by omega) h.symm
    · exact hexDigit_ne_slash (by omega) h.symm

end Connect3Dp
