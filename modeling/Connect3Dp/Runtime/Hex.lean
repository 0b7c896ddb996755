import Mathlib.Data.Nat.Digits.Lemmas

/-!
# Hexadecimal numbers

`formatHex` is the format `Xn` of the runtime. It writes at least `n` digits and more where a
number needs them, so texts of different lengths occur; no two numbers share one
(`formatHex_inj`).
-/

namespace Connect3Dp

/-- A digit as the format `X` writes it. -/
def hexChar (d : ℕ) : Char := .ofNat (if d < 10 then 0x30 + d else 0x37 + d)

/-- The value of a digit in upper or lower case. -/
def hexCharValue (c : Char) : Option ℕ :=
  let n := c.toNat
  if 0x30 ≤ n ∧ n < 0x3a then some (n - 0x30)
  else if 0x41 ≤ n ∧ n < 0x47 then some (n - 0x37)
  else if 0x61 ≤ n ∧ n < 0x67 then some (n - 0x57)
  else none

theorem hexCharValue_hexChar {d : ℕ} (hd : d < 16) : hexCharValue (hexChar d) = some d := by
  interval_cases d <;> rfl

/-- The digits of a number, padded on the left. -/
def hexDigits (width n : ℕ) : List Char := ((Nat.digits 16 n).map hexChar).reverse.leftpad width '0'

/-- The format `Xn`. -/
def formatHex (width n : ℕ) : String := .ofList (hexDigits width n)

/-- `$"{n:X8}"`, for an `int`. -/
def formatInt32X8 (n : Int32) : String := formatHex 8 n.toUInt32.toNat

/-- `$"{n:X8}"`, for a `long`. A negative one has sixteen digits. -/
def formatInt64X8 (n : Int64) : String := formatHex 8 n.toUInt64.toNat

/-- Read from the right, the text is the digits of the number and zeros after them. -/
theorem reverse_hexDigits (width n : ℕ) :
    ∃ k, (hexDigits width n).reverse = (Nat.digits 16 n ++ List.replicate k 0).map hexChar := by
  refine ⟨width - (Nat.digits 16 n).length, ?_⟩
  have hzero : hexChar 0 = '0' := rfl
  rw [hexDigits, List.leftpad, List.reverse_append, List.reverse_reverse, List.length_reverse,
    List.length_map, List.reverse_replicate, List.map_append, List.map_replicate, hzero]

theorem lt_of_mem_digits_append {n k d : ℕ} (h : d ∈ Nat.digits 16 n ++ List.replicate k 0) :
    d < 16 := by
  rcases List.mem_append.mp h with h | h
  · exact Nat.digits_lt_base (by omega) h
  · rw [List.eq_of_mem_replicate h]
    omega

theorem hexDigits_inj {width m n : ℕ} (h : hexDigits width m = hexDigits width n) : m = n := by
  obtain ⟨j, hm⟩ := reverse_hexDigits width m
  obtain ⟨k, hn⟩ := reverse_hexDigits width n
  have hread : ∀ ds : List ℕ, (∀ d ∈ ds, d < 16) →
      (ds.map hexChar).filterMap hexCharValue = ds := by
    intro ds hds
    rw [List.filterMap_map]
    exact (List.filterMap_congr fun d hd => hexCharValue_hexChar (hds d hd)).trans
      List.filterMap_some
  have hdigits : Nat.digits 16 m ++ List.replicate j 0 = Nat.digits 16 n ++ List.replicate k 0 := by
    rw [← hread _ fun d => lt_of_mem_digits_append, ← hread (Nat.digits 16 n ++ _) fun d =>
      lt_of_mem_digits_append, ← hm, ← hn, h]
  have hvalue := congrArg (Nat.ofDigits 16) hdigits
  simpa only [Nat.ofDigits_append_replicate_zero, Nat.ofDigits_digits] using hvalue

theorem formatHex_inj {width m n : ℕ} (h : formatHex width m = formatHex width n) : m = n :=
  hexDigits_inj (String.ofList_injective h)

theorem formatInt64X8_injective : Function.Injective formatInt64X8 := by
  intro a b h
  have hbits : a.toUInt64 = b.toUInt64 := UInt64.toNat_inj.mp (formatHex_inj h)
  exact congrArg UInt64.toInt64 hbits

/-- Only digits are written. -/
theorem hexCharValue_isSome_of_mem {width n : ℕ} {c : Char} (h : c ∈ hexDigits width n) :
    (hexCharValue c).isSome := by
  obtain ⟨k, hk⟩ := reverse_hexDigits width n
  rw [← List.mem_reverse, hk, List.mem_map] at h
  obtain ⟨d, hd, rfl⟩ := h
  rw [hexCharValue_hexChar (lt_of_mem_digits_append hd)]
  rfl

example : formatInt64X8 50397952 = "03010300" := by decide +kernel

example : formatInt64X8 (-1) = "FFFFFFFFFFFFFFFF" := by decide +kernel

end Connect3Dp
