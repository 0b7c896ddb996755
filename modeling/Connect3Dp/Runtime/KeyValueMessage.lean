import Connect3Dp.Runtime.Json
import Connect3Dp.Runtime.Strings

/-!
# Messages of keys and values in one string

`PrefixedFixedLengthKeyValueMessage` packs a dictionary of strings into one: the prefix, then a
block `[key=length:value]` for every entry. A block ends at the first closing bracket, so the
length is a check and not a guide.

A message whose keys have none of the signs of the format is read back just when no value holds a
closing bracket (`roundTrips_iff`), and then as it was (`tryParse_toString`). The loop meets the
blocks one by one (`parseBlocks_flatMap`); a closing bracket in a value leaves the block with less
text than its header announces (`parseBlocks_append_of_mem`).
-/

namespace Connect3Dp

/-- What the culture of a process decides about strings. -/
structure Culture where
  /-- `input.StartsWith(value)` -/
  startsWith : String → String → Bool
  /-- `int.ToString()` -/
  formatInt32 : Int32 → String

/-- A culture that compares characters. -/
def Culture.ordinal : Culture where
  startsWith s value := value.toList.isPrefixOf s.toList
  formatInt32 n := toString n.toInt

/-- The culture's numbers are read back, and none of the signs of the format occurs in them. -/
structure Culture.Reads (culture : Culture) (host : Host) : Prop where
  parse_format : ∀ n, host.parseInt32 (culture.formatInt32 n) = some n
  notMem_format : ∀ n, ':' ∉ (culture.formatInt32 n).toList ∧ ']' ∉ (culture.formatInt32 n).toList

/-- `int.TryParse`, of a text of digits that may have a minus sign. -/
def parseDecimal (s : String) : Option Int32 :=
  let negative := s.toList.head? == some '-'
  let digits := if negative then s.toList.drop 1 else s.toList
  let magnitude := Nat.ofDigitChars 10 digits 0
  let n : ℤ := if negative then -magnitude else magnitude
  if digits ≠ [] ∧ digits.all Char.isDigit ∧ -2 ^ 31 ≤ n ∧ n < 2 ^ 31 then some (.ofInt n)
  else none

/-- The digits of a number, and a minus sign before them when it is negative. -/
theorem toList_toString_int (n : ℤ) : (toString n).toList =
    if 0 ≤ n then Nat.toDigits 10 n.natAbs else '-' :: Nat.toDigits 10 n.natAbs := by
  rw [Int.toString_eq_repr, Int.repr_eq_if]
  split
  · next h =>
    have habs : n.toNat = n.natAbs := by omega
    rw [habs, Nat.toList_repr]
  · next h =>
    have habs : (-n).toNat = n.natAbs := by omega
    rw [habs, String.toList_append, Nat.toList_repr]
    rfl

theorem isDigit_of_mem_toDigits {n : ℕ} {c : Char} (h : c ∈ Nat.toDigits 10 n) :
    c.isDigit = true :=
  Nat.isDigit_of_mem_toDigits (by decide) (by decide) h

theorem head?_toDigits_ne (n : ℕ) : (Nat.toDigits 10 n).head? ≠ some '-' := by
  intro h
  have hdigit : '-'.isDigit = true := isDigit_of_mem_toDigits (List.mem_of_head? h)
  cases hdigit

theorem parseDecimal_toString (n : Int32) : parseDecimal (toString n.toInt) = some n := by
  have hdigits : (Nat.toDigits 10 n.toInt.natAbs).all Char.isDigit = true :=
    List.all_eq_true.mpr fun _ => isDigit_of_mem_toDigits
  have hlower : -2 ^ 31 ≤ n.toInt := n.le_toInt
  have hupper : n.toInt < 2 ^ 31 := n.toInt_lt
  unfold parseDecimal
  rw [toList_toString_int]
  by_cases h : 0 ≤ n.toInt
  · have hhead : ((Nat.toDigits 10 n.toInt.natAbs).head? == some '-') = false :=
      beq_eq_false_iff_ne.mpr (head?_toDigits_ne _)
    have habs : (n.toInt.natAbs : ℤ) = n.toInt := Int.natAbs_of_nonneg h
    simp only [if_pos h, hhead, Bool.false_eq_true, if_false, Nat.ofDigitChars_ten_toDigits, habs]
    rw [if_pos ⟨Nat.toDigits_ne_nil, hdigits, hlower, hupper⟩, Int32.ofInt_toInt]
  · have habs : -(n.toInt.natAbs : ℤ) = n.toInt := by omega
    simp only [if_neg h, List.head?_cons, beq_self_eq_true, if_true, List.drop_one, List.tail_cons,
      Nat.ofDigitChars_ten_toDigits, habs]
    rw [if_pos ⟨Nat.toDigits_ne_nil, hdigits, hlower, hupper⟩, Int32.ofInt_toInt]

/-- Ordinal texts of numbers are read back. -/
theorem Culture.ordinal_reads {host : Host} (h : host.parseInt32 = parseDecimal) :
    Culture.ordinal.Reads host where
  parse_format n := by rw [h, Culture.ordinal, parseDecimal_toString]
  notMem_format n := by
    have hdigit : ∀ c ∈ (toString n.toInt).toList, c = '-' ∨ c.isDigit = true := by
      intro c hc
      rw [toList_toString_int] at hc
      split at hc
      · exact .inr (isDigit_of_mem_toDigits hc)
      · exact (List.mem_cons.mp hc).imp_right isDigit_of_mem_toDigits
    constructor
    · exact fun hc => absurd (hdigit _ hc) (by decide)
    · exact fun hc => absurd (hdigit _ hc) (by decide)

/-- `PrefixedFixedLengthKeyValueMessage`: the prefix, and the entries of a dictionary that ignores
the case of its keys. -/
structure PrefixedFixedLengthKeyValueMessage where
  expectedPrefix : String
  values : List (String × String)
  deriving DecidableEq

namespace PrefixedFixedLengthKeyValueMessage

/-- `Values[key] = value`. A key that is there keeps its place and its spelling. -/
def setEntry (key value : String) : List (String × String) → List (String × String)
  | [] => [(key, value)]
  | entry :: entries =>
    if equalsIgnoreCase entry.1 key then (entry.1, value) :: entries
    else entry :: setEntry key value entries

/-- `Add`. -/
def add (m : PrefixedFixedLengthKeyValueMessage) (key : String) (value : NetString) :
    PrefixedFixedLengthKeyValueMessage :=
  { m with values := setEntry key (value.getD "") m.values }

/-- `Values.TryGetValue(key)`. -/
def tryGetValue (m : PrefixedFixedLengthKeyValueMessage) (key : String) : Option String :=
  (m.values.find? fun entry => equalsIgnoreCase entry.1 key).map Prod.snd

/-- `Values[key]`. -/
def getValue (m : PrefixedFixedLengthKeyValueMessage) (key : String) : Except Fault String :=
  match m.tryGetValue key with
  | some value => .ok value
  | none => .error .keyNotFound

variable (host : Host) (culture : Culture)

def encodeKeyValue (entry : String × String) : List Char :=
  '[' :: entry.1.toList ++ '=' ::
    (culture.formatInt32 (.ofNat (utf16Length entry.2.toList))).toList ++ ':' ::
      entry.2.toList ++ [']']

def toString (m : PrefixedFixedLengthKeyValueMessage) : String :=
  .ofList (m.expectedPrefix.toList ++ m.values.flatMap (encodeKeyValue culture))

/-- The key and the value of a block, whose brackets are gone. -/
def parseBlock (block : List Char) : Option (String × String) :=
  match block.span (· ≠ '=') with
  | (key, '=' :: rest) =>
    if key = [] ∨ ':' ∈ key then none
    else match rest.span (· ≠ ':') with
      | (digits, ':' :: value) =>
        match host.parseInt32 (.ofList digits) with
        | some length =>
          if (utf16Length value : ℤ) = length.toInt then some (.ofList key, .ofList value)
          else none
        | none => none
      | _ => none
  | _ => none

/-- The loop of `TryParse` over the blocks. -/
def parseBlocks (entries : List (String × String)) :
    List Char → Option (List (String × String))
  | [] => some entries
  | c :: cs =>
    if c = '[' ∧ ']' ∈ cs then
      match parseBlock host (cs.takeWhile (· ≠ ']')) with
      | some (key, value) =>
        parseBlocks (setEntry key value entries) ((cs.dropWhile (· ≠ ']')).drop 1)
      | none => none
    else none
termination_by cs => cs.length
decreasing_by
  have hsuffix := (List.dropWhile_suffix (p := (· ≠ ']')) (l := cs)).length_le
  simp only [List.length_drop, List.length_cons]
  omega

/-- `TryParse`. -/
def tryParse (input : NetString) (expectedPrefix : String) :
    Option PrefixedFixedLengthKeyValueMessage :=
  match input with
  | none => none
  | some text =>
    if text = "" ∨ culture.startsWith text expectedPrefix = false then none
    else (parseBlocks host [] (substringFrom (utf16Length expectedPrefix.toList)
      text.toList)).map (⟨expectedPrefix, ·⟩)

/-! ### The round trip -/

section

variable {host : Host} {culture : Culture}

/-- Up to the first occurrence of a sign, and from it on. -/
theorem takeWhile_ne_append {c : Char} {cs ds : List Char} (h : c ∉ cs) :
    (cs ++ c :: ds).takeWhile (· ≠ c) = cs := by
  induction cs with
  | nil => simp
  | cons d cs ih =>
    obtain ⟨hd, hcs⟩ := not_or.mp (List.mem_cons.not.mp h)
    have hne : d ≠ c := fun heq => hd heq.symm
    rw [List.cons_append, List.takeWhile_cons_of_pos (by simpa using hne), ih hcs]

theorem dropWhile_ne_append {c : Char} {cs ds : List Char} (h : c ∉ cs) :
    (cs ++ c :: ds).dropWhile (· ≠ c) = c :: ds := by
  induction cs with
  | nil => simp
  | cons d cs ih =>
    obtain ⟨hd, hcs⟩ := not_or.mp (List.mem_cons.not.mp h)
    have hne : d ≠ c := fun heq => hd heq.symm
    rw [List.cons_append, List.dropWhile_cons_of_pos (by simpa using hne), ih hcs]

/-- An entry that can be told from its block: the signs of the format stay out of it. -/
structure Plain (entry : String × String) : Prop where
  key_ne : entry.1.toList ≠ []
  key_signs : '=' ∉ entry.1.toList ∧ ':' ∉ entry.1.toList ∧ ']' ∉ entry.1.toList
  value_sign : ']' ∉ entry.2.toList
  value_length : utf16Length entry.2.toList < 2 ^ 31

/-- An entry whose key can be told from its block. Its value may hold any sign. -/
structure Keyed (entry : String × String) : Prop where
  key_ne : entry.1.toList ≠ []
  key_signs : '=' ∉ entry.1.toList ∧ ':' ∉ entry.1.toList ∧ ']' ∉ entry.1.toList
  value_length : utf16Length entry.2.toList < 2 ^ 31

theorem Plain.keyed {entry : String × String} (h : Plain entry) : Keyed entry :=
  ⟨h.key_ne, h.key_signs, h.value_length⟩

/-- What stands in a block before the value. -/
def header (culture : Culture) (entry : String × String) : List Char :=
  entry.1.toList ++ '=' ::
    ((culture.formatInt32 (.ofNat (utf16Length entry.2.toList))).toList ++ [':'])

theorem encodeKeyValue_eq (entry : String × String) :
    encodeKeyValue culture entry = '[' :: (header culture entry ++ (entry.2.toList ++ [']'])) := by
  simp [encodeKeyValue, header]

theorem Keyed.notMem_header (hculture : culture.Reads host) {entry : String × String}
    (h : Keyed entry) : ']' ∉ header culture entry := by
  simp only [header, List.mem_append, List.mem_cons, List.not_mem_nil, or_false, not_or]
  exact ⟨h.key_signs.2.2, by decide, (hculture.notMem_format _).2, by decide⟩

/-- A block is taken when what follows its header is as long as the header says. -/
theorem Keyed.parseBlock_header (hculture : culture.Reads host) {entry : String × String}
    (h : Keyed entry) (value : List Char) :
    parseBlock host (header culture entry ++ value) =
      if utf16Length value = utf16Length entry.2.toList then some (entry.1, .ofList value)
      else none := by
  have hlength : (Int32.ofNat (utf16Length entry.2.toList)).toInt = utf16Length entry.2.toList :=
    Int32.toInt_ofNat_of_lt h.value_length
  have hheader : header culture entry ++ value = entry.1.toList ++ '=' ::
      ((culture.formatInt32 (.ofNat (utf16Length entry.2.toList))).toList ++ ':' :: value) := by
    simp [header]
  have hkey : ¬ (entry.1.toList = [] ∨ ':' ∈ entry.1.toList) :=
    not_or.mpr ⟨h.key_ne, h.key_signs.2.1⟩
  rw [parseBlock, List.span_eq_takeWhile_dropWhile, hheader, takeWhile_ne_append h.key_signs.1,
    dropWhile_ne_append h.key_signs.1]
  simp only [if_neg hkey, List.span_eq_takeWhile_dropWhile,
    takeWhile_ne_append (hculture.notMem_format _).1,
    dropWhile_ne_append (hculture.notMem_format _).1, String.ofList_toList,
    hculture.parse_format, hlength, Int.natCast_inj]

/-- A new key is appended. -/
theorem setEntry_of_forall_not {key value : String} {entries : List (String × String)}
    (h : ∀ entry ∈ entries, equalsIgnoreCase entry.1 key = false) :
    setEntry key value entries = entries ++ [(key, value)] := by
  induction entries with
  | nil => rfl
  | cons entry entries ih =>
    have hentry : equalsIgnoreCase entry.1 key = false := h entry List.mem_cons_self
    rw [setEntry, hentry, ih fun e he => h e (List.mem_cons_of_mem _ he)]
    rfl

/-- No two keys are equal but for their case, as in a dictionary that ignores it. -/
def DistinctKeys (entries : List (String × String)) : Prop :=
  entries.Pairwise fun a b => equalsIgnoreCase a.1 b.1 = false

theorem mem_fst_setEntry {key value : String} {entries : List (String × String)}
    {entry : String × String} (h : entry ∈ setEntry key value entries) :
    entry.1 = key ∨ ∃ e ∈ entries, e.1 = entry.1 := by
  induction entries with
  | nil => exact .inl (congrArg Prod.fst (List.mem_singleton.mp h))
  | cons e entries ih =>
    rw [setEntry] at h
    split at h
    · obtain rfl | h := List.mem_cons.mp h
      · exact .inr ⟨e, List.mem_cons_self, rfl⟩
      · exact .inr ⟨entry, List.mem_cons_of_mem _ h, rfl⟩
    · obtain rfl | h := List.mem_cons.mp h
      · exact .inr ⟨entry, List.mem_cons_self, rfl⟩
      · exact (ih h).imp_right fun ⟨e', he', heq⟩ => ⟨e', List.mem_cons_of_mem _ he', heq⟩

theorem DistinctKeys.setEntry {key value : String} {entries : List (String × String)}
    (h : DistinctKeys entries) : DistinctKeys (setEntry key value entries) := by
  induction entries with
  | nil => exact List.pairwise_singleton _ _
  | cons e entries ih =>
    obtain ⟨hhead, htail⟩ := List.pairwise_cons.mp h
    unfold PrefixedFixedLengthKeyValueMessage.setEntry
    split
    · exact List.pairwise_cons.mpr ⟨hhead, htail⟩
    · next hne =>
      refine List.pairwise_cons.mpr ⟨fun entry hentry => ?_, ih htail⟩
      obtain heq | ⟨e', he', heq⟩ := mem_fst_setEntry hentry
      · rw [heq]
        exact Bool.not_eq_true _ ▸ hne
      · rw [← heq]
        exact hhead e' he'

theorem add_distinctKeys {m : PrefixedFixedLengthKeyValueMessage} (h : DistinctKeys m.values)
    (key : String) (value : NetString) : DistinctKeys (m.add key value).values :=
  h.setEntry

/-- The block of an entry whose value has no closing bracket. -/
theorem parseBlocks_append (hculture : culture.Reads host) {entries : List (String × String)}
    {entry : String × String} (h : Keyed entry) (hvalue : ']' ∉ entry.2.toList)
    (hkeys : ∀ e ∈ entries, equalsIgnoreCase e.1 entry.1 = false) (cs : List Char) :
    parseBlocks host entries (encodeKeyValue culture entry ++ cs) =
      parseBlocks host (entries ++ [entry]) cs := by
  have hblock : ']' ∉ header culture entry ++ entry.2.toList :=
    List.mem_append.not.mpr (not_or.mpr ⟨h.notMem_header hculture, hvalue⟩)
  have htext : encodeKeyValue culture entry ++ cs =
      '[' :: ((header culture entry ++ entry.2.toList) ++ ']' :: cs) := by
    simp [encodeKeyValue_eq]
  have hmem : ']' ∈ (header culture entry ++ entry.2.toList) ++ ']' :: cs :=
    List.mem_append_right _ List.mem_cons_self
  rw [htext, parseBlocks, if_pos ⟨rfl, hmem⟩, takeWhile_ne_append hblock,
    h.parseBlock_header hculture, if_pos rfl, dropWhile_ne_append hblock]
  change parseBlocks host (setEntry entry.1 (.ofList entry.2.toList) entries) cs = _
  rw [String.ofList_toList, setEntry_of_forall_not hkeys]

theorem utf16Length_append (cs ds : List Char) :
    utf16Length (cs ++ ds) = utf16Length cs + utf16Length ds := by
  induction cs with
  | nil => simp [utf16Length]
  | cons c cs ih =>
    have hcons : ∀ l, utf16Length (c :: l) = utf16Units c + utf16Length l := fun _ => rfl
    rw [List.cons_append, hcons, hcons, ih, Nat.add_assoc]

/-- A closing bracket in a value ends its block too early: what is left is too short. -/
theorem parseBlocks_append_of_mem (hculture : culture.Reads host)
    {entries : List (String × String)} {entry : String × String} (h : Keyed entry)
    (hvalue : ']' ∈ entry.2.toList) (cs : List Char) :
    parseBlocks host entries (encodeKeyValue culture entry ++ cs) = none := by
  obtain ⟨before, after, hsplit, hbefore⟩ := List.eq_append_cons_of_mem hvalue
  have hblock : ']' ∉ header culture entry ++ before :=
    List.mem_append.not.mpr (not_or.mpr ⟨h.notMem_header hculture, hbefore⟩)
  have htext : encodeKeyValue culture entry ++ cs =
      '[' :: ((header culture entry ++ before) ++ ']' :: (after ++ ']' :: cs)) := by
    simp [encodeKeyValue_eq, hsplit]
  have hmem : ']' ∈ (header culture entry ++ before) ++ ']' :: (after ++ ']' :: cs) :=
    List.mem_append_right _ List.mem_cons_self
  have hshort : utf16Length before ≠ utf16Length entry.2.toList := by
    have hbracket : utf16Length (']' :: after) = 1 + utf16Length after := rfl
    rw [hsplit, utf16Length_append, hbracket]
    omega
  rw [htext, parseBlocks, if_pos ⟨rfl, hmem⟩, takeWhile_ne_append hblock,
    h.parseBlock_header hculture, if_neg hshort]

/-- The loop over the blocks of a message: it is stopped by the first closing bracket that a value
holds. -/
theorem parseBlocks_flatMap (hculture : culture.Reads host) {entries rest : List (String × String)}
    (hkeyed : ∀ entry ∈ rest, Keyed entry) (hkeys : DistinctKeys (entries ++ rest)) :
    parseBlocks host entries (rest.flatMap (encodeKeyValue culture)) =
      if ∀ entry ∈ rest, ']' ∉ entry.2.toList then some (entries ++ rest) else none := by
  induction rest generalizing entries with
  | nil => simp [parseBlocks]
  | cons entry rest ih =>
    have hentry : Keyed entry := hkeyed entry List.mem_cons_self
    rw [List.flatMap_cons]
    by_cases hvalue : ']' ∈ entry.2.toList
    · rw [parseBlocks_append_of_mem hculture hentry hvalue, if_neg]
      exact fun h => h entry List.mem_cons_self hvalue
    · have hnew : ∀ e ∈ entries, equalsIgnoreCase e.1 entry.1 = false := fun e he =>
        (List.pairwise_append.mp hkeys).2.2 e he entry List.mem_cons_self
      have happend : entries ++ entry :: rest = (entries ++ [entry]) ++ rest := by simp
      have hall : (∀ e ∈ entry :: rest, ']' ∉ e.2.toList) ↔ ∀ e ∈ rest, ']' ∉ e.2.toList := by
        rw [List.forall_mem_cons, and_iff_right hvalue]
      rw [happend] at hkeys ⊢
      rw [parseBlocks_append hculture hentry hvalue hnew,
        ih (fun e he => hkeyed e (List.mem_cons_of_mem _ he)) hkeys]
      simp only [hall]

theorem substringFrom_utf16Length (cs ds : List Char) :
    substringFrom (utf16Length cs) (cs ++ ds) = ds := by
  induction cs with
  | nil => cases ds <;> rfl
  | cons c cs ih =>
    have hpos : 0 < utf16Units c := by
      unfold utf16Units
      split <;> omega
    have hlength : utf16Length (c :: cs) = utf16Units c + utf16Length cs := by
      simp [utf16Length]
    obtain ⟨n, hn⟩ : ∃ n, utf16Units c + utf16Length cs = n + 1 :=
      ⟨utf16Units c + utf16Length cs - 1, by omega⟩
    have hle : utf16Units c ≤ n + 1 := by omega
    have hrest : n + 1 - utf16Units c = utf16Length cs := by omega
    rw [hlength, hn, List.cons_append, substringFrom, if_pos hle, hrest, ih]

theorem tryParse_toString_eq (hculture : culture.Reads host)
    {m : PrefixedFixedLengthKeyValueMessage}
    (hstart : culture.startsWith (m.toString culture) m.expectedPrefix = true)
    (hne : m.toString culture ≠ "") (hkeyed : ∀ entry ∈ m.values, Keyed entry)
    (hkeys : DistinctKeys m.values) :
    tryParse host culture (some (m.toString culture)) m.expectedPrefix =
      if ∀ entry ∈ m.values, ']' ∉ entry.2.toList then some m else none := by
  have hguard : ¬ (m.toString culture = "" ∨
      culture.startsWith (m.toString culture) m.expectedPrefix = false) := by
    rw [hstart]
    simpa using hne
  have htext : (m.toString culture).toList =
      m.expectedPrefix.toList ++ m.values.flatMap (encodeKeyValue culture) :=
    String.toList_ofList
  have hblocks : parseBlocks host [] (m.values.flatMap (encodeKeyValue culture)) =
      if ∀ entry ∈ m.values, ']' ∉ entry.2.toList then some m.values else none :=
    parseBlocks_flatMap hculture hkeyed hkeys
  rw [tryParse]
  simp only [if_neg hguard, htext, substringFrom_utf16Length, hblocks]
  split <;> rfl

/-- **A message is read back as it was.** -/
theorem tryParse_toString (hculture : culture.Reads host)
    {m : PrefixedFixedLengthKeyValueMessage}
    (hstart : culture.startsWith (m.toString culture) m.expectedPrefix = true)
    (hne : m.toString culture ≠ "") (hplain : ∀ entry ∈ m.values, Plain entry)
    (hkeys : m.values.Pairwise fun a b => equalsIgnoreCase a.1 b.1 = false) :
    tryParse host culture (some (m.toString culture)) m.expectedPrefix = some m := by
  rw [tryParse_toString_eq hculture hstart hne (fun e he => (hplain e he).keyed) hkeys, if_pos]
  exact fun e he => (hplain e he).value_sign

theorem toString_ne_empty {m : PrefixedFixedLengthKeyValueMessage} (h : m.expectedPrefix ≠ "") :
    m.toString culture ≠ "" := by
  intro hempty
  have htext : m.expectedPrefix.toList ++ m.values.flatMap (encodeKeyValue culture) = [] := by
    rw [← String.toList_ofList (l := _ ++ _)]
    exact congrArg String.toList hempty
  exact h (String.toList_eq_nil_iff.mp (List.append_eq_nil_iff.mp htext).1)

/-- The message is read back, with the same map. -/
def RoundTrips (host : Host) (culture : Culture) (m : PrefixedFixedLengthKeyValueMessage) : Prop :=
  ∃ m', tryParse host culture (some (m.toString culture)) m.expectedPrefix = some m' ∧
    ∀ key, m'.tryGetValue key = m.tryGetValue key

/-- **A message is read back just when none of its values holds a closing bracket**, whatever else
they hold: the parser looks for the end of a block and does not count the value. -/
theorem roundTrips_iff (hculture : culture.Reads host) {m : PrefixedFixedLengthKeyValueMessage}
    (hpre : m.expectedPrefix ≠ "")
    (hstart : culture.startsWith (m.toString culture) m.expectedPrefix = true)
    (hkeyed : ∀ entry ∈ m.values, Keyed entry) (hkeys : DistinctKeys m.values) :
    RoundTrips host culture m ↔ ∀ entry ∈ m.values, ']' ∉ entry.2.toList := by
  have hparse := tryParse_toString_eq hculture hstart (toString_ne_empty hpre) hkeyed hkeys
  constructor
  · rintro ⟨m', hm', -⟩
    by_contra h
    rw [hparse, if_neg h] at hm'
    cases hm'
  · intro h
    exact ⟨m, by rw [hparse, if_pos h], fun _ => rfl⟩

/-- A host that reads plain numbers. -/
def decimalHost : Host := { (default : Host) with parseInt32 := parseDecimal }

/-- The name of a file in a message, with the signs that the format itself uses. -/
def pathMessage (path : String) : PrefixedFixedLengthKeyValueMessage := ⟨"Lib3Dp", [("Path", path)]⟩

theorem keyed_pathMessage (path : String) (h : utf16Length path.toList < 2 ^ 31) :
    ∀ entry ∈ (pathMessage path).values, Keyed entry := by
  intro entry hentry
  obtain rfl := List.mem_singleton.mp hentry
  exact ⟨show "Path".toList ≠ [] by decide,
    show '=' ∉ "Path".toList ∧ ':' ∉ "Path".toList ∧ ']' ∉ "Path".toList by decide, h⟩

theorem roundTrips_opening_bracket : RoundTrips decimalHost .ordinal (pathMessage "[a=1:b") :=
  (roundTrips_iff (Culture.ordinal_reads rfl) (by decide) (by decide)
    (keyed_pathMessage _ (by decide)) (List.pairwise_singleton _ _)).mpr (by decide)

/-- A name with brackets is not read back. -/
theorem roundTrips_fails :
    (∀ entry ∈ (pathMessage "cube[v2].3mf").values, Keyed entry) ∧
      DistinctKeys (pathMessage "cube[v2].3mf").values ∧ Culture.ordinal.Reads decimalHost ∧
      ¬ RoundTrips decimalHost .ordinal (pathMessage "cube[v2].3mf") := by
  have hkeyed := keyed_pathMessage "cube[v2].3mf" (by decide)
  refine ⟨hkeyed, List.pairwise_singleton _ _, Culture.ordinal_reads rfl, ?_⟩
  rintro ⟨m', hm', -⟩
  rw [tryParse_toString_eq (Culture.ordinal_reads rfl) (by decide) (toString_ne_empty (by decide))
    hkeyed (List.pairwise_singleton _ _), if_neg (by decide)] at hm'
  cases hm'

end

end PrefixedFixedLengthKeyValueMessage

end Connect3Dp
