import Connect3Dp.Runtime.Arithmetic
import Connect3Dp.Runtime.KeyValueMessage

/-!
# Time spans as text

The constant format of a time span is `[-][d.]hh:mm:ss[.fffffff]`. `parse_format` says that every
time span is read back from it.
-/

namespace Connect3Dp

/-! ### Digits -/

/-- The last digits of a number. -/
def padDigits : ℕ → ℕ → List Char
  | 0, _ => []
  | width + 1, n => padDigits width (n / 10) ++ [Nat.digitChar (n % 10)]

/-- So many digits, and the text after them. -/
def readDigits (width : ℕ) (cs : List Char) : Option (ℕ × List Char) :=
  if (cs.take width).length = width ∧ (cs.take width).all Char.isDigit then
    some (Nat.ofDigitChars 10 (cs.take width) 0, cs.drop width)
  else none

def readChar (c : Char) : List Char → Option (List Char)
  | [] => none
  | d :: cs => if d = c then some cs else none

@[simp]
theorem readChar_cons (c : Char) (cs : List Char) : readChar c (c :: cs) = some cs := if_pos rfl

theorem readChar_cons_of_ne {c d : Char} (h : d ≠ c) (cs : List Char) :
    readChar c (d :: cs) = none := if_neg h

theorem length_padDigits (width n : ℕ) : (padDigits width n).length = width := by
  induction width generalizing n with
  | zero => rfl
  | succ width ih => rw [padDigits, List.length_append, ih, List.length_singleton]

theorem isDigit_of_mem_padDigits {width n : ℕ} {c : Char} (h : c ∈ padDigits width n) :
    c.isDigit = true := by
  induction width generalizing n with
  | zero => exact absurd h List.not_mem_nil
  | succ width ih =>
    rw [padDigits, List.mem_append, List.mem_singleton] at h
    obtain h | rfl := h
    · exact ih h
    · rw [Nat.isDigit_digitChar]
      exact decide_eq_true (Nat.mod_lt n (by decide))

theorem ofDigitChars_padDigits {width n : ℕ} (h : n < 10 ^ width) :
    Nat.ofDigitChars 10 (padDigits width n) 0 = n := by
  induction width generalizing n with
  | zero =>
    rw [pow_zero, Nat.lt_one_iff] at h
    rw [h]
    rfl
  | succ width ih =>
    rw [pow_succ] at h
    rw [padDigits, Nat.ofDigitChars_append, ih (by omega),
      Nat.ofDigitChars_cons_digitChar_of_lt_ten (Nat.mod_lt n (by decide)), Nat.ofDigitChars_nil]
    omega

theorem readDigits_padDigits {width n : ℕ} (h : n < 10 ^ width) (cs : List Char) :
    readDigits width (padDigits width n ++ cs) = some (n, cs) := by
  have htake : (padDigits width n ++ cs).take width = padDigits width n :=
    List.take_left' (length_padDigits width n)
  have hdrop : (padDigits width n ++ cs).drop width = cs :=
    List.drop_left' (length_padDigits width n)
  rw [readDigits, htake, hdrop, ofDigitChars_padDigits h]
  exact if_pos ⟨length_padDigits width n, List.all_eq_true.mpr fun _ => isDigit_of_mem_padDigits⟩

namespace TimeSpan

/-! ### The constant format -/

/-- `hh:mm:ss[.fffffff]`, of less than a day. -/
def formatTime (ticks : ℕ) : List Char :=
  padDigits 2 (ticks / 36000000000) ++ ':' :: padDigits 2 (ticks / 600000000 % 60) ++
    ':' :: padDigits 2 (ticks / 10000000 % 60) ++
      if ticks % 10000000 = 0 then [] else '.' :: padDigits 7 (ticks % 10000000)

/-- `[d.]hh:mm:ss[.fffffff]`. -/
def formatTicks (ticks : ℕ) : List Char :=
  (if ticks < 864000000000 then [] else Nat.toDigits 10 (ticks / 864000000000) ++ ['.']) ++
    formatTime (ticks % 864000000000)

/-- `ToString("c")`. -/
def format (t : TimeSpan) : String :=
  .ofList ((if t.ticks.toInt < 0 then ['-'] else []) ++ formatTicks t.ticks.toInt.natAbs)

/-- The fraction of a second, which may be left out. Nothing comes after it. -/
def readFraction : List Char → Option ℕ
  | [] => some 0
  | cs => do
    let (fraction, rest) ← readDigits 7 (← readChar '.' cs)
    if rest = [] then some fraction else none

def readTime (cs : List Char) : Option ℕ := do
  let (hours, cs) ← readDigits 2 cs
  let (minutes, cs) ← readDigits 2 (← readChar ':' cs)
  let (seconds, cs) ← readDigits 2 (← readChar ':' cs)
  let fraction ← readFraction cs
  if hours < 24 ∧ minutes < 60 ∧ seconds < 60 then
    some (((hours * 60 + minutes) * 60 + seconds) * 10000000 + fraction)
  else none

/-- A text that has a point after its first digits begins with days. -/
def readTicks (cs : List Char) : Option ℕ :=
  let days := cs.takeWhile Char.isDigit
  match readChar '.' (cs.dropWhile Char.isDigit) with
  | some rest =>
    if days = [] then none
    else (Nat.ofDigitChars 10 days 0 * 864000000000 + ·) <$> readTime rest
  | none => readTime cs

/-- A number of ticks that is in range. -/
def ofTicks (ticks : ℤ) : Option TimeSpan :=
  if -2 ^ 63 ≤ ticks ∧ ticks < 2 ^ 63 then some ⟨.ofInt ticks⟩ else none

/-- A text in the constant format. -/
def parse (s : String) : Option TimeSpan :=
  match readChar '-' s.toList with
  | some cs => do ofTicks (-(← readTicks cs))
  | none => do ofTicks (← readTicks s.toList)

/-! ### Reading what was written -/

theorem readFraction_format {fraction : ℕ} (h : fraction < 10 ^ 7) :
    readFraction (if fraction = 0 then [] else '.' :: padDigits 7 fraction) = some fraction := by
  split
  · rename_i hzero
    rw [hzero]
    rfl
  · have hread := readDigits_padDigits h []
    rw [List.append_nil] at hread
    simp [readFraction, hread]

theorem readTime_formatTime {ticks : ℕ} (h : ticks < 864000000000) :
    readTime (formatTime ticks) = some ticks := by
  have hhours : ticks / 36000000000 < 24 := by omega
  have hminutes : ticks / 600000000 % 60 < 60 := Nat.mod_lt _ (by decide)
  have hseconds : ticks / 10000000 % 60 < 60 := Nat.mod_lt _ (by decide)
  have hfraction := readFraction_format (Nat.mod_lt ticks (by decide : 0 < 10 ^ 7))
  have hsum : ((ticks / 36000000000 * 60 + ticks / 600000000 % 60) * 60 +
      ticks / 10000000 % 60) * 10000000 + ticks % 10000000 = ticks := by omega
  simp only [readTime, formatTime, List.append_assoc, List.cons_append,
    readDigits_padDigits (show ticks / 36000000000 < 10 ^ 2 by omega),
    readDigits_padDigits (show ticks / 600000000 % 60 < 10 ^ 2 by omega),
    readDigits_padDigits (show ticks / 10000000 % 60 < 10 ^ 2 by omega),
    readChar_cons, Option.bind_eq_bind, Option.bind_some]
  rw [show (10 : ℕ) ^ 7 = 10000000 from rfl] at hfraction
  rw [hfraction, Option.bind_some, if_pos ⟨hhours, hminutes, hseconds⟩, hsum]

/-- Digits that something else comes after. -/
theorem takeWhile_digits {digits : List Char} (h : ∀ c ∈ digits, c.isDigit = true) {c : Char}
    (hc : c.isDigit = false) (cs : List Char) :
    (digits ++ c :: cs).takeWhile Char.isDigit = digits ∧
      (digits ++ c :: cs).dropWhile Char.isDigit = c :: cs := by
  have htake : (c :: cs).takeWhile Char.isDigit = [] :=
    List.takeWhile_cons_of_neg (ne_true_of_eq_false hc)
  have hdrop : (c :: cs).dropWhile Char.isDigit = c :: cs :=
    List.dropWhile_cons_of_neg (ne_true_of_eq_false hc)
  constructor
  · rw [List.takeWhile_append_of_pos h, htake, List.append_nil]
  · rw [List.dropWhile_append_of_pos h, hdrop]

theorem formatTime_eq (ticks : ℕ) : ∃ cs,
    formatTime ticks = padDigits 2 (ticks / 36000000000) ++ ':' :: cs := by
  rw [formatTime, List.append_assoc, List.cons_append]
  exact ⟨_, rfl⟩

/-- Without days. -/
theorem readTicks_formatTime (ticks : ℕ) :
    readTicks (formatTime ticks) = readTime (formatTime ticks) := by
  obtain ⟨cs, hcs⟩ := formatTime_eq ticks
  obtain ⟨-, hdrop⟩ := takeWhile_digits
    (fun c (hc : c ∈ padDigits 2 (ticks / 36000000000)) => isDigit_of_mem_padDigits hc)
    (by decide : ':'.isDigit = false) cs
  have hpoint : readChar '.' ((formatTime ticks).dropWhile Char.isDigit) = none := by
    rw [hcs, hdrop]
    exact readChar_cons_of_ne (by decide) cs
  rw [readTicks, hpoint]

theorem readTicks_days (days : ℕ) (rest : List Char) :
    readTicks (Nat.toDigits 10 days ++ '.' :: rest) =
      (days * 864000000000 + ·) <$> readTime rest := by
  obtain ⟨htake, hdrop⟩ := takeWhile_digits
    (fun c (hc : c ∈ Nat.toDigits 10 days) => isDigit_of_mem_toDigits hc)
    (by decide : '.'.isDigit = false) rest
  rw [readTicks, htake, hdrop, readChar_cons]
  dsimp only
  rw [if_neg Nat.toDigits_ne_nil, Nat.ofDigitChars_ten_toDigits]

theorem readTicks_formatTicks (ticks : ℕ) : readTicks (formatTicks ticks) = some ticks := by
  have htime := readTime_formatTime (Nat.mod_lt ticks (by decide : 0 < 864000000000))
  rw [formatTicks]
  by_cases hday : ticks < 864000000000
  · rw [if_pos hday, List.nil_append, readTicks_formatTime, htime, Nat.mod_eq_of_lt hday]
  · rw [if_neg hday, List.append_assoc, List.singleton_append, readTicks_days, htime]
    exact congrArg some (Nat.div_add_mod' ticks 864000000000)

/-- A text without a sign begins with a digit. -/
theorem formatTicks_eq_cons (ticks : ℕ) :
    ∃ c cs, formatTicks ticks = c :: cs ∧ c.isDigit = true := by
  have hhead : ∀ {digits : List Char} (cs : List Char), digits ≠ [] →
      (∀ c ∈ digits, c.isDigit = true) → ∃ c cs', digits ++ cs = c :: cs' ∧ c.isDigit = true := by
    intro digits cs hne hall
    obtain ⟨c, digits, rfl⟩ := List.exists_cons_of_ne_nil hne
    exact ⟨c, digits ++ cs, rfl, hall c List.mem_cons_self⟩
  rw [formatTicks]
  split
  · obtain ⟨cs, hcs⟩ := formatTime_eq (ticks % 864000000000)
    rw [List.nil_append, hcs]
    exact hhead _ (List.ne_nil_of_length_eq_add_one (length_padDigits 2 _))
      fun c => isDigit_of_mem_padDigits
  · rw [List.append_assoc]
    exact hhead _ Nat.toDigits_ne_nil fun c => isDigit_of_mem_toDigits

/-- **A time span is read back** from the constant format. -/
theorem parse_format (t : TimeSpan) : parse t.format = some t := by
  have hrange : -2 ^ 63 ≤ t.ticks.toInt ∧ t.ticks.toInt < 2 ^ 63 :=
    ⟨t.ticks.le_toInt, t.ticks.toInt_lt⟩
  have hticks : ofTicks t.ticks.toInt = some t := by
    rw [ofTicks, if_pos hrange, Int64.ofInt_toInt]
  rw [parse, format, String.toList_ofList]
  by_cases hneg : t.ticks.toInt < 0
  · have habs : -(t.ticks.toInt.natAbs : ℤ) = t.ticks.toInt := by omega
    rw [if_pos hneg, List.singleton_append, readChar_cons]
    dsimp only
    rw [readTicks_formatTicks, Option.bind_eq_bind, Option.bind_some, habs, hticks]
  · have habs : (t.ticks.toInt.natAbs : ℤ) = t.ticks.toInt := by omega
    obtain ⟨c, cs, hcs, hdigit⟩ := formatTicks_eq_cons t.ticks.toInt.natAbs
    have hsign : readChar '-' (formatTicks t.ticks.toInt.natAbs) = none := by
      have hne : c ≠ '-' := by
        rintro rfl
        exact absurd hdigit (by decide)
      rw [hcs, readChar_cons_of_ne hne]
    rw [if_neg hneg, List.nil_append, hsign]
    dsimp only
    rw [readTicks_formatTicks, Option.bind_eq_bind, Option.bind_some, habs, hticks]

/-- A text in the constant format begins with a digit or a minus sign. -/
theorem parse_cons_eq_none {c : Char} (hdigit : c.isDigit = false) (hsign : c ≠ '-')
    (cs : List Char) : parse (.ofList (c :: cs)) = none := by
  have hread : readDigits 2 (c :: cs) = none := by
    refine if_neg fun h => ?_
    have hall := List.all_eq_true.mp h.2 c List.mem_cons_self
    exact absurd hall (ne_true_of_eq_false hdigit)
  have htime : readTime (c :: cs) = none := by
    rw [readTime, hread]
    rfl
  have hticks : readTicks (c :: cs) = none := by
    rw [readTicks, List.takeWhile_cons_of_neg (ne_true_of_eq_false hdigit),
      List.dropWhile_cons_of_neg (ne_true_of_eq_false hdigit)]
    split
    · rfl
    · exact htime
  rw [parse, String.toList_ofList, readChar_cons_of_ne hsign]
  dsimp only
  rw [hticks]
  rfl

end TimeSpan

end Connect3Dp
