import Connect3Dp.Runtime.Json

/-!
# Arithmetic with a rounding hook

The operations on doubles and the conversions to time spans, with a hook `rnd` through which every
result passes. The runtime's hook is `Double.ofRat`; under `Double.finite` nothing is rounded, and
the arithmetic is that of the rationals, except that a quotient by zero is infinite.
-/

namespace Connect3Dp

variable (rnd : ℚ → Double)

namespace Double

def subWith : Double → Double → Double
  | .finite a, .finite b => rnd (a - b)
  | a, b => a.sub b

def mulWith : Double → Double → Double
  | .finite a, .finite b => rnd (a * b)
  | a, b => a.mul b

def divWith : Double → Double → Double
  | .finite a, .finite b => if b = 0 then (finite a).div (finite b) else rnd (a / b)
  | a, b => a.div b

theorem subWith_ofRat (a b : Double) : subWith ofRat a b = a.sub b := by
  cases a with
  | finite a =>
    cases b with
    | finite b => rw [subWith, sub_eq_add_neg]; rfl
    | infinite negative => rfl
    | nan => rfl
  | infinite negative => rfl
  | nan => rfl

theorem mulWith_ofRat (a b : Double) : mulWith ofRat a b = a.mul b := by
  cases a with
  | finite a => cases b <;> rfl
  | infinite negative => rfl
  | nan => rfl

theorem divWith_ofRat (a b : Double) : divWith ofRat a b = a.div b := by
  cases a with
  | finite a =>
    cases b with
    | finite b =>
      rw [divWith, div]
      split
      · rfl
      · rfl
    | infinite negative => rfl
    | nan => rfl
  | infinite negative => rfl
  | nan => rfl

theorem truncate_intCast (k : ℤ) : truncate k = k := by
  rw [truncate, Int.floor_intCast, Int.ceil_intCast, ite_self]

theorem truncate_bounds {q : ℚ} {k : ℤ} (h : |q| < k) : -k < truncate q ∧ truncate q < k := by
  obtain ⟨hlow, hhigh⟩ := abs_lt.mp h
  have hlow' : ((-k : ℤ) : ℚ) < q := by rwa [Int.cast_neg]
  have hk : 0 < k := by exact_mod_cast (abs_nonneg q).trans_lt h
  rw [truncate]
  split
  · rename_i hnonneg
    have hfloor : 0 ≤ ⌊q⌋ := Int.floor_nonneg.mpr hnonneg
    exact ⟨by omega, Int.floor_lt.mpr hhigh⟩
  · rename_i hneg
    have hceil : ⌈q⌉ ≤ 0 := Int.ceil_le.mpr (by rw [Int.cast_zero]; exact (not_le.mp hneg).le)
    exact ⟨Int.lt_ceil.mpr hlow', by omega⟩

theorem toInt_toInt32_finite {q : ℚ} :
    (toInt32 (finite q)).toInt = Max.max (-2 ^ 31) (Min.min (2 ^ 31 - 1) (truncate q)) := by
  rw [toInt32, Int32.toInt_ofInt_of_le (by omega) (by omega)]

end Double

namespace TimeSpan

/-- `Interval(double, double)`. -/
def intervalWith (value : Double) (ticksPerUnit : ℤ) : Except Fault TimeSpan :=
  match value, Double.mulWith rnd value (rnd ticksPerUnit) with
  | .nan, _ => .error .argument
  | _, .finite ticks =>
    if 2 ^ 63 < ticks ∨ ticks < -2 ^ 63 then .error .overflow
    else if ticks = 2 ^ 63 then .ok ⟨.ofInt (2 ^ 63 - 1)⟩
    else .ok ⟨.ofInt (Double.truncate ticks)⟩
  | _, _ => .error .overflow

/-- `TotalSeconds`. -/
def totalSecondsWith (t : TimeSpan) : Double :=
  Double.divWith rnd (rnd t.ticks.toInt) (rnd ticksPerSecond)

theorem intervalWith_ofRat (value : Double) (ticksPerUnit : ℤ) :
    intervalWith .ofRat value ticksPerUnit = interval value ticksPerUnit := by
  unfold intervalWith interval
  rw [Double.mulWith_ofRat]
  rfl

theorem totalSecondsWith_ofRat (t : TimeSpan) : totalSecondsWith .ofRat t = t.totalSeconds :=
  Double.divWith_ofRat ..

/-- **A conversion in rational arithmetic** keeps the whole ticks, if they are in range. -/
theorem intervalWith_finite (q : ℚ) (ticksPerUnit : ℤ) (h : |q * ticksPerUnit| < 2 ^ 63) :
    ∃ t, intervalWith .finite (.finite q) ticksPerUnit = .ok t ∧
      t.ticks.toInt = Double.truncate (q * ticksPerUnit) := by
  obtain ⟨hlow, hhigh⟩ := abs_lt.mp h
  have hinterval : intervalWith .finite (.finite q) ticksPerUnit =
      if 2 ^ 63 < q * ticksPerUnit ∨ q * ticksPerUnit < -2 ^ 63 then .error .overflow
      else if q * ticksPerUnit = 2 ^ 63 then .ok ⟨.ofInt (2 ^ 63 - 1)⟩
      else .ok ⟨.ofInt (Double.truncate (q * ticksPerUnit))⟩ := rfl
  rw [hinterval, if_neg (not_or.mpr ⟨hhigh.not_gt, hlow.not_gt⟩), if_neg hhigh.ne]
  obtain ⟨hlow', hhigh'⟩ := Double.truncate_bounds (k := 2 ^ 63) (by exact_mod_cast h)
  exact ⟨_, rfl, Int64.toInt_ofInt_of_le hlow'.le hhigh'⟩

end TimeSpan

/-- A number, read as an integer first. -/
def JsonElement.getInt64OrDoubleWith (e : JsonElement) : Except Fault Double := do
  match ← e.tryGetInt64 with
  | some n => return rnd n.toInt
  | none => e.getDouble

end Connect3Dp
