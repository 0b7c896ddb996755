import Connect3Dp.Runtime.Values
import Mathlib.Algebra.Order.Field.Rat
import Mathlib.Data.Int.Log
import Mathlib.Data.Rat.Floor

/-!
# Arithmetic of doubles and time spans

Every operation on doubles is the exact one on rationals, rounded to the nearest double
(`Double.ofRat`). `Double` does not tell the two zeros apart, so a division by zero takes the
zero to be the positive one.
-/

namespace Connect3Dp

/-- The integer nearest to a rational, and the even one of two. -/
def roundHalfEven (q : ℚ) : ℤ :=
  if q - ⌊q⌋ < 1 / 2 then ⌊q⌋
  else if 1 / 2 < q - ⌊q⌋ then ⌊q⌋ + 1
  else if ⌊q⌋ % 2 = 0 then ⌊q⌋ else ⌊q⌋ + 1

@[simp]
theorem roundHalfEven_intCast (n : ℤ) : roundHalfEven n = n := by
  rw [roundHalfEven, Int.floor_intCast, sub_self, if_pos (by norm_num)]

namespace Double

/-- The exponent of the last binary place of the doubles around a rational. -/
def lastPlace (q : ℚ) : ℤ := max (Int.log 2 |q| - 52) (-1074)

/-- The double nearest to a rational. -/
def ofRat (q : ℚ) : Double :=
  let r := roundHalfEven (q / 2 ^ lastPlace q) * (2 : ℚ) ^ lastPlace q
  if |r| < 2 ^ 1024 then .finite r else .infinite (q < 0)

/-- The conversion from an integer type. -/
def ofInt (n : ℤ) : Double := ofRat n

theorem lastPlace_nonpos {n : ℤ} (h : |n| < 2 ^ 53) : lastPlace n ≤ 0 := by
  rw [lastPlace, max_le_iff]
  refine ⟨?_, by norm_num⟩
  rcases eq_or_ne n 0 with rfl | hn
  · norm_num
  · have hlog : Int.log 2 |(n : ℚ)| < 53 := by
      rw [← Int.lt_zpow_iff_log_lt (by norm_num) (by positivity)]
      exact_mod_cast h
    omega

/-- An integer of at most 53 bits is a double. -/
theorem ofInt_of_abs_lt {n : ℤ} (h : |n| < 2 ^ 53) : ofInt n = .finite n := by
  obtain ⟨k, hk⟩ := Int.eq_ofNat_of_zero_le (neg_nonneg.mpr (lastPlace_nonpos h))
  have hplace : lastPlace n = -(k : ℤ) := by omega
  have hscaled : (n : ℚ) / 2 ^ lastPlace n = ((n * 2 ^ k : ℤ) : ℚ) := by
    rw [hplace, zpow_neg, div_inv_eq_mul, zpow_natCast]
    push_cast
    rfl
  have hr : roundHalfEven ((n : ℚ) / 2 ^ lastPlace n) * (2 : ℚ) ^ lastPlace n = n := by
    rw [hscaled, roundHalfEven_intCast, ← hscaled, div_mul_cancel₀ _ (zpow_ne_zero _ two_ne_zero)]
  have hsmall : |(n : ℚ)| < 2 ^ 1024 := by
    calc |(n : ℚ)| < 2 ^ 53 := by exact_mod_cast h
      _ ≤ 2 ^ 1024 := by gcongr <;> norm_num
  rw [ofInt, ofRat]
  simp only [hr, if_pos hsmall]

/-- The operator `<`. -/
def lt : Double → Double → Bool
  | .nan, _ | _, .nan => false
  | .finite a, .finite b => a < b
  | .finite _, .infinite negative => !negative
  | .infinite negative, .finite _ => negative
  | .infinite negative, .infinite negative' => negative && !negative'

/-- The operator `<=`, which is false of a `NaN`. -/
def le : Double → Double → Bool
  | .nan, _ | _, .nan => false
  | a, b => a.lt b || a = b

def isNegative : Double → Bool
  | .finite q => q < 0
  | .infinite negative => negative
  | .nan => false

def neg : Double → Double
  | .finite q => .finite (-q)
  | .infinite negative => .infinite !negative
  | .nan => .nan

def add : Double → Double → Double
  | .nan, _ | _, .nan => .nan
  | .finite a, .finite b => ofRat (a + b)
  | .finite _, .infinite negative => .infinite negative
  | .infinite negative, .finite _ => .infinite negative
  | .infinite negative, .infinite negative' =>
    if negative = negative' then .infinite negative else .nan

def sub (a b : Double) : Double := add a b.neg

def mul : Double → Double → Double
  | .nan, _ | _, .nan => .nan
  | .finite a, .finite b => ofRat (a * b)
  | .finite a, .infinite negative => if a = 0 then .nan else .infinite (negative != (a < 0))
  | .infinite negative, .finite b => if b = 0 then .nan else .infinite (negative != (b < 0))
  | .infinite negative, .infinite negative' => .infinite (negative != negative')

def div : Double → Double → Double
  | .nan, _ | _, .nan => .nan
  | .finite a, .finite b =>
    if b = 0 then if a = 0 then .nan else .infinite (a < 0) else ofRat (a / b)
  | .finite _, .infinite _ => .finite 0
  | .infinite negative, .finite b => .infinite (negative != (b < 0))
  | .infinite _, .infinite _ => .nan

/-- `Math.Round`. -/
def round : Double → Double
  | .finite q => .finite (roundHalfEven q)
  | d => d

/-- `Math.Max`. -/
def max (a b : Double) : Double :=
  if a = .nan ∨ b = .nan then .nan else if lt a b then b else a

/-- `Math.Clamp`. -/
def clamp (value low high : Double) : Double :=
  if lt value low then low else if lt high value then high else value

/-- A rational without its fractional part. -/
def truncate (q : ℚ) : ℤ := if 0 ≤ q then ⌊q⌋ else ⌈q⌉

/-- The conversion `(int)`, which saturates. -/
def toInt32 : Double → Int32
  | .finite q => .ofInt (Max.max (-2 ^ 31) (Min.min (2 ^ 31 - 1) (truncate q)))
  | .infinite negative => if negative then .ofInt (-2 ^ 31) else .ofInt (2 ^ 31 - 1)
  | .nan => 0

end Double

/-- `Math.Clamp`, for an `int`. -/
def clampInt32 (value low high : Int32) : Int32 :=
  if value < low then low else if high < value then high else value

namespace TimeSpan

def ticksPerMillisecond : ℤ := 10000

def ticksPerSecond : ℤ := 10000000

/-- `Interval(double, double)`, the conversion of a number of units. -/
def interval (value : Double) (ticksPerUnit : ℤ) : Except Fault TimeSpan :=
  match value, value.mul (.ofInt ticksPerUnit) with
  | .nan, _ => .error .argument
  | _, .finite ticks =>
    if 2 ^ 63 < ticks ∨ ticks < -2 ^ 63 then .error .overflow
    else if ticks = 2 ^ 63 then .ok ⟨.ofInt (2 ^ 63 - 1)⟩
    else .ok ⟨.ofInt (Double.truncate ticks)⟩
  | _, _ => .error .overflow

/-- `FromSeconds(double)`. -/
def fromSeconds (value : Double) : Except Fault TimeSpan := interval value ticksPerSecond

/-- `FromMilliseconds(double)`. -/
def fromMilliseconds (value : Double) : Except Fault TimeSpan := interval value ticksPerMillisecond

/-- `FromSeconds(long)` on a value that is an `int`, which does not overflow. -/
def fromWholeSeconds (seconds : Int32) : TimeSpan := ⟨.ofInt (seconds.toInt * ticksPerSecond)⟩

/-- `TotalSeconds`. -/
def totalSeconds (t : TimeSpan) : Double :=
  (Double.ofInt t.ticks.toInt).div (.ofInt ticksPerSecond)

/-- The operator `+`. -/
def add (a b : TimeSpan) : Except Fault TimeSpan :=
  let d := a.ticks.toInt + b.ticks.toInt
  if -2 ^ 63 ≤ d ∧ d < 2 ^ 63 then .ok ⟨a.ticks + b.ticks⟩ else .error .overflow

/-- The operator `>`, against zero. -/
def isPositive (t : TimeSpan) : Bool := 0 < t.ticks.toInt

end TimeSpan

end Connect3Dp
