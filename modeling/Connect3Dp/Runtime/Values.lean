import Mathlib.Algebra.Group.Int.Defs
import Mathlib.Data.Rat.Defs
import Mathlib.Order.Basic

/-!
# Runtime values

The value types of the language runtime that the state of a machine is made of, and the
exceptions that its operations raise. `default` is the runtime's `default(T)` throughout: zero
for a number, `null` for a string or a nullable value.
-/

namespace Connect3Dp

/-- The exceptions the modelled code can raise by itself. -/
inductive Fault
  | nullReference
  | invalidOperation
  | overflow
  | argument
  | argumentOutOfRange
  | indexOutOfRange
  | format
  | keyNotFound
  | io
  | invalidData
  | unauthorizedAccess
  | notSupported
  | notImplemented
  | json
  | webSocket
  | outOfMemory
  /-- `Exception` itself -/
  | other
  deriving DecidableEq, Repr

/-- A reference to a string, `none` being `null`. Only a variable whose declared type the
compiler enforces at run time (a dictionary key) is a plain `String`. -/
abbrev NetString := Option String

/-- A double-precision number up to `double.Equals`, which identifies the two zeros and all
NaNs. Finite values are kept as rationals. -/
inductive Double
  | finite (q : ℚ)
  | infinite (negative : Bool)
  | nan
  deriving DecidableEq

instance : Inhabited Double := ⟨.finite 0⟩

/-- A time interval: a signed 64-bit number of ticks of 100 ns. -/
structure TimeSpan where
  ticks : Int64
  deriving DecidableEq

namespace TimeSpan

instance : Inhabited TimeSpan := ⟨⟨0⟩⟩

instance : LE TimeSpan := ⟨fun a b => a.ticks.toInt ≤ b.ticks.toInt⟩

instance (a b : TimeSpan) : Decidable (a ≤ b) :=
  inferInstanceAs (Decidable (a.ticks.toInt ≤ b.ticks.toInt))

/-- `TimeSpan.Zero`. -/
def zero : TimeSpan := ⟨0⟩

/-- The operator `-`, which raises `OverflowException` when the difference needs more than 64
bits. -/
def subtract (a b : TimeSpan) : Except Fault TimeSpan :=
  let d := a.ticks.toInt - b.ticks.toInt
  if -2 ^ 63 ≤ d ∧ d < 2 ^ 63 then .ok ⟨a.ticks - b.ticks⟩ else .error .overflow

end TimeSpan

/-- A point in time, in ticks of 100 ns. -/
structure DateTimeOffset where
  utcTicks : Int
  deriving DecidableEq, Inhabited

/-- A point in local time, in ticks of 100 ns. -/
structure DateTime where
  ticks : Int
  deriving DecidableEq, Inhabited

/-- A `Guid`. The generator never returns the same one twice, so a counter stands for it. -/
abbrev Guid := ℕ

/-- A reference to an object that is never changed once it is built, compared by address. -/
structure ObjectRef (α : Type*) where
  address : ℕ
  object : α
  deriving DecidableEq, Inhabited

end Connect3Dp
