import Readiness.Double.Arithmetic

/-!
This module contains the conversions of a `Double` to an integer. They fail on NaN and on the infinities, which
have no integer near them.
-/

namespace Readiness
namespace Double

/-- Why a value has no integer. -/
inductive IntegerError where
  | infinite
  | notANumber
deriving DecidableEq, Repr

def IntegerError.message : IntegerError → String
  | .infinite => "cannot convert float infinity to integer"
  | .notANumber => "cannot convert float NaN to integer"

/-- The integer that `f` picks for the magnitude `quanta / 2 ^ 1074` of a finite value, with its sign. -/
def toIntegerWith (f : Bool → Nat → Nat) : Double → Except IntegerError Int
  | nan => throw .notANumber
  | inf _ => throw .infinite
  | finite s m => return signed s (f s m.quanta)

/-- The nearest integer; a tie goes to the even neighbour. -/
def roundToInt : Double → Except IntegerError Int :=
  toIntegerWith fun _ n => roundDiv n scale

/-- The integer part. -/
def truncToInt : Double → Except IntegerError Int :=
  toIntegerWith fun _ n => n / scale

/-- The least integer that is not below the value. -/
def ceilToInt : Double → Except IntegerError Int :=
  toIntegerWith fun s n => if s then n / scale else (n + (scale - 1)) / scale

end Double
end Readiness
