import Readiness.Double.Arithmetic
import Readiness.Text.Digit

/-!
This module contains the units of duration texts and their components, numbers with a unit.
-/

namespace Readiness
namespace Duration

inductive TimeUnit where
  | nanosecond
  | microsecond
  | millisecond
  | second
  | minute
  | hour
deriving DecidableEq, Repr

/-- The length of the unit in nanoseconds. -/
def TimeUnit.nanos : TimeUnit → Nat
  | nanosecond => 1
  | microsecond => 1000
  | millisecond => 1000000
  | second => 1000000000
  | minute => 60 * 1000000000
  | hour => 3600 * 1000000000

/--
The micro sign and the Greek letter mu both stand for micro. Two letters come before one, so that `ms` is not
read as `m`.
-/
def TimeUnit.spellings : List (List Char × TimeUnit) :=
  [(['n', 's'], nanosecond), (['u', 's'], microsecond), (['\u00b5', 's'], microsecond), (['\u03bc', 's'], microsecond),
   (['m', 's'], millisecond), (['s'], second), (['m'], minute), (['h'], hour)]

/-- An unsigned decimal number as it is written. -/
structure Amount where
  whole : List Char
  fraction : List Char
deriving DecidableEq, Repr

/-- The double nearest to the number, negated if asked for. -/
def Amount.toDouble (a : Amount) (negative : Bool) : Double :=
  Double.ofDecimal negative (Text.digitsValue (a.whole ++ a.fraction)) (-a.fraction.length)

structure Component where
  amount : Amount
  unit : TimeUnit
deriving DecidableEq, Repr

/-- The component in nanoseconds, rounded as a double. -/
def Component.nanos (c : Component) : Double :=
  c.amount.toDouble false * Double.ofInt c.unit.nanos

/-- The sum from left to right, rounded at every step. -/
def totalNanos (cs : List Component) : Double :=
  cs.foldl (fun total c => total + c.nanos) .zero

/-- The seconds that signed components denote. -/
def seconds (negative : Bool) (cs : List Component) : Double :=
  let total := totalNanos cs
  (if negative then -total else total) / Double.ofInt TimeUnit.second.nanos

end Duration
end Readiness
