import Readiness.Double.Integer
import Readiness.Duration.Basic
import Readiness.Text.Integer

/-!
This module contains the canonical text of a duration: below a second a single component in the largest unit that
keeps its whole part nonzero, from a second on hours, minutes and seconds without leading zero components.
-/

namespace Readiness
namespace Duration

/-- `n / 10 ^ places` without trailing zeros. -/
def fixedPoint (places n : Nat) : List Char :=
  let unit := Nat.pow 10 places
  let whole := Nat.toDigits 10 (n / unit)
  if n % unit = 0 then
    whole
  else
    whole ++ '.' :: ((Text.padded places (n % unit)).reverse.dropWhile (· = '0')).reverse

/-- The text of a positive number of nanoseconds. -/
def magnitudeText (n : Nat) : List Char :=
  if n < TimeUnit.microsecond.nanos then
    Nat.toDigits 10 n ++ ['n', 's']
  else if n < TimeUnit.millisecond.nanos then
    fixedPoint 3 n ++ ['\u00b5', 's']
  else if n < TimeUnit.second.nanos then
    fixedPoint 6 n ++ ['m', 's']
  else
    let hours := n / TimeUnit.hour.nanos
    let minutes := n % TimeUnit.hour.nanos / TimeUnit.minute.nanos
    let seconds := fixedPoint 9 (n % TimeUnit.minute.nanos) ++ ['s']
    if hours ≠ 0 then
      Nat.toDigits 10 hours ++ 'h' :: Nat.toDigits 10 minutes ++ 'm' :: seconds
    else if minutes ≠ 0 then
      Nat.toDigits 10 minutes ++ 'm' :: seconds
    else
      seconds

/-- The text of a number of nanoseconds. -/
def textOfNanos (n : Int) : List Char :=
  if n = 0 then ['0', 's']
  else if n < 0 then '-' :: magnitudeText n.natAbs
  else magnitudeText n.natAbs

/-- Whether the hours in a number of nanoseconds have a numeral. All other numbers in its text are small. -/
def isWritable (n : Int) : Bool :=
  Text.Integer.isWritable (n.natAbs / TimeUnit.hour.nanos : Nat)

/-- The text of a whole number of seconds. -/
def formatWhole (n : Int) : Except Text.Integer.WriteError String :=
  let nanos := n * TimeUnit.second.nanos
  if isWritable nanos then return String.ofList (textOfNanos nanos) else throw .tooLong

/-- The nanoseconds nearest to a number of seconds; the product is rounded as a double first. -/
def nanos (x : Double) : Except Double.IntegerError Int :=
  (x * Double.ofInt TimeUnit.second.nanos).roundToInt

/-- The text of a number of seconds. A double never has more hours than there are numerals for. -/
def format (x : Double) : Except Double.IntegerError String :=
  return String.ofList (textOfNanos (← nanos x))

end Duration
end Readiness
