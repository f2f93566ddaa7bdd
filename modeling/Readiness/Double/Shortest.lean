import Readiness.Double.Arithmetic

/-!
This module contains the choice of the fewest decimal digits that read back to a value. For each digit count the
candidates are the two neighbours of the value on that decimal grid, the nearer one first.
-/

namespace Readiness

/-- The positive number `0.d₁d₂d₃… * 10 ^ point`. -/
structure Numeral where
  digits : List Char
  point : Int
deriving DecidableEq, Repr

namespace Magnitude

/-- The exponent of the leading decimal digit of a positive magnitude. -/
def leadingExponent (m : Magnitude) : Int :=
  -- scaled by `10 ^ 400` even the least magnitude has an integer part
  (Nat.toDigits 10 (m.quanta * Nat.pow 10 400 / Double.scale)).length - 401

/-- The two neighbours of the magnitude among the multiples of `10 ^ exponent`, the nearer one first. -/
def neighbours (m : Magnitude) (exponent : Int) : List Nat :=
  let num := m.quanta * Nat.pow 10 (-exponent).toNat
  let den := Double.scale * Nat.pow 10 exponent.toNat
  let below := num / den
  if Double.roundDiv num den = below then [below, below + 1] else [below + 1, below]

def readsBack (m : Magnitude) (exponent : Int) (digits : Nat) : Bool :=
  Double.ofDecimal false digits exponent = .finite false m

/-- A decimal with `count` significant digits that reads back, and its exponent. -/
def withDigits? (m : Magnitude) (count : Nat) : Option (Nat × Int) :=
  let exponent := m.leadingExponent + 1 - count
  ((m.neighbours exponent).find? (m.readsBack exponent)).map (·, exponent)

/-- All digits of the magnitude: a quantum is `5 ^ 1074 * 10 ^ -1074`. -/
def exactDecimal (m : Magnitude) : Nat × Int :=
  (m.quanta * Nat.pow 5 1074, -1074)

/-- The fewest digits that read back; the exact decimal value should no 17 digits do. -/
def shortestDecimal (m : Magnitude) : Nat × Int :=
  ((List.range' 1 17).findSome? m.withDigits?).getD m.exactDecimal

/-- The shortest decimal as a row of digits without trailing zeros. -/
def shortest (m : Magnitude) : Numeral :=
  let (n, exponent) := m.shortestDecimal
  let digits := Nat.toDigits 10 n
  { digits := (digits.reverse.dropWhile (· = '0')).reverse
    point := digits.length + exponent }

end Magnitude
end Readiness
