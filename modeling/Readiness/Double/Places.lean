import Readiness.Double.Text

/-!
This module contains decimal notations with a given number of digits: positional, scientific, and the shorter of the
two. The last digit is rounded to nearest, and a tie goes to the even digit.
-/

namespace Readiness
namespace Magnitude

/-- A row of digits with a point before the last `places`; `point` keeps the point where nothing follows it. -/
def withPoint (places : Nat) (point : Bool) (digits : List Char) : List Char :=
  let digits := digits.leftpad (places + 1) '0'
  let whole := digits.take (digits.length - places)
  let fraction := digits.drop (digits.length - places)
  if fraction.isEmpty && !point then whole else whole ++ '.' :: fraction

/-- Positional notation with `places` digits after the point. -/
def fixed (m : Magnitude) (places : Nat) (point : Bool) : List Char :=
  withPoint places point (Nat.toDigits 10 (Double.roundDiv (m.quanta * Nat.pow 10 places) Double.scale))

/-- The integer of `places + 1` digits nearest to the magnitude, and the exponent of its leading digit. -/
def leading (m : Magnitude) (places : Nat) : Nat × Int :=
  if m.quanta = 0 then
    (0, 0)
  else
    let exponent := m.leadingExponent
    let shift := places - exponent
    let n := Double.roundDiv (m.quanta * Nat.pow 10 shift.toNat) (Double.scale * Nat.pow 10 (-shift).toNat)
    -- rounding up may carry into a new leading digit
    if n = Nat.pow 10 (places + 1) then (Nat.pow 10 places, exponent + 1) else (n, exponent)

/-- Scientific notation with `places` digits after the point. -/
def scientific (m : Magnitude) (places : Nat) (point : Bool) : List Char :=
  let (n, exponent) := m.leading places
  withPoint places point (Nat.toDigits 10 n) ++ Numeral.exponentText exponent

/-- Drops the zeros that end a fraction, and its point if nothing is left of it. -/
def dropFinalZeros (l : List Char) : List Char :=
  if l.contains '.' then
    match l.reverse.dropWhile (· = '0') with
    | '.' :: r => r.reverse
    | r => r.reverse
  else
    l

/--
The notation with `digits` significant digits: positional while the leading one stands for `10 ^ -4` or more and no
digit before the point is missing, otherwise scientific. Final zeros are dropped unless `complete`.
-/
def general (m : Magnitude) (digits : Nat) (complete : Bool) : List Char :=
  let places := digits - 1
  let (n, exponent) := m.leading places
  let tidy := if complete then id else dropFinalZeros
  if -4 ≤ exponent ∧ exponent ≤ places then
    tidy (m.fixed (places - exponent).toNat complete)
  else
    tidy (withPoint places complete (Nat.toDigits 10 n)) ++ Numeral.exponentText exponent

end Magnitude
end Readiness
