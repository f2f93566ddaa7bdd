import Readiness.Double.Shortest
import Readiness.Text.Digit

/-!
This module contains the decimal notation of a `Double`: the fewest digits that read back, written positionally
while the leading digit stands for `10 ^ -4` to `10 ^ 15`, otherwise with a signed exponent of at least two digits.
A whole number keeps the fraction `.0`.
-/

namespace Readiness

namespace Numeral

/-- The mark of an exponent, its sign, and at least two digits. -/
def exponentText (exponent : Int) : List Char :=
  'e' :: (if exponent < 0 then '-' else '+') :: (Nat.toDigits 10 exponent.natAbs).leftpad 2 '0'

def positional (x : Numeral) : List Char :=
  if x.point ≤ 0 then
    '0' :: '.' :: (List.replicate (-x.point).toNat '0' ++ x.digits)
  else
    let (whole, fraction) := x.digits.splitAt x.point.toNat
    let padding := List.replicate (x.point.toNat - whole.length) '0'
    whole ++ padding ++ '.' :: (if fraction.isEmpty then ['0'] else fraction)

def scientific (x : Numeral) : List Char :=
  let exponent := x.point - 1
  let mantissa := match x.digits with
    | [] => ['0']
    | [d] => [d]
    | d :: fraction => d :: '.' :: fraction
  mantissa ++ exponentText exponent

def layout (x : Numeral) : List Char :=
  if -4 < x.point ∧ x.point ≤ 16 then x.positional else x.scientific

end Numeral

namespace Double

def toText : Double → String
  | nan => "nan"
  | inf s => if s then "-inf" else "inf"
  | finite s m =>
    let digits := if m.quanta = 0 then ['0', '.', '0'] else m.shortest.layout
    String.ofList (if s then '-' :: digits else digits)

/-- The value of a decimal numeral, also where its exponent is far outside the range of binary64. -/
def ofScientific (negative : Bool) (digits : Nat) (exponent : Int) : Double :=
  let leading := (Nat.toDigits 10 digits).length + exponent
  if digits = 0 || leading < -400 then .finite negative .zero
  else if leading > 400 then .inf negative
  else ofDecimal negative digits exponent

/-- The unsigned number `whole.fraction * 10 ^ exponent`, from rows of digits. -/
def ofParts (negative : Bool) (whole fraction : List Char) (exponent : Int) : Double :=
  ofScientific negative (Text.digitsValue (whole ++ fraction)) (exponent - fraction.length)

end Double
end Readiness
