/-!
This module contains decimal numerals of integers.
-/

namespace Readiness
namespace Text

def decimal (n : Int) : List Char :=
  if n < 0 then '-' :: Nat.toDigits 10 n.natAbs else Nat.toDigits 10 n.natAbs

/-- A numeral padded with zeros to at least `width` digits. -/
def padded (width n : Nat) : List Char :=
  (Nat.toDigits 10 n).leftpad width '0'

end Text
end Readiness
