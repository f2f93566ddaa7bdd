/-!
This module contains hexadecimal numerals of a fixed least width, with lower case digits.
-/

namespace Readiness
namespace Text

/-- At least `width` hexadecimal digits. -/
def hex (width n : Nat) : List Char :=
  (Nat.toDigits 16 n).leftpad width '0'

end Text
end Readiness
