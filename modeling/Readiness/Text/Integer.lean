import Readiness.Text.Blank
import Readiness.Text.Digit
import Readiness.Text.Quoted
import Readiness.Text.Decimal

/-!
This module contains the reading of integers: digits of any script, in groups separated by single underscores, with a
sign and white space around. A numeral that is too long is neither read nor written.
-/

namespace Readiness
namespace Text
namespace Integer

/-- The most digits of a numeral. -/
def maxDigits : Nat := 4300

/-- Whether the numeral of an integer is not too long; the sign does not count. -/
def isWritable (n : Int) : Bool :=
  (Nat.toDigits 10 n.natAbs).length ≤ maxDigits

/-- The message for a numeral that is too long, with what else is known of it. -/
def tooLongMessage (detail : List Char) : String :=
  String.ofList ("Exceeds the limit (".toList ++ decimal maxDigits ++ " digits) for integer string conversion".toList
    ++ detail ++ "; use sys.set_int_max_str_digits() to increase the limit".toList)

inductive Error where
  | malformed (text : String)
  | tooLong (digits : Nat)
deriving DecidableEq, Repr

/-- A long text is cut in the message. -/
def Error.message : Error → String
  | malformed text =>
    String.ofList ("invalid literal for int() with base 10: ".toList ++ (quotedChars text.toList).take 200)
  | tooLong digits => tooLongMessage (": value has ".toList ++ decimal digits ++ " digits".toList)

/-- Why an integer is not written. -/
inductive WriteError where
  | tooLong
deriving DecidableEq, Repr

def WriteError.message : WriteError → String
  | tooLong => tooLongMessage []

/-- Whether every underscore stands between two other characters. -/
def separates (afterUnderscore : Bool) : List Char → Bool
  | [] => !afterUnderscore
  | c :: r => if c = '_' then !afterUnderscore && separates true r else separates false r

/-- Splits off a sign and tells whether it is a minus. -/
def splitSign : List Char → Bool × List Char
  | '-' :: r => (true, r)
  | '+' :: r => (false, r)
  | l => (false, l)

def isNumeralChar (c : Char) : Bool :=
  isDigit c || c = '_'

def parse (s : String) : Except Error Int :=
  let (negative, l) := splitSign (s.toList.dropWhile isSpace)
  let numeral := l.takeWhile isNumeralChar
  let digits := numeral.filter (· ≠ '_')
  if !separates true numeral then throw (.malformed s)
  else if maxDigits < digits.length then throw (.tooLong digits.length)
  else if (l.dropWhile isNumeralChar).all isSpace then
    let n : Int := digitsValue digits
    return if negative then -n else n
  else throw (.malformed s)

end Integer
end Text
end Readiness
