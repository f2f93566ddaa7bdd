import Readiness.Double.Integer
import Readiness.Settings.Problem
import Readiness.Text.Case
import Readiness.Text.Integer

/-!
This module contains the conversions of a configured value to the type of its field. They are lenient: a text that
denotes a value of the type will do, and so will a value of a related type as long as nothing is lost.
-/

namespace Readiness
namespace Settings

def isNonzeroDigit (c : Char) : Bool :=
  '1' ≤ c && c ≤ '9'

/--
Drops zeros at the front, and underscores among them, up to another digit, a point or a minus. The last character
dropped stays before a point and at the end.
-/
def dropZeros (last : Char) : List Char → Option (List Char)
  | [] => some [last]
  | c :: r =>
    if c = '0' || c = '_' then dropZeros c r
    else if isNonzeroDigit c || c = '-' then some (c :: r)
    else if c = '.' then some (last :: c :: r)
    else none

/-- Drops zeros at the front of what starts with a digit or a minus. -/
def dropLeadingZeros : List Char → Option (List Char)
  | '0' :: r => dropZeros '0' r
  | c :: r => if c = '-' || isNonzeroDigit c then some (c :: r) else none
  | [] => none

/-- Drops a plus sign, unless a minus follows, and zeros behind the sign. -/
def dropSignedZeros : List Char → Option (List Char)
  | '+' :: '-' :: _ => none
  | '+' :: r => dropLeadingZeros r
  | '-' :: r => (dropLeadingZeros r).map ('-' :: ·)
  | l => dropLeadingZeros l

/-- Drops a fraction that consists of zeros. -/
def dropZeroFraction (l : List Char) : List Char :=
  match l.dropWhile (· ≠ '.') with
  | _ :: '0' :: r => if r.all (· = '0') then l.takeWhile (· ≠ '.') else l
  | _ => l

def dropUnderscores (l : List Char) : List Char :=
  if Text.Integer.separates true l then l.filter (· ≠ '_') else l

/-- The number at the front of a text, unless it has too many digits. Nothing may follow it. -/
def natural (l : List Char) : Except Problem Nat :=
  if l = ['0'] then
    return 0
  else if !l.head?.any isNonzeroDigit then
    throw .integerText
  else if Text.Integer.maxDigits < (l.takeWhile Char.isDigit).length then
    throw .integerTooLong
  else if l.all Char.isDigit then
    return Nat.ofDigitChars 10 l 0
  else
    throw .integerText

def signedNatural : List Char → Except Problem Int
  | '-' :: r => return -(← natural r)
  | l => return (← natural l)

/-- The integer that a text denotes: digits with underscores between them, a sign and white space around. -/
def integerOfText (s : String) : Except Problem Int :=
  let l := Text.trimBy Text.isSpace s.toList
  match signedNatural l with
  | .error .integerText =>
    match dropSignedZeros l with
    | some l => signedNatural (dropUnderscores (dropZeroFraction l))
    | none => throw .integerText
  | n => n

/-- The first integer that does not fit 64 bits. -/
def wordLimit : Int := 9223372036854775808

/-- The integer that a double is; it has to lie within 64 bits. -/
def integerOfDouble (x : Double) : Except Problem Int :=
  match x.truncToInt with
  | .error _ => throw .notFinite
  | .ok n =>
    if !x.isIntegral then throw .fraction
    else if -wordLimit < n ∧ n < wordLimit then return n
    else throw .integerTooLong

def integer : Json → Except Problem Int
  | .int n => return n
  | .bool b => return if b then 1 else 0
  | .real x => integerOfDouble x
  | .str s => integerOfText s
  | _ => throw .notInteger

def trueWords : List String := ["1", "t", "true", "y", "yes", "on"]
def falseWords : List String := ["0", "f", "false", "n", "no", "off"]

def booleanOfText (s : String) : Except Problem Bool :=
  let word := Text.lowerAscii s
  if trueWords.contains word then return true
  else if falseWords.contains word then return false
  else throw .booleanText

def booleanOfInt (n : Int) : Except Problem Bool :=
  if n = 1 then return true
  else if n = 0 then return false
  else throw .booleanText

def boolean : Json → Except Problem Bool
  | .bool b => return b
  | .int n => if -wordLimit ≤ n ∧ n < wordLimit then booleanOfInt n else throw .notBoolean
  | .real x =>
    match integerOfDouble x with
    | .ok n => booleanOfInt n
    | .error _ => throw .notBoolean
  | .str s => booleanOfText s
  | _ => throw .notBoolean

/-- The double that a number is; an integer has to be in the finite range. -/
def number : Json → Except Problem Double
  | .real x => return x
  | .bool b => return Double.ofInt (if b then 1 else 0)
  | .int n =>
    match Double.ofInt? n with
    | some x => return x
    | none => throw .notNumber
  | _ => throw .notNumber

def text : Json → Except Problem String
  | .str s => return s
  | _ => throw .notText

/-- Reads a duration text; anything else is left as it is. -/
def readDuration : Json → Except Problem Json
  | .str s => ((Duration.parse s).map Json.real).mapError Problem.duration
  | j => return j

def trimText : Json → Json
  | .str s => .str (Text.trim s)
  | j => j

/-- Refuses integers outside of a range. -/
def within (least : Int) (greatest : Option Int) (n : Int) : Except Problem Int :=
  if n < least then throw (.below least)
  else match greatest with
    | some g => if g < n then throw (.above g) else return n
    | none => return n

/-- Refuses what is below zero. -/
def nonnegative (x : Double) : Except Problem Double :=
  if x < .zero then throw (.below 0) else return x

end Settings
end Readiness
