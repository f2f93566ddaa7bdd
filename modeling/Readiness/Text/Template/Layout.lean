import Readiness.Double.Arithmetic
import Readiness.Double.Integer
import Readiness.Double.Places
import Readiness.Json.Display

/-!
This module contains the layout of an argument in a place of a message template: its notation, and what fills the
width of the place.
-/

namespace Readiness
namespace Text
namespace Template

/-- An argument that stands for an integer itself, without a fraction to drop. -/
def wholeArgument? : Json → Option Int
  | .int n => some n
  | .bool b => some (if b then 1 else 0)
  | _ => none

/-- An argument as an integer; a fraction is dropped. -/
def integerArgument? : Json → Option Int
  | .real x => x.truncToInt.toOption
  | j => wholeArgument? j

/-- An argument as a double. -/
def realArgument? : Json → Option Double
  | .real x => some x
  | j => (wholeArgument? j).bind Double.ofInt?

/-- How an argument is set in its place. -/
structure Layout where
  left : Bool
  /-- Whether zeros fill the place of a number. -/
  zeros : Bool
  /-- The sign of a number that is not negative. -/
  plus : List Char
  alternate : Bool
  width : Nat
  precision : Option Nat
deriving DecidableEq, Repr

namespace Layout

/-- The layout for a place whose extents are known. A negative width means the left side. -/
def make (flags : List Char) (width : Int) (precision : Option Int) : Layout where
  left := flags.contains '-' || width < 0
  zeros := flags.contains '0'
  plus := if flags.contains '+' then ['+'] else if flags.contains ' ' then [' '] else []
  alternate := flags.contains '#'
  width := width.natAbs
  precision := precision.map Int.toNat

def pad (y : Layout) (l : List Char) : List Char :=
  if y.left then l.rightpad y.width ' ' else l.leftpad y.width ' '

/-- Sets a text, cut to the precision. -/
def text (y : Layout) (l : List Char) : List Char :=
  y.pad (match y.precision with
    | some n => l.take n
    | none => l)

/-- Sets a number; zeros come after what stands in front of the digits. -/
def number (y : Layout) (negative : Bool) (front digits : List Char) : List Char :=
  let front := (if negative then ['-'] else y.plus) ++ front
  if y.zeros && !y.left then front ++ digits.leftpad (y.width - front.length) '0' else y.pad (front ++ digits)

/-- Sets an integer in a base, with at least as many digits as the precision asks for. -/
def integer (y : Layout) (base : Nat) (front : List Char) (upper : Bool) (n : Int) : List Char :=
  let digits := (Nat.toDigits base n.natAbs).leftpad (y.precision.getD 0) '0'
  let upperCase := if upper then List.map Char.toUpper else id
  y.number (n < 0) (if y.alternate then upperCase front else []) (upperCase digits)

/-- The digits of a finite double in the notation of a letter. -/
def digits (y : Layout) (letter : Char) (m : Magnitude) : List Char :=
  let precision := y.precision.getD 6
  match letter with
  | 'f' => m.fixed precision y.alternate
  | 'e' => m.scientific precision y.alternate
  | _ => m.general (max 1 precision) y.alternate

/-- Sets a double in the notation of a lower case letter. -/
def real (y : Layout) (letter : Char) (upper : Bool) (x : Double) : List Char :=
  let upperCase := if upper then List.map Char.toUpper else id
  match x with
  | .nan => y.number false [] (upperCase "nan".toList)
  | .inf s => y.number s [] (upperCase "inf".toList)
  | .finite s m => y.number s [] (upperCase (y.digits letter m))

end Layout

/-- The character that an argument stands for: the only one of a text, or the one with a code point. -/
def characterArgument? : Json → Option Char
  | .str s => match s.toList with
    | [c] => some c
    | _ => none
  | j => do
    let n ← wholeArgument? j
    if 0 ≤ n ∧ n.toNat.isValidChar then some (Char.ofNat n.toNat) else none

/-- Escapes what is beyond ASCII. -/
def escapeWide (c : Char) : List Char :=
  if c.toNat < 0x80 then [c] else numericEscape c.toNat

/-- The text of an argument at a place with the given letter. -/
def Layout.set? (y : Layout) (letter : Char) (arg : Json) : Option (List Char) :=
  match letter with
  | 's' => some (y.text arg.displayBare)
  | 'r' => some (y.text arg.display)
  | 'a' => some (y.text (arg.display.flatMap escapeWide))
  | 'c' => (characterArgument? arg).map fun c => y.pad [c]
  | 'd' | 'i' | 'u' => (integerArgument? arg).map (y.integer 10 [] false)
  | 'o' => (wholeArgument? arg).map (y.integer 8 ['0', 'o'] false)
  | 'x' => (wholeArgument? arg).map (y.integer 16 ['0', 'x'] false)
  | 'X' => (wholeArgument? arg).map (y.integer 16 ['0', 'x'] true)
  | 'e' | 'f' | 'g' => (realArgument? arg).map (y.real letter false)
  | 'E' | 'F' | 'G' => (realArgument? arg).map (y.real letter.toLower true)
  | _ => none

end Template
end Text
end Readiness
