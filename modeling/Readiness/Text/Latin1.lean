import Readiness.Text.Decimal
import Readiness.Text.Hex

/-!
This module contains the check that a text is Latin-1, one byte to a character, as header fields have to be.
-/

namespace Readiness
namespace Text

/-- The first run of characters beyond Latin-1: its position, its length and its first character. -/
structure Latin1Error where
  start : Nat
  count : Nat
  char : Char
deriving DecidableEq, Repr

def isLatin1 (c : Char) : Bool :=
  c.toNat < 256

def latin1Error? (s : String) : Option Latin1Error :=
  match s.toList.dropWhile isLatin1 with
  | [] => none
  | c :: r => some {
      start := (s.toList.takeWhile isLatin1).length
      count := ((c :: r).takeWhile (!isLatin1 ·)).length
      char := c }

def checkLatin1 (s : String) : Except Latin1Error Unit :=
  match latin1Error? s with
  | some e => throw e
  | none => return

/-- The numeric escape of a character beyond Latin-1. -/
def wideEscape (c : Char) : List Char :=
  if c.toNat < 0x10000 then '\\' :: 'u' :: hex 4 c.toNat else '\\' :: 'U' :: hex 8 c.toNat

def Latin1Error.message (e : Latin1Error) : String :=
  let what :=
    if e.count = 1 then
      " '".toList ++ wideEscape e.char ++ "' in position ".toList ++ decimal e.start
    else
      "s in position ".toList ++ decimal e.start ++ '-' :: decimal (e.start + e.count - 1)
  String.ofList ("'latin-1' codec can't encode character".toList ++ what ++ ": ordinal not in range(256)".toList)

end Text
end Readiness
