import Readiness.Text.Decimal
import Readiness.Text.Hex

/-!
This module contains the check that bytes are UTF-8, which knows no overlong forms, no surrogates and nothing beyond the
last code point, and an account of the first sequence that is not.
-/

namespace Readiness
namespace Text

inductive Utf8Flaw where
  /-- No sequence starts with the byte. -/
  | start
  /-- The next byte cannot continue the sequence. -/
  | continuation
  /-- The bytes end within the sequence. -/
  | cut
deriving DecidableEq, Repr

/-- The first sequence that is not UTF-8: its position, its first byte and the number of its bytes that were read. -/
structure Utf8Error where
  position : Nat
  first : UInt8
  count : Nat
  flaw : Utf8Flaw
deriving DecidableEq, Repr

/-- The length of the sequences that start with a byte. -/
def sequenceLength? (first : UInt8) : Option Nat :=
  if first < 0x80 then some 1
  else if first < 0xC2 then none
  else if first < 0xE0 then some 2
  else if first < 0xF0 then some 3
  else if first < 0xF5 then some 4
  else none

/-- Whether a byte can be the second of a sequence. -/
def isSecond (first b : UInt8) : Bool :=
  let least : UInt8 := if first = 0xE0 then 0xA0 else if first = 0xF0 then 0x90 else 0x80
  let greatest : UInt8 := if first = 0xED then 0x9F else if first = 0xF4 then 0x8F else 0xBF
  least ≤ b && b ≤ greatest

/-- Whether a byte can be one of those after the second. -/
def isLater (b : UInt8) : Bool :=
  0x80 ≤ b && b ≤ 0xBF

/-- The number of bytes, out of `need`, that continue a sequence. -/
def continuing (first : UInt8) (need : Nat) (l : List UInt8) : Nat :=
  match l.take need with
  | [] => 0
  | b :: r => if isSecond first b then 1 + (r.takeWhile isLater).length else 0

/-- The first flaw in bytes of which `position` others came before. -/
def utf8Error? (position : Nat) (l : List UInt8) : Option Utf8Error :=
  match l with
  | [] => none
  | first :: r =>
    match sequenceLength? first with
    | none => some ⟨position, first, 1, .start⟩
    | some length =>
      let n := continuing first (length - 1) r
      if n + 1 = length then
        utf8Error? (position + length) (r.drop n)
      else
        some ⟨position, first, n + 1, if n = r.length then .cut else .continuation⟩
termination_by l.length
decreasing_by
  simp only [List.length_drop, List.length_cons]
  omega

def checkUtf8 (l : List UInt8) : Except Utf8Error Unit :=
  match utf8Error? 0 l with
  | some e => throw e
  | none => return

def Utf8Flaw.message : Utf8Flaw → String
  | start => "invalid start byte"
  | continuation => "invalid continuation byte"
  | cut => "unexpected end of data"

def Utf8Error.message (e : Utf8Error) : String :=
  let what :=
    if e.count = 1 then
      " 0x".toList ++ hex 2 e.first.toNat ++ " in position ".toList ++ decimal e.position
    else
      "s in position ".toList ++ decimal e.position ++ '-' :: decimal (e.position + e.count - 1)
  String.ofList ("'utf-8' codec can't decode byte".toList ++ what ++ ": ".toList ++ e.flaw.message.toList)

end Text
end Readiness
