import Readiness.Json.Basic
import Readiness.Text.Integer

/-!
This module contains what can keep a value from being written: an integer that is too long for a numeral, and lists and
objects that are nested deeper than the writer can follow.
-/

namespace Readiness
namespace Json

/-- Why a value cannot be written. -/
inductive WriteError where
  /-- An integer has too many digits. -/
  | tooLong
  /-- Lists and objects are nested too deep. -/
  | tooDeep
deriving DecidableEq, Repr

mutual

/--
Checks a value in the order in which it is written, with room for so many levels of nesting. An empty list or object
takes `hollow` levels.
-/
def check (hollow room : Nat) : Json → Except WriteError Unit
  | int n => if Text.Integer.isWritable n then return else throw .tooLong
  | arr [] | obj [] => if room < hollow then throw .tooDeep else return
  | arr (j :: js) => if room = 0 then throw .tooDeep else checkItems hollow (room - 1) (j :: js)
  | obj (f :: fs) => if room = 0 then throw .tooDeep else checkFields hollow (room - 1) (f :: fs)
  | _ => return

def checkItems (hollow room : Nat) : List Json → Except WriteError Unit
  | [] => return
  | j :: js => do
    check hollow room j
    checkItems hollow room js

def checkFields (hollow room : Nat) : List (String × Json) → Except WriteError Unit
  | [] => return
  | (_, j) :: fs => do
    check hollow room j
    checkFields hollow room fs

end

end Json
end Readiness
