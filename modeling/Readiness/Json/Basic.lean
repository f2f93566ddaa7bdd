import Readiness.Double.Basic

/-!
This module contains JSON values. Integers and doubles are apart, and the fields of an object keep their order.
-/

namespace Readiness

inductive Json where
  | null
  | bool (b : Bool)
  | int (n : Int)
  | real (x : Double)
  | str (s : String)
  | arr (items : List Json)
  | obj (fields : List (String × Json))
deriving Repr

namespace Json

instance : Inhabited Json := ⟨null⟩

instance : Coe String Json := ⟨str⟩
instance : Coe Bool Json := ⟨bool⟩

def fields : Json → List (String × Json)
  | obj fields => fields
  | _ => []

/-- The text that the value is, if it is one. -/
def str? : Json → Option String
  | str s => some s
  | _ => none

/-- The value of the first field named `key`. -/
def get? (j : Json) (key : String) : Option Json :=
  j.fields.lookup key

/-- Whether the value is null, false, zero or empty. -/
def isVoid : Json → Bool
  | null => true
  | bool b => !b
  | int n => n = 0
  | real (.finite _ m) => m.quanta = 0
  | real _ => false
  | str s => s.isEmpty
  | arr items => items.isEmpty
  | obj fields => fields.isEmpty

/-- Sets the field `key`: in place if there is one, otherwise after the others. -/
def setField (fields : List (String × Json)) (key : String) (value : Json) : List (String × Json) :=
  if fields.any (·.1 == key) then
    fields.map fun f => if f.1 == key then (key, value) else f
  else
    fields ++ [(key, value)]

/-- Adds the field `key` unless there is one. -/
def addField (fields : List (String × Json)) (key : String) (value : Json) : List (String × Json) :=
  if fields.any (·.1 == key) then fields else fields ++ [(key, value)]

end Json
end Readiness
