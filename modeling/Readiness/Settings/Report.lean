import Readiness.Settings.Basic

/-!
This module contains the report that operators get of settings that were refused.
-/

namespace Readiness
namespace Settings

/-- The longest prefix of at most `n` bytes. -/
def takeBytes (n : Nat) : List Char → List Char
  | [] => []
  | c :: r => if c.utf8Size ≤ n then c :: takeBytes (n - c.utf8Size) r else []

/-- Cuts out the middle of a text of more than 50 bytes. -/
def shorten (l : List Char) : List Char :=
  if (String.ofList l).utf8ByteSize ≤ 50 then l
  else takeBytes 25 l ++ "...".toList ++ (takeBytes 24 l.reverse).reverse

/-- The name of the type of a value. -/
def typeName : Json → String
  | .null => "NoneType"
  | .bool _ => "bool"
  | .int _ => "int"
  | .real _ => "float"
  | .str _ => "str"
  | .arr _ => "list"
  | .obj _ => "dict"

/-- The two lines on one refusal: the field and the reason. -/
def Refusal.lines (r : Refusal) : List String :=
  let value := String.ofList (shorten r.value.display)
  [r.field.name,
   "  " ++ r.problem.message ++ " [type=" ++ r.problem.code ++ ", input_value=" ++ value ++ ", input_type="
    ++ typeName r.value ++ "]"]

/-- The report on all refusals. -/
def report (refusals : List Refusal) : List String :=
  let count := refusals.length
  let errors := if count = 1 then "1 validation error" else toString count ++ " validation errors"
  "invalid configuration:" :: (errors ++ " for ProbeServiceSettings") :: refusals.flatMap Refusal.lines

end Settings
end Readiness
