import Readiness.Double.Text
import Readiness.Json.Basic
import Readiness.Text.Decimal
import Readiness.Text.Quoted

/-!
This module contains the notation in which the console and the messages show a value that is not a plain text:
`None`, `True` and `False`, quoted texts, and lists and maps of these.
-/

namespace Readiness
namespace Json

mutual

def display : Json → List Char
  | null => "None".toList
  | bool b => (if b then "True" else "False").toList
  | int n => Text.decimal n
  | real x => x.toText.toList
  | str s => Text.quotedChars s.toList
  | arr items => '[' :: displayItems items ++ [']']
  | obj fields => '{' :: displayFields fields ++ ['}']

def displayItems : List Json → List Char
  | [] => []
  | [j] => display j
  | j :: js => display j ++ ',' :: ' ' :: displayItems js

def displayFields : List (String × Json) → List Char
  | [] => []
  | [(k, j)] => Text.quotedChars k.toList ++ ':' :: ' ' :: display j
  | (k, j) :: fs => Text.quotedChars k.toList ++ ':' :: ' ' :: display j ++ ',' :: ' ' :: displayFields fs

end

/-- A text as it is, any other value in its notation. -/
def displayBare : Json → List Char
  | str s => s.toList
  | j => j.display

/-- What messages call the kind of a value. -/
def kindName : Json → String
  | null => "NoneType"
  | bool _ => "bool"
  | int _ => "int"
  | real _ => "float"
  | str _ => "str"
  | arr _ => "list"
  | obj _ => "dict"

end Json
end Readiness
