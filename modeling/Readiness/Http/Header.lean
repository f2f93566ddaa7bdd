import Readiness.Text.Case
import Readiness.Text.Latin1

/-!
This module contains header fields, in the order in which they are sent. Names and values are Latin-1 texts.
-/

namespace Readiness
namespace Http

structure Header where
  name : String
  value : String
deriving DecidableEq, Repr

namespace Header

def requestId : String := "X-Request-Id"

/-- The field as it is sent, with its name in lower case. -/
def encode (h : Header) : Except Text.Latin1Error Header := do
  let name := Text.lower h.name
  Text.checkLatin1 name
  Text.checkLatin1 h.value
  return ⟨name, h.value⟩

/-- The value of the last field with the given name, in any case. -/
def last? (name : String) (headers : List Header) : Option String :=
  (headers.reverse.find? fun h => Text.lowerAscii h.name == name).map (·.value)

/-- Gives the field of exactly this name a value: in place if there is one, otherwise after the others. -/
def put (name value : String) (headers : List Header) : List Header :=
  if headers.any (·.name == name) then
    headers.map fun h => if h.name == name then ⟨name, value⟩ else h
  else
    headers ++ [⟨name, value⟩]

/-- Makes the field of this name the only one: the first keeps its place, any others go. -/
def replace (name value : String) : List Header → List Header
  | [] => [⟨name, value⟩]
  | h :: headers =>
    if h.name == name then ⟨name, value⟩ :: headers.filter (·.name != name) else h :: replace name value headers

end Header
end Http
end Readiness
