import Readiness.Json.Bounds

/-!
This module contains what can keep a handler from rendering a record.
-/

namespace Readiness
namespace Log

inductive RenderError where
  /-- A plain call bears the marks of a structured one. -/
  | forged
  /-- Something else stands where only a text can be shown. -/
  | notText
  /-- A value cannot be written. -/
  | value (e : Json.WriteError)
deriving DecidableEq, Repr

/-- Checks a value of a record, if it has to be checked. -/
def checkValue (hollow : Nat) (room : Option Nat) (j : Json) : Except RenderError Unit :=
  match room with
  | some room => (j.check hollow room).mapError .value
  | none => return

end Log
end Readiness
