import Readiness.Http.BodyLimit
import Readiness.Http.Response
import Readiness.Double.Integer
import Readiness.Text.Integer
import Readiness.Text.Utf8

/-!
This module contains the ways in which a handler can fail. Some failures have an answer of their own; a defect has
none and is told to operators only.
-/

namespace Readiness
namespace Service

/-- A failure that clients are told nothing about. -/
inductive Defect where
  /-- The client went away before its request was complete. -/
  | disconnected
  | render (e : Http.RenderError)
  | integer (e : Double.IntegerError)
  | numeral (e : Text.Integer.Error)
  /-- The query of the address has no text. -/
  | query (e : Text.Utf8Error)
  /-- Several things that went on at once failed. -/
  | several (count : Nat)
  | internal (message : String)
deriving DecidableEq, Repr

namespace Defect

def instant (e : Instant.Error) : Defect :=
  render (.instant e)

/-- The name of the kind of defect in traces. -/
def kind : Defect → String
  | disconnected => "starlette.requests.ClientDisconnect"
  | render (.instant (.yearOutOfRange _)) => "ValueError"
  | render (.instant .secondsTooLarge) => "OverflowError"
  | render (.instant .yearTooLarge) => "OSError"
  | render (.header _) => "UnicodeEncodeError"
  | integer .infinite => "OverflowError"
  | integer .notANumber => "ValueError"
  | numeral _ => "ValueError"
  | query _ => "UnicodeDecodeError"
  | several _ => "ExceptionGroup"
  | internal _ => "RuntimeError"

def message : Defect → String
  | disconnected => ""
  | render (.instant e) => e.message
  | render (.header e) => e.message
  | integer e => e.message
  | numeral e => e.message
  | query e => e.message
  | several count => "unhandled errors in a TaskGroup (" ++ toString count ++ " sub-exceptions)"
  | internal message => message

/-- The last line of the trace. -/
def summary (d : Defect) : String :=
  if d.message.isEmpty then d.kind else d.kind ++ ": " ++ d.message

end Defect

/-- What a handler fails with. -/
inductive Fault where
  /-- The handler asks for an answer with this status. The detail is for its authors. -/
  | status (status : Int) (headers : List Http.Header) (detail : String)
  | tooLarge (e : Http.TooLarge)
  | defect (d : Defect)
deriving DecidableEq, Repr

/-- How a request ended. -/
inductive Ending (ε : Type) where
  | response (r : Http.Response)
  /-- There is no response. -/
  | failed (e : ε)
  /-- The response went out, then a defect came up. -/
  | broken (r : Http.Response) (d : Defect)
deriving Repr

/-- Answers the failures that have an answer of their own. -/
def Ending.settle (now : Instant) : Ending Fault → Ending Defect
  | response r => response r
  | broken r d => broken r d
  | failed (.status status headers _) => rendered (Http.Response.ofStatus status headers now)
  | failed (.tooLarge _) => rendered (Http.Response.tooLarge now)
  | failed (.defect d) => failed d
where
  rendered : Except Http.RenderError Http.Response → Ending Defect
    | .ok r => response r
    | .error e => failed (.render e)

end Service
end Readiness
