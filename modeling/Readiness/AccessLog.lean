import Readiness.Clock
import Readiness.Double.Integer
import Readiness.Http.Message
import Readiness.Http.Peer

/-!
This module contains the access record: one for each HTTP request, written when the application is done with it, and
drawn from what went over the wire.
-/

namespace Readiness
namespace AccessLog

open Http (Header Peer Outgoing Protocol)

/-- What a connection starts with, as far as the record needs it. -/
structure Scope where
  protocol : Option Protocol
  method : Option String
  path : Option String
  headers : List Header
  peer : Peer
  /-- The request id noted on the connection, empty where there is none; missing if none could be noted. -/
  requestId : Option Json
deriving Repr

/-- The request id noted in the state of a connection. A state is a map, or void; on anything else nothing is noted. -/
def notedId? : Option Json → Option Json
  | none => some (.str "")
  | some (.obj fields) => some ((fields.lookup "request_id").getD (.str ""))
  | some state => if state.isVoid then some (.str "") else none

/-- What has been sent so far. -/
structure Outcome where
  status : Int := 500
  bytes : Nat := 0
  requestId : String := ""
deriving DecidableEq, Repr

/-- Takes note of a message on its way to the server. -/
def Outcome.observe (o : Outcome) : Outgoing.Content → Outcome
  | .start status headers =>
    { o with status, requestId := (Header.last? "x-request-id" (headers.getD [])).getD o.requestId }
  | .body bytes _ => { o with bytes := o.bytes + (bytes.getD []).length }
  | .other _ | .incomplete _ => o

/-- Why a record could not be made. -/
inductive Error where
  | missing (key : String)
  | peer (e : Http.PeerError)
  | duration (e : Double.IntegerError)
  /-- The state of the connection can hold no id. -/
  | state
deriving DecidableEq, Repr

def Error.message : Error → String
  | missing key => "'" ++ key ++ "'"
  | peer e => e.message
  | duration e => e.message
  | state => ""

/-- The whole milliseconds between two clock readings. -/
def durationMs (start stop : Clock) : Except Double.IntegerError Int :=
  ((stop.monotonic - start.monotonic) * Double.ofInt 1000).truncToInt

def event : String := "http_request"

/-- The id of the request: the one sent with the response, or else the one noted on the connection. -/
def idOf (scope : Scope) (o : Outcome) : Except Error Json :=
  if o.requestId.isEmpty then
    match scope.requestId with
    | some id => return id
    | none => throw .state
  else
    return .str o.requestId

/-- The fields of the record. -/
def record (scope : Scope) (o : Outcome) (start stop : Clock) : Except Error (List (String × Json)) := do
  let some method := scope.method | throw (.missing "method")
  let some path := scope.path | throw (.missing "path")
  let duration ← (durationMs start stop).mapError Error.duration
  let remote ← scope.peer.text.mapError Error.peer
  let id ← idOf scope o
  return [
    ("method", .str method),
    ("path", .str path),
    ("status", .int o.status),
    ("bytes", .int o.bytes),
    ("duration_ms", .int duration),
    ("ua", .str ((Header.last? "user-agent" scope.headers).getD "")),
    ("remote", .str remote),
    ("xff", .str ((Header.last? "x-forwarded-for" scope.headers).getD "")),
    ("request_id", id)]

/-- What an application does, as far as the record can tell. -/
inductive Action where
  | advance (nanos : Int)
  | noteId (id : Json)
  | send (m : Outgoing)
deriving Repr

/-- The message that the action sends, if it does. -/
def Action.sent? : Action → Option Outgoing
  | send m => some m
  | _ => none

/-- The progress of a connection: what was sent, in order, and what the record will draw on. -/
structure Progress where
  clock : Clock
  scope : Scope
  outcome : Outcome
  sent : List Outgoing
deriving Repr

namespace Progress

/-- Takes an action. An incomplete message is refused with the key that it lacks. -/
def step (p : Progress) : Action → Except String Progress
  | .advance nanos => return { p with clock := p.clock.advance nanos }
  | .noteId id => return { p with scope := { p.scope with requestId := some id } }
  | .send { content := .incomplete missing, .. } => throw missing
  | .send m => return { p with outcome := p.outcome.observe m.content, sent := p.sent ++ [m] }

/-- Takes actions up to the first that is refused. -/
def run (p : Progress) : List Action → Progress × Option String
  | [] => (p, none)
  | a :: as =>
    match p.step a with
    | .ok p => p.run as
    | .error missing => (p, some missing)

end Progress

/-- What came out of a connection in the end, apart from messages. -/
inductive Failure where
  /-- The application failed. -/
  | application (message : String)
  /-- A message of the application was refused. -/
  | message (missing : String)
  /-- The record could not be made; this hides a failure of the application. -/
  | record (e : Error)
deriving DecidableEq, Repr

/-- How a connection ended: what was sent, the record if there is one, and the failure if there was one. -/
structure Report where
  sent : List Outgoing
  record : Option (List (String × Json))
  failure : Option Failure
deriving Repr

/-- Follows an application from the start of a connection through its actions and its failure, if it fails. -/
def follow (scope : Scope) (start : Clock) (actions : List Action) (failure : Option String) : Report :=
  match scope.protocol with
  | none => ⟨[], none, some (.record (.missing "type"))⟩
  | some .http =>
    let (p, missing) := Progress.run { clock := start, scope, outcome := {}, sent := [] } actions
    match record p.scope p.outcome start p.clock with
    | .ok fields => ⟨p.sent, some fields, (missing.map Failure.message).or (failure.map Failure.application)⟩
    | .error e => ⟨p.sent, none, some (.record e)⟩
  | some _ => ⟨actions.filterMap Action.sent?, none, failure.map Failure.application⟩

end AccessLog
end Readiness
