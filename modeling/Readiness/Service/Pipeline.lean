import Readiness.AccessLog
import Readiness.RequestId
import Readiness.Service.App

/-!
This module contains the pipeline around an application. From the outside in: it writes an access record for every
request, gives it an id, turns a defect into an opaque answer and a log record, and limits the size of the body.
-/

namespace Readiness
namespace Service

open Http (Header Response)

structure Pipeline where
  /-- The most bytes of a body that a handler can read; there is no limit unless this is positive. -/
  limit : Int
  /-- The random bytes of each draw, counted from one. -/
  draw : Nat → List UInt8

namespace Pipeline

/-- A character of a path as an address shows it: tabs and line breaks go, and marks with a meaning are escaped. -/
def addressChar (c : Char) : List Char :=
  if c = '\t' || c = '\n' || c = '\r' then []
  else if c = '?' then "%3F".toList
  else if c = '#' then "%23".toList
  else if c = '\\' then "%5C".toList
  else [c]

def addressPath (path : String) : String :=
  String.ofList (path.toList.flatMap addressChar)

/-- The record of a defect that was turned into an answer. -/
def recovered (call : Call) (id : String) (d : Defect) : Log.Record where
  source := .structured
  logger := "probekit.recovery"
  level := .error
  event := "handler_fault_recovered"
  fields := [("method", .str call.method), ("path", .str (addressPath call.path)), ("request_id", .str id)]
  exception := some d.summary

/-- Gives a response the id of its request, in place of any other. -/
def tag (id : String) (r : Response) : Response :=
  { r with headers := Header.replace "x-request-id" id r.headers }

/-- The access record of a call and the response to it, if there is one. -/
def accessRecord? (call : Call) (id : String) (response : Option Response) (start stop : Clock) :
    Option Log.Record :=
  let scope : AccessLog.Scope := {
    protocol := some .http
    method := some call.method
    path := some call.path
    headers := call.headers
    peer := call.peer
    requestId := some (.str id) }
  let outcome := ((response.map Response.messages).getD []).foldl (fun o m => o.observe m.content) ({} : AccessLog.Outcome)
  (AccessLog.record scope outcome start stop).toOption.map fun fields =>
    { source := .structured, logger := "probekit.access", level := .info, event := AccessLog.event, fields }

/--
The response to a settled request, the defect that is left, and the records. The record of a defect takes the address
apart, so there is none if the query of the address has no text.
-/
def recover (call : Call) (id : String) (now : Instant) :
    Ending Defect → Option Response × Option Defect × List Log.Record
  | .response r => (some (tag id r), none, [])
  | .broken r d => (some (tag id r), some d, [])
  | .failed d =>
    if let .error e := Text.checkUtf8 call.query then
      (none, some (.query e), [])
    else match Response.error 500 (Http.errorCode 500) id [] now with
    | .ok r => (some (tag id r), none, [recovered call id d])
    | .error e => (none, some (.render e), [recovered call id d])

variable {σ : Type}

/-- Serves a call. -/
def serve (p : Pipeline) (app : App σ) (w : World σ) (call : Call) : Served σ :=
  let w := { w with draws := w.draws + 1 }
  let id := RequestId.ofBytes (p.draw w.draws)
  let (exchange, ending) := app.answer w call (Http.BodyLimit.meter? .http p.limit) id
  let (response, escaped, records) := recover call id exchange.clock.now ending
  { world := w.leave exchange
    response := response.getD plainError
    escaped
    records := records ++ (accessRecord? call id response w.clock exchange.clock).toList
    reads := exchange.reads }

end Pipeline
end Service
end Readiness
