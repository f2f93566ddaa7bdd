import Readiness.Log.Record
import Readiness.Service.Handler

/-!
This module contains applications: a handler for every request, over a state that also changes as time passes. Served
bare, an application answers its own failures and leaves defects to the server.
-/

namespace Readiness
namespace Service

open Http (Header Response)

structure App (σ : Type) where
  /-- What the passing of time does to the state. -/
  tick : Clock → σ → σ
  handle : Request → Handler σ

/-- The state of an application and what it lives in. -/
structure World (σ : Type) where
  clock : Clock
  /-- The number of times that random bytes were drawn. -/
  draws : Nat
  state : σ
deriving Repr

/-- A request as the server hands it over. -/
structure Call where
  method : String
  path : String
  query : Http.Bytes
  headers : List Header
  peer : Http.Peer
  /-- What there is to read of the body. -/
  deliveries : List Delivery
deriving Repr

/-- The request of a call, as handlers see it. -/
def Call.request (call : Call) (id : String) : Request where
  method := call.method
  path := call.path
  headers := call.headers
  peer := call.peer
  id := id

/-- A request that was served. -/
structure Served (σ : Type) where
  world : World σ
  /-- What the client got. -/
  response : Response
  /-- The defect that reached the server. -/
  escaped : Option Defect
  /-- The log records, in order, all of the time at the end. -/
  records : List Log.Record
  reads : Nat

/-- What is answered when the server starts, when it stops, and when a client asks for a websocket. -/
def startupReply : Http.Outgoing := .named "lifespan.startup.complete"
def shutdownReply : Http.Outgoing := .named "lifespan.shutdown.complete"
def socketReply : Http.Outgoing := .named "websocket.close"

/-- What the server itself answers to a defect. -/
def plainError : Response where
  status := 500
  headers := [⟨"content-length", "21"⟩, ⟨"content-type", "text/plain; charset=utf-8"⟩]
  body := "Internal Server Error"

namespace World

variable {σ : Type}

/-- Lets time pass. -/
def advance (w : World σ) (app : App σ) (nanos : Int) : World σ :=
  let clock := w.clock.advance nanos
  { w with clock, state := app.tick clock w.state }

/-- The exchange that a call starts. -/
def enter (w : World σ) (call : Call) (meter : Option Http.BodyLimit.Meter) : Exchange σ where
  clock := w.clock
  state := w.state
  inbox := call.deliveries
  meter := meter
  reads := 0

/-- The world when an exchange is over. -/
def leave (w : World σ) (ex : Exchange σ) : World σ :=
  { w with clock := ex.clock, state := ex.state }

end World

namespace App

variable {σ : Type} (app : App σ)

/-- Runs the handler of a call and answers the failures that have an answer of their own. -/
def answer (w : World σ) (call : Call) (meter : Option Http.BodyLimit.Meter) (id : String) :
    Exchange σ × Ending Defect :=
  let (exchange, ending) := (app.handle (call.request id)).run app.tick (w.enter call meter)
  (exchange, ending.settle exchange.clock.now)

/-- Serves a call without a pipeline. -/
def serveBare (w : World σ) (call : Call) : Served σ :=
  let (exchange, ending) := app.answer w call none ""
  let (response, escaped) := match ending with
    | .response r => (r, none)
    | .broken r d => (r, some d)
    | .failed d => (plainError, some d)
  { world := w.leave exchange, response, escaped, records := [], reads := exchange.reads }

end App
end Service
end Readiness
