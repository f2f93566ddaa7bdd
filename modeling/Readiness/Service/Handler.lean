import Readiness.Clock
import Readiness.Http.Peer
import Readiness.Service.Fault

/-!
This module contains handlers: programs that answer one request over a state of some type, and the exchange that they
run in. An exchange holds what the server will deliver of the request body and when.
-/

namespace Readiness
namespace Service

open Http (Incoming Response)

/-- A request as handlers see it. -/
structure Request where
  method : String
  path : String
  headers : List Http.Header
  peer : Http.Peer
  /-- The id assigned to the request; empty where none is. -/
  id : String
deriving Repr

/-- A program that answers a request. -/
inductive Handler (σ : Type) where
  | respond (r : Response)
  | fail (f : Fault)
  /-- Sends a response and fails after that; meanwhile it listens to what the client sends. -/
  | breakOff (r : Response) (d : Defect)
  /-- Reads the body to its end and goes on with its size. -/
  | drain (next : Nat → Handler σ)
  | inspect (next : Clock → σ → Handler σ)
  | modify (f : Clock → σ → σ) (next : Handler σ)
  /-- Lets time pass. -/
  | wait (nanos : Int) (next : Handler σ)

/-- A message of the server, and the time in nanoseconds that it lets pass before, if it does. -/
structure Delivery where
  delay : Option Int
  message : Incoming
deriving Repr

/-- Where a handler stands in its exchange with the client. -/
structure Exchange (σ : Type) where
  clock : Clock
  state : σ
  inbox : List Delivery
  meter : Option Http.BodyLimit.Meter
  /-- The number of messages that were delivered. -/
  reads : Nat
deriving Repr

namespace Exchange

variable {σ : Type} (tick : Clock → σ → σ)

/-- Lets time pass; `tick` says what that does to the state. -/
def wait (ex : Exchange σ) (nanos : Int) : Exchange σ :=
  let clock := ex.clock.advance nanos
  { ex with clock, state := tick clock ex.state }

/-- Lets the time before a delivery pass. -/
def await (ex : Exchange σ) (d : Delivery) : Exchange σ :=
  match d.delay with
  | none => ex
  | some nanos => ex.wait tick nanos

/-- Takes in one delivery. -/
def receive (ex : Exchange σ) (d : Delivery) (rest : List Delivery) :
    Exchange σ × Except Http.TooLarge Incoming :=
  let ex := ex.await tick d
  let (message, meter) := Http.BodyLimit.read ex.meter d.message
  ({ ex with inbox := rest, meter, reads := ex.reads + 1 }, message)

/-- Reads the rest of the body. -/
def drain (ex : Exchange σ) : Exchange σ × Except Fault Nat :=
  go ex 0 ex.inbox
where
  go (ex : Exchange σ) (size : Nat) : List Delivery → Exchange σ × Except Fault Nat
    | [] => (ex, .error (.defect .disconnected))
    | d :: rest =>
      match ex.receive tick d rest with
      | (ex, .error e) => (ex, .error (.tooLarge e))
      | (ex, .ok m) =>
        match m.kind with
        | .request =>
          if m.more.getD false then go ex (size + m.size) rest else (ex, .ok (size + m.size))
        | .disconnect => (ex, .error (.defect .disconnected))
        | .other _ => go ex size rest

/-- Takes in one delivery and awaits the next; tells whether that one was refused. -/
def listen (ex : Exchange σ) : Exchange σ × Bool :=
  match ex.inbox with
  | [] => (ex, false)
  | d :: rest =>
    match ex.receive tick d rest, rest with
    | (ex, .error _), _ => (ex, true)
    | (ex, .ok _), [] => (ex, false)
    | (ex, .ok _), next :: _ => (ex.await tick next, false)

end Exchange

namespace Handler

variable {σ : Type}

def ofExcept : Except Defect Response → Handler σ
  | .ok r => respond r
  | .error d => fail (.defect d)

def run (tick : Clock → σ → σ) : Handler σ → Exchange σ → Exchange σ × Ending Fault
  | respond r, ex => (ex, .response r)
  | fail f, ex => (ex, .failed f)
  | breakOff r d, ex =>
    let (ex, refused) := ex.listen tick
    (ex, .broken r (if refused then .several 2 else d))
  | drain next, ex =>
    match ex.drain tick with
    | (ex, .ok size) => (next size).run tick ex
    | (ex, .error f) => (ex, .failed f)
  | inspect next, ex => (next ex.clock ex.state).run tick ex
  | modify f next, ex => next.run tick { ex with state := f ex.clock ex.state }
  | wait nanos next, ex => next.run tick (ex.wait tick nanos)

end Handler
end Service
end Readiness
