import Readiness.Service.Basic

/-!
This module contains the life of a service step by step: requests, the passing of time, start and stop.
-/

namespace Readiness
namespace Service

/-- What the event loop says of itself when the service is made. -/
def loopRecord : Log.Record where
  source := .plain
  logger := "asyncio"
  level := .debug
  event := "Using selector: EpollSelector"
  fields := []

/-- What happens to a service. -/
inductive Step where
  | request (call : Call)
  /-- Time passes, in nanoseconds. -/
  | advance (nanos : Int)
  | startup
  | shutdown
  /-- A client asks for a websocket. -/
  | websocket
deriving Repr

/-- What comes of a step. -/
inductive Answer where
  | served (response : Http.Response) (escaped : Option Defect) (reads : Nat)
  | sent (message : Http.Outgoing)
  | nothing
deriving Repr

/-- A service in its world. -/
structure Session where
  service : Service
  /-- The random bytes of each draw, counted from one. -/
  draw : Nat → List UInt8
  world : World Gates
  /-- The lines logged since the last step that reported any. -/
  pending : List String

namespace Session

def start (s : Service) (draw : Nat → List UInt8) (clock : Clock) : Session :=
  ⟨s, draw, s.genesis clock, (registryOf s.settings).write loopRecord clock.now⟩

/-- Reports an answer, and the lines up to the given records. -/
def report (s : Session) (world : World Gates) (answer : Answer) (records : List Log.Record) :
    Session × Answer × List String :=
  let registry := registryOf s.service.settings
  let lines := records.flatMap fun r => registry.write r world.clock.now
  ({ s with world, pending := [] }, answer, s.pending ++ lines)

/-- Takes a step; gives the answer and the lines logged. -/
def step (s : Session) : Step → Session × Answer × List String
  | .request call =>
    let r := s.service.serve s.draw s.world call
    s.report r.world (.served r.response r.escaped r.reads) r.records
  | .advance nanos => ({ s with world := s.world.advance s.service.app nanos }, .nothing, [])
  | .startup => s.report s.world (.sent startupReply) [s.service.startRecord]
  | .shutdown => s.report s.world (.sent shutdownReply) [stopRecord s.world.state]
  | .websocket => s.report s.world (.sent socketReply) []

end Session

end Service
end Readiness
