import Readiness.Log.Record
import Readiness.Service.Gates
import Readiness.Service.Route

/-!
This module contains the probes: routes that read one gate each and tell whether it is achieved.
-/

namespace Readiness
namespace Service
namespace Probe

open Http (Response)

def respond (status : Int) (fields : List (String × Json)) : Except Defect Response :=
  (Response.json status [] (.obj fields)).mapError (.render ∘ .header)

def timeText (clock : Clock) : Except Defect String :=
  clock.now.text.mapError Defect.instant

def remainingMs (clock : Clock) (g : Gate) : Except Defect Int :=
  (g.remainingMs clock.monotonic).mapError Defect.integer

/-- What a probe answers for its gate. -/
def answer (id : Log.Identity) (target : Target) (clock : Clock) (g : Gate) : Except Defect Response := do
  let fields := [
    ("service", Json.str id.service), ("version", .str id.version), ("time", .str (← timeText clock))]
  if g.achieved then
    respond 200 (fields ++ [("status", .str target.achieved)])
  else
    respond 503 (fields ++ [("status", .str target.pending), ("retry_after_ms", .int (← remainingMs clock g))])

def route (id : Log.Identity) (target : Target) (summary : String) : Route Gates where
  pattern := .literal target.path
  methods := ["GET"]
  summary := some summary
  tags := ["probes"]
  handle _ _ := .inspect fun clock g => .ofExcept (answer id target clock (g.get target))

def routes (id : Log.Identity) : List (Route Gates) :=
  [route id .health "Liveness probe", route id .ready "Readiness probe"]

end Probe
end Service
end Readiness
