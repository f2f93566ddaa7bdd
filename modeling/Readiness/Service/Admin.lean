import Readiness.Service.Probe

/-!
This module contains the routes that reset gates. Each reads the whole request before it resets the gates that it
names.
-/

namespace Readiness
namespace Service
namespace Admin

open Http (Response)

/-- What a reset answers after it. -/
def answer (delay : String) (targets : List Target) (clock : Clock) (g : Gates) : Except Defect Response := do
  let time ← Probe.timeText clock
  let remaining ← targets.mapM fun t => return (t.name ++ "_in_ms", Json.int (← Probe.remainingMs clock (g.get t)))
  Probe.respond 200 (targets.map (fun t => (t.name, Json.bool false))
    ++ [("delay", .str delay), ("time", .str time)] ++ remaining)

def reset (delay : String) (targets : List Target) : Handler Gates :=
  .drain fun _ =>
    .modify (fun clock g => targets.foldl (Gates.reset clock) g)
      (.inspect fun clock g => .ofExcept (answer delay targets clock g))

def route (delay path summary : String) (targets : List Target) : Route Gates where
  pattern := .literal path
  methods := ["POST"]
  summary := some summary
  tags := ["admin"]
  handle _ _ := reset delay targets

/-- The delay is echoed as it is given here. -/
def routes (delay : String) : List (Route Gates) :=
  [route delay "/admin/reset" "Reset health and readiness" [.health, .ready],
   route delay "/admin/health/reset" "Reset health only" [.health],
   route delay "/admin/ready/reset" "Reset readiness only" [.ready]]

end Admin
end Service
end Readiness
