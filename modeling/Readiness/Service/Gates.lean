import Readiness.Clock
import Readiness.Gate.Basic

/-!
This module contains the two gates of the service, one for its health and one for its readiness.
-/

namespace Readiness
namespace Service

inductive Target where
  | health
  | ready
deriving DecidableEq, Repr

namespace Target

def name : Target → String
  | health => "health"
  | ready => "ready"

/-- The path of the probe. -/
def path : Target → String
  | health => "/healthz"
  | ready => "/readyz"

/-- What a probe says of an achieved gate. -/
def achieved : Target → String
  | health => "ok"
  | ready => "ready"

/-- What a probe says of a pending gate. -/
def pending : Target → String
  | health => "unhealthy"
  | ready => "not-ready"

end Target

structure Gates where
  health : Gate
  ready : Gate
deriving DecidableEq, Repr

namespace Gates

/-- Two gates at their first reset. -/
def start (healthDelay readyDelay : Double) (clock : Clock) : Gates :=
  ⟨Gate.start healthDelay clock.monotonic, Gate.start readyDelay clock.monotonic⟩

def get (g : Gates) : Target → Gate
  | .health => g.health
  | .ready => g.ready

def reset (clock : Clock) (g : Gates) : Target → Gates
  | .health => { g with health := g.health.reset clock.monotonic }
  | .ready => { g with ready := g.ready.reset clock.monotonic }

/-- Lets the timers of both gates go off that are due. -/
def tick (clock : Clock) (g : Gates) : Gates :=
  ⟨g.health.fireDue clock.monotonic, g.ready.fireDue clock.monotonic⟩

end Gates
end Service
end Readiness
