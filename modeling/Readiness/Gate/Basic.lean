import Readiness.Double.Integer
import Readiness.Double.Text

/-!
This module contains the gate: a flag that becomes true a fixed delay after its most recent reset.

Every reset takes a new generation and starts a timer tagged with it. A timer that goes off achieves the gate only
while its generation is the current one, so a timer of an older reset never does, whether or not it was cancelled.
-/

namespace Readiness

namespace Gate

/-- A timer that is running: when it goes off and the generation that started it. -/
structure Timer where
  due : Double
  generation : Nat
deriving DecidableEq, Repr

end Gate

structure Gate where
  delay : Double
  generation : Nat
  achieved : Bool
  /-- The clock value at which a pending gate is expected to be achieved. -/
  deadline : Option Double
  /-- The generation of the timer that a reset would cancel. -/
  handle : Option Nat
  /-- The timers that were started and have neither gone off nor been cancelled, oldest first. -/
  timers : List Gate.Timer
deriving DecidableEq, Repr

namespace Gate

/-- Stops the timer at hand, if cancelling works, and lets go of it either way. -/
def dropTimer (g : Gate) (cancelWorks : Bool) : Gate :=
  match g.handle with
  | none => g
  | some tag =>
    { g with
      handle := none
      timers := if cancelWorks then g.timers.filter (·.generation ≠ tag) else g.timers }

/-- Forces the gate back to pending and restarts its delay. -/
def reset (g : Gate) (now : Double) (cancelWorks : Bool := true) : Gate :=
  let g := g.dropTimer cancelWorks
  let generation := g.generation + 1
  if g.delay ≤ .zero then
    { g with generation, achieved := true, deadline := none }
  else
    let due := now + g.delay
    { g with
      generation
      achieved := false
      deadline := some due
      handle := some generation
      timers := g.timers ++ [⟨due, generation⟩] }

/-- A gate at its first reset. -/
def start (delay now : Double) : Gate :=
  Gate.reset ⟨delay, 0, false, none, none, []⟩ now

/-- What a timer does when it goes off: nothing unless its generation is the current one. -/
def fire (g : Gate) (tag : Int) : Gate :=
  if tag = g.generation then
    { g with achieved := true, deadline := none, handle := none }
  else
    g

/-- Lets all timers go off that are due. Their order does not matter, as at most one of them has an effect. -/
def fireDue (g : Gate) (now : Double) : Gate :=
  let due := g.timers.filter (·.due ≤ now)
  due.foldl (fun g t => g.fire t.generation) { g with timers := g.timers.filter (¬ ·.due ≤ now) }

/-- The seconds until the gate is expected to be achieved, never negative. -/
def remaining (g : Gate) (now : Double) : Double :=
  match g.deadline with
  | none => .zero
  | some deadline => Double.max .zero (deadline - now)

def remainingMs (g : Gate) (now : Double) : Except Double.IntegerError Int :=
  (g.remaining now * Double.ofInt 1000).truncToInt

def describe (g : Gate) : String :=
  let state := if g.achieved then "achieved" else "pending"
  s!"<DelayedGate delay={g.delay.toText}s {state} generation={g.generation}>"

end Gate
end Readiness
