import Readiness.Gate.Basic

/-!
This module contains a gate on a bench: next to a clock that is moved by hand, with a switch that disables the
cancelling of timers and direct access to the callback of a timer.
-/

namespace Readiness
namespace Gate

structure Bench where
  gate : Gate
  clock : Double
  cancelWorks : Bool
deriving DecidableEq, Repr

inductive Step where
  | reset
  /-- Moves the clock and lets due timers go off. -/
  | advance (d : Double)
  /-- Moves the clock only. -/
  | tick (d : Double)
  | fireDue
  /-- Calls the callback of the timer of some generation, whether or not there is one. -/
  | fire (tag : Int)
  | cancelWorks (on : Bool)
  /-- Tries to assign the delay, which is fixed at construction. -/
  | assignDelay (delay : Double)
  /-- That many resets at the same time, one after the other in some order. -/
  | concurrentResets (n : Nat)
deriving DecidableEq, Repr

/-- Whether the gate refuses the step. -/
def Step.refused : Step → Bool
  | assignDelay _ => true
  | _ => false

namespace Bench

def start (delay clock : Double) (cancelWorks : Bool) : Bench :=
  ⟨Gate.start delay clock, clock, cancelWorks⟩

def reset (b : Bench) : Bench :=
  { b with gate := b.gate.reset b.clock b.cancelWorks }

def fireDue (b : Bench) : Bench :=
  { b with gate := b.gate.fireDue b.clock }

def step (b : Bench) : Step → Bench
  | .reset => b.reset
  | .advance d => { b with clock := b.clock + d }.fireDue
  | .tick d => { b with clock := b.clock + d }
  | .fireDue => b.fireDue
  | .fire tag => { b with gate := b.gate.fire tag }
  | .cancelWorks on => { b with cancelWorks := on }
  | .assignDelay _ => b
  | .concurrentResets n => n.repeat reset b

def run (b : Bench) (steps : List Step) : Bench :=
  steps.foldl step b

/-- The benches after each step. -/
def trace (b : Bench) : List Step → List Bench
  | [] => []
  | s :: steps => b.step s :: trace (b.step s) steps

end Bench
end Gate
end Readiness
