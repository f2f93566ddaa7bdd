import Readiness.Service.Pipeline

/-!
This module contains traffic: the calls that reach an application through its pipeline, with time passing in between.
-/

namespace Readiness
namespace Service

/-- What happens to an application. -/
inductive Event where
  | call (call : Call)
  /-- Time passes, in nanoseconds. -/
  | pause (nanos : Int)

def Event.isCall : Event → Bool
  | call _ => true
  | pause _ => false

namespace Pipeline

variable {σ : Type} (p : Pipeline)

/-- The world after an event. -/
def after (app : App σ) (w : World σ) : Event → World σ
  | .call call => (p.serve app w call).world
  | .pause nanos => w.advance app nanos

/-- The world after several events. -/
def run (app : App σ) (w : World σ) (events : List Event) : World σ :=
  events.foldl (p.after app) w

theorem draws_after (app : App σ) (w : World σ) (event : Event) :
    (p.after app w event).draws = w.draws + if event.isCall then 1 else 0 := by
  cases event <;> rfl

/-- Every call takes one draw of random bytes, and nothing else does. -/
theorem draws_run (app : App σ) (w : World σ) (events : List Event) :
    (p.run app w events).draws = w.draws + events.countP Event.isCall := by
  induction events generalizing w with
  | nil => rfl
  | cons event events ih =>
    have hrun : p.run app w (event :: events) = p.run app (p.after app w event) events := rfl
    rw [hrun, ih, draws_after, List.countP_cons]
    omega

theorem run_eq {app₁ app₂ : App σ} (h : ∀ w event, p.after app₁ w event = p.after app₂ w event) (w : World σ)
    (events : List Event) : p.run app₁ w events = p.run app₂ w events := by
  have hafter : p.after app₁ = p.after app₂ := by
    funext w event
    exact h w event
  unfold run
  rw [hafter]

/-- What events may be replaced by without a difference, runs may be made of. -/
theorem run_map {app : App σ} {f : Event → Event} (h : ∀ w event, p.after app w (f event) = p.after app w event)
    (w : World σ) (events : List Event) : p.run app w (events.map f) = p.run app w events := by
  unfold run
  rw [List.foldl_map]
  congr 1
  funext w event
  exact h w event

end Pipeline
end Service
end Readiness
