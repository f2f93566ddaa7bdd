import Readiness.Proofs.Clock
import Readiness.Proofs.Gate.Outline

/-!
This module contains what the passing of time does to a gate: it can take the deadline away, and nothing else that can
be told from outside.
-/

namespace Readiness

namespace Clock

/-- The readings of a clock after each of several times that pass. -/
def readings (c : Clock) : List Int → List Clock
  | [] => []
  | t :: ts => c.advance t :: readings (c.advance t) ts

end Clock

namespace Gate

/-- Lets the timers go off that are due at readings of the clock, one reading after another. -/
def pass (g : Gate) (readings : List Clock) : Gate :=
  readings.foldl (fun g c => g.fireDue c.monotonic) g

theorem delay_pass (g : Gate) (readings : List Clock) : (g.pass readings).delay = g.delay := by
  induction readings generalizing g with
  | nil => rfl
  | cons c readings ih =>
    rw [← delay_fireDue g c.monotonic]
    exact ih _

theorem generation_pass (g : Gate) (readings : List Clock) : (g.pass readings).generation = g.generation := by
  induction readings generalizing g with
  | nil => rfl
  | cons c readings ih =>
    rw [← generation_fireDue g c.monotonic]
    exact ih _

theorem sound_pass {g : Gate} (h : g.Sound) (readings : List Clock) : (g.pass readings).Sound := by
  induction readings generalizing g with
  | nil => exact h
  | cons c readings ih => exact ih (sound_fireDue h _)

theorem deadline_pass {g : Gate} (h : g.Sound) (readings : List Clock) :
    (g.pass readings).deadline = g.deadline.filter fun due => ∀ c ∈ readings, ¬ due ≤ c.monotonic := by
  induction readings generalizing g with
  | nil => cases hdue : g.deadline <;> simp [pass, hdue, Option.filter]
  | cons c readings ih =>
    have := ih (sound_fireDue h c.monotonic)
    rw [deadline_fireDue h] at this
    refine this.trans ?_
    cases g.deadline with
    | none => rfl
    | some due => by_cases hdue : due ≤ c.monotonic <;> simp [Option.filter, hdue]

/-- Between two moments nothing happened to a gate but that timers went off which were due at these readings. -/
structure Undisturbed (before after : Gate) (readings : List Clock) : Prop where
  delay : after.delay = before.delay
  generation : after.generation = before.generation
  deadline : after.deadline = before.deadline.filter fun due => ∀ c ∈ readings, ¬ due ≤ c.monotonic
  achieved : after.achieved = (before.achieved || before.deadline.any fun due => ∃ c ∈ readings, due ≤ c.monotonic)

theorem undisturbed_pass {g : Gate} (h : g.Sound) (readings : List Clock) :
    g.Undisturbed (g.pass readings) readings := by
  refine ⟨delay_pass g readings, generation_pass g readings, deadline_pass h readings, ?_⟩
  rw [(sound_pass h readings).achieved_eq, deadline_pass h, h.achieved_eq]
  cases g.deadline with
  | none => rfl
  | some due =>
    by_cases hdue : ∃ c ∈ readings, due ≤ c.monotonic
    . have hnot : ¬ ∀ c ∈ readings, ¬ due ≤ c.monotonic := by simpa using hdue
      simp only [Option.filter, hnot, decide_false, Bool.false_eq_true, ↓reduceIte, Option.any_some, hdue]
      rfl
    . have hall : ∀ c ∈ readings, ¬ due ≤ c.monotonic := by simpa using hdue
      simp only [Option.filter, decide_eq_true hall, ↓reduceIte, Option.any_some, hdue]
      rfl

/-- Between two moments a gate was reset once, at this reading of the clock. -/
structure Restarted (before after : Gate) (now : Clock) : Prop where
  delay : after.delay = before.delay
  generation : after.generation = before.generation + 1
  deadline : after.deadline = if before.delay ≤ .zero then none else some (now.monotonic + before.delay)
  achieved : after.achieved = decide (before.delay ≤ .zero)

theorem restarted_reset {g : Gate} (h : g.Sound) (readings : List Clock) (now : Clock) :
    g.Restarted ((g.pass readings).reset now.monotonic) now := by
  have hdeadline := deadline_reset (g.pass readings) now.monotonic true
  rw [delay_pass] at hdeadline
  constructor
  . rw [delay_reset, delay_pass]
  . rw [generation_reset, generation_pass]
  . exact hdeadline
  . rw [(sound_reset (sound_pass h readings) _ _).achieved_eq, hdeadline]
    by_cases hd : g.delay ≤ .zero <;> simp [hd]

end Gate
end Readiness
