import Readiness.Proofs.Gate.Outline

/-!
This module contains the fact that cancelling timers is an optimisation: whether it works, and when it starts or stops
to work, cannot be observed.
-/

namespace Readiness
namespace Gate

def Step.isSwitch : Step → Bool
  | cancelWorks _ => true
  | _ => false

namespace Bench

/-- What a gate tells when it is asked. -/
structure Observation where
  achieved : Bool
  generation : Nat
  deadline : Option Double
  remaining : Double
deriving DecidableEq, Repr

def observe (b : Bench) : Observation :=
  ⟨b.gate.achieved, b.gate.generation, b.gate.deadline, b.gate.remaining b.clock⟩

/-- What is observed after each step, apart from the steps that only switch the cancelling. -/
def observations (b : Bench) : List Step → List Observation
  | [] => []
  | s :: steps =>
    if s.isSwitch then
      observations (b.step s) steps
    else
      (b.step s).observe :: observations (b.step s) steps

theorem observations_cons_of_pos (b : Bench) {s : Step} (h : s.isSwitch = true) (steps : List Step) :
    observations b (s :: steps) = observations (b.step s) steps := by
  rw [observations, if_pos h]

theorem observations_cons_of_neg (b : Bench) {s : Step} (h : ¬ s.isSwitch = true) (steps : List Step) :
    observations b (s :: steps) = (b.step s).observe :: observations (b.step s) steps := by
  rw [observations, if_neg h]

theorem observe_eq_of_outline_eq {a b : Bench} (ha : a.gate.Sound) (hb : b.gate.Sound) (h : a.outline = b.outline) :
    a.observe = b.observe := by
  simp only [outline, Gate.outline, Outline.mk.injEq, Gate.Outline.mk.injEq] at h
  obtain ⟨⟨_, hgeneration, hdeadline⟩, hclock⟩ := h
  unfold observe remaining
  rw [ha.achieved_eq, hb.achieved_eq, hgeneration, hdeadline, hclock]

theorem outline_step_of_isSwitch (b : Bench) {s : Step} (h : s.isSwitch = true) : (b.step s).outline = b.outline := by
  cases s with
  | cancelWorks on => rfl
  | _ => cases h

theorem observations_filter (steps : List Step) {a b : Bench} (ha : a.gate.Sound) (hb : b.gate.Sound)
    (h : a.outline = b.outline) :
    observations a steps = observations b (steps.filter (!·.isSwitch)) := by
  induction steps generalizing a b with
  | nil => rfl
  | cons s steps ih =>
    by_cases hs : s.isSwitch = true
    . rw [observations_cons_of_pos a hs, List.filter_cons_of_neg (by simp [hs])]
      apply ih (sound_step ha s) hb
      rw [outline_step_of_isSwitch a hs]
      exact h
    . have hstep : (a.step s).outline = (b.step s).outline := by
        rw [outline_step ha, outline_step hb, h]
      rw [List.filter_cons_of_pos (by simp [hs]), observations_cons_of_neg a hs, observations_cons_of_neg b hs]
      congr 1
      . apply observe_eq_of_outline_eq (sound_step ha s) (sound_step hb s) hstep
      . exact ih (sound_step ha s) (sound_step hb s) hstep

/--
A run in which cancelling is switched on and off at will looks, after every step, like the run of the same steps in
which it always works and like the one in which it never does.
-/
theorem cancelling_unobservable (delay clock : Double) (works : Bool) (steps : List Step) :
    let plain := steps.filter (!·.isSwitch)
    observations (start delay clock works) steps = observations (start delay clock true) plain
      ∧ observations (start delay clock works) steps = observations (start delay clock false) plain := by
  have hsound := sound_start delay clock
  constructor
  . apply observations_filter steps (hsound works) (hsound true) rfl
  . apply observations_filter steps (hsound works) (hsound false) rfl

end Bench
end Gate
end Readiness
