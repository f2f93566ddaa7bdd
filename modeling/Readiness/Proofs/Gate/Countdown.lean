import Readiness.Proofs.Double.Difference
import Readiness.Proofs.Except
import Readiness.Proofs.Gate.Window

/-!
This module contains the countdown of a gate. What remains is never negative, it is nothing once the gate is achieved or
the clock has reached the deadline, and it gets less until the next reset as long as the clock is not set back.
-/

namespace Readiness

open Double (Unsigned)

namespace Gate

variable {g g' : Gate} {now now' : Double}

theorem unsigned_remaining (g : Gate) (now : Double) : Unsigned (g.remaining now) := by
  unfold remaining
  split
  . exact Double.unsigned_zero
  . apply Double.unsigned_max_zero

theorem remaining_of_none (h : g.deadline = none) (now : Double) : g.remaining now = .zero := by
  unfold remaining
  rw [h]

theorem remaining_of_reached {due : Double} (h : g.deadline = some due) (hle : due ≤ now) :
    g.remaining now = .zero := by
  unfold remaining
  rw [h]
  exact Double.max_zero_of_not_pos (Double.not_pos_sub_of_le hle)

/-- A clock that shows no time leaves nothing of a delay. -/
theorem remaining_nan (g : Gate) : g.remaining .nan = .zero := by
  cases hdue : g.deadline with
  | none => exact remaining_of_none hdue _
  | some due =>
    have hnan : due - .nan = .nan := by
      cases due <;> rfl
    unfold remaining
    rw [hdue]
    dsimp only
    rw [hnan]
    exact Double.max_zero_of_not_pos Double.not_pos_nan

theorem remaining_le (hdeadline : g'.deadline = none ∨ g'.deadline = g.deadline) (hnow : now' = .nan ∨ now ≤ now') :
    g'.remaining now' ≤ g.remaining now := by
  have hzero := (unsigned_remaining g now).zero_le
  rcases hdeadline with hnone | hsame
  . rw [remaining_of_none hnone]
    exact hzero
  . rcases hnow with rfl | hle
    . rw [remaining_nan]
      exact hzero
    . unfold remaining
      rw [hsame]
      split
      . apply Double.le_refl Double.zero_ne_nan
      . apply Double.max_zero_sub_le hle

theorem remainingMs_le (h : g'.remaining now' ≤ g.remaining now) {ms : Int} (hms : g.remainingMs now = .ok ms) :
    ∃ ms', g'.remainingMs now' = .ok ms' ∧ ms' ≤ ms := by
  have hg' := unsigned_remaining g' now'
  have hg := unsigned_remaining g now
  have hthousand : 0 < 1000 ∧ 1000 ≤ Nat.pow 2 53 := by decide
  have hle := hg'.mul_ofInt_mono hg h hthousand.1 hthousand.2
  have hunsigned {x : Double} (hx : Unsigned x) := Double.unsigned_mul_ofInt hx hthousand.1 hthousand.2
  exact (hunsigned hg').truncToInt_mono (hunsigned hg) hle hms

namespace Bench

def remaining (b : Bench) : Double :=
  b.gate.remaining b.clock

def remainingMs (b : Bench) : Except Double.IntegerError Int :=
  b.gate.remainingMs b.clock

/-- The step is no reset and does not set the clock back. -/
def Onward (b : Bench) (s : Step) : Prop :=
  s.resets = false ∧ ¬ (b.step s).clock < b.clock

instance (b : Bench) (s : Step) : Decidable (b.Onward s) :=
  inferInstanceAs (Decidable (_ ∧ _))

def OnwardRun (b : Bench) : List Step → Prop
  | [] => True
  | s :: steps => b.Onward s ∧ OnwardRun (b.step s) steps

instance decidableOnwardRun (b : Bench) : (steps : List Step) → Decidable (b.OnwardRun steps)
  | [] => inferInstanceAs (Decidable True)
  | s :: steps =>
    have := decidableOnwardRun (b.step s) steps
    inferInstanceAs (Decidable (b.Onward s ∧ (b.step s).OnwardRun steps))

variable {b : Bench} {s : Step}

theorem deadline_step_of_not_resets (hs : s.resets = false) :
    (b.step s).gate.deadline = none ∨ (b.step s).gate.deadline = b.gate.deadline := by
  have hfireDue (now : Double) :
      (b.gate.fireDue now).deadline = none ∨ (b.gate.fireDue now).deadline = b.gate.deadline := by
    rw [fireDue_eq]
    split
    . exact .inl rfl
    . exact .inr rfl
  cases s with
  | reset => cases hs
  | advance d => exact hfireDue (b.clock + d)
  | tick d => exact .inr rfl
  | fireDue => exact hfireDue b.clock
  | fire tag =>
    show (b.gate.fire tag).deadline = none ∨ (b.gate.fire tag).deadline = b.gate.deadline
    unfold Gate.fire
    split
    . exact .inl rfl
    . exact .inr rfl
  | cancelWorks on => exact .inr rfl
  | assignDelay delay => exact .inr rfl
  | concurrentResets n =>
    have hn : n = 0 := by simpa [Step.resets] using hs
    subst hn
    exact .inr rfl

theorem clock_step (b : Bench) (s : Step) : (b.step s).clock = b.clock ∨ ∃ d, (b.step s).clock = b.clock + d := by
  cases s with
  | advance d => exact .inr ⟨d, rfl⟩
  | tick d => exact .inr ⟨d, rfl⟩
  | concurrentResets n => exact .inl (clock_repeat_reset b n)
  | _ => exact .inl rfl

theorem Onward.clock_le (h : b.Onward s) : (b.step s).clock = .nan ∨ b.clock ≤ (b.step s).clock := by
  by_cases hafter : (b.step s).clock = .nan
  . exact .inl hafter
  . -- a clock that shows no time does not show one later
    have hbefore : b.clock ≠ .nan := by
      intro hnan
      apply hafter
      rcases clock_step b s with hclock | ⟨d, hclock⟩
      . rw [hclock, hnan]
      . rw [hclock, hnan]
        rfl
    exact .inr (Double.le_of_not_lt hbefore hafter h.2)

theorem remaining_step_le (h : b.Onward s) : (b.step s).remaining ≤ b.remaining := by
  apply remaining_le
  . exact deadline_step_of_not_resets h.1
  . exact h.clock_le

theorem remaining_run_le (steps : List Step) {b : Bench} (h : b.OnwardRun steps) :
    (b.run steps).remaining ≤ b.remaining := by
  induction steps generalizing b with
  | nil => exact Double.le_refl (unsigned_remaining _ _).ne_nan
  | cons s steps ih => exact Double.le_trans (ih h.2) (remaining_step_le h.1)

/--
After every run what remains is a number that is not negative, and zero if the gate is achieved or the clock has reached
the deadline. From there on it does not grow before the next reset unless the clock is set back, and neither does its
number of milliseconds: once there is one, there always is.
-/
theorem remaining_counts_down (delay clock : Double) (works : Bool) (before : List Step) :
    let a := (start delay clock works).run before
    (.zero ≤ a.remaining ∧ a.remaining ≠ .nan)
      ∧ (a.gate.achieved = true ∨ (∃ due, a.gate.deadline = some due ∧ due ≤ a.clock) → a.remaining = .zero)
      ∧ ∀ after, a.OnwardRun after →
        (a.run after).remaining ≤ a.remaining
          ∧ ∀ ms, a.remainingMs = .ok ms → ∃ ms', (a.run after).remainingMs = .ok ms' ∧ ms' ≤ ms := by
  intro a
  have hunsigned : Unsigned a.remaining := unsigned_remaining a.gate a.clock
  have hsound : a.gate.Sound := sound_run before (sound_start delay clock works)
  refine ⟨⟨hunsigned.zero_le, hunsigned.ne_nan⟩, ?_, ?_⟩
  . rintro (hachieved | ⟨due, hdue, hle⟩)
    . rw [hsound.achieved_eq, Option.isNone_iff_eq_none] at hachieved
      exact remaining_of_none hachieved a.clock
    . exact remaining_of_reached hdue hle
  . intro after hafter
    have hle := remaining_run_le after hafter
    exact ⟨hle, fun ms hms => remainingMs_le hle hms⟩

/-- An old callback does not stop the countdown, and the last timer ends it. -/
theorem remaining_counts_down_stale_callback :
    let before := [.tick (.ofInt (-5)), .reset]
    let after := [.tick (.ofInt 1), .fire 1, .advance (.ofInt 1)]
    let a := (start (.ofInt 2) (.ofInt 1000) false).run before
    a.OnwardRun after ∧ a.remainingMs = .ok 2000 ∧ ∃ ms, (a.run after).remainingMs = .ok ms ∧ ms ≤ 2000 := by
  intro before after a
  have hafter : a.OnwardRun after := by decide +kernel
  have hms : a.remainingMs = .ok 2000 := eq_ok_of_toOption (by decide +kernel)
  obtain ⟨_, _, hcounts⟩ := remaining_counts_down (.ofInt 2) (.ofInt 1000) false before
  exact ⟨hafter, hms, (hcounts after hafter).2 2000 hms⟩

end Bench
end Gate
end Readiness
