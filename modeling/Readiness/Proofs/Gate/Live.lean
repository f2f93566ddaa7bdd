import Readiness.Proofs.Gate.Outline

/-!
This module contains the timers that run while cancelling works and callbacks are left to timers: there is one while the
gate is pending, the one that its handle refers to, and none once it is achieved.
-/

namespace Readiness
namespace Gate

/-- Cancelling stays on, and no callback is called by hand. -/
def Step.isOrdinary : Step → Bool
  | fire _ => false
  | cancelWorks on => on
  | _ => true

/-- The only timer that runs is the one which the gate waits for. -/
structure Tidy (g : Gate) : Prop where
  timers_eq : g.timers = (g.deadline.map fun due => ⟨due, g.generation⟩).toList
  handle_eq : g.handle = g.deadline.map fun _ => g.generation

namespace Tidy

variable {g : Gate}

/-- Giving up the handle leaves no timer behind. -/
theorem dropTimer_eq (h : g.Tidy) : g.dropTimer true = { g with handle := none, timers := [] } := by
  obtain ⟨delay, generation, achieved, deadline, handle, timers⟩ := g
  obtain ⟨htimers, hhandle⟩ := h
  dsimp only at htimers hhandle
  subst htimers hhandle
  cases deadline with
  | none => rfl
  | some due => simp [dropTimer]

theorem reset (h : g.Tidy) (now : Double) : (g.reset now true).Tidy := by
  unfold Gate.reset
  rw [h.dropTimer_eq]
  dsimp only
  split
  . constructor <;> rfl
  . constructor <;> rfl

theorem start (delay now : Double) : (Gate.start delay now).Tidy := by
  -- there is nothing yet that the first reset could leave behind
  apply reset
  constructor <;> rfl

theorem fireDue (h : g.Tidy) (now : Double) : (g.fireDue now).Tidy := by
  obtain ⟨delay, generation, achieved, deadline, handle, timers⟩ := g
  obtain ⟨htimers, hhandle⟩ := h
  dsimp only at htimers hhandle
  subst htimers hhandle
  rw [fireDue_eq]
  unfold isDue
  cases deadline with
  | none => constructor <;> simp
  | some due => by_cases hle : due ≤ now <;> constructor <;> simp [hle]

end Tidy

namespace Bench

/-- The bench is tidy and its cancelling works. -/
structure Tidy (b : Bench) : Prop where
  gate : b.gate.Tidy
  works : b.cancelWorks = true

namespace Tidy

variable {b : Bench}

theorem reset (h : b.Tidy) : b.reset.Tidy := by
  refine ⟨?_, h.works⟩
  unfold Bench.reset
  rw [h.works]
  exact h.gate.reset b.clock

theorem repeat_reset (h : b.Tidy) (n : Nat) : (n.repeat Bench.reset b).Tidy := by
  induction n with
  | zero => exact h
  | succ n ih => exact ih.reset

theorem step (h : b.Tidy) {s : Step} (hs : s.isOrdinary = true) : (b.step s).Tidy := by
  cases s with
  | reset => exact h.reset
  | advance d => exact ⟨h.gate.fireDue _, h.works⟩
  | tick d => exact ⟨h.gate, h.works⟩
  | fireDue => exact ⟨h.gate.fireDue _, h.works⟩
  | fire tag => cases hs
  | cancelWorks on => exact ⟨h.gate, hs⟩
  | assignDelay delay => exact h
  | concurrentResets n => exact h.repeat_reset n

theorem run (steps : List Step) (hs : ∀ s ∈ steps, s.isOrdinary = true) {b : Bench} (h : b.Tidy) : (b.run steps).Tidy := by
  induction steps generalizing b with
  | nil => exact h
  | cons s steps ih =>
    rw [List.forall_mem_cons] at hs
    exact ih hs.2 (h.step hs.1)

end Tidy

/--
While cancelling works and callbacks are left to timers, one timer runs if the gate is pending and none if it is
achieved. The one has the current generation and goes off at the deadline, and the handle refers to it.
-/
theorem no_timer_left_behind (delay clock : Double) {steps : List Step} (h : ∀ s ∈ steps, s.isOrdinary = true) :
    let g := ((start delay clock true).run steps).gate
    g.timers.length = (if g.achieved then 0 else 1)
      ∧ (∀ t ∈ g.timers, t.generation = g.generation ∧ g.deadline = some t.due)
      ∧ g.handle = g.timers.head?.map (·.generation) := by
  intro g
  have hstart : (start delay clock true).Tidy := ⟨Gate.Tidy.start delay clock, rfl⟩
  have hg : g.Tidy := (hstart.run steps h).gate
  have hsound : g.Sound := sound_run steps (sound_start delay clock true)
  rw [hsound.achieved_eq, hg.timers_eq, hg.handle_eq]
  cases g.deadline <;> simp

/-- A timer that is due but was not let go off yet is cancelled by a reset, and one that went off is not missed. -/
theorem no_timer_left_behind_late_reset :
    let steps := [.advance (.ofInt 2), .reset, .tick (.ofInt 3), .concurrentResets 3, .fireDue]
    let g := ((start (.ofInt 2) (.ofInt 1000) true).run steps).gate
    (∀ s ∈ steps, Step.isOrdinary s = true) ∧ g.achieved = false ∧ g.timers.length = 1 ∧ g.handle = some 5 := by
  intro steps g
  have hsteps : ∀ s ∈ steps, Step.isOrdinary s = true := by decide
  have hachieved : g.achieved = false := by decide +kernel
  have hhandle : g.handle = some 5 := by decide +kernel
  have hlength := (no_timer_left_behind (.ofInt 2) (.ofInt 1000) hsteps).1
  refine ⟨hsteps, hachieved, ?_, hhandle⟩
  rw [hlength, hachieved]
  rfl

end Bench
end Gate
end Readiness
