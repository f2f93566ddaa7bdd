import Readiness.Proofs.Gate.Outline

/-!
This module contains the time at which a gate is achieved: never before its delay has passed since the last reset, and
as soon as timers have had the chance to go off after that. Timers of older resets do not matter.
-/

namespace Readiness

def Double.isFinite : Double → Bool
  | .finite .. => true
  | _ => false

namespace Gate

/-- Whether the step reads the clock for a reset. -/
def Step.resets : Step → Bool
  | reset => true
  | concurrentResets n => n ≠ 0
  | _ => false

/-- Whether timers have had the chance to go off when the step is over. -/
def Step.settles : Step → Bool
  | advance _ => true
  | fireDue => true
  | _ => false

namespace Bench

/-- The clock does not go back and nobody calls the callback of the current generation by hand. -/
def Regular (b : Bench) : Step → Prop
  | .advance d => .zero ≤ d
  | .tick d => .zero ≤ d
  | .fire tag => tag ≠ b.gate.generation
  | _ => True

instance (b : Bench) : (s : Step) → Decidable (b.Regular s)
  | .advance d => inferInstanceAs (Decidable (.zero ≤ d))
  | .tick d => inferInstanceAs (Decidable (.zero ≤ d))
  | .fire tag => inferInstanceAs (Decidable (tag ≠ b.gate.generation))
  | .reset | .fireDue | .cancelWorks _ | .assignDelay _ | .concurrentResets _ => inferInstanceAs (Decidable True)

def RegularRun (b : Bench) : List Step → Prop
  | [] => True
  | s :: steps => b.Regular s ∧ RegularRun (b.step s) steps

instance decidableRegularRun (b : Bench) : (steps : List Step) → Decidable (b.RegularRun steps)
  | [] => inferInstanceAs (Decidable True)
  | s :: steps =>
    have := decidableRegularRun (b.step s) steps
    inferInstanceAs (Decidable (b.Regular s ∧ (b.step s).RegularRun steps))

/-- What the clock showed at the last reset of a run; `since` is what it showed at the last one before the run. -/
def lastReset (b : Bench) (since : Double) : List Step → Double
  | [] => since
  | s :: steps => lastReset (b.step s) (if s.resets then b.clock else since) steps

/-- The clock shows a time: it may be infinitely late, as additions can overflow. -/
def IsTime (x : Double) : Prop :=
  x ≠ .nan ∧ x ≠ .inf true

theorem isTime_of_isFinite {x : Double} (h : x.isFinite = true) : IsTime x := by
  cases x with
  | finite s m => simp [IsTime]
  | _ => cases h

theorem isTime_of_le {x y : Double} (h : x ≤ y) (hx : IsTime x) : IsTime y := by
  constructor
  . apply Double.ne_nan_of_le_right h
  . intro hy
    rw [hy] at h
    exact hx.2 (Double.eq_neg_inf_of_le h)

theorem isTime_add {x d : Double} (hx : IsTime x) (hd : .zero ≤ d) : IsTime (x + d) := by
  apply isTime_of_le (Double.le_add_of_nonneg hx.1 hx.2 hd) hx

/-- Where a gate stands whose last reset read `since`. -/
structure Awaiting (delay since : Double) (b : Bench) : Prop where
  sound : b.gate.Sound
  delay_eq : b.gate.delay = delay
  isTime_clock : IsTime b.clock
  isTime_since : IsTime since
  reached : b.gate.deadline = none → delay ≤ .zero ∨ since + delay ≤ b.clock
  pending : ∀ due, b.gate.deadline = some due → ¬ delay ≤ .zero ∧ due = since + delay

namespace Awaiting

variable {delay since : Double} {b : Bench}

theorem achieved_iff (h : Awaiting delay since b) : b.gate.achieved = true ↔ b.gate.deadline = none := by
  rw [h.sound.achieved_eq, Option.isNone_iff_eq_none]

theorem of_reset {g : Gate} {clock : Double} {works : Bool} (hs : (g.reset clock works).Sound)
    (hdelay : g.delay = delay) (hclock : IsTime clock) : Awaiting delay clock ⟨g.reset clock works, clock, works⟩ := by
  subst hdelay
  have hdeadline := deadline_reset g clock works
  constructor
  . exact hs
  . apply delay_reset g clock works
  . exact hclock
  . exact hclock
  . intro hnone
    rw [hdeadline] at hnone
    by_cases hd : g.delay ≤ .zero
    . exact .inl hd
    . simp [hd] at hnone
  . intro due hdue
    rw [hdeadline] at hdue
    by_cases hd : g.delay ≤ .zero
    . simp [hd] at hdue
    . simp only [hd, ↓reduceIte, Option.some.injEq] at hdue
      exact ⟨hd, hdue.symm⟩

theorem start {clock : Double} (h : clock.isFinite = true) (delay : Double) (works : Bool) :
    Awaiting delay clock (Bench.start delay clock works) := by
  have := of_reset (sound_start delay clock works) rfl (isTime_of_isFinite h)
  exact ⟨this.sound, this.delay_eq, this.isTime_clock, this.isTime_since, this.reached, this.pending⟩

theorem reset (h : Awaiting delay since b) : Awaiting delay b.clock b.reset := by
  apply of_reset (sound_reset h.sound b.clock b.cancelWorks) h.delay_eq h.isTime_clock

theorem repeat_reset (h : Awaiting delay since b) {n : Nat} (hn : n ≠ 0) :
    Awaiting delay b.clock (n.repeat Bench.reset b) := by
  induction n with
  | zero => exact absurd rfl hn
  | succ n ih =>
    by_cases h0 : n = 0
    . subst h0
      exact h.reset
    . have := (ih h0).reset
      rwa [clock_repeat_reset] at this

theorem tick (h : Awaiting delay since b) {d : Double} (hd : .zero ≤ d) :
    Awaiting delay since { b with clock := b.clock + d } := by
  constructor
  . exact h.sound
  . exact h.delay_eq
  . apply isTime_add h.isTime_clock hd
  . exact h.isTime_since
  . intro hnone
    rcases h.reached hnone with hle | hle
    . exact .inl hle
    . apply Or.inr
      apply Double.le_trans hle (Double.le_add_of_nonneg h.isTime_clock.1 h.isTime_clock.2 hd)
  . exact h.pending

theorem fireDue (h : Awaiting delay since b) : Awaiting delay since b.fireDue := by
  have hdeadline : b.fireDue.gate.deadline = _ := deadline_fireDue h.sound b.clock
  constructor
  . apply sound_fireDue h.sound _
  . exact (delay_fireDue _ _).trans h.delay_eq
  . exact h.isTime_clock
  . exact h.isTime_since
  . intro hnone
    rw [hdeadline] at hnone
    cases hdue : b.gate.deadline with
    | none => exact h.reached hdue
    | some due =>
      rw [hdue, Option.filter_eq_none_iff] at hnone
      have hle := hnone due rfl
      rw [(h.pending due hdue).2] at hle
      apply Or.inr
      show since + delay ≤ b.clock
      simpa using hle
  . intro due hdue
    rw [hdeadline, Option.filter_eq_some_iff] at hdue
    exact h.pending due hdue.1

theorem fire (h : Awaiting delay since b) {tag : Int} (htag : tag ≠ b.gate.generation) :
    Awaiting delay since { b with gate := b.gate.fire tag } := by
  have : b.gate.fire tag = b.gate := by
    unfold Gate.fire
    rw [if_neg htag]
  rw [this]
  exact h

theorem deadline_fireDue_iff (h : Awaiting delay since b) :
    b.fireDue.gate.deadline = none ↔ delay ≤ .zero ∨ since + delay ≤ b.clock := by
  constructor
  . exact h.fireDue.reached
  . intro hle
    show (b.gate.fireDue b.clock).deadline = none
    rw [deadline_fireDue h.sound, Option.filter_eq_none_iff]
    intro due hdue
    obtain ⟨hpos, hdue⟩ := h.pending due hdue
    rcases hle with hle | hle
    . exact absurd hle hpos
    . simpa [hdue] using hle

theorem step (h : Awaiting delay since b) {s : Step} (hs : b.Regular s) :
    Awaiting delay (if s.resets then b.clock else since) (b.step s) := by
  cases s with
  | reset => exact h.reset
  | advance d => exact (h.tick hs).fireDue
  | tick d => exact h.tick hs
  | fireDue => exact h.fireDue
  | fire tag => exact h.fire hs
  | cancelWorks on => exact ⟨h.sound, h.delay_eq, h.isTime_clock, h.isTime_since, h.reached, h.pending⟩
  | assignDelay delay => exact h
  | concurrentResets n =>
    by_cases hn : n = 0
    . subst hn
      exact h
    . simp only [Step.resets, hn, ne_eq, not_false_eq_true, decide_true, ↓reduceIte]
      exact h.repeat_reset hn

theorem deadline_step_iff (h : Awaiting delay since b) {s : Step} (hs : b.Regular s) (hsettles : s.settles = true) :
    (b.step s).gate.deadline = none ↔ delay ≤ .zero ∨ since + delay ≤ (b.step s).clock := by
  cases s with
  | advance d => exact (h.tick hs).deadline_fireDue_iff
  | fireDue => exact h.deadline_fireDue_iff
  | _ => cases hsettles

theorem run (steps : List Step) {since : Double} {b : Bench} (h : Awaiting delay since b) (hs : b.RegularRun steps) :
    Awaiting delay (b.lastReset since steps) (b.run steps) := by
  induction steps generalizing since b with
  | nil => exact h
  | cons s steps ih => exact ih (h.step hs.1) hs.2

theorem isFinite_of_reached (h : Awaiting delay since b) (hdelay : ¬ delay ≤ .zero) (hclock : b.clock.isFinite = true)
    (hle : since + delay ≤ b.clock) : (since + delay).isFinite = true := by
  have hnan := Double.ne_nan_of_le_left hle
  cases hsum : since + delay with
  | nan => exact absurd hsum hnan
  | finite s m => rfl
  | inf s =>
    cases s
    . rw [hsum] at hle
      rw [Double.eq_inf_of_le hle] at hclock
      cases hclock
    . by_cases hd : delay = .nan
      . subst hd
        cases hs : since <;> rw [hs] at hsum <;> cases hsum
      . have hpos := Double.le_of_lt (Double.lt_of_not_le hd Double.zero_ne_nan hdelay)
        exact absurd hsum (isTime_add h.isTime_since hpos).2

end Awaiting

theorem lastReset_append (b : Bench) (since : Double) (steps steps' : List Step) :
    b.lastReset since (steps ++ steps') = (b.run steps).lastReset (b.lastReset since steps) steps' := by
  induction steps generalizing b since with
  | nil => rfl
  | cons s steps ih => exact ih _ _

theorem regularRun_append (b : Bench) (steps steps' : List Step) :
    b.RegularRun (steps ++ steps') ↔ b.RegularRun steps ∧ (b.run steps).RegularRun steps' := by
  induction steps generalizing b with
  | nil => simp [RegularRun, run]
  | cons s steps ih =>
    simp only [List.cons_append, RegularRun, ih, and_assoc]
    rfl

theorem resets_of_settles {s : Step} (h : s.settles = true) : s.resets = false := by
  cases s <;> first | rfl | cases h

/--
After every run a gate is achieved only if its delay is not positive or has passed since the last reset, and if timers
had the chance to go off in the last step, then exactly if so. While the clock is finite, a sum that is no finite
number is not reached.
-/
theorem achieved_window {delay clock : Double} {works : Bool} {steps : List Step} (hclock : clock.isFinite = true)
    (hregular : (start delay clock works).RegularRun steps) :
    let b := (start delay clock works).run steps
    let since := (start delay clock works).lastReset clock steps
    (b.gate.achieved = true → delay ≤ .zero ∨ since + delay ≤ b.clock)
      ∧ ((∃ s ∈ steps.getLast?, s.settles = true) →
          (b.gate.achieved = true ↔ delay ≤ .zero ∨ since + delay ≤ b.clock))
      ∧ (¬ delay ≤ .zero → b.clock.isFinite = true → (since + delay).isFinite = false → b.gate.achieved = false) := by
  have hstart := Awaiting.start hclock delay works
  have hend := hstart.run steps hregular
  refine ⟨?_, ?_, ?_⟩
  . intro hachieved
    exact hend.reached (hend.achieved_iff.mp hachieved)
  . rintro ⟨s, hlast, hsettles⟩
    rw [hend.achieved_iff]
    obtain ⟨before, rfl⟩ := List.getLast?_eq_some_iff.mp hlast
    rw [regularRun_append] at hregular
    rw [run_append, lastReset_append]
    have hbefore := hstart.run before hregular.1
    have := hbefore.deadline_step_iff hregular.2.1 hsettles
    simpa [run, lastReset, resets_of_settles hsettles] using this
  . intro hdelay hfinite hsum
    apply Bool.eq_false_iff.mpr
    intro hachieved
    rcases hend.reached (hend.achieved_iff.mp hachieved) with hle | hle
    . exact hdelay hle
    . rw [hend.isFinite_of_reached hdelay hfinite hle] at hsum
      cases hsum

/-- The timer of a reset that was not cancelled goes off in the last step, a second too early for the next reset. -/
theorem achieved_window_stale_timer :
    let steps := [.advance (.ofInt 1), .cancelWorks false, .reset, .fire 1, .advance (.ofInt 1)]
    let b := start (.ofInt 2) (.ofInt 1000) true
    (Double.ofInt 1000).isFinite = true ∧ b.RegularRun steps ∧ (b.run steps).clock = .ofInt 1002
      ∧ (b.run steps).gate.achieved = false := by
  intro steps b
  have hclock : (Double.ofInt 1000).isFinite = true := by decide +kernel
  have hregular : b.RegularRun steps := by decide +kernel
  have hlate : ¬ (b.lastReset (.ofInt 1000) steps + .ofInt 2 ≤ (b.run steps).clock) := by decide +kernel
  refine ⟨hclock, hregular, by decide +kernel, ?_⟩
  rw [Bool.eq_false_iff]
  intro hachieved
  rcases (achieved_window hclock hregular).1 hachieved with h | h
  . exact absurd h (by decide +kernel)
  . exact hlate h

end Bench
end Gate
end Readiness
