import Mathlib.Algebra.Order.Ring.Int
import Readiness.Proofs.Gate.Passing
import Readiness.Proofs.Gate.Remaining

/-!
This module contains gates over clocks that do not go back: such a gate is pending for its delay from the last reset on,
and until the clock has been moved after it.
-/

namespace Readiness
namespace Gate

/-- The clock at the last reset of a gate and whether it has been moved since. -/
structure Wait where
  since : Clock
  moved : Bool
deriving DecidableEq, Repr

namespace Wait

/-- Whether the delay is over. Timers go off only when the clock is moved. -/
def IsOver (wait : Wait) (delay : Double) (now : Clock) : Prop :=
  delay ≤ .zero ∨ wait.moved = true ∧ wait.since.monotonic + delay ≤ now.monotonic

instance (wait : Wait) (delay : Double) (now : Clock) : Decidable (wait.IsOver delay now) :=
  inferInstanceAs (Decidable (_ ∨ _))

/-- The clock is moved this many times. -/
def move (wait : Wait) (times : List Int) : Wait :=
  { wait with moved := wait.moved || !times.isEmpty }

theorem move_nil (wait : Wait) : wait.move [] = wait := by
  simp [move]

theorem move_cons (wait : Wait) (t : Int) (times : List Int) : wait.move (t :: times) = ⟨wait.since, true⟩ := by
  simp [move]

theorem add_ne_nan (c : Clock) {delay : Double} (hd : Double.Within secondsExponent delay) :
    c.monotonic + delay ≠ .nan := by
  -- a delay with a text is finite, and readings are never not a number
  have he := secondsExponent_eq
  rcases Clock.monotonic_cases c with ⟨s, hc⟩ | hc
  . obtain ⟨t, m, rfl, _⟩ := hd
    rw [hc, Double.inf_add_finite]
    simp
  . exact (hc.add hd (by omega)).ne_nan

theorem not_isOver_iff (wait : Wait) {delay : Double} (hd : Double.Within secondsExponent delay) (now : Clock) :
    ¬ wait.IsOver delay now ↔
      .zero < delay ∧ (now.monotonic < wait.since.monotonic + delay ∨ wait.moved = false) := by
  have hnan := add_ne_nan wait.since hd
  unfold IsOver
  constructor
  . intro hnot
    simp only [not_or, not_and] at hnot
    refine ⟨Double.lt_of_not_le hd.ne_nan Double.zero_ne_nan hnot.1, ?_⟩
    cases hmoved : wait.moved with
    | false => exact .inr rfl
    | true => exact .inl (Double.lt_of_not_le hnan now.monotonic_ne_nan (hnot.2 hmoved))
  . rintro ⟨hpos, hpending⟩ (hle | ⟨hmoved, hle⟩)
    . apply Double.not_le_of_lt hpos hle
    . rcases hpending with hlt | hnot
      . apply Double.not_le_of_lt hlt hle
      . rw [hnot] at hmoved
        cases hmoved

end Wait

/-- The gate has waited since a reset, up to a clock value. -/
structure Awaits (delay : Double) (wait : Wait) (now : Clock) (g : Gate) : Prop where
  forward : wait.since.mono ≤ now.mono
  deadline : g.deadline = if wait.IsOver delay now then none else some (wait.since.monotonic + delay)

theorem awaits_reset {delay : Double} {g : Gate} (h : g.delay = delay) (now : Clock) :
    Awaits delay ⟨now, false⟩ now (g.reset now.monotonic) := by
  refine ⟨Int.le_refl _, ?_⟩
  rw [deadline_reset, h]
  simp [Wait.IsOver]

theorem awaits_start (delay : Double) (now : Clock) : Awaits delay ⟨now, false⟩ now (start delay now.monotonic) := by
  exact awaits_reset (by rfl) now

theorem Awaits.fireDue {delay : Double} {wait : Wait} {now : Clock} {g : Gate} (h : Awaits delay wait now g)
    (hs : g.Sound) {nanos : Int} (hn : 0 ≤ nanos) :
    Awaits delay ⟨wait.since, true⟩ (now.advance nanos) (g.fireDue (now.advance nanos).monotonic) := by
  have hforward : now.mono ≤ (now.advance nanos).mono := by
    unfold Clock.advance
    dsimp only
    omega
  have hle := Clock.monotonic_le hforward
  refine ⟨Int.le_trans h.forward hforward, ?_⟩
  rw [deadline_fireDue hs, h.deadline]
  generalize now.advance nanos = now' at hle
  by_cases hd : delay ≤ .zero
  . simp [Wait.IsOver, hd]
  . by_cases hover : wait.moved = true ∧ wait.since.monotonic + delay ≤ now.monotonic
    . have := Double.le_trans hover.2 hle
      simp [Wait.IsOver, hd, hover, this]
    . have hnot : ¬ wait.IsOver delay now := by
        rintro (h | h)
        . exact hd h
        . exact hover h
      rw [if_neg hnot]
      by_cases hdue : wait.since.monotonic + delay ≤ now'.monotonic
      . simp [Wait.IsOver, hd, hdue, Option.filter]
      . simp [Wait.IsOver, hd, hdue, Option.filter]

theorem Awaits.pass {delay : Double} (times : List Int) (hn : ∀ t ∈ times, 0 ≤ t) {wait : Wait} {now : Clock} {g : Gate}
    (h : Awaits delay wait now g) (hs : g.Sound) :
    Awaits delay (wait.move times) (now.advance times.sum) (g.pass (now.readings times)) := by
  induction times generalizing wait now g with
  | nil =>
    rw [Wait.move_nil, List.sum_nil, Clock.advance_zero]
    exact h
  | cons t times ih =>
    have hfire := h.fireDue hs (hn t List.mem_cons_self)
    have hrest := ih (fun u hu => hn u (List.mem_cons_of_mem t hu)) hfire (sound_fireDue hs _)
    rw [Wait.move_cons, List.sum_cons, ← Clock.advance_advance]
    exact hrest

theorem Awaits.achieved {delay : Double} {wait : Wait} {now : Clock} {g : Gate} (h : Awaits delay wait now g)
    (hs : g.Sound) :
    g.achieved = decide (wait.IsOver delay now) := by
  rw [hs.achieved_eq, h.deadline]
  by_cases hover : wait.IsOver delay now <;> simp [hover]

theorem Awaits.remainingMs_ok {delay : Double} (hd : Double.Within secondsExponent delay) {wait : Wait} {now : Clock}
    {g : Gate} (h : Awaits delay wait now g) : ∃ ms, g.remainingMs now.monotonic = .ok ms ∧ 0 ≤ ms := by
  apply Gate.remainingMs_ok h.forward hd
  rw [h.deadline]
  split
  . exact .inl rfl
  . exact .inr rfl

end Gate
end Readiness
