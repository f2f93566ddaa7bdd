import Readiness.Duration.Printer
import Readiness.Gate.Basic
import Readiness.Proofs.Clock
import Readiness.Proofs.Double.Difference

/-!
This module contains the time that remains of a delay: a pending gate whose delay has a text always has a number of
milliseconds to wait.
-/

namespace Readiness

open Double (Within)

namespace Gate

theorem within_of_nanos {delay : Double} {n : Int} (h : Duration.nanos delay = .ok n) :
    Within secondsExponent delay := by
  have he := secondsExponent_eq
  exact Double.within_of_mul_ofInt (n := 1000000000) (f := 29) (by decide) (by decide) (by omega) h

theorem max_zero_inf : Double.max .zero (.inf true) = .zero := by
  exact Double.max_zero_of_not_pos Double.not_pos_neg_inf

theorem max_zero_of_within {e : Nat} {x : Double} (h : Within e x) :
    ∃ m, Double.max .zero x = .finite false m ∧ m.quanta ≤ Nat.pow 2 e := by
  obtain ⟨s, m, rfl, hm⟩ := h
  by_cases hpos : .zero < Double.finite s m
  . rw [Double.max_zero_of_pos hpos]
    rcases Double.unsigned_of_pos hpos with hinf | ⟨n, hn⟩
    . cases hinf
    . cases hn
      exact ⟨m, rfl, hm⟩
  . rw [Double.max_zero_of_not_pos hpos]
    exact ⟨.zero, rfl, Nat.zero_le _⟩

/--
What remains of a delay after a reset at one reading is finite at every later reading, even beyond the finite range.
-/
theorem remaining_within {c now : Clock} (h : c.mono ≤ now.mono) {delay : Double} (hd : Within secondsExponent delay) :
    ∃ m, Double.max .zero (c.monotonic + delay - now.monotonic) = .finite false m
      ∧ m.quanta ≤ Nat.pow 2 (secondsExponent + 2) := by
  have he := secondsExponent_eq
  have hle := Clock.monotonic_le h
  have hzero : ∃ m, Double.zero = .finite false m ∧ m.quanta ≤ Nat.pow 2 (secondsExponent + 2) :=
    ⟨.zero, rfl, Nat.zero_le _⟩
  rcases Clock.monotonic_cases c with ⟨s, hc⟩ | hc
  . obtain ⟨t, m, rfl, _⟩ := hd
    rw [hc, Double.inf_add_finite]
    rw [hc] at hle
    cases s
    . rw [Double.eq_inf_of_le hle]
      exact hzero
    . rcases Clock.monotonic_cases now with ⟨t, hnow⟩ | ⟨t, m, hnow, _⟩
      . rw [hnow]
        cases t
        . have : Double.inf true - .inf false = .inf true := rfl
          rw [this, max_zero_inf]
          exact hzero
        . exact hzero
      . rw [hnow]
        have : Double.inf true - .finite t m = .inf true := rfl
        rw [this, max_zero_inf]
        exact hzero
  . have hsum := hc.add hd (by omega)
    rcases Clock.monotonic_cases now with ⟨t, hnow⟩ | hnow
    . rw [hnow] at hle ⊢
      cases t
      . obtain ⟨s, m, hm, _⟩ := hsum
        rw [hm]
        have : Double.finite s m - .inf false = .inf true := rfl
        rw [this, max_zero_inf]
        exact hzero
      . have hneg := Double.eq_neg_inf_of_le hle
        obtain ⟨s, m, hm, _⟩ := hc
        rw [hm] at hneg
        cases hneg
    . exact max_zero_of_within (hsum.sub (hnow.mono (by omega)) (by omega))

/-- A gate that was reset at one clock value can tell at every later one how long it has to wait. -/
theorem remainingMs_ok {g : Gate} {c now : Clock} (h : c.mono ≤ now.mono) {delay : Double}
    (hd : Within secondsExponent delay) (hg : g.deadline = none ∨ g.deadline = some (c.monotonic + delay)) :
    ∃ ms, g.remainingMs now.monotonic = .ok ms ∧ 0 ≤ ms := by
  have hfinite : ∃ m, g.remaining now.monotonic = .finite false m ∧ m.quanta ≤ Nat.pow 2 (secondsExponent + 2) := by
    unfold remaining
    rcases hg with hg | hg
    . rw [hg]
      exact ⟨.zero, rfl, Nat.zero_le _⟩
    . rw [hg]
      apply remaining_within h hd
  obtain ⟨m, hm, hq⟩ := hfinite
  have he := secondsExponent_eq
  unfold remainingMs
  obtain ⟨k, hk, _⟩ := Double.exists_mul_ofInt false (n := 1000) (f := 10) hq (by decide) (by decide) (by omega)
  have : g.remaining now.monotonic * Double.ofInt 1000 = .finite false k := by
    rw [hm]
    exact hk
  rw [this]
  apply Double.truncToInt_finite
  exact Double.zero_le_finite_iff.mpr (.inl rfl)

end Gate
end Readiness
