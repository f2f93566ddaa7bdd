import Readiness.Clock
import Readiness.Proofs.Double.Bounded

/-!
This module contains the readings of a clock: they never go back, and those that are finite are far from the end of the
finite range.
-/

namespace Readiness

open Double (Within)

/-- Readings of a clock and delays with a text are finite with a factor of a billion to spare. -/
@[irreducible]
def secondsExponent : Nat := 2069

theorem secondsExponent_eq : secondsExponent = 2069 := by
  unfold secondsExponent
  rfl

namespace Clock

theorem ofInt_billion : ∃ m, Double.ofInt 1000000000 = .finite false m ∧ m.quanta = 1000000000 * Double.scale := by
  exact Double.ofInt_ofNat (n := 1000000000) (by decide)

theorem billion_pos {m : Magnitude} (h : m.quanta = 1000000000 * Double.scale) : 0 < m.quanta := by
  have := Double.scale_pos
  omega

theorem monotonic_le {c d : Clock} (h : c.mono ≤ d.mono) : c.monotonic ≤ d.monotonic := by
  unfold monotonic
  obtain ⟨m, hm, hq⟩ := ofInt_billion
  rw [hm]
  apply Double.div_mono (Double.ofInt_mono h) (billion_pos hq)

theorem monotonic_ne_nan (c : Clock) : c.monotonic ≠ .nan := by
  apply Double.ne_nan_of_le_left (monotonic_le (Int.le_refl c.mono))

theorem monotonic_cases (c : Clock) : (∃ s, c.monotonic = .inf s) ∨ Within secondsExponent c.monotonic := by
  -- the finite range ends a billion times earlier for readings than for their nanoseconds
  unfold monotonic
  obtain ⟨m, hm, hq⟩ := ofInt_billion
  rw [hm]
  cases hn : Double.ofInt c.mono with
  | nan => exact absurd hn (Double.ofInt_ne_nan c.mono)
  | inf s =>
    apply Or.inl
    exact ⟨_, Double.inf_div_finite s false m⟩
  | finite s n =>
    apply Or.inr
    rw [Double.finite_div_finite s false n (billion_pos hq)]
    have he := secondsExponent_eq
    refine ⟨_, Double.within_nearest _ (billion_pos hq) (by omega) ?_⟩
    have hn : n.quanta ≤ Nat.pow 2 secondsExponent * 1000000000 := by
      have hlt := n.bounded
      rw [Double.overflow_eq_mul (e := secondsExponent) (f := 29) (by omega)] at hlt
      exact Nat.le_trans (Nat.le_of_lt hlt) (Nat.mul_le_mul_left _ (by decide))
    rw [hq, ← Nat.mul_assoc]
    apply Nat.mul_le_mul_right _ hn

theorem within_monotonic {c : Clock} (h : c.monotonic.isInfinite = false) : Within secondsExponent c.monotonic := by
  rcases monotonic_cases c with ⟨s, hc⟩ | hc
  . rw [hc] at h
    cases h
  . exact hc

theorem advance_zero (c : Clock) : c.advance 0 = c := by
  simp [advance]

theorem advance_advance (c : Clock) (a b : Int) : (c.advance a).advance b = c.advance (a + b) := by
  simp [advance, Int.add_assoc]

end Clock

end Readiness
