import Readiness.Proofs.Double.Unsigned

/-!
This module contains what is left of a value when another one is taken away from it. Counted from zero upwards it is
always a number, and it gets smaller as the other one grows.
-/

namespace Readiness
namespace Double

theorem inf_sub (s : Bool) {x : Double} (h : inf s - x ≠ nan) : inf s - x = inf s := by
  cases x with
  | nan => exact absurd rfl h
  | inf t =>
    have hdef : inf s - inf t = if s = !t then inf s else nan := rfl
    rw [hdef] at h ⊢
    split at h
    . next hs => rw [if_pos hs]
    . exact absurd rfl h
  | finite t m => rfl

theorem of_sub_eq_nan {x y : Double} (h : x - y = nan) : x = nan ∨ y = nan ∨ ∃ s, x = inf s ∧ y = inf s := by
  cases x with
  | nan => exact .inl rfl
  | inf s =>
    cases y with
    | nan => exact .inr (.inl rfl)
    | inf t =>
      have hdef : inf s - inf t = if s = !t then inf s else nan := rfl
      rw [hdef] at h
      split at h
      . cases h
      . next hst => exact .inr (.inr ⟨s, rfl, by simpa [eq_comm] using hst⟩)
    | finite t n => cases h
  | finite s m =>
    cases y with
    | nan => exact .inr (.inl rfl)
    | inf t => cases h
    | finite t n =>
      rw [finite_sub_finite] at h
      exact absurd h (nearest_ne_nan _ _ _)

/-- Less is left when more is taken away, also after rounding. -/
theorem sub_le_sub_left {x y z : Double} (h : y ≤ z) (hy : x - y ≠ nan) (hz : x - z ≠ nan) : x - z ≤ x - y := by
  cases x with
  | nan => exact absurd rfl hz
  | inf s =>
    rw [inf_sub s hy, inf_sub s hz]
    apply le_refl Double.noConfusion
  | finite s m =>
    cases z with
    | nan => exact absurd rfl (ne_nan_of_le_right h)
    | inf t =>
      cases t
      . apply neg_inf_le hy
      . rw [eq_neg_inf_of_le h]
        apply le_refl hz
    | finite t n =>
      cases y with
      | nan => exact absurd rfl (ne_nan_of_le_left h)
      | inf u =>
        cases u
        . cases eq_inf_of_le h
        . apply le_inf hz
      | finite u k =>
        rw [le_finite_iff] at h
        rw [finite_sub_finite, finite_sub_finite]
        apply ofQuanta_mono
        omega

theorem unsigned_max_zero (x : Double) : Unsigned (Double.max .zero x) := by
  unfold Double.max
  split
  . next h => exact unsigned_of_pos h
  . exact unsigned_zero

theorem max_zero_of_not_pos {x : Double} (h : ¬ zero < x) : Double.max .zero x = .zero := by
  unfold Double.max
  rw [if_neg h]

theorem max_zero_of_pos {x : Double} (h : zero < x) : Double.max .zero x = x := by
  unfold Double.max
  rw [if_pos h]

theorem not_pos_nan : ¬ zero < nan := by
  intro h
  exact ne_nan_of_le_right (le_of_lt h) rfl

theorem not_pos_neg_inf : ¬ zero < inf true := by
  decide +kernel

/-- A difference of equal infinities counts as nothing, so that it does not get in the way. -/
theorem max_zero_sub_le {x y z : Double} (h : y ≤ z) : Double.max .zero (x - z) ≤ Double.max .zero (x - y) := by
  by_cases hpos : .zero < x - z
  . have hz := ne_nan_of_le_right (le_of_lt hpos)
    have hy : x - y ≠ nan := by
      intro hnan
      rcases of_sub_eq_nan hnan with rfl | rfl | ⟨s, rfl, rfl⟩
      . exact hz rfl
      . exact ne_nan_of_le_left h rfl
      . rw [inf_sub s hz] at hpos
        cases s
        . rw [eq_inf_of_le h] at hz
          exact hz rfl
        . exact not_pos_neg_inf hpos
    have hle := sub_le_sub_left h hy hz
    rw [max_zero_of_pos hpos, max_zero_of_pos (lt_of_lt_of_le hpos hle)]
    exact hle
  . rw [max_zero_of_not_pos hpos]
    apply (unsigned_max_zero _).zero_le

theorem not_pos_sub_self (x : Double) : ¬ zero < x - x := by
  cases x with
  | nan => exact not_pos_nan
  | inf s => cases s <;> exact not_pos_nan
  | finite s m =>
    rw [finite_sub_finite, Int.sub_self, lt_iff]
    rintro ⟨a, b, ha, hb, hab⟩
    rw [key?_ofQuanta, Int.natAbs_zero, rounded_zero, signed_zero] at hb
    cases ha
    cases hb
    exact absurd hab (Int.lt_irrefl _)

theorem not_pos_sub_of_le {x y : Double} (h : x ≤ y) : ¬ zero < x - y := by
  intro hpos
  have hle := max_zero_sub_le (x := x) h
  rw [max_zero_of_pos hpos, max_zero_of_not_pos (not_pos_sub_self x)] at hle
  exact not_le_of_lt hpos hle

end Double
end Readiness
