import Readiness.Proofs.Double.Accuracy

/-!
This module contains the arithmetic of whole numbers of up to 53 bits: sums, products and decimals of them are exact.
-/

namespace Readiness

theorem Magnitude.eq_of_quanta_eq {m n : Magnitude} (h : m.quanta = n.quanta) : m = n := by
  cases m
  cases n
  congr

theorem Magnitude.toRat_of_quanta {m : Magnitude} {n : Nat} (h : m.quanta = n * Double.scale) : m.toRat = n := by
  have hscale : (Double.scale : ℚ) ≠ 0 := by exact_mod_cast Double.scale_pos.ne'
  unfold toRat
  rw [h, Nat.cast_mul, mul_div_cancel_right₀ _ hscale]

namespace Double

theorem toRat?_finite {m : Magnitude} {n : Nat} (s : Bool) (h : m.quanta = n * scale) :
    (finite s m).toRat? = some (sign s * n) := by
  rw [toRat?, Magnitude.toRat_of_quanta h]

theorem toRat?_ofInt {n : Nat} (h : n ≤ Nat.pow 2 53) : (ofInt n).toRat? = some (n : ℚ) := by
  obtain ⟨m, hm, hq⟩ := ofInt_ofNat h
  rw [hm, toRat?_finite false hq]
  simp [sign]

theorem finite_eq_ofInt {m : Magnitude} {n : Nat} (hn : n ≤ Nat.pow 2 53) (h : m.quanta = n * scale) :
    finite false m = ofInt n := by
  obtain ⟨k, hk, hq⟩ := ofInt_ofNat hn
  rw [hk, Magnitude.eq_of_quanta_eq (h.trans hq.symm)]

theorem exists_nearest_whole (s : Bool) {n den : Nat} (hden : 0 < den) (hn : n ≤ Nat.pow 2 53) :
    ∃ m, nearest s (n * scale * den) den = finite s m ∧ m.quanta = n * scale := by
  have hlt := Nat.lt_of_le_of_lt (Nat.mul_le_mul_right scale hn) two_pow_mul_scale_lt
  have hround := rounded_mul (ulp_dvd_mul_scale hn) hden
  rw [Nat.min_eq_right (Nat.le_of_lt hlt)] at hround
  obtain ⟨m, hm, hq⟩ := nearest_eq_finite s (by rwa [hround])
  exact ⟨m, hm, hq.trans hround⟩

theorem zero_eq_ofInt : zero = ofInt (0 : Nat) := by
  apply finite_eq_ofInt (Nat.zero_le _)
  rw [Nat.zero_mul]
  rfl

theorem ofInt_add_ofInt {j k : Nat} (h : j + k ≤ Nat.pow 2 53) : ofInt j + ofInt k = ofInt (j + k : Nat) := by
  obtain ⟨m, hm, hj⟩ := ofInt_ofNat (n := j) (by omega)
  obtain ⟨n, hn, hk⟩ := ofInt_ofNat (n := k) (by omega)
  rw [hm, hn, finite_add_finite, hj, hk]
  simp only [signed, Bool.and_self, Bool.false_eq_true, ↓reduceIte, ofInt]
  congr 1
  push_cast
  ring

theorem ofInt_mul_ofInt {j k : Nat} (hj : j ≤ Nat.pow 2 53) (hk : k ≤ Nat.pow 2 53) (h : j * k ≤ Nat.pow 2 53) :
    ofInt j * ofInt k = ofInt (j * k : Nat) := by
  obtain ⟨m, hm, hmj⟩ := ofInt_ofNat hj
  obtain ⟨n, hn, hnk⟩ := ofInt_ofNat hk
  have hprod : j * scale * (k * scale) = j * k * scale * scale := by ring
  obtain ⟨p, hp, hq⟩ := exists_nearest_whole (false != false) scale_pos h
  rw [hm, hn, finite_mul_finite, hmj, hnk, hprod, hp]
  exact finite_eq_ofInt h hq

/-- Zeros after the point do no harm. -/
theorem exists_ofDecimal_whole (s : Bool) {n digits places : Nat} (h : digits = n * 10 ^ places)
    (hn : n ≤ Nat.pow 2 53) : ∃ m, ofDecimal s digits (-places) = finite s m ∧ m.quanta = n * scale := by
  subst h
  have hden : 0 < 10 ^ places := Nat.pow_pos (by decide)
  have hnearest := exists_nearest_whole s hden hn
  rw [Nat.mul_right_comm] at hnearest
  cases places with
  | zero =>
    have hone : n * 10 ^ 0 * Nat.pow 10 0 * scale = n * 10 ^ 0 * scale := by simp
    show ∃ m, nearest s (n * 10 ^ 0 * Nat.pow 10 0 * scale) 1 = finite s m ∧ _
    rw [hone]
    exact hnearest
  | succ places => exact hnearest

theorem nonneg_of_toRat? {x : Double} {p : ℚ} (h : x.toRat? = some p) (hx : zero ≤ x) : 0 ≤ p := by
  obtain ⟨s, m, rfl, rfl⟩ := exists_of_toRat? h
  rw [nonneg_finite_iff] at hx
  have hsigned : (0 : ℚ) ≤ signed s m.quanta := by exact_mod_cast hx
  rw [cast_signed] at hsigned
  rw [Magnitude.toRat, ← mul_div_assoc]
  exact div_nonneg hsigned (Nat.cast_nonneg _)

theorem exists_toRat?_of_between {x : Double} {n : Nat} (hn : n ≤ Nat.pow 2 53) (hlow : -ofInt n ≤ x)
    (hhigh : x ≤ ofInt n) : ∃ p, x.toRat? = some p ∧ |p| ≤ n := by
  obtain ⟨m, hm, hq⟩ := ofInt_ofNat hn
  have hneg : -finite false m = finite true m := rfl
  rw [hm] at hhigh hlow
  rw [hneg] at hlow
  cases x with
  | nan => exact absurd rfl (ne_nan_of_le_left hhigh)
  | inf s =>
    cases s with
    | false => cases eq_inf_of_le hhigh
    | true => cases eq_neg_inf_of_le hlow
  | finite s k =>
    refine ⟨_, rfl, ?_⟩
    rw [le_finite_iff] at hlow hhigh
    have hquanta : k.quanta ≤ n * scale := by
      cases s <;> simp [signed] at hlow hhigh <;> omega
    have hscale : (0 : ℚ) < scale := by exact_mod_cast scale_pos
    have hnonneg : 0 ≤ k.toRat := by
      unfold Magnitude.toRat
      positivity
    rw [abs_mul, abs_sign, one_mul, abs_of_nonneg hnonneg, Magnitude.toRat, div_le_iff₀ hscale]
    exact_mod_cast hquanta

end Double
end Readiness
