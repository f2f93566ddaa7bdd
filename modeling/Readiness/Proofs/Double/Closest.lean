import Readiness.Proofs.Double.Whole

/-!
This module contains what rounding to nearest is for: no other value is as near to the exact quotient, unless that is
half-way between two values. A billionth of a whole number of up to 53 bits never is.
-/

namespace Readiness

namespace Magnitude

/-- No other magnitude is as near to the number. -/
def Closest (m : Magnitude) (q : ℚ) : Prop :=
  ∀ k, k ≠ m → |m.toRat - q| < |k.toRat - q|

theorem Closest.unique {m n : Magnitude} {q : ℚ} (hm : m.Closest q) (hn : n.Closest q) : m = n := by
  by_contra hne
  have hlt := hm n (Ne.symm hne)
  have hlt' := hn m hne
  linarith

theorem closest_self (m : Magnitude) : m.Closest m.toRat := by
  intro k hk
  have hscale : (Double.scale : ℚ) ≠ 0 := by exact_mod_cast Double.scale_pos.ne'
  rw [sub_self, abs_zero, abs_pos, sub_ne_zero]
  intro heq
  apply hk
  apply eq_of_quanta_eq
  unfold toRat at heq
  rw [div_left_inj' hscale] at heq
  exact_mod_cast heq

end Magnitude

namespace Double

/-- Cutting off what is below the last place leaves the last place where it is. -/
theorem ulp_floor (n : Nat) : ulp (n / ulp n * ulp n) = ulp n := by
  have hle := ulp_mono (Nat.div_mul_le_self n (ulp n))
  rcases Nat.eq_or_lt_of_le hle with heq | hlt
  . exact heq
  . have := mul_ulp_le_of_ulp_lt hlt
    have := lt_mul_ulp (n / ulp n * ulp n)
    omega

theorem ulp_dvd_ulp {m n : Nat} (h : ulp m ≤ ulp n) : ulp m ∣ ulp n := by
  unfold ulp at h ⊢
  rw [Nat.pow_eq, Nat.pow_eq, Nat.pow_le_pow_iff_right (by decide)] at h
  apply Nat.pow_dvd_pow 2 h

/-- No magnitude lies strictly between two neighbouring multiples of the unit in the last place. -/
theorem apart_of_aligned {n k : Nat} (hk : ulp k ∣ k) :
    k ≤ n / ulp n * ulp n ∨ n / ulp n * ulp n + ulp n ≤ k := by
  rw [or_iff_not_imp_left, Nat.not_le]
  intro hlt
  have hu := ulp_mono (Nat.le_of_lt hlt)
  rw [ulp_floor] at hu
  obtain ⟨j, rfl⟩ := Nat.dvd_trans (ulp_dvd_ulp hu) hk
  rw [Nat.mul_comm (ulp n) j] at hlt ⊢
  have hj := Nat.lt_of_mul_lt_mul_right hlt
  rw [← Nat.succ_mul]
  apply Nat.mul_le_mul_right _ hj

theorem roundDiv_closest {num den b : Nat} (hden : 0 < den) (htie : 2 * num ≠ (2 * (num / den) + 1) * den)
    (hb : b ≤ num / den * den ∨ num / den * den + den ≤ b) (hne : b ≠ roundDiv num den * den) :
    ((roundDiv num den * den : Nat) - num : Int).natAbs < (b - num : Int).natAbs := by
  have hsum := Nat.div_add_mod num den
  have hlt := Nat.mod_lt num hden
  rw [Nat.mul_comm den] at hsum
  rw [Nat.add_mul, Nat.one_mul, Nat.mul_assoc] at htie
  unfold roundDiv at hne ⊢
  dsimp only at hne ⊢
  generalize num % den = r at *
  split at hne
  . next hbelow =>
    rw [if_pos hbelow]
    generalize num / den * den = a at *
    omega
  . next habove =>
    rw [if_neg habove, Nat.add_mul, Nat.one_mul]
    rw [Nat.add_mul, Nat.one_mul] at hne
    generalize num / den * den = a at *
    omega

theorem closest_of_nearest {s t : Bool} {num den : Nat} {m : Magnitude} {q : ℚ} (hden : 0 < den)
    (h : nearest s num den = finite t m) (hq : q * (den * scale) = num)
    (htie : ∀ j, 2 * num ≠ (2 * j + 1) * (den * ulp (num / den))) : m.Closest q := by
  intro k hk
  have hunit := Nat.mul_pos hden (ulp_pos (num / den))
  have hquanta : m.quanta * den = roundDiv num (den * ulp (num / den)) * (den * ulp (num / den)) := by
    rw [quanta_of_nearest h]
    ring
  have hapart : k.quanta * den ≤ num / (den * ulp (num / den)) * (den * ulp (num / den))
      ∨ num / (den * ulp (num / den)) * (den * ulp (num / den)) + den * ulp (num / den) ≤ k.quanta * den := by
    rw [← Nat.div_div_eq_div_mul, Nat.mul_comm den, ← Nat.mul_assoc, ← Nat.add_mul]
    rcases apart_of_aligned (n := num / den) k.aligned with hle | hle
    . exact .inl (Nat.mul_le_mul_right den hle)
    . exact .inr (Nat.mul_le_mul_right den hle)
  have hne : k.quanta * den ≠ roundDiv num (den * ulp (num / den)) * (den * ulp (num / den)) := by
    rw [← hquanta]
    intro heq
    exact hk (Magnitude.eq_of_quanta_eq (Nat.eq_of_mul_eq_mul_right hden heq))
  have hclosest := roundDiv_closest hunit (htie _) hapart hne
  rw [← hquanta] at hclosest
  have hpos : (0 : ℚ) < den * scale := by exact_mod_cast Nat.mul_pos hden scale_pos
  have hdist (k : Magnitude) : |k.toRat - q| = ((k.quanta * den : Nat) - num : Int).natAbs / (den * scale : ℚ) := by
    have hscale : (scale : ℚ) ≠ 0 := by exact_mod_cast scale_pos.ne'
    rw [Nat.cast_natAbs, Int.cast_abs, eq_div_iff hpos.ne', ← abs_of_pos hpos, ← abs_mul]
    push_cast
    rw [sub_mul, hq]
    unfold Magnitude.toRat
    congr 2
    field_simp
  rw [hdist, hdist]
  gcongr

theorem log2_le_of_le_two_pow {n e : Nat} (h : n ≤ 2 ^ e) : n.log2 ≤ e := by
  by_cases hn : n = 0
  . simp [hn]
  . rw [← Nat.lt_succ_iff, Nat.log2_lt hn]
    apply Nat.lt_of_le_of_lt h
    apply Nat.pow_lt_pow_right
    . decide
    . omega

/-- Half-way between two values there are 54 bits and more. -/
theorem ne_tie_of_billionths {n : Nat} (hn : n ≤ 2 ^ 53) (j : Nat) :
    2 * (n * scale) ≠ (2 * j + 1) * (1000000000 * ulp (n * scale / 1000000000)) := by
  obtain ⟨e, he, hs⟩ := scale_eq
  rw [hs, Nat.pow_eq]
  intro heq
  have hlog : (n * 2 ^ e / 1000000000).log2 - 52 + 9 ≤ e := by
    have hle : n * 2 ^ e / 1000000000 ≤ 2 ^ (e + 24) := by
      apply Nat.div_le_of_le_mul
      calc n * 2 ^ e
        _ ≤ 2 ^ 53 * 2 ^ e := Nat.mul_le_mul_right _ hn
        _ = 2 ^ 29 * 2 ^ (e + 24) := by ring
        _ ≤ 1000000000 * 2 ^ (e + 24) := Nat.mul_le_mul_right _ (by decide)
    have := log2_le_of_le_two_pow hle
    omega
  unfold ulp at heq
  rw [Nat.pow_eq] at heq
  generalize (n * 2 ^ e / 1000000000).log2 - 52 = f at *
  obtain ⟨d, rfl⟩ := Nat.exists_eq_add_of_le hlog
  -- all powers of two cancel but one on the left, and what stays on the right is odd
  have hcancel : 2 * (n * 2 ^ d) = (2 * j + 1) * 5 ^ 9 := by
    have hpos : 0 < 2 ^ (f + 9) := by positivity
    apply Nat.eq_of_mul_eq_mul_right hpos
    calc 2 * (n * 2 ^ d) * 2 ^ (f + 9)
      _ = 2 * (n * 2 ^ (f + 9 + d)) := by ring
      _ = (2 * j + 1) * (1000000000 * 2 ^ f) := heq
      _ = (2 * j + 1) * 5 ^ 9 * 2 ^ (f + 9) := by ring
  omega

theorem exists_closest_billionths (s : Bool) {m : Magnitude} {n : Nat} (hm : m.quanta = n * scale) (hn : n ≤ 2 ^ 53) :
    ∃ k, finite s m / ofInt 1000000000 = finite s k ∧ k.Closest (n / 10 ^ 9) := by
  obtain ⟨b, hb, hbq⟩ := ofInt_ofNat (n := 1000000000) (by decide)
  have hscale : (scale : ℚ) ≠ 0 := by exact_mod_cast scale_pos.ne'
  have hden : 0 < 1000000000 * scale := Nat.mul_pos (by decide) scale_pos
  have hquot : finite s m / ofInt 1000000000 = nearest s (n * scale * scale) (1000000000 * scale) := by
    show _ / ofInt (1000000000 : Nat) = _
    rw [hb, finite_div_finite s false m (by rw [hbq]; exact hden), hbq, hm, Bool.bne_false]
  have hlt : rounded (n * scale * scale) (1000000000 * scale) < overflow := by
    apply Nat.lt_of_le_of_lt _ two_pow_mul_scale_lt
    apply rounded_le hden (ulp_dvd_mul_scale (Nat.le_refl (Nat.pow 2 53)))
    apply Nat.mul_le_mul
    . exact Nat.mul_le_mul_right scale hn
    . exact Nat.le_mul_of_pos_left scale (by decide)
  obtain ⟨k, hk, _⟩ := nearest_eq_finite s hlt
  refine ⟨k, hquot.trans hk, closest_of_nearest hden hk ?_ ?_⟩
  . push_cast
    field_simp
    norm_num
  . intro j
    rw [Nat.mul_div_mul_right _ _ scale_pos]
    intro heq
    apply ne_tie_of_billionths hn j
    apply Nat.eq_of_mul_eq_mul_right scale_pos
    rw [Nat.mul_assoc 2, heq]
    ring

end Double
end Readiness
