import Readiness.Double.Arithmetic
import Readiness.Proofs.Double.Rounding

/-!
This module contains the order of `Double`: it is total apart from NaN, and sums, quotients and conversions keep it.
-/

namespace Readiness
namespace Double

theorem signed_zero (s : Bool) : signed s 0 = 0 := by
  cases s <;> rfl

theorem signed_natAbs (n : Int) : signed (decide (n < 0)) n.natAbs = n := by
  unfold signed
  split
  . next h =>
    have := of_decide_eq_true h
    omega
  . next h =>
    have : ¬ n < 0 := by simpa using h
    omega

theorem natAbs_signed (s : Bool) (n : Nat) : (signed s n).natAbs = n := by
  unfold signed
  split <;> omega

theorem signed_mono {f : Nat → Nat} (h0 : f 0 = 0) (hf : ∀ a b, a ≤ b → f a ≤ f b) {s t : Bool} {m n : Nat}
    (h : signed s m ≤ signed t n) : signed s (f m) ≤ signed t (f n) := by
  cases s <;> cases t <;> simp only [signed, Bool.false_eq_true, ↓reduceIte] at h ⊢
  . have := hf m n (by omega)
    omega
  . have hm : m = 0 := by omega
    have hn : n = 0 := by omega
    rw [hm, hn, h0]
    omega
  . omega
  . have := hf n m (by omega)
    omega

theorem key?_eq_none_iff {x : Double} : x.key? = none ↔ x = nan := by
  cases x <;> simp [key?]

theorem exists_key? {x : Double} (h : x ≠ nan) : ∃ k, x.key? = some k := by
  cases hk : x.key? with
  | none =>
    rw [key?_eq_none_iff] at hk
    exact absurd hk h
  | some k => exact ⟨k, rfl⟩

theorem natAbs_key?_le {x : Double} {k : Int} (h : x.key? = some k) : k.natAbs ≤ overflow := by
  cases x with
  | nan => simp [key?] at h
  | inf s =>
    simp only [key?, Option.some.injEq] at h
    rw [← h]
    apply Nat.le_of_eq (natAbs_signed s overflow)
  | finite s m =>
    simp only [key?, Option.some.injEq] at h
    rw [← h, natAbs_signed]
    apply Nat.le_of_lt m.bounded

theorem le_refl {x : Double} (h : x ≠ nan) : x ≤ x := by
  rw [le_iff]
  obtain ⟨k, hk⟩ := exists_key? h
  exact ⟨k, k, hk, hk, Int.le_refl k⟩

theorem le_trans {x y z : Double} (hxy : x ≤ y) (hyz : y ≤ z) : x ≤ z := by
  rw [le_iff] at hxy hyz ⊢
  obtain ⟨a, b, ha, hb, hab⟩ := hxy
  obtain ⟨b', c, hb', hc, hbc⟩ := hyz
  rw [hb, Option.some.injEq] at hb'
  exact ⟨a, c, ha, hc, by omega⟩

theorem lt_of_not_le {x y : Double} (hx : x ≠ nan) (hy : y ≠ nan) (h : ¬ x ≤ y) : y < x := by
  rw [le_iff] at h
  rw [lt_iff]
  obtain ⟨a, ha⟩ := exists_key? hx
  obtain ⟨b, hb⟩ := exists_key? hy
  refine ⟨b, a, hb, ha, ?_⟩
  by_cases hab : a ≤ b
  . exact absurd ⟨a, b, ha, hb, hab⟩ h
  . omega

theorem le_of_not_lt {x y : Double} (hx : x ≠ nan) (hy : y ≠ nan) (h : ¬ y < x) : x ≤ y := by
  by_cases hle : x ≤ y
  . exact hle
  . exact absurd (lt_of_not_le hx hy hle) h

theorem not_le_of_lt {x y : Double} (h : y < x) : ¬ x ≤ y := by
  rw [lt_iff] at h
  rw [le_iff]
  obtain ⟨b, a, hb, ha, hba⟩ := h
  rintro ⟨a', b', ha', hb', hab⟩
  rw [ha, Option.some.injEq] at ha'
  rw [hb, Option.some.injEq] at hb'
  omega

theorem le_of_lt {x y : Double} (h : x < y) : x ≤ y := by
  rw [lt_iff] at h
  rw [le_iff]
  obtain ⟨a, b, ha, hb, hab⟩ := h
  exact ⟨a, b, ha, hb, Int.le_of_lt hab⟩

theorem lt_of_lt_of_le {x y z : Double} (hxy : x < y) (hyz : y ≤ z) : x < z := by
  rw [lt_iff] at hxy ⊢
  rw [le_iff] at hyz
  obtain ⟨a, b, ha, hb, hab⟩ := hxy
  obtain ⟨b', c, hb', hc, hbc⟩ := hyz
  rw [hb, Option.some.injEq] at hb'
  exact ⟨a, c, ha, hc, by omega⟩

theorem zero_ne_nan : zero ≠ nan := by
  simp [zero]

theorem ne_nan_of_le_left {x y : Double} (h : x ≤ y) : x ≠ nan := by
  intro hx
  subst hx
  simp [le_iff, key?] at h

theorem ne_nan_of_le_right {x y : Double} (h : x ≤ y) : y ≠ nan := by
  intro hy
  subst hy
  simp [le_iff, key?] at h

theorem le_inf {x : Double} (h : x ≠ nan) : x ≤ inf false := by
  rw [le_iff]
  obtain ⟨k, hk⟩ := exists_key? h
  have := natAbs_key?_le hk
  refine ⟨k, overflow, hk, rfl, ?_⟩
  omega

theorem neg_inf_le {x : Double} (h : x ≠ nan) : inf true ≤ x := by
  rw [le_iff]
  obtain ⟨k, hk⟩ := exists_key? h
  have := natAbs_key?_le hk
  refine ⟨-overflow, k, rfl, hk, ?_⟩
  omega

theorem eq_inf_of_le {x : Double} (h : inf false ≤ x) : x = inf false := by
  rw [le_iff] at h
  obtain ⟨a, b, ha, hb, hab⟩ := h
  simp only [key?, signed, Bool.false_eq_true, ↓reduceIte, Option.some.injEq] at ha
  cases x with
  | nan => simp [key?] at hb
  | inf s =>
    have := overflow_pos
    cases s
    . rfl
    . simp only [key?, signed, ↓reduceIte, Option.some.injEq] at hb
      omega
  | finite s m =>
    have := m.bounded
    have hn := natAbs_signed s m.quanta
    simp only [key?, Option.some.injEq] at hb
    omega

theorem eq_neg_inf_of_le {x : Double} (h : x ≤ inf true) : x = inf true := by
  rw [le_iff] at h
  obtain ⟨a, b, ha, hb, hab⟩ := h
  simp only [key?, signed, ↓reduceIte, Option.some.injEq] at hb
  cases x with
  | nan => simp [key?] at ha
  | inf s =>
    have := overflow_pos
    cases s
    . simp only [key?, signed, Bool.false_eq_true, ↓reduceIte, Option.some.injEq] at ha
      omega
    . rfl
  | finite s m =>
    have := m.bounded
    have hn := natAbs_signed s m.quanta
    simp only [key?, Option.some.injEq] at ha
    omega

theorem le_finite_iff {s t : Bool} {m n : Magnitude} :
    finite s m ≤ finite t n ↔ signed s m.quanta ≤ signed t n.quanta := by
  rw [le_iff]
  simp [key?]

theorem rounded_zero (den : Nat) : rounded 0 den = 0 := by
  have : roundDiv 0 (den * ulp (0 / den)) = 0 := by
    generalize den * ulp (0 / den) = d
    simp only [roundDiv, Nat.zero_div, Nat.zero_mod, Nat.mul_zero, and_true]
    rw [if_pos (by omega)]
  unfold rounded
  rw [this, Nat.zero_mul]
  apply Nat.min_zero

theorem key?_ofQuanta (zeroSign : Bool) (n : Int) :
    (ofQuanta zeroSign n).key? = some (signed (decide (n < 0)) (rounded n.natAbs 1)) := by
  unfold ofQuanta
  rw [key?_nearest]
  split
  . next h =>
    subst h
    simp only [Int.natAbs_zero, rounded_zero, signed_zero]
  . rfl

theorem ofQuanta_mono (z z' : Bool) {a b : Int} (h : a ≤ b) : ofQuanta z a ≤ ofQuanta z' b := by
  rw [le_iff]
  refine ⟨_, _, key?_ofQuanta z a, key?_ofQuanta z' b, ?_⟩
  apply signed_mono (f := fun n => rounded n 1)
  . apply rounded_zero
  . intro a b h
    apply rounded_mono h 1
  . rwa [signed_natAbs, signed_natAbs]

theorem finite_le_ofQuanta {s : Bool} {m : Magnitude} (z : Bool) {n : Int} (h : signed s m.quanta ≤ n) :
    finite s m ≤ ofQuanta z n := by
  have hle := ofQuanta_mono false z h
  rw [le_iff] at hle ⊢
  obtain ⟨a, b, ha, hb, hab⟩ := hle
  refine ⟨signed s m.quanta, b, rfl, hb, ?_⟩
  rw [key?_ofQuanta, natAbs_signed, rounded_one m.aligned, Nat.min_eq_right (Nat.le_of_lt m.bounded)] at ha
  have hsign := signed_natAbs (signed s m.quanta)
  rw [natAbs_signed] at hsign
  rw [hsign, Option.some.injEq] at ha
  omega

theorem nonneg_finite_iff {s : Bool} {m : Magnitude} : zero ≤ finite s m ↔ 0 ≤ signed s m.quanta := by
  unfold zero
  rw [le_finite_iff]
  have : Magnitude.zero.quanta = 0 := rfl
  rw [this, signed_zero]

theorem zero_le_finite_iff {s : Bool} {m : Magnitude} : zero ≤ finite s m ↔ s = false ∨ m.quanta = 0 := by
  rw [nonneg_finite_iff]
  cases s <;> simp [signed]

theorem inf_add_finite (s t : Bool) (m : Magnitude) : inf s + finite t m = inf s := rfl

theorem finite_add_inf (s t : Bool) (m : Magnitude) : finite s m + inf t = inf t := rfl

theorem inf_add_inf (s : Bool) : inf s + inf s = inf s := by
  show Double.add _ _ = _
  simp [Double.add]

theorem finite_add_finite (s t : Bool) (m n : Magnitude) :
    finite s m + finite t n = ofQuanta (s && t) (signed s m.quanta + signed t n.quanta) := rfl

theorem finite_mul_finite (s t : Bool) (m n : Magnitude) :
    finite s m * finite t n = nearest (s != t) (m.quanta * n.quanta) scale := rfl

theorem inf_mul_finite (s t : Bool) {n : Magnitude} (hn : 0 < n.quanta) : inf s * finite t n = inf (s != t) := by
  show Double.mul _ _ = _
  simp only [Double.mul]
  rw [if_neg (by omega)]

theorem finite_div_finite (s t : Bool) (m : Magnitude) {n : Magnitude} (hn : 0 < n.quanta) :
    finite s m / finite t n = nearest (s != t) (m.quanta * scale) n.quanta := by
  show Double.div _ _ = _
  simp only [Double.div]
  rw [if_neg (by omega)]

theorem inf_div_finite (s t : Bool) (n : Magnitude) : inf s / finite t n = inf (s != t) := rfl

theorem signed_not (s : Bool) (n : Nat) : signed (!s) n = -signed s n := by
  cases s <;> simp [signed]

theorem finite_sub_finite (s t : Bool) (m n : Magnitude) :
    finite s m - finite t n = ofQuanta (s && !t) (signed s m.quanta - signed t n.quanta) := by
  show finite s m + finite (!t) n = _
  rw [finite_add_finite, signed_not]
  rfl

/-- A sum with something that is not negative is not smaller, also after rounding. -/
theorem le_add_of_nonneg {x d : Double} (hx : x ≠ nan) (hx' : x ≠ inf true) (hd : zero ≤ d) : x ≤ x + d := by
  cases x with
  | nan => exact absurd rfl hx
  | inf s =>
    cases s
    . cases d with
      | nan => exact absurd rfl (ne_nan_of_le_right hd)
      | inf t =>
        cases t
        . rw [inf_add_inf]
          apply le_refl hx
        . cases eq_neg_inf_of_le hd
      | finite t n =>
        rw [inf_add_finite]
        apply le_refl hx
    . exact absurd rfl hx'
  | finite s m =>
    cases d with
    | nan => exact absurd rfl (ne_nan_of_le_right hd)
    | inf t =>
      cases t
      . rw [finite_add_inf]
        apply le_inf hx
      . cases eq_neg_inf_of_le hd
    | finite t n =>
      rw [nonneg_finite_iff] at hd
      rw [finite_add_finite]
      apply finite_le_ofQuanta
      omega

theorem ofInt_mono {m n : Int} (h : m ≤ n) : ofInt m ≤ ofInt n := by
  apply ofQuanta_mono
  apply Int.mul_le_mul_of_nonneg_right h
  omega

theorem ofInt_ne_nan (n : Int) : ofInt n ≠ nan := by
  apply ne_nan_of_le_left (ofInt_mono (Int.le_refl n))

theorem nearest_of_ulp_dvd (s : Bool) {n : Nat} (h : ulp n ∣ n) (hn : n < overflow) :
    nearest s n 1 = finite s ⟨n, h, hn⟩ := by
  have hr : roundDiv n (1 * ulp (n / 1)) * ulp (n / 1) = n := by
    have := rounded_one h
    unfold rounded at this
    omega
  unfold nearest
  simp only [hr]
  rw [dif_pos hn]

theorem ulp_dvd_mul_scale {n : Nat} (h : n ≤ Nat.pow 2 53) : ulp (n * scale) ∣ n * scale := by
  obtain ⟨e, he⟩ : ∃ e, scale = Nat.pow 2 e := by
    unfold scale
    exact ⟨_, rfl⟩
  rw [he]
  apply ulp_dvd h

theorem two_pow_mul_scale_lt : Nat.pow 2 53 * scale < overflow := by
  unfold scale overflow
  simp only [Nat.pow_eq, ← Nat.pow_add]
  apply Nat.pow_lt_pow_right <;> decide

/-- Integers of up to 53 bits are kept. -/
theorem ofInt_ofNat {n : Nat} (h : n ≤ Nat.pow 2 53) : ∃ m, ofInt n = finite false m ∧ m.quanta = n * scale := by
  have hdvd := ulp_dvd_mul_scale h
  have hlt := Nat.lt_of_le_of_lt (Nat.mul_le_mul_right scale h) two_pow_mul_scale_lt
  refine ⟨⟨n * scale, hdvd, hlt⟩, ?_, rfl⟩
  unfold ofInt ofQuanta
  rw [← Int.natCast_mul, Int.natAbs_natCast, nearest_of_ulp_dvd _ hdvd hlt]
  congr 1
  split
  . rfl
  . apply decide_eq_false
    omega

theorem div_mono {x y : Double} (h : x ≤ y) {n : Magnitude} (hn : 0 < n.quanta) :
    x / finite false n ≤ y / finite false n := by
  have hquot (s : Bool) (m : Magnitude) :
      (finite s m / finite false n).key? = some (signed s (rounded (m.quanta * scale) n.quanta)) := by
    rw [finite_div_finite s false m hn, key?_nearest, Bool.bne_false]
  have hinf (s : Bool) : inf s / finite false n = inf s := by
    rw [inf_div_finite, Bool.bne_false]
  have hne (x : Double) (hx : x ≠ nan) : x / finite false n ≠ nan := by
    cases x with
    | nan => exact absurd rfl hx
    | inf s => simp [hinf]
    | finite s m =>
      intro hq
      have := hquot s m
      rw [hq] at this
      simp [key?] at this
  have hx := ne_nan_of_le_left h
  have hy := ne_nan_of_le_right h
  cases x with
  | nan => exact absurd rfl hx
  | inf s =>
    cases s
    . rw [eq_inf_of_le h]
      apply le_refl (hne _ hx)
    . rw [hinf]
      apply neg_inf_le (hne _ hy)
  | finite s m =>
    cases y with
    | nan => exact absurd rfl hy
    | inf t =>
      cases t
      . rw [hinf]
        apply le_inf (hne _ hx)
      . cases eq_neg_inf_of_le h
    | finite t k =>
      rw [le_finite_iff] at h
      rw [le_iff]
      refine ⟨_, _, hquot s m, hquot t k, ?_⟩
      apply signed_mono (f := fun a => rounded (a * scale) n.quanta)
      . simp only [Nat.zero_mul]
        apply rounded_zero
      . intro a b hab
        apply rounded_mono (Nat.mul_le_mul_right _ hab) _
      . exact h

end Double
end Readiness
