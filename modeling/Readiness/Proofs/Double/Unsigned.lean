import Readiness.Double.Integer
import Readiness.Proofs.Double.Order

/-!
This module contains the values without a minus sign: sums and products of them are no NaN. It also contains when a
value has an integer near it, and which one is its ceiling.
-/

namespace Readiness
namespace Double

/-- The value has no minus sign and is no NaN; it may be infinite. -/
def Unsigned (x : Double) : Prop :=
  x = inf false ∨ ∃ m, x = finite false m

theorem Unsigned.ne_nan {x : Double} (h : Unsigned x) : x ≠ nan := by
  rcases h with rfl | ⟨m, rfl⟩ <;> simp

theorem unsigned_zero : Unsigned zero := by
  exact .inr ⟨_, rfl⟩

theorem nearest_ne_nan (s : Bool) (num den : Nat) : nearest s num den ≠ nan := by
  unfold nearest
  dsimp only
  split <;> simp

theorem unsigned_nearest (num den : Nat) : Unsigned (nearest false num den) := by
  unfold nearest
  dsimp only
  split
  . exact .inr ⟨_, rfl⟩
  . exact .inl rfl

theorem unsigned_ofDecimal (digits : Nat) (exponent : Int) : Unsigned (ofDecimal false digits exponent) := by
  cases exponent <;> apply unsigned_nearest

theorem ofDecimal_ne_nan (s : Bool) (digits : Nat) (exponent : Int) : ofDecimal s digits exponent ≠ nan := by
  cases exponent <;> apply nearest_ne_nan

theorem unsigned_add {x y : Double} (hx : Unsigned x) (hy : Unsigned y) : Unsigned (x + y) := by
  rcases hx with rfl | ⟨m, rfl⟩ <;> rcases hy with rfl | ⟨n, rfl⟩
  . exact .inl (inf_add_inf false)
  . exact .inl (inf_add_finite false false n)
  . exact .inl (finite_add_inf false false m)
  . -- a sum of magnitudes keeps the sign, also if it is zero
    rw [finite_add_finite]
    unfold ofQuanta
    have hnonneg : ¬ signed false m.quanta + signed false n.quanta < 0 := by
      simp only [signed, Bool.false_eq_true, ↓reduceIte]
      omega
    have hsign : (if signed false m.quanta + signed false n.quanta = 0 then (false && false)
        else decide (signed false m.quanta + signed false n.quanta < 0)) = false := by
      split
      . rfl
      . exact decide_eq_false hnonneg
    rw [hsign]
    apply unsigned_nearest

theorem unsigned_ofInt (n : Nat) : Unsigned (ofInt n) := by
  have hnonneg : ¬ (n : Int) * scale < 0 := by
    rw [← Int.natCast_mul]
    omega
  have hsign : (if (n : Int) * scale = 0 then false else decide ((n : Int) * scale < 0)) = false := by
    split
    . rfl
    . exact decide_eq_false hnonneg
  unfold ofInt ofQuanta
  rw [hsign]
  apply unsigned_nearest

theorem exists_ofInt {n : Nat} (h0 : 0 < n) (h : n ≤ Nat.pow 2 53) :
    ∃ m, ofInt n = finite false m ∧ 0 < m.quanta := by
  obtain ⟨m, hm, hq⟩ := ofInt_ofNat h
  refine ⟨m, hm, ?_⟩
  rw [hq]
  apply Nat.mul_pos h0 scale_pos

theorem unsigned_mul_ofInt {x : Double} (hx : Unsigned x) {n : Nat} (h0 : 0 < n) (h : n ≤ Nat.pow 2 53) :
    Unsigned (x * ofInt n) := by
  obtain ⟨m, hm, hpos⟩ := exists_ofInt h0 h
  rw [hm]
  rcases hx with rfl | ⟨k, rfl⟩
  . rw [inf_mul_finite false false hpos]
    exact .inl rfl
  . rw [finite_mul_finite]
    apply unsigned_nearest

theorem mul_ofInt_ne_nan {x : Double} (hx : x ≠ nan) {n : Nat} (h0 : 0 < n) (h : n ≤ Nat.pow 2 53) :
    x * ofInt n ≠ nan := by
  obtain ⟨m, hm, hpos⟩ := exists_ofInt h0 h
  rw [hm]
  cases x with
  | nan => exact absurd rfl hx
  | inf s => simp [inf_mul_finite s false hpos]
  | finite s k =>
    rw [finite_mul_finite]
    apply nearest_ne_nan

theorem div_ofInt_ne_nan {x : Double} (hx : x ≠ nan) {n : Nat} (h0 : 0 < n) (h : n ≤ Nat.pow 2 53) :
    x / ofInt n ≠ nan := by
  obtain ⟨m, hm, hpos⟩ := exists_ofInt h0 h
  rw [hm]
  cases x with
  | nan => exact absurd rfl hx
  | inf s => simp [inf_div_finite s false m]
  | finite s k =>
    rw [finite_div_finite s false k hpos]
    apply nearest_ne_nan

theorem unsigned_div_ofInt {x : Double} (hx : Unsigned x) {n : Nat} (h0 : 0 < n) (h : n ≤ Nat.pow 2 53) :
    Unsigned (x / ofInt n) := by
  obtain ⟨m, hm, hpos⟩ := exists_ofInt h0 h
  rw [hm]
  rcases hx with rfl | ⟨k, rfl⟩
  . rw [inf_div_finite]
    exact .inl rfl
  . rw [finite_div_finite false false k hpos]
    apply unsigned_nearest

theorem Unsigned.zero_le {x : Double} (h : Unsigned x) : zero ≤ x := by
  rcases h with rfl | ⟨m, rfl⟩
  . apply le_inf zero_ne_nan
  . rw [nonneg_finite_iff]
    apply Int.natCast_nonneg

theorem unsigned_of_pos {x : Double} (h : zero < x) : Unsigned x := by
  have hle := le_of_lt h
  cases x with
  | nan => exact absurd rfl (ne_nan_of_le_right hle)
  | inf s =>
    cases s
    . exact .inl rfl
    . cases eq_neg_inf_of_le hle
  | finite s m =>
    refine .inr ⟨m, ?_⟩
    cases s
    . rfl
    . rw [lt_iff] at h
      obtain ⟨a, b, ha, hb, hab⟩ := h
      cases ha
      cases hb
      simp [signed, Magnitude.zero] at hab
      omega

theorem unsigned_finite_le_iff {m n : Magnitude} : finite false m ≤ finite false n ↔ m.quanta ≤ n.quanta := by
  rw [le_finite_iff]
  exact Int.ofNat_le

theorem Unsigned.mul_ofInt_mono {x y : Double} (hx : Unsigned x) (hy : Unsigned y) (h : x ≤ y) {n : Nat} (h0 : 0 < n)
    (hn : n ≤ Nat.pow 2 53) : x * ofInt n ≤ y * ofInt n := by
  have hne := (unsigned_mul_ofInt hx h0 hn).ne_nan
  obtain ⟨k, hk, hpos⟩ := exists_ofInt h0 hn
  rw [hk] at hne ⊢
  rcases hy with rfl | ⟨q, rfl⟩
  . rw [inf_mul_finite false false hpos]
    apply le_inf hne
  . rcases hx with rfl | ⟨m, rfl⟩
    . cases eq_inf_of_le h
    . rw [unsigned_finite_le_iff] at h
      rw [finite_mul_finite, finite_mul_finite, le_iff]
      refine ⟨_, _, key?_nearest _ _ _, key?_nearest _ _ _, ?_⟩
      apply Int.ofNat_le.mpr
      apply rounded_mono (Nat.mul_le_mul_right _ h)

theorem neg_ne_nan {x : Double} (hx : x ≠ nan) : -x ≠ nan := by
  cases x with
  | nan => exact absurd rfl hx
  | inf s => exact Double.noConfusion
  | finite s m => exact Double.noConfusion

/-- A smaller value has an integer part if a larger one has, and it is not larger. -/
theorem Unsigned.truncToInt_mono {x y : Double} (hx : Unsigned x) (hy : Unsigned y) (h : x ≤ y) {n : Int}
    (hn : y.truncToInt = .ok n) : ∃ k, x.truncToInt = .ok k ∧ k ≤ n := by
  rcases hy with rfl | ⟨q, rfl⟩
  . cases hn
  . cases hn
    rcases hx with rfl | ⟨m, rfl⟩
    . cases eq_inf_of_le h
    . rw [unsigned_finite_le_iff] at h
      refine ⟨_, rfl, ?_⟩
      apply Int.ofNat_le.mpr
      apply Nat.div_le_div_right h

/-- What is no NaN has an integer near it unless it is infinite. -/
theorem toIntegerWith_cases (f : Bool → Nat → Nat) {x : Double} (hx : x ≠ nan) :
    (x.isInfinite = true ∧ toIntegerWith f x = .error .infinite)
      ∨ (x.isInfinite = false ∧ ∃ n, toIntegerWith f x = .ok n) := by
  cases x with
  | nan => exact absurd rfl hx
  | inf s => exact .inl ⟨rfl, rfl⟩
  | finite s m => exact .inr ⟨rfl, _, rfl⟩

/-- The integer is the least one that is not below the value. -/
def IsCeiling (n : Int) (x : Double) : Prop :=
  ∃ k, x.key? = some k ∧ (n - 1) * scale < k ∧ k ≤ n * scale

theorem isCeiling_of_ceilToInt {x : Double} {n : Int} (h : x.ceilToInt = .ok n) : IsCeiling n x := by
  cases x with
  | nan => cases h
  | inf s => cases h
  | finite s m =>
    cases h
    refine ⟨_, rfl, ?_⟩
    have hpos := scale_pos
    generalize scale = d at hpos ⊢
    have hdiv (q : Nat) : d * (q / d) + q % d = q ∧ q % d < d := ⟨Nat.div_add_mod q d, Nat.mod_lt q hpos⟩
    cases s with
    | true =>
      obtain ⟨hq, hr⟩ := hdiv m.quanta
      simp only [signed, ↓reduceIte]
      have hmul : ((-((m.quanta / d : Nat) : Int)) : Int) * d = -((d * (m.quanta / d) : Nat) : Int) := by
        rw [Int.natCast_mul, Int.neg_mul, Int.mul_comm]
      constructor
      . rw [Int.sub_mul, hmul]
        omega
      . rw [hmul]
        omega
    | false =>
      obtain ⟨hq, hr⟩ := hdiv (m.quanta + (d - 1))
      simp only [signed, Bool.false_eq_true, ↓reduceIte]
      have hmul : (((m.quanta + (d - 1)) / d : Nat) : Int) * d = ((d * ((m.quanta + (d - 1)) / d) : Nat) : Int) := by
        rw [Int.natCast_mul, Int.mul_comm]
      constructor
      . rw [Int.sub_mul, hmul]
        omega
      . rw [hmul]
        omega

end Double
end Readiness
