import Mathlib.Algebra.Order.Field.Basic
import Mathlib.Algebra.Order.Ring.Rat
import Mathlib.Data.Nat.Cast.Order.Field
import Mathlib.Tactic.FieldSimp
import Mathlib.Tactic.Linarith
import Mathlib.Tactic.Positivity
import Mathlib.Tactic.Ring
import Readiness.Proofs.Double.Bounded

/-!
This module contains the numbers that finite values are, and how far the result of an operation can be from the exact
one: by half of a unit in the last place, which is at most one part in `2 ^ 53`.
-/

namespace Readiness

/-- The number that a magnitude is. -/
def Magnitude.toRat (m : Magnitude) : ℚ :=
  m.quanta / Double.scale

namespace Double

/-- Minus one or one. -/
def sign (negative : Bool) : ℚ :=
  if negative then -1 else 1

/-- The number that a finite value is. -/
def toRat? : Double → Option ℚ
  | finite s m => some (sign s * m.toRat)
  | _ => none

/-- The value is finite and no farther from the number than that. -/
def Near (x : Double) (q ε : ℚ) : Prop :=
  ∃ r, x.toRat? = some r ∧ |r - q| ≤ ε

/-- The value is the number, but for one rounding. -/
def Rounds (x : Double) (q : ℚ) : Prop :=
  Near x q ((|q| + 1) / 2 ^ 53)

theorem abs_sign (s : Bool) : |sign s| = 1 := by
  cases s <;> simp [sign]

theorem sign_bne (s t : Bool) : sign (s != t) = sign s * sign t := by
  cases s <;> cases t <;> simp [sign]

theorem cast_signed (s : Bool) (n : Nat) : (signed s n : ℚ) = sign s * n := by
  cases s <;> simp [sign, signed]

theorem exists_of_toRat? {x : Double} {p : ℚ} (h : x.toRat? = some p) :
    ∃ s m, x = finite s m ∧ p = sign s * m.toRat := by
  cases x with
  | finite s m => exact ⟨s, m, rfl, (Option.some.inj h).symm⟩
  | _ => cases h

theorem scale_eq : ∃ e, e = 1074 ∧ scale = Nat.pow 2 e := by
  unfold scale
  exact ⟨_, rfl, rfl⟩

theorem two_pow_le_scale : 2 ^ 52 ≤ scale := by
  obtain ⟨e, he, hs⟩ := scale_eq
  rw [hs]
  apply Nat.pow_le_pow_right
  . decide
  . omega

theorem ulp_mul_le (n : Nat) : ulp n * 2 ^ 52 ≤ n + 2 ^ 52 := by
  unfold ulp
  rw [Nat.pow_eq]
  by_cases h : 52 ≤ n.log2
  . have hn : n ≠ 0 := by
      rintro rfl
      simp at h
    have := Nat.log2_self_le hn
    rw [← Nat.pow_add, Nat.sub_add_cancel h]
    omega
  . rw [Nat.sub_eq_zero_of_le (by omega)]
    omega

theorem roundDiv_bounds (num : Nat) {den : Nat} (h : 0 < den) :
    2 * (roundDiv num den * den) ≤ 2 * num + den ∧ 2 * num ≤ 2 * (roundDiv num den * den) + den := by
  have hsum := Nat.div_add_mod num den
  have hlt := Nat.mod_lt num h
  rw [Nat.mul_comm] at hsum
  simp only [roundDiv]
  generalize num / den = q at *
  generalize num % den = r at *
  split
  . omega
  . rw [Nat.add_mul, Nat.one_mul]
    omega

theorem abs_roundDiv_sub_le (num : Nat) {den : Nat} (h : 0 < den) : |(roundDiv num den : ℚ) - num / den| ≤ 1 / 2 := by
  obtain ⟨hhigh, hlow⟩ := roundDiv_bounds num h
  have hhigh : 2 * ((roundDiv num den : ℚ) * den) ≤ 2 * num + den := by exact_mod_cast hhigh
  have hlow : 2 * (num : ℚ) ≤ 2 * (roundDiv num den * den) + den := by exact_mod_cast hlow
  have hpos : (0 : ℚ) < den := by exact_mod_cast h
  have hdiff : (roundDiv num den : ℚ) - num / den = (roundDiv num den * den - num) / den := by field_simp
  rw [hdiff, abs_div, abs_of_pos hpos, div_le_iff₀ hpos, abs_le]
  constructor <;> linarith

theorem quanta_of_nearest {s t : Bool} {num den : Nat} {m : Magnitude} (h : nearest s num den = finite t m) :
    m.quanta = roundDiv num (den * ulp (num / den)) * ulp (num / den) := by
  unfold nearest at h
  dsimp only at h
  split at h
  . cases h
    rfl
  . cases h

/-- The error in quanta is at most half of the unit in the last place. -/
theorem abs_quanta_sub_le {s t : Bool} {num den : Nat} {m : Magnitude} (hden : 0 < den)
    (h : nearest s num den = finite t m) : |(m.quanta : ℚ) - num / den| ≤ (num / den + 2 ^ 52) / 2 ^ 53 := by
  have hpos : (0 : ℚ) < den := by exact_mod_cast hden
  have hupos : (0 : ℚ) < ulp (num / den) := by exact_mod_cast ulp_pos (num / den)
  have hround := abs_roundDiv_sub_le num (Nat.mul_pos hden (ulp_pos (num / den)))
  have hunit : (ulp (num / den) : ℚ) * 2 ^ 52 ≤ (num / den : ℕ) + 2 ^ 52 := by exact_mod_cast ulp_mul_le (num / den)
  have hfloor : ((num / den : ℕ) : ℚ) ≤ num / den := Nat.cast_div_le
  have hscaled : (m.quanta : ℚ) - num / den
      = (roundDiv num (den * ulp (num / den)) - num / (den * ulp (num / den) : ℕ)) * ulp (num / den) := by
    rw [quanta_of_nearest h]
    push_cast
    field_simp
  rw [hscaled, abs_mul, abs_of_pos hupos]
  calc _ ≤ 1 / 2 * (ulp (num / den) : ℚ) := mul_le_mul_of_nonneg_right hround hupos.le
    _ ≤ (num / den + 2 ^ 52) / 2 ^ 53 := by linarith

theorem rounds_nearest (s : Bool) {num den : Nat} {q : ℚ} (hden : 0 < den) (hq : q * (den * scale) = num)
    (hle : q ≤ 2 ^ 53) : Rounds (nearest s num den) (sign s * q) := by
  have hpos : (0 : ℚ) < den := by exact_mod_cast hden
  have hscale : (2 : ℚ) ^ 52 ≤ scale := by exact_mod_cast two_pow_le_scale
  have hscalepos : (0 : ℚ) < scale := by exact_mod_cast scale_pos
  have hbound : num ≤ Nat.pow 2 53 * scale * den := by
    have : (num : ℚ) ≤ 2 ^ 53 * scale * den := by
      rw [← hq, mul_comm (den : ℚ), ← mul_assoc]
      gcongr
    exact_mod_cast this
  have hround := rounded_le hden (ulp_dvd_mul_scale (Nat.le_refl (Nat.pow 2 53))) hbound
  obtain ⟨m, hm, _⟩ := nearest_eq_finite s (Nat.lt_of_le_of_lt hround two_pow_mul_scale_lt)
  have herror := abs_quanta_sub_le hden hm
  have hquot : (num : ℚ) / den = q * scale := by
    rw [← hq]
    field_simp
  have hnonneg : 0 ≤ q := by
    have : 0 ≤ q * (den * scale) := by
      rw [hq]
      positivity
    exact nonneg_of_mul_nonneg_left this (by positivity)
  refine ⟨sign s * m.toRat, ?_, ?_⟩
  . rw [hm]
    rfl
  . rw [← mul_sub, abs_mul, abs_mul, abs_sign, one_mul, one_mul, abs_of_nonneg hnonneg]
    have hdiff : m.toRat - q = (m.quanta - num / den) / scale := by
      rw [hquot, Magnitude.toRat]
      field_simp
    rw [hdiff, abs_div, abs_of_pos hscalepos, div_le_iff₀ hscalepos]
    rw [hquot] at herror ⊢
    linarith

theorem rounds_ofQuanta (z : Bool) {n : Int} {q : ℚ} (hq : q * scale = n) (h : |q| ≤ 2 ^ 53) :
    Rounds (ofQuanta z n) q := by
  have hscale : (0 : ℚ) < scale := by exact_mod_cast scale_pos
  have habs : |q| * ((1 : ℕ) * scale) = (n.natAbs : ℕ) := by
    rw [Nat.cast_natAbs, Int.cast_abs, ← hq, abs_mul, abs_of_pos hscale, Nat.cast_one, one_mul]
  have hround := rounds_nearest (if n = 0 then z else decide (n < 0)) Nat.one_pos habs h
  suffices hsign : sign (if n = 0 then z else decide (n < 0)) * |q| = q by
    rwa [hsign] at hround
  split
  . next hzero =>
    rw [hzero, Int.cast_zero, mul_eq_zero] at hq
    rw [hq.resolve_right hscale.ne', abs_zero, mul_zero]
  . by_cases hneg : n < 0
    . have : q * scale < 0 := by
        rw [hq]
        exact_mod_cast hneg
      have : q < 0 := neg_of_mul_neg_left this hscale.le
      simp [sign, hneg, abs_of_neg this]
    . have : 0 ≤ q * scale := by
        rw [hq]
        exact_mod_cast Int.not_lt.mp hneg
      have : 0 ≤ q := nonneg_of_mul_nonneg_left this hscale
      simp [sign, hneg, abs_of_nonneg this]

/-- A decimal with `places` digits after the point. -/
theorem rounds_ofDecimal (s : Bool) {digits places : Nat} (h : (digits / 10 ^ places : ℚ) ≤ 2 ^ 53) :
    Rounds (ofDecimal s digits (-places)) (sign s * (digits / 10 ^ places)) := by
  cases places with
  | zero =>
    apply rounds_nearest s Nat.one_pos _ h
    push_cast
    simp
  | succ places =>
    apply rounds_nearest s (Nat.pow_pos (by decide)) _ h
    push_cast
    field_simp

section Operations

variable {x y : Double} {p q : ℚ}

theorem rounds_add (hx : x.toRat? = some p) (hy : y.toRat? = some q) (h : |p + q| ≤ 2 ^ 53) :
    Rounds (x + y) (p + q) := by
  obtain ⟨s, m, rfl, rfl⟩ := exists_of_toRat? hx
  obtain ⟨t, n, rfl, rfl⟩ := exists_of_toRat? hy
  have hscale : (scale : ℚ) ≠ 0 := by exact_mod_cast scale_pos.ne'
  rw [finite_add_finite]
  apply rounds_ofQuanta _ _ h
  unfold Magnitude.toRat
  push_cast
  rw [cast_signed, cast_signed]
  field_simp

theorem rounds_mul (hx : x.toRat? = some p) (hy : y.toRat? = some q) (h : |p * q| ≤ 2 ^ 53) :
    Rounds (x * y) (p * q) := by
  obtain ⟨s, m, rfl, rfl⟩ := exists_of_toRat? hx
  obtain ⟨t, n, rfl, rfl⟩ := exists_of_toRat? hy
  have hscale : (scale : ℚ) ≠ 0 := by exact_mod_cast scale_pos.ne'
  have hprod : sign s * m.toRat * (sign t * n.toRat) = sign (s != t) * (m.toRat * n.toRat) := by
    rw [sign_bne]
    ring
  rw [hprod, abs_mul, abs_sign, one_mul] at h
  rw [hprod, finite_mul_finite]
  apply rounds_nearest _ scale_pos
  . unfold Magnitude.toRat
    push_cast
    field_simp
  . exact le_of_abs_le h

theorem rounds_div (hx : x.toRat? = some p) (hy : y.toRat? = some q) (hq : q ≠ 0) (h : |p / q| ≤ 2 ^ 53) :
    Rounds (x / y) (p / q) := by
  obtain ⟨s, m, rfl, rfl⟩ := exists_of_toRat? hx
  obtain ⟨t, n, rfl, rfl⟩ := exists_of_toRat? hy
  have hscale : (scale : ℚ) ≠ 0 := by exact_mod_cast scale_pos.ne'
  have hn : 0 < n.quanta := by
    apply Nat.pos_of_ne_zero
    intro hzero
    apply hq
    simp [Magnitude.toRat, hzero]
  have hquanta : (n.quanta : ℚ) ≠ 0 := by exact_mod_cast hn.ne'
  have hquot : sign s * m.toRat / (sign t * n.toRat) = sign (s != t) * (m.toRat / n.toRat) := by
    cases s <;> cases t <;> simp [sign, div_neg, neg_div]
  rw [hquot, abs_mul, abs_sign, one_mul] at h
  rw [hquot, finite_div_finite s t m hn]
  apply rounds_nearest _ hn
  . unfold Magnitude.toRat
    push_cast
    field_simp
  . exact le_of_abs_le h

variable {δ ε : ℚ}

theorem near_of_toRat? (hx : x.toRat? = some p) : Near x p 0 := by
  exact ⟨p, hx, by simp⟩

theorem Near.mono (h : Near x p δ) (hδ : δ ≤ ε) : Near x p ε := by
  obtain ⟨r, hr, hle⟩ := h
  exact ⟨r, hr, hle.trans hδ⟩

/-- The rounding comes on top of how far the exact result of the operation is away already. -/
theorem Rounds.near (h : Rounds x q) (hq : |q - p| ≤ δ) : Near x p (δ + (|p| + δ + 1) / 2 ^ 53) := by
  obtain ⟨r, hr, hle⟩ := h
  refine ⟨r, hr, ?_⟩
  have htriangle := abs_sub_le r q p
  have hsize : |q| ≤ |p| + δ := by
    have := abs_sub_abs_le_abs_sub q p
    linarith
  linarith

theorem Near.neg (h : Near x p δ) : Near (-x) (-p) δ := by
  obtain ⟨r, hr, hle⟩ := h
  obtain ⟨s, m, rfl, rfl⟩ := exists_of_toRat? hr
  refine ⟨-(sign s * m.toRat), ?_, ?_⟩
  . show some (sign (!s) * m.toRat) = _
    cases s <;> simp [sign]
  . rwa [← neg_sub', abs_neg]

theorem Near.add (hx : Near x p δ) (hy : Near y q ε) (h : |p + q| + (δ + ε) ≤ 2 ^ 53) :
    Near (x + y) (p + q) (δ + ε + (|p + q| + (δ + ε) + 1) / 2 ^ 53) := by
  obtain ⟨a, ha, hpa⟩ := hx
  obtain ⟨b, hb, hqb⟩ := hy
  have hdist : |a + b - (p + q)| ≤ δ + ε := by
    rw [add_sub_add_comm]
    exact (abs_add_le _ _).trans (add_le_add hpa hqb)
  apply (rounds_add ha hb _).near hdist
  have := abs_sub_abs_le_abs_sub (a + b) (p + q)
  linarith

theorem Near.mul (hx : Near x p δ) (hy : y.toRat? = some q) (h : |p * q| + δ * |q| ≤ 2 ^ 53) :
    Near (x * y) (p * q) (δ * |q| + (|p * q| + δ * |q| + 1) / 2 ^ 53) := by
  obtain ⟨a, ha, hpa⟩ := hx
  have hdist : |a * q - p * q| ≤ δ * |q| := by
    rw [← sub_mul, abs_mul]
    exact mul_le_mul_of_nonneg_right hpa (abs_nonneg q)
  apply (rounds_mul ha hy _).near hdist
  have := abs_sub_abs_le_abs_sub (a * q) (p * q)
  linarith

theorem Near.div (hx : Near x p δ) (hy : y.toRat? = some q) (hq : q ≠ 0) (h : |p / q| + δ / |q| ≤ 2 ^ 53) :
    Near (x / y) (p / q) (δ / |q| + (|p / q| + δ / |q| + 1) / 2 ^ 53) := by
  obtain ⟨a, ha, hpa⟩ := hx
  have hdist : |a / q - p / q| ≤ δ / |q| := by
    rw [← sub_div, abs_div]
    exact div_le_div_of_nonneg_right hpa (abs_nonneg q)
  apply (rounds_div ha hy hq _).near hdist
  have := abs_sub_abs_le_abs_sub (a / q) (p / q)
  linarith

theorem exists_roundToInt (h : Near x p δ) : ∃ n : Int, x.roundToInt = .ok n ∧ |p - n| ≤ δ + 1 / 2 := by
  obtain ⟨r, hr, hle⟩ := h
  obtain ⟨s, m, rfl, rfl⟩ := exists_of_toRat? hr
  refine ⟨signed s (roundDiv m.quanta scale), rfl, ?_⟩
  have hround : |sign s * m.toRat - (signed s (roundDiv m.quanta scale) : ℤ)| ≤ 1 / 2 := by
    rw [cast_signed, ← mul_sub, abs_mul, abs_sign, one_mul, abs_sub_comm]
    exact abs_roundDiv_sub_le m.quanta scale_pos
  have htriangle := abs_sub_le p (sign s * m.toRat) (signed s (roundDiv m.quanta scale) : ℤ)
  rw [abs_sub_comm] at hle
  linarith

/-- An integer that a value is closer to than a half is the nearest one. -/
theorem roundToInt_of_near {n : Int} (h : Near x n δ) (hδ : δ < 1 / 2) : x.roundToInt = .ok n := by
  obtain ⟨k, hk, hle⟩ := exists_roundToInt h
  rw [hk]
  congr 1
  have hlt : |(n : ℚ) - k| < 1 := by linarith
  have hlt : |n - k| < 1 := by exact_mod_cast hlt
  rw [Int.abs_lt_one_iff] at hlt
  omega

end Operations

end Double
end Readiness
