import Readiness.Double.Integer
import Readiness.Proofs.Double.Order

/-!
This module contains bounds on finite values: results of arithmetic on values that are not too large are not too large
either, and so have an integer near them.
-/

namespace Readiness
namespace Double

/-- The value is finite and has at most `2 ^ e` quanta. -/
def Within (e : Nat) (x : Double) : Prop :=
  ∃ s m, x = finite s m ∧ m.quanta ≤ Nat.pow 2 e

theorem Within.ne_nan {e : Nat} {x : Double} (h : Within e x) : x ≠ nan := by
  obtain ⟨s, m, rfl, _⟩ := h
  simp

theorem overflow_eq : ∃ e, e = 2098 ∧ overflow = Nat.pow 2 e := by
  unfold overflow
  exact ⟨_, rfl, rfl⟩

theorem overflow_eq_mul {e f : Nat} (h : e + f = 2098) : overflow = Nat.pow 2 e * Nat.pow 2 f := by
  obtain ⟨g, hg, ho⟩ := overflow_eq
  rw [ho, hg, ← h]
  apply Nat.pow_add 2 e f

theorem two_pow_lt_overflow {e : Nat} (h : e < 2098) : Nat.pow 2 e < overflow := by
  obtain ⟨f, hf, ho⟩ := overflow_eq
  rw [ho]
  apply Nat.pow_lt_pow_right
  . decide
  . omega

theorem Within.mono {e f : Nat} {x : Double} (h : Within e x) (hef : e ≤ f) : Within f x := by
  obtain ⟨s, m, rfl, hm⟩ := h
  exact ⟨s, m, rfl, Nat.le_trans hm (Nat.pow_le_pow_right (by decide) hef)⟩

theorem nearest_eq_finite (s : Bool) {num den : Nat} (h : rounded num den < overflow) :
    ∃ m, nearest s num den = finite s m ∧ m.quanta = rounded num den := by
  have hn : roundDiv num (den * ulp (num / den)) * ulp (num / den) = rounded num den := by
    unfold rounded at h ⊢
    omega
  unfold nearest
  dsimp only
  rw [dif_pos (by omega)]
  exact ⟨_, rfl, hn⟩

theorem within_nearest (s : Bool) {num den e : Nat} (hden : 0 < den) (he : e < 2098) (h : num ≤ Nat.pow 2 e * den) :
    ∃ m, nearest s num den = finite s m ∧ m.quanta ≤ Nat.pow 2 e := by
  have hle := rounded_le hden (ulp_dvd_two_pow e) h
  obtain ⟨m, hm, hq⟩ := nearest_eq_finite s (Nat.lt_of_le_of_lt hle (two_pow_lt_overflow he))
  exact ⟨m, hm, by omega⟩

theorem within_ofQuanta (z : Bool) {n : Int} {e : Nat} (he : e < 2098) (h : n.natAbs ≤ Nat.pow 2 e) :
    Within e (ofQuanta z n) := by
  have hone : n.natAbs ≤ Nat.pow 2 e * 1 := by
    rw [Nat.mul_one]
    exact h
  exact ⟨_, within_nearest _ Nat.one_pos he hone⟩

theorem Within.add {e : Nat} {x y : Double} (hx : Within e x) (hy : Within e y) (he : e + 1 < 2098) :
    Within (e + 1) (x + y) := by
  obtain ⟨s, m, rfl, hm⟩ := hx
  obtain ⟨t, n, rfl, hn⟩ := hy
  rw [finite_add_finite]
  apply within_ofQuanta _ he
  have hs := natAbs_signed s m.quanta
  have ht := natAbs_signed t n.quanta
  have h2 : Nat.pow 2 (e + 1) = Nat.pow 2 e * 2 := rfl
  omega

theorem Within.neg {e : Nat} {x : Double} (hx : Within e x) : Within e (-x) := by
  obtain ⟨s, m, rfl, hm⟩ := hx
  exact ⟨!s, m, rfl, hm⟩

theorem Within.sub {e : Nat} {x y : Double} (hx : Within e x) (hy : Within e y) (he : e + 1 < 2098) :
    Within (e + 1) (x - y) := by
  exact hx.add hy.neg he

theorem exists_mul_ofInt (s : Bool) {m : Magnitude} {n e f : Nat} (hm : m.quanta ≤ Nat.pow 2 e) (hn : n ≤ Nat.pow 2 f)
    (hf : f ≤ 53) (he : e + f < 2098) : ∃ k, finite s m * ofInt n = finite s k ∧ (m.quanta = 0 → k.quanta = 0) := by
  obtain ⟨k, hk, hkq⟩ := ofInt_ofNat (n := n) (Nat.le_trans hn (Nat.pow_le_pow_right (by decide) hf))
  rw [hk, finite_mul_finite, hkq, ← Nat.mul_assoc, Bool.bne_false]
  have hbound : m.quanta * n * scale ≤ Nat.pow 2 (e + f) * scale := by
    apply Nat.mul_le_mul_right
    have : Nat.pow 2 (e + f) = Nat.pow 2 e * Nat.pow 2 f := Nat.pow_add 2 e f
    rw [this]
    apply Nat.mul_le_mul hm hn
  have hle := rounded_le scale_pos (ulp_dvd_two_pow (e + f)) hbound
  obtain ⟨q, hq, hquanta⟩ := nearest_eq_finite s (Nat.lt_of_le_of_lt hle (two_pow_lt_overflow he))
  refine ⟨q, hq, ?_⟩
  intro hzero
  rw [hquanta, hzero, Nat.zero_mul, Nat.zero_mul, rounded_zero]

theorem within_of_mul_ofInt {x : Double} {n e f : Nat} (hn : Nat.pow 2 f ≤ n) (hn' : n ≤ Nat.pow 2 53)
    (he : e + f = 2098) {k : Int} (h : (x * ofInt n).roundToInt = .ok k) : Within e x := by
  -- a factor of a finite product is as much smaller than the infinities as the other factor is larger than one
  obtain ⟨d, hd, hdq⟩ := ofInt_ofNat hn'
  rw [hd] at h
  have hpos : 0 < d.quanta := by
    rw [hdq]
    apply Nat.mul_pos (Nat.lt_of_lt_of_le (Nat.two_pow_pos f) hn) scale_pos
  cases x with
  | nan => cases h
  | inf s =>
    rw [inf_mul_finite s false hpos] at h
    cases h
  | finite s m =>
    refine ⟨s, m, rfl, ?_⟩
    rw [← Nat.not_lt]
    intro hlt
    -- then the product is too large
    have hover : overflow * scale ≤ m.quanta * d.quanta := by
      rw [hdq, ← Nat.mul_assoc]
      apply Nat.mul_le_mul_right
      rw [overflow_eq_mul he]
      apply Nat.mul_le_mul (Nat.le_of_lt hlt) hn
    have hround := rounded_mono hover scale
    have hdvd : ulp overflow ∣ overflow := by
      obtain ⟨g, _, ho⟩ := overflow_eq
      rw [ho]
      apply ulp_dvd_two_pow
    rw [rounded_mul hdvd scale_pos, Nat.min_self] at hround
    rw [finite_mul_finite] at h
    cases hp : nearest (s != false) (m.quanta * d.quanta) scale with
    | nan =>
      rw [hp] at h
      cases h
    | inf t =>
      rw [hp] at h
      cases h
    | finite t p =>
      have hkey := key?_nearest (s != false) (m.quanta * d.quanta) scale
      rw [hp, key?, Option.some.injEq] at hkey
      have habs := congrArg Int.natAbs hkey
      rw [natAbs_signed, natAbs_signed] at habs
      have := p.bounded
      omega

theorem natAbs_roundToInt_le {x : Double} {n : Int} (h : x.roundToInt = .ok n) : n.natAbs ≤ overflow := by
  cases x with
  | nan => cases h
  | inf s => cases h
  | finite s m =>
    cases h
    show (signed s (roundDiv m.quanta scale)).natAbs ≤ overflow
    have hround := roundDiv_le m.quanta scale
    have hquotient := Nat.div_le_self m.quanta scale
    have hbounded := m.bounded
    rw [natAbs_signed]
    omega

theorem natAbs_roundToInt_lt {x : Double} {n : Int} (h : x.roundToInt = .ok n) {k : Nat} (hk : 2098 < k) :
    n.natAbs < Nat.pow 10 k := by
  obtain ⟨e, he, hoverflow⟩ := overflow_eq
  calc
    n.natAbs ≤ overflow := natAbs_roundToInt_le h
    _ = Nat.pow 2 e := hoverflow
    _ ≤ Nat.pow 10 e := Nat.pow_le_pow_left (by decide) e
    _ < Nat.pow 10 k := Nat.pow_lt_pow_right (by decide) (he ▸ hk)

theorem truncToInt_finite {s : Bool} {m : Magnitude} (h : zero ≤ finite s m) :
    ∃ n, (finite s m).truncToInt = .ok n ∧ 0 ≤ n := by
  refine ⟨_, rfl, ?_⟩
  rcases zero_le_finite_iff.mp h with rfl | hzero
  . apply Int.natCast_nonneg
  . have hnone : signed s (m.quanta / scale) = 0 := by
      rw [hzero, Nat.zero_div, signed_zero]
    exact Int.le_of_eq hnone.symm

end Double
end Readiness
