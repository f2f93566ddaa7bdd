import Readiness.Double.Rounding

/-!
This module contains what rounding to nearest does to the order of quotients: it keeps it, and it leaves alone what can
be represented.
-/

namespace Readiness
namespace Double

/-- The quanta that a quotient is rounded to. What is too large for a finite value counts as `overflow`. -/
def rounded (num den : Nat) : Nat :=
  min overflow (roundDiv num (den * ulp (num / den)) * ulp (num / den))

theorem key?_nearest (negative : Bool) (num den : Nat) :
    (nearest negative num den).key? = some (signed negative (rounded num den)) := by
  unfold nearest rounded
  dsimp only
  split
  . next h =>
    simp only [key?]
    rw [Nat.min_eq_right (by omega)]
  . next h =>
    simp only [key?]
    rw [Nat.min_eq_left (by omega)]

theorem ulp_pos (n : Nat) : 0 < ulp n := by
  unfold ulp
  apply Nat.two_pow_pos

theorem roundDiv_mono {m n : Nat} (h : m ≤ n) (den : Nat) : roundDiv m den ≤ roundDiv n den := by
  have hq : m / den ≤ n / den := Nat.div_le_div_right h
  rcases Nat.eq_or_lt_of_le hq with hq | hq
  . -- between the same neighbours only the remainders decide
    have hm := Nat.div_add_mod m den
    have hn := Nat.div_add_mod n den
    rw [hq] at hm
    simp only [roundDiv]
    rw [hq]
    split <;> split <;> omega
  . have := roundDiv_le m den
    have := le_roundDiv n den
    omega

theorem ulp_mono {m n : Nat} (h : m ≤ n) : ulp m ≤ ulp n := by
  unfold ulp
  apply Nat.pow_le_pow_right
  . decide
  . have : m.log2 ≤ n.log2 := by
      by_cases hm : m = 0
      . simp [hm]
      . rw [Nat.le_log2 (by omega)]
        apply Nat.le_trans (Nat.log2_self_le hm) h
    omega

theorem mul_ulp_le_of_ulp_lt {m n : Nat} (h : ulp m < ulp n) :
    Nat.pow 2 53 * ulp m ≤ n / ulp n * ulp n := by
  -- a larger last place is at least twice as large, and then the quotient has all of its 53 bits
  unfold ulp at h ⊢
  simp only [Nat.pow_eq] at h ⊢
  have hlog : m.log2 - 52 < n.log2 - 52 := by
    rwa [Nat.pow_lt_pow_iff_right (by decide)] at h
  have hn : n ≠ 0 := by
    intro h0
    simp [h0] at hlog
  have hle : 2 ^ 52 * 2 ^ (n.log2 - 52) ≤ n := by
    rw [← Nat.pow_add]
    have : 52 + (n.log2 - 52) = n.log2 := by omega
    rw [this]
    apply Nat.log2_self_le hn
  have hdiv : 2 ^ 52 ≤ n / 2 ^ (n.log2 - 52) := by
    rwa [Nat.le_div_iff_mul_le (Nat.two_pow_pos _)]
  calc 2 ^ 53 * 2 ^ (m.log2 - 52)
    _ = 2 ^ 52 * 2 ^ (m.log2 - 52 + 1) := by
      rw [Nat.pow_succ 2 (m.log2 - 52), Nat.pow_succ 2 52]
      simp only [Nat.mul_assoc, Nat.mul_comm, Nat.mul_left_comm]
    _ ≤ 2 ^ 52 * 2 ^ (n.log2 - 52) :=
      Nat.mul_le_mul_left _ (Nat.pow_le_pow_right (by decide) (by omega))
    _ ≤ n / 2 ^ (n.log2 - 52) * 2 ^ (n.log2 - 52) := Nat.mul_le_mul_right _ hdiv

theorem rounded_mono {m n : Nat} (h : m ≤ n) (den : Nat) : rounded m den ≤ rounded n den := by
  have hq : m / den ≤ n / den := Nat.div_le_div_right h
  have hu := ulp_mono hq
  suffices hr : roundDiv m (den * ulp (m / den)) * ulp (m / den) ≤ roundDiv n (den * ulp (n / den)) * ulp (n / den) by
    unfold rounded
    omega
  rcases Nat.eq_or_lt_of_le hu with hu | hu
  . rw [hu]
    apply Nat.mul_le_mul_right
    apply roundDiv_mono h
  . have hm := roundDiv_mul_ulp_le m den
    have hn := le_roundDiv n (den * ulp (n / den))
    rw [← Nat.div_div_eq_div_mul] at hn
    calc roundDiv m (den * ulp (m / den)) * ulp (m / den)
      _ ≤ Nat.pow 2 53 * ulp (m / den) := Nat.mul_le_mul_right _ hm
      _ ≤ n / den / ulp (n / den) * ulp (n / den) := mul_ulp_le_of_ulp_lt hu
      _ ≤ roundDiv n (den * ulp (n / den)) * ulp (n / den) := Nat.mul_le_mul_right _ hn

theorem roundDiv_mul_self (n : Nat) {den : Nat} (h : 0 < den) : roundDiv (n * den) den = n := by
  simp [roundDiv, Nat.mul_div_cancel n h, h]

theorem rounded_mul {n den : Nat} (hn : ulp n ∣ n) (hden : 0 < den) : rounded (n * den) den = min overflow n := by
  unfold rounded
  rw [Nat.mul_div_cancel n hden]
  obtain ⟨k, hk⟩ := hn
  have hu := ulp_pos n
  generalize ulp n = u at hk hu ⊢
  subst hk
  have : u * k * den = k * (den * u) := by
    rw [Nat.mul_comm den u, ← Nat.mul_assoc, Nat.mul_comm u k]
  rw [this, roundDiv_mul_self k (Nat.mul_pos hden hu), Nat.mul_comm k u]

theorem rounded_one {n : Nat} (h : ulp n ∣ n) : rounded n 1 = min overflow n := by
  have := rounded_mul h Nat.one_pos
  rwa [Nat.mul_one] at this

/-- A bound that can be represented is kept. -/
theorem rounded_le {num den bound : Nat} (hden : 0 < den) (hb : ulp bound ∣ bound) (h : num ≤ bound * den) :
    rounded num den ≤ bound := by
  have := rounded_mono h den
  rw [rounded_mul hb hden] at this
  omega

theorem ulp_dvd_two_pow (e : Nat) : ulp (Nat.pow 2 e) ∣ Nat.pow 2 e := by
  have := ulp_dvd (k := 1) (e := e) (by decide)
  rwa [Nat.one_mul] at this

end Double
end Readiness
