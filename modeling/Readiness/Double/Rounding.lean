import Readiness.Double.Basic

/-!
This module contains rounding to nearest with ties to even: of a quotient to an integer, and of an exact
quotient of quanta to a `Double`. Each arithmetic operation is its exact result, rounded here once.
-/

namespace Readiness
namespace Double

/-- The integer nearest to `num / den`; a tie goes to the even neighbour. -/
def roundDiv (num den : Nat) : Nat :=
  let q := num / den
  let r := num % den
  if 2 * r < den ∨ (2 * r = den ∧ q % 2 = 0) then q else q + 1

theorem roundDiv_le (num den : Nat) : roundDiv num den ≤ num / den + 1 := by
  simp only [roundDiv]
  split <;> omega

theorem le_roundDiv (num den : Nat) : num / den ≤ roundDiv num den := by
  simp only [roundDiv]
  split <;> omega

theorem lt_mul_ulp (n : Nat) : n < Nat.pow 2 53 * ulp n := by
  have hp : 2 ^ (n.log2 + 1) ≤ 2 ^ (53 + (n.log2 - 52)) :=
    Nat.pow_le_pow_right (by decide) (by omega)
  rw [Nat.pow_add 2 53] at hp
  exact Nat.lt_of_lt_of_le Nat.lt_log2_self hp

/-- A quotient has at most 53 bits left above the last place that its magnitude can hold. -/
theorem roundDiv_mul_ulp_le (num den : Nat) :
    roundDiv num (den * ulp (num / den)) ≤ Nat.pow 2 53 := by
  have h := roundDiv_le num (den * ulp (num / den))
  rw [← Nat.div_div_eq_div_mul] at h
  generalize num / den = q at h ⊢
  have : q / ulp q < Nat.pow 2 53 := by
    apply Nat.div_lt_of_lt_mul
    rw [Nat.mul_comm]
    apply lt_mul_ulp
  omega

/-- The value nearest to `num / den` quanta with the given sign. -/
def nearest (negative : Bool) (num den : Nat) : Double :=
  let u := ulp (num / den)
  let n := roundDiv num (den * u) * u
  if h : n < overflow then
    .finite negative ⟨n, ulp_dvd (roundDiv_mul_ulp_le num den), h⟩
  else
    .inf negative

/-- The value nearest to an exact number of quanta; `zeroSign` is the sign of the result if that number is zero. -/
def ofQuanta (zeroSign : Bool) (n : Int) : Double :=
  nearest (if n = 0 then zeroSign else n < 0) n.natAbs 1

end Double
end Readiness
