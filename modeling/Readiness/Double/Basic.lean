/-!
This module contains the definition of IEEE binary64 values as exact data: a finite value is a sign and a
magnitude counted in quanta of `2 ^ -1074`, the distance between the smallest neighbours. Every magnitude
that occurs in a `Double` is one that 53 significant bits can hold.
-/

namespace Readiness

namespace Double

/-- The distance, in quanta, from a magnitude `n` to the next larger one. -/
def ulp (n : Nat) : Nat :=
  Nat.pow 2 (n.log2 - 52)

/-- The number of quanta in 1. -/
@[irreducible]
def scale : Nat :=
  Nat.pow 2 1074

theorem scale_pos : 0 < scale := by
  unfold scale
  apply Nat.two_pow_pos

/-- The number of quanta in `2 ^ 1024`, the first magnitude that is no longer finite. -/
@[irreducible]
def overflow : Nat :=
  Nat.pow 2 2098

theorem overflow_pos : 0 < overflow := by
  unfold overflow
  apply Nat.two_pow_pos

theorem log2_mul_two_pow_le {k e : Nat} (h : k < Nat.pow 2 53) : (k * Nat.pow 2 e).log2 ≤ 52 + e := by
  simp only [Nat.pow_eq] at h ⊢
  by_cases hk : k = 0
  . simp [hk]
  . have hpos : k * 2 ^ e ≠ 0 := by
      have := Nat.two_pow_pos e
      exact Nat.mul_ne_zero hk (by omega)
    have : k * 2 ^ e < 2 ^ (53 + e) := by
      rw [Nat.pow_add]
      exact Nat.mul_lt_mul_of_pos_right h (Nat.two_pow_pos e)
    have := (Nat.log2_lt hpos).mpr this
    omega

/-- Up to 53 bits and any power of two make a magnitude. -/
theorem ulp_dvd {k e : Nat} (h : k ≤ Nat.pow 2 53) : ulp (k * Nat.pow 2 e) ∣ k * Nat.pow 2 e := by
  unfold ulp
  rcases Nat.lt_or_eq_of_le h with h | h
  . have := log2_mul_two_pow_le (e := e) h
    exact Nat.dvd_mul_left_of_dvd (Nat.pow_dvd_pow 2 (by omega)) k
  . subst h
    simp only [Nat.pow_eq]
    rw [← Nat.pow_add, Nat.log2_two_pow]
    exact Nat.pow_dvd_pow 2 (by omega)

end Double

/-- The magnitude of a finite binary64 value. -/
structure Magnitude where
  /-- The magnitude as a multiple of `2 ^ -1074`. -/
  quanta : Nat
  aligned : Double.ulp quanta ∣ quanta
  bounded : quanta < Double.overflow
deriving DecidableEq, Repr

namespace Magnitude

def zero : Magnitude := ⟨0, by decide, Double.overflow_pos⟩

instance : Inhabited Magnitude := ⟨zero⟩

end Magnitude

/-- An IEEE binary64 value, with a single NaN. -/
inductive Double where
  | nan
  | inf (negative : Bool)
  | finite (negative : Bool) (magnitude : Magnitude)
deriving DecidableEq, Repr

namespace Double

def zero : Double := .finite false .zero

instance : Inhabited Double := ⟨zero⟩

/-- `n`, negated if asked for. -/
def signed (negative : Bool) (n : Nat) : Int :=
  if negative then -n else n

/--
The place of a value in the order of the reals, in quanta, with the infinities just beyond the finite values.
The two zeros share a place and NaN has none.
-/
def key? : Double → Option Int
  | nan => none
  | inf s => some (signed s overflow)
  | finite s m => some (signed s m.quanta)

/-- Strictly below; never holds of NaN. -/
def lt (x y : Double) : Prop :=
  match x.key?, y.key? with
  | some a, some b => a < b
  | _, _ => False

/-- At most; never holds of NaN. -/
def le (x y : Double) : Prop :=
  match x.key?, y.key? with
  | some a, some b => a ≤ b
  | _, _ => False

instance : LT Double := ⟨lt⟩
instance : LE Double := ⟨le⟩

instance (x y : Double) : Decidable (x < y) := by
  show Decidable (lt x y)
  unfold lt
  split <;> infer_instance

instance (x y : Double) : Decidable (x ≤ y) := by
  show Decidable (le x y)
  unfold le
  split <;> infer_instance

theorem lt_iff {x y : Double} : x < y ↔ ∃ a b, x.key? = some a ∧ y.key? = some b ∧ a < b := by
  show lt x y ↔ _
  unfold lt
  split <;> simp_all

theorem le_iff {x y : Double} : x ≤ y ↔ ∃ a b, x.key? = some a ∧ y.key? = some b ∧ a ≤ b := by
  show le x y ↔ _
  unfold le
  split <;> simp_all

/-- The larger of two values; the first unless the second is strictly above it, so a NaN never replaces it. -/
protected def max (x y : Double) : Double :=
  if x < y then y else x

/-- Flips the sign, also of a zero. -/
protected def neg : Double → Double
  | nan => nan
  | inf s => inf !s
  | finite s m => finite (!s) m

instance : Neg Double := ⟨Double.neg⟩

def isInfinite : Double → Bool
  | inf _ => true
  | _ => false

/-- Whether the value is a whole number. -/
def isIntegral : Double → Bool
  | finite _ m => m.quanta % scale = 0
  | _ => false

end Double

end Readiness
