import Mathlib.Algebra.Field.Rat
import Mathlib.Tactic.FieldSimp
import Mathlib.Tactic.Ring
import Readiness.Proofs.Duration.Grammar
import Readiness.Proofs.Text.Digits

/-!
This module contains the exact values of durations, as rational numbers of nanoseconds. A text that is made of components
has one.
-/

namespace Readiness
namespace Duration

/-- The number, without any rounding. -/
def Amount.exact (a : Amount) : ℚ :=
  Text.digitsValue (a.whole ++ a.fraction) / 10 ^ a.fraction.length

/-- The nanoseconds of the component. -/
def Component.exact (c : Component) : ℚ :=
  c.amount.exact * c.unit.nanos

/-- The nanoseconds of all components together. -/
def exactTotal (cs : List Component) : ℚ :=
  (cs.map Component.exact).sum

/-- The text has a sign or none and then components, of this many nanoseconds. -/
inductive Counts : List Char → ℚ → Prop where
  | mk {negative : Bool} {body l : List Char} {cs : List Component} (hs : Signed negative body l) (hne : cs ≠ [])
    (hcs : Sequence cs body) : Counts l (if negative then -exactTotal cs else exactTotal cs)

theorem Counts.unique {l : List Char} {p q : ℚ} (hp : Counts l p) (hq : Counts l q) : p = q := by
  cases hp with
  | mk hs hne hcs =>
    cases hq with
    | mk hs' hne' hcs' =>
      have hsign := splitSign_of_signed hs (hcs.starts_of_ne_nil hne)
      rw [splitSign_of_signed hs' (hcs'.starts_of_ne_nil hne')] at hsign
      cases hsign
      have := components?_of_sequence hcs
      rw [components?_of_sequence hcs'] at this
      cases this
      rfl

/-- Zeros at the end of a fraction count for nothing. -/
theorem Amount.exact_append_zeros (whole fraction : List Char) (k : Nat) :
    Amount.exact ⟨whole, fraction ++ List.replicate k '0'⟩ = Amount.exact ⟨whole, fraction⟩ := by
  unfold Amount.exact
  dsimp only
  rw [← List.append_assoc, Text.digitsValue_append, Text.digitsValue_replicate_zero, List.length_append,
    List.length_replicate, pow_add, Nat.add_zero]
  push_cast
  field_simp

theorem Amount.exact_toDigits (n : Nat) : Amount.exact ⟨Nat.toDigits 10 n, []⟩ = n := by
  unfold Amount.exact
  simp [Text.digitsValue_toDigits]

theorem Amount.exact_padded {places : Nat} (hp : 0 < places) (n : Nat) :
    Amount.exact ⟨Nat.toDigits 10 (n / 10 ^ places), Text.padded places (n % 10 ^ places)⟩ = n / 10 ^ places := by
  have hlength := Text.length_padded hp (Nat.mod_lt n (Nat.pow_pos (by decide)))
  unfold Amount.exact
  rw [Text.digitsValue_append, Text.digitsValue_toDigits, Text.digitsValue_padded, hlength, Nat.div_add_mod']

end Duration
end Readiness
