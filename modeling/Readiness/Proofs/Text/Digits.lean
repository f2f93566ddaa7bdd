import Mathlib.Data.Nat.Digits.Defs
import Readiness.Text.Blank
import Readiness.Text.Decimal
import Readiness.Text.Digit

/-!
This module contains the numbers that rows of digits denote: those of printed numbers are the numbers themselves, zeros
in front change nothing, and each zero behind multiplies by ten.
-/

namespace Readiness
namespace Text

theorem digit?_digitChar {d : Nat} (h : d < 10) : digit? d.digitChar = some d := by
  have : ∀ d < 10, digit? (Nat.digitChar d) = some d := by decide
  exact this d h

theorem foldl_digits (l : List Char) (n : Nat) :
    l.foldl (fun n c => 10 * n + (digit? c).getD 0) n = n * 10 ^ l.length + digitsValue l := by
  unfold digitsValue
  induction l generalizing n with
  | nil => simp
  | cons c l ih =>
    rw [List.foldl_cons, List.foldl_cons, ih, ih (10 * 0 + _), List.length_cons, Nat.pow_succ]
    ring

theorem digitsValue_append (l r : List Char) : digitsValue (l ++ r) = digitsValue l * 10 ^ r.length + digitsValue r := by
  conv_lhs => unfold digitsValue
  rw [List.foldl_append, foldl_digits r]
  rfl

theorem digitsValue_replicate_zero (k : Nat) : digitsValue (List.replicate k '0') = 0 := by
  induction k with
  | zero => rfl
  | succ k ih =>
    rw [List.replicate_succ', digitsValue_append, ih, Nat.zero_mul, Nat.zero_add]
    decide

theorem digitsValue_toDigits (n : Nat) : digitsValue (Nat.toDigits 10 n) = n := by
  induction n using Nat.strongRecOn with
  | ind n ih =>
    by_cases hn : n < 10
    . rw [Nat.toDigits_of_lt_base hn, digitsValue, List.foldl_cons, digit?_digitChar hn]
      simp
    . have hlast : digitsValue [(n % 10).digitChar] = n % 10 := by
        rw [digitsValue, List.foldl_cons, digit?_digitChar (Nat.mod_lt n (by decide))]
        simp
      rw [Nat.toDigits_of_base_le (by decide) (by omega), digitsValue_append, ih (n / 10) (by omega), hlast,
        List.length_singleton]
      omega

theorem lt_length_toDigits {k n : Nat} (hk : 0 < k) (hn : 10 ^ k ≤ n) : k < (Nat.toDigits 10 n).length := by
  rw [← Nat.not_le, Nat.length_toDigits_le_iff (by decide) hk, Nat.not_lt]
  exact hn

theorem digitsValue_padded (width n : Nat) : digitsValue (padded width n) = n := by
  unfold padded List.leftpad
  rw [digitsValue_append, digitsValue_replicate_zero, digitsValue_toDigits]
  simp

theorem length_padded {width n : Nat} (hw : 0 < width) (hn : n < 10 ^ width) : (padded width n).length = width := by
  have := Nat.toDigits_length 10 n width hw hn
  unfold padded List.leftpad
  simp only [List.length_append, List.length_replicate]
  omega

/-- The digits of all scripts come after the plain ones. -/
theorem isDigit_of_plain {c : Char} (h : c.isDigit = true) : isDigit c = true := by
  have hrange : 48 ≤ c.toNat ∧ c.toNat < 58 := by
    simp only [Char.isDigit, Bool.and_eq_true, decide_eq_true_eq, ge_iff_le, UInt32.le_iff_toNat_le] at h
    exact ⟨h.1, Nat.lt_succ_of_le h.2⟩
  unfold isDigit digit? digitZeros
  rw [List.findSome?_cons, if_pos hrange]
  rfl

/-- No digit is white space. -/
theorem isBlank_of_isDigit {c : Char} (h : isDigit c = true) : isBlank c = false := by
  have hapart : ∀ z ∈ digitZeros, 0x1F < z ∧ ∀ r ∈ spaceRanges, r.2 < z ∨ z + 10 ≤ r.1 := by
    decide
  obtain ⟨d, hd⟩ := Option.isSome_iff_exists.mp h
  obtain ⟨z, hz, hd⟩ := List.exists_of_findSome?_eq_some hd
  obtain ⟨hcontrol, hspace⟩ := hapart z hz
  split at hd
  . next hrange =>
    simp only [isBlank, isSpace, inRanges, Bool.or_eq_false_iff, List.any_eq_false, Bool.and_eq_true, decide_eq_true_eq,
      Bool.and_eq_false_iff, decide_eq_false_iff_not]
    refine ⟨?_, by omega⟩
    intro r hr
    have := hspace r hr
    omega
  . cases hd

theorem isDigit_toDigits {n : Nat} {c : Char} (h : c ∈ Nat.toDigits 10 n) : isDigit c = true := by
  apply isDigit_of_plain
  apply Nat.isDigit_of_mem_toDigits (by decide) (by decide) h

theorem isDigit_padded {width n : Nat} {c : Char} (h : c ∈ padded width n) : isDigit c = true := by
  unfold padded List.leftpad at h
  rw [List.mem_append, List.mem_replicate] at h
  rcases h with ⟨_, rfl⟩ | h
  . decide
  . exact isDigit_toDigits h

end Text
end Readiness
