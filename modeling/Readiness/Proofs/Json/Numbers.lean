import Mathlib.Data.List.TakeDrop
import Readiness.Json.Parser
import Readiness.Json.Printer

/-!
This module contains the reading of printed integers. A numeral ends where something comes that cannot go on with it.
-/

namespace Readiness

namespace Text

theorem head?_toDigits {n : Nat} (h : 0 < n) : (Nat.toDigits 10 n).head? ≠ some '0' := by
  induction n using Nat.strongRecOn with
  | ind n ih =>
    by_cases hn : n < 10
    . rw [Nat.toDigits_of_lt_base hn]
      have : ∀ n < 10, 0 < n → [n.digitChar].head? ≠ some '0' := by decide
      exact this n hn h
    . have hhead := ih (n / 10) (by omega) (by omega)
      rw [Nat.toDigits_of_base_le (by decide) (by omega)]
      cases hds : Nat.toDigits 10 (n / 10) with
      | nil => exact absurd hds Nat.toDigits_ne_nil
      | cons d ds =>
        rw [hds] at hhead
        exact hhead

theorem isDigit_of_mem_toDigits {n : Nat} {c : Char} (h : c ∈ Nat.toDigits 10 n) : c.isDigit = true := by
  exact Nat.isDigit_of_mem_toDigits (by decide) (by decide) h

end Text

namespace Json
namespace Parser

/-- What comes after a number when it ends here. -/
def Ends (rest : List Char) : Prop :=
  ∀ c ∈ rest.head?, c.isDigit = false ∧ c ≠ '.' ∧ c ≠ 'e' ∧ c ≠ 'E'

theorem ends_nil : Ends [] := by
  intro c hc
  cases hc

theorem splitDigits_append {digits rest : List Char} (hd : ∀ c ∈ digits, c.isDigit = true) (hr : Ends rest) :
    splitDigits (digits ++ rest) = (digits, rest) := by
  unfold splitDigits
  rw [List.span_eq_takeWhile_dropWhile, List.takeWhile_append_of_pos hd, List.dropWhile_append_of_pos hd]
  cases rest with
  | nil => simp
  | cons c rest =>
    have := (hr c rfl).1
    simp [this]

theorem splitFraction_of_ends {rest : List Char} (h : Ends rest) : splitFraction rest = ([], rest) := by
  unfold splitFraction
  split
  . exact absurd rfl (h '.' rfl).2.1
  . rfl

theorem splitExponent_of_ends {rest : List Char} (h : Ends rest) : splitExponent rest = (none, rest) := by
  unfold splitExponent
  split
  . next e r =>
    obtain ⟨_, _, he, hE⟩ := h e rfl
    simp [he, hE]
  . rfl

theorem plain_toDigits (n : Nat) :
    ((Nat.toDigits 10 n).isEmpty
      || decide ((Nat.toDigits 10 n).length > 1) && decide ((Nat.toDigits 10 n).head? = some '0')) = false := by
  have hempty : (Nat.toDigits 10 n).isEmpty = false := List.isEmpty_eq_false_iff.mpr Nat.toDigits_ne_nil
  rw [hempty, Bool.false_or]
  by_cases hn : 0 < n
  . rw [decide_eq_false (Text.head?_toDigits hn), Bool.and_false]
  . have : n = 0 := by omega
    subst this
    decide

theorem not_signed {n : Nat} {rest r : List Char} : Nat.toDigits 10 n ++ rest ≠ '-' :: r := by
  intro heq
  have hmem : '-' ∈ Nat.toDigits 10 n := by
    cases hds : Nat.toDigits 10 n with
    | nil => exact absurd hds Nat.toDigits_ne_nil
    | cons d ds =>
      rw [hds] at heq
      cases heq
      apply List.mem_cons_self
  have := Text.isDigit_of_mem_toDigits hmem
  cases this

theorem number?_digits {rest : List Char} (h : Ends rest) (n : Nat) :
    number? (Nat.toDigits 10 n ++ rest) = some (.int n, rest)
      ∧ number? ('-' :: Nat.toDigits 10 n ++ rest) = some (.int (-n), rest) := by
  have hsplit := splitDigits_append (fun c => Text.isDigit_of_mem_toDigits (n := n)) h
  have hvalue := Nat.ofDigitChars_ten_toDigits (n := n)
  have hplain := plain_toDigits n
  have hfraction := splitFraction_of_ends h
  have hexponent := splitExponent_of_ends h
  constructor
  . unfold number?
    split
    . next negative r hsign =>
      split at hsign
      . next heq => exact absurd heq not_signed
      . cases hsign
        simp only [hsplit, hplain, hfraction, hexponent, hvalue, Bool.false_eq_true, ↓reduceIte]
        rfl
  . unfold number?
    simp only [List.cons_append, hsplit, hplain, hfraction, hexponent, hvalue, Bool.false_eq_true, ↓reduceIte]
    rfl

theorem number?_decimal {rest : List Char} (h : Ends rest) (n : Int) :
    number? (Text.decimal n ++ rest) = some (.int n, rest) := by
  obtain ⟨hnat, hneg⟩ := number?_digits h n.natAbs
  unfold Text.decimal
  split
  . next hn =>
    rw [hneg]
    have : -(n.natAbs : Int) = n := by omega
    rw [this]
  . next hn =>
    rw [hnat]
    have : (n.natAbs : Int) = n := by omega
    rw [this]

end Parser
end Json
end Readiness
