import Mathlib.Data.List.TakeWhile
import Readiness.Text.Case
import Readiness.Text.Latin1

/-!
This module contains Latin-1 texts: they are what the check lets through, and their lower case is Latin-1 too.
-/

namespace Readiness
namespace Text

/-- All characters of the text are Latin-1. -/
def IsLatin1 (s : String) : Prop :=
  ∀ c ∈ s.toList, isLatin1 c = true

instance (s : String) : Decidable (IsLatin1 s) :=
  decidable_of_iff (s.toList.all isLatin1 = true) List.all_eq_true

theorem checkLatin1_ok {s : String} (h : IsLatin1 s) : checkLatin1 s = .ok () := by
  unfold checkLatin1 latin1Error?
  have hnone : s.toList.dropWhile isLatin1 = [] := by
    rw [List.dropWhile_eq_nil_iff]
    exact h
  rw [hnone]
  rfl

theorem checkLatin1_error {s : String} (h : ¬ IsLatin1 s) : ∃ e, checkLatin1 s = .error e := by
  unfold checkLatin1 latin1Error?
  cases hrest : s.toList.dropWhile isLatin1 with
  | nil => exact absurd (List.dropWhile_eq_nil_iff.mp hrest) h
  | cons c r => exact ⟨_, rfl⟩

/-- Only the first runs of capital letters begin in Latin-1. -/
theorem find?_lowerRuns {n : Nat} (h : n < 256) :
    lowerRuns.find? (·.covers n) = (lowerRuns.take 3).find? (·.covers n) := by
  have habove : ∀ r ∈ lowerRuns.drop 3, 256 ≤ r.first := by decide +kernel
  have hnone : (lowerRuns.drop 3).find? (·.covers n) = none := by
    rw [List.find?_eq_none]
    intro r hr
    have := habove r hr
    simp only [CaseRun.covers, Bool.and_eq_true, decide_eq_true_eq]
    omega
  rw [← List.take_append_drop 3 lowerRuns, List.find?_append, hnone, Option.or_none]
  rfl

theorem lowerChar_eq {c : Char} (h : c.toNat < 256) :
    lowerChar c =
      match (lowerRuns.take 3).find? (·.covers c.toNat) with
      | some r => [Char.ofNat (c.toNat + r.offset).toNat]
      | none => [c] := by
  unfold lowerChar
  rw [if_neg (by omega)]
  cases hfind : (lowerRuns.take 3).find? (·.covers c.toNat) with
  | none => simp only [find?_lowerRuns h, hfind]
  | some r => simp only [find?_lowerRuns h, hfind]

theorem lowerChar_of_isLatin1 {c : Char} (h : isLatin1 c = true) :
    ∃ d, lowerChar c = [d] ∧ isLatin1 d = true ∧ lowerChar d = [d] := by
  have hall : ∀ n : Nat, n < 256 → ∀ r ∈ lowerRuns.take 3, r.covers n = true →
      (Char.ofNat (n + r.offset).toNat).toNat < 256
        ∧ (lowerRuns.take 3).find? (·.covers (Char.ofNat (n + r.offset).toNat).toNat) = none := by
    decide +kernel
  have hc : c.toNat < 256 := of_decide_eq_true h
  rw [lowerChar_eq hc]
  cases hfind : (lowerRuns.take 3).find? (·.covers c.toNat) with
  | none =>
    refine ⟨c, rfl, h, ?_⟩
    rw [lowerChar_eq hc, hfind]
  | some r =>
    have hcovers := List.find?_some hfind
    obtain ⟨hlatin, hagain⟩ := hall _ hc r (List.mem_of_find?_eq_some hfind) hcovers
    refine ⟨_, rfl, decide_eq_true hlatin, ?_⟩
    rw [lowerChar_eq hlatin, hagain]

theorem lowerChars_of_isLatin1 (before : List Char) {l : List Char} (h : ∀ c ∈ l, isLatin1 c = true) :
    lowerChars before l = l.flatMap lowerChar := by
  induction l generalizing before with
  | nil => rfl
  | cons c l ih =>
    rw [List.forall_mem_cons] at h
    have hsigma : c ≠ 'Σ' := by
      rintro rfl
      exact absurd h.1 (by decide)
    rw [lowerChars, if_neg hsigma, ih _ h.2, List.flatMap_cons]

theorem flatMap_lowerChar {l : List Char} (h : ∀ c ∈ l, isLatin1 c = true) :
    (∀ d ∈ l.flatMap lowerChar, isLatin1 d = true)
      ∧ (l.flatMap lowerChar).flatMap lowerChar = l.flatMap lowerChar := by
  induction l with
  | nil => exact ⟨fun d hd => absurd hd List.not_mem_nil, rfl⟩
  | cons c l ih =>
    rw [List.forall_mem_cons] at h
    obtain ⟨d, hd, hlatin, hagain⟩ := lowerChar_of_isLatin1 h.1
    obtain ⟨hrest, hrestAgain⟩ := ih h.2
    rw [List.flatMap_cons, hd, List.singleton_append, List.forall_mem_cons, List.flatMap_cons, hagain, hrestAgain]
    exact ⟨⟨hlatin, hrest⟩, rfl⟩

theorem isLatin1_lower {s : String} (h : IsLatin1 s) : IsLatin1 (lower s) := by
  unfold IsLatin1 lower
  rw [String.toList_ofList, lowerChars_of_isLatin1 [] h]
  exact (flatMap_lowerChar h).1

theorem lower_lower {s : String} (h : IsLatin1 s) : lower (lower s) = lower s := by
  have hlower := isLatin1_lower h
  unfold IsLatin1 at hlower
  unfold lower at hlower ⊢
  rw [String.toList_ofList] at hlower ⊢
  rw [lowerChars_of_isLatin1 [] hlower, lowerChars_of_isLatin1 [] h, (flatMap_lowerChar h).2]

end Text
end Readiness
