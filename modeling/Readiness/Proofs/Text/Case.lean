import Readiness.Text.Case

/-!
This module contains letters in either case: those of ASCII by their numbers, and that what is in lower case stays as it
is when ASCII alone is put into lower case.
-/

namespace Readiness
namespace Text

theorem toLower_of_not_upper {c : Char} (h : ¬ (0x41 ≤ c.toNat ∧ c.toNat ≤ 0x5A)) : c.toLower = c := by
  unfold Char.toLower
  rw [dif_neg]
  intro hupper
  exact h ⟨hupper.1, hupper.2⟩

theorem toNat_toLower (c : Char) :
    c.toLower.toNat = if 0x41 ≤ c.toNat ∧ c.toNat ≤ 0x5A then c.toNat + 32 else c.toNat := by
  split
  . next h =>
    have hupper : c.val ≥ 'A'.val ∧ c.val ≤ 'Z'.val := by
      simp only [ge_iff_le, UInt32.le_iff_toNat_le]
      exact h
    unfold Char.toLower
    rw [dif_pos hupper]
    show (c.val + ('a'.val - 'A'.val)).toNat = c.val.toNat + 32
    have hdistance : ('a'.val - 'A'.val).toNat = 32 := by decide
    have hbound : c.val.toNat ≤ 0x5A := h.2
    rw [UInt32.toNat_add]
    omega
  . next h => rw [toLower_of_not_upper h]

theorem toNat_toUpper {d : Char} (h : 0x61 ≤ d.toNat ∧ d.toNat ≤ 0x7A) : d.toUpper.toNat = d.toNat - 32 := by
  have hlower : 'a'.val ≤ d.val ∧ d.val ≤ 'z'.val := by
    simp only [UInt32.le_iff_toNat_le]
    exact h
  unfold Char.toUpper
  rw [dif_pos hlower]
  show (d.val + ('A'.val - 'a'.val)).toNat = d.val.toNat - 32
  have hdistance : ('A'.val - 'a'.val).toNat = 4294967264 := by decide
  have hbound : 0x61 ≤ d.val.toNat ∧ d.val.toNat ≤ 0x7A := h
  rw [UInt32.toNat_add]
  omega

/-- What has a given small letter is this letter or its capital. -/
theorem toLower_eq_iff {c d : Char} (h : 0x61 ≤ d.toNat ∧ d.toNat ≤ 0x7A) : c.toLower = d ↔ c = d ∨ c = d.toUpper := by
  rw [← Char.toNat_inj, ← Char.toNat_inj, ← Char.toNat_inj, toNat_toLower, toNat_toUpper h]
  split <;> omega

theorem toNat_ofNat_cases (n : Nat) : (Char.ofNat n).toNat = n ∨ (Char.ofNat n).toNat = 0 := by
  by_cases h : n.isValidChar
  . apply Or.inl
    rw [Char.ofNat, dif_pos h]
    exact UInt32.toNat_ofNatLT
  . apply Or.inr
    rw [Char.ofNat, dif_neg h]
    rfl

theorem lowerRuns_above : ∀ r ∈ lowerRuns, 0x5A < r.first + r.offset := by
  decide +kernel

theorem toLower_of_mem_lowerChar {c d : Char} (h : d ∈ lowerChar c) : d.toLower = d := by
  unfold lowerChar at h
  split at h
  . simp only [List.mem_cons, List.not_mem_nil, or_false] at h
    rcases h with rfl | rfl <;> decide
  . split at h
    . next r hr =>
      have habove := lowerRuns_above r (List.mem_of_find?_eq_some hr)
      have hcovers := List.find?_some hr
      simp only [CaseRun.covers, Bool.and_eq_true, decide_eq_true_eq] at hcovers
      rw [List.mem_singleton.mp h]
      apply toLower_of_not_upper
      rcases toNat_ofNat_cases (c.toNat + r.offset).toNat with hn | hn <;> omega
    . next hnone =>
      rw [List.mem_singleton.mp h]
      apply toLower_of_not_upper
      -- the capital letters of ASCII are the first run
      have hfirst := List.find?_eq_none.mp hnone ⟨0x41, 0x5A, 1, 32⟩ List.mem_cons_self
      simp only [CaseRun.covers, Bool.and_eq_true, decide_eq_true_eq, beq_iff_eq] at hfirst
      omega

theorem toLower_of_mem_lowerChars {before l : List Char} {d : Char} (h : d ∈ lowerChars before l) : d.toLower = d := by
  induction l generalizing before with
  | nil => cases h
  | cons c l ih =>
    rw [lowerChars, List.mem_append] at h
    rcases h with h | h
    . split at h
      . rw [List.mem_singleton.mp h]
        split <;> decide
      . exact toLower_of_mem_lowerChar h
    . exact ih h

theorem lowerAscii_lower (s : String) : lowerAscii (lower s) = lower s := by
  unfold lowerAscii lower
  rw [String.toList_ofList]
  congr 1
  have hmap : (lowerChars [] s.toList).map Char.toLower = (lowerChars [] s.toList).map id := by
    apply List.map_congr_left
    intro d hd
    exact toLower_of_mem_lowerChars hd
  rw [hmap, List.map_id]

end Text
end Readiness
