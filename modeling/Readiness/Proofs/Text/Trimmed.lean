import Mathlib.Data.List.DropRight
import Readiness.Text.Blank

/-!
This module contains what trimming leaves of a text: its part between the characters of a class at both ends, which
neither starts nor ends with one of them.
-/

namespace Readiness
namespace Text

/-- `l` is a text without the characters of a class at both ends. -/
structure Trimmed (p : Char → Bool) (text l : List Char) : Prop where
  inside : ∃ front back, text = front ++ l ++ back ∧ ∀ c ∈ front ++ back, p c = true
  first : l.head?.any p = false
  last : l.getLast?.any p = false

theorem any_head?_dropWhile (p : Char → Bool) (l : List Char) : (l.dropWhile p).head?.any p = false := by
  have := List.head?_dropWhile_not p l
  cases h : (l.dropWhile p).head? with
  | none => rfl
  | some c => simpa [h] using this

theorem any_getLast?_rdropWhile (p : Char → Bool) (l : List Char) : (l.rdropWhile p).getLast?.any p = false := by
  rw [List.rdropWhile, List.getLast?_reverse]
  apply any_head?_dropWhile

theorem any_head?_of_prefix {p : Char → Bool} {l r : List Char} (h : l <+: r) (hr : r.head?.any p = false) :
    l.head?.any p = false := by
  obtain ⟨back, rfl⟩ := h
  cases l with
  | nil => rfl
  | cons c l => exact hr

theorem trimmed_trimBy (p : Char → Bool) (l : List Char) : Trimmed p l (trimBy p l) := by
  show Trimmed p l ((l.dropWhile p).rdropWhile p)
  refine ⟨⟨l.takeWhile p, (l.dropWhile p).rtakeWhile p, ?_, ?_⟩, ?_, ?_⟩
  . rw [List.append_assoc, List.rdropWhile_append_rtakeWhile, List.takeWhile_append_dropWhile]
  . intro c hc
    rw [List.mem_append] at hc
    rcases hc with hc | hc
    . exact List.mem_takeWhile_imp hc
    . exact List.mem_rtakeWhile_imp hc
  . exact any_head?_of_prefix (List.rdropWhile_prefix p _) (any_head?_dropWhile p l)
  . apply any_getLast?_rdropWhile

theorem dropWhile_append {p : Char → Bool} {front l : List Char} (hf : ∀ c ∈ front, p c = true)
    (hl : l.head?.any p = false) : (front ++ l).dropWhile p = l := by
  rw [List.dropWhile_append_of_pos hf]
  cases l with
  | nil => rfl
  | cons c l =>
    have hc : p c = false := hl
    simp [hc]

/-- There is only one way to trim a text. -/
theorem Trimmed.eq_trimBy {p : Char → Bool} {text l : List Char} (h : Trimmed p text l) : l = trimBy p text := by
  obtain ⟨front, back, rfl, hblank⟩ := h.inside
  rw [List.forall_mem_append] at hblank
  obtain ⟨hfront, hback⟩ := hblank
  show l = ((front ++ l ++ back).dropWhile p).rdropWhile p
  cases l with
  | nil =>
    have hall : ∀ c ∈ front ++ [] ++ back, p c = true := by
      simpa [or_imp, forall_and] using ⟨hfront, hback⟩
    rw [List.dropWhile_eq_nil_iff.mpr hall, List.rdropWhile_nil]
  | cons c l =>
    have hdrop : (front ++ c :: l ++ back).dropWhile p = c :: l ++ back := by
      rw [List.append_assoc]
      exact dropWhile_append hfront h.first
    have hlast : (c :: l).reverse.head?.any p = false := by
      rw [List.head?_reverse]
      exact h.last
    have hreverse : ∀ d ∈ back.reverse, p d = true := by
      intro d hd
      exact hback d (List.mem_reverse.mp hd)
    rw [hdrop, List.rdropWhile, List.reverse_append, dropWhile_append hreverse hlast, List.reverse_reverse]

end Text
end Readiness
