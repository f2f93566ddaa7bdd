import Mathlib.Data.List.Forall2
import Readiness.Log.Level
import Readiness.Proofs.Text.Case
import Readiness.Proofs.Text.Trimmed

/-!
This module contains the words that operators use for levels, and the proof that a level is read by them: a text that
is one of the words, in any case and with blanks around it, asks for its level, and every other text for `info`.
-/

namespace Readiness
namespace Log
namespace Level

/-- The words for levels. No word at all asks for `info`. -/
def words : List (String × Level) :=
  [("debug", debug), ("info", info), ("", info), ("warn", warning), ("warning", warning), ("error", error)]

/-- But for blanks around it the text has the letters of the word, each of them small or capital. -/
def Spells (word text : String) : Prop :=
  ∃ l, Text.Trimmed Text.isBlank text.toList l ∧ List.Forall₂ (fun c d => c = d ∨ c = d.toUpper) l word.toList

/-- The level that an operator asks for: that of the word, or `info` if the text is none of the words. -/
inductive Asks (text : String) : Level → Prop where
  | word {word : String} {l : Level} (hw : (word, l) ∈ words) (h : Spells word text) : Asks text l
  | other (h : ∀ w ∈ words, ¬ Spells w.1 text) : Asks text info

theorem small_of_mem_words : ∀ w ∈ words, ∀ d ∈ w.1.toList, 0x61 ≤ d.toNat ∧ d.toNat ≤ 0x7A := by
  have hall : (words.all fun w => w.1.toList.all fun d => 0x61 ≤ d.toNat && d.toNat ≤ 0x7A) = true := by
    decide +kernel
  simpa using hall

theorem forall₂_case_iff {l word : List Char} (h : ∀ d ∈ word, 0x61 ≤ d.toNat ∧ d.toNat ≤ 0x7A) :
    List.Forall₂ (fun c d => c = d ∨ c = d.toUpper) l word ↔ l.map Char.toLower = word := by
  induction word generalizing l with
  | nil => simp
  | cons d word ih =>
    rw [List.forall_mem_cons] at h
    cases l with
    | nil => simp
    | cons c l => rw [List.forall₂_cons, ih h.2, List.map_cons, List.cons.injEq, Text.toLower_eq_iff h.1]

theorem spells_iff {w : String × Level} (hw : w ∈ words) {text : String} :
    Spells w.1 text ↔ Text.lowerAscii (Text.trim text) = w.1 := by
  have hlower : Text.lowerAscii (Text.trim text) = w.1
      ↔ (Text.trimBy Text.isBlank text.toList).map Char.toLower = w.1.toList := by
    rw [← String.toList_inj]
    unfold Text.lowerAscii Text.trim Text.trimChars
    rw [String.toList_ofList, String.toList_ofList]
  rw [hlower, ← forall₂_case_iff (small_of_mem_words w hw)]
  constructor
  . rintro ⟨l, htrimmed, hl⟩
    rw [← htrimmed.eq_trimBy]
    exact hl
  . intro hl
    exact ⟨_, Text.trimmed_trimBy Text.isBlank text.toList, hl⟩

theorem ofSetting_eq_iff {text : String} {l : Level} : ofSetting text = l ↔ Asks text l := by
  have hasks : Asks text l ↔ (∃ w ∈ words, w.2 = l ∧ Text.lowerAscii (Text.trim text) = w.1)
      ∨ l = info ∧ ∀ w ∈ words, Text.lowerAscii (Text.trim text) ≠ w.1 := by
    constructor
    . rintro (⟨hw, h⟩ | h)
      . exact .inl ⟨_, hw, rfl, (spells_iff hw).mp h⟩
      . exact .inr ⟨rfl, fun w hw heq => h w hw ((spells_iff hw).mpr heq)⟩
    . rintro (⟨⟨word, l⟩, hw, rfl, h⟩ | ⟨rfl, h⟩)
      . exact .word hw ((spells_iff hw).mpr h)
      . exact .other fun w hw hspells => h w hw ((spells_iff hw).mp hspells)
  rw [hasks]
  unfold ofSetting words
  generalize Text.lowerAscii (Text.trim text) = name
  simp only [List.mem_cons, List.not_mem_nil, or_false, exists_eq_or_imp, exists_eq_left, forall_eq_or_imp, forall_eq,
    Bool.or_eq_true, decide_eq_true_eq]
  split
  . next h => simp [h]
  . split
    . next h => rcases h with rfl | rfl <;> simp
    . split
      . next h => simp [h]
      . grind

end Level
end Log
end Readiness
