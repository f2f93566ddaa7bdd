import Readiness.Proofs.Json.Numbers
import Readiness.Proofs.Json.RoundTrip

/-!
This module contains the characters of log lines: whatever the texts in a value are, it is printed with printable ASCII
only, so that a line ends where its value does.
-/

namespace Readiness
namespace Json

/-- The character is a blank, a letter, a digit or a mark of ASCII. -/
def IsPrintable (c : Char) : Prop :=
  0x20 ≤ c.toNat ∧ c.toNat ≤ 0x7E

instance (c : Char) : Decidable (IsPrintable c) :=
  inferInstanceAs (Decidable (_ ∧ _))

/-- All characters of the text are printable. -/
def ArePrintable (l : List Char) : Prop :=
  ∀ c ∈ l, IsPrintable c

instance (l : List Char) : Decidable (ArePrintable l) :=
  List.decidableBAll IsPrintable l

theorem arePrintable_append {l l' : List Char} : ArePrintable (l ++ l') ↔ ArePrintable l ∧ ArePrintable l' :=
  List.forall_mem_append

theorem arePrintable_cons {c : Char} {l : List Char} : ArePrintable (c :: l) ↔ IsPrintable c ∧ ArePrintable l :=
  List.forall_mem_cons

theorem arePrintable_singleton {c : Char} : ArePrintable [c] ↔ IsPrintable c :=
  List.forall_mem_singleton

theorem isPrintable_of_isDigit {c : Char} (h : c.isDigit = true) : IsPrintable c := by
  simp only [Char.isDigit, Bool.and_eq_true, decide_eq_true_eq, ge_iff_le, UInt32.le_iff_toNat_le] at h
  have h0 : 48 ≤ c.toNat := h.1
  have h1 : c.toNat ≤ 57 := h.2
  unfold IsPrintable
  omega

theorem arePrintable_decimal (n : Int) : ArePrintable (Text.decimal n) := by
  have hdigits : ArePrintable (Nat.toDigits 10 n.natAbs) :=
    fun c hc => isPrintable_of_isDigit (Text.isDigit_of_mem_toDigits hc)
  unfold Text.decimal
  split
  . rw [arePrintable_cons]
    exact ⟨by decide, hdigits⟩
  . exact hdigits

theorem arePrintable_unitEscape {n : Nat} (h : n < 0x10000) : ArePrintable (unitEscape n) := by
  have hdigit : ∀ d < 16, IsPrintable d.digitChar := by decide
  unfold unitEscape
  rw [Text.hex_four h]
  simp only [arePrintable_cons]
  exact ⟨by decide, by decide, hdigit _ (by omega), hdigit _ (by omega), hdigit _ (by omega), hdigit _ (by omega),
    fun c hc => absurd hc List.not_mem_nil⟩

theorem arePrintable_unicodeEscape (c : Char) : ArePrintable (unicodeEscape c.toNat) := by
  have hc := Parser.toNat_cases c
  unfold unicodeEscape
  split
  . next h => exact arePrintable_unitEscape h
  . rw [arePrintable_append]
    exact ⟨arePrintable_unitEscape (by omega), arePrintable_unitEscape (by omega)⟩

theorem isPrintable_of_letterEscape? {c l : Char} (h : letterEscape? c = some l) : IsPrintable l := by
  unfold letterEscape? at h
  repeat' split at h
  all_goals first
    | cases h
      decide
    | cases h

theorem arePrintable_renderChar (c : Char) : ArePrintable (renderChar true c) := by
  unfold renderChar
  cases hl : letterEscape? c with
  | some l =>
    dsimp only
    rw [arePrintable_cons, arePrintable_singleton]
    exact ⟨by decide, isPrintable_of_letterEscape? hl⟩
  | none =>
    dsimp only
    split
    . exact arePrintable_unicodeEscape c
    . next h =>
      rw [arePrintable_singleton]
      simp only [Bool.true_and, Bool.or_eq_true, decide_eq_true_eq] at h
      unfold IsPrintable
      omega

theorem arePrintable_renderString (s : String) : ArePrintable (renderString true s) := by
  unfold renderString
  rw [arePrintable_append, arePrintable_cons, arePrintable_singleton]
  refine ⟨⟨by decide, ?_⟩, by decide⟩
  intro d hd
  obtain ⟨c, _, hd⟩ := List.mem_flatMap.mp hd
  exact arePrintable_renderChar c d hd

mutual

theorem arePrintable_render (j : Json) (h : j.isPlain = true) : ArePrintable (j.render spaced) := by
  match j, h with
  | .null, _ => decide
  | .bool b, _ => cases b <;> decide
  | .int n, _ => exact arePrintable_decimal n
  | .str s, _ => exact arePrintable_renderString s
  | .arr items, h =>
    rw [render, arePrintable_append, arePrintable_cons, arePrintable_singleton]
    exact ⟨⟨by decide, arePrintable_renderItems items h⟩, by decide⟩
  | .obj fields, h =>
    rw [render, arePrintable_append, arePrintable_cons, arePrintable_singleton]
    exact ⟨⟨by decide, arePrintable_renderFields fields h⟩, by decide⟩

theorem arePrintable_renderItems (js : List Json) (h : arePlain js = true) :
    ArePrintable (renderItems spaced js) := by
  match js, h with
  | [], _ => exact fun c hc => absurd hc List.not_mem_nil
  | [j], h =>
    simp only [arePlain, Bool.and_true] at h
    rw [renderItems]
    exact arePrintable_render j h
  | j :: k :: ks, h =>
    rw [arePlain, Bool.and_eq_true] at h
    rw [Parser.renderItems_cons, arePrintable_append, arePrintable_append]
    exact ⟨⟨arePrintable_render j h.1, by decide⟩, arePrintable_renderItems (k :: ks) h.2⟩

theorem arePrintable_renderFields (fields : List (String × Json)) (h : fieldsArePlain fields = true) :
    ArePrintable (renderFields spaced fields) := by
  match fields, h with
  | [], _ => exact fun c hc => absurd hc List.not_mem_nil
  | [(key, j)], h =>
    simp only [fieldsArePlain, Bool.and_true] at h
    rw [renderFields, arePrintable_append, arePrintable_append]
    exact ⟨⟨arePrintable_renderString key, by decide⟩, arePrintable_render j h⟩
  | (key, j) :: g :: gs, h =>
    rw [fieldsArePlain, Bool.and_eq_true] at h
    rw [Parser.renderFields_cons, arePrintable_append, arePrintable_append, arePrintable_append,
      arePrintable_append]
    exact ⟨⟨⟨⟨arePrintable_renderString key, by decide⟩, arePrintable_render j h.1⟩, by decide⟩,
      arePrintable_renderFields (g :: gs) h.2⟩

end

end Json
end Readiness
