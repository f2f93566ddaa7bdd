import Mathlib.Data.List.Basic
import Readiness.Settings.Sources

/-!
This module contains which value counts for a field when arguments, environment and file are combined. The first
source that names the field with a value gives it, and a blank text that is given counts as nothing; it does not make
way for the sources behind.
-/

namespace Readiness
namespace Settings

variable {α : Type}

/-- The values have one for the field, under its name in any case. -/
def Names (values : List (String × α)) (f : Field) (a : α) : Prop :=
  ∃ name, (name, a) ∈ values ∧ Text.lowerAscii name = f.name

/-- No field is named twice, not even in another case. -/
def NamedOnce (values : List (String × α)) : Prop :=
  ∀ f : Field, (values.filter fun v => Text.lowerAscii v.1 == f.name).length ≤ 1

theorem NamedOnce.of_sublist {values values' : List (String × α)} (h : NamedOnce values) (hs : values'.Sublist values) :
    NamedOnce values' := by
  intro f
  exact Nat.le_trans (hs.filter _).length_le (h f)

theorem NamedOnce.reverse {values : List (String × α)} (h : NamedOnce values) : NamedOnce values.reverse := by
  intro f
  rw [List.filter_reverse, List.length_reverse]
  exact h f

theorem names_reverse {values : List (String × α)} {f : Field} {a : α} : Names values.reverse f a ↔ Names values f a := by
  simp [Names]

theorem names_filter {values : List (String × α)} {p : String × α → Bool} {q : Prop} {f : Field}
    {a : α} (hp : ∀ name, p (name, a) = true ↔ q) : Names (values.filter p) f a ↔ Names values f a ∧ q := by
  simp only [Names, List.mem_filter, hp]
  grind

theorem firstNamed?_eq_some_iff {values : List (String × α)} (h : NamedOnce values) {f : Field} {a : α} :
    firstNamed? f.name values = some a ↔ Names values f a := by
  have hnames : Names values f a ↔ ∃ name, (name, a) ∈ values.filter fun v => Text.lowerAscii v.1 == f.name := by
    simp [Names]
  have hfirst : firstNamed? f.name values
      = (values.filter fun v => Text.lowerAscii v.1 == f.name).head?.map (·.2) := by
    rw [List.head?_filter]
    rfl
  rw [hnames, hfirst]
  have hone := h f
  generalize values.filter (fun v => Text.lowerAscii v.1 == f.name) = named at hone
  match named with
  | [] => simp
  | [v] =>
    obtain ⟨name, b⟩ := v
    simp [eq_comm]
  | _ :: _ :: _ => simp at hone

theorem lastNamed?_eq_some_iff {values : List (String × α)} (h : NamedOnce values) {f : Field} {a : α} :
    lastNamed? f.name values = some a ↔ Names values f a := by
  rw [lastNamed?, firstNamed?_eq_some_iff h.reverse, names_reverse]

/-- No source names a field twice. -/
structure Sources.Unambiguous (s : Sources) : Prop where
  arguments : NamedOnce s.arguments
  environment : NamedOnce s.environment
  file : NamedOnce s.fileVariables

/-- The value of the first source that has one for the field; an empty variable is none. -/
inductive Sources.Gives (s : Sources) (f : Field) : Json → Prop where
  | argument {j : Json} (h : Names s.arguments f j) : Gives s f j
  | environment {t : String} (ha : ∀ j, ¬ Names s.arguments f j) (h : Names s.environment f t) (ht : t ≠ "") :
    Gives s f (.str t)
  | file {t : String} (ha : ∀ j, ¬ Names s.arguments f j) (he : ∀ u, Names s.environment f u → u = "")
    (h : Names s.fileVariables f (some t)) (ht : t ≠ "") : Gives s f (.str t)

/-- Not a blank text. -/
def Visible (j : Json) : Prop :=
  ∀ t, j = .str t → ∃ c ∈ t.toList, Text.isBlank c = false

/-- The value to use for the field. A blank text is none, whatever the sources behind it have. -/
structure Sources.Takes (s : Sources) (f : Field) (j : Json) : Prop where
  given : s.Gives f j
  visible : Visible j

namespace Sources

variable {s : Sources} {f : Field}

theorem ofEnvironment?_eq_some_iff (h : NamedOnce s.environment) {t : String} :
    s.ofEnvironment? f = some t ↔ Names s.environment f t ∧ t ≠ "" := by
  rw [ofEnvironment?, lastNamed?_eq_some_iff (h.of_sublist List.filter_sublist)]
  apply names_filter
  simp

theorem ofFile?_eq_some_iff (h : NamedOnce s.fileVariables) {t : String} :
    s.ofFile? f = some t ↔ Names s.fileVariables f (some t) ∧ t ≠ "" := by
  rw [ofFile?, Option.join_eq_some_iff, lastNamed?_eq_some_iff (h.of_sublist List.filter_sublist)]
  apply names_filter
  simp

theorem given?_eq_some_iff (h : s.Unambiguous) {j : Json} : s.given? f = some j ↔ s.Gives f j := by
  have hargument (i : Json) := firstNamed?_eq_some_iff h.arguments (f := f) (a := i)
  have henvironment (t : String) := ofEnvironment?_eq_some_iff h.environment (f := f) (t := t)
  have hfile (t : String) := ofFile?_eq_some_iff h.file (f := f) (t := t)
  simp only [given?, Option.orElse_eq_orElse, Option.orElse_eq_or, Option.or_eq_some_iff, Option.map_eq_some_iff,
    Option.eq_none_iff_forall_ne_some, ne_eq, hargument, henvironment, hfile]
  constructor
  . rintro (hj | ⟨ha, t, ⟨hj, ht⟩ | ⟨he, hj, ht⟩, rfl⟩)
    . exact .argument hj
    . exact .environment ha hj ht
    . exact .file ha (by grind) hj ht
  . rintro (hj | ⟨ha, hj, ht⟩ | ⟨ha, he, hj, ht⟩)
    . exact .inl hj
    . exact .inr ⟨ha, _, .inl ⟨hj, ht⟩, rfl⟩
    . exact .inr ⟨ha, _, .inr ⟨by grind, hj, ht⟩, rfl⟩

theorem isBlankText_eq_false_iff {j : Json} : isBlankText j = false ↔ Visible j := by
  cases j <;> simp [isBlankText, Visible]

theorem value?_eq_some_iff (h : s.Unambiguous) {j : Json} : s.value? f = some j ↔ s.Takes f j := by
  rw [value?, Option.filter_eq_some_iff, given?_eq_some_iff h, Bool.not_eq_true', isBlankText_eq_false_iff]
  constructor
  . rintro ⟨hgiven, hvisible⟩
    exact ⟨hgiven, hvisible⟩
  . rintro ⟨hgiven, hvisible⟩
    exact ⟨hgiven, hvisible⟩

theorem Takes.unique (h : s.Unambiguous) {i j : Json} (hi : s.Takes f i) (hj : s.Takes f j) : i = j := by
  rw [← value?_eq_some_iff h] at hi hj
  rw [hi] at hj
  cases hj
  rfl

end Sources
end Settings
end Readiness
