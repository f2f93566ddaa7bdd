import Readiness.Proofs.Duration.Grammar
import Readiness.Proofs.Log.Levels
import Readiness.Proofs.Settings.Resolution
import Readiness.Proofs.Settings.Selection

/-!
This module contains the resolution of settings field by field. What becomes of a field depends on the value that
counts for this field alone: the settings have its conversion or the default, and if some values cannot be converted,
exactly their fields are refused.
-/

namespace Readiness
namespace Settings

/-- What a field is filled with. -/
inductive Kind where
  | text
  | name
  | boolean
  | level
  | integer (least : Int) (greatest : Option Int)
  | duration

namespace Kind

def Value : Kind → Type
  | text | name => String
  | boolean => Bool
  | level => Log.Level
  | integer _ _ => Int
  | duration => Double

def read : Kind → Json → Except Problem Json
  | name => .ok ∘ trimText
  | duration => readDuration
  | _ => .ok

def convert : (k : Kind) → Json → Except Problem k.Value
  | text | name => Settings.text
  | boolean => Settings.boolean
  | level => fun j => return .ofSetting (← Settings.text j)
  | integer least greatest => fun j => do within least greatest (← Settings.integer j)
  | duration => fun j => do nonnegative (← number j)

end Kind

/-- The seconds that a value stands for, and the value that is shown if they are refused. -/
inductive Seconds : Json → Double → Json → Prop where
  | text {t : String} {x : Double} (h : Duration.Denotes (Text.trimChars t.toList) x) : Seconds (.str t) x (.real x)
  | number {j : Json} {x : Double} (ht : ∀ t, j ≠ .str t) (h : number j = .ok x) : Seconds j x j

/-- A field of this kind takes the first value as the second. -/
def Kind.Accepts : (k : Kind) → Json → k.Value → Prop
  | text, j, (a : String) => j = .str a
  | name, j, (a : String) => ∃ t, j = .str t ∧ Text.Trimmed Text.isBlank t.toList a.toList ∧ a ≠ ""
  | boolean, j, b => Settings.boolean j = .ok b
  | level, j, l => ∃ t, j = .str t ∧ Log.Level.Asks t l
  | integer least greatest, j, (n : Int) => Settings.integer j = .ok n ∧ least ≤ n ∧ ∀ g ∈ greatest, n ≤ g
  | duration, j, (x : Double) => ∃ shown, Seconds j x shown ∧ ¬ x < .zero

namespace Field

/-- All fields in the order in which they are checked. -/
def all : List Field :=
  [environment, debug, logLevel, serviceName, version, port, shutdownWait, readTimeout, writeTimeout, idleTimeout,
   maxBodyBytes, startupDelay]

def kind : Field → Kind
  | environment => .text
  | debug => .boolean
  | logLevel => .level
  | serviceName | version => .name
  | port => .integer 1 (some 65535)
  | maxBodyBytes => .integer 0 none
  | shutdownWait | readTimeout | writeTimeout | idleTimeout | startupDelay => .duration

end Field

def get (c : Settings) : (f : Field) → f.kind.Value
  | .environment => c.environment
  | .debug => c.debug
  | .logLevel => c.logLevel
  | .serviceName => c.serviceName
  | .version => c.version
  | .port => c.port
  | .shutdownWait => c.shutdownWait
  | .readTimeout => c.readTimeout
  | .writeTimeout => c.writeTimeout
  | .idleTimeout => c.idleTimeout
  | .maxBodyBytes => c.maxBodyBytes
  | .startupDelay => c.startupDelay

def Sources.checked (s : Sources) (f : Field) : Checked f.kind.Value :=
  s.check f (defaults.get f) f.kind.read f.kind.convert

theorem resolve_eq (s : Sources) : resolve s =
    (Checked.accept Settings.mk
      |>.apply (s.checked .environment) |>.apply (s.checked .debug) |>.apply (s.checked .logLevel)
      |>.apply (s.checked .serviceName) |>.apply (s.checked .version) |>.apply (s.checked .port)
      |>.apply (s.checked .shutdownWait) |>.apply (s.checked .readTimeout) |>.apply (s.checked .writeTimeout)
      |>.apply (s.checked .idleTimeout) |>.apply (s.checked .maxBodyBytes) |>.apply (s.checked .startupDelay)) :=
  rfl

section Conversion

variable {j : Json}

theorem text_eq_ok_iff {a : String} : text j = .ok a ↔ j = .str a := by
  cases j <;> simp [text, throw_eq_error, pure_eq_ok]

theorem trim_ne_empty {t : String} (h : Visible (.str t)) : Text.trimChars t.toList ≠ [] := by
  intro hnil
  obtain ⟨c, hc, hblank⟩ := h t rfl
  obtain ⟨front, back, htext, hall⟩ := (Text.trimmed_trimBy Text.isBlank t.toList).inside
  rw [show Text.trimBy Text.isBlank t.toList = [] from hnil, List.append_nil] at htext
  rw [htext] at hc
  simp [hall c hc] at hblank

theorem trimText_eq_str_iff (hj : Visible j) {a : String} :
    trimText j = .str a ↔ ∃ t, j = .str t ∧ Text.Trimmed Text.isBlank t.toList a.toList ∧ a ≠ "" := by
  constructor
  . intro h
    cases j with
    | str t =>
      cases h
      refine ⟨t, rfl, ?_, ?_⟩
      . rw [Text.trim, String.toList_ofList]
        apply Text.trimmed_trimBy
      . rw [Text.trim, ne_eq, String.ofList_eq_empty_iff]
        exact trim_ne_empty hj
    | _ => cases h
  . rintro ⟨t, rfl, ht, _⟩
    have ha : a.toList = Text.trimChars t.toList := ht.eq_trimBy
    rw [trimText, Text.trim, ← ha, String.ofList_toList]

theorem readDuration_text_eq_ok_iff {t : String} :
    readDuration (.str t) = .ok j ↔ ∃ x, Duration.Denotes (Text.trimChars t.toList) x ∧ j = .real x := by
  simp only [readDuration, ← Duration.parse_eq_ok_iff]
  cases Duration.parse t <;> simp [Except.map, Except.mapError, eq_comm]

theorem readDuration_of_not_text (h : ∀ t, j ≠ .str t) : readDuration j = .ok j := by
  cases j with
  | str t => exact absurd rfl (h t)
  | _ => rfl

theorem seconds_iff {x : Double} {shown : Json} :
    Seconds j x shown ↔ readDuration j = .ok shown ∧ number shown = .ok x := by
  constructor
  . intro h
    cases h with
    | text h => exact ⟨readDuration_text_eq_ok_iff.mpr ⟨x, h, rfl⟩, rfl⟩
    | number ht h => exact ⟨readDuration_of_not_text ht, h⟩
  . rintro ⟨hread, hnumber⟩
    by_cases ht : ∃ t, j = .str t
    . obtain ⟨t, rfl⟩ := ht
      obtain ⟨y, hy, rfl⟩ := readDuration_text_eq_ok_iff.mp hread
      cases hnumber
      exact .text hy
    . rw [readDuration_of_not_text (not_exists.mp ht)] at hread
      cases hread
      exact .number (not_exists.mp ht) hnumber

theorem level_eq_ok_iff {l : Log.Level} :
    (do return .ofSetting (← text j)) = (.ok l : Except Problem Log.Level) ↔ ∃ t, j = .str t ∧ Log.Level.Asks t l := by
  simp only [bind_eq_ok_iff, text_eq_ok_iff, pure_eq_ok, Except.ok.injEq, Log.Level.ofSetting_eq_iff]

theorem bind_within_eq_ok_iff {least : Int} {greatest : Option Int} {n : Int} :
    (integer j >>= within least greatest) = .ok n ↔ integer j = .ok n ∧ least ≤ n ∧ ∀ g ∈ greatest, n ≤ g := by
  simp only [bind_eq_ok_iff, within_eq_ok_iff]
  grind

theorem seconds_nonnegative_iff {x : Double} :
    (∃ shown, readDuration j = .ok shown ∧ (number shown >>= nonnegative) = .ok x)
      ↔ ∃ shown, Seconds j x shown ∧ ¬ x < .zero := by
  simp only [bind_eq_ok_iff, nonnegative_eq_ok_iff, seconds_iff]
  grind

/-- Most kinds are not read before they are converted. -/
theorem exists_ok_iff {P : Json → Prop} : (∃ j', (Except.ok j : Except Problem Json) = .ok j' ∧ P j') ↔ P j := by
  simp

theorem Kind.converts_iff (k : Kind) (hj : Visible j) {a : k.Value} :
    (∃ j', k.read j = .ok j' ∧ k.convert j' = .ok a) ↔ k.Accepts j a := by
  cases k with
  | text =>
    apply exists_ok_iff.trans
    apply text_eq_ok_iff
  | name =>
    apply exists_ok_iff.trans
    apply text_eq_ok_iff.trans
    apply trimText_eq_str_iff hj
  | boolean =>
    apply exists_ok_iff.trans
    rfl
  | level =>
    apply exists_ok_iff.trans
    apply level_eq_ok_iff
  | integer least greatest =>
    apply exists_ok_iff.trans
    apply bind_within_eq_ok_iff
  | duration =>
    apply seconds_nonnegative_iff

end Conversion

namespace Checked

def refusals {α : Type} : Checked α → List Refusal
  | .ok _ => []
  | .error rs => rs

end Checked

section Resolution

variable {s : Sources} {f : Field}

theorem checked_eq_ok_iff (hs : s.Unambiguous) {j : Json} (h : s.Takes f j) {a : f.kind.Value} :
    s.checked f = .ok a ↔ f.kind.Accepts j a := by
  rw [← f.kind.converts_iff h.visible]
  apply Sources.check_eq_ok_iff
  exact (Sources.value?_eq_some_iff hs).mpr h

theorem resolve_ok_iff {c : Settings} : resolve s = .ok c ↔ ∀ f, s.checked f = .ok (c.get f) := by
  constructor
  . intro h f
    have hc := resolves_of_resolve h
    cases f with
    | environment => exact hc.environment
    | debug => exact hc.debug
    | logLevel => exact hc.logLevel
    | serviceName => exact hc.serviceName
    | version => exact hc.version
    | port => exact hc.port
    | shutdownWait => exact hc.shutdownWait
    | readTimeout => exact hc.readTimeout
    | writeTimeout => exact hc.writeTimeout
    | idleTimeout => exact hc.idleTimeout
    | maxBodyBytes => exact hc.maxBodyBytes
    | startupDelay => exact hc.startupDelay
  . intro h
    rw [resolve_eq]
    simp only [h]
    rfl

end Resolution

end Settings
end Readiness
