import Readiness.Proofs.Settings.Fields

/-!
This module contains what holds of settings that were accepted: every field is within its range, and given as arguments
the fields are accepted again as they are, whatever the other sources say.
-/

namespace Readiness
namespace Settings

open Text (isBlank)

/-- The levels that can be asked for. -/
def levelNames : List String :=
  ["DEBUG", "INFO", "WARNING", "ERROR"]

/-- What a field of this kind has to be filled with. -/
def Kind.Holds : (k : Kind) → k.Value → Prop
  | text, (a : String) => Visible (.str a)
  | name, (a : String) => a ≠ "" ∧ Text.trim a = a
  | boolean, _ => True
  | level, (l : Log.Level) => l.settingName ∈ levelNames
  | integer least greatest, (n : Int) => least ≤ n ∧ ∀ g ∈ greatest, n ≤ g
  | duration, (x : Double) => ¬ x < .zero

/-- The argument that stands for a value. -/
def Kind.argument : (k : Kind) → k.Value → Json
  | text, (a : String) => .str a
  | name, (a : String) => .str a
  | boolean, (b : Bool) => .bool b
  | level, (l : Log.Level) => .str l.settingName
  | integer _ _, (n : Int) => .int n
  | duration, (x : Double) => .real x

theorem trimmed_self {text l : List Char} (h : Text.Trimmed isBlank text l) : Text.Trimmed isBlank l l := by
  refine ⟨⟨[], [], ?_, ?_⟩, h.first, h.last⟩
  . rw [List.nil_append, List.append_nil]
  . simp

theorem trim_eq_self_iff {a : String} : Text.trim a = a ↔ Text.Trimmed isBlank a.toList a.toList := by
  unfold Text.trim Text.trimChars
  constructor
  . intro h
    have htrimmed := Text.trimmed_trimBy isBlank a.toList
    rw [← h, String.toList_ofList]
    exact trimmed_self htrimmed
  . intro h
    rw [← h.eq_trimBy, String.ofList_toList]

theorem visible_of_trim_eq_self {a : String} (hne : a ≠ "") (h : Text.trim a = a) : Visible (.str a) := by
  rintro t ⟨rfl⟩
  have hfirst := (trim_eq_self_iff.mp h).first
  cases hl : a.toList with
  | nil => exact absurd (String.toList_eq_nil_iff.mp hl) hne
  | cons c l =>
    rw [hl] at hfirst
    exact ⟨c, List.mem_cons_self, hfirst⟩

theorem settingName_mem_of_asks {t : String} {l : Log.Level} (h : Log.Level.Asks t l) : l.settingName ∈ levelNames := by
  have hwords : ∀ w ∈ Log.Level.words, w.2.settingName ∈ levelNames := by decide
  cases h with
  | word hw _ => exact hwords _ hw
  | other _ => decide

theorem asks_settingName {l : Log.Level} (h : l.settingName ∈ levelNames) : Log.Level.Asks l.settingName l := by
  rw [← Log.Level.ofSetting_eq_iff]
  cases l with
  | critical => exact absurd h (by decide)
  | _ => decide +kernel

theorem visible_settingName (l : Log.Level) : Visible (.str l.settingName) := by
  rw [← Sources.isBlankText_eq_false_iff]
  cases l <;> decide +kernel

/-- What a field takes is what it has to be filled with. -/
theorem Kind.holds_of_accepts {k : Kind} {j : Json} (hj : Visible j) {a : k.Value} (h : k.Accepts j a) : k.Holds a := by
  cases k with
  | text =>
    cases h
    exact hj
  | name =>
    obtain ⟨t, _, htrimmed, hne⟩ := h
    exact ⟨hne, trim_eq_self_iff.mpr (trimmed_self htrimmed)⟩
  | boolean => trivial
  | level =>
    obtain ⟨t, _, hl⟩ := h
    exact settingName_mem_of_asks hl
  | integer least greatest => exact h.2
  | duration =>
    obtain ⟨_, _, hx⟩ := h
    exact hx

theorem Kind.visible_argument {k : Kind} {a : k.Value} (h : k.Holds a) : Visible (k.argument a) := by
  cases k with
  | text => exact h
  | name => exact visible_of_trim_eq_self h.1 h.2
  | level => apply visible_settingName
  | _ => rintro t ⟨⟩

/-- What a field is filled with it takes again, as it is. -/
theorem Kind.accepts_argument {k : Kind} {a : k.Value} (h : k.Holds a) : k.Accepts (k.argument a) a := by
  cases k with
  | text => rfl
  | name => exact ⟨a, rfl, trim_eq_self_iff.mp h.2, h.1⟩
  | boolean => rfl
  | level => exact ⟨_, rfl, asks_settingName h⟩
  | integer least greatest => exact ⟨rfl, h⟩
  | duration => exact ⟨.real a, .number (fun _ => Json.noConfusion) rfl, h⟩

theorem holds_defaults (f : Field) : f.kind.Holds (defaults.get f) := by
  have hseconds (n : Nat) : ¬ Double.ofInt n < .zero := by
    intro h
    exact Double.not_le_of_lt h (Double.unsigned_ofInt n).zero_le
  cases f with
  | environment =>
    show Visible (.str "production")
    rw [← Sources.isBlankText_eq_false_iff]
    decide +kernel
  | debug => trivial
  | logLevel =>
    show "INFO" ∈ levelNames
    decide
  | serviceName =>
    show "simple-api" ≠ "" ∧ Text.trim "simple-api" = "simple-api"
    decide +kernel
  | version =>
    show "0.1.0" ≠ "" ∧ Text.trim "0.1.0" = "0.1.0"
    decide +kernel
  | port =>
    show (1 : Int) ≤ 8080 ∧ ∀ g ∈ some (65535 : Int), 8080 ≤ g
    simp
  | maxBodyBytes =>
    show (0 : Int) ≤ 1048576 ∧ ∀ g ∈ (none : Option Int), 1048576 ≤ g
    simp
  | shutdownWait => exact hseconds 10
  | readTimeout => exact hseconds 15
  | writeTimeout => exact hseconds 15
  | idleTimeout => exact hseconds 60
  | startupDelay => exact hseconds 30

section

variable {s : Sources} {f : Field}

theorem visible_of_value? {j : Json} (h : s.value? f = some j) : Visible j := by
  obtain ⟨_, hvisible⟩ := Option.filter_eq_some_iff.mp h
  rwa [Bool.not_eq_true', Sources.isBlankText_eq_false_iff] at hvisible

theorem checked_eq_ok_iff_accepts {j : Json} (hj : s.value? f = some j) {a : f.kind.Value} :
    s.checked f = .ok a ↔ f.kind.Accepts j a := by
  rw [← f.kind.converts_iff (visible_of_value? hj)]
  exact Sources.check_eq_ok_iff hj

theorem accepts_or_default {c : Settings} (h : resolve s = .ok c) (f : Field) :
    c.get f = defaults.get f ∨ ∃ j, s.value? f = some j ∧ f.kind.Accepts j (c.get f) := by
  have hchecked := resolve_ok_iff.mp h f
  cases hj : s.value? f with
  | none =>
    rw [Sources.checked, Sources.check_of_none hj] at hchecked
    exact .inl (Except.ok.inj hchecked).symm
  | some j => exact .inr ⟨j, rfl, (checked_eq_ok_iff_accepts hj).mp hchecked⟩

theorem holds_of_resolve {c : Settings} (h : resolve s = .ok c) (f : Field) : f.kind.Holds (c.get f) := by
  rcases accepts_or_default h f with hdefault | ⟨j, hj, haccepts⟩
  . rw [hdefault]
    apply holds_defaults
  . exact Kind.holds_of_accepts (visible_of_value? hj) haccepts

/-- A number of seconds that is not below zero is at least zero unless it is a NaN. -/
theorem zero_le_durations (hs : ∀ a ∈ s.arguments, a.2 ≠ .real .nan) {c : Settings} (h : resolve s = .ok c) :
    ∀ x ∈ [c.shutdownWait, c.readTimeout, c.writeTimeout, c.idleTimeout, c.startupDelay], .zero ≤ x := by
  have hc := resolves_of_resolve h
  have hholds := holds_of_resolve h
  have hdefault (n : Int) := Double.ofInt_ne_nan n
  have hle {x : Double} (hne : x ≠ .nan) (hx : ¬ x < .zero) : .zero ≤ x :=
    Double.le_of_not_lt Double.zero_ne_nan hne hx
  simp only [List.forall_mem_cons]
  refine ⟨?_, ?_, ?_, ?_, ?_, ?_⟩
  . exact hle (Sources.checkDuration_ne_nan hs (hdefault 10) hc.shutdownWait) (hholds .shutdownWait)
  . exact hle (Sources.checkDuration_ne_nan hs (hdefault 15) hc.readTimeout) (hholds .readTimeout)
  . exact hle (Sources.checkDuration_ne_nan hs (hdefault 15) hc.writeTimeout) (hholds .writeTimeout)
  . exact hle (Sources.checkDuration_ne_nan hs (hdefault 60) hc.idleTimeout) (hholds .idleTimeout)
  . exact hle (Sources.checkDuration_ne_nan hs (hdefault 30) hc.startupDelay) (hholds .startupDelay)
  . simp

end

/-! ### Settings as arguments -/

theorem fields_eq (c : Settings) : c.fields = Field.all.map fun f => (f.name, f.kind.argument (c.get f)) :=
  rfl

theorem find?_all_eq (f : Field) : Field.all.find? (fun g => Text.lowerAscii g.name == f.name) = some f := by
  cases f <;> decide +kernel

theorem firstNamed?_fields (c : Settings) (f : Field) :
    firstNamed? f.name c.fields = some (f.kind.argument (c.get f)) := by
  rw [firstNamed?, fields_eq, List.find?_map]
  have hfind := find?_all_eq f
  unfold Function.comp
  dsimp only
  rw [hfind]
  rfl

theorem value?_fields {c : Settings} {s : Sources} (hs : s.arguments = c.fields) {f : Field}
    (h : Visible (f.kind.argument (c.get f))) : s.value? f = some (f.kind.argument (c.get f)) := by
  have hgiven : s.given? f = some (f.kind.argument (c.get f)) := by
    rw [Sources.given?, hs, firstNamed?_fields]
    rfl
  rw [Sources.value?, Option.filter_eq_some_iff]
  exact ⟨hgiven, by simpa [Sources.isBlankText_eq_false_iff] using h⟩

/-- Fields that hold what they have to are accepted as arguments, whatever the other sources say. -/
theorem resolve_fields {c : Settings} {s : Sources} (hs : s.arguments = c.fields)
    (h : ∀ f : Field, f.kind.Holds (c.get f)) : resolve s = .ok c := by
  rw [resolve_ok_iff]
  intro f
  have hvalue := value?_fields hs (Kind.visible_argument (h f))
  exact (checked_eq_ok_iff_accepts hvalue).mpr (Kind.accepts_argument (h f))

/--
Settings that were accepted are within their ranges, and their fields given as arguments are accepted as the same
settings next to any environment and any file. Only a NaN, which no JSON has, would get past the bound of a duration.
-/
theorem accepted_stable {s : Sources} {c : Settings} (h : resolve s = .ok c) :
    (1 ≤ c.port ∧ c.port ≤ 65535)
      ∧ 0 ≤ c.maxBodyBytes
      ∧ ((∀ a ∈ s.arguments, a.2 ≠ .real .nan) →
        ∀ x ∈ [c.shutdownWait, c.readTimeout, c.writeTimeout, c.idleTimeout, c.startupDelay], .zero ≤ x)
      ∧ (∀ t ∈ [c.serviceName, c.version], t ≠ "" ∧ Text.trim t = t)
      ∧ (∃ ch ∈ c.environment.toList, isBlank ch = false)
      ∧ c.logLevel.settingName ∈ levelNames
      ∧ ∀ environment file, resolve ⟨c.fields, environment, file⟩ = .ok c := by
  have hholds := holds_of_resolve h
  have hport : 1 ≤ c.port ∧ ∀ g ∈ some (65535 : Int), c.port ≤ g := hholds .port
  have hbytes : 0 ≤ c.maxBodyBytes ∧ ∀ g ∈ (none : Option Int), c.maxBodyBytes ≤ g := hholds .maxBodyBytes
  have hname : c.serviceName ≠ "" ∧ Text.trim c.serviceName = c.serviceName := hholds .serviceName
  have hversion : c.version ≠ "" ∧ Text.trim c.version = c.version := hholds .version
  have henvironment : Visible (.str c.environment) := hholds .environment
  refine ⟨⟨hport.1, hport.2 _ rfl⟩, hbytes.1, fun hs => zero_le_durations hs h, ?_, henvironment _ rfl, hholds .logLevel, ?_⟩
  . simpa using ⟨hname, hversion⟩
  . intro environment file
    exact resolve_fields rfl hholds

/-- Texts that needed reading, and sources that would be refused the second time. -/
theorem accepted_stable_hostile_sources :
    let s : Sources := {
      arguments := [("Startup_Delay", .str " 1m30s "), ("port", .str "+80"), ("service_name", .str " probe\n")]
      environment := [("LOG_LEVEL", "Warn"), ("VERSION", " ")]
    }
    let c : Settings := {
      defaults with serviceName := "probe", port := 80, logLevel := .warning, startupDelay := .ofInt 90
    }
    resolve s = .ok c ∧ .zero ≤ c.startupDelay
      ∧ resolve ⟨c.fields, [("PORT", "0"), ("DEBUG", "maybe")], some "startup_delay=soon"⟩ = .ok c := by
  intro s c
  have hs : ∀ a ∈ s.arguments, a.2 ≠ .real .nan := by
    simp [s]
  have h : resolve s = .ok c := eq_ok_of_toOption (by decide +kernel)
  obtain ⟨_, _, hdurations, _, _, _, hagain⟩ := accepted_stable h
  exact ⟨h, hdurations hs c.startupDelay (by simp), hagain _ _⟩

end Settings
end Readiness
