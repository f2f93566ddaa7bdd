import Readiness.Proofs.Duration.Reading
import Readiness.Proofs.Except
import Readiness.Settings.Basic

/-!
This module contains what resolved settings consist of: a value for each field that its own check accepts. A port is
within its range, and a duration that comes from a text is a number.
-/

namespace Readiness
namespace Settings

/-- Every field has the value that its check gives. -/
structure Resolves (s : Sources) (c : Settings) : Prop where
  environment : s.checkText .environment defaults.environment = .ok c.environment
  debug : s.checkBoolean .debug defaults.debug = .ok c.debug
  logLevel : s.checkLevel .logLevel defaults.logLevel = .ok c.logLevel
  serviceName : s.checkName .serviceName defaults.serviceName = .ok c.serviceName
  version : s.checkName .version defaults.version = .ok c.version
  port : s.checkInteger .port defaults.port 1 (some 65535) = .ok c.port
  shutdownWait : s.checkDuration .shutdownWait defaults.shutdownWait = .ok c.shutdownWait
  readTimeout : s.checkDuration .readTimeout defaults.readTimeout = .ok c.readTimeout
  writeTimeout : s.checkDuration .writeTimeout defaults.writeTimeout = .ok c.writeTimeout
  idleTimeout : s.checkDuration .idleTimeout defaults.idleTimeout = .ok c.idleTimeout
  maxBodyBytes : s.checkInteger .maxBodyBytes defaults.maxBodyBytes 0 none = .ok c.maxBodyBytes
  startupDelay : s.checkDuration .startupDelay defaults.startupDelay = .ok c.startupDelay

theorem resolves_of_resolve {s : Sources} {c : Settings} (h : resolve s = .ok c) : Resolves s c := by
  unfold resolve at h
  -- the last field is applied last
  obtain ⟨_, _, h1, startupDelay, rfl⟩ := Checked.apply_eq_ok.mp h
  obtain ⟨_, _, h2, maxBodyBytes, rfl⟩ := Checked.apply_eq_ok.mp h1
  obtain ⟨_, _, h3, idleTimeout, rfl⟩ := Checked.apply_eq_ok.mp h2
  obtain ⟨_, _, h4, writeTimeout, rfl⟩ := Checked.apply_eq_ok.mp h3
  obtain ⟨_, _, h5, readTimeout, rfl⟩ := Checked.apply_eq_ok.mp h4
  obtain ⟨_, _, h6, shutdownWait, rfl⟩ := Checked.apply_eq_ok.mp h5
  obtain ⟨_, _, h7, port, rfl⟩ := Checked.apply_eq_ok.mp h6
  obtain ⟨_, _, h8, version, rfl⟩ := Checked.apply_eq_ok.mp h7
  obtain ⟨_, _, h9, serviceName, rfl⟩ := Checked.apply_eq_ok.mp h8
  obtain ⟨_, _, h10, logLevel, rfl⟩ := Checked.apply_eq_ok.mp h9
  obtain ⟨_, _, h11, debug, rfl⟩ := Checked.apply_eq_ok.mp h10
  obtain ⟨_, _, h12, environment, rfl⟩ := Checked.apply_eq_ok.mp h11
  cases h12
  exact ⟨environment, debug, logLevel, serviceName, version, port, shutdownWait, readTimeout, writeTimeout, idleTimeout,
    maxBodyBytes, startupDelay⟩

theorem within_eq_ok_iff {least : Int} {greatest : Option Int} {n m : Int} :
    within least greatest n = .ok m ↔ n = m ∧ least ≤ n ∧ ∀ g ∈ greatest, n ≤ g := by
  simp only [within, throw_eq_error, pure_eq_ok]
  split
  . next h => simp [Int.not_le.mpr h]
  . next h =>
    cases greatest with
    | none => simp [Int.not_lt.mp h]
    | some g =>
      dsimp only
      split
      . next hg => simp [hg]
      . next hg => simp [Int.not_lt.mp h, Int.not_lt.mp hg]

theorem nonnegative_eq_ok_iff {x y : Double} : nonnegative x = .ok y ↔ x = y ∧ ¬ x < .zero := by
  unfold nonnegative
  split
  . next h => simp [throw_eq_error, h]
  . next h => simp [pure_eq_ok, h]

theorem readDuration_ne_nan {j j' : Json} (hj : j ≠ .real .nan) (h : readDuration j = .ok j') : j' ≠ .real .nan := by
  cases j with
  | str t =>
    cases hparse : Duration.parse t with
    | error e =>
      rw [readDuration, hparse] at h
      cases h
    | ok x =>
      rw [readDuration, hparse] at h
      cases h
      rintro ⟨rfl⟩
      exact Duration.parse_ne_nan hparse rfl
  | _ =>
    cases h
    exact hj

theorem number_ne_nan {j : Json} {x : Double} (hj : j ≠ .real .nan) (h : number j = .ok x) : x ≠ .nan := by
  cases j with
  | real y =>
    cases h
    rintro rfl
    exact hj rfl
  | bool b =>
    cases h
    apply Double.ofInt_ne_nan
  | int n =>
    unfold number at h
    dsimp only at h
    split at h
    . next y hy =>
      cases h
      unfold Double.ofInt? at hy
      split at hy
      . cases hy
      . cases hy
        apply Double.ofInt_ne_nan
    . cases h
  | _ => cases h

namespace Sources

variable {s : Sources} {f : Field}

theorem check_of_none {α : Type} {fallback : α} {read : Json → Except Problem Json} {convert : Json → Except Problem α}
    (hj : s.value? f = none) : s.check f fallback read convert = .ok fallback := by
  rw [check, hj]

theorem check_eq_ok_iff {α : Type} {fallback a : α} {read : Json → Except Problem Json}
    {convert : Json → Except Problem α} {j : Json} (hj : s.value? f = some j) :
    s.check f fallback read convert = .ok a ↔ ∃ j', read j = .ok j' ∧ convert j' = .ok a := by
  simp only [check, hj]
  cases hread : read j with
  | error p => simp
  | ok j' => cases hconvert : convert j' <;> simp [hconvert]

/-- A checked value is the default, or it is what reading and converting make of the value given. -/
theorem check_ok {α : Type} {fallback : α} {read : Json → Except Problem Json} {convert : Json → Except Problem α}
    {a : α} (h : s.check f fallback read convert = .ok a) :
    (s.value? f = none ∧ a = fallback)
      ∨ ∃ j j', s.value? f = some j ∧ read j = .ok j' ∧ convert j' = .ok a := by
  cases hj : s.value? f with
  | none =>
    rw [check_of_none hj] at h
    cases h
    exact .inl ⟨rfl, rfl⟩
  | some j =>
    obtain ⟨j', hread, hconvert⟩ := (check_eq_ok_iff hj).mp h
    exact .inr ⟨j, j', rfl, hread, hconvert⟩

/-- What is no text comes from the arguments. -/
theorem mem_arguments_of_value? {j : Json} (hj : s.value? f = some j) (ht : ∀ t, j ≠ .str t) :
    ∃ name, (name, j) ∈ s.arguments := by
  obtain ⟨hgiven, _⟩ := Option.filter_eq_some_iff.mp hj
  simp only [given?, Option.orElse_eq_orElse, Option.orElse_eq_or, Option.or_eq_some_iff,
    Option.map_eq_some_iff] at hgiven
  rcases hgiven with hargument | ⟨_, t, _, rfl⟩
  . obtain ⟨⟨name, i⟩, hfind, rfl⟩ := Option.map_eq_some_iff.mp hargument
    exact ⟨name, List.mem_of_find?_eq_some hfind⟩
  . exact absurd rfl (ht t)

theorem checkInteger_ok {fallback least : Int} {greatest : Option Int} {n : Int}
    (hfallback : least ≤ fallback ∧ ∀ g, greatest = some g → fallback ≤ g)
    (h : s.checkInteger f fallback least greatest = .ok n) : least ≤ n ∧ ∀ g, greatest = some g → n ≤ g := by
  rcases check_ok h with ⟨_, rfl⟩ | ⟨j, j', _, _, hconvert⟩
  . exact hfallback
  . obtain ⟨m, _, hwithin⟩ := exists_of_bind_ok hconvert
    obtain ⟨rfl, hrange⟩ := within_eq_ok_iff.mp hwithin
    exact hrange

/-- Only a NaN among the arguments makes a duration a NaN. -/
theorem checkDuration_ne_nan (hs : ∀ a ∈ s.arguments, a.2 ≠ .real .nan) {fallback x : Double}
    (hfallback : fallback ≠ .nan) (h : s.checkDuration f fallback = .ok x) : x ≠ .nan := by
  rcases check_ok h with ⟨_, rfl⟩ | ⟨j, j', hj, hread, hconvert⟩
  . exact hfallback
  . have hne : j ≠ .real .nan := by
      rintro rfl
      obtain ⟨name, hmem⟩ := mem_arguments_of_value? hj fun _ => Json.noConfusion
      exact hs _ hmem rfl
    obtain ⟨y, hy, hx⟩ := exists_of_bind_ok hconvert
    obtain ⟨rfl, _⟩ := nonnegative_eq_ok_iff.mp hx
    exact number_ne_nan (readDuration_ne_nan hne hread) hy

end Sources
end Settings
end Readiness
