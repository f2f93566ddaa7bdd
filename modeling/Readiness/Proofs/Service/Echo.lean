import Readiness.Proofs.Duration.Rereading
import Readiness.Proofs.Json.RoundTrip
import Readiness.Proofs.Service.Reachable
import Readiness.Proofs.Settings.Fields

/-!
This module contains the delay that resets echo. A service whose startup delay is set to the echo of another one echoes
the same text.
-/

namespace Readiness

theorem Json.fieldsArePlain_iff {fields : List (String × Json)} :
    fieldsArePlain fields = true ↔ ∀ f ∈ fields, f.2.isPlain = true := by
  induction fields with
  | nil => simp [fieldsArePlain]
  | cons f fields ih => simp [fieldsArePlain, ih]

namespace Service

open Settings (Field Sources)

theorem Admin.Tells.exists_fields {delay body : String} {targets : List Target} (h : Admin.Tells delay targets body) :
    ∃ fields, Json.parse? body = some (.obj fields) ∧ fields.lookup "delay" = some (.str delay) := by
  obtain ⟨time, ms, rfl⟩ := h
  refine ⟨_, Json.parse?_toText Json.standard_compact ?_, ?_⟩
  . rw [Json.isPlain, Json.fieldsArePlain_iff]
    simp only [List.mem_append, List.mem_map, List.mem_cons, List.not_mem_nil, or_false]
    rintro f ((⟨t, _, rfl⟩ | rfl | rfl) | ⟨t, _, rfl⟩) <;> rfl
  . have hname : (targets.map fun t => (t.name, Json.bool false)).lookup "delay" = none := by
      rw [List.lookup_eq_none_iff]
      intro f hf
      obtain ⟨t, _, rfl⟩ := List.mem_map.mp hf
      cases t <;> rfl
    rw [List.lookup_append, List.lookup_append, hname]
    rfl

/-- Every reset that is carried out answers with this delay. -/
def Echoes (s : Service) (delay : String) : Prop :=
  ∀ (draw : Nat → List UInt8) (clock : Clock) (steps : List Step) (call : Call) (targets : List Target),
    let r := ((Session.start s draw clock).run steps).request call
    resetTargets? call.method call.path = some targets → complete call.deliveries = true →
      ¬ Exceeds s.settings.maxBodyBytes call.deliveries → r.world.clock.now.InCalendar →
      r.response.status = 200
        ∧ ∃ fields, Json.parse? r.response.body = some (.obj fields) ∧ fields.lookup "delay" = some (.str delay)

theorem echoes_of_ofSettings {c : Settings} {exercised : Bool} {s : Service} (hs : ofSettings c exercised = .ok s) :
    s.Echoes s.delayText := by
  obtain ⟨hsettings, hdelay⟩ := settings_of_ofSettings hs
  intro draw clock steps call targets r hasked hcomplete hlimit hnow
  have hof : ((Session.start s draw clock).run steps).Of s := (Session.of_start s draw clock).run steps
  have hr : r = s.serve _ _ call := Session.request_of hof call
  rw [hr] at hnow ⊢
  rw [← hsettings] at hdelay
  obtain ⟨body, htells, ⟨hstatus, hbody⟩, _⟩ :=
    says_serve_of_whole s _ _ call hasked hof.fit hdelay hnow hlimit hcomplete
  rw [hbody]
  exact ⟨hstatus, htells.exists_fields⟩

theorem exists_echoes {c : Settings} {text : String} (h : Duration.format c.startupDelay = .ok text)
    (exercised : Bool) : ∃ s, ofSettings c exercised = .ok s ∧ s.Echoes text := by
  have hs : ofSettings c exercised = .ok ⟨c, text, exercised⟩ := by
    apply ofSettings_of_format
    rw [h]
    rfl
  exact ⟨_, hs, echoes_of_ofSettings hs⟩

theorem startupDelay_of_resolve {sources : Sources} (hs : sources.Unambiguous) {text : String}
    (ht : sources.Takes .startupDelay (.str text)) {c : Settings} (hc : Settings.resolve sources = .ok c) {y : Double}
    (hy : Duration.parse text = .ok y) : c.startupDelay = y := by
  have hchecked := Settings.resolve_ok_iff.mp hc .startupDelay
  obtain ⟨shown, hseconds, _⟩ := (Settings.checked_eq_ok_iff hs ht).mp hchecked
  cases hseconds with
  | text hdenotes =>
    have hparse := Duration.parse_eq_ok_iff.mpr hdenotes
    rw [hy] at hparse
    cases hparse
    rfl
  | number htext _ => exact absurd rfl (htext text)

/--
The delay that resets echo has a text as long as it is at most a million seconds. Read again, the text gives a delay
with the same text, though it may be another value. So a service that is started with it echoes it as well.
-/
theorem echoed_delay_returns {x : Double} (hlow : -Double.ofInt 1000000 ≤ x) (hhigh : x ≤ .ofInt 1000000) :
    ∃ text y, Duration.format x = .ok text ∧ Duration.parse text = .ok y ∧ Duration.format y = .ok text
      ∧ (.zero ≤ x → Settings.Kind.duration.Accepts (.str text) y)
      ∧ (∀ c exercised, c.startupDelay = x → ∃ s, ofSettings c exercised = .ok s ∧ s.Echoes text)
      ∧ ∀ (sources : Sources) c exercised, sources.Unambiguous → sources.Takes .startupDelay (.str text) →
          Settings.resolve sources = .ok c → ∃ s, ofSettings c exercised = .ok s ∧ s.Echoes text := by
  obtain ⟨text, y, hx, hparse, hy, hnonneg⟩ := Duration.format_parse_format hlow hhigh
  refine ⟨text, y, hx, hparse, hy, ?_, ?_, ?_⟩
  . intro hzero
    refine ⟨.real y, .text (Duration.parse_eq_ok_iff.mp hparse), ?_⟩
    intro hneg
    exact Double.not_le_of_lt hneg (hnonneg hzero)
  . rintro c exercised rfl
    exact exists_echoes hx exercised
  . intro sources c exercised hs ht hc
    apply exists_echoes
    rw [startupDelay_of_resolve hs ht hc hparse, hy]

/-- A delay that is a tenth of a nanosecond longer than its text says. -/
theorem echoed_delay_returns_rounded :
    let x := Double.ofDecimal false 54002500000001 (-10)
    let sources : Sources := { environment := [("STARTUP_DELAY", "1h30m0.25s")] }
    Duration.format x = .ok "1h30m0.25s"
      ∧ (∃ y, Duration.parse "1h30m0.25s" = .ok y ∧ Duration.format y = .ok "1h30m0.25s"
        ∧ Settings.Kind.duration.Accepts (.str "1h30m0.25s") y)
      ∧ ∃ c s, Settings.resolve sources = .ok c ∧ ofSettings c false = .ok s ∧ s.Echoes "1h30m0.25s" := by
  intro x sources
  have hformat : Duration.format x = .ok "1h30m0.25s" := by decide +kernel
  obtain ⟨text, y, hx, hparse, hy, haccepts, _, hsources⟩ :=
    echoed_delay_returns (x := x) (by decide +kernel) (by decide +kernel)
  rw [hformat] at hx
  cases hx
  refine ⟨hformat, ⟨y, hparse, hy, haccepts (by decide +kernel)⟩, ?_⟩
  have hunambiguous : sources.Unambiguous := by
    constructor <;> intro f <;> cases f <;> decide +kernel
  have htakes : sources.Takes .startupDelay (.str "1h30m0.25s") :=
    (Sources.value?_eq_some_iff hunambiguous).mp rfl
  have hok : (Settings.resolve sources).isOk = true := by decide +kernel
  cases hc : Settings.resolve sources with
  | error rs =>
    rw [hc] at hok
    cases hok
  | ok c =>
    obtain ⟨s, hs, hechoes⟩ := hsources sources c false hunambiguous htakes hc
    exact ⟨c, s, rfl, hs, hechoes⟩

end Service
end Readiness
