import Readiness.Proofs.Service.Resetting
import Readiness.Service.Session

/-!
This module contains the sessions that a service can get into, and what a request does in them: it resets all gates that
it names, once the whole body has arrived, or none.
-/

namespace Readiness
namespace Service

variable (s : Service) (draw : Nat → List UInt8) (w : World Gates) (call : Call)

/-- Time passes for all gates while a call is served; then it resets some of them. -/
theorem world_serve :
    (s.serve draw w call).world =
      ((drawn w).advanceAll s.app (s.waits draw w call)).reset (resets s.settings.maxBodyBytes call) := by
  unfold resets
  cases h : resetTargets? call.method call.path with
  | none =>
    rw [world_serve_of_passive s draw w call h]
    split <;> rfl
  | some targets =>
    have hreads := reads_exchange s draw w call
    have hexceeds := exceeds_iff s draw w call
    split
    . next hwhole =>
      obtain ⟨hok, _⟩ := hreads.whole ((not_congr hexceeds).mpr hwhole.2) hwhole.1
      exact (serve_of_ok s draw w h hok).1
    . next hnot =>
      have hfails : ∃ f, ((s.exchange draw w call).drain s.app.tick).2 = .error f := by
        by_cases ho : Exceeds s.settings.maxBodyBytes call.deliveries
        . obtain ⟨e, he⟩ := hreads.tooLarge (hexceeds.mpr ho)
          exact ⟨_, he⟩
        . have hcut : complete call.deliveries = false := by
            apply Bool.eq_false_iff.mpr
            exact fun hc => hnot ⟨hc, ho⟩
          exact ⟨_, hreads.cut ((not_congr hexceeds).mpr ho) hcut⟩
      obtain ⟨f, hf⟩ := hfails
      exact (serve_of_error s draw w h hf).1

theorem clock_serve : (s.serve draw w call).world.clock = w.clock.advance (s.waits draw w call).sum := by
  rw [world_serve]
  apply World.clock_advanceAll s.app (s.waits draw w call) (drawn w)

theorem get_serve (t : Target) :
    (s.serve draw w call).world.state.get t =
      if t ∈ resets s.settings.maxBodyBytes call then
        ((w.state.get t).pass (w.clock.readings (s.waits draw w call))).reset
          (s.serve draw w call).world.clock.monotonic
      else
        (w.state.get t).pass (w.clock.readings (s.waits draw w call)) := by
  have hpass := World.get_advanceAll s (s.waits draw w call) (drawn w) t
  have hclock : (s.serve draw w call).world.clock = ((drawn w).advanceAll s.app (s.waits draw w call)).clock := by
    rw [world_serve]
    rfl
  rw [hclock, world_serve]
  refine (Gates.get_foldl_reset (nodup_resets _ call) _ _ t).trans ?_
  rw [hpass]
  rfl

/-- The gates are sound and have this delay. -/
def Gates.Fit (delay : Double) (g : Gates) : Prop :=
  ∀ t, (g.get t).Sound ∧ (g.get t).delay = delay

namespace Gates

theorem fit_start (delay : Double) (clock : Clock) : (start delay delay clock).Fit delay := by
  intro t
  have : (start delay delay clock).get t = Gate.start delay clock.monotonic := by cases t <;> rfl
  rw [this]
  refine ⟨Gate.sound_start _ _, ?_⟩
  apply Gate.delay_reset _ _ _

theorem Fit.tick {delay : Double} {g : Gates} (h : g.Fit delay) (clock : Clock) : (g.tick clock).Fit delay := by
  intro t
  rw [get_tick]
  exact ⟨Gate.sound_fireDue (h t).1 _, (Gate.delay_fireDue _ _).trans (h t).2⟩

theorem Fit.serve {delay : Double} {w : World Gates} (h : w.state.Fit delay) :
    (s.serve draw w call).world.state.Fit delay := by
  intro t
  obtain ⟨hsound, hdelay⟩ := h t
  rw [get_serve]
  have hpass := Gate.sound_pass hsound (w.clock.readings (s.waits draw w call))
  split
  . exact ⟨Gate.sound_reset hpass _ _, by rw [Gate.delay_reset, Gate.delay_pass, hdelay]⟩
  . exact ⟨hpass, by rw [Gate.delay_pass, hdelay]⟩

end Gates

theorem ofSettings_of_format {c : Settings} {text : String} (h : (Duration.format c.startupDelay).toOption = some text)
    (exercised : Bool) : ofSettings c exercised = .ok ⟨c, text, exercised⟩ := by
  unfold ofSettings
  cases hformat : Duration.format c.startupDelay with
  | error e =>
    rw [hformat] at h
    cases h
  | ok delayText =>
    rw [hformat] at h
    cases h
    rfl

/-- The delay of a service has a text, so that what remains of it can be told as well. -/
theorem settings_of_ofSettings {c : Settings} {exercised : Bool} {s : Service} (h : ofSettings c exercised = .ok s) :
    s.settings = c ∧ Double.Within secondsExponent c.startupDelay := by
  unfold ofSettings Duration.format at h
  cases hnanos : Duration.nanos c.startupDelay with
  | error e =>
    rw [hnanos] at h
    cases h
  | ok n =>
    rw [hnanos] at h
    cases h
    exact ⟨rfl, Gate.within_of_nanos hnanos⟩

theorem status_serve_of_tooLarge {targets : List Target} (h : resetTargets? call.method call.path = some targets)
    (hnow : (s.serve draw w call).world.clock.now.InCalendar) (ho : Exceeds s.settings.maxBodyBytes call.deliveries) :
    (s.serve draw w call).response.status = 413 := by
  obtain ⟨e, he⟩ := (reads_exchange s draw w call).tooLarge ((exceeds_iff s draw w call).mpr ho)
  rw [status_serve, (serve_of_error s draw w h he).2]
  apply status_settle_tooLarge hnow e

theorem status_serve_of_cut {targets : List Target} (h : resetTargets? call.method call.path = some targets)
    (ho : ¬ Exceeds s.settings.maxBodyBytes call.deliveries) (hc : complete call.deliveries = false) :
    (s.serve draw w call).response.status = 500 := by
  have hcut := (reads_exchange s draw w call).cut ((not_congr (exceeds_iff s draw w call)).mpr ho) hc
  rw [status_serve, (serve_of_error s draw w h hcut).2]
  rfl

theorem says_serve_of_whole {targets : List Target} (h : resetTargets? call.method call.path = some targets)
    (hfit : w.state.Fit s.settings.startupDelay) (hdelay : Double.Within secondsExponent s.settings.startupDelay)
    (hnow : (s.serve draw w call).world.clock.now.InCalendar) (ho : ¬ Exceeds s.settings.maxBodyBytes call.deliveries)
    (hc : complete call.deliveries = true) :
    ∃ body, Admin.Tells s.delayText targets body ∧ (s.serve draw w call).response.Says 200 body
      ∧ (s.serve draw w call).escaped = none := by
  obtain ⟨hok, _⟩ := (reads_exchange s draw w call).whole ((not_congr (exceeds_iff s draw w call)).mpr ho) hc
  obtain ⟨hworld, hanswer⟩ := serve_of_ok s draw w h hok
  rw [← hworld] at hanswer
  have hms : ∀ t ∈ targets, ∃ ms, ((s.serve draw w call).world.state.get t).remainingMs
      (s.serve draw w call).world.clock.monotonic = .ok ms := by
    intro t ht
    have hget := get_serve s draw w call t
    rw [resets_eq h hc ho, if_pos ht] at hget
    have hdeadline := (Gate.restarted_reset (hfit t).1 (w.clock.readings (s.waits draw w call))
      (s.serve draw w call).world.clock).deadline
    rw [← hget, (hfit t).2] at hdeadline
    obtain ⟨ms, hms, _⟩ := Gate.remainingMs_ok (Int.le_refl _) hdelay (by
      split at hdeadline
      . exact .inl hdeadline
      . exact .inr hdeadline)
    exact ⟨ms, hms⟩
  obtain ⟨r, body, hr, htells, hsaid⟩ := Admin.answer_ok s.delayText hnow hms
  exact ⟨body, htells, Pipeline.serve_of_response (s.pipeline draw) s.app w call (hanswer r hr) hsaid⟩

theorem status_serve_of_whole {targets : List Target} (h : resetTargets? call.method call.path = some targets)
    (hfit : w.state.Fit s.settings.startupDelay) (hdelay : Double.Within secondsExponent s.settings.startupDelay)
    (hnow : (s.serve draw w call).world.clock.now.InCalendar) (ho : ¬ Exceeds s.settings.maxBodyBytes call.deliveries)
    (hc : complete call.deliveries = true) :
    (s.serve draw w call).response.status = 200 ∧ (s.serve draw w call).escaped = none := by
  obtain ⟨_, _, ⟨hstatus, _⟩, hescaped⟩ := says_serve_of_whole s draw w call h hfit hdelay hnow ho hc
  exact ⟨hstatus, hescaped⟩

namespace Session

def run (x : Session) (steps : List Step) : Session :=
  steps.foldl (fun x step => (x.step step).1) x

/-- How a session goes on with a request. -/
def request (x : Session) (call : Call) : Served Gates :=
  x.service.serve x.draw x.world call

/-- The times that pass while a session serves a request. -/
def passing (x : Session) (call : Call) : List Int :=
  x.service.waits x.draw x.world call

theorem world_step_request (x : Session) (call : Call) :
    (x.step (.request call)).1.world = (x.request call).world := rfl

theorem world_step_advance (x : Session) (nanos : Int) :
    (x.step (.advance nanos)).1.world = x.world.advance x.service.app nanos := rfl

/-- The session is one of this service. -/
structure Of (s : Service) (x : Session) : Prop where
  service : x.service = s
  fit : x.world.state.Fit s.settings.startupDelay

theorem request_of {s : Service} {x : Session} (h : x.Of s) (call : Call) :
    x.request call = s.serve x.draw x.world call := by
  unfold request
  rw [h.service]

theorem passing_of {s : Service} {x : Session} (h : x.Of s) (call : Call) :
    x.passing call = s.waits x.draw x.world call := by
  unfold passing
  rw [h.service]

theorem of_start (s : Service) (draw : Nat → List UInt8) (clock : Clock) : (start s draw clock).Of s := by
  exact ⟨rfl, Gates.fit_start _ _⟩

theorem Of.step {s : Service} {x : Session} (h : x.Of s) (step : Step) : (x.step step).1.Of s := by
  cases step with
  | request call => exact ⟨h.service, h.fit.serve _ _ call⟩
  | advance nanos =>
    refine ⟨h.service, ?_⟩
    exact h.fit.tick (x.world.clock.advance nanos)
  | startup => exact ⟨h.service, h.fit⟩
  | shutdown => exact ⟨h.service, h.fit⟩
  | websocket => exact ⟨h.service, h.fit⟩

theorem Of.run {s : Service} (steps : List Step) {x : Session} (h : x.Of s) : (x.run steps).Of s := by
  induction steps generalizing x with
  | nil => exact h
  | cons step steps ih => exact ih (h.step step)

/--
A request resets the gates that it names, all of them at the moment at which the last piece of its body has arrived,
or it leaves all gates to the passing of time. The latter is so unless it asks to reset gates, its last piece arrives
before the client is gone, and the limit is not passed before that.
-/
theorem request_all_or_nothing {c : Settings} {exercised : Bool} {s : Service} (hs : ofSettings c exercised = .ok s)
    (draw : Nat → List UInt8) (clock : Clock) (steps : List Step) (call : Call)
    (hnow : (((start s draw clock).run steps).request call).world.clock.now.InCalendar) :
    let x := (start s draw clock).run steps
    let r := x.request call
    let asked := resetTargets? call.method call.path
    let limit := c.maxBodyBytes
    r.world.clock = x.world.clock.advance (x.passing call).sum
      ∧ (∀ t, (r.world.state.get t).delay = c.startupDelay)
      ∧ (∀ targets, asked = some targets → complete call.deliveries = true → ¬ Exceeds limit call.deliveries →
          x.passing call = Exchange.delays (arriving call.deliveries)
            ∧ r.response.status = 200 ∧ r.escaped = none
            ∧ (∀ t ∈ targets, (x.world.state.get t).Restarted (r.world.state.get t) r.world.clock)
            ∧ (∀ t ∉ targets,
                (x.world.state.get t).Undisturbed (r.world.state.get t) (x.world.clock.readings (x.passing call))))
      ∧ (asked = none ∨ complete call.deliveries = false ∨ Exceeds limit call.deliveries →
          (∀ t, (x.world.state.get t).Undisturbed (r.world.state.get t) (x.world.clock.readings (x.passing call)))
            ∧ (asked ≠ none → r.response.status = if Exceeds limit call.deliveries then 413 else 500)) := by
  intro x r asked limit
  obtain ⟨hsettings, hdelay⟩ := settings_of_ofSettings hs
  have hof : x.Of s := (of_start s draw clock).run steps
  have hr : r = s.serve x.draw x.world call := request_of hof call
  have hpassing : x.passing call = s.waits x.draw x.world call := passing_of hof call
  have hnow : r.world.clock.now.InCalendar := hnow
  clear_value r x
  subst hsettings
  subst hr
  have hget := get_serve s x.draw x.world call
  have hfit := hof.fit
  rw [hpassing]
  refine ⟨clock_serve s x.draw x.world call, ?_, ?_, ?_⟩
  . intro t
    exact (hfit.serve s x.draw call t).2
  . intro targets hasked hcomplete hlimit
    have hresets : resets s.settings.maxBodyBytes call = targets := resets_eq hasked hcomplete hlimit
    obtain ⟨hstatus, hescaped⟩ := status_serve_of_whole s x.draw x.world call hasked hfit hdelay hnow hlimit hcomplete
    refine ⟨waits_of_complete s x.draw x.world hasked hcomplete hlimit, hstatus, hescaped, ?_, ?_⟩
    . intro t ht
      rw [hget, hresets, if_pos ht]
      apply Gate.restarted_reset (hfit t).1 _ _
    . intro t ht
      rw [hget, hresets, if_neg ht]
      apply Gate.undisturbed_pass (hfit t).1 _
  . intro hnot
    have hresets : resets s.settings.maxBodyBytes call = [] := resets_eq_nil hnot
    refine ⟨?_, ?_⟩
    . intro t
      rw [hget, hresets, if_neg List.not_mem_nil]
      apply Gate.undisturbed_pass (hfit t).1 _
    . intro hasked
      obtain ⟨targets, htargets⟩ := Option.ne_none_iff_exists'.mp hasked
      split
      . next ho => exact status_serve_of_tooLarge s x.draw x.world call htargets hnow ho
      . next ho =>
        have hcut : complete call.deliveries = false := by
          rcases hnot with hnone | hcut | ho'
          . exact absurd hnone hasked
          . exact hcut
          . exact absurd ho' ho
        apply status_serve_of_cut s x.draw x.world call htargets ho hcut

/-- The body comes in two pieces, a second apart, and the gate is pending again from the second one on. -/
theorem request_all_or_nothing_two_pieces :
    let piece (delay : Option Int) (more : Bool) : Delivery :=
      ⟨delay, { kind := .request, body := some [1, 2], more := some more }⟩
    let call : Call := {
      method := "POST"
      path := "/admin/health/reset"
      query := []
      headers := []
      peer := .unknown
      deliveries := [piece none true, piece (some 1000000000) false] }
    let s : Service := ⟨.defaults, "30s", false⟩
    let x := (start s (fun _ => []) ⟨0, 0⟩).run [.advance 40000000000]
    ofSettings .defaults false = .ok s ∧ (x.request call).world.clock.now.InCalendar
      ∧ (x.world.state.get .health).deadline = none
      ∧ ((x.request call).world.state.get .health).deadline
          = some ((Clock.mk 41000000000 0).monotonic + .ofInt 30) := by
  intro piece call s x
  have hs : ofSettings .defaults false = .ok s := by
    apply ofSettings_of_format
    decide +kernel
  have hnow : (x.request call).world.clock.now.InCalendar := by decide +kernel
  have hasked : resetTargets? call.method call.path = some [.health] := by decide +kernel
  have hlimit : ¬ Exceeds Settings.defaults.maxBodyBytes call.deliveries := by decide +kernel
  obtain ⟨_, _, hall, _⟩ := request_all_or_nothing hs (fun _ => []) ⟨0, 0⟩ [.advance 40000000000] call hnow
  obtain ⟨_, _, _, hrestarted, _⟩ := hall [.health] hasked rfl hlimit
  refine ⟨hs, hnow, by decide +kernel, ?_⟩
  have hdeadline := (hrestarted .health (List.mem_singleton.mpr rfl)).deadline
  rw [hdeadline]
  decide +kernel

end Session

end Service
end Readiness
