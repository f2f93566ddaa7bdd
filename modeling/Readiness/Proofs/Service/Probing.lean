import Readiness.Proofs.Gate.Waiting
import Readiness.Proofs.Json.RoundTrip
import Readiness.Proofs.Service.Reachable

/-!
This module contains what probes answer in a session: it is told by the last reset of their gate, whatever else
happened.
-/

namespace Readiness
namespace Service

theorem parse?_fields (id : Log.Identity) (t : Target) (time : String) (ms : Option Int) :
    Json.parse? ((Json.obj (Probe.fields id t time ms)).toText Json.compact)
      = some (.obj (Probe.fields id t time ms)) := by
  apply Json.parse?_toText Json.standard_compact
  cases ms <;> rfl

variable (s : Service) (draw : Nat → List UInt8) {w : World Gates} {t : Target} {call : Call}

theorem outcome_of_probe (hmethod : call.method = "GET") (hpath : call.path = t.path) {r : Http.Response}
    (hr : Probe.answer s.identity t w.clock (w.state.get t) = .ok r) :
    ((s.pipeline draw).outcome s.app w call).2 = .response r := by
  have hhandler : (s.pipeline draw).handler s.app w call = _ := handle_of_probe s (t := t) hmethod hpath
  unfold Pipeline.outcome
  rw [hhandler]
  apply Handler.ending_ofExcept s.app.tick hr _

theorem serve_of_probe (hmethod : call.method = "GET") (hpath : call.path = t.path) {time : String} {ms : Option Int}
    {status : Int} {r : Http.Response} (hr : Probe.answer s.identity t w.clock (w.state.get t) = .ok r)
    (hsaid : r.Says status ((Json.obj (Probe.fields s.identity t time ms)).toText Json.compact)) :
    (s.serve draw w call).response.status = status ∧ (s.serve draw w call).escaped = none
      ∧ Json.parse? (s.serve draw w call).response.body = some (.obj (Probe.fields s.identity t time ms)) := by
  have houtcome := outcome_of_probe s draw hmethod hpath hr
  obtain ⟨⟨hstatus, hbody⟩, hescaped⟩ := Pipeline.serve_of_response (s.pipeline draw) s.app w call houtcome hsaid
  refine ⟨hstatus, hescaped, ?_⟩
  rw [← parse?_fields, ← hbody]
  rfl

namespace Session

/-- The request has reset the gate: it asked for that and was answered that it was done. -/
def Resets (x : Session) (call : Call) (t : Target) : Prop :=
  (x.request call).response.status = 200 ∧ t ∈ (resetTargets? call.method call.path).getD []

instance (x : Session) (call : Call) (t : Target) : Decidable (x.Resets call t) :=
  inferInstanceAs (Decidable (_ ∧ _))

/-- The wait of a gate after a step. -/
def waitAfter (x : Session) (t : Target) (wait : Gate.Wait) : Step → Gate.Wait
  | .request call =>
    if x.Resets call t then ⟨(x.request call).world.clock, false⟩ else wait.move (x.passing call)
  | .advance nanos => wait.move [nanos]
  | _ => wait

/-- The wait of a gate after several steps. -/
def waitAfterAll (x : Session) (t : Target) (wait : Gate.Wait) : List Step → Gate.Wait
  | [] => wait
  | step :: steps => (x.step step).1.waitAfterAll t (x.waitAfter t wait step) steps

/-- The clock does not go back in a step, and a request ends at an instant with a text. -/
def Steady (x : Session) : Step → Prop
  | .request call => (∀ nanos ∈ x.passing call, 0 ≤ nanos) ∧ (x.request call).world.clock.now.InCalendar
  | .advance nanos => 0 ≤ nanos
  | _ => True

instance (x : Session) (step : Step) : Decidable (x.Steady step) := by
  cases step <;> unfold Steady <;> infer_instance

def SteadyRun (x : Session) : List Step → Prop
  | [] => True
  | step :: steps => x.Steady step ∧ (x.step step).1.SteadyRun steps

instance decidableSteadyRun : (x : Session) → (steps : List Step) → Decidable (x.SteadyRun steps)
  | _, [] => isTrue trivial
  | x, step :: steps =>
    have := decidableSteadyRun (x.step step).1 steps
    inferInstanceAs (Decidable (_ ∧ _))

variable {s : Service} {x : Session}

/-- Answers tell the truth about resets. -/
theorem resets_iff (h : x.Of s) (hd : Double.Within secondsExponent s.settings.startupDelay) {call : Call}
    (hnow : (x.request call).world.clock.now.InCalendar) (t : Target) :
    x.Resets call t ↔ t ∈ resets s.settings.maxBodyBytes call := by
  unfold Resets
  rw [request_of h] at hnow ⊢
  cases hasked : resetTargets? call.method call.path with
  | none =>
    rw [resets_eq_nil (.inl hasked)]
    simp
  | some targets =>
    by_cases ho : Exceeds s.settings.maxBodyBytes call.deliveries
    . rw [resets_eq_nil (.inr (.inr ho)), status_serve_of_tooLarge s x.draw x.world call hasked hnow ho]
      simp
    . cases hc : complete call.deliveries with
      | false =>
        rw [resets_eq_nil (.inr (.inl hc)), status_serve_of_cut s x.draw x.world call hasked ho hc]
        simp
      | true =>
        rw [resets_eq hasked hc ho, (status_serve_of_whole s x.draw x.world call hasked h.fit hd hnow ho hc).1]
        simp

theorem awaits_step (h : x.Of s) (hd : Double.Within secondsExponent s.settings.startupDelay) {t : Target}
    {wait : Gate.Wait} (hw : Gate.Awaits s.settings.startupDelay wait x.world.clock (x.world.state.get t))
    {step : Step} (hs : x.Steady step) :
    Gate.Awaits s.settings.startupDelay (x.waitAfter t wait step) (x.step step).1.world.clock
      ((x.step step).1.world.state.get t) := by
  obtain ⟨hsound, hdelay⟩ := h.fit t
  -- a reset starts the wait anew, anything else goes on with it
  cases step with
  | request call =>
    obtain ⟨hnonneg, hnow⟩ := hs
    have hresets := resets_iff h hd hnow t
    have hget := get_serve s x.draw x.world call t
    have hclock := clock_serve s x.draw x.world call
    rw [waitAfter, world_step_request, request_of h]
    rw [passing_of h] at hnonneg ⊢
    by_cases ht : t ∈ resets s.settings.maxBodyBytes call
    . rw [if_pos (hresets.mpr ht), hget, if_pos ht]
      apply Gate.awaits_reset
      rw [Gate.delay_pass, hdelay]
    . rw [if_neg (fun hr => ht (hresets.mp hr)), hget, if_neg ht, hclock]
      exact hw.pass _ hnonneg hsound
  | advance nanos =>
    have hfire := hw.fireDue hsound hs
    rw [waitAfter, Gate.Wait.move_cons, world_step_advance]
    have hget : (x.world.advance x.service.app nanos).state.get t = _ :=
      Gates.get_tick (x.world.clock.advance nanos) x.world.state t
    rw [hget]
    exact hfire
  | startup => exact hw
  | shutdown => exact hw
  | websocket => exact hw

theorem awaits_run (hd : Double.Within secondsExponent s.settings.startupDelay) {t : Target} (steps : List Step)
    {x : Session} (h : x.Of s) {wait : Gate.Wait}
    (hw : Gate.Awaits s.settings.startupDelay wait x.world.clock (x.world.state.get t)) (hs : x.SteadyRun steps) :
    Gate.Awaits s.settings.startupDelay (x.waitAfterAll t wait steps) (x.run steps).world.clock
      ((x.run steps).world.state.get t) := by
  induction steps generalizing x wait with
  | nil => exact hw
  | cons step steps ih => exact ih (h.step step) (awaits_step h hd hw hs.1) hs.2

/--
After every run a probe tells of its own gate whether the delay is over, counted from the last reset that was
answered, or from the start. Its answer carries the texts that the service was given, whatever they are, and nothing
that is told of the other gate.
-/
theorem probe_tells_wait {c : Settings} {exercised : Bool} {s : Service} (hs : ofSettings c exercised = .ok s)
    (draw : Nat → List UInt8) (clock : Clock) (steps : List Step) (hsteps : (start s draw clock).SteadyRun steps)
    (t : Target) (call : Call) (hmethod : call.method = "GET") (hpath : call.path = t.path)
    (hnow : ((start s draw clock).run steps).world.clock.now.InCalendar) :
    let x := (start s draw clock).run steps
    let wait := (start s draw clock).waitAfterAll t ⟨clock, false⟩ steps
    let now := x.world.clock.monotonic
    let due := wait.since.monotonic + c.startupDelay
    let r := x.request call
    ∃ time, x.world.clock.now.text = .ok time ∧ r.escaped = none
      ∧ (r.response.status = 200 ∧ (c.startupDelay ≤ .zero ∨ wait.moved = true ∧ due ≤ now)
            ∧ Json.parse? r.response.body = some (.obj [
                ("service", .str c.serviceName), ("version", .str c.version), ("time", .str time),
                ("status", .str t.achieved)])
          ∨ r.response.status = 503 ∧ .zero < c.startupDelay ∧ (now < due ∨ wait.moved = false)
            ∧ ∃ ms, 0 ≤ ms ∧ Json.parse? r.response.body = some (.obj [
                ("service", .str c.serviceName), ("version", .str c.version), ("time", .str time),
                ("status", .str t.pending), ("retry_after_ms", .int ms)])) := by
  intro x wait now due r
  obtain ⟨hsettings, hdelay⟩ := settings_of_ofSettings hs
  have hof : x.Of s := (of_start s draw clock).run steps
  have hr : r = s.serve x.draw x.world call := request_of hof call
  subst hsettings
  have hstart : Gate.Awaits s.settings.startupDelay ⟨clock, false⟩ clock ((start s draw clock).world.state.get t) := by
    have : (start s draw clock).world.state.get t = Gate.start s.settings.startupDelay clock.monotonic := by
      cases t <;> rfl
    rw [this]
    apply Gate.awaits_start s.settings.startupDelay clock
  have hwait : Gate.Awaits s.settings.startupDelay wait x.world.clock (x.world.state.get t) :=
    awaits_run hdelay steps (of_start s draw clock) hstart hsteps
  have hachieved := hwait.achieved (hof.fit t).1
  by_cases hover : wait.IsOver s.settings.startupDelay x.world.clock
  . rw [decide_eq_true hover] at hachieved
    obtain ⟨time, _, htime, hanswer, hsaid⟩ := Probe.answer_of_achieved s.identity t hnow hachieved
    obtain ⟨hstatus, hescaped, hbody⟩ := serve_of_probe s x.draw hmethod hpath hanswer hsaid
    rw [hr]
    exact ⟨time, htime, hescaped, .inl ⟨hstatus, hover, hbody⟩⟩
  . rw [decide_eq_false hover] at hachieved
    obtain ⟨ms, hms, hnonneg⟩ := hwait.remainingMs_ok hdelay
    obtain ⟨time, _, htime, hanswer, hsaid⟩ := Probe.answer_of_pending s.identity t hnow hachieved hms
    obtain ⟨hstatus, hescaped, hbody⟩ := serve_of_probe s x.draw hmethod hpath hanswer hsaid
    obtain ⟨hpos, hpending⟩ := (wait.not_isOver_iff hdelay x.world.clock).mp hover
    rw [hr]
    exact ⟨time, htime, hescaped, .inr ⟨hstatus, hpos, hpending, ms, hnonneg, hbody⟩⟩

/-- Ten seconds after a reset of one gate its probe tells to wait, and the other does not. -/
theorem probe_tells_wait_after_reset :
    let call (method path : String) (deliveries : List Delivery) : Call :=
      { method, path, query := [], headers := [], peer := .unknown, deliveries }
    let s : Service := ⟨.defaults, "30s", false⟩
    let x := start s (fun _ => []) ⟨0, 0⟩
    let steps := [
      .advance 40000000000,
      .request (call "POST" "/admin/health/reset" [⟨some 0, { kind := .request }⟩]),
      .advance 10000000000]
    ofSettings .defaults false = .ok s ∧ x.SteadyRun steps
      ∧ ((x.run steps).request (call "GET" "/healthz" [])).response.status = 503
      ∧ ((x.run steps).request (call "GET" "/readyz" [])).response.status = 200 := by
  intro call s x steps
  have hs : ofSettings .defaults false = .ok s := by
    apply ofSettings_of_format
    decide +kernel
  have hsteps : x.SteadyRun steps := by decide +kernel
  have hnow : (x.run steps).world.clock.now.InCalendar := by decide +kernel
  have hprobe := probe_tells_wait hs (fun _ => []) ⟨0, 0⟩ steps hsteps
  refine ⟨hs, hsteps, ?_, ?_⟩
  all_goals unfold x
  . obtain ⟨_, _, _, ⟨_, hover, _⟩ | ⟨hstatus, _⟩⟩ := hprobe .health (call "GET" "/healthz" []) rfl rfl hnow
    . revert hover
      decide +kernel
    . exact hstatus
  . obtain ⟨_, _, _, ⟨hstatus, _⟩ | ⟨_, _, hpending, _⟩⟩ := hprobe .ready (call "GET" "/readyz" []) rfl rfl hnow
    . exact hstatus
    . revert hpending
      decide +kernel

end Session

end Service
end Readiness
