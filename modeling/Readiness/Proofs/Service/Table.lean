import Readiness.Proofs.Json.RoundTrip
import Readiness.Proofs.Service.Recovery
import Readiness.Proofs.Service.Resetting
import Readiness.Proofs.Service.Statuses

/-!
This module contains the table of a service without a manual and without routes that exercise it: five endpoints, each
with one path and one method. Another method is refused, and so is every other path; neither changes anything. What
a path may have that its endpoint has not is one line break at the end.
-/

namespace Readiness
namespace Service

open Http (Header Response)

/-- A probe, or a reset of one gate or of both. -/
inductive Endpoint where
  | probe (t : Target)
  | reset (only : Option Target)
deriving DecidableEq, Repr

namespace Endpoint

def path : Endpoint → String
  | probe t => t.path
  | reset none => "/admin/reset"
  | reset (some .health) => "/admin/health/reset"
  | reset (some .ready) => "/admin/ready/reset"

def method : Endpoint → String
  | probe _ => "GET"
  | reset _ => "POST"

/-- The paths that get to the endpoint. -/
def Covers (e : Endpoint) (path : String) : Prop :=
  path = e.path ∨ path = e.path ++ "\n"

def targets : Option Target → List Target
  | none => [.health, .ready]
  | some t => [t]

def handler (s : Service) : Endpoint → Handler Gates
  | probe t => .inspect fun clock g => .ofExcept (Probe.answer s.identity t clock (g.get t))
  | reset only => Admin.reset s.delayText (targets only)

/-- All endpoints in the order of their routes. -/
def all : List Endpoint :=
  [probe .health, probe .ready, reset none, reset (some .health), reset (some .ready)]

theorem mem_all (e : Endpoint) : e ∈ all := by
  revert e
  rintro (⟨_ | _⟩ | ⟨_ | _ | _⟩) <;> decide

instance (e : Endpoint) (path : String) : Decidable (e.Covers path) :=
  inferInstanceAs (Decidable (_ ∨ _))

theorem paths_apart : ∀ e ∈ all, ∀ e' ∈ all, e'.Covers e.path ∨ e'.Covers (e.path ++ "\n") → e = e' := by
  decide +kernel

theorem Covers.unique {e e' : Endpoint} {path : String} (h : e.Covers path) (h' : e'.Covers path) : e = e' := by
  apply paths_apart e e.mem_all e' e'.mem_all
  rcases h with rfl | rfl
  . exact .inl h'
  . exact .inr h'

/-- The route of the endpoint. -/
structure Serves (s : Service) (e : Endpoint) (r : Route Gates) : Prop where
  pattern : r.pattern = .literal e.path
  methods : r.methods = [e.method]
  handle : ∀ parameter request, r.handle parameter request = e.handler s

end Endpoint

/-- The gates with one of them achieved and the other one pending. -/
def Gates.onlyAchieved (t : Target) : Gates :=
  let gate (achieved : Bool) : Gate := ⟨.zero, 0, achieved, none, none, []⟩
  ⟨gate (t = .health), gate (t = .ready)⟩

theorem Gates.achieved_onlyAchieved (t u : Target) : ((onlyAchieved t).get u).achieved = decide (t = u) := by
  cases t <;> cases u <;> rfl

theorem Probe.target_of_answer_eq (id : Log.Identity) {t u : Target}
    (h : ∀ clock (g : Gates), Handler.ofExcept (σ := Gates) (Probe.answer id t clock (g.get t))
      = Handler.ofExcept (Probe.answer id u clock (g.get u))) : t = u := by
  have hclock : (⟨0, 0⟩ : Clock).now.InCalendar := by decide
  have hachieved : ((Gates.onlyAchieved t).get t).achieved = true := by
    simp [Gates.achieved_onlyAchieved]
  obtain ⟨_, r, _, hr, _⟩ := Probe.answer_of_achieved id t hclock hachieved
  have heq := h ⟨0, 0⟩ (Gates.onlyAchieved t)
  rw [hr] at heq
  cases hu : Probe.answer id u ⟨0, 0⟩ ((Gates.onlyAchieved t).get u) with
  | error d =>
    rw [hu] at heq
    cases heq
  | ok r' =>
    rw [hu] at heq
    cases heq
    have hstatus := Probe.status_answer hr
    rw [Probe.status_answer hu, hachieved, Gates.achieved_onlyAchieved] at hstatus
    by_contra hne
    simp [hne] at hstatus

theorem Admin.mem_of_reset_eq {delay : String} {targets targets' : List Target} (hn : targets.Nodup)
    (hn' : targets'.Nodup) (h : Admin.reset delay targets = Admin.reset delay targets') (t : Target) :
    t ∈ targets ↔ t ∈ targets' := by
  have hmodify := congrFun (Handler.drain.inj h) 0
  have hreset := congrFun (congrFun (Handler.modify.inj hmodify).1 ⟨0, 0⟩) (Gates.onlyAchieved t)
  have hgeneration := congrArg (fun g => (g.get t).generation) hreset
  simp only [Gates.get_foldl_reset hn, Gates.get_foldl_reset hn'] at hgeneration
  by_cases ht : t ∈ targets <;> by_cases ht' : t ∈ targets' <;>
    simp [ht, ht', Gate.generation_reset] at hgeneration ⊢

theorem Endpoint.nodup_targets (only : Option Target) : (targets only).Nodup := by
  rcases only with _ | t
  . decide
  . simp [targets]

theorem Endpoint.targets_ext {only only' : Option Target} (h : ∀ t, t ∈ targets only ↔ t ∈ targets only') :
    only = only' := by
  have hhealth := h .health
  have hready := h .ready
  rcases only with _ | _ | _ <;> rcases only' with _ | _ | _ <;> simp [targets] at hhealth hready ⊢

/-- The handlers do different things. -/
theorem Endpoint.handler_injective (s : Service) : Function.Injective (Endpoint.handler s) := by
  intro e e' h
  cases e with
  | probe t =>
    cases e' with
    | probe u =>
      congr 1
      apply Probe.target_of_answer_eq s.identity
      intro clock g
      exact congrFun (congrFun (Handler.inspect.inj h) clock) g
    | reset only => cases h
  | reset only =>
    cases e' with
    | probe u => cases h
    | reset only' =>
      congr 1
      apply targets_ext
      exact Admin.mem_of_reset_eq (nodup_targets only) (nodup_targets only') h

theorem Endpoint.handler_ne_fail (s : Service) (e : Endpoint) (f : Fault) : e.handler s ≠ .fail f := by
  cases e <;> simp [handler, Admin.reset]

/-- Not a redirect. -/
def Stays (status : Int) : Prop :=
  ¬ (300 ≤ status ∧ status < 400)

theorem Endpoint.stays_handler (s : Service) (e : Endpoint) : (e.handler s).Answers Stays := by
  cases e with
  | probe t =>
    apply Handler.Answers.inspect
    intro clock g
    apply Handler.answers_ofExcept
    intro r hr
    rw [Probe.status_answer hr]
    split <;> simp [Stays]
  | reset only =>
    apply Handler.Answers.drain
    intro size
    apply Handler.Answers.modify
    apply Handler.Answers.inspect
    intro clock g
    apply Handler.answers_ofExcept
    intro r hr
    rw [Admin.status_answer hr]
    simp [Stays]

namespace Endpoint.Serves

variable {s : Service} {e : Endpoint} {r : Route Gates} (h : e.Serves s r)

include h

theorem path_ne_none_iff {path : String} : r.pattern.parameter? path ≠ none ↔ e.Covers path := by
  rw [h.pattern]
  show (if e.Covers path then some "" else none) ≠ none ↔ e.Covers path
  simp

theorem ne_none_iff {request : Request} :
    r.parameter? request ≠ none ↔ request.method = e.method ∧ e.Covers request.path := by
  rw [← h.path_ne_none_iff, Route.parameter?, h.methods]
  simp

theorem notAllowed_eq : r.notAllowed = .status 405 [⟨"Allow", e.method⟩] "Method Not Allowed" := by
  rw [Route.notAllowed, h.methods]
  rfl

end Endpoint.Serves

section Table

variable {s : Service} (hdebug : s.settings.debug = false) (hexercised : s.exercised = false)

include hdebug hexercised

theorem routes_eq : s.routes = Probe.routes s.identity ++ Admin.routes s.delayText := by
  unfold routes
  rw [hdebug, hexercised]
  apply List.append_nil

theorem exists_endpoint {r : Route Gates} (hr : r ∈ s.routes) : ∃ e : Endpoint, e.Serves s r := by
  rw [routes_eq hdebug hexercised] at hr
  simp only [Probe.routes, Admin.routes, List.cons_append, List.nil_append, List.mem_cons, List.not_mem_nil,
    or_false] at hr
  rcases hr with rfl | rfl | rfl | rfl | rfl
  . exact ⟨.probe .health, rfl, rfl, fun _ _ => rfl⟩
  . exact ⟨.probe .ready, rfl, rfl, fun _ _ => rfl⟩
  . exact ⟨.reset none, rfl, rfl, fun _ _ => rfl⟩
  . exact ⟨.reset (some .health), rfl, rfl, fun _ _ => rfl⟩
  . exact ⟨.reset (some .ready), rfl, rfl, fun _ _ => rfl⟩

theorem exists_route (e : Endpoint) : ∃ r ∈ s.routes, e.Serves s r := by
  -- the routes stand in the order of the endpoints
  rw [routes_eq hdebug hexercised]
  match e with
  | .probe .health => exact ⟨_, List.mem_of_getElem? (i := 0) rfl, rfl, rfl, fun _ _ => rfl⟩
  | .probe .ready => exact ⟨_, List.mem_of_getElem? (i := 1) rfl, rfl, rfl, fun _ _ => rfl⟩
  | .reset none => exact ⟨_, List.mem_of_getElem? (i := 2) rfl, rfl, rfl, fun _ _ => rfl⟩
  | .reset (some .health) => exact ⟨_, List.mem_of_getElem? (i := 3) rfl, rfl, rfl, fun _ _ => rfl⟩
  | .reset (some .ready) => exact ⟨_, List.mem_of_getElem? (i := 4) rfl, rfl, rfl, fun _ _ => rfl⟩

variable {request : Request}

theorem handle_of_covers {e : Endpoint} (hm : request.method = e.method) (hc : e.Covers request.path) :
    s.app.handle request = e.handler s := by
  apply Route.dispatch_eq
  . obtain ⟨r, hr, he⟩ := exists_route hdebug hexercised e
    exact ⟨r, hr, he.ne_none_iff.mpr ⟨hm, hc⟩⟩
  . intro r hr p hp
    obtain ⟨e', he'⟩ := exists_endpoint hdebug hexercised hr
    have hne : r.parameter? request ≠ none := by
      rw [hp]
      apply Option.some_ne_none
    rw [he'.handle, hc.unique (he'.ne_none_iff.mp hne).2]

theorem handle_of_method_ne {e : Endpoint} (hm : request.method ≠ e.method) (hc : e.Covers request.path) :
    s.app.handle request = .fail (.status 405 [⟨"Allow", e.method⟩] "Method Not Allowed") := by
  apply Route.dispatch_eq_notAllowed
  . intro r hr
    obtain ⟨e', he'⟩ := exists_endpoint hdebug hexercised hr
    by_contra hne
    obtain ⟨hm', hc'⟩ := he'.ne_none_iff.mp hne
    rw [hc'.unique hc] at hm'
    exact hm hm'
  . obtain ⟨r, hr, he⟩ := exists_route hdebug hexercised e
    exact ⟨r, hr, he.path_ne_none_iff.mpr hc⟩
  . intro r hr hne
    obtain ⟨e', he'⟩ := exists_endpoint hdebug hexercised hr
    rw [he'.notAllowed_eq, hc.unique (he'.path_ne_none_iff.mp hne)]

theorem handle_of_uncovered (hc : ∀ e : Endpoint, ¬ e.Covers request.path) :
    s.app.handle request = .fail (.status 404 [] "Not Found") := by
  apply Route.dispatch_eq_notFound
  intro r hr
  obtain ⟨e, he⟩ := exists_endpoint hdebug hexercised hr
  by_contra hne
  exact hc e (he.path_ne_none_iff.mp hne)

theorem handle_eq_handler_iff (e : Endpoint) :
    s.app.handle request = e.handler s ↔ request.method = e.method ∧ e.Covers request.path := by
  constructor
  . intro h
    by_cases hc : ∃ e' : Endpoint, e'.Covers request.path
    . obtain ⟨e', hc⟩ := hc
      by_cases hm : request.method = e'.method
      . rw [handle_of_covers hdebug hexercised hm hc] at h
        rw [← Endpoint.handler_injective s h]
        exact ⟨hm, hc⟩
      . rw [handle_of_method_ne hdebug hexercised hm hc] at h
        exact absurd h.symm (e.handler_ne_fail s _)
    . rw [handle_of_uncovered hdebug hexercised (not_exists.mp hc)] at h
      exact absurd h.symm (e.handler_ne_fail s _)
  . rintro ⟨hm, hc⟩
    exact handle_of_covers hdebug hexercised hm hc

theorem answers_handle : (s.app.handle request).Answers Stays := by
  by_cases hc : ∃ e : Endpoint, e.Covers request.path
  . obtain ⟨e, hc⟩ := hc
    by_cases hm : request.method = e.method
    . rw [handle_of_covers hdebug hexercised hm hc]
      apply e.stays_handler
    . rw [handle_of_method_ne hdebug hexercised hm hc]
      apply Handler.Answers.fail
      rintro _ _ _ ⟨⟩
      simp [Stays]
  . rw [handle_of_uncovered hdebug hexercised (not_exists.mp hc)]
    apply Handler.Answers.fail
    rintro _ _ _ ⟨⟩
    simp [Stays]

end Table

/-- The answer to a request that got to no endpoint: its body tells the code and the time and nothing else. -/
structure Served.Refused {σ : Type} (r : Served σ) (status : Int) (code time : String) : Prop where
  status : r.response.status = status
  body : Json.parse? r.response.body = some (.obj [("error", .str code), ("time", .str time)])
  contained : r.escaped = none

section Fail

variable {s : Service} {draw : Nat → List UInt8} {w : World Gates} {call : Call}

theorem serve_of_fail {f : Fault} (h : (s.pipeline draw).handler s.app w call = .fail f) :
    (s.serve draw w call).world = drawn w
      ∧ (s.pipeline draw).settled s.app w call = Ending.settle w.clock.now (.failed f) := by
  have houtcome : (s.pipeline draw).outcome s.app w call = (s.exchange draw w call, .failed f) := by
    unfold Pipeline.outcome
    rw [h]
    rfl
  have hworld : (s.serve draw w call).world = drawn w := by
    rw [world_serve_eq_leave, houtcome, leave_exchange]
  refine ⟨hworld, ?_⟩
  unfold Pipeline.settled
  rw [houtcome]
  show Ending.settle (s.serve draw w call).world.clock.now _ = _
  rw [hworld]
  rfl

theorem refused_of_fail {status : Int} {headers fields : List Header} {detail : String}
    (h : (s.pipeline draw).handler s.app w call = .fail (.status status headers detail))
    (hfields : headers.mapM Header.encode = .ok fields) {time : String} (ht : w.clock.now.text = .ok time) :
    (s.serve draw w call).Refused status (Http.errorCode status) time
      ∧ Header.named "allow" (s.serve draw w call).response.headers = Header.named "allow" fields := by
  obtain ⟨_, hsettled⟩ := serve_of_fail h
  obtain ⟨a, ha, hstatus, hbody, hnamed⟩ := Response.ofStatus_of_encoded ht hfields status
  rw [Ending.settle, ha] at hsettled
  obtain ⟨hresponse, hcontained, _⟩ := Pipeline.passed_of_settled hsettled
  change (s.serve draw w call).response = _ at hresponse
  constructor
  . constructor
    . rw [hresponse]
      exact hstatus
    . rw [hresponse]
      show Json.parse? a.body = _
      rw [hbody]
      exact Json.parse?_toText Json.standard_compact rfl
    . exact hcontained
  . rw [hresponse, ← hnamed "allow" (by decide) (by decide)]
    apply Header.named_replace_of_ne
    decide +kernel

end Fail

theorem encode_allow (e : Endpoint) : [Header.mk "Allow" e.method].mapM Header.encode = .ok [⟨"allow", e.method⟩] := by
  cases e with
  | probe t =>
    show [Header.mk "Allow" "GET"].mapM Header.encode = .ok [⟨"allow", "GET"⟩]
    decide +kernel
  | reset only =>
    show [Header.mk "Allow" "POST"].mapM Header.encode = .ok [⟨"allow", "POST"⟩]
    decide +kernel

/--
The table is exact up to a line break at the end of a path. A request gets to an endpoint if its method and its path
are those of the endpoint. With another method the answer is 405 and names the method to use, with another path it is
404; either leaves the gates and the clock as they are. No answer is a redirect.
-/
theorem endpoint_table (s : Service) (hdebug : s.settings.debug = false) (hexercised : s.exercised = false)
    (draw : Nat → List UInt8) (w : World Gates) (call : Call) :
    let r := s.serve draw w call
    (∀ e : Endpoint,
        (s.pipeline draw).handler s.app w call = e.handler s ↔ call.method = e.method ∧ e.Covers call.path)
      ∧ (∀ e : Endpoint, e.Covers call.path → call.method ≠ e.method →
          r.world = drawn w ∧ ∀ time, w.clock.now.text = .ok time →
            r.Refused 405 "method_not_allowed" time
              ∧ Header.named "allow" r.response.headers = [⟨"allow", e.method⟩])
      ∧ ((∀ e : Endpoint, ¬ e.Covers call.path) →
          r.world = drawn w ∧ ∀ time, w.clock.now.text = .ok time → r.Refused 404 "not_found" time)
      ∧ ¬ (300 ≤ r.response.status ∧ r.response.status < 400) := by
  intro r
  refine ⟨?_, ?_, ?_, ?_⟩
  . intro e
    exact handle_eq_handler_iff hdebug hexercised e
  . intro e hc hm
    have hfail : (s.pipeline draw).handler s.app w call = .fail (.status 405 [⟨"Allow", e.method⟩] _) :=
      handle_of_method_ne hdebug hexercised hm hc
    refine ⟨(serve_of_fail hfail).1, ?_⟩
    intro time ht
    obtain ⟨hrefused, hallow⟩ := refused_of_fail hfail (encode_allow e) ht
    refine ⟨hrefused, hallow.trans ?_⟩
    have hlower : Text.lowerAscii "allow" = "allow" := by
      decide +kernel
    exact Header.named_cons_of_eq hlower []
  . intro hc
    have hfail : (s.pipeline draw).handler s.app w call = .fail (.status 404 [] _) :=
      handle_of_uncovered hdebug hexercised hc
    refine ⟨(serve_of_fail hfail).1, ?_⟩
    intro time ht
    exact (refused_of_fail hfail rfl ht).1
  . show Stays (s.serve draw w call).response.status
    rw [status_serve]
    apply Handler.status_settle_run (by simp [Stays]) (by simp [Stays])
    exact answers_handle hdebug hexercised

/-- Only the listed methods are answered, and a slash at the end is not overlooked. -/
theorem endpoint_table_near_misses :
    let s : Service := ⟨.defaults, "30s", false⟩
    let w := s.genesis ⟨0, 0⟩
    let call (method path : String) : Call :=
      { method, path, query := [], headers := [], peer := .unknown, deliveries := [] }
    let serve (method path : String) := s.serve (fun _ => []) w (call method path)
    s.settings.debug = false ∧ s.exercised = false
      ∧ (serve "HEAD" "/readyz").Refused 405 "method_not_allowed" "1970-01-01T00:00:00Z"
      ∧ Header.named "allow" (serve "HEAD" "/readyz").response.headers = [⟨"allow", "GET"⟩]
      ∧ (serve "POST" "/admin/reset/").world = drawn w
      ∧ (serve "POST" "/admin/reset/").Refused 404 "not_found" "1970-01-01T00:00:00Z" := by
  intro s w call serve
  have htime : w.clock.now.text = .ok "1970-01-01T00:00:00Z" := by
    decide +kernel
  have hother : ∀ e ∈ Endpoint.all, ¬ e.Covers "/admin/reset/" := by
    decide +kernel
  obtain ⟨_, hmethod, _⟩ := endpoint_table s rfl rfl (fun _ => []) w (call "HEAD" "/readyz")
  obtain ⟨_, _, hpath, _⟩ := endpoint_table s rfl rfl (fun _ => []) w (call "POST" "/admin/reset/")
  obtain ⟨_, hrefused⟩ := hmethod (.probe .ready) (.inl rfl) (by decide)
  obtain ⟨hworld, hunknown⟩ := hpath fun e => hother e e.mem_all
  obtain ⟨hstatus, hallow⟩ := hrefused _ htime
  exact ⟨rfl, rfl, hstatus, hallow, hworld, hunknown _ htime⟩

/-- A line break at the end of a path does not keep a request from resetting both gates, or from reading one. -/
theorem line_break_reaches_endpoint :
    let s : Service := ⟨.defaults, "30s", false⟩
    let w := s.genesis ⟨0, 0⟩
    let call (method path : String) : Call :=
      { method, path, query := [], headers := [], peer := .unknown, deliveries := [⟨none, { kind := .request }⟩] }
    let reset := s.serve (fun _ => []) w (call "POST" "/admin/reset\n")
    let probe := s.serve (fun _ => []) w (call "GET" "/healthz\n")
    w.state.health.generation = 1 ∧ w.state.ready.generation = 1
      ∧ reset.response.status = 200 ∧ reset.world.state.health.generation = 2
      ∧ reset.world.state.ready.generation = 2 ∧ probe.response.status = 503 := by
  decide +kernel

end Service
end Readiness
