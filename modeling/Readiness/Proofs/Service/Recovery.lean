import Readiness.Proofs.RequestId
import Readiness.Proofs.Service.Answering

/-!
This module contains what becomes of defects. One that comes up before a response has started is told in a single record
and answered opaquely, as long as the query of the address has a text; one that comes up later escapes and is told in
no record. Requests without a defect leave none.
-/

namespace Readiness
namespace Service

open Http (Header Response)

variable {σ : Type}

deriving instance DecidableEq for Ending

/-- The response that went out, if one did. -/
def Ending.answer? {ε : Type} : Ending ε → Option Response
  | response r => some r
  | broken r _ => some r
  | failed _ => none

/-- The records of defects that were turned into answers. -/
def Served.faults (r : Served σ) : List Log.Record :=
  r.records.filter (·.event = "handler_fault_recovered")

/-- The request passed without a defect, and its answer was given its id. -/
structure Served.Passed (r : Served σ) (id : String) (answer : Response) : Prop where
  response : r.response = Pipeline.tag id answer
  contained : r.escaped = none
  untold : r.faults = []

/-- The defect was told in one record, under the id of the request. -/
def Served.Tells (r : Served σ) (call : Call) (id : String) (d : Defect) : Prop :=
  ∃ f, r.faults = [f] ∧ f.exception = some d.summary ∧ f.fields = [
    ("method", .str call.method), ("path", .str (Pipeline.addressPath call.path)), ("request_id", .str id)]

/-- A defect was answered opaquely, under the id of the request. -/
structure Served.Recovered (r : Served σ) (id : String) : Prop where
  status : r.response.status = 500
  tagged : Header.named "x-request-id" r.response.headers = [⟨"x-request-id", id⟩]
  contained : r.escaped = none

/-- The defect reached the server. -/
structure Served.Escaped (r : Served σ) (d : Defect) (answer : Response) : Prop where
  response : r.response = answer
  escaped : r.escaped = some d

namespace Pipeline

/-- A path without marks that an address escapes or drops is shown as it is. -/
theorem addressPath_eq {path : String} (h : ∀ c ∈ path.toList, addressChar c = [c]) : addressPath path = path := by
  have hflat : path.toList.flatMap addressChar = path.toList := by
    generalize path.toList = l at h
    induction l with
    | nil => rfl
    | cons c l ih =>
      rw [List.forall_mem_cons] at h
      rw [List.flatMap_cons, h.1, ih h.2]
      rfl
  unfold addressPath
  rw [hflat, String.ofList_toList]

section Recover

variable {call : Call} {id : String} {now : Instant} {d : Defect}

theorem recover_of_query {e : Text.Utf8Error} (h : Text.checkUtf8 call.query = .error e) :
    recover call id now (.failed d) = (none, some (.query e), []) := by
  unfold recover
  rw [h]

theorem recover_of_ok {r : Response} (hquery : Text.checkUtf8 call.query = .ok ())
    (hr : Response.error 500 (Http.errorCode 500) id [] now = .ok r) :
    recover call id now (.failed d) = (some (tag id r), none, [recovered call id d]) := by
  unfold recover
  rw [hquery, hr]

theorem recover_of_error {e : Http.RenderError} (hquery : Text.checkUtf8 call.query = .ok ())
    (he : Response.error 500 (Http.errorCode 500) id [] now = .error e) :
    recover call id now (.failed d) = (none, some (.render e), [recovered call id d]) := by
  unfold recover
  rw [hquery, he]

theorem mem_recover {e : Ending Defect} {r : Log.Record} (h : r ∈ (recover call id now e).2.2) :
    ∃ d, r = recovered call id d := by
  cases e with
  | response a => cases h
  | broken a d => cases h
  | failed d =>
    unfold recover at h
    cases hquery : Text.checkUtf8 call.query with
    | error e =>
      rw [hquery] at h
      cases h
    | ok u =>
      rw [hquery] at h
      dsimp only at h
      split at h <;> exact ⟨d, List.mem_singleton.mp h⟩

end Recover

theorem event_accessRecord? {call : Call} {id : String} {response : Option Response} {start stop : Clock}
    {r : Log.Record} (h : accessRecord? call id response start stop = some r) : r.event = AccessLog.event := by
  unfold accessRecord? at h
  obtain ⟨fields, _, rfl⟩ := Option.map_eq_some_iff.mp h
  rfl

variable (p : Pipeline) (app : App σ) (w : World σ) (call : Call)

theorem faults_serve : (p.serve app w call).faults = (p.recovery app w call).2.2 := by
  have hrecords : (p.serve app w call).records = (p.recovery app w call).2.2 ++ _ := rfl
  unfold Served.faults
  rw [hrecords, List.filter_append, List.filter_eq_self.mpr, List.filter_eq_nil_iff.mpr, List.append_nil]
  . intro r hr
    rw [decide_eq_true_eq, event_accessRecord? (Option.mem_toList.mp hr)]
    decide
  . intro r hr
    obtain ⟨d, rfl⟩ := mem_recover hr
    rfl

/-- How the application leaves a call to the pipeline. -/
def settled : Ending Defect :=
  (p.outcome app w call).2.settle (p.serve app w call).world.clock.now

theorem recovery_eq : p.recovery app w call =
    recover call (p.requestId w) (p.serve app w call).world.clock.now (p.settled app w call) := rfl

theorem checkLatin1_requestId : Text.checkLatin1 (p.requestId w) = .ok () :=
  RequestId.checkLatin1_ofBytes (p.draw (w.draws + 1))

variable {p app w call}

theorem serve_of_recovery {response : Option Response} {escaped : Option Defect} {faults : List Log.Record}
    (h : p.recovery app w call = (response, escaped, faults)) :
    (p.serve app w call).response = response.getD plainError ∧ (p.serve app w call).escaped = escaped
      ∧ (p.serve app w call).faults = faults := by
  rw [response_serve, escaped_serve, faults_serve, h]
  exact ⟨rfl, rfl, rfl⟩

theorem passed_of_settled {a : Response} (h : p.settled app w call = .response a) :
    (p.serve app w call).Passed (p.requestId w) a := by
  have hrecovery := recovery_eq p app w call
  rw [h] at hrecovery
  obtain ⟨hresponse, hescaped, hfaults⟩ := serve_of_recovery hrecovery
  exact ⟨hresponse, hescaped, hfaults⟩

theorem escaped_of_broken {a : Response} {d : Defect} (h : p.settled app w call = .broken a d) :
    (p.serve app w call).Escaped d (tag (p.requestId w) a) ∧ (p.serve app w call).faults = [] := by
  have hrecovery := recovery_eq p app w call
  rw [h] at hrecovery
  obtain ⟨hresponse, hescaped, hfaults⟩ := serve_of_recovery hrecovery
  exact ⟨⟨hresponse, hescaped⟩, hfaults⟩

section Failed

variable {d : Defect} (h : p.settled app w call = .failed d)

include h

theorem escaped_of_query {e : Text.Utf8Error} (hquery : Text.checkUtf8 call.query = .error e) :
    (p.serve app w call).Escaped (.query e) plainError ∧ (p.serve app w call).faults = [] := by
  have hrecovery := recovery_eq p app w call
  rw [h, recover_of_query hquery] at hrecovery
  obtain ⟨hresponse, hescaped, hfaults⟩ := serve_of_recovery hrecovery
  exact ⟨⟨hresponse, hescaped⟩, hfaults⟩

variable (hquery : Text.checkUtf8 call.query = .ok ())

include hquery

theorem escaped_of_text {e : Instant.Error} (he : (p.serve app w call).world.clock.now.text = .error e) :
    (p.serve app w call).Escaped (.render (.instant e)) plainError
      ∧ (p.serve app w call).Tells call (p.requestId w) d := by
  have hrecovery := recovery_eq p app w call
  rw [h, recover_of_error hquery (Response.error_of_text he _ _ _ _)] at hrecovery
  obtain ⟨hresponse, hescaped, hfaults⟩ := serve_of_recovery hrecovery
  exact ⟨⟨hresponse, hescaped⟩, _, hfaults, rfl, rfl⟩

theorem recovered_of_failed {time : String} (ht : (p.serve app w call).world.clock.now.text = .ok time) :
    (p.serve app w call).Recovered (p.requestId w) ∧ (p.serve app w call).Tells call (p.requestId w) d := by
  obtain ⟨r, hr⟩ := Response.error_internal_ok ht (p.checkLatin1_requestId w)
  have hrecovery := recovery_eq p app w call
  rw [h, recover_of_ok hquery hr] at hrecovery
  obtain ⟨hresponse, hescaped, hfaults⟩ := serve_of_recovery hrecovery
  refine ⟨⟨?_, ?_, hescaped⟩, _, hfaults, rfl, rfl⟩
  . rw [hresponse]
    exact (Response.status_error hr : r.status = 500)
  . rw [hresponse]
    exact Header.named_replace (by decide +kernel) (p.requestId w) (Response.isLower_error hr)

end Failed

theorem passed_of_ofStatus {status : Int} {headers : List Header} (hheaders : ∀ f ∈ headers, ∃ f', f.encode = .ok f')
    {time : String} (ht : (p.serve app w call).world.clock.now.text = .ok time)
    (h : p.settled app w call
      = Ending.settle.rendered (Response.ofStatus status headers (p.serve app w call).world.clock.now)) :
    ∃ a, (p.serve app w call).Passed (p.requestId w) a ∧ a.status = status := by
  obtain ⟨a, ha, hstatus⟩ := Response.ofStatus_ok ht status hheaders
  rw [ha] at h
  exact ⟨a, passed_of_settled h, hstatus⟩

/--
A request without a defect leaves no record of one, and nothing escapes. A defect that comes up before the response has
started is told once, with the path as the address shows it, and answered with an opaque 500, both under the id of the
request. It escapes only if the address or the time has no text, and without an address it is not told either. One that
comes up later always escapes untold.
-/
theorem defects_contained (p : Pipeline) (app : App σ) (w : World σ) (call : Call) :
    let r := p.serve app w call
    let id := p.requestId w
    let now := r.world.clock.now
    let outcome := (p.outcome app w call).2
    let settled := p.settled app w call
    (∀ a, outcome = .response a → r.Passed id a)
      ∧ (∀ a, settled = .response a → r.Passed id a)
      ∧ (∀ time, now.text = .ok time →
          (∀ e, outcome = .failed (.tooLarge e) → ∃ a, r.Passed id a ∧ a.status = 413)
            ∧ ∀ status headers detail, outcome = .failed (.status status headers detail) →
                (∀ f ∈ headers, ∃ f', f.encode = .ok f') → ∃ a, r.Passed id a ∧ a.status = status)
      ∧ (∀ d, settled = .failed d →
          (∀ e, Text.checkUtf8 call.query = .error e → r.Escaped (.query e) plainError ∧ r.faults = [])
            ∧ (Text.checkUtf8 call.query = .ok () →
                (∀ e, now.text = .error e → r.Escaped (.render (.instant e)) plainError ∧ r.Tells call id d)
                  ∧ ∀ time, now.text = .ok time → r.Recovered id ∧ r.Tells call id d))
      ∧ (∀ a d, settled = .broken a d → r.Escaped d (tag id a) ∧ r.faults = [])
      ∧ ((∀ c ∈ call.path.toList, addressChar c = [c]) → addressPath call.path = call.path) := by
  intro r id now outcome settled
  refine ⟨?_, ?_, ?_, ?_, ?_, addressPath_eq⟩
  . intro a h
    apply passed_of_settled
    exact congrArg (Ending.settle now) h
  . intro a h
    exact passed_of_settled h
  . intro time ht
    refine ⟨?_, ?_⟩
    . intro e h
      apply passed_of_ofStatus (fun f hf => absurd hf List.not_mem_nil) ht
      exact congrArg (Ending.settle now) h
    . intro status headers detail h hheaders
      apply passed_of_ofStatus hheaders ht
      exact congrArg (Ending.settle now) h
  . intro d h
    refine ⟨fun e => escaped_of_query h, ?_⟩
    intro hquery
    exact ⟨fun e => escaped_of_text h hquery, fun time => recovered_of_failed h hquery⟩
  . intro a d h
    exact escaped_of_broken h

/-- A handler that fails at once. -/
theorem defects_contained_boom :
    let p : Pipeline := ⟨0, fun _ => List.replicate RequestId.entropy 0⟩
    let w : World Unit := ⟨⟨0, 0⟩, 0, ()⟩
    let call : Call :=
      { method := "GET", path := "/boom", query := [], headers := [], peer := .unknown, deliveries := [] }
    let r := p.serve Exercise.app w call
    Text.checkUtf8 call.query = .ok () ∧ addressPath call.path = "/boom"
      ∧ r.Recovered (p.requestId w) ∧ r.Tells call (p.requestId w) (.internal "secret internal detail") := by
  intro p w call r
  have hquery : Text.checkUtf8 call.query = .ok () := by decide +kernel
  have hpath : addressPath call.path = "/boom" := by decide +kernel
  have hsettled : p.settled Exercise.app w call = .failed (.internal "secret internal detail") := by
    decide +kernel
  obtain ⟨time, ht⟩ := Instant.exists_text (t := r.world.clock.now) (by decide +kernel)
  obtain ⟨_, _, _, hfailed, _⟩ := defects_contained p Exercise.app w call
  exact ⟨hquery, hpath, ((hfailed _ hsettled).2 hquery).2 time ht⟩

/-- A defect after the start of the response escapes, as does one under an address without a text. -/
theorem late_defect_escapes :
    let p : Pipeline := ⟨0, fun _ => List.replicate RequestId.entropy 0⟩
    let w : World Unit := ⟨⟨0, 0⟩, 0, ()⟩
    let call (path : String) (query : Http.Bytes) : Call :=
      { method := "GET", path, query, headers := [], peer := .unknown, deliveries := [⟨none, { kind := .request }⟩] }
    let late := p.serve Exercise.app w (call "/late" [])
    let boom := p.serve Exercise.app w (call "/boom" [0xE9])
    late.escaped = some (.internal "late fault") ∧ late.faults.length = 0
      ∧ boom.escaped = some (.query ⟨0, 0xE9, 1, .cut⟩) ∧ boom.faults.length = 0 ∧ boom.response = plainError := by
  decide +kernel

end Pipeline

end Service
end Readiness
