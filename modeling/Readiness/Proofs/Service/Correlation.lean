import Readiness.Proofs.AccessLog
import Readiness.Proofs.Service.Conforming
import Readiness.Proofs.Service.Traffic

/-!
This module contains the ids of requests: each is made from a draw of its own, and the handler, the response and all
records of the request have it. What ids clients choose makes no difference.
-/

namespace Readiness
namespace Service

open Http (Header Response)

/-- The call without an id of the client's choice. -/
def Call.anonymized (call : Call) : Call :=
  { call with headers := Header.others "x-request-id" call.headers }

def Event.anonymized : Event → Event
  | call c => .call c.anonymized
  | pause nanos => .pause nanos

/-- The record has the id of the request. -/
def Tagged (id : String) (r : Log.Record) : Prop :=
  r.fields.lookup "request_id" = some (.str id)

theorem Ending.isLower_settle {now : Instant} {e : Ending Fault} (h : ∀ a, e.answer? = some a → a.IsLower)
    {a : Response} (ha : (e.settle now).answer? = some a) : a.IsLower := by
  -- a response of the handler itself goes on as it is, the others are made here
  have hrendered {status : Int} {headers : List Header}
      (hs : (settle.rendered (Response.ofStatus status headers now)).answer? = some a) : a.IsLower := by
    cases hr : Response.ofStatus status headers now with
    | error e =>
      rw [hr] at hs
      cases hs
    | ok r =>
      rw [hr] at hs
      cases hs
      exact Response.isLower_error hr
  cases e with
  | response r => exact h a ha
  | broken r d => exact h a ha
  | failed f =>
    cases f with
    | status status headers detail => exact hrendered ha
    | tooLarge e => exact hrendered ha
    | defect d => cases ha

namespace Pipeline

/-- A response is sent with the id of its request. -/
def Sent (id : String) (response : Option Response) : Prop :=
  ∀ r, response = some r → ∃ a, a.IsLower ∧ r = tag id a

theorem named_tag (id : String) {a : Response} (h : a.IsLower) :
    Header.named "x-request-id" (tag id a).headers = [⟨"x-request-id", id⟩] := by
  apply Header.named_replace _ id h
  decide +kernel

theorem tagged_recovered (call : Call) (id : String) (d : Defect) : Tagged id (recovered call id d) := by
  rfl

theorem last?_tag (id : String) {a : Response} (h : a.IsLower) :
    Header.last? "x-request-id" (tag id a).headers = some id := by
  rw [Header.last?_eq, named_tag id h]
  rfl

variable {call : Call} {id : String} {response : Option Response} {start stop : Clock}

/-- What the access record is drawn from. -/
def scopeOf (call : Call) (id : String) : AccessLog.Scope where
  protocol := some .http
  method := some call.method
  path := some call.path
  headers := call.headers
  peer := call.peer
  requestId := some (.str id)

/-- What was sent of a response. -/
def sentOf (response : Option Response) : AccessLog.Outcome :=
  ((response.map Response.messages).getD []).foldl (fun o m => o.observe m.content) {}

theorem idOf_sentOf (hsent : Sent id response) :
    AccessLog.idOf (scopeOf call id) (sentOf response) = .ok (.str id) := by
  have hid : (sentOf response).requestId = "" ∨ (sentOf response).requestId = id := by
    cases response with
    | none => exact .inl rfl
    | some r =>
      obtain ⟨a, ha, rfl⟩ := hsent r rfl
      apply Or.inr
      show (Header.last? "x-request-id" (tag id a).headers).getD "" = id
      rw [last?_tag id ha]
      rfl
  rw [AccessLog.idOf_eq (rfl : (scopeOf call id).requestId = some (.str id))]
  rcases hid with hid | hid
  . rw [if_pos hid]
  . rw [hid, ite_self]

theorem accessRecord?_eq (hsent : Sent id response) :
    accessRecord? call id response start stop =
      match AccessLog.durationMs start stop, call.peer.text with
      | .ok duration, .ok remote => some {
          source := .structured
          logger := "probekit.access"
          level := .info
          event := "http_request"
          fields := [
            ("method", .str call.method),
            ("path", .str call.path),
            ("status", .int (sentOf response).status),
            ("bytes", .int (sentOf response).bytes),
            ("duration_ms", .int duration),
            ("ua", .str ((Header.last? "user-agent" call.headers).getD "")),
            ("remote", .str remote),
            ("xff", .str ((Header.last? "x-forwarded-for" call.headers).getD "")),
            ("request_id", .str id)] }
      | _, _ => none := by
  have hrecord : accessRecord? call id response start stop =
      (AccessLog.record (scopeOf call id) (sentOf response) start stop).toOption.map fun fields =>
        ⟨.structured, "probekit.access", .info, "http_request", fields, false, none, none⟩ := rfl
  have hpeer : (scopeOf call id).peer = call.peer := rfl
  rw [hrecord]
  unfold AccessLog.record
  rw [idOf_sentOf hsent, hpeer]
  cases AccessLog.durationMs start stop with
  | error e => rfl
  | ok duration =>
    cases call.peer.text with
    | error e => rfl
    | ok remote => rfl

theorem tagged_accessRecord? (hsent : Sent id response) {r : Log.Record}
    (h : accessRecord? call id response start stop = some r) : Tagged id r := by
  rw [accessRecord?_eq hsent] at h
  split at h
  . cases h
    rfl
  . cases h

theorem exists_accessRecord? (hsent : Sent id response) {duration : Int} {remote : String}
    (hduration : AccessLog.durationMs start stop = .ok duration) (hremote : call.peer.text = .ok remote) :
    ∃ r, accessRecord? call id response start stop = some r ∧ r.event = "http_request" := by
  rw [accessRecord?_eq hsent, hduration, hremote]
  exact ⟨_, rfl, rfl⟩

theorem accessRecord?_anonymized (call : Call) :
    accessRecord? call.anonymized id response start stop = accessRecord? call id response start stop := by
  unfold accessRecord? AccessLog.record Call.anonymized
  dsimp only
  rw [Header.last?_others (by decide), Header.last?_others (by decide)]
  rfl

section Serve

variable (p : Pipeline) {σ : Type} {app : App σ} (w : World σ) (call : Call)

theorem records_serve : (p.serve app w call).records = (p.recovery app w call).2.2
    ++ (accessRecord? call (p.requestId w) (p.recovery app w call).1 w.clock
      (p.serve app w call).world.clock).toList := rfl

theorem isLower_settled (happ : app.SendsLower) {a : Response} (h : (p.settled app w call).answer? = some a) :
    a.IsLower :=
  Ending.isLower_settle (happ _ _) h

theorem sent_recover_of_failed (id : String) (now : Instant) (d : Defect) :
    Sent id (recover call id now (.failed d)).1 := by
  intro r hr
  unfold recover at hr
  cases hquery : Text.checkUtf8 call.query with
  | error e =>
    rw [hquery] at hr
    cases hr
  | ok u =>
    rw [hquery] at hr
    dsimp only at hr
    split at hr
    . next a ha =>
      cases hr
      exact ⟨a, Response.isLower_error ha, rfl⟩
    . cases hr

theorem sent_serve (happ : app.SendsLower) : Sent (p.requestId w) (p.recovery app w call).1 := by
  have hlower {a : Response} := p.isLower_settled w call happ (a := a)
  rw [recovery_eq]
  cases hsettled : p.settled app w call with
  | response a =>
    rw [hsettled] at hlower
    intro r hr
    cases hr
    exact ⟨a, hlower rfl, rfl⟩
  | broken a d =>
    rw [hsettled] at hlower
    intro r hr
    cases hr
    exact ⟨a, hlower rfl, rfl⟩
  | failed d => exact sent_recover_of_failed call _ _ d

theorem tagged_records (happ : app.SendsLower) : ∀ r ∈ (p.serve app w call).records, Tagged (p.requestId w) r := by
  intro r hr
  rw [records_serve, List.mem_append] at hr
  rcases hr with hr | hr
  . obtain ⟨d, rfl⟩ := mem_recover hr
    exact tagged_recovered call _ d
  . exact tagged_accessRecord? (p.sent_serve w call happ) (Option.mem_toList.mp hr)

/-- The request is recorded once, if its duration and its client have a text. -/
theorem accessed_once (happ : app.SendsLower) {duration : Int} {remote : String}
    (hduration : AccessLog.durationMs w.clock (p.serve app w call).world.clock = .ok duration)
    (hremote : call.peer.text = .ok remote) :
    ∃ r, (p.serve app w call).records.filter (·.event = "http_request") = [r] := by
  obtain ⟨r, hr, hevent⟩ := exists_accessRecord? (p.sent_serve w call happ) hduration hremote
  refine ⟨r, ?_⟩
  rw [records_serve, hr, List.filter_append, List.filter_eq_nil_iff.mpr]
  . simp [hevent]
  . intro f hf
    obtain ⟨d, rfl⟩ := mem_recover hf
    have hevent : (recovered call (p.requestId w) d).event = "handler_fault_recovered" := rfl
    rw [hevent]
    decide

theorem named_serve (happ : app.SendsLower)
    (hquery : ∀ d, p.settled app w call = .failed d → Text.checkUtf8 call.query = .ok ()) {time : String}
    (ht : (p.serve app w call).world.clock.now.text = .ok time) :
    Header.named "x-request-id" (p.serve app w call).response.headers = [⟨"x-request-id", p.requestId w⟩] := by
  have hlower {a : Response} := p.isLower_settled w call happ (a := a)
  cases hsettled : p.settled app w call with
  | response a =>
    rw [hsettled] at hlower
    rw [(passed_of_settled hsettled).response]
    exact named_tag _ (hlower rfl)
  | broken a d =>
    rw [hsettled] at hlower
    rw [(escaped_of_broken hsettled).1.response]
    exact named_tag _ (hlower rfl)
  | failed d => exact (recovered_of_failed hsettled (hquery d hsettled) ht).1.tagged

/-- The application is asked nothing but the request with its id. -/
theorem serve_congr {app' : App σ} (htick : app'.tick = app.tick)
    (hhandle : app'.handle (call.request (p.requestId w)) = app.handle (call.request (p.requestId w))) :
    p.serve app' w call = p.serve app w call := by
  have hanswer (meter : Option Http.BodyLimit.Meter) :
      app'.answer { w with draws := w.draws + 1 } call meter (p.requestId w)
        = app.answer { w with draws := w.draws + 1 } call meter (p.requestId w) := by
    unfold App.answer
    rw [htick, hhandle]
  unfold serve
  dsimp only
  rw [show RequestId.ofBytes (p.draw (w.draws + 1)) = p.requestId w from rfl, hanswer]

theorem serve_anonymized (happ : app.IgnoresIds) : p.serve app w call.anonymized = p.serve app w call := by
  have hhandle : app.handle (call.anonymized.request (p.requestId w)) = app.handle (call.request (p.requestId w)) :=
    happ (call.request (p.requestId w))
  have hanswer (meter : Option Http.BodyLimit.Meter) :
      app.answer { w with draws := w.draws + 1 } call.anonymized meter (p.requestId w)
        = app.answer { w with draws := w.draws + 1 } call meter (p.requestId w) := by
    unfold App.answer
    rw [hhandle]
    rfl
  unfold serve
  dsimp only
  rw [show RequestId.ofBytes (p.draw (w.draws + 1)) = p.requestId w from rfl, hanswer]
  generalize app.answer _ call _ (p.requestId w) = answered
  obtain ⟨exchange, ending⟩ := answered
  have hrecover (now : Instant) :
      recover call.anonymized (p.requestId w) now ending = recover call (p.requestId w) now ending := rfl
  dsimp only
  rw [hrecover, accessRecord?_anonymized]

theorem after_anonymized (happ : app.IgnoresIds) (event : Event) :
    p.after app w event.anonymized = p.after app w event := by
  cases event with
  | call call => exact congrArg Served.world (p.serve_anonymized w call happ)
  | pause nanos => rfl

theorem run_of_anonymized (happ : app.IgnoresIds) {events₁ events₂ : List Event}
    (h : events₁.map Event.anonymized = events₂.map Event.anonymized) :
    p.run app w events₁ = p.run app w events₂ := by
  have hafter (w : World σ) (event : Event) := p.after_anonymized w happ event
  rw [← p.run_map hafter w events₁, h, p.run_map hafter w events₂]

theorem serve_of_anonymized (happ : app.IgnoresIds) {call₁ call₂ : Call} (h : call₁.anonymized = call₂.anonymized) :
    p.serve app w call₁ = p.serve app w call₂ := by
  rw [← p.serve_anonymized w call₁ happ, h, p.serve_anonymized w call₂ happ]

/--
After any events a request takes one draw of random bytes. The handler is asked with the id made from them, all records
have it, and the response has it in one field, as long as the application sends names in lower case and no defect comes
up under an address without a text. The ids that clients choose make no difference, and different draws make different
ids.
-/
theorem one_id_for_each_request (p : Pipeline) (app : App σ) (w : World σ) (events : List Event) (call : Call) :
    let w' := p.run app w events
    let n := w.draws + events.countP Event.isCall + 1
    let id := RequestId.ofBytes (p.draw n)
    let r := p.serve app w' call
    r.world.draws = n
      ∧ (∀ app' : App σ, app'.tick = app.tick → app'.handle (call.request id) = app.handle (call.request id) →
          p.serve app' w' call = r)
      ∧ (app.SendsLower →
          (∀ f ∈ r.records, f.fields.lookup "request_id" = some (.str id))
            ∧ (∀ duration remote, AccessLog.durationMs w'.clock r.world.clock = .ok duration →
                call.peer.text = .ok remote → ∃ f, r.records.filter (·.event = "http_request") = [f])
            ∧ (r.world.clock.now.InCalendar →
                (∀ d, p.settled app w' call = .failed d → Text.checkUtf8 call.query = .ok ()) →
                Header.named "x-request-id" r.response.headers = [⟨"x-request-id", id⟩]))
      ∧ (∀ d e, p.settled app w' call = .failed d → Text.checkUtf8 call.query = .error e → r.response = plainError)
      ∧ (app.IgnoresIds → ∀ events₂ call₂, events₂.map Event.anonymized = events.map Event.anonymized →
          call₂.anonymized = call.anonymized → p.run app w events₂ = w' ∧ p.serve app w' call₂ = r)
      ∧ ∀ k, p.draw k ≠ p.draw n → RequestId.ofBytes (p.draw k) ≠ id := by
  intro w' n id r
  have hdraws : w'.draws + 1 = n := congrArg (· + 1) (p.draws_run app w events)
  have hid : p.requestId w' = id := congrArg (fun k => RequestId.ofBytes (p.draw k)) hdraws
  rw [← hid]
  refine ⟨hdraws, ?_, ?_, ?_, ?_, ?_⟩
  . intro app' htick hhandle
    exact p.serve_congr w' call htick hhandle
  . intro happ
    refine ⟨p.tagged_records w' call happ, ?_, ?_⟩
    . intro duration remote hduration hremote
      exact p.accessed_once w' call happ hduration hremote
    . intro hnow hquery
      obtain ⟨time, ht⟩ := Instant.exists_text hnow
      exact p.named_serve w' call happ hquery ht
  . intro d e hd hquery
    exact (escaped_of_query hd hquery).1.response
  . intro hignores events₂ call₂ hevents hcall
    exact ⟨p.run_of_anonymized w hignores hevents, p.serve_of_anonymized w' hignores hcall⟩
  . intro k hk heq
    rw [hid] at heq
    exact hk (RequestId.ofBytes_inj heq)

/-- The second request of a service has the second id, also on a response that broke off. -/
theorem one_id_for_each_request_second :
    let s : Service := ⟨.defaults, "30s", true⟩
    let p := s.pipeline fun n => List.replicate RequestId.entropy (UInt8.ofNat n)
    let w := s.genesis ⟨0, 0⟩
    let call (path : String) (headers : List Header) : Call :=
      { method := "GET", path, query := [], headers, peer := .unknown, deliveries := [] }
    let chosen : Header := ⟨"X-Request-Id", "AAAA"⟩
    let r := p.serve s.app (p.run s.app w [.call (call "/boom" [])]) (call "/late" [])
    s.app.SendsLower ∧ s.app.IgnoresIds ∧ r.world.draws = 2
      ∧ Header.named "x-request-id" r.response.headers = [⟨"x-request-id", "AgICAgICAgICAgICAgICAgIC"⟩]
      ∧ p.serve s.app (p.run s.app w [.call (call "/boom" [])]) (call "/late" [chosen]) = r := by
  intro s p w call chosen r
  obtain ⟨hdraws, _, hlower, _, hignores, _⟩ :=
    p.one_id_for_each_request s.app w [.call (call "/boom" [])] (call "/late" [])
  obtain ⟨_, _, hnamed⟩ := hlower (sendsLower_app s)
  have hothers : Header.others "x-request-id" [chosen] = [] := by decide +kernel
  have hanonymized : (call "/late" [chosen]).anonymized = (call "/late" []).anonymized :=
    congrArg (fun headers => { call "/late" [] with headers }) hothers
  have hnamed := hnamed (by decide +kernel) fun d _ => by decide +kernel
  refine ⟨sendsLower_app s, ignoresIds_app s, hdraws, hnamed.trans ?_, ?_⟩
  . decide +kernel
  . exact (hignores (ignoresIds_app s) _ _ rfl hanonymized).2

/-- The answer to a defect under an address without a text has no id. -/
theorem no_id_without_address :
    let p : Pipeline := ⟨0, fun _ => List.replicate RequestId.entropy 0⟩
    let w : World Unit := ⟨⟨0, 0⟩, 0, ()⟩
    let call : Call :=
      { method := "GET", path := "/boom", query := [0xE9], headers := [], peer := .unknown, deliveries := [] }
    let r := p.serve Exercise.app w call
    r.world.clock.now.InCalendar ∧ r.world.draws = 1
      ∧ Header.named "x-request-id" r.response.headers = [] := by
  decide +kernel

end Serve

end Pipeline
end Service
end Readiness
