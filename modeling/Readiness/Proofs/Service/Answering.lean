import Mathlib.Tactic.Choose
import Readiness.Proofs.Http.Errors
import Readiness.Service.Basic

/-!
This module contains the answers to requests: the status that each ending of a handler comes to, and that a response
which was made reaches the client with its status and body.
-/

namespace Readiness

namespace Http
namespace Response

/-- The response has the given status and body. -/
def Says (r : Response) (status : Int) (body : String) : Prop :=
  r.status = status ∧ r.body = body

theorem make_plain (status : Int) (mediaType body : String) :
    ∃ r, make status [] mediaType body = .ok r ∧ r.Says status body := by
  exact ⟨_, rfl, rfl, rfl⟩

theorem json_plain (status : Int) (body : Json) :
    ∃ r, json status [] body = .ok r ∧ r.Says status (body.toText Json.compact) := by
  apply make_plain

end Response
end Http

namespace Service

open Http (Response)

/-- The status that a settled request is answered with. -/
def Ending.status : Ending Defect → Int
  | .response r => r.status
  | .broken r _ => r.status
  | .failed _ => 500

theorem status_settle_tooLarge {now : Instant} (h : now.InCalendar) (e : Http.TooLarge) :
    (Ending.settle now (.failed (.tooLarge e))).status = 413 := by
  obtain ⟨time, ht⟩ := Instant.exists_text h
  obtain ⟨r, hr, hstatus⟩ := Response.tooLarge_ok ht
  unfold Ending.settle
  rw [hr]
  exact hstatus

namespace Pipeline

theorem status_recover (call : Call) (id : String) (now : Instant) (e : Ending Defect) :
    ((recover call id now e).1.getD plainError).status = e.status := by
  cases e with
  | response r => rfl
  | broken r d => rfl
  | failed d =>
    unfold recover
    cases Text.checkUtf8 call.query with
    | error e => rfl
    | ok u =>
      dsimp only
      split
      . next r hr => exact (Response.status_error hr : r.status = 500)
      . rfl

variable {σ : Type} (p : Pipeline) (app : App σ) (w : World σ) (call : Call)

/-- The id that the request of a call is given. -/
def requestId : String :=
  RequestId.ofBytes (p.draw (w.draws + 1))

/-- The handler of a call. -/
def handler : Handler σ :=
  app.handle (call.request (p.requestId w))

/-- The exchange in which a call is handled. -/
def exchange : Exchange σ :=
  w.enter call (Http.BodyLimit.meter? .http p.limit)

/-- How handling a call ends, with the exchange as it is then. -/
def outcome : Exchange σ × Ending Fault :=
  (p.handler app w call).run app.tick (p.exchange w call)

theorem world_serve :
    (p.serve app w call).world = { w with draws := w.draws + 1 }.leave (p.outcome app w call).1 := rfl

/-- What is made of the outcome. -/
def recovery : Option Response × Option Defect × List Log.Record :=
  let now := (p.outcome app w call).1.clock.now
  recover call (p.requestId w) now ((p.outcome app w call).2.settle now)

theorem response_serve : (p.serve app w call).response = (p.recovery app w call).1.getD plainError := rfl

theorem escaped_serve : (p.serve app w call).escaped = (p.recovery app w call).2.1 := rfl

theorem status_serve :
    (p.serve app w call).response.status =
      ((p.outcome app w call).2.settle (p.serve app w call).world.clock.now).status := by
  apply status_recover

theorem serve_of_response {r : Response} {status : Int} {body : String}
    (h : (p.outcome app w call).2 = .response r) (hr : r.Says status body) :
    (p.serve app w call).response.Says status body ∧ (p.serve app w call).escaped = none := by
  rw [response_serve, escaped_serve]
  unfold recovery
  rw [h]
  exact ⟨hr, rfl⟩

end Pipeline

namespace Probe

theorem timeText_ok {clock : Clock} (h : clock.now.InCalendar) :
    ∃ time, timeText clock = .ok time ∧ clock.now.text = .ok time := by
  obtain ⟨time, ht⟩ := Instant.exists_text h
  refine ⟨time, ?_, ht⟩
  unfold timeText
  rw [ht]
  rfl

theorem remainingMs_ok {clock : Clock} {g : Gate} {ms : Int} (h : g.remainingMs clock.monotonic = .ok ms) :
    remainingMs clock g = .ok ms := by
  unfold remainingMs
  rw [h]
  rfl

theorem respond_ok (status : Int) (fields : List (String × Json)) :
    ∃ r, respond status fields = .ok r ∧ r.Says status ((Json.obj fields).toText Json.compact) := by
  obtain ⟨r, hr, hsaid⟩ := Response.json_plain status (.obj fields)
  refine ⟨r, ?_, hsaid⟩
  unfold respond
  rw [hr]
  rfl

/-- What the answer of a probe consists of; a pending gate adds the milliseconds that it has to wait. -/
def fields (id : Log.Identity) (target : Target) (time : String) : Option Int → List (String × Json)
  | none =>
    [("service", .str id.service), ("version", .str id.version), ("time", .str time), ("status", .str target.achieved)]
  | some ms =>
    [("service", .str id.service), ("version", .str id.version), ("time", .str time), ("status", .str target.pending),
     ("retry_after_ms", .int ms)]

theorem answer_of_achieved (id : Log.Identity) (target : Target) {clock : Clock} (h : clock.now.InCalendar) {g : Gate}
    (hg : g.achieved = true) :
    ∃ time r, clock.now.text = .ok time ∧ answer id target clock g = .ok r
      ∧ r.Says 200 ((Json.obj (fields id target time none)).toText Json.compact) := by
  obtain ⟨time, htime, htext⟩ := timeText_ok h
  obtain ⟨r, hr, hsaid⟩ := respond_ok 200 (fields id target time none)
  refine ⟨time, r, htext, ?_, hsaid⟩
  unfold answer
  rw [htime, hg, ← hr]
  rfl

theorem answer_of_pending (id : Log.Identity) (target : Target) {clock : Clock} (h : clock.now.InCalendar) {g : Gate}
    (hg : g.achieved = false) {ms : Int} (hms : g.remainingMs clock.monotonic = .ok ms) :
    ∃ time r, clock.now.text = .ok time ∧ answer id target clock g = .ok r
      ∧ r.Says 503 ((Json.obj (fields id target time (some ms))).toText Json.compact) := by
  obtain ⟨time, htime, htext⟩ := timeText_ok h
  obtain ⟨r, hr, hsaid⟩ := respond_ok 503 (fields id target time (some ms))
  refine ⟨time, r, htext, ?_, hsaid⟩
  unfold answer
  rw [htime, hg, remainingMs_ok hms, ← hr]
  rfl

end Probe

namespace Admin

/-- The body of a reset: its gates are pending, then the delay, the time, and what each gate has still to wait. -/
def Tells (delay : String) (targets : List Target) (body : String) : Prop :=
  ∃ (time : String) (ms : Target → Int),
    body = (Json.obj (targets.map (fun t => (t.name, .bool false)) ++ [("delay", .str delay), ("time", .str time)]
      ++ targets.map fun t => (t.name ++ "_in_ms", .int (ms t)))).toText Json.compact

theorem answer_ok (delay : String) {targets : List Target} {clock : Clock} (h : clock.now.InCalendar) {g : Gates}
    (hms : ∀ t ∈ targets, ∃ ms, (g.get t).remainingMs clock.monotonic = .ok ms) :
    ∃ r body, answer delay targets clock g = .ok r ∧ Tells delay targets body ∧ r.Says 200 body := by
  obtain ⟨time, htime, _⟩ := Probe.timeText_ok h
  choose! ms hms using hms
  have hremaining : (targets.mapM fun t => return (t.name ++ "_in_ms", Json.int (← Probe.remainingMs clock (g.get t))))
      = Except.ok (targets.map fun t => (t.name ++ "_in_ms", .int (ms t))) := by
    apply mapM_eq_map
    intro t ht
    rw [Probe.remainingMs_ok (hms t ht)]
    rfl
  obtain ⟨r, hr, hsaid⟩ := Probe.respond_ok 200 (targets.map (fun t => (t.name, Json.bool false))
    ++ [("delay", .str delay), ("time", .str time)] ++ targets.map fun t => (t.name ++ "_in_ms", .int (ms t)))
  refine ⟨r, _, ?_, ⟨time, ms, rfl⟩, hsaid⟩
  unfold answer
  rw [htime, hremaining, ← hr]
  rfl

end Admin
end Service
end Readiness
