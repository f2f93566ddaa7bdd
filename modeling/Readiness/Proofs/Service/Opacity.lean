import Readiness.Proofs.Json.RoundTrip
import Readiness.Proofs.Service.Recovery
import Readiness.Proofs.Service.Traffic

/-!
This module contains what clients can tell of the defects of an application, which is nothing: applications that differ
only in what they fail with give the same answers, to the request that fails and to all that follow it.
-/

namespace Readiness
namespace Service

open Http (Header Response)

/-- The faults differ at most in what clients are not told. -/
inductive Fault.Alike : Fault → Fault → Prop where
  | status (status : Int) (headers : List Header) (detail₁ detail₂ : String) :
    Alike (.status status headers detail₁) (.status status headers detail₂)
  | tooLarge (e₁ e₂ : Http.TooLarge) : Alike (.tooLarge e₁) (.tooLarge e₂)
  | defect (d₁ d₂ : Defect) : Alike (.defect d₁) (.defect d₂)

theorem Fault.Alike.refl (f : Fault) : f.Alike f := by
  cases f with
  | status status headers detail => exact .status status headers detail detail
  | tooLarge e => exact .tooLarge e e
  | defect d => exact .defect d d

/-- The fault with everything left out that clients are not told. -/
def Fault.redacted : Fault → Fault
  | .status code headers _ => .status code headers ""
  | .tooLarge e => .tooLarge e
  | .defect _ => .defect (.internal "")

theorem Fault.alike_redacted (f : Fault) : f.Alike f.redacted := by
  cases f with
  | status status headers detail => exact .status status headers detail ""
  | tooLarge e => exact .tooLarge e e
  | defect d => exact .defect d (.internal "")

namespace Ending

/-- The endings differ at most in what clients are not told. -/
inductive Alike : Ending Fault → Ending Fault → Prop where
  | response (r : Response) : Alike (.response r) (.response r)
  | failed {f₁ f₂ : Fault} (h : f₁.Alike f₂) : Alike (.failed f₁) (.failed f₂)
  | broken (r : Response) (d₁ d₂ : Defect) : Alike (.broken r d₁) (.broken r d₂)

theorem Alike.refl (e : Ending Fault) : e.Alike e := by
  cases e with
  | response r => exact .response r
  | failed f => exact .failed (.refl f)
  | broken r d => exact .broken r d d

theorem answer?_settle_of_alike {e₁ e₂ : Ending Fault} (h : e₁.Alike e₂) (now : Instant) :
    (e₁.settle now).answer? = (e₂.settle now).answer? := by
  cases h with
  | response r => rfl
  | failed h => cases h <;> rfl
  | broken r d₁ d₂ => rfl

end Ending

variable {σ : Type}

/--
The applications differ at most in what they fail with: on every request both take the same time and leave the same
state.
-/
structure App.Alike (app₁ app₂ : App σ) : Prop where
  tick : app₁.tick = app₂.tick
  clock : ∀ request ex,
    ((app₁.handle request).run app₁.tick ex).1.clock = ((app₂.handle request).run app₂.tick ex).1.clock
  state : ∀ request ex,
    ((app₁.handle request).run app₁.tick ex).1.state = ((app₂.handle request).run app₂.tick ex).1.state
  ending : ∀ request ex,
    ((app₁.handle request).run app₁.tick ex).2.Alike ((app₂.handle request).run app₂.tick ex).2

namespace Handler

/-- The handler with other faults in place of its own. -/
def retell (f : Fault → Fault) : Handler σ → Handler σ
  | respond r => respond r
  | fail x => fail (f x)
  | breakOff r d => breakOff r d
  | drain next => drain fun size => (next size).retell f
  | inspect next => inspect fun clock s => (next clock s).retell f
  | modify g next => modify g (next.retell f)
  | wait nanos next => wait nanos (next.retell f)

theorem run_retell {f : Fault → Fault} (hf : ∀ x, Fault.Alike x (f x)) (tick : Clock → σ → σ) (h : Handler σ)
    (ex : Exchange σ) :
    ((h.retell f).run tick ex).1 = (h.run tick ex).1 ∧ (h.run tick ex).2.Alike ((h.retell f).run tick ex).2 := by
  induction h generalizing ex with
  | respond r => exact ⟨rfl, .response r⟩
  | fail x => exact ⟨rfl, .failed (hf x)⟩
  | breakOff r d => exact ⟨rfl, .refl _⟩
  | drain next ih =>
    rw [retell, run, run]
    generalize ex.drain tick = drained
    obtain ⟨ex', result⟩ := drained
    cases result with
    | ok size => exact ih size ex'
    | error x => exact ⟨rfl, .refl _⟩
  | inspect next ih => exact ih ex.clock ex.state ex
  | modify g next ih => exact ih { ex with state := g ex.clock ex.state }
  | wait nanos next ih => exact ih (ex.wait tick nanos)

end Handler

/-- The application with other faults in place of its own. -/
def App.retell (app : App σ) (f : Fault → Fault) : App σ where
  tick := app.tick
  handle request := (app.handle request).retell f

theorem App.alike_retell (app : App σ) {f : Fault → Fault} (hf : ∀ x, Fault.Alike x (f x)) :
    app.Alike (app.retell f) where
  tick := rfl
  clock request ex := congrArg Exchange.clock (Handler.run_retell hf app.tick (app.handle request) ex).1.symm
  state request ex := congrArg Exchange.state (Handler.run_retell hf app.tick (app.handle request) ex).1.symm
  ending request ex := (Handler.run_retell hf app.tick (app.handle request) ex).2

namespace Pipeline

theorem recover_of_failed (d₁ d₂ : Defect) (call : Call) (id : String) (now : Instant) :
    (recover call id now (.failed d₁)).1 = (recover call id now (.failed d₂)).1 := by
  unfold recover
  cases Text.checkUtf8 call.query with
  | error e => rfl
  | ok u =>
    cases Response.error 500 (Http.errorCode 500) id [] now with
    | error e => rfl
    | ok r => rfl

theorem recover_of_answer? {e₁ e₂ : Ending Defect} (h : e₁.answer? = e₂.answer?) (call : Call) (id : String)
    (now : Instant) : (recover call id now e₁).1 = (recover call id now e₂).1 := by
  -- a response is given its id whether or not a defect came after it
  have hanswer (e : Ending Defect) {a : Response} (ha : e.answer? = some a) :
      (recover call id now e).1 = some (tag id a) := by
    cases e <;> cases ha <;> rfl
  cases h₁ : e₁.answer? with
  | some a => rw [hanswer e₁ h₁, hanswer e₂ (h ▸ h₁)]
  | none =>
    cases e₁ with
    | response a => cases h₁
    | broken a d => cases h₁
    | failed d₁ =>
      cases e₂ with
      | response a => cases h
      | broken a d => cases h
      | failed d₂ => exact recover_of_failed d₁ d₂ call id now

variable (p : Pipeline) {app₁ app₂ : App σ} (h : app₁.Alike app₂)

include h

theorem world_serve_of_alike (w : World σ) (call : Call) :
    (p.serve app₁ w call).world = (p.serve app₂ w call).world := by
  have hclock : (p.outcome app₁ w call).1.clock = (p.outcome app₂ w call).1.clock := h.clock _ _
  have hstate : (p.outcome app₁ w call).1.state = (p.outcome app₂ w call).1.state := h.state _ _
  rw [world_serve, world_serve]
  unfold World.leave
  rw [hclock, hstate]

theorem response_serve_of_alike (w : World σ) (call : Call) :
    (p.serve app₁ w call).response = (p.serve app₂ w call).response := by
  have hending : (p.outcome app₁ w call).2.Alike (p.outcome app₂ w call).2 := h.ending _ _
  rw [response_serve, response_serve, recovery_eq, recovery_eq, p.world_serve_of_alike h]
  congr 1
  apply recover_of_answer?
  unfold settled
  rw [p.world_serve_of_alike h]
  apply Ending.answer?_settle_of_alike hending

theorem run_of_alike (w : World σ) (events : List Event) : p.run app₁ w events = p.run app₂ w events := by
  apply run_eq
  intro w event
  cases event with
  | call call => exact p.world_serve_of_alike h w call
  | pause nanos =>
    show w.advance app₁ nanos = w.advance app₂ nanos
    unfold World.advance
    rw [h.tick]

omit h

theorem requestId_ne_empty (hp : ∀ n, (p.draw n).length = RequestId.entropy) (w : World σ) : p.requestId w ≠ "" := by
  apply RequestId.ofBytes_ne_empty
  intro hempty
  have := hp (w.draws + 1)
  rw [hempty] at this
  cases this

theorem response_serve_of_defect (hp : ∀ n, (p.draw n).length = RequestId.entropy) {app : App σ} {w : World σ}
    {call : Call} {d : Defect} (h : (p.outcome app w call).2 = .failed (.defect d))
    (hquery : Text.checkUtf8 call.query = .ok ()) {time : String}
    (ht : (p.serve app w call).world.clock.now.text = .ok time) :
    (p.serve app w call).response = Response.internalError (p.requestId w) time := by
  have hsettled : p.settled app w call = .failed d := by
    unfold settled
    rw [h]
    rfl
  have hrecovery := recovery_eq p app w call
  have herror := Response.error_internal ht (p.requestId_ne_empty hp w) (p.checkLatin1_requestId w)
  rw [hsettled, recover_of_ok hquery herror] at hrecovery
  rw [(serve_of_recovery hrecovery).1]
  rfl

/--
What an application fails with makes no difference to any answer: not to that of the request that fails, which is the
opaque one with the id of the request unless the address has no text, and to none after it.
-/
theorem defects_opaque (hp : ∀ n, (p.draw n).length = RequestId.entropy) {app₁ app₂ : App σ} (h : app₁.Alike app₂)
    (w : World σ) (call : Call) :
    let r₁ := p.serve app₁ w call
    let r₂ := p.serve app₂ w call
    r₁.response = r₂.response
      ∧ (∀ events next,
          (p.serve app₁ (p.run app₁ r₁.world events) next).response
            = (p.serve app₂ (p.run app₂ r₂.world events) next).response)
      ∧ ∀ d, (p.outcome app₁ w call).2 = .failed (.defect d) → r₁.world.clock.now.InCalendar →
          (Text.checkUtf8 call.query = .ok () → ∃ time, r₁.world.clock.now.text = .ok time
              ∧ r₁.response = Response.internalError (p.requestId w) time
              ∧ Json.parse? r₁.response.body = some (.obj [("error", .str "internal_error"), ("time", .str time)]))
            ∧ ∀ e, Text.checkUtf8 call.query = .error e → r₁.response = plainError := by
  intro r₁ r₂
  refine ⟨p.response_serve_of_alike h w call, ?_, ?_⟩
  . intro events next
    have hworld : r₁.world = r₂.world := p.world_serve_of_alike h w call
    rw [hworld, p.run_of_alike h]
    exact p.response_serve_of_alike h _ next
  . intro d hd hnow
    refine ⟨?_, ?_⟩
    . intro hquery
      obtain ⟨time, ht⟩ := Instant.exists_text hnow
      have hresponse := p.response_serve_of_defect hp hd hquery ht
      refine ⟨time, ht, hresponse, ?_⟩
      rw [hresponse]
      exact Json.parse?_toText Json.standard_compact rfl
    . intro e hquery
      have hsettled : p.settled app₁ w call = .failed d := congrArg (Ending.settle _) hd
      exact (escaped_of_query hsettled hquery).1.response

/-- The routes that exercise a pipeline answer as they would if their faults said nothing. -/
theorem defects_opaque_redacted :
    let p : Pipeline := ⟨0, fun _ => List.replicate RequestId.entropy 0⟩
    let w : World Unit := ⟨⟨0, 0⟩, 0, ()⟩
    let call (path : String) : Call :=
      { method := "GET", path, query := [], headers := [], peer := .unknown, deliveries := [] }
    let app := Exercise.app
    let app' := Exercise.app.retell Fault.redacted
    let id := "AAAAAAAAAAAAAAAAAAAAAAAA"
    (p.outcome app w (call "/boom")).2 = .failed (.defect (.internal "secret internal detail"))
      ∧ (p.outcome app' w (call "/boom")).2 = .failed (.defect (.internal ""))
      ∧ (p.serve app w (call "/boom")).response = Response.internalError id "1970-01-01T00:00:00Z"
      ∧ (p.serve app' w (call "/boom")).response = Response.internalError id "1970-01-01T00:00:00Z"
      ∧ (p.serve app (p.serve app w (call "/raise/418")).world (call "/ok")).response
          = (p.serve app' (p.serve app' w (call "/raise/418")).world (call "/ok")).response := by
  intro p w call app app' id
  have hp : ∀ n, (p.draw n).length = RequestId.entropy := fun n => List.length_replicate
  have halike : app.Alike app' := App.alike_retell Exercise.app Fault.alike_redacted
  have hboom : (p.outcome app w (call "/boom")).2 = .failed (.defect (.internal "secret internal detail")) := by
    decide +kernel
  have hredacted : (p.outcome app' w (call "/boom")).2 = .failed (.defect (.internal "")) := by decide +kernel
  obtain ⟨hsame, _, hanswer⟩ := p.defects_opaque hp halike w (call "/boom")
  obtain ⟨_, hlater, _⟩ := p.defects_opaque hp halike w (call "/raise/418")
  obtain ⟨time, ht, hresponse, _⟩ := (hanswer _ hboom (by decide +kernel)).1 (by decide +kernel)
  have hid : p.requestId w = id := by decide +kernel
  have htime : (p.serve app w (call "/boom")).world.clock.now.text = .ok "1970-01-01T00:00:00Z" := by decide +kernel
  rw [htime, Except.ok.injEq] at ht
  rw [hid, ← ht] at hresponse
  exact ⟨hboom, hredacted, hresponse, hsame ▸ hresponse, hlater [] (call "/ok")⟩

/-- Under an address without a text the answer to a defect is no JSON and has no id. -/
theorem defect_unanswered_without_address :
    let p : Pipeline := ⟨0, fun _ => List.replicate RequestId.entropy 0⟩
    let w : World Unit := ⟨⟨0, 0⟩, 0, ()⟩
    let call : Call :=
      { method := "GET", path := "/boom", query := [0xE9], headers := [], peer := .unknown, deliveries := [] }
    let r := p.serve Exercise.app w call
    r.world.clock.now.InCalendar ∧ r.response.body = "Internal Server Error"
      ∧ Header.named "x-request-id" r.response.headers = [] := by
  decide +kernel

end Pipeline

end Service
end Readiness
