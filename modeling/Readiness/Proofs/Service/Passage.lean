import Readiness.Service.App

/-!
This module contains the passing of time while a handler runs: which times pass, and that a handler which changes
nothing itself leaves the world as they do.
-/

namespace Readiness
namespace Service

namespace World

variable {σ : Type}

/-- Lets times pass one after another. -/
def advanceAll (w : World σ) (app : App σ) (times : List Int) : World σ :=
  times.foldl (fun w nanos => w.advance app nanos) w

theorem advanceAll_append (w : World σ) (app : App σ) (times times' : List Int) :
    w.advanceAll app (times ++ times') = (w.advanceAll app times).advanceAll app times' := by
  apply List.foldl_append

end World

namespace Exchange

variable {σ : Type} (tick : Clock → σ → σ)

/-- The times that pass before deliveries. -/
def delays (deliveries : List Delivery) : List Int :=
  deliveries.filterMap (·.delay)

/-- The deliveries of an inbox that are no longer in a later one. -/
def taken (before after : Exchange σ) : List Delivery :=
  before.inbox.take (before.inbox.length - after.inbox.length)

/-- The times that pass while an exchange listens. -/
def listening (ex : Exchange σ) : List Int :=
  match ex.inbox with
  | [] => []
  | d :: rest =>
    match (ex.receive tick d rest).2 with
    | .error _ => delays [d]
    | .ok _ => delays (d :: rest.take 1)

variable (app : App σ) (w : World σ)

theorem delays_cons (d : Delivery) (ds : List Delivery) : delays (d :: ds) = d.delay.toList ++ delays ds := by
  unfold delays
  cases hd : d.delay <;> simp [hd]

theorem delays_singleton (d : Delivery) : delays [d] = d.delay.toList := by
  rw [delays_cons, delays, List.filterMap_nil, List.append_nil]

theorem leave_await (ex : Exchange σ) (d : Delivery) :
    w.leave (ex.await app.tick d) = (w.leave ex).advanceAll app d.delay.toList := by
  unfold await
  cases d.delay <;> rfl

theorem leave_receive (ex : Exchange σ) (d : Delivery) (rest : List Delivery) :
    w.leave (ex.receive app.tick d rest).1 = (w.leave ex).advanceAll app d.delay.toList := by
  rw [← leave_await]
  rfl

theorem inbox_receive (ex : Exchange σ) (d : Delivery) (rest : List Delivery) :
    (ex.receive tick d rest).1.inbox = rest := rfl

theorem leave_go (ds : List Delivery) (ex : Exchange σ) (size : Nat) (h : ex.inbox = ds) :
    ∃ front, ds = front ++ (drain.go app.tick ex size ds).1.inbox
      ∧ w.leave (drain.go app.tick ex size ds).1 = (w.leave ex).advanceAll app (delays front) := by
  induction ds generalizing ex size with
  | nil =>
    refine ⟨[], ?_, rfl⟩
    rw [drain.go, h]
    rfl
  | cons d ds ih =>
    have hleave := leave_receive app w ex d ds
    have hinbox := inbox_receive app.tick ex d ds
    rw [drain.go]
    generalize ex.receive app.tick d ds = received at hleave hinbox ⊢
    -- the run ends with this delivery, unless more of the body can come
    have hend : ∃ front, d :: ds = front ++ received.1.inbox
        ∧ w.leave received.1 = (w.leave ex).advanceAll app (delays front) := by
      refine ⟨[d], ?_, ?_⟩
      . rw [hinbox]
        rfl
      . rw [hleave, delays_singleton]
    have hmore (size : Nat) : ∃ front, d :: ds = front ++ (drain.go app.tick received.1 size ds).1.inbox
        ∧ w.leave (drain.go app.tick received.1 size ds).1 = (w.leave ex).advanceAll app (delays front) := by
      obtain ⟨front, hfront, hgo⟩ := ih received.1 size hinbox
      refine ⟨d :: front, ?_, ?_⟩
      . rw [List.cons_append, ← hfront]
      . rw [hgo, hleave, delays_cons, World.advanceAll_append]
    obtain ⟨ex', result⟩ := received
    cases result with
    | error e => exact hend
    | ok m =>
      dsimp only
      split
      . split
        . exact hmore _
        . exact hend
      . exact hend
      . exact hmore _

theorem leave_drain (ex : Exchange σ) :
    w.leave (ex.drain app.tick).1 = (w.leave ex).advanceAll app (delays (ex.taken (ex.drain app.tick).1)) := by
  obtain ⟨front, hfront, hleave⟩ := leave_go app w ex.inbox ex 0 rfl
  unfold taken drain
  rw [hleave]
  generalize (drain.go app.tick ex 0 ex.inbox).1.inbox = rest at hfront
  simp [hfront]

theorem leave_listen (ex : Exchange σ) :
    w.leave (ex.listen app.tick).1 = (w.leave ex).advanceAll app (ex.listening app.tick) := by
  unfold listen listening
  cases hinbox : ex.inbox with
  | nil => rfl
  | cons d rest =>
    have hleave := leave_receive app w ex d rest
    dsimp only
    generalize ex.receive app.tick d rest = received at hleave ⊢
    obtain ⟨ex', result⟩ := received
    cases result with
    | error e =>
      dsimp only
      rw [hleave, delays_singleton]
    | ok m =>
      cases rest with
      | nil =>
        dsimp only
        rw [hleave, List.take_nil, delays_singleton]
      | cons next rest =>
        dsimp only at hleave ⊢
        rw [leave_await, hleave, ← World.advanceAll_append]
        rw [List.take_succ_cons, List.take_zero, delays_cons, delays_singleton]

end Exchange

namespace Handler

variable {σ : Type} (tick : Clock → σ → σ)

/-- The times that pass while a handler runs, in order. -/
def waits : Handler σ → Exchange σ → List Int
  | respond _, _ => []
  | fail _, _ => []
  | breakOff _ _, ex => ex.listening tick
  | drain next, ex =>
    let (ex', result) := ex.drain tick
    Exchange.delays (ex.taken ex') ++
      match result with
      | .ok size => (next size).waits ex'
      | .error _ => []
  | inspect next, ex => (next ex.clock ex.state).waits ex
  | modify f next, ex => next.waits { ex with state := f ex.clock ex.state }
  | wait nanos next, ex => nanos :: next.waits (ex.wait tick nanos)

/-- The handler leaves the state to the passing of time. -/
inductive Passive : Handler σ → Prop where
  | respond (r : Http.Response) : Passive (.respond r)
  | fail (f : Fault) : Passive (.fail f)
  | breakOff (r : Http.Response) (d : Defect) : Passive (.breakOff r d)
  | drain {next : Nat → Handler σ} (h : ∀ size, Passive (next size)) : Passive (.drain next)
  | inspect {next : Clock → σ → Handler σ} (h : ∀ clock s, Passive (next clock s)) : Passive (.inspect next)
  | wait (nanos : Int) {next : Handler σ} (h : Passive next) : Passive (.wait nanos next)

theorem passive_ofExcept (r : Except Defect Http.Response) : Passive (σ := σ) (ofExcept r) := by
  cases r with
  | ok r => exact .respond r
  | error d => exact .fail (.defect d)

theorem leave_run_of_passive {h : Handler σ} (hp : h.Passive) (app : App σ) (w : World σ) (ex : Exchange σ) :
    w.leave (h.run app.tick ex).1 = (w.leave ex).advanceAll app (h.waits app.tick ex) := by
  induction hp generalizing ex with
  | respond r => rfl
  | fail f => rfl
  | breakOff r d => exact Exchange.leave_listen app w ex
  | drain h ih =>
    rw [run, waits, World.advanceAll_append, ← Exchange.leave_drain]
    generalize ex.drain app.tick = drained
    obtain ⟨ex', result⟩ := drained
    cases result with
    | ok size => exact ih size ex'
    | error f => rfl
  | inspect h ih => exact ih ex.clock ex.state ex
  | wait nanos h ih => exact ih (ex.wait app.tick nanos)

end Handler
end Service
end Readiness
