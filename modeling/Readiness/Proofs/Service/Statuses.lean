import Readiness.Proofs.Service.Answering

/-!
This module contains the statuses that a handler can be answered with: those of the responses that it makes and of the
failures that ask for one, besides the two for a body that is too large and for a defect. An achieved gate gives 200, a
pending one 503, and a reset 200.
-/

namespace Readiness
namespace Service

open Http (Response)

variable {σ : Type}

namespace Exchange

theorem go_ne_status (tick : Clock → σ → σ) (ds : List Delivery) (ex : Exchange σ) (size : Nat) {f : Fault}
    (h : (drain.go tick ex size ds).2 = .error f) (status : Int) (headers : List Http.Header) (detail : String) :
    f ≠ .status status headers detail := by
  induction ds generalizing ex size with
  | nil =>
    cases h
    simp
  | cons d ds ih =>
    rw [drain.go] at h
    generalize ex.receive tick d ds = received at h
    obtain ⟨ex', result⟩ := received
    cases result with
    | error e =>
      cases h
      simp
    | ok m =>
      dsimp only at h
      split at h
      . split at h
        . exact ih ex' _ h
        . cases h
      . cases h
        simp
      . exact ih ex' _ h

/-- A body that cannot be read asks for no status of its own. -/
theorem drain_ne_status {tick : Clock → σ → σ} {ex : Exchange σ} {f : Fault} (h : (ex.drain tick).2 = .error f)
    (status : Int) (headers : List Http.Header) (detail : String) : f ≠ .status status headers detail := by
  apply go_ne_status tick _ _ _ h

end Exchange

namespace Handler

/-- The statuses of all responses, and those that failures ask for, are of one kind. -/
inductive Answers (p : Int → Prop) : Handler σ → Prop where
  | respond {r : Response} (h : p r.status) : Answers p (.respond r)
  | fail {f : Fault} (h : ∀ status headers detail, f = .status status headers detail → p status) : Answers p (.fail f)
  | breakOff {r : Response} (h : p r.status) (d : Defect) : Answers p (.breakOff r d)
  | drain {next : Nat → Handler σ} (h : ∀ size, Answers p (next size)) : Answers p (.drain next)
  | inspect {next : Clock → σ → Handler σ} (h : ∀ clock s, Answers p (next clock s)) : Answers p (.inspect next)
  | modify (f : Clock → σ → σ) {next : Handler σ} (h : Answers p next) : Answers p (.modify f next)
  | wait (nanos : Int) {next : Handler σ} (h : Answers p next) : Answers p (.wait nanos next)

theorem answers_ofExcept {p : Int → Prop} {x : Except Defect Response} (h : ∀ r, x = .ok r → p r.status) :
    Answers (σ := σ) p (ofExcept x) := by
  cases x with
  | ok r => exact .respond (h r rfl)
  | error d =>
    apply Answers.fail
    intro status headers detail hf
    cases hf

section

variable {p : Int → Prop} (hlarge : p 413) (hdefect : p 500)

include hdefect

theorem status_rendered {x : Except Http.RenderError Response} (h : ∀ r, x = .ok r → p r.status) :
    p (Ending.settle.rendered x).status := by
  cases x with
  | ok r => exact h r rfl
  | error e => exact hdefect

include hlarge

theorem status_settle_failed {f : Fault} (h : ∀ status headers detail, f = .status status headers detail → p status)
    (now : Instant) : p (Ending.settle now (.failed f)).status := by
  cases f with
  | status status headers detail =>
    apply status_rendered hdefect
    intro r hr
    rw [Response.status_error hr]
    exact h status headers detail rfl
  | tooLarge e =>
    apply status_rendered hdefect
    intro r hr
    rw [Response.status_error hr]
    exact hlarge
  | defect d => exact hdefect

/-- However the handler ends, it is answered with a status of the kind or with one of the two. -/
theorem status_settle_run {h : Handler σ} (ha : h.Answers p) (tick : Clock → σ → σ) (ex : Exchange σ) (now : Instant) :
    p ((h.run tick ex).2.settle now).status := by
  induction ha generalizing ex with
  | respond h => exact h
  | fail h => exact status_settle_failed hlarge hdefect h now
  | breakOff h d => exact h
  | drain h ih =>
    rw [run]
    cases hresult : ex.drain tick with
    | mk ex' result =>
      cases result with
      | ok size => exact ih size ex'
      | error f =>
        apply status_settle_failed hlarge hdefect
        intro status headers detail hf
        have hdrain : (ex.drain tick).2 = .error f := by
          rw [hresult]
        exact absurd hf (Exchange.drain_ne_status hdrain status headers detail)
  | inspect h ih => exact ih ex.clock ex.state ex
  | modify f h ih => exact ih { ex with state := f ex.clock ex.state }
  | wait nanos h ih => exact ih (ex.wait tick nanos)

end

end Handler

theorem Probe.status_respond {status : Int} {fields : List (String × Json)} {r : Response}
    (h : respond status fields = .ok r) : r.status = status := by
  exact Response.status_make (ok_of_mapError h)

theorem Probe.status_answer {id : Log.Identity} {t : Target} {clock : Clock} {g : Gate} {r : Response}
    (h : answer id t clock g = .ok r) : r.status = if g.achieved then 200 else 503 := by
  obtain ⟨time, _, h⟩ := exists_of_bind_ok h
  split at h
  . next hachieved =>
    rw [if_pos hachieved]
    exact status_respond h
  . next hpending =>
    rw [if_neg hpending]
    obtain ⟨ms, _, h⟩ := exists_of_bind_ok h
    exact status_respond h

theorem Admin.status_answer {delay : String} {targets : List Target} {clock : Clock} {g : Gates} {r : Response}
    (h : answer delay targets clock g = .ok r) : r.status = 200 := by
  obtain ⟨time, _, h⟩ := exists_of_bind_ok h
  obtain ⟨remaining, _, h⟩ := exists_of_bind_ok h
  exact Probe.status_respond h

end Service
end Readiness
