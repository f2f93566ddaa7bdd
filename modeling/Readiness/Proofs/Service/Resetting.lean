import Readiness.Proofs.Gate.Passing
import Readiness.Proofs.Gate.Remaining
import Readiness.Proofs.Service.Answering
import Readiness.Proofs.Service.Body
import Readiness.Proofs.Service.Dispatch

/-!
This module contains what a request does to the gates: time passes for all of them, and at the end those are reset
that it names, if its body arrives and is within the limit.
-/

namespace Readiness
namespace Service

namespace Gates

theorem get_tick (clock : Clock) (g : Gates) (t : Target) :
    (g.tick clock).get t = (g.get t).fireDue clock.monotonic := by
  cases t <;> rfl

theorem get_reset (clock : Clock) (g : Gates) (t u : Target) :
    (g.reset clock u).get t = if t = u then (g.get t).reset clock.monotonic else g.get t := by
  cases t <;> cases u <;> rfl

theorem get_foldl_reset {targets : List Target} (h : targets.Nodup) (clock : Clock) (g : Gates) (t : Target) :
    (targets.foldl (reset clock) g).get t =
      if t ∈ targets then (g.get t).reset clock.monotonic else g.get t := by
  -- no gate is reset twice, so each is reset as it would be on its own
  induction targets generalizing g with
  | nil => rfl
  | cons u targets ih =>
    rw [List.nodup_cons] at h
    rw [List.foldl_cons, ih h.2, get_reset]
    by_cases htu : t = u
    . subst htu
      simp [h.1]
    . simp [htu]

end Gates

namespace World

theorem clock_advanceAll {σ : Type} (app : App σ) (times : List Int) (w : World σ) :
    (w.advanceAll app times).clock = w.clock.advance times.sum := by
  induction times generalizing w with
  | nil => exact w.clock.advance_zero.symm
  | cons t times ih =>
    rw [List.sum_cons, ← Clock.advance_advance]
    exact ih _

theorem get_advanceAll (s : Service) (times : List Int) (w : World Gates) (t : Target) :
    (w.advanceAll s.app times).state.get t = (w.state.get t).pass (w.clock.readings times) := by
  induction times generalizing w with
  | nil => rfl
  | cons nanos times ih =>
    have : (w.advance s.app nanos).state.get t = (w.state.get t).fireDue (w.clock.advance nanos).monotonic :=
      Gates.get_tick _ _ t
    refine (ih (w.advance s.app nanos)).trans ?_
    rw [this]
    rfl

/-- Resets gates, one after another. -/
def reset (w : World Gates) (targets : List Target) : World Gates :=
  { w with state := targets.foldl (Gates.reset w.clock) w.state }

end World

/-- The gates that a call resets: those it asks for, if its body arrives and is within the limit. -/
def resets (limit : Int) (call : Call) : List Target :=
  if complete call.deliveries ∧ ¬ Exceeds limit call.deliveries then
    (resetTargets? call.method call.path).getD []
  else
    []

theorem resets_eq {limit : Int} {call : Call} {targets : List Target}
    (h : resetTargets? call.method call.path = some targets) (hcomplete : complete call.deliveries = true)
    (hlimit : ¬ Exceeds limit call.deliveries) : resets limit call = targets := by
  unfold resets
  rw [if_pos ⟨hcomplete, hlimit⟩, h]
  rfl

theorem resets_eq_nil {limit : Int} {call : Call}
    (h : resetTargets? call.method call.path = none ∨ complete call.deliveries = false
      ∨ Exceeds limit call.deliveries) :
    resets limit call = [] := by
  unfold resets
  split
  . next hwhole =>
    rcases h with hnone | hcut | ho
    . rw [hnone]
      rfl
    . rw [hwhole.1] at hcut
      cases hcut
    . exact absurd ho hwhole.2
  . rfl

theorem nodup_of_resetTargets? {method path : String} {targets : List Target}
    (h : resetTargets? method path = some targets) : targets.Nodup := by
  unfold resetTargets? at h
  split at h
  . obtain ⟨e, he, rfl⟩ := Option.map_eq_some_iff.mp h
    have hmem := List.mem_of_find?_eq_some he
    simp only [resetPaths, List.mem_cons, List.not_mem_nil, or_false] at hmem
    rcases hmem with rfl | rfl | rfl <;> decide
  . cases h

theorem nodup_resets (limit : Int) (call : Call) : (resets limit call).Nodup := by
  unfold resets
  split
  . cases h : resetTargets? call.method call.path with
    | none => exact List.nodup_nil
    | some targets => exact nodup_of_resetTargets? h
  . apply List.nodup_nil

namespace Handler

variable {σ : Type} (tick : Clock → σ → σ)

theorem run_ofExcept (r : Except Defect Http.Response) (ex : Exchange σ) : ((ofExcept r).run tick ex).1 = ex := by
  cases r <;> rfl

theorem ending_ofExcept {r : Except Defect Http.Response} {resp : Http.Response} (h : r = .ok resp) (ex : Exchange σ) :
    ((ofExcept r).run tick ex).2 = .response resp := by
  rw [h]
  rfl

theorem waits_ofExcept (r : Except Defect Http.Response) (ex : Exchange σ) : (ofExcept r).waits tick ex = [] := by
  cases r <;> rfl

end Handler

namespace Admin

variable (s : Service) (delay : String) (targets : List Target) (ex : Exchange Gates)

/-- The exchange in which the gates were reset. -/
def resetAll (ex : Exchange Gates) : Exchange Gates :=
  { ex with state := targets.foldl (Gates.reset ex.clock) ex.state }

theorem run_reset_of_error {f : Fault} (h : (ex.drain s.app.tick).2 = .error f) :
    (reset delay targets).run s.app.tick ex = ((ex.drain s.app.tick).1, .failed f)
      ∧ (reset delay targets).waits s.app.tick ex = Exchange.delays (ex.taken (ex.drain s.app.tick).1) := by
  unfold reset
  rw [Handler.run, Handler.waits]
  generalize ex.drain s.app.tick = drained at h
  obtain ⟨ex', result⟩ := drained
  dsimp only at h
  subst h
  exact ⟨rfl, List.append_nil _⟩

theorem run_reset_of_ok {size : Nat} (h : (ex.drain s.app.tick).2 = .ok size) :
    let ex' := resetAll targets (ex.drain s.app.tick).1
    (reset delay targets).run s.app.tick ex
        = (Handler.ofExcept (answer delay targets ex'.clock ex'.state)).run s.app.tick ex'
      ∧ (reset delay targets).waits s.app.tick ex = Exchange.delays (ex.taken (ex.drain s.app.tick).1) := by
  unfold reset
  rw [Handler.run, Handler.waits]
  generalize ex.drain s.app.tick = drained at h
  obtain ⟨ex', result⟩ := drained
  dsimp only at h
  subst h
  dsimp only
  refine ⟨rfl, ?_⟩
  rw [Handler.waits, Handler.waits, Handler.waits_ofExcept, List.append_nil]

end Admin

variable (s : Service) (draw : Nat → List UInt8) (w : World Gates) (call : Call)

/-- The exchange in which a call is handled. -/
def exchange : Exchange Gates :=
  (s.pipeline draw).exchange w call

/-- The times that pass while a call is served. -/
def waits : List Int :=
  ((s.pipeline draw).handler s.app w call).waits s.app.tick (s.exchange draw w call)

theorem exceeds_iff : Over (s.exchange draw w call).meter (bodySize call.deliveries) ↔
    Exceeds s.settings.maxBodyBytes call.deliveries := by
  apply over_meter?_iff

theorem reads_exchange :
    Exchange.Reads (s.exchange draw w call) 0 call.deliveries ((s.exchange draw w call).drain s.app.tick) := by
  apply Exchange.reads_drain
  apply not_over_meter?_zero

/-- The world in which a call is answered. -/
def drawn (w : World Gates) : World Gates :=
  { w with draws := w.draws + 1 }

theorem leave_exchange : (drawn w).leave (s.exchange draw w call) = drawn w := rfl

theorem world_serve_eq_leave :
    (s.serve draw w call).world = (drawn w).leave ((s.pipeline draw).outcome s.app w call).1 := rfl

theorem status_serve :
    (s.serve draw w call).response.status =
      (((s.pipeline draw).outcome s.app w call).2.settle (s.serve draw w call).world.clock.now).status := by
  apply Pipeline.status_serve

theorem world_serve_of_passive (h : resetTargets? call.method call.path = none) :
    (s.serve draw w call).world = (drawn w).advanceAll s.app (s.waits draw w call) := by
  have hp : ((s.pipeline draw).handler s.app w call).Passive := passive_of_resetTargets? s h
  rw [world_serve_eq_leave]
  apply Handler.leave_run_of_passive hp s.app (drawn w) (s.exchange draw w call)

section Asked

variable {call} {targets : List Target} (h : resetTargets? call.method call.path = some targets)

include h

theorem handler_of_asked : (s.pipeline draw).handler s.app w call = Admin.reset s.delayText targets := by
  apply handle_of_resetTargets? s h

theorem outcome_of_asked :
    (s.pipeline draw).outcome s.app w call
      = (Admin.reset s.delayText targets).run s.app.tick (s.exchange draw w call) := by
  unfold Pipeline.outcome
  rw [handler_of_asked s draw w h]
  rfl

theorem waits_of_asked :
    s.waits draw w call = (Admin.reset s.delayText targets).waits s.app.tick (s.exchange draw w call) := by
  unfold waits
  rw [handler_of_asked s draw w h]

theorem serve_of_error {f : Fault} (hf : ((s.exchange draw w call).drain s.app.tick).2 = .error f) :
    (s.serve draw w call).world = (drawn w).advanceAll s.app (s.waits draw w call)
      ∧ ((s.pipeline draw).outcome s.app w call).2 = .failed f := by
  obtain ⟨hrun, hwaits⟩ := Admin.run_reset_of_error s s.delayText targets (s.exchange draw w call) hf
  rw [world_serve_eq_leave, outcome_of_asked s draw w h, waits_of_asked s draw w h, hrun, hwaits]
  exact ⟨Exchange.leave_drain s.app (drawn w) (s.exchange draw w call), rfl⟩

theorem serve_of_ok {size : Nat} (hsize : ((s.exchange draw w call).drain s.app.tick).2 = .ok size) :
    let w' := ((drawn w).advanceAll s.app (s.waits draw w call)).reset targets
    (s.serve draw w call).world = w'
      ∧ ∀ r, Admin.answer s.delayText targets w'.clock w'.state = .ok r →
          ((s.pipeline draw).outcome s.app w call).2 = .response r := by
  obtain ⟨hrun, hwaits⟩ := Admin.run_reset_of_ok s s.delayText targets (s.exchange draw w call) hsize
  have hleave := Exchange.leave_drain s.app (drawn w) (s.exchange draw w call)
  rw [leave_exchange, ← hwaits, ← waits_of_asked s draw w h] at hleave
  have hworld : (s.serve draw w call).world = ((drawn w).advanceAll s.app (s.waits draw w call)).reset targets := by
    rw [world_serve_eq_leave, outcome_of_asked s draw w h, hrun, Handler.run_ofExcept, ← hleave]
    rfl
  refine ⟨hworld, ?_⟩
  intro r hr
  rw [← hleave] at hr
  rw [outcome_of_asked s draw w h, hrun]
  apply Handler.ending_ofExcept s.app.tick hr _

theorem waits_of_complete (hcomplete : complete call.deliveries = true)
    (hlimit : ¬ Exceeds s.settings.maxBodyBytes call.deliveries) :
    s.waits draw w call = Exchange.delays (arriving call.deliveries) := by
  have hreads := reads_exchange s draw w call
  rw [← exceeds_iff s draw w call] at hlimit
  obtain ⟨hok, hinbox⟩ := hreads.whole hlimit hcomplete
  obtain ⟨_, hwaits⟩ := Admin.run_reset_of_ok s s.delayText targets (s.exchange draw w call) hok
  rw [waits_of_asked s draw w h, hwaits]
  congr 1
  unfold Exchange.taken
  have : (s.exchange draw w call).inbox = call.deliveries := rfl
  rw [this]
  generalize ((s.exchange draw w call).drain s.app.tick).1.inbox = rest at hinbox
  generalize arriving call.deliveries = front at hinbox
  rw [hinbox]
  simp

end Asked

end Service
end Readiness
