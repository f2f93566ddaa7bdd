import Readiness.Proofs.Service.Dispatch
import Readiness.Proofs.Service.Recovery

/-!
This module contains what the pipeline asks of applications: that the names of header fields are in lower case, as
servers ask for, and that the ids which clients choose for their requests are left alone. The service and the routes
that exercise the pipeline do both.
-/

namespace Readiness

namespace Http

/-- The fields without those of the given name, in any case. -/
def Header.others (name : String) (headers : List Header) : List Header :=
  headers.filter fun h => Text.lowerAscii h.name != name

theorem Header.last?_others {name other : String} (h : name ≠ other) (headers : List Header) :
    last? name (others other headers) = last? name headers := by
  have hnamed : named name (others other headers) = named name headers := by
    unfold named others
    rw [List.filter_filter]
    apply List.filter_congr
    intro f hf
    by_cases hname : Text.lowerAscii f.name = name
    . simp [hname, h]
    . simp [hname]
  rw [last?_eq, last?_eq, hnamed]

end Http

namespace Service

open Http (Header Response)

variable {σ : Type}

/-- The request without an id of the client's choice. -/
def Request.anonymized (r : Request) : Request :=
  { r with headers := Header.others "x-request-id" r.headers }

namespace Handler

/-- The field names of all responses are in lower case. -/
inductive SendsLower : Handler σ → Prop where
  | respond {r : Response} (h : r.IsLower) : SendsLower (.respond r)
  | fail (f : Fault) : SendsLower (.fail f)
  | breakOff {r : Response} (h : r.IsLower) (d : Defect) : SendsLower (.breakOff r d)
  | drain {next : Nat → Handler σ} (h : ∀ size, SendsLower (next size)) : SendsLower (.drain next)
  | inspect {next : Clock → σ → Handler σ} (h : ∀ clock s, SendsLower (next clock s)) : SendsLower (.inspect next)
  | modify (f : Clock → σ → σ) {next : Handler σ} (h : SendsLower next) : SendsLower (.modify f next)
  | wait (nanos : Int) {next : Handler σ} (h : SendsLower next) : SendsLower (.wait nanos next)

theorem sendsLower_ofExcept {x : Except Defect Response} (h : ∀ r, x = .ok r → r.IsLower) :
    SendsLower (σ := σ) (ofExcept x) := by
  cases x with
  | ok r => exact .respond (h r rfl)
  | error d => exact .fail (.defect d)

theorem isLower_run {h : Handler σ} (hl : h.SendsLower) (tick : Clock → σ → σ) (ex : Exchange σ) {a : Response}
    (ha : (h.run tick ex).2.answer? = some a) : a.IsLower := by
  induction hl generalizing ex with
  | respond h =>
    cases ha
    exact h
  | fail f => cases ha
  | breakOff h d =>
    cases ha
    exact h
  | drain h ih =>
    rw [run] at ha
    generalize ex.drain tick = drained at ha
    obtain ⟨ex', result⟩ := drained
    cases result with
    | ok size => exact ih size ex' ha
    | error f => cases ha
  | inspect h ih => exact ih ex.clock ex.state ex ha
  | modify f h ih => exact ih { ex with state := f ex.clock ex.state } ha
  | wait nanos h ih => exact ih (ex.wait tick nanos) ha

end Handler

/-- All responses of the application have field names in lower case. -/
def App.SendsLower (app : App σ) : Prop :=
  ∀ request ex a, ((app.handle request).run app.tick ex).2.answer? = some a → a.IsLower

/-- The application makes no use of the ids that clients choose. -/
def App.IgnoresIds (app : App σ) : Prop :=
  ∀ request, app.handle request.anonymized = app.handle request

namespace Route

/-- The route has field names in lower case and makes no use of the ids that clients choose. -/
structure Conforms (r : Route σ) : Prop where
  lower : ∀ parameter request, (r.handle parameter request).SendsLower
  anonymous : ∀ parameter request, r.handle parameter request.anonymized = r.handle parameter request

variable {routes : List (Route σ)} (h : ∀ r ∈ routes, r.Conforms)

include h

theorem sendsLower_dispatch (request : Request) : (dispatch routes request).SendsLower := by
  rcases dispatch_cases routes request with ⟨r, hr, parameter, _, hd⟩ | ⟨f, hf⟩
  . rw [hd]
    exact (h r hr).lower parameter request
  . rw [hf]
    exact .fail f

theorem dispatch_anonymized (request : Request) : dispatch routes request.anonymized = dispatch routes request := by
  have hfind : (routes.findSome? fun r => (r.parameter? request.anonymized).map fun parameter => (r, parameter))
      = routes.findSome? fun r => (r.parameter? request).map fun parameter => (r, parameter) := rfl
  unfold dispatch
  rw [hfind]
  cases hfound : routes.findSome? fun r => (r.parameter? request).map fun parameter => (r, parameter) with
  | none => rfl
  | some found =>
    obtain ⟨q, hq, hp⟩ := List.exists_of_findSome?_eq_some hfound
    obtain ⟨parameter, _, rfl⟩ := Option.map_eq_some_iff.mp hp
    exact (h q hq).anonymous parameter request

end Route

theorem sendsLower_manual (mediaType body : String) : (Manual.respond (σ := σ) mediaType body).SendsLower := by
  apply Handler.sendsLower_ofExcept
  intro r hr
  exact Response.isLower_make (ok_of_mapError hr)

theorem conforms_manual {id : Log.Identity} {described : List (Route σ)} {r : Route σ}
    (h : r ∈ Manual.routes id described) : r.Conforms := by
  have hroute (path mediaType body : String) : (Manual.route (σ := σ) path mediaType body).Conforms :=
    ⟨fun _ _ => sendsLower_manual _ _, fun _ _ => rfl⟩
  simp only [Manual.routes, List.mem_cons, List.not_mem_nil, or_false] at h
  rcases h with rfl | rfl | rfl <;> apply hroute

theorem isLower_respond {status : Int} {fields : List (String × Json)} {r : Response}
    (h : Probe.respond status fields = .ok r) : r.IsLower :=
  Response.isLower_make (ok_of_mapError h)

theorem conforms_probe {id : Log.Identity} {r : Route Gates} (h : r ∈ Probe.routes id) : r.Conforms := by
  have hroute (target : Target) (summary : String) : (Probe.route id target summary).Conforms := by
    refine ⟨?_, fun _ _ => rfl⟩
    intro _ _
    apply Handler.SendsLower.inspect
    intro clock g
    apply Handler.sendsLower_ofExcept
    intro r hr
    obtain ⟨time, _, hr⟩ := exists_of_bind_ok hr
    dsimp only at hr
    split at hr
    . exact isLower_respond hr
    . obtain ⟨ms, _, hr⟩ := exists_of_bind_ok hr
      exact isLower_respond hr
  simp only [Probe.routes, List.mem_cons, List.not_mem_nil, or_false] at h
  rcases h with rfl | rfl <;> apply hroute

theorem conforms_admin {delay : String} {r : Route Gates} (h : r ∈ Admin.routes delay) : r.Conforms := by
  have hroute (path summary : String) (targets : List Target) :
      (Admin.route delay path summary targets).Conforms := by
    refine ⟨?_, fun _ _ => rfl⟩
    intro _ _
    apply Handler.SendsLower.drain
    intro _
    apply Handler.SendsLower.modify
    apply Handler.SendsLower.inspect
    intro clock g
    apply Handler.sendsLower_ofExcept
    intro r hr
    obtain ⟨time, _, hr⟩ := exists_of_bind_ok hr
    obtain ⟨remaining, _, hr⟩ := exists_of_bind_ok hr
    exact isLower_respond hr
  simp only [Admin.routes, List.mem_cons, List.not_mem_nil, or_false] at h
  rcases h with rfl | rfl | rfl <;> apply hroute

theorem sendsLower_exercise (mediaType name : String) (value : Json) :
    (Exercise.respond (σ := σ) mediaType name value).SendsLower := by
  apply Handler.sendsLower_ofExcept
  intro r hr
  exact Response.isLower_make (ok_of_mapError hr)

theorem conforms_exercise {mediaType : String} {r : Route σ} (h : r ∈ Exercise.routes mediaType) : r.Conforms := by
  have hinteger (parameter : String) {next : Int → Handler σ} (hnext : ∀ n, (next n).SendsLower) :
      (Exercise.withInteger parameter next).SendsLower := by
    unfold Exercise.withInteger
    split
    . apply hnext
    . apply Handler.SendsLower.fail
  have hpartial : Exercise.partialResponse.IsLower := by
    show ∀ f ∈ [Header.mk _ _], f.IsLower
    rw [List.forall_mem_singleton]
    show Text.lowerAscii "content-type" = "content-type"
    decide +kernel
  simp only [Exercise.routes, List.mem_cons, List.not_mem_nil, or_false] at h
  rcases h with rfl | rfl | rfl | rfl | rfl | rfl
  . exact ⟨fun _ _ => sendsLower_exercise _ _ _, fun _ _ => rfl⟩
  . exact ⟨fun _ _ => .fail _, fun _ _ => rfl⟩
  . exact ⟨fun _ _ => .drain fun _ => sendsLower_exercise _ _ _, fun _ _ => rfl⟩
  . exact ⟨fun _ _ => hinteger _ fun _ => .fail _, fun _ _ => rfl⟩
  . exact ⟨fun _ _ => hinteger _ fun _ => .wait _ (sendsLower_exercise _ _ _), fun _ _ => rfl⟩
  . exact ⟨fun _ _ => .breakOff hpartial _, fun _ _ => rfl⟩

theorem conforms_routes (s : Service) {r : Route Gates} (h : r ∈ s.routes) : r.Conforms := by
  unfold routes at h
  simp only [List.mem_append] at h
  rcases h with h | (h | h) | h
  . split at h
    . exact conforms_manual h
    . cases h
  . exact conforms_probe h
  . exact conforms_admin h
  . split at h
    . exact conforms_exercise h
    . cases h

theorem sendsLower_app (s : Service) : s.app.SendsLower := by
  intro request ex a ha
  exact Handler.isLower_run (Route.sendsLower_dispatch (fun _ => conforms_routes s) request) s.app.tick ex ha

theorem ignoresIds_app (s : Service) : s.app.IgnoresIds :=
  Route.dispatch_anonymized fun _ => conforms_routes s

end Service
end Readiness
