import Readiness.Proofs.Service.Passage
import Readiness.Service.Basic

/-!
This module contains the dispatch of the service's requests: the routes that reset gates answer three paths, every other
route leaves the gates to the passing of time, and the probes answer one path each.
-/

namespace Readiness
namespace Service

namespace Route

variable {σ : Type}

theorem dispatch_cases (routes : List (Route σ)) (request : Request) :
    (∃ r ∈ routes, ∃ p, r.parameter? request = some p ∧ dispatch routes request = r.handle p request)
      ∨ ∃ f, dispatch routes request = .fail f := by
  unfold dispatch
  split
  . next r p hfind =>
    apply Or.inl
    obtain ⟨q, hq, hp⟩ := List.exists_of_findSome?_eq_some hfind
    simp only [Option.map_eq_some_iff, Prod.mk.injEq] at hp
    obtain ⟨p', hp', rfl, rfl⟩ := hp
    exact ⟨q, hq, p', hp', rfl⟩
  . apply Or.inr
    split <;> exact ⟨_, rfl⟩

theorem dispatch_eq {routes : List (Route σ)} {request : Request} {h : Handler σ}
    (hsome : ∃ r ∈ routes, r.parameter? request ≠ none)
    (hall : ∀ r ∈ routes, ∀ p, r.parameter? request = some p → r.handle p request = h) :
    dispatch routes request = h := by
  unfold dispatch
  split
  . next r p hfind =>
    obtain ⟨q, hq, hp⟩ := List.exists_of_findSome?_eq_some hfind
    simp only [Option.map_eq_some_iff, Prod.mk.injEq] at hp
    obtain ⟨p', hp', rfl, rfl⟩ := hp
    exact hall q hq p' hp'
  . next hfind =>
    obtain ⟨r, hr, hp⟩ := hsome
    rw [List.findSome?_eq_none_iff] at hfind
    have := hfind r hr
    rw [Option.map_eq_none_iff] at this
    exact absurd this hp

theorem dispatch_eq_notAllowed {routes : List (Route σ)} {request : Request} {f : Fault}
    (hnone : ∀ r ∈ routes, r.parameter? request = none)
    (hsome : ∃ r ∈ routes, r.pattern.parameter? request.path ≠ none)
    (hall : ∀ r ∈ routes, r.pattern.parameter? request.path ≠ none → r.notAllowed = f) :
    dispatch routes request = .fail f := by
  have hfind : (routes.findSome? fun r => (r.parameter? request).map fun parameter => (r, parameter)) = none := by
    rw [List.findSome?_eq_none_iff]
    intro r hr
    rw [hnone r hr, Option.map_none]
  unfold dispatch
  rw [hfind]
  dsimp only
  split
  . next r hpath =>
    have hcovers := List.find?_some hpath
    rw [hall r (List.mem_of_find?_eq_some hpath) (Option.isSome_iff_ne_none.mp hcovers)]
  . next hpath =>
    obtain ⟨r, hr, hne⟩ := hsome
    exact absurd (Option.isSome_iff_ne_none.mpr hne) (List.find?_eq_none.mp hpath r hr)

theorem dispatch_eq_notFound {routes : List (Route σ)} {request : Request}
    (h : ∀ r ∈ routes, r.pattern.parameter? request.path = none) : dispatch routes request = .fail notFound := by
  have hfind : (routes.findSome? fun r => (r.parameter? request).map fun parameter => (r, parameter)) = none := by
    rw [List.findSome?_eq_none_iff]
    intro r hr
    simp [parameter?, h r hr]
  have hpath : (routes.find? fun r => (r.pattern.parameter? request.path).isSome) = none := by
    rw [List.find?_eq_none]
    intro r hr
    simp [h r hr]
  unfold dispatch
  rw [hfind, hpath]

theorem method_mem {r : Route σ} {request : Request} {p : String} (h : r.parameter? request = some p) :
    request.method ∈ r.methods := by
  unfold parameter? at h
  split at h
  . next hm => simpa using hm
  . cases h

theorem parameter?_literal {r : Route σ} {request : Request} {path : String} (h : r.pattern = .literal path) :
    r.parameter? request =
      if request.method ∈ r.methods ∧ (request.path = path ∨ request.path = path ++ "\n") then some "" else none := by
  unfold parameter?
  rw [h, Pattern.parameter?]
  by_cases hm : request.method ∈ r.methods <;> simp [hm]

end Route

/-- The paths that reset gates, and which gates. -/
def resetPaths : List (String × List Target) :=
  [("/admin/reset", [.health, .ready]), ("/admin/health/reset", [.health]), ("/admin/ready/reset", [.ready])]

/-- The gates that a request asks to reset, if it is one that does. A line break at the end of a path is overlooked. -/
def resetTargets? (method path : String) : Option (List Target) :=
  if method = "POST" then
    (resetPaths.find? fun e => path = e.1 ∨ path = e.1 ++ "\n").map (·.2)
  else
    none

theorem resetTargets?_of_method_ne {method : String} (h : method ≠ "POST") (path : String) :
    resetTargets? method path = none := by
  rw [resetTargets?, if_neg h]

/--
The route resets no gates: it answers no request that asks for that, and only time changes anything while it does.
-/
structure Harmless (r : Route Gates) : Prop where
  passive : ∀ p request, (r.handle p request).Passive
  apart : ∀ request p, r.parameter? request = some p → resetTargets? request.method request.path = none

theorem harmless_of_methods {r : Route Gates} (hp : ∀ p request, (r.handle p request).Passive)
    (hm : "POST" ∉ r.methods) : Harmless r := by
  refine ⟨hp, ?_⟩
  intro request p h
  apply resetTargets?_of_method_ne
  intro hpost
  have := Route.method_mem h
  rw [hpost] at this
  exact hm this

theorem harmless_manual {id : Log.Identity} {described : List (Route Gates)} {r : Route Gates}
    (h : r ∈ Manual.routes id described) : Harmless r := by
  have hroute (path mediaType body : String) : Harmless (Manual.route path mediaType body) := by
    apply harmless_of_methods
    . intro p request
      show (Manual.respond mediaType body).Passive
      unfold Manual.respond
      apply Handler.passive_ofExcept
    . simp [Manual.route]
  simp only [Manual.routes, List.mem_cons, List.not_mem_nil, or_false] at h
  rcases h with rfl | rfl | rfl <;> apply hroute

theorem harmless_probe {id : Log.Identity} {r : Route Gates} (h : r ∈ Probe.routes id) : Harmless r := by
  have hroute (target : Target) (summary : String) : Harmless (Probe.route id target summary) := by
    apply harmless_of_methods
    . intro p request
      exact .inspect fun clock g => Handler.passive_ofExcept _
    . simp [Probe.route]
  simp only [Probe.routes, List.mem_cons, List.not_mem_nil, or_false] at h
  rcases h with rfl | rfl <;> apply hroute

theorem passive_respond (mediaType name : String) (value : Json) :
    (Exercise.respond (σ := Gates) mediaType name value).Passive := by
  unfold Exercise.respond
  apply Handler.passive_ofExcept

theorem passive_withInteger {parameter : String} {next : Int → Handler Gates} (h : ∀ n, (next n).Passive) :
    (Exercise.withInteger parameter next).Passive := by
  unfold Exercise.withInteger
  split
  . apply h
  . apply Handler.Passive.fail

theorem harmless_exercise {mediaType : String} {r : Route Gates} (h : r ∈ Exercise.routes mediaType) :
    Harmless r := by
  have hget {pattern : Pattern} {summary : String} {handle : String → Request → Handler Gates}
      (hp : ∀ p request, (handle p request).Passive) : Harmless (Exercise.route pattern "GET" summary handle) := by
    apply harmless_of_methods hp
    simp [Exercise.route]
  simp only [Exercise.routes, List.mem_cons, List.not_mem_nil, or_false] at h
  rcases h with rfl | rfl | rfl | rfl | rfl | rfl
  . exact hget fun p request => passive_respond _ _ _
  . exact hget fun p request => .fail _
  . -- this one is a `POST` route, but at another path
    refine ⟨fun p request => .drain fun size => passive_respond _ _ _, ?_⟩
    intro request p hp
    rw [Route.parameter?_literal rfl] at hp
    split at hp
    . next hm =>
      have hpost : request.method = "POST" := by simpa [Exercise.route] using hm.1
      rw [hpost]
      rcases hm.2 with hpath | hpath <;> rw [hpath] <;> decide +kernel
    . cases hp
  . exact hget fun p request => passive_withInteger fun status => .fail _
  . exact hget fun p request => passive_withInteger fun nanos => .wait nanos (passive_respond _ _ _)
  . exact hget fun p request => .breakOff _ _

theorem admin_route {delay : String} {r : Route Gates} (h : r ∈ Admin.routes delay) :
    ∃ targets, (∀ p request, r.handle p request = Admin.reset delay targets)
      ∧ ∀ request p, r.parameter? request = some p → resetTargets? request.method request.path = some targets := by
  simp only [Admin.routes, List.mem_cons, List.not_mem_nil, or_false] at h
  rcases h with rfl | rfl | rfl
  all_goals
    refine ⟨_, fun p request => rfl, ?_⟩
    intro request p hp
    rw [Route.parameter?_literal rfl] at hp
    split at hp
    . next hm =>
      have hpost : request.method = "POST" := by simpa [Admin.route] using hm.1
      rw [hpost]
      rcases hm.2 with hpath | hpath <;> rw [hpath] <;> decide +kernel
    . cases hp

theorem exists_admin_route {request : Request} {targets : List Target}
    (h : resetTargets? request.method request.path = some targets) (delay : String) :
    ∃ r ∈ Admin.routes delay, r.parameter? request ≠ none := by
  unfold resetTargets? at h
  split at h
  . next hpost =>
    obtain ⟨e, he, _⟩ := Option.map_eq_some_iff.mp h
    have hpath := List.find?_some he
    have hmem := List.mem_of_find?_eq_some he
    simp only [resetPaths, List.mem_cons, List.not_mem_nil, or_false] at hmem
    have hanswers {path summary : String} {targets : List Target}
        (hp : request.path = path ∨ request.path = path ++ "\n") :
        (Admin.route delay path summary targets).parameter? request ≠ none := by
      rw [Route.parameter?_literal rfl, if_pos ⟨List.mem_singleton.mpr hpost, hp⟩]
      apply Option.some_ne_none
    rcases hmem with rfl | rfl | rfl
    . exact ⟨_, List.mem_cons_self, hanswers (of_decide_eq_true hpath)⟩
    . exact ⟨_, List.mem_cons_of_mem _ List.mem_cons_self, hanswers (of_decide_eq_true hpath)⟩
    . exact ⟨_, List.mem_cons_of_mem _ (List.mem_cons_of_mem _ List.mem_cons_self), hanswers (of_decide_eq_true hpath)⟩
  . cases h

variable (s : Service)

theorem mem_routes {r : Route Gates} (h : r ∈ s.routes) : r ∈ Admin.routes s.delayText ∨ Harmless r := by
  unfold routes at h
  simp only [List.mem_append] at h
  rcases h with h | (h | h) | h
  . split at h
    . exact .inr (harmless_manual h)
    . cases h
  . exact .inr (harmless_probe h)
  . exact .inl h
  . split at h
    . exact .inr (harmless_exercise h)
    . cases h

theorem mem_routes_of_admin {r : Route Gates} (h : r ∈ Admin.routes s.delayText) : r ∈ s.routes := by
  unfold routes
  simp only [List.mem_append]
  exact .inr (.inl (.inr h))

/-- A request that asks to reset gates gets to the handler that does. -/
theorem handle_of_resetTargets? {request : Request} {targets : List Target}
    (h : resetTargets? request.method request.path = some targets) :
    s.app.handle request = Admin.reset s.delayText targets := by
  apply Route.dispatch_eq
  . obtain ⟨r, hr, hp⟩ := exists_admin_route h s.delayText
    exact ⟨r, mem_routes_of_admin s hr, hp⟩
  . intro r hr p hp
    rcases mem_routes s hr with hadmin | hharmless
    . obtain ⟨targets', hhandle, htargets⟩ := admin_route hadmin
      have := htargets request p hp
      rw [h, Option.some.injEq] at this
      rw [hhandle, this]
    . have := hharmless.apart request p hp
      rw [h] at this
      cases this

/-- Any other request leaves the gates to the passing of time. -/
theorem passive_of_resetTargets? {request : Request} (h : resetTargets? request.method request.path = none) :
    (s.app.handle request).Passive := by
  show (Route.dispatch s.routes request).Passive
  rcases Route.dispatch_cases s.routes request with ⟨r, hr, p, hp, hd⟩ | ⟨f, hf⟩
  . rw [hd]
    rcases mem_routes s hr with hadmin | hharmless
    . obtain ⟨targets, _, htargets⟩ := admin_route hadmin
      rw [htargets request p hp] at h
      cases h
    . exact hharmless.passive p request
  . rw [hf]
    exact .fail f

/-- The patterns of all routes but the probes. -/
def otherPatterns : List Pattern :=
  [.literal "/openapi.json", .literal "/docs", .literal "/docs/oauth2-redirect",
   .literal "/admin/reset", .literal "/admin/health/reset", .literal "/admin/ready/reset",
   .literal "/ok", .literal "/boom", .literal "/echo", .parameter "/raise/" "status", .parameter "/advance/" "ns",
   .literal "/late"]

theorem otherPatterns_apart (t : Target) : ∀ p ∈ otherPatterns, p.parameter? t.path = none := by
  cases t <;> decide +kernel

theorem probe_or_other {r : Route Gates} (h : r ∈ s.routes) :
    r ∈ Probe.routes s.identity ∨ r.pattern ∈ otherPatterns := by
  have hfamily {family : List (Route Gates)} (patterns : List Pattern) (hp : family.map (·.pattern) = patterns)
      (hsub : patterns ⊆ otherPatterns) (hr : r ∈ family) : r.pattern ∈ otherPatterns := by
    apply hsub
    rw [← hp]
    apply List.mem_map_of_mem hr
  unfold routes at h
  simp only [List.mem_append] at h
  rcases h with h | (h | h) | h
  . split at h
    . exact .inr (hfamily (otherPatterns.take 3) rfl (by decide) h)
    . cases h
  . exact .inl h
  . exact .inr (hfamily ((otherPatterns.drop 3).take 3) rfl (by decide) h)
  . split at h
    . exact .inr (hfamily (otherPatterns.drop 6) rfl (by decide) h)
    . cases h

theorem eq_of_parameter? {t u : Target} (h : (Pattern.literal u.path).parameter? t.path ≠ none) : u = t := by
  revert h
  cases t <;> cases u <;> decide +kernel

/-- A request for a probe gets to it. -/
theorem handle_of_probe {request : Request} {t : Target} (hmethod : request.method = "GET")
    (hpath : request.path = t.path) :
    s.app.handle request = .inspect fun clock g => .ofExcept (Probe.answer s.identity t clock (g.get t)) := by
  apply Route.dispatch_eq
  . have hanswers (summary : String) : (Probe.route s.identity t summary).parameter? request ≠ none := by
      rw [Route.parameter?_literal rfl, if_pos ⟨List.mem_singleton.mpr hmethod, .inl hpath⟩]
      apply Option.some_ne_none
    have hmem : ∃ summary, Probe.route s.identity t summary ∈ Probe.routes s.identity := by
      cases t
      . exact ⟨_, List.mem_cons_self⟩
      . exact ⟨_, List.mem_cons_of_mem _ List.mem_cons_self⟩
    obtain ⟨summary, hmem⟩ := hmem
    refine ⟨_, ?_, hanswers summary⟩
    unfold routes
    simp only [List.mem_append]
    exact .inr (.inl (.inl hmem))
  . intro r hr p hp
    rcases probe_or_other s hr with hprobe | hother
    . obtain ⟨u, summary, rfl⟩ : ∃ u summary, r = Probe.route s.identity u summary := by
        simp only [Probe.routes, List.mem_cons, List.not_mem_nil, or_false] at hprobe
        rcases hprobe with rfl | rfl <;> exact ⟨_, _, rfl⟩
      unfold Route.parameter? at hp
      split at hp
      . rw [hpath] at hp
        have hut : u = t := by
          apply eq_of_parameter?
          apply Option.ne_none_iff_exists'.mpr ⟨p, hp⟩
        subst hut
        rfl
      . cases hp
    . unfold Route.parameter? at hp
      rw [hpath, otherPatterns_apart t _ hother] at hp
      split at hp <;> cases hp

end Service
end Readiness
