import Mathlib.Data.List.Basic
import Readiness.Log.Record

/-!
This module contains what the fields of a record tell: the fields of its caller and its own, of which one or the other
has the last word, and the service unless the caller named it.
-/

namespace Readiness

namespace Json

theorem lookup_cons (key k : String) (value : Json) (fields : List (String × Json)) :
    List.lookup key ((k, value) :: fields) = if key = k then some value else fields.lookup key := by
  rw [List.lookup_cons]
  by_cases h : key = k
  . simp [h]
  . simp [h, beq_eq_false_iff_ne.mpr h]

theorem lookup_eq_none {key : String} {fields : List (String × Json)} (h : ∀ f ∈ fields, f.1 ≠ key) :
    fields.lookup key = none := by
  rw [List.lookup_eq_none_iff]
  exact fun f hf => bne_iff_ne.mpr (h f hf).symm

theorem any_key_iff {key : String} {fields : List (String × Json)} :
    fields.any (·.1 == key) = true ↔ key ∈ fields.map (·.1) := by
  simp [List.any_eq_true]

theorem lookup_ne_none {key : String} {fields : List (String × Json)} (h : fields.any (·.1 == key) = true) :
    fields.lookup key ≠ none := by
  obtain ⟨f, hf, hkey⟩ := List.any_eq_true.mp h
  intro hnone
  exact bne_iff_ne.mp (List.lookup_eq_none_iff.mp hnone f hf) (beq_iff_eq.mp hkey).symm

theorem lookup_filter (p : String → Bool) (key : String) (fields : List (String × Json)) :
    (fields.filter fun f => p f.1).lookup key = if p key then fields.lookup key else none := by
  induction fields with
  | nil => simp
  | cons f fields ih =>
    obtain ⟨k, value⟩ := f
    rw [List.filter_cons, lookup_cons]
    by_cases hkey : key = k
    . subst hkey
      cases hp : p key
      . simpa [hp] using ih
      . rw [if_pos rfl, lookup_cons]
        simp
    . rw [if_neg hkey]
      cases p k
      . exact ih
      . rw [if_pos rfl, lookup_cons, if_neg hkey]
        exact ih

theorem lookup_setField (fields : List (String × Json)) (key name : String) (value : Json) :
    (setField fields key value).lookup name = if name = key then some value else fields.lookup name := by
  -- in place, the value is only found if there was one before
  have hmap : (fields.map fun f => if f.1 == key then (key, value) else f).lookup name
      = if name = key then (fields.lookup key).map fun _ => value else fields.lookup name := by
    induction fields with
    | nil => simp
    | cons f fields ih =>
      rw [List.map_cons, lookup_cons, lookup_cons]
      by_cases hf : f.1 = key
      . rw [if_pos (beq_iff_eq.mpr hf), lookup_cons, ih]
        by_cases hname : name = key
        . simp [hname, hf]
        . simp [hname, hf]
      . rw [if_neg (fun hb => hf (beq_iff_eq.mp hb)), lookup_cons, ih]
        by_cases hname : name = f.1
        . simp [hname, hf]
        . simp [hname, Ne.symm hf]
  unfold setField
  split
  . next hany =>
    rw [hmap]
    obtain ⟨v, hv⟩ := Option.ne_none_iff_exists'.mp (lookup_ne_none hany)
    rw [hv]
    rfl
  . next hnone =>
    have hlookup : fields.lookup key = none := by
      apply lookup_eq_none
      intro f hf hkey
      exact hnone (any_key_iff.mpr (hkey ▸ List.mem_map_of_mem hf))
    rw [List.lookup_append, lookup_cons]
    by_cases hname : name = key
    . simp [hname, hlookup]
    . simp [hname]

theorem lookup_addField (fields : List (String × Json)) (key name : String) (value : Json) :
    (addField fields key value).lookup name
      = (fields.lookup name).or (if name = key then some value else none) := by
  unfold addField
  split
  . next hany =>
    by_cases hname : name = key
    . subst hname
      obtain ⟨v, hv⟩ := Option.ne_none_iff_exists'.mp (lookup_ne_none hany)
      rw [hv]
      rfl
    . simp [hname]
  . rw [List.lookup_append, lookup_cons]
    rfl

/-- Fields that are set one after the other, none of them twice, hide those before. -/
theorem lookup_foldl_setField {given : List (String × Json)} (h : (given.map (·.1)).Nodup)
    (fields : List (String × Json)) (name : String) :
    (given.foldl (fun fs f => setField fs f.1 f.2) fields).lookup name
      = (given.lookup name).or (fields.lookup name) := by
  induction given generalizing fields with
  | nil => rfl
  | cons f given ih =>
    rw [List.map_cons, List.nodup_cons] at h
    rw [List.foldl_cons, ih h.2, lookup_setField, lookup_cons]
    by_cases hname : name = f.1
    . have hnone : given.lookup name = none := by
        apply lookup_eq_none
        intro g hg hkey
        exact h.1 (List.mem_map.mpr ⟨g, hg, hkey.trans hname⟩)
      rw [hnone, if_pos hname, if_pos hname]
      rfl
    . rw [if_neg hname, if_neg hname]

theorem lookup_of_mem {fields : List (String × Json)} (h : (fields.map (·.1)).Nodup) {f : String × Json}
    (hf : f ∈ fields) : fields.lookup f.1 = some f.2 := by
  induction fields with
  | nil => cases hf
  | cons g fields ih =>
    rw [List.map_cons, List.nodup_cons] at h
    rw [lookup_cons]
    rcases List.mem_cons.mp hf with rfl | hf
    . rw [if_pos rfl]
    . have hne : f.1 ≠ g.1 := fun heq => h.1 (heq ▸ List.mem_map_of_mem hf)
      rw [if_neg hne, ih h.2 hf]

theorem mem_of_lookup {fields : List (String × Json)} {key : String} {value : Json}
    (h : fields.lookup key = some value) : (key, value) ∈ fields := by
  obtain ⟨before, after, rfl, _⟩ := List.lookup_eq_some_iff.mp h
  exact List.mem_append_right before List.mem_cons_self

theorem mem_setField_iff {fields : List (String × Json)} {key : String} {value : Json} {f : String × Json} :
    f ∈ setField fields key value ↔ f = (key, value) ∨ f ∈ fields ∧ f.1 ≠ key := by
  unfold setField
  split
  . next hany =>
    obtain ⟨g, hg, hkey⟩ := List.any_eq_true.mp hany
    rw [List.mem_map]
    constructor
    . rintro ⟨g, hg, rfl⟩
      by_cases h : g.1 = key
      . simp [h]
      . simp [h, hg]
    . rintro (rfl | ⟨hf, hne⟩)
      . exact ⟨g, hg, if_pos hkey⟩
      . exact ⟨f, hf, if_neg (fun heq => hne (beq_iff_eq.mp heq))⟩
  . next hnone =>
    have hne : ∀ g ∈ fields, g.1 ≠ key := fun g hg hkey => hnone (any_key_iff.mpr (hkey ▸ List.mem_map_of_mem hg))
    rw [List.mem_append, List.mem_singleton]
    grind

theorem nodup_append_field {fields : List (String × Json)} (h : (fields.map (·.1)).Nodup) {key : String}
    (hkey : key ∉ fields.map (·.1)) (value : Json) : ((fields ++ [(key, value)]).map (·.1)).Nodup := by
  rw [List.map_append, List.map_singleton, List.nodup_append]
  refine ⟨h, by simp, ?_⟩
  rintro k hk _ hmem rfl
  rw [List.mem_singleton.mp hmem] at hk
  exact hkey hk

theorem nodup_setField {fields : List (String × Json)} (h : (fields.map (·.1)).Nodup) (key : String) (value : Json) :
    ((setField fields key value).map (·.1)).Nodup := by
  unfold setField
  split
  . have hkeys : (fields.map fun f => if f.1 == key then (key, value) else f).map (·.1) = fields.map (·.1) := by
      rw [List.map_map]
      apply List.map_congr_left
      intro f _
      by_cases hf : f.1 = key <;> simp [hf]
    rw [hkeys]
    exact h
  . next hnone => exact nodup_append_field h (fun hmem => hnone (any_key_iff.mpr hmem)) value

theorem mem_addField_iff {fields : List (String × Json)} {key : String} {value : Json} {f : String × Json} :
    f ∈ addField fields key value ↔ f ∈ fields ∨ f = (key, value) ∧ key ∉ fields.map (·.1) := by
  unfold addField
  split
  . next hany => simp [any_key_iff.mp hany]
  . next hnone =>
    have hnot : key ∉ fields.map (·.1) := fun hmem => hnone (any_key_iff.mpr hmem)
    simp [hnot]

theorem nodup_addField {fields : List (String × Json)} (h : (fields.map (·.1)).Nodup) (key : String) (value : Json) :
    ((addField fields key value).map (·.1)).Nodup := by
  unfold addField
  split
  . exact h
  . next hnone => exact nodup_append_field h (fun hmem => hnone (any_key_iff.mpr hmem)) value

/-- Fields that are set one after the other, none of them twice, take the place of those before. -/
theorem mem_foldl_setField_iff {given : List (String × Json)} (h : (given.map (·.1)).Nodup)
    {fields : List (String × Json)} {f : String × Json} :
    f ∈ given.foldl (fun fs f => setField fs f.1 f.2) fields ↔ f ∈ given ∨ f ∈ fields ∧ f.1 ∉ given.map (·.1) := by
  induction given generalizing fields with
  | nil => simp
  | cons g given ih =>
    rw [List.map_cons, List.nodup_cons] at h
    rw [List.foldl_cons, ih h.2, mem_setField_iff, List.map_cons, List.mem_cons, List.mem_cons]
    have hnot : ∀ f, f = g → f.1 ∉ given.map (·.1) := by
      rintro _ rfl
      exact h.1
    grind

theorem nodup_foldl_setField {fields : List (String × Json)} (h : (fields.map (·.1)).Nodup)
    (given : List (String × Json)) :
    ((given.foldl (fun fs f => setField fs f.1 f.2) fields).map (·.1)).Nodup := by
  induction given generalizing fields with
  | nil => exact h
  | cons g given ih =>
    rw [List.foldl_cons]
    exact ih (nodup_setField h g.1 g.2)

theorem setField_of_fresh {fields : List (String × Json)} {key : String} (h : key ∉ fields.map (·.1)) (value : Json) :
    setField fields key value = fields ++ [(key, value)] := by
  unfold setField
  rw [if_neg (fun hany => h (any_key_iff.mp hany))]

theorem addField_of_fresh {fields : List (String × Json)} {key : String} (h : key ∉ fields.map (·.1)) (value : Json) :
    addField fields key value = fields ++ [(key, value)] := by
  unfold addField
  rw [if_neg (fun hany => h (any_key_iff.mp hany))]

end Json

namespace Log
namespace Record

/-- The record has no field twice. -/
def Distinct (r : Record) : Prop :=
  (r.fields.map (·.1)).Nodup

/-- What the record itself tells of its origin. -/
def origin (r : Record) : List (String × Json) :=
  [("logger", .str r.logger), ("level", .str r.level.name)]

/-- What the caller tells. -/
def given (r : Record) : List (String × Json) :=
  r.fields.filter fun f => !directives.contains f.1

theorem baseFields_eq (r : Record) (now : Instant) :
    r.baseFields now = Json.setField (match r.source with
      | .structured => r.origin.foldl (fun fs f => Json.setField fs f.1 f.2) (r.given ++ [("event", .str r.event)])
      | .plain => r.given.foldl (fun fs f => Json.setField fs f.1 f.2) (("event", .str r.event) :: r.origin))
      "timestamp" (.str now.logText) := rfl

theorem lookup_given (r : Record) {name : String} (h : name ∉ directives) :
    r.given.lookup name = r.fields.lookup name := by
  unfold given
  rw [Json.lookup_filter (fun name => !directives.contains name), if_pos]
  simpa using h

variable {r : Record} {now : Instant} {name : String}

/-- A structured call has the last word on nothing that its record tells of its origin. -/
theorem lookup_baseFields_structured (hsource : r.source = .structured) (hname : name ∉ directives)
    (htime : name ≠ "timestamp") :
    (r.baseFields now).lookup name = (r.origin.lookup name).or
      ((r.fields.lookup name).or (if name = "event" then some (.str r.event) else none)) := by
  have horigin : (r.origin.map (·.1)).Nodup := by
    show ["logger", "level"].Nodup
    decide
  rw [baseFields_eq, Json.lookup_setField, if_neg htime, hsource]
  dsimp only
  rw [Json.lookup_foldl_setField horigin, List.lookup_append, lookup_given r hname, Json.lookup_cons]
  rfl

/-- A plain call has the last word on everything but the time. -/
theorem lookup_baseFields_plain (hsource : r.source = .plain) (hfields : r.Distinct) (hname : name ∉ directives)
    (htime : name ≠ "timestamp") :
    (r.baseFields now).lookup name
      = (r.fields.lookup name).or (List.lookup name (("event", .str r.event) :: r.origin)) := by
  have hgiven : (r.given.map (·.1)).Nodup := hfields.sublist (List.filter_sublist.map _)
  rw [baseFields_eq, Json.lookup_setField, if_neg htime, hsource]
  dsimp only
  rw [Json.lookup_foldl_setField hgiven, lookup_given r hname]

/-- The fields that a record has for itself, whatever its caller says. -/
def overwritten : Source → List String
  | .structured => ["logger", "level", "timestamp"]
  | .plain => ["timestamp"]

/-- Apart from texts a record has what its caller gives and what it does not overwrite. -/
theorem exists_mem_baseFields_iff (hfields : r.Distinct) {P : Json → Prop} (hP : ∀ s, ¬ P (.str s)) :
    (∃ f ∈ r.baseFields now, P f.2) ↔ ∃ f ∈ r.given, f.1 ∉ overwritten r.source ∧ P f.2 := by
  have hgiven : (r.given.map (·.1)).Nodup := hfields.sublist (List.filter_sublist.map _)
  rw [baseFields_eq]
  cases hsource : r.source with
  | structured =>
    simp only [Json.mem_setField_iff, origin, List.foldl_cons, List.foldl_nil, List.mem_append, overwritten,
      List.mem_cons, List.not_mem_nil, or_false, not_or]
    grind
  | plain =>
    simp only [Json.mem_setField_iff, Json.mem_foldl_setField_iff hgiven, origin, overwritten, List.mem_cons,
      List.not_mem_nil, or_false]
    grind

theorem nodup_baseFields (hfields : r.Distinct) (hevent : r.source = .structured → "event" ∉ r.fields.map (·.1)) :
    ((r.baseFields now).map (·.1)).Nodup := by
  rw [baseFields_eq]
  apply Json.nodup_setField
  cases hsource : r.source with
  | structured =>
    apply Json.nodup_foldl_setField
    apply Json.nodup_append_field (hfields.sublist (List.filter_sublist.map _))
    intro hmem
    exact hevent hsource ((List.filter_sublist.map _).subset hmem)
  | plain =>
    apply Json.nodup_foldl_setField
    show ["event", "logger", "level"].Nodup
    decide

theorem exists_mem_allFields_iff (hexception : r.exception = none) {P : Json → Prop} (hP : ∀ s, ¬ P (.str s))
    (id : Identity) : (∃ f ∈ r.allFields id now, P f.2) ↔ ∃ f ∈ r.baseFields now, P f.2 := by
  unfold allFields
  rw [hexception]
  simp only [Json.mem_addField_iff]
  grind

theorem nodup_allFields (hexception : r.exception = none) (hbase : ((r.baseFields now).map (·.1)).Nodup)
    (id : Identity) : ((r.allFields id now).map (·.1)).Nodup := by
  unfold allFields
  rw [hexception]
  exact Json.nodup_addField (Json.nodup_addField hbase _ _) _ _

/-- The service is the one that the caller names, or else the configured one. -/
theorem lookup_allFields (hexception : r.exception = none) (id : Identity) :
    (r.allFields id now).lookup name
      = ((r.baseFields now).lookup name).or
          (List.lookup name [("service", .str id.service), ("version", .str id.version)]) := by
  unfold allFields
  rw [hexception]
  dsimp only
  rw [Json.lookup_addField, Json.lookup_addField, Json.lookup_cons, Json.lookup_cons, Option.or_assoc]
  congr 1
  by_cases hservice : name = "service"
  . simp [hservice]
  . simp [hservice]

/-- The names that a record has fields of its own for. -/
def ownNames : List String :=
  ["event", "logger", "level", "timestamp", "service", "version", "exception"]

/-- The fields of a structured call that names no field of the record come before those of the record. -/
theorem allFields_of_fresh (hsource : r.source = .structured)
    (hfresh : ∀ name ∈ directives ++ ownNames, name ∉ r.fields.map (·.1)) (id : Identity) (now : Instant) :
    r.allFields id now = r.fields ++ [
      ("event", .str r.event),
      ("logger", .str r.logger),
      ("level", .str r.level.name),
      ("timestamp", .str now.logText),
      ("service", .str id.service),
      ("version", .str id.version)] ++ (r.exception.map fun e => ("exception", .str e)).toList := by
  have hgiven : r.given = r.fields := by
    apply List.filter_eq_self.mpr
    intro f hf
    rw [Bool.not_eq_true', List.contains_eq_mem, decide_eq_false_iff_not]
    intro hname
    exact hfresh _ (List.mem_append_left _ hname) (List.mem_map_of_mem hf)
  have hown : ∀ name ∈ ownNames, name ∉ r.fields.map (·.1) :=
    fun name hname => hfresh name (List.mem_append_right _ hname)
  simp only [ownNames, List.forall_mem_cons] at hown
  obtain ⟨_, hlogger, hlevel, htime, hservice, hversion, hexception, _⟩ := hown
  unfold allFields
  rw [baseFields_eq, hsource]
  dsimp only [origin, List.foldl_cons, List.foldl_nil]
  rw [hgiven]
  simp only [Json.setField_of_fresh, Json.addField_of_fresh, List.map_append, List.map_cons, List.map_nil,
    List.mem_append, List.mem_cons, List.not_mem_nil, hlogger, hlevel, htime, hservice, hversion, hexception,
    String.reduceEq, or_false, not_false_eq_true]
  cases r.exception with
  | none => simp
  | some e => simp

end Record
end Log
end Readiness
