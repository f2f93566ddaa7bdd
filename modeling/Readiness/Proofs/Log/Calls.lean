import Readiness.Proofs.Log.Rendering

/-!
This module contains the log calls that are accepted, the fields of their records, and what keeps a record from being
shown: a value that cannot be written and, on the console, one that is no text where only a text can be shown.
-/

namespace Readiness
namespace Log
namespace Call

/-- The record of a call. -/
def recordOf (via : Source) (c : Call) : Record where
  source := via
  logger := c.loggerName
  level := c.method.level
  event := c.message
  fields := c.fields
  traced := c.traced
  room := some c.room

@[simp]
theorem recordOf_logger (via : Source) (c : Call) : (c.recordOf via).logger = c.loggerName :=
  rfl

@[simp]
theorem recordOf_level (via : Source) (c : Call) : (c.recordOf via).level = c.method.level :=
  rfl

/-- No field has the name of another one, nor one that its kind of call does not take. -/
structure Accepted (via : Source) (c : Call) : Prop where
  distinct : (c.fields.map (·.1)).Nodup
  structured : via = .structured → ∀ f ∈ c.fields,
    f.1 ≠ "event" ∧ f.1 ≠ "self" ∧ f.1 ≠ "method_name" ∧ (f.1 = "_record" → f.2 = .null)
  plain : via = .plain → ∀ f ∈ c.fields, f.1 ∉ reservedFields

/-- A structured call with one field, which is none of those that it does not take. -/
theorem accepted_of_field {logger message name : String} {method : Method} {value : Json} {room : Nat}
    (hname : name ∉ ["event", "self", "method_name", "_record"]) :
    Accepted .structured ⟨logger, method, message, [(name, value)], room⟩ := by
  simp only [List.mem_cons, List.not_mem_nil, or_false, not_or] at hname
  refine ⟨List.pairwise_singleton _ _, fun _ => ?_, nofun⟩
  rw [List.forall_mem_singleton]
  exact ⟨hname.1, hname.2.1, hname.2.2.1, fun h => absurd h hname.2.2.2⟩

variable {c : Call} {via : Source}

theorem Accepted.structured_eq (h : c.Accepted .structured) : c.structured = .ok (c.recordOf .structured) := by
  have hfields := h.structured rfl
  have hparameter : (c.fields.find? fun f => f.1 = "event" || f.1 = "self") = none := by
    rw [List.find?_eq_none]
    intro f hf
    simp [(hfields f hf).1, (hfields f hf).2.1]
  have hmethod : (c.fields.any (·.1 = "method_name")) = false := by
    rw [List.any_eq_false]
    intro f hf
    simp [(hfields f hf).2.2.1]
  have hrecord : c.replacesRecord = false := by
    unfold replacesRecord
    split
    . rfl
    . rfl
    . next value hne hlookup =>
      obtain ⟨before, after, hmem, _⟩ := List.lookup_eq_some_iff.mp hlookup
      have hf : ("_record", value) ∈ c.fields := hmem ▸ List.mem_append_right before List.mem_cons_self
      have hnull : value = .null := (hfields _ hf).2.2.2 rfl
      subst hnull
      exact absurd rfl hne
  unfold Call.structured repeated?
  rw [hparameter, hmethod, hrecord]
  rfl

theorem Accepted.plain_eq (h : c.Accepted .plain) : c.plain = .ok (c.recordOf .plain) := by
  have hfields : (c.fields.find? fun f => reservedFields.contains f.1) = none := by
    rw [List.find?_eq_none]
    intro f hf
    rw [List.contains_iff_mem]
    exact h.plain rfl f hf
  unfold Call.plain
  rw [hfields]
  rfl

def ownNames : List String := ["event", "logger", "level"]

/-- What a call leaves to its record. -/
def own (c : Call) : List (String × Json) :=
  [("event", .str c.message), ("logger", .str c.loggerName), ("level", .str c.method.level.name)]

/-- A structured call has no say in what it leaves to its record, a plain one has the last word. -/
def merged (via : Source) (c : Call) (name : String) : Option Json :=
  match via with
  | .structured => (c.own.lookup name).or (c.fields.lookup name)
  | .plain => (c.fields.lookup name).or (c.own.lookup name)

/-- The fields are those of a call that names a service, the ones for traces apart. -/
structure Told (via : Source) (c : Call) (id : Identity) (now : Instant) (fields : List (String × Json)) : Prop where
  time : fields.lookup "timestamp" = some (.str now.logText)
  service : fields.lookup "service" = (c.fields.lookup "service").or (some (.str id.service))
  version : fields.lookup "version" = (c.fields.lookup "version").or (some (.str id.version))
  own : ∀ name ∈ ownNames, fields.lookup name = c.merged via name
  given : ∀ name, name ∉ directives → name ∉ ownNames → name ∉ ["timestamp", "service", "version"] →
    name ∉ Console.attachments → fields.lookup name = c.fields.lookup name

variable {id : Identity} {now : Instant}

theorem lookup_own_eq_none {name : String} (h : name ∉ ownNames) : c.own.lookup name = none := by
  apply Json.lookup_eq_none
  rintro f hf rfl
  exact h (List.mem_map_of_mem (f := (·.1)) hf)

theorem lookup_allFields {name : String} (h : c.Accepted via) (hname : name ∉ directives) (htime : name ≠ "timestamp") :
    ((c.recordOf via).allFields id now).lookup name = (c.merged via name).or
      (List.lookup name [("service", .str id.service), ("version", .str id.version)]) := by
  rw [Record.lookup_allFields rfl]
  congr 1
  cases via with
  | structured =>
    rw [Record.lookup_baseFields_structured rfl hname htime]
    show (List.lookup name [("logger", .str c.loggerName), ("level", .str c.method.level.name)]).or
      ((c.fields.lookup name).or (if name = "event" then some (.str c.message) else none)) = _
    unfold merged own
    dsimp only
    rw [Json.lookup_cons name "event"]
    by_cases hevent : name = "event"
    . have hnone : c.fields.lookup "event" = none :=
        Json.lookup_eq_none fun f hf => (h.structured rfl f hf).1
      subst hevent
      rw [hnone]
      rfl
    . rw [if_neg hevent, if_neg hevent, Option.or_none]
  | plain => exact Record.lookup_baseFields_plain rfl h.distinct hname htime

theorem lookup_given {name : String} (h : c.Accepted via) (hname : name ∉ directives) (hown : name ∉ ownNames)
    (hother : name ∉ ["timestamp", "service", "version"]) :
    ((c.recordOf via).allFields id now).lookup name = c.fields.lookup name := by
  have hidentity : List.lookup name [("service", Json.str id.service), ("version", Json.str id.version)] = none := by
    apply Json.lookup_eq_none
    simp only [List.mem_cons, List.not_mem_nil, or_false, not_or] at hother ⊢
    rintro f (rfl | rfl)
    . exact Ne.symm hother.2.1
    . exact Ne.symm hother.2.2
  have htime : name ≠ "timestamp" := fun heq => hother (heq ▸ List.mem_cons_self)
  rw [lookup_allFields h hname htime, hidentity, Option.or_none]
  unfold merged
  rw [lookup_own_eq_none hown]
  cases via with
  | structured => rfl
  | plain => exact Option.or_none

theorem lookup_ownNames {name : String} (h : c.Accepted via) (hname : name ∈ ownNames) :
    ((c.recordOf via).allFields id now).lookup name = c.merged via name := by
  have hcases : name = "event" ∨ name = "logger" ∨ name = "level" := by simpa [ownNames] using hname
  rw [lookup_allFields h ?_ ?_]
  . have hidentity : List.lookup name [("service", Json.str id.service), ("version", Json.str id.version)] = none := by
      rcases hcases with rfl | rfl | rfl <;> rfl
    rw [hidentity, Option.or_none]
  . rcases hcases with rfl | rfl | rfl <;> decide
  . rcases hcases with rfl | rfl | rfl <;> decide

variable (id) (now) in
theorem told_recordOf (h : c.Accepted via) : c.Told via id now ((c.recordOf via).allFields id now) := by
  constructor
  . rw [Record.lookup_allFields rfl, Record.baseFields_eq, Json.lookup_setField, if_pos rfl]
    rfl
  . rw [lookup_allFields h (by decide) (by decide)]
    cases via with
    | structured => rfl
    | plain => exact congrArg (Option.or · _) Option.or_none
  . rw [lookup_allFields h (by decide) (by decide)]
    cases via with
    | structured => rfl
    | plain => exact congrArg (Option.or · _) Option.or_none
  . exact fun name hname => lookup_ownNames h hname
  . exact fun name hname hown hother _ => lookup_given h hname hown hother

/-- The fields that the record of the call shows as they are. -/
def shown (via : Source) (c : Call) : List (String × Json) :=
  c.fields.filter fun f => !(directives ++ Record.overwritten via).contains f.1

/-- The levels that a handler counts for an empty list or object. -/
def hollow (json : Bool) : Nat :=
  if json then 1 else 0

/-- What keeps a handler from rendering the record of the call. -/
inductive Hinders (via : Source) (json : Bool) (c : Call) : RenderError → Prop where
  /-- A plain call bears the marks of a structured one. -/
  | forged (hvia : via = .plain) (h : ∀ mark ∈ ["_logger", "_name"], mark ∈ c.fields.map (·.1)) :
    Hinders via json c .forged
  /-- On the console a plain call gives a level that is no text. -/
  | level {value : Json} (hjson : json = false) (hvia : via = .plain) (h : c.fields.lookup "level" = some value)
    (ht : ∀ s, value ≠ .str s) : Hinders via json c .notText
  /-- On the console a stack or an exception is neither null nor a text. -/
  | attachment {name : String} {value : Json} (hjson : json = false) (hname : name ∈ Console.attachments)
    (h : c.fields.lookup name = some value) (hn : value ≠ .null) (ht : ∀ s, value ≠ .str s) :
    Hinders via json c .notText
  /-- A value has an integer with too many digits, or is nested too deep for where the call is made. -/
  | value {f : String × Json} {e : Json.WriteError} (hf : f ∈ c.shown via)
    (h : Json.Hinders f.2.integers (f.2.depth (hollow json)) c.room e) : Hinders via json c (.value e)

/-- Nothing keeps a handler from rendering the record of the call. -/
def Showable (via : Source) (json : Bool) (c : Call) : Prop :=
  ∀ e, ¬ c.Hinders via json e

theorem isForged_recordOf : (c.recordOf via).isForged = true ↔
    via = .plain ∧ ∀ mark ∈ ["_logger", "_name"], mark ∈ c.fields.map (·.1) := by
  unfold Record.isForged
  rw [Bool.and_eq_true, decide_eq_true_iff, List.all_eq_true]
  simp [recordOf]

theorem nodup_allFields (h : c.Accepted via) : (((c.recordOf via).allFields id now).map (·.1)).Nodup := by
  apply Record.nodup_allFields rfl
  apply Record.nodup_baseFields
  . exact h.distinct
  . intro hvia hmem
    obtain ⟨f, hf, hevent⟩ := List.mem_map.mp hmem
    exact (h.structured hvia f hf).1 hevent

/-- What the record shows and the call did not give are texts. -/
theorem exists_mem_allFields_iff (h : c.Accepted via) {P : Json → Prop} (hP : ∀ s, ¬ P (.str s)) :
    (∃ f ∈ (c.recordOf via).allFields id now, P f.2) ↔ ∃ f ∈ c.shown via, P f.2 := by
  have hdistinct : (c.recordOf via).Distinct := h.distinct
  rw [Record.exists_mem_allFields_iff rfl hP, Record.exists_mem_baseFields_iff hdistinct hP]
  unfold shown Record.given
  simp [recordOf, and_assoc]

theorem text_recordOf (handler : Renderer) (now : Instant) :
    handler.text (some handler.identity) (c.recordOf via) now =
      if (c.recordOf via).isForged then .error .forged else
        form handler.json ((c.recordOf via).allFields handler.identity now) c.traced (some c.room) >>= fun text =>
          .ok (String.ofList (text ++ ['\n'])) := by
  cases via <;> rfl

theorem lookup_attachment (h : c.Accepted via) {name : String} (hname : name ∈ Console.attachments) :
    ((c.recordOf via).allFields id now).lookup name = c.fields.lookup name := by
  have hcases : name = "stack" ∨ name = "exception" := by simpa [Console.attachments] using hname
  rcases hcases with rfl | rfl
  . exact lookup_given h (by decide) (by decide) (by decide)
  . exact lookup_given h (by decide) (by decide) (by decide)

/-- Only a plain call can give a level that is no text. -/
theorem lookup_level_iff (h : c.Accepted via) {value : Json} (ht : ∀ s, value ≠ .str s) :
    ((c.recordOf via).allFields id now).lookup "level" = some value
      ↔ via = .plain ∧ c.fields.lookup "level" = some value := by
  rw [lookup_ownNames h (by decide)]
  cases via with
  | structured => simp [merged, own, Json.lookup_cons, (ht _).symm]
  | plain => cases hgiven : c.fields.lookup "level" <;> simp [merged, hgiven, own, Json.lookup_cons, (ht _).symm]

variable {e : RenderError}

variable (id) (now) in
theorem exists_valueHinders_iff (h : c.Accepted via) (json : Bool) :
    (∃ f ∈ (c.recordOf via).allFields id now, ValueHinders (hollow json) c.room f.2 e)
      ↔ ∃ f ∈ c.shown via, ValueHinders (hollow json) c.room f.2 e :=
  exists_mem_allFields_iff h (P := (ValueHinders (hollow json) c.room · e)) fun s => not_valueHinders_str s

theorem hinders_json_iff (h : c.Accepted via) (hforged : ¬ (c.recordOf via).isForged = true) :
    (∃ f ∈ (c.recordOf via).allFields id now, ValueHinders 1 c.room f.2 e) ↔ c.Hinders via true e := by
  apply (exists_valueHinders_iff id now h true).trans
  constructor
  . rintro ⟨f, hf, e', he, rfl⟩
    exact .value hf he
  . intro he
    cases he with
    | forged hvia hmarks => exact absurd (isForged_recordOf.mpr ⟨hvia, hmarks⟩) hforged
    | level hjson => cases hjson
    | attachment hjson => cases hjson
    | value hf he => exact ⟨_, hf, _, he, rfl⟩

theorem hinders_console_iff (h : c.Accepted via) (hforged : ¬ (c.recordOf via).isForged = true) :
    Console.Hinders ((c.recordOf via).allFields id now) c.room e ↔ c.Hinders via false e := by
  have hvalue := exists_valueHinders_iff id now (e := e) h false
  constructor
  . intro he
    cases he with
    | level hv ht =>
      obtain ⟨hvia, hv⟩ := (lookup_level_iff h ht).mp hv
      exact .level rfl hvia hv ht
    | attachment hname hv hn ht =>
      rw [lookup_attachment h hname] at hv
      exact .attachment rfl hname hv hn ht
    | value hf he =>
      obtain ⟨f, hf, e', hcause, rfl⟩ := hvalue.mp ⟨_, hf, he⟩
      exact .value hf hcause
  . intro he
    cases he with
    | forged hvia hmarks => exact absurd (isForged_recordOf.mpr ⟨hvia, hmarks⟩) hforged
    | level _ hvia hv ht => exact .level ((lookup_level_iff h ht).mpr ⟨hvia, hv⟩) ht
    | attachment _ hname hv hn ht =>
      rw [← lookup_attachment h hname] at hv
      exact .attachment hname hv hn ht
    | value hf he =>
      obtain ⟨f, hf, he⟩ := hvalue.mpr ⟨_, hf, _, he, rfl⟩
      exact .value hf he

variable (id) (now) in
theorem explains_form (h : c.Accepted via) (hforged : ¬ (c.recordOf via).isForged = true) (json : Bool) :
    Explains (form json ((c.recordOf via).allFields id now) c.traced (some c.room)) (c.Hinders via json) := by
  cases json with
  | true => exact explains_jsonText.congr fun _ => hinders_json_iff h hforged
  | false => exact (Console.explains_text (nodup_allFields h) c.traced).congr fun _ => hinders_console_iff h hforged

/-- What keeps a handler from rendering the record of a call is a failure of the rendering. -/
theorem explains_text (h : c.Accepted via) (handler : Renderer) (now : Instant) :
    Explains (handler.text (some handler.identity) (c.recordOf via) now) (c.Hinders via handler.json) := by
  rw [text_recordOf]
  split
  . next hforged =>
    obtain ⟨hvia, hmarks⟩ := isForged_recordOf.mp hforged
    refine ⟨?_, nofun⟩
    rintro _ ⟨rfl⟩
    exact .forged hvia hmarks
  . next hforged =>
    have hform := explains_form handler.identity now h hforged handler.json
    exact (hform.bind fun _ => explains_ok _).congr fun _ => iff_of_eq (or_false _)

/-- A record that can be shown is written with its fields in the form of the handler. -/
theorem exists_text (h : c.Accepted via) (handler : Renderer) (hshowable : c.Showable via handler.json)
    (now : Instant) : ∃ fields text, c.Told via handler.identity now fields
      ∧ form handler.json fields c.traced (some c.room) = .ok text
      ∧ handler.text (some handler.identity) (c.recordOf via) now = .ok (String.ofList (text ++ ['\n'])) := by
  have hexplains := explains_text h handler now
  cases hline : handler.text (some handler.identity) (c.recordOf via) now with
  | error e => exact absurd (hexplains.error e hline) (hshowable e)
  | ok line =>
    rw [text_recordOf] at hline
    split at hline
    . cases hline
    . obtain ⟨text, hform, htext⟩ := bind_eq_ok_iff.mp hline
      cases htext
      exact ⟨_, text, told_recordOf handler.identity now h, hform, rfl⟩

theorem exists_error (h : c.Accepted via) (handler : Renderer) (hshowable : ¬ c.Showable via handler.json)
    (now : Instant) : ∃ e, c.Hinders via handler.json e
      ∧ handler.text (some handler.identity) (c.recordOf via) now = .error e := by
  have hexplains := explains_text h handler now
  cases hline : handler.text (some handler.identity) (c.recordOf via) now with
  | error e => exact ⟨e, hexplains.error e hline, rfl⟩
  | ok line => exact absurd (hexplains.ok line hline) hshowable

end Call
end Log
end Readiness
