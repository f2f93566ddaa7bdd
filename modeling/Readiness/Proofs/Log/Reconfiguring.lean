import Readiness.Proofs.Log.Calls
import Readiness.Proofs.Log.Levels
import Readiness.Proofs.Text.Digits

/-!
This module contains logging that is configured again and again. Every configuration leaves logging as if it had been
the first, so that each call whose record can be rendered makes one line, in the latest form and for the latest service.
-/

namespace Readiness
namespace Log

/-- What happens to logging. A plain call has no arguments for places in its message. -/
inductive Event where
  | setup (c : Config)
  | call (via : Source) (c : Call) (now : Instant)

/-- The configuration after the event. -/
def Event.latest (c : Config) : Event → Config
  | setup c' => c'
  | call .. => c

namespace Registry

/-- The lines that a call makes. -/
def answer (r : Registry) (via : Source) (c : Call) (now : Instant) : Except CallError (List String) :=
  match via with
  | .structured => r.log c now
  | .plain => r.logPlain c [] now

def after (r : Registry) : Event → Registry
  | .setup c => r.setup c
  | .call .. => r

def run (r : Registry) (events : List Event) : Registry :=
  events.foldl after r

theorem run_cons (r : Registry) (e : Event) (events : List Event) : r.run (e :: events) = (r.after e).run events :=
  List.foldl_cons ..

theorem run_append (r : Registry) (before events : List Event) :
    r.run (before ++ events) = (r.run before).run events :=
  List.foldl_append

theorem takeOver_name (l : Logger) : (takeOver l).name = l.name := by
  unfold takeOver
  split
  . rfl
  . split <;> rfl

theorem takeOver_takeOver (l : Logger) : takeOver (takeOver l) = takeOver l := by
  unfold takeOver
  by_cases hserver : serverLoggers.contains l.name = true
  . rw [if_pos hserver, if_pos hserver]
  . by_cases haccess : l.name = accessLogger
    . rw [if_neg hserver, if_pos haccess, if_neg hserver, if_pos haccess]
    . rw [if_neg hserver, if_neg haccess, if_neg hserver, if_neg haccess]

@[simp]
theorem setup_level (r : Registry) (c : Config) : (r.setup c).level = Level.ofSetting c.level := by
  rw [setup]

@[simp]
theorem setup_structured (r : Registry) (c : Config) : (r.setup c).structured = some ⟨c.service, c.version⟩ :=
  rfl

@[simp]
theorem setup_root (r : Registry) (c : Config) : (r.setup c).root = [⟨c.json, c.service, c.version⟩] :=
  rfl

@[simp]
theorem setup_loggers (r : Registry) (c : Config) : (r.setup c).loggers = r.loggers.map takeOver :=
  rfl

/-- Nothing is left of an earlier configuration. -/
theorem setup_setup (r : Registry) (c c' : Config) : (r.setup c).setup c' = r.setup c' := by
  have hloggers : (r.loggers.map takeOver).map takeOver = r.loggers.map takeOver := by
    rw [List.map_map]
    exact List.map_congr_left fun l _ => takeOver_takeOver l
  unfold setup
  simp only [clear, addHandler, hloggers]

theorem after_setup (r : Registry) (c : Config) (e : Event) : (r.setup c).after e = r.setup (e.latest c) := by
  cases e with
  | setup c' => exact setup_setup r c c'
  | call via call now => rfl

theorem run_setup (r : Registry) (c : Config) (events : List Event) :
    (r.setup c).run events = r.setup (events.foldl Event.latest c) := by
  induction events generalizing c with
  | nil => rfl
  | cons e events ih =>
    rw [run_cons, after_setup, ih, List.foldl_cons]

theorem run_eq (r : Registry) (events : List Event) : r.run events = r ∨ ∃ c, r.run events = r.setup c := by
  induction events with
  | nil => exact .inl rfl
  | cons e events ih =>
    rw [run_cons]
    cases e with
    | setup c =>
      rw [after, run_setup]
      exact .inr ⟨_, rfl⟩
    | call via call now =>
      rw [after]
      exact ih

theorem latest_of_calls {events : List Event} (h : ∀ c, .setup c ∉ events) (c : Config) :
    events.foldl Event.latest c = c := by
  induction events with
  | nil => rfl
  | cons e events ih =>
    have hevents : ∀ c, .setup c ∉ events := fun c hc => h c (List.mem_cons_of_mem e hc)
    rw [List.foldl_cons]
    cases e with
    | setup c' => exact absurd List.mem_cons_self (h c')
    | call via call now =>
      rw [Event.latest]
      exact ih hevents

/-- Whatever happened before, the latest configuration is all that counts. -/
theorem run_of_latest (r : Registry) (before : List Event) (c : Config) {between : List Event}
    (h : ∀ c, .setup c ∉ between) : r.run (before ++ .setup c :: between) = r.setup c := by
  -- the events before have left a configuration at most, and this one covers it
  have hsetup : (r.run before).setup c = r.setup c := by
    rcases run_eq r before with hbefore | ⟨c', hbefore⟩
    . rw [hbefore]
    . rw [hbefore, setup_setup]
  rw [run_append, run_cons, after, hsetup, run_setup, latest_of_calls h]

/--
The loggers of the server's life cycle may have handlers and may be cut off. The one for requests is in its place, and
no other is silenced.
-/
structure Standard (r : Registry) : Prop where
  known : ∀ l ∈ r.loggers, l.name ∈ serverLoggers ∧ l.disabled = false
    ∨ l.name = accessLogger ∧ l.handlers = 0 ∧ l.propagate = true
  access : ∃ l ∈ r.loggers, l.name = accessLogger

theorem standard_initial (serverConfigured : Bool) : (initial serverConfigured).Standard := by
  cases serverConfigured <;> exact ⟨by decide, by decide⟩

variable {r : Registry}

theorem Standard.takeOver (h : r.Standard) {l : Logger} (hl : l ∈ r.loggers) :
    (takeOver l).handlers = 0 ∧ (takeOver l).propagate = true
      ∧ (takeOver l).disabled = decide (l.name = accessLogger) := by
  have hdistinct : accessLogger ∉ serverLoggers := by decide
  unfold Registry.takeOver
  rcases h.known l hl with ⟨hname, hdisabled⟩ | ⟨hname, hhandlers, hpropagate⟩
  . have hne : l.name ≠ accessLogger := fun heq => hdistinct (heq ▸ hname)
    simp [hname, hdisabled, hne]
  . simp [hname, hdistinct, hhandlers, hpropagate]

/-- After a configuration the handlers are those at the root, and one logger is silenced. -/
theorem Standard.logger_setup (h : r.Standard) (c : Config) (name : String) :
    ((r.setup c).logger name).handlers = 0 ∧ ((r.setup c).logger name).propagate = true
      ∧ ((r.setup c).logger name).disabled = decide (name = accessLogger) := by
  unfold logger
  rw [setup_loggers]
  cases hfind : (r.loggers.map Registry.takeOver).find? (·.name = name) with
  | some l' =>
    obtain ⟨l, hl, rfl⟩ := List.mem_map.mp (List.mem_of_find?_eq_some hfind)
    have hname := List.find?_some hfind
    rw [takeOver_name, decide_eq_true_iff] at hname
    subst hname
    exact h.takeOver hl
  | none =>
    -- the logger for requests is in its place, so this is another one, in its default state
    have hne : name ≠ accessLogger := by
      rintro rfl
      obtain ⟨l, hl, hname⟩ := h.access
      have hnot := List.find?_eq_none.mp hfind _ (List.mem_map_of_mem hl)
      rw [takeOver_name] at hnot
      exact hnot (decide_eq_true hname)
    simp [hne]

theorem Standard.handlersFrom_setup (h : r.Standard) (c : Config) (names : List String) :
    (r.setup c).handlersFrom names = (0, [⟨c.json, c.service, c.version⟩]) := by
  induction names with
  | nil => rw [handlersFrom, setup_root]
  | cons name names ih =>
    obtain ⟨hhandlers, hpropagate, _⟩ := h.logger_setup c name
    rw [handlersFrom, ih, hhandlers, hpropagate]
    rfl

theorem Standard.isEnabled_setup_iff (h : r.Standard) (c : Config) {name : String} {level : Level} :
    (r.setup c).isEnabled name level = true ↔ name ≠ accessLogger ∧ Level.ofSetting c.level ≤ level := by
  unfold isEnabled
  rw [(h.logger_setup c name).2.2, Bool.and_eq_true, Bool.not_eq_true', decide_eq_false_iff_not, decide_eq_true_iff,
    setup_level]

theorem Standard.write_setup (h : r.Standard) (c : Config) (rec : Record) (now : Instant) :
    (r.setup c).write rec now =
      if rec.logger ≠ accessLogger ∧ Level.ofSetting c.level ≤ rec.level then
        (Renderer.text ⟨c.json, c.service, c.version⟩ (some ⟨c.service, c.version⟩) rec now).toOption.toList
      else [] := by
  have hconfigured : ¬ (rec.source = .structured ∧ (r.setup c).structured.isNone = true) := by
    simp
  unfold write emit
  rw [if_neg hconfigured, h.handlersFrom_setup]
  by_cases hwritten : rec.logger ≠ accessLogger ∧ Level.ofSetting c.level ≤ rec.level
  . rw [if_pos ((h.isEnabled_setup_iff c).mpr hwritten), if_pos hwritten, setup_structured]
    cases htext : Renderer.text ⟨c.json, c.service, c.version⟩ (some ⟨c.service, c.version⟩) rec now with
    | error e => simp [htext, Except.toOption]
    | ok text => simp [htext, Except.toOption]
  . rw [if_neg (fun hb => hwritten ((h.isEnabled_setup_iff c).mp hb)), if_neg hwritten]

/-- What comes of a record: its line, or nothing. What is nested too deep fails the call. -/
def outcome (json : Bool) : Except RenderError String → Except CallError (List String)
  | .ok line => .ok [line]
  | .error e => if e = .value .tooDeep then .error (.tooDeep json) else .ok []

theorem Standard.deliver_setup (h : r.Standard) (c : Config) (rec : Record) (now : Instant) :
    (r.setup c).deliver rec now =
      if rec.logger ≠ accessLogger ∧ Level.ofSetting c.level ≤ rec.level then
        outcome c.json (Renderer.text ⟨c.json, c.service, c.version⟩ (some ⟨c.service, c.version⟩) rec now)
      else .ok [] := by
  unfold deliver overwhelmed?
  rw [h.write_setup, h.handlersFrom_setup, setup_structured]
  by_cases hwritten : rec.logger ≠ accessLogger ∧ Level.ofSetting c.level ≤ rec.level
  . rw [if_pos ((h.isEnabled_setup_iff c).mpr hwritten), if_pos hwritten, if_pos hwritten]
    dsimp only
    rw [List.find?_singleton]
    cases Renderer.text ⟨c.json, c.service, c.version⟩ (some ⟨c.service, c.version⟩) rec now with
    | ok line => rfl
    | error e =>
      cases e with
      | value e => cases e <;> rfl
      | _ => rfl
  . rw [if_neg (fun hb => hwritten ((h.isEnabled_setup_iff c).mp hb)), if_neg hwritten, if_neg hwritten]
    rfl

theorem deliver_of_not_isEnabled (rec : Record) (h : r.isEnabled rec.logger rec.level = false) (now : Instant) :
    r.deliver rec now = .ok [] := by
  have hhandler : r.overwhelmed? rec now = none := by
    unfold overwhelmed?
    rw [h]
    rfl
  have hlines : r.write rec now = [] := by
    unfold write emit
    rw [h]
    split <;> rfl
  unfold deliver
  rw [hhandler, hlines]
  rfl

variable {via : Source} {call : Call}

theorem answer_setup (r : Registry) (c : Config) (hcall : call.Accepted via) (now : Instant) :
    (r.setup c).answer via call now = (r.setup c).deliver (call.recordOf via) now := by
  cases via with
  | structured =>
    unfold answer log
    rw [hcall.structured_eq]
    rfl
  | plain =>
    unfold answer logPlain
    rw [hcall.plain_eq]
    cases henabled : (r.setup c).isEnabled call.loggerName call.method.level with
    | true => rfl
    | false =>
      rw [deliver_of_not_isEnabled (call.recordOf .plain) henabled]
      rfl

theorem Standard.answer_setup (h : r.Standard) (c : Config) (hcall : call.Accepted via) (now : Instant) :
    (r.setup c).answer via call now =
      if call.loggerName ≠ accessLogger ∧ Level.ofSetting c.level ≤ call.method.level then
        outcome c.json
          (Renderer.text ⟨c.json, c.service, c.version⟩ (some ⟨c.service, c.version⟩) (call.recordOf via) now)
      else .ok [] := by
  rw [Registry.answer_setup r c hcall, h.deliver_setup, Call.recordOf_logger, Call.recordOf_level]

/-- A call whose record cannot be shown is lost or fails. -/
theorem Standard.lines_eq_nil (h : r.Standard) (c : Config) (hcall : call.Accepted via)
    (hshowable : ¬ call.Showable via c.json) {now : Instant} {lines : List String}
    (hlines : (r.setup c).answer via call now = .ok lines) : lines = [] := by
  obtain ⟨e, _, htext⟩ := Call.exists_error hcall ⟨c.json, c.service, c.version⟩ hshowable now
  rw [h.answer_setup c hcall, htext] at hlines
  unfold outcome at hlines
  split at hlines
  . dsimp only at hlines
    split at hlines <;> cases hlines
    rfl
  . cases hlines
    rfl

theorem eq_render_of_form {fields : List (String × Json)} {traced : Bool} {room : Option Nat} {text : List Char}
    (h : form true fields traced room = .ok text) : text = (Json.obj fields).render Json.spaced := by
  obtain ⟨_, _, htext⟩ := bind_eq_ok_iff.mp h
  cases htext
  rfl

/--
However often logging was configured, there is one handler at the root, with the latest level, and the server's loggers
use it. A call below the level or on the logger for requests makes no line. Any other makes one line, in the latest form
and for the latest service, unless something keeps the record from being rendered: then there is no line, and a value
that is nested too deep fails the call.
-/
theorem one_line_for_each_call (h : r.Standard) (before between : List Event) (c : Config)
    (hlatest : ∀ c, .setup c ∉ between) :
    let s := r.run (before ++ .setup c :: between)
    s.rootHandlers = 1 ∧ Level.Asks c.level s.level
      ∧ (∀ name ∈ serverLoggers, (s.logger name).handlers = 0 ∧ (s.logger name).propagate = true)
      ∧ ∀ via call now, call.Accepted via →
          (call.loggerName = accessLogger ∨ ¬ s.level ≤ call.method.level → s.answer via call now = .ok [])
            ∧ (call.loggerName ≠ accessLogger ∧ s.level ≤ call.method.level →
                (call.Showable via c.json → ∃ fields text, call.Told via ⟨c.service, c.version⟩ now fields
                    ∧ (c.json = true → text = (Json.obj fields).render Json.spaced)
                    ∧ (c.json = false → Console.text fields call.traced (some call.room) = .ok text)
                    ∧ s.answer via call now = .ok [String.ofList (text ++ ['\n'])])
                  ∧ (¬ call.Showable via c.json → ∃ e, call.Hinders via c.json e
                    ∧ s.answer via call now = if e = .value .tooDeep then .error (.tooDeep c.json) else .ok [])) := by
  intro s
  have hs : s = r.setup c := run_of_latest r before c hlatest
  rw [hs]
  refine ⟨rfl, Level.ofSetting_eq_iff.mp (setup_level r c).symm,
    fun name _ => ⟨(h.logger_setup c name).1, (h.logger_setup c name).2.1⟩, ?_⟩
  intro via call now hcall
  rw [h.answer_setup c hcall, setup_level]
  refine ⟨?_, ?_⟩
  . intro hquiet
    rw [if_neg]
    rintro ⟨hlogger, hlevel⟩
    exact hquiet.elim hlogger (fun hbelow => hbelow hlevel)
  . intro hloud
    rw [if_pos hloud]
    constructor
    . intro hshowable
      obtain ⟨fields, text, htold, hform, htext⟩ := Call.exists_text hcall ⟨c.json, c.service, c.version⟩ hshowable now
      refine ⟨fields, text, htold, ?_, ?_, ?_⟩
      . intro hjson
        rw [hjson] at hform
        exact eq_render_of_form hform
      . intro hjson
        rw [hjson] at hform
        exact hform
      . rw [htext]
        rfl
    . intro hshowable
      obtain ⟨e, he, htext⟩ := Call.exists_error hcall ⟨c.json, c.service, c.version⟩ hshowable now
      refine ⟨e, he, ?_⟩
      rw [htext]
      rfl

/-- The server had its own handlers, and the console came first. The caller names another service. -/
theorem one_line_for_each_call_taken_over :
    let before : List Event :=
      [.setup { json := false, service := "first" }, .call .structured ⟨"l", .info, "e", [], 900⟩ ⟨0⟩]
    let s := (initial true).run (before ++ .setup { level := " Warn", service := "second", version := "2" } :: [])
    let call : Call := ⟨"uvicorn.error", .error, "late", [("service", .str "own"), ("k", .arr [.int 1])], 900⟩
    s.rootHandlers = 1 ∧ s.level = .warning ∧ ∃ fields : List (String × Json),
      fields.lookup "event" = some (.str "late") ∧ fields.lookup "service" = some (.str "own")
        ∧ fields.lookup "version" = some (.str "2") ∧ fields.lookup "k" = some (.arr [.int 1])
        ∧ s.answer .plain call ⟨0⟩ = .ok [String.ofList ((Json.obj fields).render Json.spaced ++ ['\n'])] := by
  intro before s call
  obtain ⟨hhandlers, hlevel, _, hcalls⟩ := one_line_for_each_call (standard_initial true) before []
    { level := " Warn", service := "second", version := "2" } (fun _ h => nomatch h)
  have hwarning : s.level = .warning := by
    rw [← Level.ofSetting_eq_iff] at hlevel
    rw [← hlevel]
    decide +kernel
  have haccepted : call.Accepted .plain := ⟨by decide, nofun, fun _ => by decide⟩
  have hshowable : call.Showable .plain true := by
    intro e he
    cases he with
    | forged _ hmarks => exact absurd (hmarks "_name" (by decide)) (by decide)
    | level hjson => cases hjson
    | attachment hjson => cases hjson
    | @value f e hf he =>
      have hvalues : ∀ f ∈ call.shown .plain, f.2.check 1 900 = .ok () := by
        show ∀ f ∈ [("service", Json.str "own"), ("k", .arr [.int 1])], f.2.check 1 900 = .ok ()
        simp only [List.forall_mem_cons]
        exact ⟨rfl, rfl, nofun⟩
      exact (Json.explains_check 1 900 f.2).ok () (hvalues f hf) e he
  have hloud : s.level ≤ call.method.level := by
    rw [hwarning]
    decide
  obtain ⟨fields, text, htold, hjson, _, hline⟩ :=
    ((hcalls .plain call ⟨0⟩ haccepted).2 ⟨by decide, hloud⟩).1 hshowable
  refine ⟨hhandlers, hwarning, fields, htold.own "event" (by decide), htold.service, htold.version, ?_, ?_⟩
  . exact htold.given "k" (by decide) (by decide) (by decide) (by decide)
  . rw [← hjson rfl]
    exact hline

/--
Calls that are accepted and still make no line: the console cannot show them, they pass for structured, or a value in
them has too many digits or is nested too deep.
-/
theorem no_line_for_some_calls :
    let calls : List (Bool × Source × Call) := [
      (false, .structured, ⟨"l", .info, "e", [("exception", .int 5)], 900⟩),
      (false, .plain, ⟨"l", .info, "e", [("level", .int 5)], 900⟩),
      (true, .plain, ⟨"l", .info, "e", [("_logger", .int 5), ("_name", .int 5)], 900⟩),
      (true, .structured, ⟨"l", .info, "e", [("k", .int (10 ^ 4300))], 900⟩),
      (true, .structured, ⟨"l", .info, "e", [("k", .arr [.arr []])], 1⟩)]
    ∀ c ∈ calls,
      let s := (initial false).setup { json := c.1 }
      c.2.2.Accepted c.2.1 ∧ s.level ≤ c.2.2.method.level ∧ c.2.2.loggerName ≠ accessLogger
        ∧ ∀ lines, s.answer c.2.1 c.2.2 ⟨0⟩ = .ok lines → lines = [] := by
  intro calls
  have hinfo : Level.ofSetting "INFO" = .info := by decide +kernel
  have hlevel (json : Bool) : ((initial false).setup { json }).level = .info := (setup_level _ _).trans hinfo
  have hlost {json : Bool} {via : Source} {c : Call} {e : RenderError} (hc : c.Accepted via) (hm : c.method = .info)
      (hl : c.loggerName = "l") (he : c.Hinders via json e) :
      let s := (initial false).setup { json }
      c.Accepted via ∧ s.level ≤ c.method.level ∧ c.loggerName ≠ accessLogger
        ∧ ∀ lines, s.answer via c ⟨0⟩ = .ok lines → lines = [] := by
    intro s
    have hlogger : c.loggerName ≠ accessLogger := by
      rw [hl]
      decide
    have hwritten : s.level ≤ c.method.level := by
      rw [hlevel json, hm]
      decide
    exact ⟨hc, hwritten, hlogger, fun lines hlines =>
      (standard_initial false).lines_eq_nil { json } hc (fun hshowable => hshowable e he) hlines⟩
  have hlong {k : Nat} (hk : 0 < k) : k < (Nat.toDigits 10 ((10 : Int) ^ k).natAbs).length := by
    rw [Int.natAbs_pow]
    exact Text.lt_length_toDigits hk (Nat.le_refl _)
  simp only [calls, List.forall_mem_cons]
  refine ⟨?_, ?_, ?_, ?_, ?_, nofun⟩
  . have hname : "exception" ∈ Console.attachments := by decide
    exact hlost (Call.accepted_of_field (by decide)) rfl rfl (.attachment rfl hname rfl (fun h => nomatch h) nofun)
  . exact hlost ⟨by decide, nofun, fun _ => by decide⟩ rfl rfl (.level rfl rfl rfl nofun)
  . exact hlost ⟨by decide, nofun, fun _ => by decide⟩ rfl rfl (.forged rfl (by decide))
  . have hnumber : 4300 < (Nat.toDigits 10 ((10 : Int) ^ 4300).natAbs).length := hlong (by decide)
    exact hlost (Call.accepted_of_field (by decide)) rfl rfl
      (.value List.mem_cons_self (.tooLong List.mem_cons_self hnumber))
  . exact hlost (Call.accepted_of_field (by decide)) rfl rfl (.value List.mem_cons_self (.tooDeep (by decide)))

end Registry
end Log
end Readiness
