import Readiness.Proofs.Json.Ascii
import Readiness.Proofs.Log.Reconfiguring
import Readiness.Proofs.Service.Correlation
import Readiness.Service.Session

/-!
This module contains the lines that requests leave in the log of a service in production. Whatever a client sends, a
record is one line, and the line is read as the fields of its record.
-/

namespace Readiness

/-- The line ends where it says so, has printable ASCII before its end, and is read as the fields. -/
def Log.IsLineOf (line : String) (fields : List (String × Json)) : Prop :=
  ∃ body, line = String.ofList (body ++ ['\n']) ∧ (∀ c ∈ body, Json.IsPrintable c)
    ∧ Json.parse? (String.ofList body) = some (.obj fields)

theorem Log.isLineOf_render {fields : List (String × Json)} (h : (Json.obj fields).isPlain = true) :
    IsLineOf (String.ofList ((Json.obj fields).render Json.spaced ++ ['\n'])) fields :=
  ⟨_, rfl, Json.arePrintable_render _ h, Json.parse?_toText Json.standard_spaced h⟩

namespace Service

open Http (Header Response)

/-- What is recorded in production from the level of requests on is a line. -/
theorem exists_line {c : Settings} (hjson : c.jsonLogs = true) (hlevel : c.logLevel = .debug ∨ c.logLevel = .info)
    {r : Log.Record} (hsource : r.source = .structured) (hlogger : r.logger ≠ Log.Registry.accessLogger)
    (hrecord : Log.Level.info ≤ r.level) (hroom : r.room = none) {now : Instant} {fields : List (String × Json)}
    (hfields : r.allFields ⟨c.serviceName, c.version⟩ now = fields) (hplain : (Json.obj fields).isPlain = true) :
    ∃ line, (registryOf c).write r now = [line] ∧ Log.IsLineOf line fields := by
  refine ⟨_, ?_, Log.isLineOf_render hplain⟩
  have hsetting : Log.Level.ofSetting c.logLevel.settingName = c.logLevel := by
    rcases hlevel with h | h <;> rw [h] <;> decide +kernel
  have hwritten : c.logLevel ≤ r.level := by
    have hinfo : c.logLevel ≤ .info := by
      rcases hlevel with h | h <;> rw [h] <;> decide
    exact Nat.le_trans hinfo hrecord
  unfold registryOf
  rw [(Log.Registry.standard_initial false).write_setup]
  dsimp only
  rw [hsetting, if_pos ⟨hlogger, hwritten⟩]
  unfold Log.Renderer.text Log.Record.isForged
  rw [hsource, hjson, hroom, ← hfields]
  dsimp only
  unfold Log.form
  rw [if_pos rfl, Log.jsonText_none]
  rfl

namespace Pipeline

/-- The fields of the line of an access record. -/
def accessFields (call : Call) (id : String) (status bytes ms : Int) (remote : String) (service : Log.Identity)
    (now : Instant) : List (String × Json) := [
  ("method", .str call.method),
  ("path", .str call.path),
  ("status", .int status),
  ("bytes", .int bytes),
  ("duration_ms", .int ms),
  ("ua", .str (AccessLog.lastValue "user-agent" call.headers)),
  ("remote", .str remote),
  ("xff", .str (AccessLog.lastValue "x-forwarded-for" call.headers)),
  ("request_id", .str id),
  ("event", .str "http_request"),
  ("logger", .str "probekit.access"),
  ("level", .str "info"),
  ("timestamp", .str now.logText),
  ("service", .str service.service),
  ("version", .str service.version)]

/-- The fields of the line of a fault. -/
def faultFields (call : Call) (id : String) (summary : String) (service : Log.Identity) (now : Instant) :
    List (String × Json) := [
  ("method", .str call.method),
  ("path", .str (addressPath call.path)),
  ("request_id", .str id),
  ("event", .str "handler_fault_recovered"),
  ("logger", .str "probekit.recovery"),
  ("level", .str "error"),
  ("timestamp", .str now.logText),
  ("service", .str service.service),
  ("version", .str service.version),
  ("exception", .str summary)]

variable {call : Call} {id : String}

theorem accessRecord?_fields {response : Option Response} {start stop : Clock} (hsent : Sent id response) {ms : Int}
    {remote : String} (hms : AccessLog.durationMs start stop = .ok ms) (hremote : call.peer.text = .ok remote) :
    ∃ r : Log.Record, accessRecord? call id response start stop = some r ∧ r.source = .structured
      ∧ r.logger = "probekit.access" ∧ r.level = .info ∧ r.room = none ∧ ∀ service now, r.allFields service now =
        accessFields call id (sentOf response).status (sentOf response).bytes ms remote service now := by
  rw [accessRecord?_eq hsent, hms, hremote]
  refine ⟨_, rfl, rfl, rfl, rfl, rfl, ?_⟩
  intro service now
  rw [Log.Record.allFields_of_fresh rfl]
  . rw [Header.last?_eq, Header.last?_eq]
    rfl
  . show ∀ name ∈ Log.directives ++ Log.Record.ownNames,
      name ∉ ["method", "path", "status", "bytes", "duration_ms", "ua", "remote", "xff", "request_id"]
    decide

theorem recovered_fields (d : Defect) (service : Log.Identity) (now : Instant) :
    (recovered call id d).allFields service now = faultFields call id d.summary service now := by
  rw [Log.Record.allFields_of_fresh rfl]
  . rfl
  . show ∀ name ∈ Log.directives ++ Log.Record.ownNames, name ∉ ["method", "path", "request_id"]
    decide

/-- A request leaves records of faults and then its access record. -/
theorem exists_records (p : Pipeline) {σ : Type} {app : App σ} (happ : app.SendsLower) (w : World σ) {ms : Int}
    {remote : String} (hms : AccessLog.durationMs w.clock (p.serve app w call).world.clock = .ok ms)
    (hremote : call.peer.text = .ok remote) :
    ∃ faults r status bytes, (p.serve app w call).records = faults ++ [r]
      ∧ (∀ f ∈ faults, ∃ d, f = recovered call (p.requestId w) d)
      ∧ r.source = .structured ∧ r.logger = "probekit.access" ∧ r.level = .info ∧ r.room = none
      ∧ ∀ service now, r.allFields service now =
          accessFields call (p.requestId w) status bytes ms remote service now := by
  obtain ⟨r, hr, hsource, hlogger, hlevel, hroom, hfields⟩ :=
    accessRecord?_fields (p.sent_serve w call happ) hms hremote
  refine ⟨(p.recovery app w call).2.2, r, _, _, ?_, fun f hf => mem_recover hf, hsource, hlogger, hlevel, hroom,
    hfields⟩
  rw [records_serve, hr]
  rfl

end Pipeline

/--
In production and down to the level of requests, a request leaves its access record in one line, after the lines of
faults. Whatever texts the client sends, every line ends where its record does, and it is read as the fields of its
record, among them the texts of the client and the names of the service.
-/
theorem Session.one_line_for_each_request (s : Session) (call : Call) (hjson : s.service.settings.jsonLogs = true)
    (hlevel : s.service.settings.logLevel = .debug ∨ s.service.settings.logLevel = .info)
    (hpeer : call.peer = .unknown ∨ ∃ host port, call.peer = .address (.str host) port)
    (hstart : s.world.clock.monotonic.isInfinite = false)
    (hstop : (s.service.serve s.draw s.world call).world.clock.monotonic.isInfinite = false) :
    let r := s.service.serve s.draw s.world call
    let id := RequestId.ofBytes (s.draw (s.world.draws + 1))
    let service : Log.Identity := ⟨s.service.settings.serviceName, s.service.settings.version⟩
    ∃ faults line status bytes ms remote,
      AccessLog.durationMs s.world.clock r.world.clock = .ok ms ∧ call.peer.text = .ok remote
        ∧ (s.step (.request call)).2.2 = s.pending ++ faults ++ [line]
        ∧ Log.IsLineOf line (Pipeline.accessFields call id status bytes ms remote service r.world.clock.now)
        ∧ ∀ fault ∈ faults, ∃ summary,
            Log.IsLineOf fault (Pipeline.faultFields call id summary service r.world.clock.now) := by
  intro r id service
  obtain ⟨ms, hms⟩ := AccessLog.exists_durationMs hstart hstop
  obtain ⟨remote, hremote⟩ := Http.Peer.exists_text hpeer
  obtain ⟨faults, record, status, bytes, hrecords, hfaults, hsource, hlogger, hinfo, hroom, hfields⟩ :=
    (s.service.pipeline s.draw).exists_records (sendsLower_app s.service) s.world hms hremote
  have haccess : record.logger ≠ Log.Registry.accessLogger := by
    rw [hlogger]
    decide
  have hrecorded : Log.Level.info ≤ record.level := by
    rw [hinfo]
    decide
  obtain ⟨line, hwritten, hline⟩ := exists_line hjson hlevel hsource haccess hrecorded hroom
    (hfields service r.world.clock.now) rfl
  refine ⟨faults.flatMap fun f => (registryOf s.service.settings).write f r.world.clock.now, line, status, bytes, ms,
    remote, hms, hremote, ?_, hline, ?_⟩
  . have hstep : (s.step (.request call)).2.2 = s.pending
        ++ r.records.flatMap fun f => (registryOf s.service.settings).write f r.world.clock.now := rfl
    have hr : r.records = faults ++ [record] := hrecords
    rw [hstep, hr, List.flatMap_append, List.flatMap_singleton, hwritten, List.append_assoc]
  . intro fault hfault
    obtain ⟨f, hf, hmem⟩ := List.mem_flatMap.mp hfault
    obtain ⟨d, rfl⟩ : ∃ d, f = Pipeline.recovered call id d := hfaults f hf
    have haccess : (Pipeline.recovered call id d).logger ≠ Log.Registry.accessLogger := by
      show "probekit.recovery" ≠ _
      decide
    have hrecorded : Log.Level.info ≤ (Pipeline.recovered call id d).level := by
      show Log.Level.info ≤ .error
      decide
    obtain ⟨line, hwritten, hline⟩ := exists_line hjson hlevel rfl haccess hrecorded rfl
      (Pipeline.recovered_fields d service r.world.clock.now) rfl
    rw [hwritten, List.mem_singleton] at hmem
    exact ⟨d.summary, hmem ▸ hline⟩

/-- A path that ends its line and goes on with a record of its own, and fields of a header that are no ASCII. -/
theorem Session.one_line_for_each_request_forged :
    let service : Service := ⟨{ Settings.defaults with environment := "Production" }, "30s", false⟩
    let s := Session.start service (fun _ => List.replicate RequestId.entropy 0) ⟨0, 0⟩
    let path := "/\"\x7d\r\n\x7b\"event\": \"http_request\"\x7d\n"
    let call : Call := {
      method := "GET"
      path
      query := []
      headers := [⟨"User-Agent", "\\\t\u00e9\u0000"⟩, ⟨"X-Forwarded-For", "\u2028😀"⟩]
      peer := .unknown
      deliveries := [] }
    ∃ faults line fields, (s.step (.request call)).2.2 = s.pending ++ faults ++ [line] ∧ Log.IsLineOf line fields
      ∧ fields.lookup "path" = some (.str path) ∧ fields.lookup "ua" = some (.str "\\\t\u00e9\u0000")
      ∧ fields.lookup "xff" = some (.str "\u2028😀") ∧ fields.lookup "service" = some (.str "simple-api") := by
  intro service s path call
  obtain ⟨faults, line, _, _, _, _, _, _, hlines, hline, _⟩ := s.one_line_for_each_request call (by decide +kernel)
    (.inr rfl) (.inl rfl) (by decide +kernel) (by decide +kernel)
  have hua : AccessLog.lastValue "user-agent" call.headers = "\\\t\u00e9\u0000" := by decide +kernel
  have hxff : AccessLog.lastValue "x-forwarded-for" call.headers = "\u2028😀" := by decide +kernel
  refine ⟨faults, line, _, hlines, hline, rfl, ?_, ?_, rfl⟩
  . rw [← hua]
    rfl
  . rw [← hxff]
    rfl

end Service
end Readiness
