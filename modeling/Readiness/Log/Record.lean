import Readiness.Instant.Basic
import Readiness.Json.Basic
import Readiness.Log.Level

/-!
This module contains log records: a named event with fields, and the order in which a record lists the fields of
its caller and its own.
-/

namespace Readiness
namespace Log

/-- Where the fields of the caller stand among those of the record. -/
inductive Source where
  /-- A structured call: the fields of the caller come first and give way to those of the record. -/
  | structured
  /-- A plain call: the fields of the caller come after the event, the logger and the level, and replace them. -/
  | plain
deriving DecidableEq, Repr

structure Record where
  source : Source
  logger : String
  level : Level
  event : String
  fields : List (String × Json)
  /-- Whether the caller asked for the trace of a fault, even if there is none. -/
  traced : Bool := false
  /-- The last line of the trace of the fault that the record reports. -/
  exception : Option String := none
  /--
  How deep a handler can follow the values of the fields where the caller made the record. The service's own records
  have only texts and short integers, so there is nothing to follow.
  -/
  room : Option Nat := none
deriving Repr

/-- The service that every record names unless its caller did. -/
structure Identity where
  service : String
  version : String
deriving DecidableEq, Repr

/-- The fields of a caller that say how to make a record and are not part of it. -/
def directives : List String :=
  ["exc_info", "stack_info", "_record", "_from_structlog"]

/-- Whether a plain call bears the marks of a structured one; such a record cannot be rendered. -/
def Record.isForged (r : Record) : Bool :=
  r.source = .plain && ["_logger", "_name"].all fun mark => r.fields.any (·.1 = mark)

/-- The fields of the record without those that name the service. -/
def Record.baseFields (r : Record) (now : Instant) : List (String × Json) :=
  let given := r.fields.filter fun f => !directives.contains f.1
  let own := [("logger", Json.str r.logger), ("level", Json.str r.level.name)]
  let all := match r.source with
    | .structured => own.foldl (fun fs f => Json.setField fs f.1 f.2) (given ++ [("event", .str r.event)])
    | .plain => given.foldl (fun fs f => Json.setField fs f.1 f.2) (("event", .str r.event) :: own)
  Json.setField all "timestamp" (.str now.logText)

/-- All fields of the record. -/
def Record.allFields (r : Record) (id : Identity) (now : Instant) : List (String × Json) :=
  let fields := Json.addField (r.baseFields now) "service" (.str id.service)
  let fields := Json.addField fields "version" (.str id.version)
  match r.exception with
  | none => fields
  | some e => Json.setField fields "exception" (.str e)

end Log
end Readiness
