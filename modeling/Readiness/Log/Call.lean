import Readiness.Log.Record

/-!
This module contains log calls: what a caller asks to be logged, which calls are refused, and the records of the
others.
-/

namespace Readiness
namespace Log

/-- The ways to log, each for a level or a purpose. -/
inductive Method where
  | debug
  | info
  | warning
  | error
  /-- Logs a fault along with its trace. -/
  | exception
  | critical
  | fatal
deriving DecidableEq, Repr

namespace Method

def name : Method → String
  | debug => "debug"
  | info => "info"
  | warning => "warning"
  | error => "error"
  | exception => "exception"
  | critical => "critical"
  | fatal => "fatal"

def level : Method → Level
  | debug => .debug
  | info => .info
  | warning => .warning
  | error | exception => .error
  | critical | fatal => .critical

/-- The method with the given name; `warn` is another name of `warning`. -/
def ofName? (name : String) : Option Method :=
  if name = "warn" then
    some warning
  else
    [debug, info, warning, error, exception, critical, fatal].find? (·.name = name)

end Method

structure Call where
  logger : String
  method : Method
  message : String
  fields : List (String × Json)
  /-- How deep a handler can follow values where the call is made: the deeper the caller itself, the less. -/
  room : Nat
deriving Repr

/-- Why a call is refused. -/
inductive CallError where
  /-- The caller of a plain call sets a field that is reserved for its record. -/
  | reserved (field : String)
  /-- The caller gives a parameter a second time, as a field. -/
  | repeated (function parameter : String)
  /-- The caller gives something else for a record. -/
  | notRecord
  /-- The caller gives a value that is nested too deep for a handler, one of JSON or one for the console. -/
  | tooDeep (json : Bool)
deriving DecidableEq, Repr

def CallError.message : CallError → String
  | reserved field => "\"Attempt to overwrite '" ++ field ++ "' in LogRecord\""
  | repeated function parameter => function ++ " got multiple values for argument '" ++ parameter ++ "'"
  | notRecord => ""
  | tooDeep json => "maximum recursion depth exceeded while "
      ++ if json then "encoding a JSON object" else "getting the repr of an object"

/-- The fields that a plain call reserves for its record. -/
def reservedFields : List String :=
  ["message", "asctime", "name", "msg", "args", "levelname", "levelno", "pathname", "filename", "module", "exc_info",
    "exc_text", "stack_info", "lineno", "funcName", "created", "msecs", "relativeCreated", "thread", "threadName",
    "processName", "process"]

namespace Call

/-- The name of the logger; the root goes by an empty name too. -/
def loggerName (c : Call) : String :=
  if c.logger.isEmpty then "root" else c.logger

/-- Whether the trace of a fault is asked for: what the caller says, or else what the method is for. -/
def traced (c : Call) : Bool :=
  match c.fields.lookup "exc_info" with
  | some value => !value.isVoid
  | none => c.method = .exception

/-- The parameter that is given a second time, with the function that takes it. -/
def repeated? (c : Call) : Option CallError :=
  match c.fields.find? fun f => f.1 = "event" || f.1 = "self" with
  | some f => some (.repeated ("BoundLogger." ++ c.method.name ++ "()") f.1)
  | none =>
    if c.fields.any (·.1 = "method_name") then
      some (.repeated "BoundLogger._proxy_to_logger()" "method_name")
    else
      none

/-- Whether a field stands in for the record. -/
def replacesRecord (c : Call) : Bool :=
  match c.fields.lookup "_record" with
  | none | some .null => false
  | some _ => true

/-- The record of a structured call. -/
def structured (c : Call) : Except CallError Record :=
  match c.repeated? with
  | some e => throw e
  | none =>
    if c.replacesRecord then
      throw .notRecord
    else
      return { source := .structured, logger := c.loggerName, level := c.method.level, event := c.message,
               fields := c.fields, traced := c.traced, room := some c.room }

/-- The record of a plain call. -/
def plain (c : Call) : Except CallError Record :=
  match c.fields.find? fun f => reservedFields.contains f.1 with
  | some f => throw (.reserved f.1)
  | none =>
    return { source := .plain, logger := c.loggerName, level := c.method.level, event := c.message,
             fields := c.fields, traced := c.traced, room := some c.room }

end Call
end Log
end Readiness
