import Readiness.Json.Printer
import Readiness.Log.Call
import Readiness.Log.Console
import Readiness.Text.Template

/-!
This module contains the configuration of logging and what it makes of a log call. Loggers form a tree by the dots in
their names; a record goes to the handlers on its way up to the root. The handlers at the root render records; a logger
of the server may come with handlers of its own that write the bare message.
-/

namespace Readiness
namespace Log

/-- How a handler at the root renders a record. -/
structure Renderer where
  json : Bool
  /-- The service that plain records name. -/
  identity : Identity
deriving DecidableEq, Repr

/-- The line of JSON for the fields of a record. -/
def jsonText (fields : List (String × Json)) (room : Option Nat) : Except RenderError (List Char) := do
  fields.forM fun f => checkValue 1 room f.2
  return (Json.obj fields).render Json.spaced

/-- What is made of the fields of a record. -/
def form (json : Bool) (fields : List (String × Json)) (traced : Bool) (room : Option Nat) :
    Except RenderError (List Char) :=
  if json then jsonText fields room else Console.text fields traced room

/--
What is written for a record, with the end of its line, if the record can be rendered. A structured record names the
service of the structured calls.
-/
def Renderer.text (h : Renderer) (structured : Option Identity) (r : Record) (now : Instant) :
    Except RenderError String :=
  let identity := match r.source with
    | .structured => structured.getD h.identity
    | .plain => h.identity
  if r.isForged then
    throw .forged
  else do
    let text ← form h.json (r.allFields identity now) r.traced r.room
    return String.ofList (text ++ ['\n'])

/-- A logger that is not in its default state. -/
structure Logger where
  name : String
  /-- The number of handlers of its own that write the bare message. -/
  handlers : Nat := 0
  /-- Whether records go on to the parent. -/
  propagate : Bool := true
  disabled : Bool := false
deriving DecidableEq, Repr

structure Registry where
  level : Level
  /-- The service that structured calls name; there is none before the configuration. -/
  structured : Option Identity
  /-- The handlers at the root. -/
  root : List Renderer
  loggers : List Logger
deriving DecidableEq, Repr

/-- What an operator can configure. -/
structure Config where
  level : String := "INFO"
  json : Bool := true
  service : String := "simple-api"
  version : String := "0.1.0"
deriving DecidableEq, Repr

namespace Registry

/-- The server's loggers for its life cycle, which the configuration takes over, and for requests, which it silences. -/
def serverLoggers : List String := ["uvicorn", "uvicorn.error"]

def accessLogger : String := "uvicorn.access"

/-- Logging before it is configured. The server may have set up its own loggers. -/
def initial (serverConfigured : Bool) : Registry :=
  { level := .warning
    structured := none
    root := []
    loggers :=
      (if serverConfigured then serverLoggers.map fun name => { name, handlers := 1, propagate := false }
        else serverLoggers.map fun name => { name }) ++ [{ name := accessLogger }] }

def logger (r : Registry) (name : String) : Logger :=
  (r.loggers.find? (·.name = name)).getD { name }

/-- Removes the handlers at the root. -/
def clear (r : Registry) : Registry :=
  { r with root := [] }

/-- Adds a handler at the root. -/
def addHandler (r : Registry) (h : Renderer) : Registry :=
  { r with root := r.root ++ [h] }

/-- Makes the server's loggers use the handlers at the root. -/
def takeOver (l : Logger) : Logger :=
  if serverLoggers.contains l.name then { l with handlers := 0, propagate := true }
  else if l.name = accessLogger then { l with disabled := true }
  else l

/-- Configures structured calls, installs the handler at the root and takes over the server's loggers. -/
def setup (r : Registry) (c : Config) : Registry :=
  let identity : Identity := ⟨c.service, c.version⟩
  let r := { r with structured := some identity }.clear.addHandler ⟨c.json, identity⟩
  { r with level := Level.ofSetting c.level, loggers := r.loggers.map takeOver }

/-- The number of handlers at the root. -/
def rootHandlers (r : Registry) : Nat :=
  r.root.length

/-- The names from a logger up to the last below the root. -/
def ancestors (name : String) : List String :=
  let parts := name.splitOn "."
  (List.range parts.length).map fun k => ".".intercalate (parts.take (parts.length - k))

/-- The handlers that a record meets: those that write the bare message, and the root's unless they are cut off. -/
def handlersFrom (r : Registry) : List String → Nat × List Renderer
  | [] => (0, r.root)
  | name :: names =>
    let l := r.logger name
    if l.propagate then
      let (n, root) := r.handlersFrom names
      (l.handlers + n, root)
    else
      (l.handlers, [])

def isEnabled (r : Registry) (name : String) (level : Level) : Bool :=
  !(r.logger name).disabled && r.level ≤ level

/-- The lines that the handlers on the way to the root write for a record. -/
def emit (r : Registry) (rec : Record) (now : Instant) : List String :=
  if r.isEnabled rec.logger rec.level then
    let (bare, root) := r.handlersFrom (ancestors rec.logger)
    List.replicate bare (rec.event ++ "\n") ++ root.filterMap fun h => (h.text r.structured rec now).toOption
  else
    []

/-- The lines written for a record. Before the configuration a structured record goes nowhere. -/
def write (r : Registry) (rec : Record) (now : Instant) : List String :=
  if rec.source = .structured ∧ r.structured.isNone then [] else r.emit rec now

/-- The handler that a record goes to and that cannot follow the values of the record. -/
def overwhelmed? (r : Registry) (rec : Record) (now : Instant) : Option Renderer :=
  if r.isEnabled rec.logger rec.level then
    (r.handlersFrom (ancestors rec.logger)).2.find? fun h =>
      match h.text r.structured rec now with
      | .error (.value .tooDeep) => true
      | _ => false
  else
    none

/-- Writes the record of a call. Values that are nested too deep for a handler are the fault of the caller. -/
def deliver (r : Registry) (rec : Record) (now : Instant) : Except CallError (List String) :=
  match r.overwhelmed? rec now with
  | some h => throw (.tooDeep h.json)
  | none => return r.write rec now

/-- Makes a structured call. Before the configuration it comes to nothing. -/
def log (r : Registry) (c : Call) (now : Instant) : Except CallError (List String) := do
  if r.structured.isNone then return [] else r.deliver (← c.structured) now

/-- Makes a plain call, with arguments for the places in its message. A message that cannot be filled is not written. -/
def logPlain (r : Registry) (c : Call) (args : List Json) (now : Instant) : Except CallError (List String) := do
  if r.isEnabled c.loggerName c.method.level then
    let rec ← c.plain
    let event? := if args.isEmpty then some c.message else (Text.Template.fill? c.message.toList args).map String.ofList
    match event? with
    | none => return []
    | some event => r.deliver { rec with event } now
  else
    return []

end Registry
end Log
end Readiness
