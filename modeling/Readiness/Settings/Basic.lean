import Readiness.Log.Level
import Readiness.Settings.Conversion
import Readiness.Settings.Sources

/-!
This module contains the settings of the service and their resolution from all sources. Either every field has an
acceptable value, or all fields that do not are reported.
-/

namespace Readiness

structure Settings where
  environment : String
  debug : Bool
  logLevel : Log.Level
  serviceName : String
  version : String
  port : Int
  /-- The durations are in seconds. -/
  shutdownWait : Double
  readTimeout : Double
  writeTimeout : Double
  idleTimeout : Double
  maxBodyBytes : Int
  startupDelay : Double
deriving DecidableEq, Repr

namespace Settings

def defaults : Settings where
  environment := "production"
  debug := false
  logLevel := .info
  serviceName := "simple-api"
  version := "0.1.0"
  port := 8080
  shutdownWait := .ofInt 10
  readTimeout := .ofInt 15
  writeTimeout := .ofInt 15
  idleTimeout := .ofInt 60
  maxBodyBytes := 1048576
  startupDelay := .ofInt 30

/-- A value, or all that is refused. -/
abbrev Checked (α : Type) := Except (List Refusal) α

namespace Checked

def accept {α : Type} (a : α) : Checked α :=
  .ok a

/-- Applies a function to a value; what either refuses is refused. -/
def apply {α β : Type} : Checked (α → β) → Checked α → Checked β
  | .ok f, .ok a => .ok (f a)
  | .ok _, .error rs => .error rs
  | .error rs, .ok _ => .error rs
  | .error rs, .error rs' => .error (rs ++ rs')

theorem apply_eq_ok {α β : Type} {f : Checked (α → β)} {a : Checked α} {b : β} :
    apply f a = .ok b ↔ ∃ g x, f = .ok g ∧ a = .ok x ∧ g x = b := by
  cases f <;> cases a <;> simp [apply]

end Checked

namespace Sources

/--
The value of a field: the default unless there is a value to use. That is read first; then it is converted, and a
refusal of the conversion shows what was read.
-/
def check {α : Type} (s : Sources) (f : Field) (fallback : α) (read : Json → Except Problem Json)
    (convert : Json → Except Problem α) : Checked α :=
  match s.value? f with
  | none => .ok fallback
  | some j =>
    match read j with
    | .error p => .error [⟨f, p, j⟩]
    | .ok j =>
      match convert j with
      | .error p => .error [⟨f, p, j⟩]
      | .ok a => .ok a

def checkText (s : Sources) (f : Field) (fallback : String) : Checked String :=
  s.check f fallback .ok Settings.text

/-- A text that is used without the white space around it. -/
def checkName (s : Sources) (f : Field) (fallback : String) : Checked String :=
  s.check f fallback (.ok ∘ trimText) Settings.text

def checkBoolean (s : Sources) (f : Field) (fallback : Bool) : Checked Bool :=
  s.check f fallback .ok boolean

def checkLevel (s : Sources) (f : Field) (fallback : Log.Level) : Checked Log.Level :=
  s.check f fallback .ok fun j => return .ofSetting (← Settings.text j)

def checkInteger (s : Sources) (f : Field) (fallback : Int) (least : Int) (greatest : Option Int) : Checked Int :=
  s.check f fallback .ok fun j => do within least greatest (← integer j)

def checkDuration (s : Sources) (f : Field) (fallback : Double) : Checked Double :=
  s.check f fallback readDuration fun j => do nonnegative (← number j)

end Sources

/-- The settings that the sources give. -/
def resolve (s : Sources) : Checked Settings :=
  Checked.accept Settings.mk
    |>.apply (s.checkText .environment defaults.environment)
    |>.apply (s.checkBoolean .debug defaults.debug)
    |>.apply (s.checkLevel .logLevel defaults.logLevel)
    |>.apply (s.checkName .serviceName defaults.serviceName)
    |>.apply (s.checkName .version defaults.version)
    |>.apply (s.checkInteger .port defaults.port 1 (some 65535))
    |>.apply (s.checkDuration .shutdownWait defaults.shutdownWait)
    |>.apply (s.checkDuration .readTimeout defaults.readTimeout)
    |>.apply (s.checkDuration .writeTimeout defaults.writeTimeout)
    |>.apply (s.checkDuration .idleTimeout defaults.idleTimeout)
    |>.apply (s.checkInteger .maxBodyBytes defaults.maxBodyBytes 0 none)
    |>.apply (s.checkDuration .startupDelay defaults.startupDelay)

/-- The settings with the fields of an object as arguments. -/
def resolveValue (s : Sources) : Json → Except Error Settings
  | .obj fields => (resolve { s with arguments := fields }).mapError Error.refused
  | _ => throw .notObject

/-- The fields by name, as arguments that resolve to the same settings again. -/
def fields (c : Settings) : List (String × Json) :=
  [(Field.environment.name, .str c.environment),
   (Field.debug.name, .bool c.debug),
   (Field.logLevel.name, .str c.logLevel.settingName),
   (Field.serviceName.name, .str c.serviceName),
   (Field.version.name, .str c.version),
   (Field.port.name, .int c.port),
   (Field.shutdownWait.name, .real c.shutdownWait),
   (Field.readTimeout.name, .real c.readTimeout),
   (Field.writeTimeout.name, .real c.writeTimeout),
   (Field.idleTimeout.name, .real c.idleTimeout),
   (Field.maxBodyBytes.name, .int c.maxBodyBytes),
   (Field.startupDelay.name, .real c.startupDelay)]

def isProduction (c : Settings) : Bool :=
  Text.lowerAscii c.environment == "production"

/-- Production logs JSON, any other environment logs to a console. -/
def jsonLogs (c : Settings) : Bool :=
  c.isProduction

end Settings
end Readiness
