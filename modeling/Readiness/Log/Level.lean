import Readiness.Text.Blank
import Readiness.Text.Case

/-!
This module contains the severities of log records and the reading of the level that an operator asks for.
-/

namespace Readiness
namespace Log

inductive Level where
  | debug
  | info
  | warning
  | error
  | critical
deriving DecidableEq, Repr

namespace Level

def severity : Level → Nat
  | debug => 10
  | info => 20
  | warning => 30
  | error => 40
  | critical => 50

instance : LE Level := ⟨fun a b => a.severity ≤ b.severity⟩

instance (a b : Level) : Decidable (a ≤ b) :=
  inferInstanceAs (Decidable (a.severity ≤ b.severity))

/-- The name in records. -/
def name : Level → String
  | debug => "debug"
  | info => "info"
  | warning => "warning"
  | error => "error"
  | critical => "critical"

/-- The name in the configuration. -/
def settingName : Level → String
  | debug => "DEBUG"
  | info => "INFO"
  | warning => "WARNING"
  | error => "ERROR"
  | critical => "CRITICAL"

/-- The level that an operator asks for, in any case; what is no level asks for `info`. -/
def ofSetting (s : String) : Level :=
  let name := Text.lowerAscii (Text.trim s)
  if name = "debug" then debug
  else if name = "warn" || name = "warning" then warning
  else if name = "error" then error
  else info

end Level
end Log
end Readiness
