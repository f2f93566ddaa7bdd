import Readiness.Duration.Parser
import Readiness.Json.Display

/-!
This module contains what can be wrong with a configured value: the cause, its code and its message.
-/

namespace Readiness
namespace Settings

inductive Field where
  | environment
  | debug
  | logLevel
  | serviceName
  | version
  | port
  | shutdownWait
  | readTimeout
  | writeTimeout
  | idleTimeout
  | maxBodyBytes
  | startupDelay
deriving DecidableEq, Repr

/-- The name under which operators know the field, in lower case. -/
def Field.name : Field → String
  | environment => "environment"
  | debug => "debug"
  | logLevel => "log_level"
  | serviceName => "service_name"
  | version => "version"
  | port => "port"
  | shutdownWait => "shutdown_wait"
  | readTimeout => "read_timeout"
  | writeTimeout => "write_timeout"
  | idleTimeout => "idle_timeout"
  | maxBodyBytes => "max_body_bytes"
  | startupDelay => "startup_delay"

/-- Why a value is refused. -/
inductive Problem where
  | notText
  | notBoolean
  | booleanText
  | notInteger
  | integerText
  | integerTooLong
  | fraction
  | notFinite
  | notNumber
  | duration (e : Duration.Error)
  | below (least : Int)
  | above (greatest : Int)
deriving DecidableEq, Repr

namespace Problem

def code : Problem → String
  | notText => "string_type"
  | notBoolean => "bool_type"
  | booleanText => "bool_parsing"
  | notInteger => "int_type"
  | integerText => "int_parsing"
  | integerTooLong => "int_parsing_size"
  | fraction => "int_from_float"
  | notFinite => "finite_number"
  | notNumber => "float_type"
  | duration _ => "value_error"
  | below _ => "greater_than_equal"
  | above _ => "less_than_equal"

def message : Problem → String
  | notText => "Input should be a valid string"
  | notBoolean => "Input should be a valid boolean"
  | booleanText => "Input should be a valid boolean, unable to interpret input"
  | notInteger => "Input should be a valid integer"
  | integerText => "Input should be a valid integer, unable to parse string as an integer"
  | integerTooLong => "Unable to parse input string as an integer, exceeded maximum size"
  | fraction => "Input should be a valid integer, got a number with a fractional part"
  | notFinite => "Input should be a finite number"
  | notNumber => "Input should be a valid number"
  | duration e => "Value error, " ++ e.message
  | below least => s!"Input should be greater than or equal to {least}"
  | above greatest => s!"Input should be less than or equal to {greatest}"

end Problem

/-- A value that is refused. Of a duration text that can be read this is its number of seconds. -/
structure Refusal where
  field : Field
  problem : Problem
  value : Json
deriving Repr

/-- Why there are no settings. -/
inductive Error where
  /-- The values come as something else than an object. -/
  | notObject
  | refused (refusals : List Refusal)
deriving Repr

namespace Error

def notObjectCode : String := "model_type"

def notObjectMessage : String := "Input should be a valid dictionary or instance of ProbeServiceSettings"

end Error

end Settings
end Readiness
