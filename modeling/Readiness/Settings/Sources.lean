import Readiness.EnvFile
import Readiness.Settings.Problem
import Readiness.Text.Case

/-!
This module contains where settings come from: arguments, then the environment, then a file of variables. Names count
in any case; of several spellings the first counts among arguments, the last among variables. An empty value of the
last two sources is as good as none; a blank value that wins leaves the field at its default.
-/

namespace Readiness
namespace Settings

structure Sources where
  arguments : List (String × Json) := []
  environment : List (String × String) := []
  /-- The text of the file, if there is one. -/
  file : Option String := none
deriving Repr

/-- The first value with the given name, in any case. -/
def firstNamed? {α : Type} (name : String) (values : List (String × α)) : Option α :=
  (values.find? fun v => Text.lowerAscii v.1 == name).map (·.2)

/-- The last value with the given name, in any case. -/
def lastNamed? {α : Type} (name : String) (values : List (String × α)) : Option α :=
  firstNamed? name values.reverse

namespace Sources

/-- The variables of the file. -/
def fileVariables (s : Sources) : EnvFile.Variables :=
  (s.file.map (EnvFile.Variables.ofText s.environment)).getD []

def ofEnvironment? (s : Sources) (f : Field) : Option String :=
  lastNamed? f.name (s.environment.filter (·.2 ≠ ""))

def ofFile? (s : Sources) (f : Field) : Option String :=
  (lastNamed? f.name (s.fileVariables.filter (·.2 ≠ some ""))).join

/-- The value that the first source with one gives to a field. -/
def given? (s : Sources) (f : Field) : Option Json :=
  firstNamed? f.name s.arguments <|> (s.ofEnvironment? f <|> s.ofFile? f).map Json.str

def isBlankText : Json → Bool
  | .str s => s.toList.all Text.isBlank
  | _ => false

/-- The value to use for a field, if it is not to be the default. -/
def value? (s : Sources) (f : Field) : Option Json :=
  (s.given? f).filter (!isBlankText ·)

end Sources
end Settings
end Readiness
