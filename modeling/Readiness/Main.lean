import Readiness.Launch
import Std.Time.DateTime.Timestamp

/-!
This module contains the command line of the service. It reads the process environment and the file `.env` in the
current directory, reports settings that are refused and logs what the server is configured with.
-/

namespace Readiness
namespace Main

/-- The variables of a process, from their text form: each `NAME=value`, with a zero byte after it. -/
def variablesOfText (s : String) : List (String × String) :=
  (s.splitOn "\x00").filterMap fun entry =>
    match entry.splitOn "=" with
    | name :: value :: more => some (name, "=".intercalate (value :: more))
    | _ => none

def readEnvironment : IO (List (String × String)) :=
  try
    return variablesOfText (← IO.FS.readFile "/proc/self/environ")
  catch _ =>
    return []

def readVariables : IO (Option String) :=
  try
    return some (← IO.FS.readFile ".env")
  catch _ =>
    return none

def readClock : IO Clock := do
  return ⟨(← IO.monoNanosNow), (← Std.Time.Timestamp.now).toNanosecondsSinceUnixEpoch.toInt⟩

end Main
end Readiness

open Readiness in
def main : IO UInt32 := do
  let sources : Settings.Sources := {
    environment := ← Main.readEnvironment
    file := ← Main.readVariables }
  match Launch.launch sources with
  | .error e =>
    IO.eprintln e.message
    return 1
  | .ok result =>
    (Launch.complaints sources result).forM IO.eprintln
    let start ← Main.readClock
    (Launch.lines "app.main" start (← Main.readClock) result).forM IO.print
    return UInt32.ofNat result.exitCode
