import Readiness.Json.Display
import Readiness.Log.Record
import Readiness.Log.RenderError

/-!
This module contains the console form of a record: the time, the level, the event and the logger in colour, then the
other fields ordered by their names. Traces follow on lines of their own.
-/

namespace Readiness
namespace Log
namespace Console

/-- The control sequence that selects a rendition of characters. -/
def select (code : String) : List Char :=
  Char.ofNat 27 :: '[' :: code.toList ++ ['m']

def reset : List Char := select "0"
def dim : List Char := select "2"
def bold : List Char := select "1"
def red : List Char := select "31"
def green : List Char := select "32"
def yellow : List Char := select "33"
def blue : List Char := select "34"
def magenta : List Char := select "35"
def cyan : List Char := select "36"
def redBackground : List Char := select "41"

/-- The style of a level; a name that is no level has none. -/
def levelStyle (name : String) : List Char :=
  if name = "debug" || name = "info" then green ++ bold
  else if name = "warning" || name = "warn" then yellow ++ bold
  else if name = "error" || name = "critical" || name = "exception" then red ++ bold
  else if name = "notset" then redBackground ++ bold
  else []

def pad (width : Nat) (l : List Char) : List Char :=
  l.rightpad width ' '

/-- Whether a text needs quotes to be told from what surrounds it. -/
def needsQuotes (l : List Char) : Bool :=
  l.any fun c => c = ' ' || c = '\t' || c = '\r' || c = '\n' || c = '=' || c = '"' || c = '\''

def valueText : Json → List Char
  | .str s => if needsQuotes s.toList then Text.quotedChars s.toList else s.toList
  | j => j.display

/-- Checks a value that is shown. An empty list or object is not followed any further than a plain value. -/
def check (room : Option Nat) (value : Json) : Except RenderError Unit :=
  checkValue 0 room value

def fieldText (name : String) (room : Option Nat) (value : Json) : Except RenderError (List Char) := do
  check room value
  return cyan ++ name.toList ++ reset ++ '=' :: magenta ++ valueText value ++ reset

def timeText (room : Option Nat) (value : Json) : Except RenderError (List Char) := do
  check room value
  return dim ++ value.displayBare ++ reset

/-- A level has to be a text. -/
def levelText : Json → Except RenderError (List Char)
  | .str name => return '[' :: levelStyle name ++ pad 9 name.toList ++ reset ++ [']']
  | _ => throw .notText

def eventText (room : Option Nat) (value : Json) : Except RenderError (List Char) := do
  check room value
  return bold ++ pad 30 value.displayBare ++ reset

def loggerText (room : Option Nat) (value : Json) : Except RenderError (List Char) := do
  check room value
  return '[' :: reset ++ bold ++ blue ++ value.displayBare ++ reset ++ ']' :: reset

/-- The fields with a place of their own, in the order of the line, and how each is shown. -/
def columns : List (String × (Option Nat → Json → Except RenderError (List Char))) :=
  [("", fieldText ""), ("timestamp", timeText), ("level", fun _ => levelText), ("event", eventText),
    ("logger", loggerText), ("logger_name", loggerText)]

/-- The fields that follow the line. -/
def attachments : List String :=
  ["stack", "exception"]

/-- The fields that are listed by name. -/
def listed (fields : List (String × Json)) : List (String × Json) :=
  let elsewhere := columns.map (·.1) ++ attachments
  (fields.filter fun f => !elsewhere.contains f.1).mergeSort fun a b => a.1 ≤ b.1

/-- A trace on lines of its own. Null stands for no trace, and nothing but a text can be one. -/
def attachment (fields : List (String × Json)) (name : String) : Except RenderError (List Char) :=
  match fields.lookup name with
  | none | some .null => return []
  | some (.str s) => return '\n' :: s.toList
  | _ => throw .notText

/-- What separates a stack from the trace of a fault. -/
def separator : List Char :=
  '\n' :: '\n' :: List.replicate 79 '=' ++ ['\n']

/-- The values with a place of their own, each with its column. -/
def placed (fields : List (String × Json)) :
    List ((String × (Option Nat → Json → Except RenderError (List Char))) × Json) :=
  columns.filterMap fun column => (fields.lookup column.1).map (column, ·)

/-- The line and what follows it, from all fields of a record. -/
def text (fields : List (String × Json)) (traced : Bool) (room : Option Nat) : Except RenderError (List Char) := do
  let front ← (placed fields).mapM fun p => p.1.2 room p.2
  let others ← (listed fields).mapM fun f => fieldText f.1 room f.2
  let stack ← attachment fields "stack"
  let exception ← attachment fields "exception"
  let separator := if !stack.isEmpty && (traced || !exception.isEmpty) then separator else []
  return [' '].intercalate (front ++ others) ++ stack ++ separator ++ exception

end Console
end Log
end Readiness
