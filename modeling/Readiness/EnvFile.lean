import Readiness.Text.Blank

/-!
This module contains files of variables: assignments `NAME=value` with comments, with quoted values that may run over
several lines, and with references `${NAME}` and `${NAME:-default}` to other variables in the values.
-/

namespace Readiness
namespace EnvFile

/-- White space within a line. -/
def isGap (c : Char) : Bool :=
  Text.isBlank c && c ≠ '\n'

def skipGap (l : List Char) : List Char :=
  l.dropWhile isGap

/-- What follows the end of the line. -/
def skipLine (l : List Char) : List Char :=
  (l.dropWhile (· ≠ '\n')).drop 1

/-- Makes all three kinds of line ends the same. -/
def unifyBreaks : List Char → List Char
  | [] => []
  | '\r' :: '\n' :: r => '\n' :: unifyBreaks r
  | c :: r => (if c = '\r' then '\n' else c) :: unifyBreaks r

/-- The text without the mark of its encoding at the front. -/
def dropMark : List Char → List Char
  | [] => []
  | c :: r => if c.toNat = 0xFEFF then r else c :: r

/-- Splits a text at the quote that closes it. A backslash keeps the character after it from being that quote. -/
def splitQuoted (quote : Char) : List Char → Option (List Char × List Char)
  | [] => none
  | '\\' :: c :: r => (splitQuoted quote r).map fun (value, r) => ('\\' :: c :: value, r)
  | c :: r =>
    if c = quote then some ([], r)
    else if c = '\\' then none
    else (splitQuoted quote r).map fun (value, r) => (c :: value, r)

def singleEscape? (c : Char) : Option Char :=
  if c = '\\' || c = '\'' then some c else none

def doubleEscape? (c : Char) : Option Char :=
  if c = '\\' || c = '\'' || c = '"' then some c
  else if c = 'a' then some (Char.ofNat 7)
  else if c = 'b' then some (Char.ofNat 8)
  else if c = 'f' then some (Char.ofNat 12)
  else if c = 'n' then some '\n'
  else if c = 'r' then some '\r'
  else if c = 't' then some '\t'
  else if c = 'v' then some (Char.ofNat 11)
  else none

/-- Replaces escapes by what they stand for; a backslash that starts none stays. -/
def unescape (escape? : Char → Option Char) : List Char → List Char
  | '\\' :: c :: r =>
    match escape? c with
    | some d => d :: unescape escape? r
    | none => '\\' :: c :: unescape escape? r
  | c :: r => c :: unescape escape? r
  | [] => []

/-- Drops a comment: a number sign after white space, and all that follows. -/
def dropComment (afterBlank : Bool) : List Char → List Char
  | [] => []
  | c :: r => if c = '#' && afterBlank then [] else c :: dropComment (Text.isBlank c) r

/-- A value without quotes, from the rest of its line. -/
def bareValue (afterBlank : Bool) (line : List Char) : List Char :=
  ((dropComment afterBlank line).reverse.dropWhile Text.isBlank).reverse

/-- The value at the front; `afterBlank` tells whether there was white space before it. -/
def value? (afterBlank : Bool) : List Char → Option (List Char × List Char)
  | '\'' :: r => (splitQuoted '\'' r).map fun (value, r) => (unescape singleEscape? value, r)
  | '"' :: r => (splitQuoted '"' r).map fun (value, r) => (unescape doubleEscape? value, r)
  | l => some (bareValue afterBlank (l.takeWhile (· ≠ '\n')), l.dropWhile (· ≠ '\n'))

/-- The value at the front, where there is an equals sign. -/
def assigned? : List Char → Option (Option (List Char) × List Char)
  | '=' :: r => (value? (r.head?.any isGap) (skipGap r)).map fun (value, r) => (some value, r)
  | l => some (none, l)

def isNameChar (c : Char) : Bool :=
  !(c = '=' || c = '#' || Text.isBlank c)

/-- The name at the front; before a comment there is none. -/
def name? (l : List Char) : Option (Option (List Char) × List Char) :=
  match l with
  | '#' :: _ => some (none, l)
  | '\'' :: r =>
    let name := r.takeWhile (· ≠ '\'')
    if name.isEmpty then none
    else match r.dropWhile (· ≠ '\'') with
      | _ :: r => some (some name, r)
      | [] => none
  | _ =>
    let name := l.takeWhile isNameChar
    if name.isEmpty then none else some (some name, l.dropWhile isNameChar)

/-- Drops the word that shells put before a name. -/
def skipExport (l : List Char) : List Char :=
  match "export".toList.isPrefixOf? l with
  | some r => if r.head?.any isGap then skipGap r else l
  | none => l

def skipComment (l : List Char) : List Char :=
  match skipGap l with
  | '#' :: r => r.dropWhile (· ≠ '\n')
  | _ => l

/-- What follows a line end, which has to be next but for white space. -/
def lineEnd? (l : List Char) : Option (List Char) :=
  match skipGap l with
  | [] => some []
  | '\n' :: r => some r
  | _ => none

inductive Statement where
  /-- White space and comments. -/
  | blank
  /-- A name with its value, if it is assigned one. -/
  | variable (name : String) (value : Option String)
  | unreadable
deriving DecidableEq, Repr

/-- The statement at the front of a text. An unreadable one ends with the line on which it fails. -/
def statement (l : List Char) : Statement × List Char :=
  match l.dropWhile Text.isBlank with
  | [] => (.blank, [])
  | l =>
    let l := skipExport l
    match name? l with
    | none => (.unreadable, skipLine l)
    | some (name, r) =>
      match assigned? (skipGap r) with
      | none => (.unreadable, skipLine r)
      | some (value, r) =>
        match name, lineEnd? (skipComment r) with
        | _, none => (.unreadable, skipLine r)
        | none, some r => (.blank, r)
        | some name, some r => (.variable (String.ofList name) (value.map String.ofList), r)

/-- The statements of a text, each with the number of the line on which the text left by the one before starts. -/
def statements (text : String) : List (Nat × Statement) :=
  let l := unifyBreaks (dropMark text.toList)
  -- every statement takes a character
  go l.length 1 l
where
  go : Nat → Nat → List Char → List (Nat × Statement)
    | 0, _, _ => []
    | fuel + 1, line, l =>
      if l.isEmpty then
        []
      else
        let (s, r) := statement l
        (line, s) :: go fuel (line + (l.count '\n' - r.count '\n')) r

/-- The lines on which unreadable statements start. -/
def unreadableLines (text : String) : List Nat :=
  (statements text).filterMap fun (line, s) => if s = .unreadable then some line else none

/-- The name and the default of the reference at the front, after its opening `${`. -/
def reference? (l : List Char) : Option ((List Char × List Char) × List Char) :=
  let name := l.takeWhile fun c => c ≠ '}' && c ≠ ':'
  match l.dropWhile fun c => c ≠ '}' && c ≠ ':' with
  | '}' :: r => some ((name, []), r)
  | ':' :: '-' :: r =>
    match r.dropWhile (· ≠ '}') with
    | '}' :: rest => some ((name, r.takeWhile (· ≠ '}')), rest)
    | _ => none
  | _ => none

theorem length_reference?_lt {l r : List Char} {ref : List Char × List Char} (h : reference? l = some (ref, r)) :
    r.length < l.length := by
  have hl := (List.dropWhile_sublist (l := l) fun c => c ≠ '}' && c ≠ ':').length_le
  simp only [reference?] at h
  split at h
  . next r' hr' =>
    rw [hr', List.length_cons] at hl
    cases h
    omega
  . next r' hr' =>
    have hr := (List.dropWhile_sublist (l := r') (· ≠ '}')).length_le
    rw [hr', List.length_cons, List.length_cons] at hl
    split at h
    . next rest hrest =>
      rw [hrest, List.length_cons] at hr
      cases h
      omega
    . cases h
  . cases h

/-- Replaces the references in a value by the values of their variables or, where there are none, by their defaults. -/
def expand (lookup : String → Option String) (l : List Char) : List Char :=
  match l with
  | [] => []
  | '$' :: '{' :: r =>
    match h : reference? r with
    | some ((name, fallback), rest) =>
      have := length_reference?_lt h
      ((lookup (String.ofList name)).map String.toList).getD fallback ++ expand lookup rest
    | none => '$' :: expand lookup ('{' :: r)
  | c :: r => c :: expand lookup r
termination_by l.length

/-- Variables in the order in which they first occurred; one without a value is there all the same. -/
abbrev Variables := List (String × Option String)

/-- Gives a variable a new value: in place if there is one of its name. -/
def Variables.assign (vs : Variables) (name : String) (value : Option String) : Variables :=
  if vs.any (·.1 == name) then
    vs.map fun v => if v.1 == name then (name, value) else v
  else
    vs ++ [(name, value)]

/-- What a reference sees: the variables of the file so far, then the environment. -/
def Variables.visible (vs : Variables) (environment : List (String × String)) (name : String) : Option String :=
  match vs.lookup name with
  | some value => some (value.getD "")
  | none => environment.lookup name

/-- Takes in one statement. -/
def Variables.step (environment : List (String × String)) (vs : Variables) : Statement → Variables
  | .variable name value =>
    vs.assign name (value.map fun v => String.ofList (expand (vs.visible environment) v.toList))
  | _ => vs

/-- The variables of a file that is read in the given environment. -/
def Variables.ofText (environment : List (String × String)) (text : String) : Variables :=
  (statements text).foldl (fun vs s => vs.step environment s.2) []

end EnvFile
end Readiness
