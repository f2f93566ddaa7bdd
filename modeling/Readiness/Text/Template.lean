import Readiness.Text.Template.Layout
import Readiness.Text.Template.Place

/-!
This module contains message templates: texts with places for the arguments of a log call. Places without a key take
the arguments in order, places with a key choose from a map.
-/

namespace Readiness
namespace Text
namespace Template

/-- The arguments that are left for a template. -/
structure Supply where
  /-- What places without a key take, in order. -/
  next : List Json
  /-- What places with a key choose from. -/
  fields : Option (List (String × Json))
deriving Repr

namespace Supply

/-- A single map that is not empty also supplies its fields. -/
def ofArguments (args : List Json) : Supply :=
  match args with
  | [.obj (f :: fs)] => ⟨args, some (f :: fs)⟩
  | _ => ⟨args, none⟩

def take? (s : Supply) : Option (Json × Supply) :=
  match s.next with
  | [] => none
  | j :: js => some (j, { s with next := js })

/-- Makes the field with the given key the only one to take next. -/
def select? (s : Supply) : Option String → Option Supply
  | none => some s
  | some key => (s.fields.bind (·.lookup key)).map fun j => { s with next := [j] }

/-- Whether nothing is left over; it does not matter what is left of a map. -/
def isUsedUp (s : Supply) : Bool :=
  s.fields.isSome || s.next.isEmpty

end Supply

/-- The greatest width and the greatest precision. -/
def maxExtent : Nat := 2147483647

/-- The number that an extent asks for, within the limit. -/
def Extent.resolve? (s : Supply) : Extent → Option (Int × Supply)
  | .given n => if n ≤ maxExtent then some (n, s) else none
  | .argument => do
    let (j, s) ← s.take?
    let n ← wholeArgument? j
    if n.natAbs ≤ maxExtent then some (n, s) else none

/-- Fills a place with the next argument, or the one with its key. -/
def Place.fill? (p : Place) (s : Supply) : Option (List Char × Supply) := do
  let s ← s.select? p.key
  let (width, s) ← (p.width.getD (.given 0)).resolve? s
  let (precision, s) ← match p.precision with
    | none => some (none, s)
    | some e => (e.resolve? s).map fun (n, s) => (some n, s)
  let (arg, s) ← s.take?
  let text ← (Layout.make p.flags width precision).set? p.letter arg
  return (text, s)

/-- Fills the places of a template. A doubled percent sign stands for itself. -/
def fillFrom? (s : Supply) (l : List Char) : Option (List Char) :=
  match l with
  | [] => if s.isUsedUp then some [] else none
  | '%' :: '%' :: r => (fillFrom? s r).map ('%' :: ·)
  | '%' :: r =>
    match h : Place.parse? r with
    | none => none
    | some (p, rest) =>
      have := Place.length_parse?_lt h
      (p.fill? s).bind fun (text, s) => (fillFrom? s rest).map (text ++ ·)
  | c :: r => (fillFrom? s r).map (c :: ·)
termination_by l.length

/-- Fills a template; there have to be as many arguments as its places take. -/
def fill? (template : List Char) (args : List Json) : Option (List Char) :=
  fillFrom? (.ofArguments args) template

end Template
end Text
end Readiness
