import Readiness.Duration.Basic
import Readiness.Text.Blank
import Readiness.Text.Quoted

/-!
This module contains the reading of duration texts: a signed number of seconds, or a sign and one or more numbers
with units such as `1h30m`. White space around the text is ignored.
-/

namespace Readiness
namespace Duration

inductive Error where
  | empty
  | invalid (text : String)
deriving DecidableEq, Repr

def Error.message : Error → String
  | empty => "empty duration"
  | invalid text => "invalid duration " ++ Text.quoted text

/-- Splits off a sign and tells whether it is a minus. -/
def splitSign : List Char → Bool × List Char
  | '-' :: r => (true, r)
  | '+' :: r => (false, r)
  | l => (false, l)

/-- The longest number at the front. -/
def amount? (l : List Char) : Option (Amount × List Char) :=
  let whole := l.takeWhile Text.isDigit
  match l.dropWhile Text.isDigit with
  | '.' :: r =>
    let fraction := r.takeWhile Text.isDigit
    if whole.isEmpty && fraction.isEmpty then none else some (⟨whole, fraction⟩, r.dropWhile Text.isDigit)
  | r => if whole.isEmpty then none else some (⟨whole, []⟩, r)

def unit? (l : List Char) : Option (TimeUnit × List Char) :=
  TimeUnit.spellings.findSome? fun (spelling, u) => (spelling.isPrefixOf? l).map (u, ·)

def component? (l : List Char) : Option (Component × List Char) := do
  let (amount, r) ← amount? l
  let (unit, r) ← unit? r
  return (⟨amount, unit⟩, r)

theorem length_dropWhile_le {α : Type} (p : α → Bool) (l : List α) : (l.dropWhile p).length ≤ l.length :=
  (List.dropWhile_sublist p).length_le

theorem length_amount?_le {l r : List Char} {a : Amount} (h : amount? l = some (a, r)) : r.length ≤ l.length := by
  have hl := length_dropWhile_le Text.isDigit l
  simp only [amount?] at h
  split at h
  . next r' hr' =>
    have hr := length_dropWhile_le Text.isDigit r'
    rw [hr', List.length_cons] at hl
    split at h
    . cases h
    . cases h
      omega
  . split at h
    . cases h
    . cases h
      exact hl

theorem append_of_isPrefixOf? {p l r : List Char} (h : p.isPrefixOf? l = some r) : p ++ r = l := by
  induction p generalizing l with
  | nil => exact (Option.some.inj h).symm
  | cons a p ih =>
    cases l with
    | nil => cases h
    | cons b l =>
      change (if a == b then p.isPrefixOf? l else none) = some r at h
      split at h
      . next hab =>
        rw [beq_iff_eq] at hab
        rw [hab, List.cons_append, ih h]
      . cases h

theorem spellings_length_pos : ∀ s ∈ TimeUnit.spellings, 0 < s.1.length := by
  decide

theorem length_unit?_lt {l r : List Char} {u : TimeUnit} (h : unit? l = some (u, r)) : r.length < l.length := by
  obtain ⟨s, hs, h⟩ := List.exists_of_findSome?_eq_some h
  obtain ⟨t, ht, h⟩ := Option.map_eq_some_iff.mp h
  cases h
  have := spellings_length_pos s hs
  rw [← append_of_isPrefixOf? ht, List.length_append]
  omega

theorem length_component?_lt {l r : List Char} {c : Component} (h : component? l = some (c, r)) :
    r.length < l.length := by
  simp only [component?, Option.bind_eq_bind, Option.bind_eq_some_iff, Option.pure_def, Option.some.injEq,
    Prod.mk.injEq] at h
  obtain ⟨⟨a, r₁⟩, h₁, ⟨u, r₂⟩, h₂, _, rfl⟩ := h
  exact Nat.lt_of_lt_of_le (length_unit?_lt h₂) (length_amount?_le h₁)

/-- Reads components to the end of the text. -/
def components? (l : List Char) : Option (List Component) :=
  if l.isEmpty then
    some []
  else
    match h : component? l with
    | none => none
    | some (c, r) =>
      have := length_component?_lt h
      (components? r).map (c :: ·)
termination_by l.length

/-- A number of seconds without a unit, if it is all there is. -/
def bare? (l : List Char) : Option Double :=
  let (negative, r) := splitSign l
  match amount? r with
  | some (a, []) => some (a.toDouble negative)
  | _ => none

/-- A sign and at least one component. -/
def signedComponents? (l : List Char) : Option (Bool × List Component) :=
  let (negative, r) := splitSign l
  match components? r with
  | some (c :: cs) => some (negative, c :: cs)
  | _ => none

/-- The seconds that a text denotes. -/
def parse (text : String) : Except Error Double :=
  let l := Text.trimChars text.toList
  if l.isEmpty then throw .empty
  else match bare? l with
    | some x => return x
    | none => match signedComponents? l with
      | some (negative, cs) => return seconds negative cs
      | none => throw (.invalid text)

end Duration
end Readiness
