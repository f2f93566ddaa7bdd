/-!
This module contains the places of a message template: a percent sign, then optionally a key in brackets, flags, a
width and a precision, then a letter that tells how to show an argument.
-/

namespace Readiness
namespace Text
namespace Template

/-- A width or a precision. -/
inductive Extent where
  | given (n : Nat)
  /-- An argument of its own. -/
  | argument
deriving DecidableEq, Repr

structure Place where
  key : Option String
  flags : List Char
  width : Option Extent
  precision : Option Extent
  letter : Char
deriving DecidableEq, Repr

namespace Place

/-- Splits a text at the bracket that closes one opened before it; brackets in between come in pairs. -/
def closeKey (depth : Nat) : List Char → Option (List Char × List Char)
  | [] => none
  | c :: r =>
    if c = ')' && depth = 0 then
      some ([], r)
    else
      let depth := if c = '(' then depth + 1 else if c = ')' then depth - 1 else depth
      (closeKey depth r).map fun (key, r) => (c :: key, r)

theorem length_closeKey_lt {depth : Nat} {l r : List Char} {key : List Char}
    (h : closeKey depth l = some (key, r)) : r.length < l.length := by
  induction l generalizing depth key with
  | nil => simp [closeKey] at h
  | cons c l ih =>
    simp only [closeKey] at h
    split at h
    . cases h
      simp
    . obtain ⟨⟨key', r'⟩, h', heq⟩ := Option.map_eq_some_iff.mp h
      cases heq
      have := ih h'
      rw [List.length_cons]
      omega

/-- The key at the front, if there is one. -/
def splitKey? : List Char → Option (Option String × List Char)
  | '(' :: r => (closeKey 0 r).map fun (key, r) => (some (String.ofList key), r)
  | l => some (none, l)

theorem length_splitKey?_le {l r : List Char} {key : Option String} (h : splitKey? l = some (key, r)) :
    r.length ≤ l.length := by
  unfold splitKey? at h
  split at h
  . obtain ⟨⟨key', r'⟩, h', heq⟩ := Option.map_eq_some_iff.mp h
    cases heq
    have := length_closeKey_lt h'
    rw [List.length_cons]
    omega
  . cases h
    exact Nat.le_refl _

def isFlag (c : Char) : Bool :=
  c = '-' || c = '+' || c = ' ' || c = '#' || c = '0'

/-- The extent at the front: a star, or digits if there are any. -/
def splitExtent (l : List Char) : Option Extent × List Char :=
  match l with
  | '*' :: r => (some .argument, r)
  | _ =>
    let digits := l.takeWhile Char.isDigit
    (if digits.isEmpty then none else some (.given (Nat.ofDigitChars 10 digits 0)), l.dropWhile Char.isDigit)

theorem length_splitExtent_le (l : List Char) : (splitExtent l).2.length ≤ l.length := by
  unfold splitExtent
  split
  . simp
  . exact (List.dropWhile_sublist _).length_le

/-- The precision at the front, after a point. A point alone asks for none. -/
def splitPrecision (l : List Char) : Option Extent × List Char :=
  match l with
  | '.' :: r => ((splitExtent r).1.getD (.given 0), (splitExtent r).2)
  | _ => (none, l)

theorem length_splitPrecision_le (l : List Char) : (splitPrecision l).2.length ≤ l.length := by
  unfold splitPrecision
  split
  . next r =>
    have := length_splitExtent_le r
    rw [List.length_cons]
    exact Nat.le_succ_of_le this
  . exact Nat.le_refl _

/-- Drops a letter for the size of an integer, which makes no difference. -/
def dropSize : List Char → List Char
  | c :: r => if c = 'h' || c = 'l' || c = 'L' then r else c :: r
  | [] => []

theorem length_dropSize_le (l : List Char) : (dropSize l).length ≤ l.length := by
  unfold dropSize
  split
  . split <;> simp
  . exact Nat.le_refl _

/-- The place at the front, after its percent sign. -/
def parse? (l : List Char) : Option (Place × List Char) :=
  match splitKey? l with
  | none => none
  | some (key, r) =>
    let width := splitExtent (r.dropWhile isFlag)
    let precision := splitPrecision width.2
    match dropSize precision.2 with
    | [] => none
    | letter :: rest => some (⟨key, r.takeWhile isFlag, width.1, precision.1, letter⟩, rest)

theorem length_parse?_lt {l r : List Char} {p : Place} (h : parse? l = some (p, r)) : r.length < l.length := by
  unfold parse? at h
  split at h
  . cases h
  . next key r₀ hkey =>
    have h₀ := length_splitKey?_le hkey
    have h₁ := (List.dropWhile_sublist (l := r₀) isFlag).length_le
    have h₂ := length_splitExtent_le (r₀.dropWhile isFlag)
    have h₃ := length_splitPrecision_le (splitExtent (r₀.dropWhile isFlag)).2
    have h₄ := length_dropSize_le (splitPrecision (splitExtent (r₀.dropWhile isFlag)).2).2
    dsimp only at h
    split at h
    . cases h
    . next letter rest hr =>
      cases h
      rw [hr, List.length_cons] at h₄
      omega

end Place

end Template
end Text
end Readiness
