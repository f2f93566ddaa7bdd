import Readiness.Double.Text
import Readiness.Json.Basic

/-!
This module contains the reading of JSON. Besides the standard grammar the literals `NaN`, `Infinity` and
`-Infinity` are read, which log lines hold. A number without fraction and exponent is an integer.
-/

namespace Readiness
namespace Json
namespace Parser

def isSpace (c : Char) : Bool :=
  c = ' ' || c = '\t' || c = '\n' || c = '\r'

def hexDigit? (c : Char) : Option Nat :=
  if '0' ≤ c ∧ c ≤ '9' then some (c.toNat - 48)
  else if 'a' ≤ c ∧ c ≤ 'f' then some (c.toNat - 87)
  else if 'A' ≤ c ∧ c ≤ 'F' then some (c.toNat - 55)
  else none

/-- The 16-bit unit written by four hexadecimal digits. -/
def unit? (a b c d : Char) : Option Nat := do
  return (((← hexDigit? a) * 16 + (← hexDigit? b)) * 16 + (← hexDigit? c)) * 16 + (← hexDigit? d)

def unletter? (c : Char) : Option Char :=
  if c = '"' then some '"'
  else if c = '\\' then some '\\'
  else if c = '/' then some '/'
  else if c = 'n' then some '\n'
  else if c = 'r' then some '\r'
  else if c = 't' then some '\t'
  else if c = 'b' then some (Char.ofNat 8)
  else if c = 'f' then some (Char.ofNat 12)
  else none

/-- The character of a pair of surrogate units. -/
def ofSurrogates (high low : Nat) : Char :=
  Char.ofNat (0x10000 + (high - 0xD800) * 0x400 + (low - 0xDC00))

/-- The second half of a pair of surrogate units, at the front of the text. -/
def lowSurrogate? : List Char → Option (Nat × List Char)
  | '\\' :: 'u' :: a :: b :: c :: d :: r =>
    match unit? a b c d with
    | some n => if 0xDC00 ≤ n ∧ n < 0xE000 then some (n, r) else none
    | none => none
  | _ => none

/-- The character that a 16-bit unit starts; a unit of no character reads as the replacement character. -/
def ofUnit (n : Nat) (r : List Char) : Char × List Char :=
  if 0xD800 ≤ n ∧ n < 0xDC00 then
    match lowSurrogate? r with
    | some (low, r) => (ofSurrogates n low, r)
    | none => (Char.ofNat 0xFFFD, r)
  else if 0xDC00 ≤ n ∧ n < 0xE000 then
    (Char.ofNat 0xFFFD, r)
  else
    (Char.ofNat n, r)

/-- Reads one character of a string, escaped or not. -/
def character? : List Char → Option (Char × List Char)
  | '\\' :: 'u' :: a :: b :: c :: d :: r => (unit? a b c d).map (ofUnit · r)
  | '\\' :: l :: r => (unletter? l).map (·, r)
  | ['\\'] => none
  | c :: r => if c.toNat < 0x20 then none else some (c, r)
  | [] => none

theorem length_lowSurrogate? {l r : List Char} {n : Nat} (h : lowSurrogate? l = some (n, r)) :
    r.length < l.length := by
  unfold lowSurrogate? at h
  split at h
  . split at h
    . split at h
      . cases h
        simp only [List.length_cons]
        omega
      . cases h
    . cases h
  . cases h

theorem length_ofUnit_le (n : Nat) (r : List Char) : (ofUnit n r).2.length ≤ r.length := by
  unfold ofUnit
  split
  . split
    . next h => exact Nat.le_of_lt (length_lowSurrogate? h)
    . exact Nat.le_refl _
  . split <;> exact Nat.le_refl _

theorem length_character? {l r : List Char} {c : Char} (h : character? l = some (c, r)) :
    r.length < l.length := by
  unfold character? at h
  split at h
  . next r' =>
    obtain ⟨n, _, hn⟩ := Option.map_eq_some_iff.mp h
    have := length_ofUnit_le n r'
    rw [hn] at this
    simp only [List.length_cons] at this ⊢
    omega
  . obtain ⟨_, _, hn⟩ := Option.map_eq_some_iff.mp h
    simp only [Prod.mk.injEq] at hn
    simp only [List.length_cons, ← hn.2]
    omega
  . cases h
  . split at h
    . cases h
    . simp only [Option.some.injEq, Prod.mk.injEq] at h
      simp [← h.2]
  . cases h

/-- Reads a string after its opening quote. -/
def string? (l : List Char) : Option (List Char × List Char) :=
  if l.head? = some '"' then
    some ([], l.tail)
  else
    match h : character? l with
    | none => none
    | some (c, r) =>
      have := length_character? h
      (string? r).map fun (s, r) => (c :: s, r)
termination_by l.length

/-- The literals that are not numbers in form. -/
def literals : List (List Char × Json) :=
  [("null".toList, null), ("true".toList, true), ("false".toList, false), ("NaN".toList, real .nan),
   ("Infinity".toList, real (.inf false)), ("-Infinity".toList, real (.inf true))]

def literal? (l : List Char) : Option (Json × List Char) :=
  literals.findSome? fun (text, j) => (text.isPrefixOf? l).map (j, ·)

/-- Splits off the digits at the front. -/
def splitDigits (l : List Char) : List Char × List Char :=
  l.span Char.isDigit

/-- The fraction at the front, with its point or empty. -/
def splitFraction (l : List Char) : List Char × List Char :=
  match l with
  | '.' :: r =>
    let (digits, r) := splitDigits r
    if digits.isEmpty then ([], l) else (digits, r)
  | _ => ([], l)

/-- The exponent at the front, if there is one. -/
def splitExponent (l : List Char) : Option Int × List Char :=
  match l with
  | e :: r =>
    if e = 'e' || e = 'E' then
      let (negative, r) := match r with
        | '-' :: r => (true, r)
        | '+' :: r => (false, r)
        | _ => (false, r)
      let (digits, r) := splitDigits r
      if digits.isEmpty then (none, l)
      else (some (Double.signed negative (Nat.ofDigitChars 10 digits 0)), r)
    else
      (none, l)
  | [] => (none, l)

def number? (l : List Char) : Option (Json × List Char) :=
  let (negative, r) := match l with
    | '-' :: r => (true, r)
    | _ => (false, l)
  let (whole, r) := splitDigits r
  if whole.isEmpty || (whole.length > 1 && whole.head? = some '0') then
    none
  else
    match splitFraction r, splitExponent (splitFraction r).2 with
    | ([], _), (none, r) => some (int (Double.signed negative (Nat.ofDigitChars 10 whole 0)), r)
    | (fraction, _), (exponent, r) =>
      some (real (Double.ofParts negative whole fraction (exponent.getD 0)), r)

mutual

def value? : Nat → List Char → Option (Json × List Char)
  | 0, _ => none
  | fuel + 1, l =>
    match l.dropWhile isSpace with
    | '"' :: r => (string? r).map fun (s, r) => (str (String.ofList s), r)
    | '[' :: r =>
      match r.dropWhile isSpace with
      | ']' :: r => some (arr [], r)
      | r => (items? fuel r).map fun (js, r) => (arr js, r)
    | '{' :: r =>
      match r.dropWhile isSpace with
      | '}' :: r => some (obj [], r)
      | r => (fields? fuel r).map fun (fs, r) => (obj fs, r)
    | l => literal? l <|> number? l

/-- Reads the items of an array up to its closing bracket. -/
def items? : Nat → List Char → Option (List Json × List Char)
  | 0, _ => none
  | fuel + 1, l => do
    let (j, r) ← value? fuel l
    match r.dropWhile isSpace with
    | ',' :: r => (items? fuel r).map fun (js, r) => (j :: js, r)
    | ']' :: r => return ([j], r)
    | _ => none

/-- Reads the fields of an object up to its closing brace. -/
def fields? : Nat → List Char → Option (List (String × Json) × List Char)
  | 0, _ => none
  | fuel + 1, l =>
    match l.dropWhile isSpace with
    | '"' :: r => do
      let (k, r) ← string? r
      match r.dropWhile isSpace with
      | ':' :: r =>
        let (j, r) ← value? fuel r
        match r.dropWhile isSpace with
        | ',' :: r => (fields? fuel r).map fun (fs, r) => ((String.ofList k, j) :: fs, r)
        | '}' :: r => return ([(String.ofList k, j)], r)
        | _ => none
      | _ => none
    | _ => none

end

end Parser

/-- Reads a text that holds one JSON value and white space around it. -/
def parse? (s : String) : Option Json := do
  let l := s.toList
  -- every step into a value, an item or a field is paid for by a character
  let (j, r) ← Parser.value? (2 * l.length + 1) l
  guard (r.all Parser.isSpace)
  return j

end Json
end Readiness
