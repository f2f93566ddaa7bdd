import Mathlib.Data.List.Basic
import Mathlib.Data.Option.Basic
import Readiness.Proofs.Json.Numbers
import Readiness.Proofs.Json.Strings

/-!
This module contains the reading of printed JSON: a value without doubles comes back as it was, in either style.
-/

namespace Readiness
namespace Json

mutual

/-- There are no doubles in the value. -/
def isPlain : Json → Bool
  | real _ => false
  | arr items => arePlain items
  | obj fields => fieldsArePlain fields
  | _ => true

def arePlain : List Json → Bool
  | [] => true
  | j :: js => isPlain j && arePlain js

def fieldsArePlain : List (String × Json) → Bool
  | [] => true
  | (_, j) :: fs => isPlain j && fieldsArePlain fs

end

/-- A separator with nothing but white space after it. -/
def IsGap (mark : Char) (separator : List Char) : Prop :=
  ∃ gap, separator = mark :: gap ∧ ∀ c ∈ gap, Parser.isSpace c = true

/-- The separators of a style are those of JSON. -/
structure Style.Standard (style : Style) : Prop where
  item : IsGap ',' style.itemSeparator
  key : IsGap ':' style.keySeparator

theorem standard_compact : compact.Standard := by
  constructor <;> exact ⟨[], rfl, by simp⟩

theorem standard_spaced : spaced.Standard := by
  constructor <;> exact ⟨[' '], rfl, by simp [Parser.isSpace]⟩

namespace Parser

/-- A number begins here. -/
def startsNumber : List Char → Bool
  | '-' :: c :: _ => c.isDigit
  | c :: _ => c.isDigit
  | [] => false

theorem exists_toDigits (n : Nat) : ∃ d ds, Nat.toDigits 10 n = d :: ds ∧ d.isDigit = true := by
  cases hds : Nat.toDigits 10 n with
  | nil => exact absurd hds Nat.toDigits_ne_nil
  | cons d ds =>
    refine ⟨d, ds, rfl, ?_⟩
    apply Text.isDigit_of_mem_toDigits (n := n)
    rw [hds]
    apply List.mem_cons_self

theorem startsNumber_digit {d : Char} (h : d.isDigit = true) (l : List Char) : startsNumber (d :: l) = true := by
  unfold startsNumber
  split
  . next heq =>
    rw [List.cons.injEq] at heq
    rw [heq.1] at h
    cases h
  . next heq =>
    rw [List.cons.injEq] at heq
    rw [← heq.1]
    exact h
  . next heq => cases heq

theorem exists_decimal (n : Int) :
    ∃ c l, Text.decimal n = c :: l ∧ (c.isDigit = true ∨ c = '-') ∧ ∀ rest, startsNumber (c :: l ++ rest) = true := by
  obtain ⟨d, ds, hds, hd⟩ := exists_toDigits n.natAbs
  unfold Text.decimal
  rw [hds]
  split
  . exact ⟨_, _, rfl, .inr rfl, fun _ => hd⟩
  . exact ⟨d, ds, rfl, .inl hd, fun _ => startsNumber_digit hd _⟩

theorem not_mark_of_numeric {c : Char} (h : c.isDigit = true ∨ c = '-') :
    isSpace c = false ∧ c ∉ ['"', '[', ']', '{', '}'] := by
  have hne (x : Char) (hx : (x.isDigit || x == '-') = false) : c ≠ x := by
    rintro rfl
    simp only [Bool.or_eq_false_iff, beq_eq_false_iff_ne, ne_eq] at hx
    rcases h with h | h
    . rw [hx.1] at h
      cases h
    . exact hx.2 h
  constructor
  . simp only [isSpace, Bool.or_eq_false_iff, decide_eq_false_iff_not]
    exact ⟨⟨⟨hne ' ' rfl, hne '\t' rfl⟩, hne '\n' rfl⟩, hne '\r' rfl⟩
  . simp only [List.mem_cons, List.not_mem_nil, or_false, not_or]
    exact ⟨hne '"' rfl, hne '[' rfl, hne ']' rfl, hne '\x7b' rfl, hne '\x7d' rfl⟩

theorem literal?_of_startsNumber {l : List Char} (h : startsNumber l = true) : literal? l = none := by
  have hliterals : ∀ e ∈ literals, ∀ r, startsNumber (e.1 ++ r) = false := by
    intro e he r
    simp only [literals, List.mem_cons, List.not_mem_nil, or_false] at he
    rcases he with rfl | rfl | rfl | rfl | rfl | rfl <;> rfl
  unfold literal?
  rw [List.findSome?_eq_none_iff]
  intro e he
  rw [Option.map_eq_none_iff]
  cases hr : e.1.isPrefixOf? l with
  | none => rfl
  | some r =>
    have := hliterals e he r
    rw [List.append_eq_of_isPrefixOf?_eq_some hr, h] at this
    cases this

theorem dropWhile_of_not_isSpace {c : Char} (h : isSpace c = false) (l : List Char) :
    (c :: l).dropWhile isSpace = c :: l := by
  apply List.dropWhile_cons_of_neg
  simp [h]

theorem dropWhile_gap {mark : Char} {separator : List Char} (h : IsGap mark separator) (hmark : isSpace mark = false)
    (l : List Char) : ∃ gap, (separator ++ l).dropWhile isSpace = mark :: (gap ++ l) ∧ ∀ c ∈ gap, isSpace c = true := by
  obtain ⟨gap, rfl, hgap⟩ := h
  refine ⟨gap, ?_, hgap⟩
  apply dropWhile_of_not_isSpace hmark _

theorem value?_space {gap : List Char} (h : ∀ c ∈ gap, isSpace c = true) (fuel : Nat) (l : List Char) :
    value? fuel (gap ++ l) = value? fuel l := by
  cases fuel with
  | zero => rfl
  | succ fuel => rw [value?, value?, List.dropWhile_append_of_pos h]

theorem items?_space {gap : List Char} (h : ∀ c ∈ gap, isSpace c = true) (fuel : Nat) (l : List Char) :
    items? fuel (gap ++ l) = items? fuel l := by
  cases fuel with
  | zero => rfl
  | succ fuel => rw [items?, items?, value?_space h]

theorem fields?_space {gap : List Char} (h : ∀ c ∈ gap, isSpace c = true) (fuel : Nat) (l : List Char) :
    fields? fuel (gap ++ l) = fields? fuel l := by
  cases fuel with
  | zero => rfl
  | succ fuel => rw [fields?, fields?, List.dropWhile_append_of_pos h]

theorem value?_scalar {c : Char} {l : List Char} (hspace : isSpace c = false) (h : c ≠ '"' ∧ c ≠ '[' ∧ c ≠ '{')
    (fuel : Nat) : value? (fuel + 1) (c :: l) = (literal? (c :: l) <|> number? (c :: l)) := by
  rw [value?, dropWhile_of_not_isSpace hspace]
  split
  . next heq =>
    cases heq
    exact absurd rfl h.1
  . next heq =>
    cases heq
    exact absurd rfl h.2.1
  . next heq =>
    cases heq
    exact absurd rfl h.2.2
  . rfl

theorem value?_string (ascii : Bool) (s : String) (fuel : Nat) (rest : List Char) :
    value? (fuel + 1) (renderString ascii s ++ rest) = some (str s, rest) := by
  unfold renderString
  simp only [List.cons_append, List.append_assoc, List.nil_append]
  rw [value?, dropWhile_of_not_isSpace (by rfl)]
  simp only [string?_renderChars, Option.map_some, String.ofList_toList]

theorem first_render (style : Style) (j : Json) (h : j.isPlain = true) :
    ∃ c l, j.render style = c :: l ∧ isSpace c = false ∧ c ≠ ']' ∧ c ≠ '}' := by
  cases j with
  | null => exact ⟨_, _, rfl, by decide⟩
  | bool b => cases b <;> exact ⟨_, _, rfl, by decide⟩
  | int n =>
    obtain ⟨c, l, hdecimal, hc, _⟩ := exists_decimal n
    obtain ⟨hspace, hmark⟩ := not_mark_of_numeric hc
    simp only [List.mem_cons, List.not_mem_nil, or_false, not_or] at hmark
    exact ⟨c, l, hdecimal, hspace, hmark.2.2.1, hmark.2.2.2.2⟩
  | real x => cases h
  | str s => exact ⟨_, _, rfl, by decide⟩
  | arr items => exact ⟨_, _, rfl, by decide⟩
  | obj fields => exact ⟨_, _, rfl, by decide⟩

theorem value?_int (n : Int) (fuel : Nat) {rest : List Char} (h : Ends rest) :
    value? (fuel + 1) (Text.decimal n ++ rest) = some (int n, rest) := by
  have hnumber := number?_decimal h n
  obtain ⟨c, l, hdecimal, hc, hstarts⟩ := exists_decimal n
  obtain ⟨hspace, hmark⟩ := not_mark_of_numeric hc
  simp only [List.mem_cons, List.not_mem_nil, or_false, not_or] at hmark
  rw [hdecimal] at hnumber ⊢
  rw [List.cons_append, value?_scalar hspace ⟨hmark.1, hmark.2.1, hmark.2.2.2.1⟩]
  rw [← List.cons_append, literal?_of_startsNumber (hstarts rest), hnumber]
  rfl

theorem ends_cons {c : Char} (h : c ∈ [',', ']', '}']) (rest : List Char) : Ends (c :: rest) := by
  intro d hd
  cases hd
  simp only [List.mem_cons, List.not_mem_nil, or_false] at h
  rcases h with rfl | rfl | rfl <;> decide

theorem value?_items {c : Char} (hspace : isSpace c = false) (h : c ≠ ']') (fuel : Nat) (l : List Char) :
    value? (fuel + 1) ('[' :: c :: l) = (items? fuel (c :: l)).map fun (js, r) => (arr js, r) := by
  rw [value?, dropWhile_of_not_isSpace (by rfl)]
  simp only [dropWhile_of_not_isSpace hspace]
  split
  . next heq =>
    cases heq
    exact absurd rfl h
  . rfl

theorem value?_fields (fuel : Nat) (l : List Char) :
    value? (fuel + 1) ('{' :: '"' :: l) = (fields? fuel ('"' :: l)).map fun (fs, r) => (obj fs, r) := by
  rw [value?, dropWhile_of_not_isSpace (by rfl)]
  rfl

theorem items?_of_value? {fuel : Nat} {l r : List Char} {j : Json} (h : value? fuel l = some (j, r)) :
    (∀ rest, r = ']' :: rest → items? (fuel + 1) l = some ([j], rest))
      ∧ ∀ rest, r = ',' :: rest → items? (fuel + 1) l = (items? fuel rest).map fun (js, r) => (j :: js, r) := by
  constructor
  all_goals
    rintro rest rfl
    rw [items?, h]
    rfl

theorem fields?_of_value? {fuel : Nat} (ascii : Bool) (key : String) {separator l r : List Char}
    (hsep : IsGap ':' separator) {j : Json} (h : value? fuel l = some (j, r)) :
    (∀ rest, r = '\x7d' :: rest →
        fields? (fuel + 1) (renderString ascii key ++ (separator ++ l)) = some ([(key, j)], rest))
      ∧ ∀ rest, r = ',' :: rest →
        fields? (fuel + 1) (renderString ascii key ++ (separator ++ l)) =
          (fields? fuel rest).map fun (fs, r) => ((key, j) :: fs, r) := by
  obtain ⟨gap, hdrop, hgap⟩ := dropWhile_gap hsep (by rfl) l
  constructor
  all_goals
    rintro rest rfl
    unfold renderString
    simp only [List.cons_append, List.append_assoc, List.nil_append]
    rw [fields?, dropWhile_of_not_isSpace (by rfl)]
    simp only [string?_renderChars, Option.bind_eq_bind, Option.bind_some, hdrop]
    rw [value?_space hgap, h]
    simp only [Option.bind_some, String.ofList_toList]
    rfl

theorem renderItems_cons (style : Style) (j k : Json) (ks : List Json) :
    renderItems style (j :: k :: ks) = render style j ++ style.itemSeparator ++ renderItems style (k :: ks) := by
  rw [renderItems]
  simp

theorem renderFields_cons (style : Style) (key : String) (j : Json) (g : String × Json) (gs : List (String × Json)) :
    renderFields style ((key, j) :: g :: gs) =
      renderString style.ascii key ++ style.keySeparator ++ render style j ++ style.itemSeparator
        ++ renderFields style (g :: gs) := by
  rw [renderFields]
  simp

mutual

theorem value?_render {style : Style} (hs : style.Standard) (j : Json) (hj : j.isPlain = true) (fuel : Nat)
    (hfuel : 2 * (j.render style).length < fuel) {rest : List Char} (hr : Ends rest) :
    value? fuel (j.render style ++ rest) = some (j, rest) := by
  -- every step into an item or a field is paid for by two characters
  obtain ⟨fuel, rfl⟩ : ∃ n, fuel = n + 1 := ⟨fuel - 1, by omega⟩
  match heq : j, hj, hfuel with
  | .null, _, _ => exact value?_scalar (c := 'n') (by rfl) (by decide) fuel
  | .bool b, _, _ => cases b <;> exact value?_scalar (by rfl) (by decide) fuel
  | .int n, _, _ => exact value?_int n fuel hr
  | .str s, _, _ => exact value?_string style.ascii s fuel rest
  | .arr [], _, _ => rfl
  | .arr (j :: js), hj, hfuel =>
    simp only [isPlain] at hj
    simp only [render, List.length_cons, List.length_append] at hfuel
    have hitems := items?_render hs j js hj fuel (by omega) rest
    have hj : j.isPlain = true := by
      simp only [arePlain, Bool.and_eq_true] at hj
      exact hj.1
    obtain ⟨c, l, hfirst, hspace, hbracket, _⟩ := first_render style j hj
    obtain ⟨l', hl'⟩ : ∃ l', renderItems style (j :: js) = c :: l' := by
      cases js with
      | nil => exact ⟨_, hfirst⟩
      | cons k ks =>
        rw [renderItems_cons, hfirst]
        exact ⟨_, rfl⟩
    simp only [render, List.cons_append, List.append_assoc, List.nil_append]
    rw [hl', List.cons_append] at hitems ⊢
    rw [value?_items hspace hbracket, hitems]
    rfl
  | .obj [], _, _ => rfl
  | .obj ((key, j) :: fs), hj, hfuel =>
    simp only [isPlain] at hj
    simp only [render, List.length_cons, List.length_append] at hfuel
    have hfields := fields?_render hs key j fs hj fuel (by omega) rest
    obtain ⟨l', hl'⟩ : ∃ l', renderFields style ((key, j) :: fs) = '"' :: l' := by
      cases fs with
      | nil => exact ⟨_, rfl⟩
      | cons g gs => exact ⟨_, rfl⟩
    simp only [render, List.cons_append, List.append_assoc, List.nil_append]
    rw [hl', List.cons_append] at hfields ⊢
    rw [value?_fields, hfields]
    rfl
termination_by sizeOf j
decreasing_by
  all_goals
    subst heq
    simp only [arr.sizeOf_spec, obj.sizeOf_spec, List.cons.sizeOf_spec, Prod.mk.sizeOf_spec]
    omega

theorem items?_render {style : Style} (hs : style.Standard) (j : Json) (js : List Json)
    (hj : arePlain (j :: js) = true) (fuel : Nat) (hfuel : 2 * (renderItems style (j :: js)).length + 1 < fuel)
    (rest : List Char) : items? fuel (renderItems style (j :: js) ++ ']' :: rest) = some (j :: js, rest) := by
  obtain ⟨fuel, rfl⟩ : ∃ n, fuel = n + 1 := ⟨fuel - 1, by omega⟩
  simp only [arePlain, Bool.and_eq_true] at hj
  match heq : js, hj, hfuel with
  | [], hj, hfuel =>
    rw [renderItems] at hfuel ⊢
    have hvalue := value?_render hs j hj.1 fuel (by omega) (ends_cons (c := ']') (by decide) rest)
    exact (items?_of_value? hvalue).1 rest rfl
  | k :: ks, hj, hfuel =>
    obtain ⟨gap, hsep, hgap⟩ := hs.item
    rw [renderItems_cons, hsep] at hfuel ⊢
    simp only [List.length_append, List.length_cons] at hfuel
    simp only [List.append_assoc, List.cons_append]
    have hvalue := value?_render hs j hj.1 fuel (by omega)
      (ends_cons (c := ',') (by decide) (gap ++ (renderItems style (k :: ks) ++ ']' :: rest)))
    rw [(items?_of_value? hvalue).2 _ rfl, items?_space hgap, items?_render hs k ks hj.2 fuel (by omega) rest]
    rfl
termination_by sizeOf (j :: js)
decreasing_by
  all_goals
    subst heq
    simp only [List.cons.sizeOf_spec]
    omega

theorem fields?_render {style : Style} (hs : style.Standard) (key : String) (j : Json) (fs : List (String × Json))
    (hj : fieldsArePlain ((key, j) :: fs) = true) (fuel : Nat)
    (hfuel : 2 * (renderFields style ((key, j) :: fs)).length + 1 < fuel) (rest : List Char) :
    fields? fuel (renderFields style ((key, j) :: fs) ++ '\x7d' :: rest) = some ((key, j) :: fs, rest) := by
  obtain ⟨fuel, rfl⟩ : ∃ n, fuel = n + 1 := ⟨fuel - 1, by omega⟩
  simp only [fieldsArePlain, Bool.and_eq_true] at hj
  match heq : fs, hj, hfuel with
  | [], hj, hfuel =>
    rw [renderFields] at hfuel ⊢
    simp only [List.length_append] at hfuel
    simp only [List.append_assoc]
    have hvalue := value?_render hs j hj.1 fuel (by omega) (ends_cons (c := '\x7d') (by decide) rest)
    exact (fields?_of_value? style.ascii key hs.key hvalue).1 rest rfl
  | (key', j') :: gs, hj, hfuel =>
    obtain ⟨gap, hsep, hgap⟩ := hs.item
    rw [renderFields_cons, hsep] at hfuel ⊢
    simp only [List.length_append, List.length_cons] at hfuel
    simp only [List.append_assoc, List.cons_append]
    have hvalue := value?_render hs j hj.1 fuel (by omega)
      (ends_cons (c := ',') (by decide) (gap ++ (renderFields style ((key', j') :: gs) ++ '\x7d' :: rest)))
    rw [(fields?_of_value? style.ascii key hs.key hvalue).2 _ rfl, fields?_space hgap,
      fields?_render hs key' j' gs hj.2 fuel (by omega) rest]
    rfl
termination_by sizeOf ((key, j) :: fs)
decreasing_by
  all_goals
    subst heq
    simp only [List.cons.sizeOf_spec, Prod.mk.sizeOf_spec]
    omega

end

end Parser

/-- A printed value is read as itself. -/
theorem parse?_toText {style : Style} (hs : style.Standard) {j : Json} (hj : j.isPlain = true) :
    parse? (j.toText style) = some j := by
  unfold parse? toText
  rw [String.toList_ofList]
  have hvalue := Parser.value?_render hs j hj (2 * (j.render style).length + 1) (by omega) Parser.ends_nil
  rw [List.append_nil] at hvalue
  simp only [hvalue, Option.bind_eq_bind, Option.bind_some]
  rfl

end Json
end Readiness
