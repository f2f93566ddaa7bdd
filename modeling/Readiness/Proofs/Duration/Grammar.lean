import Readiness.Duration.Parser
import Readiness.Proofs.Text.Trimmed

/-!
This module contains the grammar of duration texts and the proof that reading accepts exactly its texts: a scan that
always takes the longest number and the first unit that fits misses no reading and takes nothing for one that is none.
-/

namespace Readiness
namespace Duration

def Digits (l : List Char) : Prop :=
  ∀ c ∈ l, Text.isDigit c = true

instance (l : List Char) : Decidable (Digits l) :=
  decidable_of_iff (l.all Text.isDigit = true) List.all_eq_true

/-- The number in digits, with at most one point before, among or behind them, and with at least one digit. -/
inductive Amount.Written : Amount → List Char → Prop where
  | plain {whole : List Char} (hw : Digits whole) (hne : whole ≠ []) : Written ⟨whole, []⟩ whole
  | pointed {whole fraction : List Char} (hw : Digits whole) (hf : Digits fraction) (hne : whole = [] → fraction ≠ []) :
    Written ⟨whole, fraction⟩ (whole ++ '.' :: fraction)

/-- A number directly followed by its unit. -/
inductive Component.Written : Component → List Char → Prop where
  | mk {amount : Amount} {unit : TimeUnit} {number spelling : List Char} (ha : amount.Written number)
    (hu : (spelling, unit) ∈ TimeUnit.spellings) : Written ⟨amount, unit⟩ (number ++ spelling)

/-- The units of texts are spelled in eight ways, which stand for these lengths in nanoseconds. -/
theorem TimeUnit.spellings_lengths : TimeUnit.spellings.map (fun s => (String.ofList s.1, s.2.nanos)) =
    [("ns", 1), ("us", 1000), ("\u00b5s", 1000), ("\u03bcs", 1000), ("ms", 1000000), ("s", 1000000000),
      ("m", 60000000000), ("h", 3600000000000)] := by
  decide

/-- Components one after another, with nothing between them. -/
inductive Sequence : List Component → List Char → Prop where
  | nil : Sequence [] []
  | cons {c : Component} {cs : List Component} {front rest : List Char} (hc : c.Written front) (hcs : Sequence cs rest) :
    Sequence (c :: cs) (front ++ rest)

/-- A text with a sign or without one; the flag tells whether there is a minus. -/
inductive Signed : Bool → List Char → List Char → Prop where
  | unsigned (body : List Char) : Signed false body body
  | plus (body : List Char) : Signed false body ('+' :: body)
  | minus (body : List Char) : Signed true body ('-' :: body)

/-- The seconds that a text denotes: its number if there is no unit, the sum of its components otherwise. -/
inductive Denotes : List Char → Double → Prop where
  | bare {negative : Bool} {body l : List Char} {a : Amount} (hs : Signed negative body l) (ha : a.Written body) :
    Denotes l (a.toDouble negative)
  | sum {negative : Bool} {body l : List Char} {cs : List Component} (hs : Signed negative body l) (hne : cs ≠ [])
    (hcs : Sequence cs body) (total : Double)
    (ht : total = (cs.map fun c => c.amount.toDouble false * .ofInt c.unit.nanos).foldl (· + ·) .zero) :
    Denotes l ((if negative then -total else total) / .ofInt 1000000000)

/-- What comes next cannot go on with a number. -/
def Stops (rest : List Char) : Prop :=
  ∀ c ∈ rest.head?, Text.isDigit c = false ∧ c ≠ '.'

/-- A number starts here. -/
def Starts (l : List Char) : Prop :=
  ∃ c ∈ l.head?, Text.isDigit c = true ∨ c = '.'

theorem starts_append {l : List Char} (h : Starts l) (r : List Char) : Starts (l ++ r) := by
  obtain ⟨c, hc, hstart⟩ := h
  refine ⟨c, ?_, hstart⟩
  rw [Option.mem_def] at hc
  simp [hc]

theorem not_starts_cons {c : Char} (hd : Text.isDigit c = false) (hp : c ≠ '.') (r : List Char) : ¬ Starts (c :: r) := by
  rintro ⟨_, hc, hstart⟩
  cases hc
  simp [hd, hp] at hstart

theorem takeWhile_digits {ds rest : List Char} (hd : Digits ds) (hr : ∀ c ∈ rest.head?, Text.isDigit c = false) :
    (ds ++ rest).takeWhile Text.isDigit = ds ∧ (ds ++ rest).dropWhile Text.isDigit = rest := by
  rw [List.takeWhile_append_of_pos hd, List.dropWhile_append_of_pos hd]
  cases rest with
  | nil => simp
  | cons c rest =>
    have := hr c rfl
    simp [this]

theorem digits_takeWhile (l : List Char) : Digits (l.takeWhile Text.isDigit) := by
  intro c hc
  exact List.mem_takeWhile_imp hc

theorem not_isDigit_point : Text.isDigit '.' = false := by
  decide

/-- The longest number at the front is the whole of a number that nothing goes on with. -/
theorem amount?_append {a : Amount} {l rest : List Char} (h : a.Written l) (hr : Stops rest) :
    amount? (l ++ rest) = some (a, rest) := by
  have hrest : ∀ c ∈ rest.head?, Text.isDigit c = false := fun c hc => (hr c hc).1
  cases h with
  | plain hw hne =>
    obtain ⟨htake, hdrop⟩ := takeWhile_digits hw hrest
    simp only [amount?, htake, hdrop]
    split
    . exact absurd rfl (hr '.' rfl).2
    . simp [hne]
  | pointed hw hf hne =>
    rename_i whole fraction
    have hpoint : ∀ c ∈ ('.' :: (fraction ++ rest)).head?, Text.isDigit c = false := by
      intro c hc
      cases hc
      apply not_isDigit_point
    obtain ⟨htake, hdrop⟩ := takeWhile_digits hw hpoint
    obtain ⟨htake', hdrop'⟩ := takeWhile_digits hf hrest
    simp only [amount?, List.append_assoc, List.cons_append, htake, hdrop, htake', hdrop']
    rw [if_neg]
    simpa using hne

theorem written_of_amount? {l r : List Char} {a : Amount} (h : amount? l = some (a, r)) :
    ∃ number, a.Written number ∧ l = number ++ r := by
  have hwhole := digits_takeWhile l
  have hsplit := List.takeWhile_append_dropWhile (p := Text.isDigit) (l := l)
  simp only [amount?] at h
  split at h
  . next r' hr' =>
    split at h
    . cases h
    . next hne =>
      cases h
      refine ⟨_, .pointed hwhole (digits_takeWhile r') ?_, ?_⟩
      . simpa using hne
      . rw [List.append_assoc, List.cons_append, List.takeWhile_append_dropWhile, ← hr', hsplit]
  . split at h
    . cases h
    . next hne =>
      cases h
      refine ⟨_, .plain hwhole ?_, hsplit.symm⟩
      simpa using hne

theorem Amount.Written.starts {a : Amount} {l : List Char} (h : a.Written l) : Starts l := by
  cases h with
  | plain hw hne =>
    cases l with
    | nil => exact absurd rfl hne
    | cons c l => exact ⟨c, rfl, .inl (hw c List.mem_cons_self)⟩
  | pointed hw hf hne =>
    rename_i whole fraction
    cases whole with
    | nil => exact ⟨'.', rfl, .inr rfl⟩
    | cons c whole => exact ⟨c, rfl, .inl (hw c List.mem_cons_self)⟩

theorem stops_spelling {s : List Char × TimeUnit} (h : s ∈ TimeUnit.spellings) (rest : List Char) :
    Stops (s.1 ++ rest) := by
  have hall : ∀ s ∈ TimeUnit.spellings, s.1.head?.any (fun c => !Text.isDigit c && c != '.') = true := by
    decide
  have hfirst := hall s h
  intro c hc
  rw [List.head?_append] at hc
  cases hs : s.1 with
  | nil =>
    rw [hs] at hfirst
    cases hfirst
  | cons d l =>
    rw [hs] at hc hfirst
    cases hc
    simpa using hfirst

/-- Only `m` is the start of another unit, and what follows a component is never the `s` that makes it that one. -/
theorem unit?_append {spelling rest : List Char} {u : TimeUnit} (h : (spelling, u) ∈ TimeUnit.spellings)
    (hr : rest.head? ≠ some 's') : unit? (spelling ++ rest) = some (u, rest) := by
  simp only [TimeUnit.spellings, List.mem_cons, Prod.mk.injEq, List.not_mem_nil, or_false] at h
  rcases h with ⟨rfl, rfl⟩ | ⟨rfl, rfl⟩ | ⟨rfl, rfl⟩ | ⟨rfl, rfl⟩ | ⟨rfl, rfl⟩ | ⟨rfl, rfl⟩ | ⟨rfl, rfl⟩ | ⟨rfl, rfl⟩
  case inr.inr.inr.inr.inr.inr.inl =>
    cases rest with
    | nil => rfl
    | cons c rest =>
      have hc : ('s' == c) = false := by
        rw [beq_eq_false_iff_ne]
        intro heq
        exact hr (congrArg some heq.symm)
      have hms : ['m', 's'].isPrefixOf? ('m' :: c :: rest) = none := by
        change (if 's' == c then some rest else none) = none
        rw [hc]
        rfl
      simp only [unit?, TimeUnit.spellings, List.cons_append, List.nil_append, List.findSome?, hms]
      rfl
  all_goals rfl

theorem spelling_of_unit? {l r : List Char} {u : TimeUnit} (h : unit? l = some (u, r)) :
    ∃ spelling, (spelling, u) ∈ TimeUnit.spellings ∧ l = spelling ++ r := by
  obtain ⟨s, hs, h⟩ := List.exists_of_findSome?_eq_some h
  obtain ⟨t, ht, h⟩ := Option.map_eq_some_iff.mp h
  cases h
  exact ⟨s.1, hs, (append_of_isPrefixOf? ht).symm⟩

theorem Sequence.starts_of_ne_nil {cs : List Component} {l : List Char} (h : Sequence cs l) (hne : cs ≠ []) :
    Starts l := by
  cases h with
  | nil => exact absurd rfl hne
  | cons hc hcs =>
    cases hc with
    | mk ha hu =>
      rw [List.append_assoc]
      apply starts_append ha.starts

theorem Sequence.starts {cs : List Component} {l : List Char} (h : Sequence cs l) : l = [] ∨ Starts l := by
  cases cs with
  | nil =>
    cases h
    exact .inl rfl
  | cons c cs => exact .inr (h.starts_of_ne_nil (List.cons_ne_nil c cs))

theorem component?_append {c : Component} {front rest : List Char} (hc : c.Written front)
    (hr : rest = [] ∨ Starts rest) : component? (front ++ rest) = some (c, rest) := by
  cases hc with
  | mk ha hu =>
    have hs : rest.head? ≠ some 's' := by
      rcases hr with rfl | ⟨c, hc, hstart⟩
      . simp
      . intro heq
        rw [heq] at hc
        cases hc
        revert hstart
        decide
    simp only [component?, List.append_assoc, amount?_append ha (stops_spelling hu rest), unit?_append hu hs,
      Option.bind_eq_bind, Option.bind_some, Option.pure_def]

theorem written_of_component? {l r : List Char} {c : Component} (h : component? l = some (c, r)) :
    ∃ front, c.Written front ∧ l = front ++ r := by
  simp only [component?, Option.bind_eq_bind, Option.bind_eq_some_iff, Option.pure_def, Option.some.injEq,
    Prod.mk.injEq] at h
  obtain ⟨⟨a, r₁⟩, h₁, ⟨u, r₂⟩, h₂, rfl, rfl⟩ := h
  obtain ⟨number, ha, rfl⟩ := written_of_amount? h₁
  obtain ⟨spelling, hu, hr₁⟩ := spelling_of_unit? h₂
  refine ⟨number ++ spelling, .mk ha hu, ?_⟩
  dsimp only at hr₁ ⊢
  rw [List.append_assoc, hr₁]

theorem components?_cons {l r : List Char} {c : Component} (h : component? l = some (c, r)) :
    components? l = (components? r).map (c :: ·) := by
  have hlt := length_component?_lt h
  have hne : l.isEmpty = false := by
    cases l with
    | nil => simp at hlt
    | cons _ _ => rfl
  rw [components?, hne]
  simp only [Bool.false_eq_true, ↓reduceIte]
  split
  . next hnone =>
    rw [h] at hnone
    cases hnone
  . next hsome =>
    rw [h] at hsome
    cases hsome
    rfl

theorem components?_of_sequence {cs : List Component} {l : List Char} (h : Sequence cs l) :
    components? l = some cs := by
  induction h with
  | nil =>
    rw [components?]
    rfl
  | cons hc hcs ih => rw [components?_cons (component?_append hc hcs.starts), ih, Option.map_some]

theorem sequence_of_components? (l : List Char) {cs : List Component} (h : components? l = some cs) :
    Sequence cs l := by
  fun_induction components? l generalizing cs with
  | case1 l hempty =>
    cases h
    rw [List.isEmpty_iff.mp hempty]
    exact .nil
  | case2 => cases h
  | case3 l hne c r hc _ ih =>
    obtain ⟨cs, hcs, rfl⟩ := Option.map_eq_some_iff.mp h
    obtain ⟨front, hfront, rfl⟩ := written_of_component? hc
    exact .cons hfront (ih hcs)

theorem components?_eq_some_iff {l : List Char} {cs : List Component} : components? l = some cs ↔ Sequence cs l := by
  exact ⟨sequence_of_components? l, components?_of_sequence⟩

theorem signed_splitSign (l : List Char) : Signed (splitSign l).1 (splitSign l).2 l := by
  unfold splitSign
  split <;> constructor

theorem splitSign_of_signed {negative : Bool} {body l : List Char} (h : Signed negative body l) (hb : Starts body) :
    splitSign l = (negative, body) := by
  cases h with
  | unsigned =>
    unfold splitSign
    split
    . exact absurd hb (not_starts_cons (by decide) (by decide) _)
    . exact absurd hb (not_starts_cons (by decide) (by decide) _)
    . rfl
  | plus => rfl
  | minus => rfl

theorem bare?_eq_some_iff {l : List Char} {x : Double} :
    bare? l = some x ↔ ∃ (negative : Bool) (body : List Char) (a : Amount), Signed negative body l ∧ a.Written body ∧ x = a.toDouble negative := by
  constructor
  . intro h
    simp only [bare?] at h
    split at h
    . next a ha =>
      cases h
      obtain ⟨number, hnumber, hbody⟩ := written_of_amount? ha
      rw [List.append_nil] at hbody
      exact ⟨_, _, a, signed_splitSign l, hbody ▸ hnumber, rfl⟩
    . cases h
  . rintro ⟨negative, body, a, hs, ha, rfl⟩
    have hamount : amount? body = some (a, []) := by
      rw [← List.append_nil body]
      apply amount?_append ha
      simp [Stops]
    simp only [bare?, splitSign_of_signed hs ha.starts, hamount]

theorem signedComponents?_eq_some_iff {l : List Char} {negative : Bool} {cs : List Component} :
    signedComponents? l = some (negative, cs) ↔ cs ≠ [] ∧ ∃ body, Signed negative body l ∧ Sequence cs body := by
  constructor
  . intro h
    simp only [signedComponents?] at h
    split at h
    . next hcs =>
      cases h
      exact ⟨List.cons_ne_nil _ _, _, signed_splitSign l, components?_eq_some_iff.mp hcs⟩
    . cases h
  . rintro ⟨hne, body, hs, hcs⟩
    simp only [signedComponents?, splitSign_of_signed hs (hcs.starts_of_ne_nil hne), components?_eq_some_iff.mpr hcs]
    cases cs with
    | nil => exact absurd rfl hne
    | cons c cs => rfl

theorem seconds_eq (negative : Bool) (cs : List Component) :
    let total := (cs.map fun c => c.amount.toDouble false * .ofInt c.unit.nanos).foldl (· + ·) .zero
    seconds negative cs = (if negative then -total else total) / .ofInt 1000000000 := by
  intro total
  have htotal : totalNanos cs = total := by
    unfold totalNanos total
    rw [List.foldl_map]
    rfl
  unfold seconds
  rw [htotal]
  rfl

/-- What has a unit is no bare number. -/
theorem bare?_of_sequence {negative : Bool} {body l : List Char} {cs : List Component} (hs : Signed negative body l)
    (hne : cs ≠ []) (hcs : Sequence cs body) : bare? l = none := by
  simp only [bare?, splitSign_of_signed hs (hcs.starts_of_ne_nil hne)]
  cases hcs with
  | nil => exact absurd rfl hne
  | cons hc hcs =>
    cases hc with
    | mk ha hu =>
      rw [List.append_assoc, amount?_append ha (stops_spelling hu _)]
      have := spellings_length_pos _ hu
      split
      . next heq =>
        simp only [Option.some.injEq, Prod.mk.injEq, List.append_eq_nil_iff] at heq
        simp [heq.2.1] at this
      . rfl

theorem not_denotes_nil (x : Double) : ¬ Denotes [] x := by
  have hnot {negative : Bool} {body : List Char} (hs : Signed negative body []) : ¬ Starts body := by
    cases hs
    simp [Starts]
  intro h
  cases h with
  | bare hs ha => exact hnot hs ha.starts
  | sum hs hne hcs => exact hnot hs (hcs.starts_of_ne_nil hne)

theorem parse_of_denotes {text : String} {x : Double} (h : Denotes (Text.trimChars text.toList) x) :
    parse text = .ok x := by
  have hne : (Text.trimChars text.toList).isEmpty = false := by
    rw [List.isEmpty_eq_false_iff]
    intro hnil
    rw [hnil] at h
    exact not_denotes_nil x h
  unfold parse
  cases h with
  | bare hs ha =>
    simp only [hne, bare?_eq_some_iff.mpr ⟨_, _, _, hs, ha, rfl⟩]
    rfl
  | sum hs hcs hseq total ht =>
    simp only [hne, bare?_of_sequence hs hcs hseq, signedComponents?_eq_some_iff.mpr ⟨hcs, _, hs, hseq⟩]
    rw [ht, ← seconds_eq]
    rfl

theorem parse_of_not_denotes {text : String} (h : ∀ x, ¬ Denotes (Text.trimChars text.toList) x) :
    parse text = .error (if Text.trimChars text.toList = [] then .empty else .invalid text) := by
  simp only [parse, List.isEmpty_iff]
  split
  . rfl
  . split
    . next x hx =>
      obtain ⟨negative, body, a, hs, ha, rfl⟩ := bare?_eq_some_iff.mp hx
      exact absurd (.bare hs ha) (h _)
    . split
      . next negative cs hcs =>
        obtain ⟨hne, body, hs, hseq⟩ := signedComponents?_eq_some_iff.mp hcs
        exact absurd (.sum hs hne hseq _ rfl) (h _)
      . rfl

theorem parse_eq_ok_iff {text : String} {x : Double} :
    parse text = .ok x ↔ Denotes (Text.trimChars text.toList) x := by
  constructor
  . intro h
    by_cases hd : ∃ y, Denotes (Text.trimChars text.toList) y
    . obtain ⟨y, hy⟩ := hd
      rw [parse_of_denotes hy] at h
      cases h
      exact hy
    . rw [parse_of_not_denotes (not_exists.mp hd)] at h
      cases h
  . exact parse_of_denotes

end Duration
end Readiness
