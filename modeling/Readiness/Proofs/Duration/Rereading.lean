import Readiness.Proofs.Duration.Canonical
import Readiness.Proofs.Duration.Whole

/-!
This module contains the reading of canonical texts. The seconds that are read have the same text again: of half a
nanosecond, all the rounding on the way there and back takes less, as long as there are at most `10 ^ 15` nanoseconds.
-/

namespace Readiness
namespace Duration

open Double (Near)

theorem Starts.head?_any {l : List Char} (h : Starts l) : l.head?.any Text.isBlank = false := by
  obtain ⟨c, hc, hstart⟩ := h
  rw [Option.mem_def] at hc
  rw [hc, Option.any_some]
  rcases hstart with hd | rfl
  . exact Text.isBlank_of_isDigit hd
  . decide

theorem Component.Written.getLast?_any {c : Component} {l : List Char} (h : c.Written l) :
    l ≠ [] ∧ l.getLast?.any Text.isBlank = false := by
  have hall : ∀ s ∈ TimeUnit.spellings, s.1 ≠ [] ∧ s.1.getLast?.any Text.isBlank = false := by
    decide
  cases h with
  | mk ha hu =>
    obtain ⟨hne, hlast⟩ := hall _ hu
    refine ⟨List.append_ne_nil_of_right_ne_nil _ hne, ?_⟩
    rwa [List.getLast?_append_of_ne_nil _ hne]

theorem Sequence.getLast?_any {cs : List Component} {l : List Char} (h : Sequence cs l) :
    l.getLast?.any Text.isBlank = false := by
  induction h with
  | nil => rfl
  | cons hc hcs ih =>
    rename_i front rest
    cases rest with
    | nil =>
      rw [List.append_nil]
      exact hc.getLast?_any.2
    | cons d rest => rwa [List.getLast?_append_of_ne_nil _ (List.cons_ne_nil d rest)]

/-- Neither the first nor the last character of a duration is blank. -/
theorem trimChars_of_sequence {negative : Bool} {body l : List Char} {cs : List Component} (hs : Signed negative body l)
    (hne : cs ≠ []) (hcs : Sequence cs body) : Text.trimChars l = l := by
  have hstarts := hcs.starts_of_ne_nil hne
  have hbody : body ≠ [] := by
    rintro rfl
    obtain ⟨c, hc, _⟩ := hstarts
    cases hc
  have hlast := hcs.getLast?_any
  have htrimmed : Text.Trimmed Text.isBlank l l := by
    refine ⟨⟨[], [], by simp, by simp⟩, ?_, ?_⟩
    . cases hs with
      | unsigned => exact hstarts.head?_any
      | plus => exact (by decide : Text.isBlank '+' = false)
      | minus => exact (by decide : Text.isBlank '-' = false)
    . cases hs with
      | unsigned => exact hlast
      | _ => rwa [List.getLast?_cons_of_ne_nil hbody]
  exact htrimmed.eq_trimBy.symm

theorem Amount.Tidy.isWhole {a : Amount} (h : a.Tidy 0) : a.IsWhole := by
  obtain ⟨n, hn⟩ := h.whole
  have hnil := List.eq_nil_of_length_eq_zero (Nat.le_zero.mp h.places)
  obtain ⟨whole, fraction⟩ := a
  cases hn
  cases hnil
  exact ⟨n, Amount.exact_toDigits n⟩

/-- Whole numbers, and then one that may have a fraction, of at most 1000 units of at most a second. -/
structure Tame (front : List Component) (c : Component) : Prop where
  whole : ∀ d ∈ front, d.amount.IsWhole
  amount : c.amount.exact ≤ 1000
  unit : c.unit.nanos ≤ 1000000000

theorem tame_singleton {n : Nat} {a : Amount} {u : TimeUnit} (hu : u.nanos ≤ 1000000000) (hn : n ≤ 1000 * u.nanos)
    (ht : exactTotal [⟨a, u⟩] = n) : Tame [] ⟨a, u⟩ := by
  refine ⟨by simp, ?_, hu⟩
  rw [exactTotal_singleton] at ht
  have hn : (n : ℚ) ≤ 1000 * u.nanos := by exact_mod_cast hn
  rw [← ht] at hn
  exact le_of_mul_le_mul_right hn u.nanos_cast_pos

theorem Canonical.exists_tame {n : Nat} {cs : List Component} (h : Canonical n cs) (ht : exactTotal cs = n) :
    ∃ front c, cs = front ++ [c] ∧ Tame front c := by
  cases h with
  | zero => exact ⟨[], _, rfl, tame_singleton (by decide) (by decide) ht⟩
  | nanoseconds _ hn _ => exact ⟨[], _, rfl, tame_singleton (by decide) (by simp only [TimeUnit.nanos]; omega) ht⟩
  | microseconds _ hn _ => exact ⟨[], _, rfl, tame_singleton (by decide) (by simp only [TimeUnit.nanos]; omega) ht⟩
  | milliseconds _ hn _ => exact ⟨[], _, rfl, tame_singleton (by decide) (by simp only [TimeUnit.nanos]; omega) ht⟩
  | seconds _ hn _ _ => exact ⟨[], _, rfl, tame_singleton (by decide) (by simp only [TimeUnit.nanos]; omega) ht⟩
  | minutes _ _ hm _ hs hs60 =>
    refine ⟨[_], _, rfl, ?_, ?_, (by decide : TimeUnit.second.nanos ≤ 1000000000)⟩
    . simpa using hm.isWhole
    . dsimp only
      linarith
  | hours _ hh hm _ hs hs60 =>
    refine ⟨[_, _], _, rfl, ?_, ?_, (by decide : TimeUnit.second.nanos ≤ 1000000000)⟩
    . simpa using ⟨hh.isWhole, hm.isWhole⟩
    . dsimp only
      linarith

theorem rounds_toDouble {a : Amount} (h : a.exact ≤ 2 ^ 53) : Double.Rounds (a.toDouble false) a.exact := by
  have hround := Double.rounds_ofDecimal false h
  rwa [Double.sign, if_neg (by decide), one_mul] at hround

variable {front : List Component} {c : Component}

theorem Tame.near_nanos (h : Tame front c) : Near c.nanos c.exact (1 / 1000) := by
  have hunit : (c.unit.nanos : ℚ) ≤ 1000000000 := by exact_mod_cast h.unit
  have hpos := c.unit.nanos_cast_pos
  have hamount := h.amount
  have hnonneg := c.amount.exact_nonneg
  have hround : Near (c.amount.toDouble false) c.amount.exact (1001 / 2 ^ 53) := by
    apply (rounds_toDouble (by linarith)).mono
    rw [abs_of_nonneg hnonneg]
    linarith
  have hexact : |c.amount.exact * c.unit.nanos| ≤ 1000 * 1000000000 := by
    rw [abs_of_nonneg (by positivity)]
    exact mul_le_mul hamount hunit hpos.le (by norm_num)
  apply (hround.mul (Double.toRat?_ofInt c.unit.nanos_le) _).mono
  . norm_num at hexact ⊢
    linarith
  . norm_num at hexact ⊢
    linarith

theorem Tame.near_totalNanos (h : Tame front c) {n : Nat} (ht : exactTotal (front ++ [c]) = n) (hn : n ≤ 10 ^ 15) :
    Near (totalNanos (front ++ [c])) n (1 / 8) := by
  obtain ⟨j, hj⟩ := exists_exactTotal_whole h.whole
  rw [exactTotal_append, exactTotal_singleton, hj] at ht
  have hjn : j ≤ n := by
    have := c.exact_nonneg
    have : (j : ℚ) ≤ n := by linarith
    exact_mod_cast this
  have hfront : (totalNanos front).toRat? = some (j : ℚ) := by
    rw [totalNanos_whole h.whole hj (by omega)]
    exact Double.toRat?_ofInt (by rw [Nat.pow_eq]; omega)
  have hn : |(n : ℚ)| ≤ 10 ^ 15 := by
    rw [Nat.abs_cast]
    exact_mod_cast hn
  rw [totalNanos_append, ← ht]
  rw [← ht] at hn
  apply ((Double.near_of_toRat? hfront).add h.near_nanos _).mono
  . norm_num at hn ⊢
    linarith
  . norm_num at hn ⊢
    linarith

theorem toRat?_second : (Double.ofInt TimeUnit.second.nanos).toRat? = some (10 ^ 9 : ℚ) := by
  have hcast : ((TimeUnit.second.nanos : ℕ) : ℚ) = 10 ^ 9 := by norm_num [TimeUnit.nanos]
  rw [← hcast]
  apply Double.toRat?_ofInt
  decide

/-- Half of a nanosecond is left for all the rounding. -/
theorem nanos_seconds {negative : Bool} {cs : List Component} {n : Int} (hn : |(n : ℚ)| ≤ 10 ^ 15)
    (hvalue : (n : ℚ) = if negative then -exactTotal cs else exactTotal cs)
    (ht : Near (totalNanos cs) (exactTotal cs) (1 / 8)) : nanos (seconds negative cs) = .ok n := by
  have hsigned : Near (if negative then -totalNanos cs else totalNanos cs) n (1 / 8) := by
    rw [hvalue]
    cases negative
    . exact ht
    . exact ht.neg
  have hsmall : |(n : ℚ) / 10 ^ 9| ≤ 10 ^ 6 := by
    rw [abs_div, div_le_iff₀ (by norm_num)]
    norm_num at hn ⊢
    linarith
  have hseconds : Near (seconds negative cs) (n / 10 ^ 9) (1 / (4 * 10 ^ 9)) := by
    apply (hsigned.div toRat?_second (by norm_num) _).mono
    . norm_num at hsmall ⊢
      linarith
    . norm_num at hsmall ⊢
      linarith
  have hback : (n : ℚ) / 10 ^ 9 * 10 ^ 9 = n := by field_simp
  have hnanos := hseconds.mul toRat?_second (by rw [hback]; norm_num at hn ⊢; linarith)
  rw [hback] at hnanos
  apply Double.roundToInt_of_near hnanos
  norm_num at hn ⊢
  linarith

theorem exists_components (n : Int) :
    ∃ (body : List Char) (cs : List Component), Signed (decide (n < 0)) body (textOfNanos n) ∧ cs ≠ []
      ∧ Sequence cs body ∧ Canonical n.natAbs cs ∧ exactTotal cs = n.natAbs
      ∧ (n : ℚ) = if decide (n < 0) then -exactTotal cs else exactTotal cs := by
  obtain ⟨⟨cs, hcs, hseq, htext⟩, hcounts⟩ := textOfNanos_spec n
  obtain ⟨hne, _⟩ := hcs.tidy
  have hsigned : Signed (decide (n < 0)) (cs.flatMap Component.text) (textOfNanos n) := by
    rw [htext]
    by_cases hneg : n < 0
    . rw [if_pos hneg, decide_eq_true hneg]
      exact .minus _
    . rw [if_neg hneg, decide_eq_false hneg]
      exact .unsigned _
  have hvalue := hcounts.unique (.mk hsigned hne hseq)
  refine ⟨_, cs, hsigned, hne, hseq, hcs, ?_, hvalue⟩
  have hnonneg := exactTotal_nonneg cs
  rw [Nat.cast_natAbs, Int.cast_abs, hvalue]
  split
  . rw [abs_neg, abs_of_nonneg hnonneg]
  . rw [abs_of_nonneg hnonneg]

theorem exists_parse_textOfNanos {n : Int} (hn : |(n : ℚ)| ≤ 10 ^ 15) :
    ∃ y, parse (String.ofList (textOfNanos n)) = .ok y ∧ nanos y = .ok n ∧ (0 ≤ n → .zero ≤ y) := by
  obtain ⟨body, cs, hsigned, hne, hseq, hcs, htotal, hvalue⟩ := exists_components n
  refine ⟨seconds (decide (n < 0)) cs, ?_, ?_, ?_⟩
  . apply parse_of_sequence _ hne hseq
    rw [String.toList_ofList, trimChars_of_sequence hsigned hne hseq]
    exact hsigned
  . obtain ⟨front, c, rfl, htame⟩ := hcs.exists_tame htotal
    have hnat : n.natAbs ≤ 10 ^ 15 := by
      rw [← Int.cast_abs, ← Nat.cast_natAbs] at hn
      exact_mod_cast hn
    have hnear := htame.near_totalNanos htotal hnat
    rw [← htotal] at hnear
    exact nanos_seconds hn hvalue hnear
  . intro hn
    rw [decide_eq_false (Int.not_lt.mpr hn)]
    exact (unsigned_seconds cs).zero_le

theorem format_of_nanos {x : Double} {n : Int} (h : nanos x = .ok n) :
    format x = .ok (String.ofList (textOfNanos n)) := by
  unfold format
  rw [h]
  rfl

/-- A million seconds are `10 ^ 15` nanoseconds. -/
theorem exists_nanos {x : Double} (hlow : -Double.ofInt 1000000 ≤ x) (hhigh : x ≤ .ofInt 1000000) :
    ∃ n : Int, nanos x = .ok n ∧ |(n : ℚ)| ≤ 10 ^ 15 ∧ (.zero ≤ x → 0 ≤ n) := by
  obtain ⟨p, hp, hle⟩ := Double.exists_toRat?_of_between (n := 1000000) (by decide) hlow hhigh
  have hsmall : |p * 10 ^ 9| ≤ 10 ^ 15 := by
    rw [abs_mul]
    norm_num at hle ⊢
    linarith
  have hproduct := Double.rounds_mul hp toRat?_second (by norm_num at hsmall ⊢; linarith)
  obtain ⟨n, hn, hdist⟩ := Double.exists_roundToInt hproduct
  have hdist : |p * 10 ^ 9 - n| < 1 := by
    norm_num at hsmall hdist ⊢
    linarith
  obtain ⟨habove, hbelow⟩ := abs_lt.mp hdist
  refine ⟨n, hn, ?_, ?_⟩
  . have hlt : |(n : ℚ)| < 10 ^ 15 + 1 := by
      have := abs_sub_abs_le_abs_sub (n : ℚ) (p * 10 ^ 9)
      rw [abs_sub_comm] at hdist
      linarith
    have hlt : |n| < 10 ^ 15 + 1 := by exact_mod_cast hlt
    exact_mod_cast Int.le_of_lt_add_one hlt
  . intro hx
    have hp := Double.nonneg_of_toRat? hp hx
    have hlt : (-1 : ℚ) < n := by linarith [mul_nonneg hp (by norm_num : (0 : ℚ) ≤ 10 ^ 9)]
    have hlt : -1 < n := by exact_mod_cast hlt
    omega

theorem format_parse_format {x : Double} (hlow : -Double.ofInt 1000000 ≤ x) (hhigh : x ≤ .ofInt 1000000) :
    ∃ text y, format x = .ok text ∧ parse text = .ok y ∧ format y = .ok text ∧ (.zero ≤ x → .zero ≤ y) := by
  obtain ⟨n, hn, hle, hnonneg⟩ := exists_nanos hlow hhigh
  obtain ⟨y, hy, hny, hsign⟩ := exists_parse_textOfNanos hle
  exact ⟨_, y, format_of_nanos hn, hy, format_of_nanos hny, fun hx => hsign (hnonneg hx)⟩

end Duration
end Readiness
