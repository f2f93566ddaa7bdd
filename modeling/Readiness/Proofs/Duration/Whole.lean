import Readiness.Proofs.Double.Closest
import Readiness.Proofs.Duration.Exact
import Readiness.Proofs.Duration.Reading

/-!
This module contains durations of whole numbers: as long as they come to at most `2 ^ 53` nanoseconds all of them are
added up exactly, so that only the conversion to seconds rounds. The same time then reads the same in all units.
-/

namespace Readiness
namespace Duration

/-- The number has nothing but zeros after its point. -/
def Amount.IsWhole (a : Amount) : Prop :=
  ∃ n : ℕ, a.exact = n

/--
The text has a sign or none, whole numbers only, and comes to this many nanoseconds: a number of seconds without a unit,
or components.
-/
inductive Whole : Bool → Nat → List Char → Prop where
  | bare {negative : Bool} {body l : List Char} {a : Amount} {n : Nat} (hs : Signed negative body l)
    (ha : a.Written body) (hn : a.exact = n) : Whole negative (n * 1000000000) l
  | sum {negative : Bool} {body l : List Char} {cs : List Component} {n : Nat} (hs : Signed negative body l)
    (hne : cs ≠ []) (hcs : Sequence cs body) (hw : ∀ c ∈ cs, c.amount.IsWhole) (hn : exactTotal cs = n) :
    Whole negative n l

theorem exists_toDouble_whole {a : Amount} {n : Nat} (h : a.exact = n) (hn : n ≤ 2 ^ 53) (negative : Bool) :
    ∃ m, a.toDouble negative = .finite negative m ∧ m.quanta = n * Double.scale := by
  have hpow : ((10 : ℚ) ^ a.fraction.length) ≠ 0 := by positivity
  apply Double.exists_ofDecimal_whole negative _ hn
  unfold Amount.exact at h
  rw [div_eq_iff hpow] at h
  exact_mod_cast h

theorem TimeUnit.nanos_cast_pos (u : TimeUnit) : (0 : ℚ) < u.nanos := by
  exact_mod_cast u.nanos_pos

theorem Component.exists_exact_whole {c : Component} (h : c.amount.IsWhole) : ∃ n : ℕ, c.exact = n := by
  obtain ⟨n, hn⟩ := h
  refine ⟨n * c.unit.nanos, ?_⟩
  unfold exact
  rw [hn, Nat.cast_mul]

/-- The product with the unit is exact. -/
theorem Component.nanos_whole {c : Component} {n : Nat} (h : c.amount.IsWhole) (hc : c.exact = n) (hn : n ≤ 2 ^ 53) :
    c.nanos = .ofInt n := by
  obtain ⟨k, hk⟩ := h
  have hpos := c.unit.nanos_pos
  have hprod : n = k * c.unit.nanos := by
    unfold exact at hc
    rw [hk] at hc
    exact_mod_cast hc.symm
  have hkn : k ≤ 2 ^ 53 := by
    apply Nat.le_trans _ hn
    rw [hprod]
    exact Nat.le_mul_of_pos_right k hpos
  obtain ⟨m, hm, hq⟩ := exists_toDouble_whole hk hkn false
  unfold Component.nanos
  rw [hm, Double.finite_eq_ofInt hkn hq, Double.ofInt_mul_ofInt hkn c.unit.nanos_le (hprod ▸ hn), hprod]

theorem exactTotal_append (cs ds : List Component) : exactTotal (cs ++ ds) = exactTotal cs + exactTotal ds := by
  unfold exactTotal
  rw [List.map_append, List.sum_append]

theorem exactTotal_singleton (c : Component) : exactTotal [c] = c.exact := by
  simp [exactTotal]

theorem totalNanos_append (cs : List Component) (c : Component) : totalNanos (cs ++ [c]) = totalNanos cs + c.nanos := by
  unfold totalNanos
  rw [List.foldl_append]
  rfl

theorem exists_exactTotal_whole {cs : List Component} (hw : ∀ c ∈ cs, c.amount.IsWhole) :
    ∃ n : ℕ, exactTotal cs = n := by
  induction cs with
  | nil => exact ⟨0, by simp [exactTotal]⟩
  | cons c cs ih =>
    rw [List.forall_mem_cons] at hw
    obtain ⟨k, hk⟩ := Component.exists_exact_whole hw.1
    obtain ⟨n, hn⟩ := ih hw.2
    refine ⟨k + n, ?_⟩
    rw [← List.singleton_append, exactTotal_append, exactTotal_singleton, hk, hn, Nat.cast_add]

theorem totalNanos_whole {cs : List Component} {n : Nat} (hw : ∀ c ∈ cs, c.amount.IsWhole) (hcs : exactTotal cs = n)
    (hn : n ≤ 2 ^ 53) : totalNanos cs = .ofInt n := by
  induction cs using List.reverseRecOn generalizing n with
  | nil =>
    have : (0 : ℚ) = n := hcs
    have : n = 0 := by exact_mod_cast this.symm
    rw [this]
    exact Double.zero_eq_ofInt
  | append_singleton cs c ih =>
    rw [List.forall_mem_append, List.forall_mem_singleton] at hw
    obtain ⟨hfront, hlast⟩ := hw
    obtain ⟨j, hj⟩ := exists_exactTotal_whole hfront
    obtain ⟨k, hk⟩ := Component.exists_exact_whole hlast
    rw [exactTotal_append, exactTotal_singleton, hj, hk] at hcs
    have hsum : j + k = n := by exact_mod_cast hcs
    rw [totalNanos_append, ih hfront hj (by omega), Component.nanos_whole hlast hk (by omega),
      Double.ofInt_add_ofInt (by rw [Nat.pow_eq]; omega), hsum]

/-- No product and no sum on the way to the total is rounded. -/
def Unrounded (cs : List Component) : Prop :=
  (∀ c ∈ cs, c.nanos.toRat? = some c.exact)
    ∧ ∀ front, front <+: cs → (totalNanos front).toRat? = some (exactTotal front)

theorem Amount.exact_nonneg (a : Amount) : 0 ≤ a.exact := by
  unfold exact
  positivity

theorem Component.exact_nonneg (c : Component) : 0 ≤ c.exact := by
  exact mul_nonneg c.amount.exact_nonneg c.unit.nanos_cast_pos.le

theorem exactTotal_nonneg (cs : List Component) : 0 ≤ exactTotal cs := by
  apply List.sum_nonneg
  intro q hq
  obtain ⟨c, _, rfl⟩ := List.mem_map.mp hq
  exact c.exact_nonneg

theorem unrounded_whole {cs : List Component} {n : Nat} (hw : ∀ c ∈ cs, c.amount.IsWhole) (hcs : exactTotal cs = n)
    (hn : n ≤ 2 ^ 53) : Unrounded cs := by
  constructor
  . intro c hc
    obtain ⟨k, hk⟩ := Component.exists_exact_whole (hw c hc)
    obtain ⟨front, back, rfl⟩ := List.append_of_mem hc
    have hkn : k ≤ n := by
      rw [← List.singleton_append, exactTotal_append, exactTotal_append, exactTotal_singleton, hk] at hcs
      have hfront := exactTotal_nonneg front
      have hback := exactTotal_nonneg back
      have : (k : ℚ) ≤ n := by linarith
      exact_mod_cast this
    rw [Component.nanos_whole (hw c hc) hk (by omega), hk]
    exact Double.toRat?_ofInt (by rw [Nat.pow_eq]; omega)
  . rintro front ⟨back, rfl⟩
    rw [List.forall_mem_append] at hw
    obtain ⟨j, hj⟩ := exists_exactTotal_whole hw.1
    have hjn : j ≤ n := by
      rw [exactTotal_append, hj] at hcs
      have hback := exactTotal_nonneg back
      have : (j : ℚ) ≤ n := by linarith
      exact_mod_cast this
    rw [totalNanos_whole hw.1 hj (by omega), hj]
    exact Double.toRat?_ofInt (by rw [Nat.pow_eq]; omega)

theorem seconds_whole {negative : Bool} {cs : List Component} {n : Nat} (h : totalNanos cs = .ofInt n)
    (hn : n ≤ 2 ^ 53) : ∃ m : Magnitude, seconds negative cs = .finite negative m ∧ m.Closest (n / 10 ^ 9) := by
  obtain ⟨m, hm, hq⟩ := Double.ofInt_ofNat hn
  have hsigned : (if negative then -Double.finite false m else .finite false m) = .finite negative m := by
    cases negative <;> rfl
  unfold seconds
  dsimp only
  rw [h, hm, hsigned]
  exact Double.exists_closest_billionths negative hq hn

theorem parse_of_sequence {text : String} {negative : Bool} {body : List Char} {cs : List Component}
    (hs : Signed negative body (Text.trimChars text.toList)) (hne : cs ≠ []) (hcs : Sequence cs body) :
    parse text = .ok (seconds negative cs) := by
  apply parse_of_denotes
  rw [seconds_eq]
  exact .sum hs hne hcs _ rfl

theorem Whole.signedComponents {negative negative' : Bool} {n : Nat} {l : List Char} {cs : List Component}
    (h : Whole negative n l) (hcs : signedComponents? l = some (negative', cs)) :
    (∀ c ∈ cs, c.amount.IsWhole) ∧ exactTotal cs = n := by
  cases h with
  | bare hs ha hn =>
    -- a text is not both
    obtain ⟨hne, body, hs', hseq⟩ := signedComponents?_eq_some_iff.mp hcs
    have hbare := bare?_eq_some_iff.mpr ⟨_, _, _, hs, ha, rfl⟩
    rw [bare?_of_sequence hs' hne hseq] at hbare
    cases hbare
  | sum hs hne hseq hw hn =>
    rw [signedComponents?_eq_some_iff.mpr ⟨hne, _, hs, hseq⟩] at hcs
    cases hcs
    exact ⟨hw, hn⟩

/-- Whichever text is accepted and has whole numbers only is one of these. -/
theorem exists_whole_of_parse {text : String} {x : Double} (h : parse text = .ok x)
    (hbare : ∀ negative body (a : Amount), Signed negative body (Text.trimChars text.toList) → a.Written body →
      a.IsWhole)
    (hsum : ∀ negative cs, signedComponents? (Text.trimChars text.toList) = some (negative, cs) →
      ∀ c ∈ cs, c.amount.IsWhole) :
    ∃ negative n, Whole negative n (Text.trimChars text.toList) := by
  cases parse_eq_ok_iff.mp h with
  | bare hs ha =>
    obtain ⟨n, hn⟩ := hbare _ _ _ hs ha
    exact ⟨_, _, .bare hs ha hn⟩
  | sum hs hne hcs total _ =>
    have hw := hsum _ _ (signedComponents?_eq_some_iff.mpr ⟨hne, _, hs, hcs⟩)
    obtain ⟨n, hn⟩ := exists_exactTotal_whole hw
    exact ⟨_, _, .sum hs hne hcs hw hn⟩

theorem Whole.exists_parse {text : String} {negative : Bool} {n : Nat}
    (h : Whole negative n (Text.trimChars text.toList)) (hn : n ≤ 2 ^ 53) :
    ∃ m : Magnitude, parse text = .ok (.finite negative m) ∧ m.Closest (n / 10 ^ 9) := by
  cases h with
  | bare hs ha hk =>
    rename_i k
    obtain ⟨m, hm, hq⟩ := exists_toDouble_whole hk (by omega) negative
    refine ⟨m, ?_, ?_⟩
    . rw [← hm]
      exact parse_of_denotes (.bare hs ha)
    . have hseconds : ((k * 1000000000 : ℕ) : ℚ) / 10 ^ 9 = m.toRat := by
        rw [Magnitude.toRat_of_quanta hq]
        push_cast
        field_simp
        norm_num
      rw [hseconds]
      exact m.closest_self
  | sum hs hne hcs hw hk =>
    rw [parse_of_sequence hs hne hcs]
    obtain ⟨m, hm, hclosest⟩ := seconds_whole (totalNanos_whole hw hk hn) hn
    exact ⟨m, congrArg Except.ok hm, hclosest⟩

/--
Whole numbers of any units that come to at most `2 ^ 53` nanoseconds read as the value nearest to so many seconds, with
the sign of the text. Only the conversion to seconds rounds, so all texts with the same sign that come to the same read
the same.
-/
theorem parse_whole {text : String} {negative : Bool} {n : Nat} (h : Whole negative n (Text.trimChars text.toList))
    (hn : n ≤ 2 ^ 53) :
    ∃ m : Magnitude, parse text = .ok (.finite negative m) ∧ m.Closest (n / 10 ^ 9)
      ∧ (∀ negative' cs, signedComponents? (Text.trimChars text.toList) = some (negative', cs) → Unrounded cs)
      ∧ ∀ text' : String, Whole negative n (Text.trimChars text'.toList) → parse text' = parse text := by
  obtain ⟨m, hm, hclosest⟩ := h.exists_parse hn
  refine ⟨m, hm, hclosest, ?_, ?_⟩
  . intro negative' cs hcs
    obtain ⟨hw, htotal⟩ := h.signedComponents hcs
    exact unrounded_whole hw htotal hn
  . intro text' h'
    obtain ⟨m', hm', hclosest'⟩ := h'.exists_parse hn
    rw [hm, hm', hclosest'.unique hclosest]

/-- An hour and a half, in units and as a signed number of seconds. -/
theorem parse_whole_ninety_minutes :
    Whole false 5400000000000 (Text.trimChars " 1h30m".toList)
      ∧ Whole false 5400000000000 (Text.trimChars "+5400.0".toList) ∧ parse "+5400.0" = parse " 1h30m"
      ∧ ∃ m : Magnitude, parse " 1h30m" = .ok (.finite false m) ∧ m.Closest 5400 := by
  have hhour : Amount.exact ⟨['1'], []⟩ = (1 : ℕ) := Amount.exact_toDigits 1
  have hminutes : Amount.exact ⟨['3', '0'], []⟩ = (30 : ℕ) := Amount.exact_toDigits 30
  have hunits : Whole false 5400000000000 (Text.trimChars " 1h30m".toList) := by
    have hcs : Sequence [⟨⟨['1'], []⟩, .hour⟩, ⟨⟨['3', '0'], []⟩, .minute⟩]
        (['1'] ++ ['h'] ++ (['3', '0'] ++ ['m'] ++ [])) :=
      .cons (.mk (.plain (by decide) (by decide)) (by decide))
        (.cons (.mk (.plain (by decide) (by decide)) (by decide)) .nil)
    refine .sum (.unsigned _) (by simp) hcs ?_ ?_
    . simpa using ⟨⟨1, hhour⟩, ⟨30, hminutes⟩⟩
    . simp only [exactTotal, Component.exact, List.map_cons, List.map_nil, List.sum_cons, List.sum_nil, hhour, hminutes,
        TimeUnit.nanos]
      norm_num
  have hbare : Whole false 5400000000000 (Text.trimChars "+5400.0".toList) := by
    have hamount : Amount.Written ⟨['5', '4', '0', '0'], ['0']⟩ ['5', '4', '0', '0', '.', '0'] :=
      .pointed (by decide) (by decide) (by decide)
    have hzero := Amount.exact_append_zeros ['5', '4', '0', '0'] [] 1
    exact .bare (n := 5400) (.plus _) hamount (hzero.trans (Amount.exact_toDigits 5400))
  obtain ⟨m, hm, hclosest, _, hsame⟩ := parse_whole hunits (by decide)
  refine ⟨hunits, hbare, hsame _ hbare, m, hm, ?_⟩
  norm_num at hclosest
  exact hclosest

end Duration
end Readiness
