import Mathlib.Algebra.Order.Field.Basic
import Mathlib.Algebra.Order.Ring.Rat
import Readiness.Duration.Printer
import Readiness.Proofs.Double.Bounded
import Readiness.Proofs.Duration.Exact
import Readiness.Proofs.Text.Trimmed

/-!
This module contains the canonical texts of durations: the text of a number of nanoseconds is made of components, counts
exactly that number, and has the shape that its size asks for. So different numbers have different texts. Numbers have a
text as long as there is a numeral for their hours.
-/

namespace Readiness
namespace Duration

/-- The number as it is written with the fewest characters: without a point unless digits follow it. -/
def Amount.text (a : Amount) : List Char :=
  if a.fraction = [] then a.whole else a.whole ++ '.' :: a.fraction

/-- The spelling in canonical texts. -/
def TimeUnit.symbol : TimeUnit → List Char
  | nanosecond => ['n', 's']
  | microsecond => ['\u00b5', 's']
  | millisecond => ['m', 's']
  | second => ['s']
  | minute => ['m']
  | hour => ['h']

def Component.text (c : Component) : List Char :=
  c.amount.text ++ c.unit.symbol

/-- A plain decimal, with at most so many digits after the point, and no zero at the end of them. -/
structure Amount.Tidy (places : Nat) (a : Amount) : Prop where
  whole : ∃ n, a.whole = Nat.toDigits 10 n
  digits : Digits a.fraction
  places : a.fraction.length ≤ places
  last : a.fraction.getLast? ≠ some '0'

/-- The components of the canonical text of `n` nanoseconds. -/
inductive Canonical : Nat → List Component → Prop where
  | zero : Canonical 0 [⟨⟨['0'], []⟩, .second⟩]
  | nanoseconds {n : Nat} {a : Amount} (hpos : 0 < n) (hn : n < 1000) (ha : a.Tidy 0) :
    Canonical n [⟨a, .nanosecond⟩]
  | microseconds {n : Nat} {a : Amount} (hleast : 1000 ≤ n) (hn : n < 1000000) (ha : a.Tidy 3) :
    Canonical n [⟨a, .microsecond⟩]
  | milliseconds {n : Nat} {a : Amount} (hleast : 1000000 ≤ n) (hn : n < 1000000000) (ha : a.Tidy 6) :
    Canonical n [⟨a, .millisecond⟩]
  | seconds {n : Nat} {s : Amount} (hleast : 1000000000 ≤ n) (hn : n < 60 * 1000000000) (hs : s.Tidy 9)
    (hs60 : s.exact < 60) : Canonical n [⟨s, .second⟩]
  | minutes {n : Nat} {m s : Amount} (hleast : 60 * 1000000000 ≤ n) (hn : n < 3600 * 1000000000) (hm : m.Tidy 0)
    (hm60 : m.exact < 60) (hs : s.Tidy 9) (hs60 : s.exact < 60) : Canonical n [⟨m, .minute⟩, ⟨s, .second⟩]
  | hours {n : Nat} {h m s : Amount} (hleast : 3600 * 1000000000 ≤ n) (hh : h.Tidy 0) (hm : m.Tidy 0)
    (hm60 : m.exact < 60) (hs : s.Tidy 9) (hs60 : s.exact < 60) :
    Canonical n [⟨h, .hour⟩, ⟨m, .minute⟩, ⟨s, .second⟩]

/-- The digits of a fraction without the zeros at its end. -/
def dropZeros (l : List Char) : List Char :=
  l.rdropWhile (· = '0')

theorem exists_zeros (l : List Char) : ∃ k, l = dropZeros l ++ List.replicate k '0' := by
  refine ⟨(l.rtakeWhile (· = '0')).length, ?_⟩
  have hzeros : l.rtakeWhile (· = '0') = List.replicate (l.rtakeWhile (· = '0')).length '0' := by
    apply List.eq_replicate_of_mem
    intro c hc
    simpa using List.mem_rtakeWhile_imp hc
  rw [← hzeros, dropZeros, List.rdropWhile_append_rtakeWhile]

theorem getLast?_dropZeros (l : List Char) : (dropZeros l).getLast? ≠ some '0' := by
  intro h
  have := Text.any_getLast?_rdropWhile (· = '0') l
  unfold dropZeros at h
  simp [h] at this

theorem dropZeros_padded_eq_nil_iff {places n : Nat} : dropZeros (Text.padded places n) = [] ↔ n = 0 := by
  constructor
  . intro h
    obtain ⟨k, hk⟩ := exists_zeros (Text.padded places n)
    rw [← Text.digitsValue_padded places n, hk, h, List.nil_append, Text.digitsValue_replicate_zero]
  . rintro rfl
    apply List.rdropWhile_eq_nil_iff.mpr
    intro c hc
    have hzero : c ∈ List.replicate (places - 1) '0' ∨ c = '0' := by
      simpa [Text.padded, List.leftpad] using hc
    rcases hzero with hmem | rfl
    . simpa using List.eq_of_mem_replicate hmem
    . rfl

namespace Amount

/-- `n` as a number. -/
def ofNat (n : Nat) : Amount :=
  ⟨Nat.toDigits 10 n, []⟩

/-- `n / 10 ^ places` without zeros at the end. -/
def ofFixed (places n : Nat) : Amount :=
  ⟨Nat.toDigits 10 (n / 10 ^ places), dropZeros (Text.padded places (n % 10 ^ places))⟩

theorem exact_ofNat (n : Nat) : (ofNat n).exact = n := by
  apply exact_toDigits

theorem exact_ofFixed {places : Nat} (hp : 0 < places) (n : Nat) : (ofFixed places n).exact = n / 10 ^ places := by
  obtain ⟨k, hk⟩ := exists_zeros (Text.padded places (n % 10 ^ places))
  rw [← exact_padded hp, hk, exact_append_zeros]
  rfl

theorem tidy_ofNat (n : Nat) : (ofNat n).Tidy 0 where
  whole := ⟨n, rfl⟩
  digits := by simp [ofNat, Digits]
  places := Nat.le_refl 0
  last := by simp [ofNat]

theorem tidy_ofFixed {places : Nat} (hp : 0 < places) (n : Nat) : (ofFixed places n).Tidy places := by
  have hlength := Text.length_padded hp (Nat.mod_lt n (Nat.pow_pos (a := 10) (by decide)))
  obtain ⟨k, hk⟩ := exists_zeros (Text.padded places (n % 10 ^ places))
  refine ⟨⟨_, rfl⟩, ?_, ?_, getLast?_dropZeros _⟩
  . intro c hc
    apply Text.isDigit_padded
    rw [hk]
    exact List.mem_append_left _ hc
  . rw [hk, List.length_append] at hlength
    exact Nat.le.intro hlength

theorem text_ofNat (n : Nat) : (ofNat n).text = Nat.toDigits 10 n := rfl

theorem text_ofFixed (places n : Nat) : (ofFixed places n).text = fixedPoint places n := by
  have hnil : dropZeros (Text.padded places (n % 10 ^ places)) = [] ↔ n % 10 ^ places = 0 := dropZeros_padded_eq_nil_iff
  simp only [text, fixedPoint, ofFixed, Nat.pow_eq, hnil]
  rfl

theorem Tidy.written {places : Nat} {a : Amount} (h : a.Tidy places) : a.Written a.text := by
  obtain ⟨n, hn⟩ := h.whole
  have hw : Digits a.whole := by
    intro c hc
    rw [hn] at hc
    exact Text.isDigit_toDigits hc
  have hne : a.whole ≠ [] := by
    rw [hn]
    apply Nat.toDigits_ne_nil
  obtain ⟨whole, fraction⟩ := a
  unfold text
  dsimp only at hw hne ⊢
  split
  . next hf =>
    rw [hf]
    exact .plain hw hne
  . exact .pointed hw h.digits fun hnil => absurd hnil hne

end Amount

namespace Component

theorem exact_ofNat (n : Nat) (u : TimeUnit) : exact ⟨.ofNat n, u⟩ = (n * u.nanos : Nat) := by
  unfold exact
  rw [Amount.exact_ofNat]
  push_cast
  rfl

theorem exact_ofFixed {places : Nat} (hp : 0 < places) {u : TimeUnit} (hu : u.nanos = 10 ^ places) (n : Nat) :
    exact ⟨.ofFixed places n, u⟩ = n := by
  unfold exact
  rw [Amount.exact_ofFixed hp, hu]
  push_cast
  field_simp

theorem written_text {c : Component} {places : Nat} (h : c.amount.Tidy places) : c.Written c.text := by
  apply Written.mk h.written
  cases c.unit <;> decide

end Component

theorem sequence_text {cs : List Component} (h : ∀ c ∈ cs, ∃ places, c.amount.Tidy places) :
    Sequence cs (cs.flatMap Component.text) := by
  induction cs with
  | nil => exact .nil
  | cons c cs ih =>
    rw [List.forall_mem_cons] at h
    obtain ⟨⟨places, hc⟩, hcs⟩ := h
    rw [List.flatMap_cons]
    exact .cons (Component.written_text hc) (ih hcs)

theorem Canonical.tidy {n : Nat} {cs : List Component} (h : Canonical n cs) :
    cs ≠ [] ∧ ∀ c ∈ cs, ∃ places, c.amount.Tidy places := by
  cases h with
  | zero => simpa using ⟨0, Amount.tidy_ofNat 0⟩
  | nanoseconds _ _ ha => simpa using ⟨_, ha⟩
  | microseconds _ _ ha => simpa using ⟨_, ha⟩
  | milliseconds _ _ ha => simpa using ⟨_, ha⟩
  | seconds _ _ hs _ => simpa using ⟨_, hs⟩
  | minutes _ _ hm _ hs _ => simpa using ⟨⟨_, hm⟩, ⟨_, hs⟩⟩
  | hours _ hh hm _ hs _ => simpa using ⟨⟨_, hh⟩, ⟨_, hm⟩, ⟨_, hs⟩⟩

theorem exact_seconds_lt (n : Nat) : (Amount.ofFixed 9 (n % TimeUnit.minute.nanos)).exact < 60 := by
  have hlt : n % TimeUnit.minute.nanos < 60 * 10 ^ 9 := Nat.mod_lt n (by decide)
  rw [Amount.exact_ofFixed (by decide), div_lt_iff₀ (by norm_num)]
  exact_mod_cast hlt

theorem exists_canonical_of_lt_second {n : Nat} (hpos : 0 < n) (hn : n < TimeUnit.second.nanos) :
    ∃ cs, Canonical n cs ∧ magnitudeText n = cs.flatMap Component.text ∧ exactTotal cs = n := by
  unfold magnitudeText
  split
  . next hn =>
    refine ⟨_, .nanoseconds hpos hn (Amount.tidy_ofNat n), ?_, ?_⟩
    . simp [Component.text, Amount.text_ofNat, TimeUnit.symbol]
    . simp [exactTotal, Component.exact_ofNat, TimeUnit.nanos]
  . split
    . next hleast hn =>
      have htidy := Amount.tidy_ofFixed (show 0 < 3 by decide) n
      have hexact := Component.exact_ofFixed (show 0 < 3 by decide) (u := .microsecond) rfl n
      refine ⟨_, .microseconds (Nat.le_of_not_lt hleast) hn htidy, ?_, ?_⟩
      . simp [Component.text, Amount.text_ofFixed, TimeUnit.symbol]
      . simp [exactTotal, hexact]
    . next hleast =>
      have htidy := Amount.tidy_ofFixed (show 0 < 6 by decide) n
      have hexact := Component.exact_ofFixed (show 0 < 6 by decide) (u := .millisecond) rfl n
      refine ⟨_, .milliseconds (Nat.le_of_not_lt hleast) hn htidy, ?_, ?_⟩
      . simp [Component.text, Amount.text_ofFixed, TimeUnit.symbol]
      . simp [exactTotal, hexact]

/-- From a second on there are seconds, minutes from a minute on, and hours from an hour on. -/
theorem exists_canonical_of_second_le {n : Nat} (hn : TimeUnit.second.nanos ≤ n) :
    ∃ cs, Canonical n cs ∧ magnitudeText n = cs.flatMap Component.text ∧ exactTotal cs = n := by
  have hsmall : ¬ n < TimeUnit.microsecond.nanos ∧ ¬ n < TimeUnit.millisecond.nanos ∧ ¬ n < TimeUnit.second.nanos := by
    simp only [TimeUnit.nanos] at hn ⊢
    omega
  have hhours := Amount.tidy_ofNat (n / TimeUnit.hour.nanos)
  have hminutes := Amount.tidy_ofNat (n % TimeUnit.hour.nanos / TimeUnit.minute.nanos)
  have hseconds := Amount.tidy_ofFixed (show 0 < 9 by decide) (n % TimeUnit.minute.nanos)
  have hseconds60 := exact_seconds_lt n
  have hexact := Component.exact_ofFixed (show 0 < 9 by decide) (u := .second) rfl (n % TimeUnit.minute.nanos)
  have hminutes60 : (Amount.ofNat (n % TimeUnit.hour.nanos / TimeUnit.minute.nanos)).exact < 60 := by
    have : n % TimeUnit.hour.nanos / TimeUnit.minute.nanos < 60 := by
      simp only [TimeUnit.nanos]
      omega
    rw [Amount.exact_ofNat]
    exact_mod_cast this
  simp only [magnitudeText, if_neg hsmall.1, if_neg hsmall.2.1, if_neg hsmall.2.2]
  split
  . next h =>
    refine ⟨_, .hours ?_ hhours hminutes hminutes60 hseconds hseconds60, ?_, ?_⟩
    . simp only [TimeUnit.nanos] at h
      omega
    . simp [Component.text, Amount.text_ofNat, Amount.text_ofFixed, TimeUnit.symbol]
    . simp only [exactTotal, List.map_cons, List.map_nil, List.sum_cons, List.sum_nil, Component.exact_ofNat, hexact]
      norm_cast
      simp only [TimeUnit.nanos]
      omega
  . next h =>
    split
    . next hm =>
      refine ⟨_, .minutes ?_ ?_ hminutes hminutes60 hseconds hseconds60, ?_, ?_⟩
      . simp only [TimeUnit.nanos] at hm
        omega
      . simp only [TimeUnit.nanos] at h
        omega
      . simp [Component.text, Amount.text_ofNat, Amount.text_ofFixed, TimeUnit.symbol]
      . simp only [exactTotal, List.map_cons, List.map_nil, List.sum_cons, List.sum_nil, Component.exact_ofNat, hexact]
        norm_cast
        simp only [TimeUnit.nanos] at h ⊢
        omega
    . next hm =>
      refine ⟨_, .seconds hn ?_ hseconds hseconds60, ?_, ?_⟩
      . simp only [TimeUnit.nanos] at h hm
        omega
      . simp [Component.text, Amount.text_ofFixed, TimeUnit.symbol]
      . simp only [exactTotal, List.map_cons, List.map_nil, List.sum_cons, List.sum_nil, hexact]
        norm_cast
        simp only [TimeUnit.nanos] at h hm ⊢
        omega

theorem exists_canonical {n : Nat} (hpos : 0 < n) :
    ∃ cs, Canonical n cs ∧ magnitudeText n = cs.flatMap Component.text ∧ exactTotal cs = n := by
  rcases Nat.lt_or_ge n TimeUnit.second.nanos with h | h
  . apply exists_canonical_of_lt_second hpos h
  . apply exists_canonical_of_second_le h

/-- The text is canonical for `n` nanoseconds: a minus if there is to be one, and then the components of that many. -/
def Shaped (n : Int) (text : List Char) : Prop :=
  ∃ cs, Canonical n.natAbs cs ∧ Sequence cs (cs.flatMap Component.text)
    ∧ text = if n < 0 then '-' :: cs.flatMap Component.text else cs.flatMap Component.text

theorem textOfNanos_spec (n : Int) : Shaped n (textOfNanos n) ∧ Counts (textOfNanos n) n := by
  have hcounts {cs : List Component} (hcs : Canonical n.natAbs cs) (htotal : exactTotal cs = n.natAbs) :
      Counts (if n < 0 then '-' :: cs.flatMap Component.text else cs.flatMap Component.text) n := by
    obtain ⟨hne, htidy⟩ := hcs.tidy
    have hseq := sequence_text htidy
    split
    . next hneg =>
      have hvalue : (n : ℚ) = if true then -exactTotal cs else exactTotal cs := by
        rw [htotal, if_pos rfl, ← Int.cast_natCast, Int.ofNat_natAbs_of_nonpos (by omega), Int.cast_neg, neg_neg]
      rw [hvalue]
      exact .mk (.minus _) hne hseq
    . next hneg =>
      have hvalue : (n : ℚ) = if false then -exactTotal cs else exactTotal cs := by
        rw [htotal, if_neg (by decide), ← Int.cast_natCast, Int.natAbs_of_nonneg (by omega)]
      rw [hvalue]
      exact .mk (.unsigned _) hne hseq
  by_cases hzero : n = 0
  . subst hzero
    refine ⟨⟨_, .zero, sequence_text Canonical.zero.tidy.2, by decide⟩, ?_⟩
    have hexact : Amount.exact ⟨['0'], []⟩ = 0 := (Amount.exact_ofNat 0).trans Nat.cast_zero
    exact hcounts .zero (by simp [exactTotal, Component.exact, hexact])
  . obtain ⟨cs, hcs, htext, htotal⟩ := exists_canonical (n := n.natAbs) (by omega)
    have heq : textOfNanos n = if n < 0 then '-' :: cs.flatMap Component.text else cs.flatMap Component.text := by
      rw [textOfNanos, if_neg hzero, htext]
    rw [heq]
    exact ⟨⟨cs, hcs, sequence_text hcs.tidy.2, rfl⟩, hcounts hcs htotal⟩

/-- The hours in so many nanoseconds have at most 4300 digits, the most that a numeral can have. -/
def Tellable (n : Int) : Prop :=
  (Nat.toDigits 10 (n.natAbs / 3600000000000)).length ≤ 4300

theorem isWritable_iff {n : Int} : isWritable n = true ↔ Tellable n := by
  unfold isWritable Text.Integer.isWritable
  rw [decide_eq_true_iff]
  rfl

theorem formatWhole_eq (n : Int) : formatWhole n =
    if isWritable (n * 1000000000) then .ok (String.ofList (textOfNanos (n * 1000000000))) else .error .tooLong :=
  rfl

/-- The hours of a double have far fewer digits. -/
theorem tellable_of_nanos {x : Double} {n : Int} (h : Duration.nanos x = .ok n) : Tellable n := by
  have hdigits {k : Nat} (hk : 2098 < k) : (Nat.toDigits 10 (n.natAbs / 3600000000000)).length ≤ k := by
    rw [Nat.length_toDigits_le_iff (by decide) (by omega)]
    exact Nat.lt_of_le_of_lt (Nat.div_le_self ..) (Double.natAbs_roundToInt_lt h hk)
  exact hdigits (by decide)

/-- A number of seconds. -/
inductive Quantity where
  | whole (n : Int)
  | real (x : Double)

/-- Why a number of seconds has no text. -/
inductive Untold where
  | nanos (e : Double.IntegerError)
  | hours (e : Text.Integer.WriteError)
deriving DecidableEq

namespace Quantity

/-- Its nanoseconds, to the nearest one. -/
def nanos : Quantity → Except Double.IntegerError Int
  | whole n => .ok (n * 1000000000)
  | real x => (x * .ofInt 1000000000).roundToInt

def text : Quantity → Except Untold String
  | whole n => (formatWhole n).mapError .hours
  | real x => (format x).mapError .nanos

theorem text_of_nanos {q : Quantity} {n : Int} (h : q.nanos = .ok n) (hn : Tellable n) :
    q.text = .ok (String.ofList (textOfNanos n)) := by
  cases q with
  | whole m =>
    cases h
    change (formatWhole m).mapError _ = _
    rw [formatWhole_eq, if_pos (isWritable_iff.mpr hn)]
    rfl
  | real x =>
    have hnanos : Duration.nanos x = .ok n := h
    change (format x).mapError _ = _
    unfold format
    rw [hnanos]
    rfl

theorem text_of_not_tellable {q : Quantity} {n : Int} (h : q.nanos = .ok n) (hn : ¬ Tellable n) :
    q.text = .error (.hours .tooLong) := by
  cases q with
  | whole m =>
    cases h
    change (formatWhole m).mapError _ = _
    rw [formatWhole_eq, if_neg (fun hwritable => hn (isWritable_iff.mp hwritable))]
    rfl
  | real x => exact absurd (tellable_of_nanos h) hn

end Quantity

theorem Counts.eq_of_text {l : List Char} {n m : Int} (hn : Counts l n) (hm : Counts l m) : n = m := by
  exact_mod_cast hn.unique hm

theorem Shaped.head? {n : Int} {l : List Char} (h : Shaped n l) : l.head? = some '-' ↔ n < 0 := by
  obtain ⟨cs, hcs, hseq, rfl⟩ := h
  split
  . next hneg => simp [hneg]
  . next hneg =>
    obtain ⟨c, hc, hstart⟩ := hseq.starts_of_ne_nil hcs.tidy.1
    rw [Option.mem_def.mp hc]
    simp only [Option.some.injEq, hneg, iff_false]
    rintro rfl
    revert hstart
    decide

/--
The text of a number of seconds has the canonical shape, is one that reading accepts, and counts exactly the nanoseconds
that the number is rounded to. So numbers have the same text if and only if they are rounded to the same. There is no
text if the hours have too many digits, which only those of whole numbers can have.
-/
theorem format_canonical {q : Quantity} {n : Int} (hn : q.nanos = .ok n) :
    (Tellable n → ∃ text, q.text = .ok text ∧ Shaped n text.toList ∧ Counts text.toList n
        ∧ (text = "0s" ↔ n = 0) ∧ (text.toList.head? = some '-' ↔ n < 0)
        ∧ ∀ q' n', Quantity.nanos q' = .ok n' → (q'.text = q.text ↔ n' = n))
      ∧ (¬ Tellable n → q.text = .error (.hours .tooLong))
      ∧ ∀ x, q = .real x → Tellable n := by
  refine ⟨?_, Quantity.text_of_not_tellable hn, ?_⟩
  . intro htellable
    obtain ⟨hshape, hcounts⟩ := textOfNanos_spec n
    refine ⟨_, Quantity.text_of_nanos hn htellable, ?_⟩
    rw [String.toList_ofList]
    refine ⟨hshape, hcounts, ?_, hshape.head?, ?_⟩
    . constructor
      . intro h
        have hzero : textOfNanos n = textOfNanos 0 := by
          rw [← String.toList_ofList (l := textOfNanos n), h]
          rfl
        have := (textOfNanos_spec 0).2
        rw [← hzero] at this
        exact hcounts.eq_of_text this
      . rintro rfl
        rfl
    . intro q' n' hn'
      rw [Quantity.text_of_nanos hn htellable]
      constructor
      . intro h
        by_cases htellable' : Tellable n'
        . rw [Quantity.text_of_nanos hn' htellable', Except.ok.injEq] at h
          have := (textOfNanos_spec n').2
          rw [String.ofList_inj.mp h] at this
          exact this.eq_of_text hcounts
        . rw [Quantity.text_of_not_tellable hn' htellable'] at h
          cases h
      . rintro rfl
        exact Quantity.text_of_nanos hn' htellable
  . rintro x rfl
    exact tellable_of_nanos hn

/-- An hour and a quarter of a second below zero. -/
theorem format_canonical_below_zero :
    let q := Quantity.real (.ofDecimal true 360025 (-2))
    q.nanos = .ok (-3600250000000) ∧ q.text = .ok "-1h0m0.25s" ∧ Counts "-1h0m0.25s".toList (-3600250000000 : Int)
      ∧ q.text ≠ (Quantity.whole (-3600)).text := by
  intro q
  have hn : q.nanos = .ok (-3600250000000) := by decide +kernel
  obtain ⟨htold, _, htellable⟩ := format_canonical hn
  obtain ⟨text, htext, _, hcounts, _, _, hsame⟩ := htold (htellable _ rfl)
  have : q.text = .ok "-1h0m0.25s" := by decide +kernel
  rw [this] at htext
  cases htext
  refine ⟨hn, this, hcounts, ?_⟩
  intro h
  have := (hsame (.whole (-3600)) (-3600000000000) rfl).mp h.symm
  cases this

/-- The least number of whole hours without a text. -/
theorem no_text_of_many_hours :
    let q := Quantity.whole (3600 * 10 ^ 4300)
    q.nanos = .ok (3600 * 10 ^ 4300 * 1000000000) ∧ q.text = .error (.hours .tooLong) := by
  intro q
  have hlong {k : Nat} (hk : 0 < k) :
      ¬ (Nat.toDigits 10 ((3600 * 10 ^ k * 1000000000 : Int).natAbs / 3600000000000)).length ≤ k := by
    have hnanos : (3600 * 10 ^ k * 1000000000 : Int) = (10 ^ k * 3600000000000 : Nat) := by
      push_cast
      ring
    rw [hnanos, Int.natAbs_natCast, Nat.mul_div_cancel _ (by decide), Nat.not_le]
    exact Text.lt_length_toDigits hk (Nat.le_refl _)
  exact ⟨rfl, Quantity.text_of_not_tellable rfl (hlong (by decide))⟩

end Duration
end Readiness
