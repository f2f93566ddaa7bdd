import Mathlib.Algebra.GroupWithZero.Nat
import Mathlib.Data.List.GetD
import Mathlib.Logic.Function.Iterate
import Mathlib.Order.Lattice.Nat
import Readiness.Instant.Calendar

/-!
This module contains the calendar as it is counted day by day: every day number has a date of the calendar, which counts
back to it, and the date of the next day is the next date.
-/

namespace Readiness
namespace Date

/-- The number of days in the month of the date. -/
def monthLength (d : Date) : Nat :=
  (monthLengths (isLeap d.year)).getD (d.month - 1) 0

/-- There is such a date in the calendar. -/
structure Valid (d : Date) : Prop where
  month_pos : 1 ≤ d.month
  month_le : d.month ≤ 12
  day_pos : 1 ≤ d.day
  day_le : d.day ≤ d.monthLength

/-- The date of the next day. -/
def next (d : Date) : Date :=
  if d.day < d.monthLength then ⟨d.year, d.month, d.day + 1⟩
  else if d.month < 12 then ⟨d.year, d.month + 1, 1⟩
  else ⟨d.year + 1, 1, 1⟩

theorem length_monthLengths (leap : Bool) : (monthLengths leap).length = 12 := rfl

/-- The number of days in a year. -/
def yearLength (year : Int) : Nat :=
  (monthLengths (isLeap year)).sum

theorem yearLength_eq (year : Int) :
    yearLength year = if year % 4 = 0 ∧ (year % 100 ≠ 0 ∨ year % 400 = 0) then 366 else 365 := by
  have hsum (leap : Bool) : (monthLengths leap).sum = if leap then 366 else 365 := by
    cases leap <;> rfl
  have hleap : isLeap year = true ↔ year % 4 = 0 ∧ (year % 100 ≠ 0 ∨ year % 400 = 0) := by
    simp [isLeap]
  unfold yearLength
  simp only [hsum, hleap]

theorem daysBeforeMonth_eq (lengths : List Nat) (month : Nat) :
    daysBeforeMonth lengths month = (lengths.take (month - 1)).sum := by
  unfold daysBeforeMonth
  rw [List.sum_eq_foldl]

theorem sum_take_succ (lengths : List Nat) (k : Nat) :
    (lengths.take (k + 1)).sum = (lengths.take k).sum + lengths.getD k 0 := by
  rw [List.take_add_one, List.sum_append, List.getD_eq_getElem?_getD]
  cases lengths[k]? <;> simp

theorem sum_take_mono (lengths : List Nat) {j k : Nat} (h : j ≤ k) : (lengths.take j).sum ≤ (lengths.take k).sum := by
  induction k, h using Nat.le_induction with
  | base => exact Nat.le_refl _
  | succ k _ ih =>
    rw [sum_take_succ]
    exact Nat.le_trans ih (Nat.le_add_right _ _)

theorem daysBeforeYear_succ (year : Int) :
    daysBeforeYear (year + 1) = daysBeforeYear year + yearLength year := by
  have h4 : year / 4 = (year - 1) / 4 + if year % 4 = 0 then 1 else 0 := by split <;> omega
  have h100 : year / 100 = (year - 1) / 100 + if year % 100 = 0 then 1 else 0 := by split <;> omega
  have h400 : year / 400 = (year - 1) / 400 + if year % 400 = 0 then 1 else 0 := by split <;> omega
  rw [yearLength_eq]
  unfold daysBeforeYear
  dsimp only
  rw [Int.add_sub_cancel, h4, h100, h400]
  by_cases hleap : year % 4 = 0 ∧ (year % 100 ≠ 0 ∨ year % 400 = 0)
  . rw [if_pos hleap]
    omega
  . rw [if_neg hleap]
    omega

theorem daysBeforeYear_mono {y z : Int} (h : y ≤ z) : daysBeforeYear y ≤ daysBeforeYear z := by
  unfold daysBeforeYear
  dsimp only
  omega

/-- A day of a row of months is one of its days. -/
theorem locate_eq (first : Nat) {day : Nat} {lengths : List Nat} (h : day < lengths.sum) :
    ∃ k < lengths.length, (lengths.take k).sum ≤ day ∧ day < (lengths.take k).sum + lengths.getD k 0
      ∧ locate first day lengths = (first + k, day - (lengths.take k).sum + 1) := by
  induction lengths generalizing first day with
  | nil => exact absurd h (Nat.not_lt_zero day)
  | cons n lengths ih =>
    unfold locate
    rw [List.sum_cons] at h
    by_cases hday : day < n
    . refine ⟨0, Nat.zero_lt_succ _, ?_⟩
      simp [hday]
    . have hrest : day - n < lengths.sum := by omega
      obtain ⟨k, hk, hle, hlt, hlocate⟩ := ih (first + 1) hrest
      refine ⟨k + 1, Nat.succ_lt_succ hk, ?_⟩
      rw [if_neg hday, hlocate, List.take_succ_cons, List.sum_cons, List.getD_cons_succ, Prod.mk.injEq]
      omega

/-- Centuries, leap cycles and years of 365 days go off one after the other. -/
theorem yearAndDay_cases (era : Int) {day : Nat} (h : day < 146097) :
    ∃ century quad year d : Nat, yearAndDay era day = (400 * era + 100 * century + 4 * quad + year + 1, d)
      ∧ day = 36524 * century + 1461 * quad + 365 * year + d ∧ century ≤ 3 ∧ quad ≤ 24 ∧ year ≤ 3
      ∧ (d < 365 ∨ d = 365 ∧ year = 3 ∧ (quad = 24 → century = 3)) := by
  unfold yearAndDay
  refine ⟨_, _, _, _, rfl, ?_⟩
  omega

theorem yearAndDay_spec (era : Int) {day : Nat} (h : day < 146097) :
    daysBeforeYear (yearAndDay era day).1 + (yearAndDay era day).2 = 146097 * era + day
      ∧ (yearAndDay era day).2 < yearLength (yearAndDay era day).1 := by
  obtain ⟨century, quad, year, d, heq, hday, hcentury, hquad, hyear, hd⟩ := yearAndDay_cases era h
  rw [heq, yearLength_eq]
  unfold daysBeforeYear
  dsimp only
  generalize hz : 400 * era + 100 * (century : Int) + 4 * quad + year = z
  have h4 : z / 4 = 100 * era + 25 * century + quad := by omega
  have h100 : z / 100 = 4 * era + century := by omega
  have h400 : z / 400 = era := by omega
  constructor
  . rw [Int.add_sub_cancel, h4, h100, h400]
    omega
  . split <;> omega

/-- The days of the year before the date. -/
def dayOfYear (d : Date) : Nat :=
  ((monthLengths (isLeap d.year)).take (d.month - 1)).sum + (d.day - 1)

theorem toDays_eq {d : Date} (h : 1 ≤ d.day) : d.toDays = daysBeforeYear d.year + d.dayOfYear - epoch := by
  unfold toDays dayOfYear
  rw [daysBeforeMonth_eq]
  omega

theorem ofDays_spec (days : Int) : (ofDays days).Valid ∧ (ofDays days).toDays = days := by
  have hday : ((days + epoch) % 146097).toNat < 146097 := by omega
  obtain ⟨hsum, hlt⟩ := yearAndDay_spec ((days + epoch) / 146097) hday
  obtain ⟨k, hk, hle, hmonth, hlocate⟩ := locate_eq 1 hlt
  unfold ofDays
  dsimp only
  rw [hlocate]
  rw [length_monthLengths] at hk
  have hsucc : 1 + k - 1 = k := by omega
  constructor
  . refine ⟨Nat.le_add_right 1 k, by dsimp only; omega, Nat.le_add_left 1 _, ?_⟩
    unfold monthLength
    dsimp only
    rw [hsucc]
    omega
  . rw [toDays_eq (Nat.le_add_left 1 _)]
    unfold dayOfYear
    dsimp only
    rw [hsucc]
    omega

theorem getD_monthLengths (leap : Bool) :
    ∀ k < 12, 1 ≤ (monthLengths leap).getD k 0 ∧ (monthLengths leap).getD k 0 ≤ 31 := by
  cases leap <;> decide

namespace Valid

variable {d e : Date}

theorem day_le_thirtyOne (h : d.Valid) : d.day ≤ 31 := by
  have hmonth := h.month_le
  exact Nat.le_trans h.day_le (getD_monthLengths _ _ (by omega)).2

/-- The days of the year up to the end of the month of the date. -/
theorem sum_take_month (h : d.Valid) :
    ((monthLengths (isLeap d.year)).take d.month).sum
      = ((monthLengths (isLeap d.year)).take (d.month - 1)).sum + d.monthLength := by
  conv_lhs => rw [← Nat.sub_add_cancel h.month_pos]
  apply sum_take_succ

theorem dayOfYear_lt (h : d.Valid) : d.dayOfYear < ((monthLengths (isLeap d.year)).take d.month).sum := by
  have hpos := h.day_pos
  have hle := h.day_le
  rw [h.sum_take_month]
  unfold dayOfYear
  omega

theorem dayOfYear_lt_yearLength (h : d.Valid) : d.dayOfYear < yearLength d.year := by
  have hmonth := sum_take_mono (monthLengths (isLeap d.year)) h.month_le
  rw [← length_monthLengths (isLeap d.year), List.take_length] at hmonth
  exact Nat.lt_of_lt_of_le h.dayOfYear_lt hmonth

theorem valid_next (h : d.Valid) : d.next.Valid := by
  unfold Date.next
  split
  . next hlt => exact ⟨h.month_pos, h.month_le, Nat.le_add_left 1 _, hlt⟩
  . split
    . next hlt => exact ⟨Nat.le_add_left 1 _, hlt, Nat.le_refl 1, (getD_monthLengths _ _ hlt).1⟩
    . exact ⟨Nat.le_refl 1, Nat.le_add_left 1 11, Nat.le_refl 1, (getD_monthLengths _ 0 (by decide)).1⟩

/-- The next date is counted as the next day. -/
theorem toDays_next (h : d.Valid) : d.next.toDays = d.toDays + 1 := by
  have hday := h.day_pos
  have hle := h.day_le
  have hmonth := h.sum_take_month
  rw [toDays_eq hday]
  unfold Date.next
  split
  . rw [toDays_eq (Nat.le_add_left 1 _)]
    unfold dayOfYear
    dsimp only
    omega
  . split
    . rw [toDays_eq (Nat.le_refl 1)]
      unfold dayOfYear
      dsimp only
      rw [Nat.add_sub_cancel]
      omega
    . have hdecember : d.month = 12 := by
        have := h.month_le
        omega
      rw [hdecember, List.take_of_length_le (Nat.le_refl 12)] at hmonth
      rw [toDays_eq (Nat.le_refl 1), daysBeforeYear_succ]
      unfold dayOfYear yearLength
      dsimp only
      rw [hdecember, hmonth, Nat.sub_self, List.take_zero, List.sum_nil]
      omega

theorem toDays_lt_of_year_lt (hd : d.Valid) (he : e.Valid) (h : d.year < e.year) : d.toDays < e.toDays := by
  have hlt := hd.dayOfYear_lt_yearLength
  have hyears := daysBeforeYear_mono (Int.add_one_le_of_lt h)
  rw [daysBeforeYear_succ] at hyears
  rw [toDays_eq hd.day_pos, toDays_eq he.day_pos]
  omega

theorem dayOfYear_lt_of_month_lt (hd : d.Valid) (hyear : d.year = e.year) (h : d.month < e.month) :
    d.dayOfYear < e.dayOfYear := by
  have hmonths := sum_take_mono (monthLengths (isLeap d.year)) (Nat.le_sub_one_of_lt h)
  have he : ((monthLengths (isLeap d.year)).take (e.month - 1)).sum ≤ e.dayOfYear := by
    rw [hyear]
    exact Nat.le_add_right _ _
  exact Nat.lt_of_lt_of_le hd.dayOfYear_lt (Nat.le_trans hmonths he)

/-- Dates are told apart by their days. -/
theorem eq_of_toDays_eq (hd : d.Valid) (he : e.Valid) (h : d.toDays = e.toDays) : d = e := by
  have hyear : d.year = e.year := by
    rcases Int.lt_trichotomy d.year e.year with hlt | heq | hlt
    . exact absurd h (Int.ne_of_lt (hd.toDays_lt_of_year_lt he hlt))
    . exact heq
    . exact absurd h.symm (Int.ne_of_lt (he.toDays_lt_of_year_lt hd hlt))
  rw [toDays_eq hd.day_pos, toDays_eq he.day_pos, hyear] at h
  have hday : d.dayOfYear = e.dayOfYear := by omega
  have hmonth : d.month = e.month := by
    rcases Nat.lt_trichotomy d.month e.month with hlt | heq | hlt
    . exact absurd hday (Nat.ne_of_lt (hd.dayOfYear_lt_of_month_lt hyear hlt))
    . exact heq
    . exact absurd hday.symm (Nat.ne_of_lt (he.dayOfYear_lt_of_month_lt hyear.symm hlt))
  have hdpos := hd.day_pos
  have hepos := he.day_pos
  unfold dayOfYear at hday
  rw [hyear, hmonth] at hday
  have hdays : d.day = e.day := by omega
  cases d
  cases e
  cases hyear
  cases hmonth
  cases hdays
  rfl

end Valid

theorem ofDays_succ (days : Int) : ofDays (days + 1) = (ofDays days).next := by
  obtain ⟨hvalid, hdays⟩ := ofDays_spec days
  obtain ⟨hvalid', hdays'⟩ := ofDays_spec (days + 1)
  apply hvalid'.eq_of_toDays_eq hvalid.valid_next
  rw [hdays', hvalid.toDays_next, hdays]

/-- The day that days are counted from. -/
def first : Date := ⟨1970, 1, 1⟩

/-- The date of a day is the day's number of steps away from the first. -/
theorem ofDays_eq_iterate (n : Nat) : ofDays n = next^[n] first := by
  induction n with
  | zero => decide
  | succ n ih => rw [Function.iterate_succ_apply', ← ih, ← ofDays_succ, Int.natCast_succ]

end Date
end Readiness
