/-!
This module contains the proleptic Gregorian calendar: the date of a day counted from 1970-01-01, and back.
-/

namespace Readiness

structure Date where
  year : Int
  month : Nat
  day : Nat
deriving DecidableEq, Repr

namespace Date

def isLeap (year : Int) : Bool :=
  year % 4 = 0 && (year % 100 ≠ 0 || year % 400 = 0)

/-- The lengths of the months from January on. -/
def monthLengths (leap : Bool) : List Nat :=
  [31, if leap then 29 else 28, 31, 30, 31, 30, 31, 31, 30, 31, 30, 31]

/-- The number of days from 0001-01-01 to 1970-01-01. -/
def epoch : Int := 719162

/-- The number of days from 0001-01-01 to the first day of `year`. -/
def daysBeforeYear (year : Int) : Int :=
  let y := year - 1
  365 * y + y / 4 - y / 100 + y / 400

/-- The number of days in a month and those before it, as far as `lengths` goes. -/
def daysBeforeMonth (lengths : List Nat) (month : Nat) : Nat :=
  (lengths.take (month - 1)).foldl (· + ·) 0

/-- The month, counted from `month`, and the day in it of the day number `day` of a row of months. -/
def locate (month : Nat) (day : Nat) : List Nat → Nat × Nat
  | [] => (month, day + 1)
  | n :: lengths => if day < n then (month, day + 1) else locate (month + 1) (day - n) lengths

/-- The year and the number of days before in that year, for a day of the 400 years from `era * 400 + 1` on. -/
def yearAndDay (era : Int) (day : Nat) : Int × Nat :=
  -- the last day of a long leap cycle must not open another century or year
  let century := min 3 (day / 36524)
  let day := day - century * 36524
  let quad := day / 1461
  let day := day % 1461
  let year := min 3 (day / 365)
  (400 * era + 100 * century + 4 * quad + year + 1, day - year * 365)

/-- The date of the day `days` after 1970-01-01. -/
def ofDays (days : Int) : Date :=
  let n := days + epoch
  let (year, day) := yearAndDay (n / 146097) (n % 146097).toNat
  let (month, day) := locate 1 day (monthLengths (isLeap year))
  ⟨year, month, day⟩

/-- The number of days from 1970-01-01 to a date. -/
def toDays (d : Date) : Int :=
  daysBeforeYear d.year + daysBeforeMonth (monthLengths (isLeap d.year)) d.month + (d.day - 1) - epoch

end Date
end Readiness
