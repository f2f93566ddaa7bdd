import Readiness.Instant.Calendar
import Readiness.Text.Decimal

/-!
This module contains points of time, counted in nanoseconds from 1970, and their text in RFC 3339 form: UTC, and a
fraction only where the instant is no whole second. Answers do not pad years before 1000 to four digits; logs do.
-/

namespace Readiness

/-- A point of time in nanoseconds since 1970-01-01T00:00:00Z. -/
structure Instant where
  nanos : Int
deriving DecidableEq, Repr, Inhabited

namespace Instant

/-- Why an instant has no text. -/
inductive Error where
  /-- The year, which itself is kept in 32 bits, is none from 1 to 9999. -/
  | yearOutOfRange (year : Int)
  /-- The seconds do not fit 64 bits. -/
  | secondsTooLarge
  /-- The year does not fit 32 bits. -/
  | yearTooLarge
deriving DecidableEq, Repr

def Error.message : Error → String
  | yearOutOfRange year => String.ofList ("year ".toList ++ Text.decimal year ++ " is out of range".toList)
  | secondsTooLarge => "timestamp out of range for platform time_t"
  | yearTooLarge => "[Errno 75] Value too large for defined data type"

def seconds (t : Instant) : Int :=
  t.nanos / 1000000000

def date (t : Instant) : Date :=
  Date.ofDays (t.seconds / 86400)

/-- The time of day in seconds. -/
def secondOfDay (t : Instant) : Nat :=
  (t.seconds % 86400).toNat

/-- The text of a date whose year has at least `yearWidth` digits. -/
def dateText (yearWidth : Nat) (d : Date) : List Char :=
  Text.padded yearWidth d.year.toNat ++ '-' :: Text.padded 2 d.month ++ '-' :: Text.padded 2 d.day

def timeText (s : Nat) : List Char :=
  Text.padded 2 (s / 3600) ++ ':' :: Text.padded 2 (s / 60 % 60) ++ ':' :: Text.padded 2 (s % 60)

/-- The text up to the whole second, without a zone. -/
def stampText (yearWidth : Nat) (t : Instant) : List Char :=
  dateText yearWidth t.date ++ 'T' :: timeText t.secondOfDay

/-- The first seconds that do not fit 64 bits. -/
def secondsLimit : Int := 9223372036854775808

/-- The first year offset that does not fit 32 bits. -/
def yearLimit : Int := 2147483648

/-- Why the instant has no text, if it has none: only the years 1 to 9999 are written. -/
def error? (t : Instant) : Option Error :=
  if t.seconds < -secondsLimit ∨ secondsLimit ≤ t.seconds then
    some .secondsTooLarge
  else
    let year := t.date.year
    -- years are kept as an offset from 1900 in 32 bits
    if year - 1900 < -yearLimit ∨ yearLimit ≤ year - 1900 then some .yearTooLarge
    else if year < 1 ∨ 9999 < year then some (.yearOutOfRange (year.bmod 4294967296))
    else none

/-- The fraction of a second, to the nanosecond and without trailing zeros. -/
def fractionText (n : Nat) : List Char :=
  if n = 0 then [] else '.' :: ((Text.padded 9 n).reverse.dropWhile (· = '0')).reverse

/-- The RFC 3339 text of the instant. -/
def text (t : Instant) : Except Error String :=
  match t.error? with
  | some e => throw e
  | none => return String.ofList (t.stampText 1 ++ fractionText (t.nanos % 1000000000).toNat ++ ['Z'])

/-- The text in log lines: whole microseconds, six digits of them unless there are none. -/
def logText (t : Instant) : String :=
  let micros := (t.nanos / 1000 % 1000000).toNat
  String.ofList (t.stampText 4 ++ (if micros = 0 then [] else '.' :: Text.padded 6 micros) ++ ['Z'])

end Instant
end Readiness
