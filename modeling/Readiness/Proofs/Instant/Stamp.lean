import Readiness.Proofs.Duration.Canonical
import Readiness.Proofs.Instant.Calendar
import Readiness.Proofs.Instant.Range

/-!
This module contains the reading of RFC 3339 texts in UTC. The text of an instant is read as the date, the time of day
and the fraction that it was written from, so that instants are told apart by their texts.
-/

namespace Readiness
namespace Instant

/-- What an RFC 3339 text in UTC tells. -/
structure Stamp where
  date : Date
  hour : Nat
  minute : Nat
  second : Nat
  /-- The digits after the point; none where there is no point. -/
  fraction : List Char
deriving DecidableEq, Repr

namespace Stamp

/-- The date is in the calendar, the time is one of a day, and the fraction is no longer than it has to be. -/
structure WellFormed (s : Stamp) : Prop where
  date : s.date.Valid
  hour_lt : s.hour < 24
  minute_lt : s.minute < 60
  second_lt : s.second < 60
  places_le : s.fraction.length ≤ 9
  last : s.fraction.getLast? ≠ some '0'

/-- The nanoseconds since 1970-01-01T00:00:00Z. -/
def nanos (s : Stamp) : Int :=
  let seconds := s.date.toDays * 86400 + s.hour * 3600 + s.minute * 60 + s.second
  seconds * 1000000000 + Text.digitsValue s.fraction * 10 ^ (9 - s.fraction.length)

/-- Reads a number of exactly `width` digits. -/
def number? (width : Nat) (l : List Char) : Option (Nat × List Char) :=
  let digits := l.take width
  if digits.length = width ∧ digits.all Char.isDigit then some (Text.digitsValue digits, l.drop width) else none

def mark? (c : Char) : List Char → Option (List Char)
  | d :: r => if d = c then some r else none
  | [] => none

/-- Reads a point and at least one digit, unless there is no point. -/
def fraction? : List Char → Option (List Char × List Char)
  | '.' :: r =>
    let (digits, r) := r.span Char.isDigit
    if digits.isEmpty then none else some (digits, r)
  | l => some ([], l)

def date? (l : List Char) : Option (Date × List Char) := do
  let (year, l) ← number? 4 l
  let (month, l) ← number? 2 (← mark? '-' l)
  let (day, l) ← number? 2 (← mark? '-' l)
  return (⟨year, month, day⟩, l)

/-- Reads the hour, the minute and the second. -/
def time? (l : List Char) : Option ((Nat × Nat × Nat) × List Char) := do
  let (hour, l) ← number? 2 l
  let (minute, l) ← number? 2 (← mark? ':' l)
  let (second, l) ← number? 2 (← mark? ':' l)
  return ((hour, minute, second), l)

def read? (l : List Char) : Option Stamp := do
  let (date, l) ← date? l
  let ((hour, minute, second), l) ← time? (← mark? 'T' l)
  let (fraction, l) ← fraction? l
  guard (l = ['Z'])
  return ⟨date, hour, minute, second, fraction⟩

/-- What the text of an instant tells. -/
def ofInstant (t : Instant) : Stamp where
  date := t.date
  hour := t.secondOfDay / 3600
  minute := t.secondOfDay / 60 % 60
  second := t.secondOfDay % 60
  fraction := Duration.dropZeros (Text.padded 9 (t.nanos % 1000000000).toNat)

end Stamp

theorem isDigit_of_mem_padded {width n : Nat} {c : Char} (h : c ∈ Text.padded width n) : c.isDigit = true := by
  unfold Text.padded List.leftpad at h
  rw [List.mem_append, List.mem_replicate] at h
  rcases h with ⟨_, rfl⟩ | h
  . decide
  . exact Nat.isDigit_of_mem_toDigits (by decide) (by decide) h

/-- Padding changes nothing where there are digits enough. -/
theorem padded_of_le {width width' n : Nat} (hw : width ≤ width') (hn : width' ≤ (Nat.toDigits 10 n).length) :
    Text.padded width n = Text.padded width' n := by
  unfold Text.padded List.leftpad
  rw [Nat.sub_eq_zero_of_le hn, Nat.sub_eq_zero_of_le (Nat.le_trans hw hn)]

theorem padded_year {n : Nat} (h : 1000 ≤ n) : Text.padded 1 n = Text.padded 4 n := by
  apply padded_of_le (by decide)
  have := Nat.length_toDigits_le_iff (n := n) (b := 10) (k := 3) (by decide) (by decide)
  omega

namespace Stamp

theorem number?_padded {width n : Nat} (hw : 0 < width) (hn : n < 10 ^ width) (rest : List Char) :
    number? width (Text.padded width n ++ rest) = some (n, rest) := by
  have hlength := Text.length_padded hw hn
  have hall : (Text.padded width n).all Char.isDigit = true := by
    rw [List.all_eq_true]
    exact fun c hc => isDigit_of_mem_padded hc
  unfold number?
  rw [List.take_left' hlength, List.drop_left' hlength]
  dsimp only
  rw [if_pos ⟨hlength, hall⟩, Text.digitsValue_padded]

theorem mark?_cons (c : Char) (rest : List Char) : mark? c (c :: rest) = some rest := by
  exact if_pos rfl

theorem date?_dateText {d : Date} (hvalid : d.Valid) (hleast : 1000 ≤ d.year) (hmost : d.year ≤ 9999)
    (rest : List Char) : date? (dateText 1 d ++ rest) = some (d, rest) := by
  have hmonth := hvalid.month_le
  have hday := hvalid.day_le_thirtyOne
  have hyear : ((d.year.toNat : Nat) : Int) = d.year := by omega
  unfold date? dateText
  rw [padded_year (by omega)]
  simp only [List.append_assoc, List.cons_append]
  rw [number?_padded (by decide) (by omega)]
  simp only [Option.bind_eq_bind, Option.bind_some, mark?_cons]
  rw [number?_padded (by decide) (by omega)]
  simp only [Option.bind_some, mark?_cons]
  rw [number?_padded (by decide) (by omega)]
  simp only [Option.bind_some, hyear]
  rfl

theorem time?_timeText {s : Nat} (h : s < 86400) (rest : List Char) :
    time? (timeText s ++ rest) = some ((s / 3600, s / 60 % 60, s % 60), rest) := by
  unfold time? timeText
  simp only [List.append_assoc, List.cons_append]
  rw [number?_padded (by decide) (by omega)]
  simp only [Option.bind_eq_bind, Option.bind_some, mark?_cons]
  rw [number?_padded (by decide) (by omega)]
  simp only [Option.bind_some, mark?_cons]
  rw [number?_padded (by decide) (by omega)]
  rfl

theorem mem_padded_of_mem_dropZeros {width n : Nat} {c : Char}
    (h : c ∈ Duration.dropZeros (Text.padded width n)) : c ∈ Text.padded width n := by
  exact (List.rdropWhile_prefix _ _).subset h

theorem fraction?_fractionText (n : Nat) :
    fraction? (fractionText n ++ ['Z']) = some (Duration.dropZeros (Text.padded 9 n), ['Z']) := by
  have hnil : Duration.dropZeros (Text.padded 9 n) = [] ↔ n = 0 := Duration.dropZeros_padded_eq_nil_iff
  unfold fractionText
  split
  . next hn =>
    rw [hnil.mpr hn]
    rfl
  . next hn =>
    show (if (List.span Char.isDigit (Duration.dropZeros (Text.padded 9 n) ++ ['Z'])).1.isEmpty then none
      else some (List.span Char.isDigit (Duration.dropZeros (Text.padded 9 n) ++ ['Z']))) = _
    have hdigits : ∀ c ∈ Duration.dropZeros (Text.padded 9 n), c.isDigit = true :=
      fun c hc => isDigit_of_mem_padded (mem_padded_of_mem_dropZeros hc)
    have hend : 'Z'.isDigit = false := rfl
    rw [List.span_eq_takeWhile_dropWhile, List.takeWhile_append_of_pos hdigits, List.dropWhile_append_of_pos hdigits]
    simp [hend, hnil, hn]

theorem read?_text {t : Instant} (hdate : t.date.Valid) (hleast : 1000 ≤ t.date.year) (hmost : t.date.year ≤ 9999) :
    read? (t.stampText 1 ++ fractionText (t.nanos % 1000000000).toNat ++ ['Z']) = some (ofInstant t) := by
  have hday : t.secondOfDay < 86400 := by
    unfold secondOfDay
    omega
  unfold read? stampText
  simp only [List.append_assoc, List.cons_append]
  rw [date?_dateText hdate hleast hmost]
  simp only [Option.bind_eq_bind, Option.bind_some, mark?_cons]
  rw [time?_timeText hday]
  simp only [Option.bind_some]
  rw [fraction?_fractionText]
  rfl

/-- The digits that a fraction was cut to count for as much as all of them. -/
theorem digitsValue_dropZeros {places n : Nat} (hp : 0 < places) (hn : n < 10 ^ places) :
    Text.digitsValue (Duration.dropZeros (Text.padded places n))
      * 10 ^ (places - (Duration.dropZeros (Text.padded places n)).length) = n
      ∧ (Duration.dropZeros (Text.padded places n)).length ≤ places := by
  obtain ⟨k, hk⟩ := Duration.exists_zeros (Text.padded places n)
  have hvalue := Text.digitsValue_padded places n
  have hlength := Text.length_padded hp hn
  rw [hk, Text.digitsValue_append, Text.digitsValue_replicate_zero, List.length_replicate, Nat.add_zero] at hvalue
  rw [hk, List.length_append, List.length_replicate] at hlength
  have hplaces : places - (Duration.dropZeros (Text.padded places n)).length = k := by omega
  rw [hplaces]
  exact ⟨hvalue, by omega⟩

theorem nanos_ofInstant (t : Instant) : (ofInstant t).nanos = t.nanos := by
  have hfraction : (t.nanos % 1000000000).toNat < 10 ^ 9 := by omega
  have hdigits := (digitsValue_dropZeros (by decide) hfraction).1
  have hdays : t.date.toDays = t.seconds / 86400 := (Date.ofDays_spec _).2
  unfold nanos ofInstant
  dsimp only
  rw [hdays]
  have hdigits := congrArg (Nat.cast : Nat → Int) hdigits
  push_cast at hdigits
  rw [hdigits]
  unfold secondOfDay seconds
  omega

theorem wellFormed_ofInstant (t : Instant) : (ofInstant t).WellFormed where
  date := (Date.ofDays_spec _).1
  hour_lt := by
    unfold ofInstant secondOfDay
    dsimp only
    omega
  minute_lt := Nat.mod_lt _ (by decide)
  second_lt := Nat.mod_lt _ (by decide)
  places_le := by
    have hfraction : (t.nanos % 1000000000).toNat < 10 ^ 9 := by omega
    exact (digitsValue_dropZeros (by decide) hfraction).2
  last := Duration.getLast?_dropZeros _

theorem fraction_ofInstant_eq_nil_iff (t : Instant) : (ofInstant t).fraction = [] ↔ t.nanos % 1000000000 = 0 := by
  have hnil : (ofInstant t).fraction = [] ↔ (t.nanos % 1000000000).toNat = 0 := Duration.dropZeros_padded_eq_nil_iff
  rw [hnil]
  omega

end Stamp

theorem text_eq {t : Instant} (h : t.InCalendar) :
    t.text = .ok (String.ofList (t.stampText 1 ++ fractionText (t.nanos % 1000000000).toNat ++ ['Z'])) := by
  unfold text
  rw [error?_eq_none h]
  rfl

theorem InCalendar.read?_text {t : Instant} (h : t.InCalendar) {s : String} (hs : t.text = .ok s) :
    Stamp.read? s.toList = some (.ofInstant t) := by
  obtain ⟨hleast, hmost⟩ := h.year_bounds
  rw [text_eq h] at hs
  cases hs
  rw [String.toList_ofList]
  exact Stamp.read?_text (Date.ofDays_spec _).1 (by omega) hmost

/--
From 1970 to the end of the year 9999 every instant has a text. It is read as a date of the calendar, a time of day and
a fraction that is only there if the instant is no whole second. They make up the instant to the nanosecond, counted
day by day from 1970-01-01, so no other instant has this text.
-/
theorem text_read_back {t : Instant} (h : t.InCalendar) :
    ∃ text stamp, t.text = .ok text ∧ Stamp.read? text.toList = some stamp ∧ stamp.WellFormed
      ∧ stamp.nanos = t.nanos ∧ stamp.date = Date.next^[(t.nanos / (86400 * 1000000000)).toNat] Date.first
      ∧ (stamp.fraction = [] ↔ t.nanos % 1000000000 = 0)
      ∧ ∀ t', t'.InCalendar → t'.text = .ok text → t' = t := by
  obtain ⟨text, htext⟩ := exists_text h
  refine ⟨text, .ofInstant t, htext, h.read?_text htext, Stamp.wellFormed_ofInstant t, Stamp.nanos_ofInstant t, ?_,
    Stamp.fraction_ofInstant_eq_nil_iff t, ?_⟩
  . have hseconds := h.seconds_bounds
    have hdays : t.seconds / 86400 = ((t.nanos / (86400 * 1000000000)).toNat : Nat) := by
      unfold seconds at hseconds ⊢
      omega
    show t.date = _
    unfold date
    rw [hdays, Date.ofDays_eq_iterate]
  . intro t' h' htext'
    have hread := h.read?_text htext
    rw [h'.read?_text htext', Option.some.injEq] at hread
    have hnanos : t'.nanos = t.nanos := by
      rw [← Stamp.nanos_ofInstant t', hread, Stamp.nanos_ofInstant t]
    cases t
    cases t'
    cases hnanos
    rfl

/-- The last second of a leap day at the end of a century, with a fraction of seven digits. -/
theorem text_read_back_leap_day :
    let t : Instant := ⟨951868799000000100⟩
    t.InCalendar ∧ t.text = .ok "2000-02-29T23:59:59.0000001Z"
      ∧ ∃ stamp, Stamp.read? "2000-02-29T23:59:59.0000001Z".toList = some stamp ∧ stamp.nanos = t.nanos
        ∧ stamp.date = Date.next^[11016] Date.first := by
  intro t
  have h : t.InCalendar := by decide
  have htext : t.text = .ok "2000-02-29T23:59:59.0000001Z" := by decide +kernel
  obtain ⟨text, stamp, htext', hread, _, hnanos, hdate, _⟩ := text_read_back h
  rw [htext] at htext'
  cases htext'
  exact ⟨h, htext, stamp, hread, hnanos, hdate⟩

end Instant
end Readiness
