import Readiness.Instant.Basic

/-!
This module contains the instants that certainly have a text: those from 1970 to the end of the year 9999.
-/

namespace Readiness

theorem Date.year_ofDays (days : Int) :
    (ofDays days).year = (yearAndDay ((days + epoch) / 146097) ((days + epoch) % 146097).toNat).1 := rfl

theorem Date.year_bounds {days : Int} (h0 : 0 ≤ days) (h1 : days < 2932897) :
    1970 ≤ (ofDays days).year ∧ (ofDays days).year ≤ 9999 := by
  rw [year_ofDays]
  unfold yearAndDay epoch
  dsimp only
  omega

namespace Instant

/-- The instant is one of the years from 1970 to 9999. -/
def InCalendar (t : Instant) : Prop :=
  0 ≤ t.nanos ∧ t.nanos < 253402300800 * 1000000000

instance (t : Instant) : Decidable t.InCalendar :=
  inferInstanceAs (Decidable (_ ∧ _))

theorem InCalendar.seconds_bounds {t : Instant} (h : t.InCalendar) : 0 ≤ t.seconds ∧ t.seconds < 253402300800 := by
  obtain ⟨h0, h1⟩ := h
  unfold seconds
  omega

theorem InCalendar.year_bounds {t : Instant} (h : t.InCalendar) : 1970 ≤ t.date.year ∧ t.date.year ≤ 9999 := by
  have hseconds := h.seconds_bounds
  apply Date.year_bounds <;> omega

theorem error?_eq_none {t : Instant} (h : t.InCalendar) : t.error? = none := by
  have hseconds := h.seconds_bounds
  have hyear := h.year_bounds
  unfold error?
  rw [if_neg]
  . dsimp only
    rw [if_neg, if_neg]
    . omega
    . unfold yearLimit
      omega
  . unfold secondsLimit
    omega

theorem exists_text {t : Instant} (h : t.InCalendar) : ∃ s, t.text = .ok s := by
  unfold text
  rw [error?_eq_none h]
  exact ⟨_, rfl⟩

end Instant
end Readiness
