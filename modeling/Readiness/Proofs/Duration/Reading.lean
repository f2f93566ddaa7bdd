import Readiness.Duration.Parser
import Readiness.Proofs.Double.Unsigned

/-!
This module contains what reading a duration text gives: a number of seconds, never a NaN, however long the text and
however large its components are.
-/

namespace Readiness
namespace Duration

open Double (Unsigned)

theorem TimeUnit.nanos_pos (u : TimeUnit) : 0 < u.nanos := by
  cases u <;> decide

theorem TimeUnit.nanos_le (u : TimeUnit) : u.nanos ≤ Nat.pow 2 53 := by
  cases u <;> decide

theorem unsigned_nanos (c : Component) : Unsigned c.nanos := by
  unfold Component.nanos Amount.toDouble
  apply Double.unsigned_mul_ofInt
  . apply Double.unsigned_ofDecimal
  . apply TimeUnit.nanos_pos
  . apply TimeUnit.nanos_le

theorem unsigned_totalNanos (cs : List Component) : Unsigned (totalNanos cs) := by
  have hsum (cs : List Component) : ∀ total, Unsigned total → Unsigned (cs.foldl (fun t c => t + c.nanos) total) := by
    induction cs with
    | nil => exact fun _ h => h
    | cons c cs ih => exact fun total h => ih _ (Double.unsigned_add h (unsigned_nanos c))
  exact hsum cs .zero Double.unsigned_zero

theorem unsigned_seconds (cs : List Component) : Unsigned (seconds false cs) := by
  apply Double.unsigned_div_ofInt (unsigned_totalNanos cs)
  . apply TimeUnit.nanos_pos
  . apply TimeUnit.nanos_le

theorem seconds_ne_nan (negative : Bool) (cs : List Component) : seconds negative cs ≠ .nan := by
  have htotal := (unsigned_totalNanos cs).ne_nan
  unfold seconds
  apply Double.div_ofInt_ne_nan
  . split
    . apply Double.neg_ne_nan htotal
    . exact htotal
  . apply TimeUnit.nanos_pos
  . apply TimeUnit.nanos_le

theorem bare?_ne_nan {l : List Char} {x : Double} (h : bare? l = some x) : x ≠ .nan := by
  unfold bare? at h
  dsimp only at h
  split at h
  . cases h
    apply Double.ofDecimal_ne_nan
  . cases h

theorem parse_ne_nan {text : String} {x : Double} (h : parse text = .ok x) : x ≠ .nan := by
  unfold parse at h
  dsimp only at h
  split at h
  . cases h
  . split at h
    . next hbare =>
      cases h
      apply bare?_ne_nan hbare
    . split at h
      . cases h
        apply seconds_ne_nan
      . cases h

end Duration
end Readiness
