import Readiness.Double.Arithmetic
import Readiness.Instant.Basic

/-!
This module contains the clock of a process: a monotonic reading and the wall time, both in nanoseconds.
-/

namespace Readiness

structure Clock where
  mono : Int
  wall : Int
deriving DecidableEq, Repr

namespace Clock

/-- The monotonic reading in seconds; the reading is rounded to a double and then divided. -/
def monotonic (c : Clock) : Double :=
  Double.ofInt c.mono / Double.ofInt 1000000000

def now (c : Clock) : Instant :=
  ⟨c.wall⟩

def advance (c : Clock) (nanos : Int) : Clock :=
  ⟨c.mono + nanos, c.wall + nanos⟩

end Clock
end Readiness
