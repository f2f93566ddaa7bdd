import Readiness.Double.Basic

/-!
This module contains the binary64 encoding of a `Double`: a sign bit, eleven bits of exponent and 52 bits of
fraction.
-/

namespace Readiness
namespace Double

/-- The exponent and fraction fields. A magnitude below `2 ^ 53` quanta is its own encoding. -/
def magnitudeBits (n : Nat) : Nat :=
  let e := n.log2 - 52
  e * Nat.pow 2 52 + n / Nat.pow 2 e

/-- The bit that stands for a minus. -/
def signBit : Nat := 0x8000000000000000

def toBits : Double → Nat
  | nan => 0x7FF8000000000000
  | inf s => 0x7FF0000000000000 + (if s then signBit else 0)
  | finite s m => magnitudeBits m.quanta + (if s then signBit else 0)

end Double
end Readiness
