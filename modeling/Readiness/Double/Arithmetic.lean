import Readiness.Double.Rounding

/-!
This module contains the arithmetic of `Double`: every operation is the exact result, rounded once.
-/

namespace Readiness
namespace Double

protected def add : Double → Double → Double
  | nan, _ => nan
  | _, nan => nan
  | inf s, inf t => if s = t then inf s else nan
  | inf s, finite .. => inf s
  | finite .., inf t => inf t
  | finite s m, finite t n => ofQuanta (s && t) (signed s m.quanta + signed t n.quanta)

instance : Add Double := ⟨Double.add⟩

protected def sub (x y : Double) : Double :=
  x + -y

instance : Sub Double := ⟨Double.sub⟩

protected def mul : Double → Double → Double
  | nan, _ => nan
  | _, nan => nan
  | inf s, inf t => inf (s != t)
  | inf s, finite t n => if n.quanta = 0 then nan else inf (s != t)
  | finite s m, inf t => if m.quanta = 0 then nan else inf (s != t)
  | finite s m, finite t n => nearest (s != t) (m.quanta * n.quanta) scale

instance : Mul Double := ⟨Double.mul⟩

protected def div : Double → Double → Double
  | nan, _ => nan
  | _, nan => nan
  | inf _, inf _ => nan
  | inf s, finite t _ => inf (s != t)
  | finite s _, inf t => finite (s != t) .zero
  | finite s m, finite t n =>
    if n.quanta = 0 then
      if m.quanta = 0 then nan else inf (s != t)
    else
      nearest (s != t) (m.quanta * scale) n.quanta

instance : Div Double := ⟨Double.div⟩

/-- The value nearest to an integer. -/
def ofInt (n : Int) : Double :=
  ofQuanta false (n * scale)

/-- The value nearest to an integer, unless that is out of the finite range. -/
def ofInt? (n : Int) : Option Double :=
  if (ofInt n).isInfinite then none else some (ofInt n)

/-- The value nearest to `digits * 10 ^ exponent` with the given sign. -/
def ofDecimal (negative : Bool) (digits : Nat) (exponent : Int) : Double :=
  match exponent with
  | .ofNat e => nearest negative (digits * Nat.pow 10 e * scale) 1
  | .negSucc e => nearest negative (digits * scale) (Nat.pow 10 (e + 1))

end Double
end Readiness
