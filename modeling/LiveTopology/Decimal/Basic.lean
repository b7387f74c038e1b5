/-!
This module contains finite decimals and the double that is nearest to one.
-/

namespace LiveTopology

/-- The number `digits * 10 ^ exponent`. -/
structure Decimal where
  digits : Nat
  exponent : Int
  deriving DecidableEq, Repr

namespace Decimal

/-- The double nearest to `d`, of two equally near the one with the even significand. -/
def toFloat (d : Decimal) : Float :=
  .ofModel (.ofScientific d.digits d.exponent)

/-- As many decimal digits as it takes to write `n`, none for zero. -/
def width (n : Nat) : Nat :=
  if n = 0 then 0 else (Nat.toDigits 10 n).length

/-- The double nearest to an integer. -/
def nearest (n : Int) : Float :=
  let size := (Decimal.mk n.natAbs 0).toFloat
  if n < 0 then -size else size

/-- The integer that a double is, if it is one. -/
def integer? (x : Float) : Option Int :=
  match x.toModel.unpack with
  | .zero _ => some 0
  | .finite sign m e _ => (size? m e).map fun n => if sign == .negative then -(n : Int) else n
  | _ => none
where
  /-- The natural number that `m * 2 ^ e` is, if it is one. -/
  size? (m : Nat) (e : Int) : Option Nat :=
    if 0 ≤ e then some (m * Nat.pow 2 e.toNat)
    else if m % Nat.pow 2 (-e).toNat = 0 then some (m / Nat.pow 2 (-e).toNat)
    else none

/-- Whether the sign of `x` is minus, also that of a zero. -/
def isNegative (x : Float) : Bool :=
  x.toBits >>> 63 == 1

end Decimal

end LiveTopology
