import LiveTopology.Decimal.Numeral
import LiveTopology.Json.Basic

/-!
This module contains what a number in a text stands for. One that is no word is put together from the
digits that fit a word and a power of ten. Each step rounds, so that it need not be the double that
is nearest to what is written.
-/

namespace LiveTopology

namespace Decimal

/-- The number that digits make behind those of `n`, as far as it is a word, and the digits left. -/
def fit (n : Nat) : List Char → Nat × List Char
  | [] => (n, [])
  | d :: ds =>
    let more := 10 * n + (d.toNat - '0'.toNat)
    if more < UInt64.size then fit more ds else (n, d :: ds)

def tens (k : Nat) : Float :=
  (Decimal.mk 1 k).toFloat

/-- The greatest power of ten that is taken in one step. -/
def greatestTens : Nat := 308

/-- What `x` is when the point is moved to the left by `k` places. -/
def lower (x : Float) (k : Nat) : Float :=
  if k ≤ greatestTens then x / tens k
  else if x == 0.0 then x
  else lower (x / tens greatestTens) (k - greatestTens)
termination_by k
decreasing_by
  rename_i h _
  exact Nat.sub_lt (Nat.lt_of_le_of_lt (Nat.zero_le _) (Nat.lt_of_not_le h)) (by decide)

/-- What `x` is when the point is moved to the right by `k` places, infinite if it is too great. -/
def raise (x : Float) (k : Nat) : Float :=
  if k ≤ greatestTens then x * tens k
  else if x == 0.0 then x
  else 1.0 / 0.0

/-- The double that `d` is taken for, found in steps of which each one rounds. -/
def scaled (d : Decimal) : Float :=
  let x := nearest d.digits
  if d.exponent < 0 then lower x d.exponent.natAbs else raise x d.exponent.natAbs

end Decimal

namespace Json.Read

/-- The integers that a number without a fraction stands for. -/
def isWord (n : Int) : Bool :=
  -0x8000000000000000 ≤ n && n < UInt64.size

structure Numeral where
  negative : Bool
  whole : List Char
  fraction : List Char
  exponent : Option Int

namespace Numeral

/--
The digits that fit a word. Those in front of the point that do not fit are counted, and those behind
it are left out. A digit behind the point may fit again after one in front of it did not.
-/
def decimal (n : Numeral) : Decimal :=
  let (whole, skipped) := Decimal.fit 0 n.whole
  let (digits, left) := Decimal.fit whole n.fraction
  ⟨digits, n.exponent.getD 0 + skipped.length - (n.fraction.length - left.length : Nat)⟩

/-- A number without fraction and exponent is an integer if it fits a word and is not `-0`. -/
def value (n : Numeral) : Number :=
  let size := Decimal.ofDigits n.whole
  let int : Int := if n.negative then -size else size
  if n.fraction.isEmpty && n.exponent.isNone && isWord int && !(n.negative && size == 0) then
    .int int
  else
    .float (Decimal.signed n.negative n.decimal.scaled)

end Numeral

end Json.Read

end LiveTopology
