import LiveTopology.Decimal.Shortest

/-!
This module contains the ways a double is written out once its digits are chosen.
-/

namespace LiveTopology.Decimal

/-- The decisions that one way of writing doubles makes. -/
structure Layout where
  /-- Which digits are taken when two choices are equally near. -/
  tie : Tie
  /-- The exponents of the leading digit that are written without an exponent, all if absent. -/
  plain : Option (Int × Int)
  /-- Whether a whole number ends in `.0`. -/
  pointZero : Bool
  /-- Whether a positive exponent carries a plus sign. -/
  plus : Bool

namespace Layout

/-- Every number in full: `0.000001`, `10`, `1e300` as a one and three hundred zeros. -/
def full : Layout where
  tie := .up
  plain := none
  pointZero := false
  plus := false

/-- Short numbers in full and marked as fractions: `10.0`, `1e16`, `1e-7`. -/
def marked : Layout where
  tie := .up
  plain := some (-4, 15)
  pointZero := true
  plus := false

end Layout

/-- The digits of `d` without trailing zeros, and the exponent of the first one. -/
def significant (d : Decimal) : List Char × Int :=
  let digits := Nat.toDigits 10 d.digits
  ((digits.reverse.dropWhile (· == '0')).reverse, d.exponent + digits.length - 1)

/-- The significant digits `ds`, the first of which has the exponent `lead`, in full. -/
def positional (ds : List Char) (lead : Int) (pointZero : Bool) : List Char :=
  if lead < 0 then
    '0' :: '.' :: (List.replicate (-lead - 1).toNat '0' ++ ds)
  else
    let whole := lead.toNat + 1
    if ds.length ≤ whole then
      ds ++ List.replicate (whole - ds.length) '0' ++ (if pointZero then ['.', '0'] else [])
    else
      ds.take whole ++ '.' :: ds.drop whole

def scientific (ds : List Char) (lead : Int) (plus : Bool) : List Char :=
  let point := if ds.length ≤ 1 then ds else ds.take 1 ++ '.' :: ds.drop 1
  let sign := if lead < 0 then ['-'] else if plus then ['+'] else []
  point ++ 'e' :: (sign ++ Nat.toDigits 10 lead.natAbs)

def writeSize (layout : Layout) (x : Float) : List Char :=
  let (ds, lead) := significant (shortest layout.tie x)
  if ds.isEmpty then
    if layout.pointZero then ['0', '.', '0'] else ['0']
  else
    match layout.plain with
    | none => positional ds lead layout.pointZero
    | some (least, greatest) =>
      if least ≤ lead ∧ lead ≤ greatest then positional ds lead layout.pointZero
      else scientific ds lead layout.plus

def Layout.write (layout : Layout) (x : Float) : String :=
  if x.isNaN then "NaN"
  else
    let size := if x.isInf then "inf" else String.ofList (writeSize layout x)
    if isNegative x then "-" ++ size else size

end LiveTopology.Decimal
