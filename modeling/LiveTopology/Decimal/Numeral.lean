import LiveTopology.Decimal.Basic

/-!
This module contains the number texts that settings and console lines are written in, and what they
stand for.
-/

namespace LiveTopology.Decimal

def ofDigits (ds : List Char) : Nat :=
  ds.foldl (fun n d => 10 * n + (d.toNat - '0'.toNat)) 0

def ofParts (whole fraction : List Char) (exponent : Int) : Decimal :=
  ⟨ofDigits (whole ++ fraction), exponent - fraction.length⟩

def signed (negative : Bool) (size : Float) : Float :=
  if negative then -size else size

/-- Cuts a sign off the front: whether it was a minus, and what follows. -/
def takeSign : List Char → Bool × List Char
  | '-' :: cs => (true, cs)
  | '+' :: cs => (false, cs)
  | cs => (false, cs)

/-- The exponent that ends a number text, zero if there is none. -/
def exponent? : List Char → Option Int
  | [] => some 0
  | c :: cs =>
    let (negative, ds) := takeSign cs
    if (c == 'e' || c == 'E') && !ds.isEmpty && ds.all Char.isDigit then
      some (if negative then -(ofDigits ds : Int) else ofDigits ds)
    else
      none

def ofText? (cs : List Char) : Option Decimal :=
  let whole := cs.takeWhile Char.isDigit
  let (fraction, rest) :=
    match cs.dropWhile Char.isDigit with
    | '.' :: cs => (cs.takeWhile Char.isDigit, cs.dropWhile Char.isDigit)
    | cs => ([], cs)
  if whole.isEmpty && fraction.isEmpty then none
  else (exponent? rest).map (ofParts whole fraction)

/-- A double as text: a number with an optional sign, an infinity or `nan`, in any case. -/
def parseFloat? (s : String) : Option Float :=
  let (negative, cs) := takeSign s.toList
  let size? :=
    match String.ofList (cs.map Char.toLower) with
    | "inf" | "infinity" => some (1.0 / 0.0)
    | "nan" => some (0.0 / 0.0)
    | _ => (ofText? cs).map toFloat
  size?.map (signed negative)

/-- A natural number below `2 ^ 64` as text: digits, with an optional plus sign. -/
def parseWord? (s : String) : Option UInt64 :=
  let ds :=
    match s.toList with
    | '+' :: ds => ds
    | ds => ds
  if !ds.isEmpty && ds.all Char.isDigit && ofDigits ds < UInt64.size then
    some (UInt64.ofNat (ofDigits ds))
  else
    none

end LiveTopology.Decimal
