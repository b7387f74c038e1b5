import LiveTopology.Decimal.Basic

/-!
This module contains the choice of the digits that stand for a double: as few as read back to it,
and of those that are equally few the nearest.
-/

namespace LiveTopology.Decimal

/-- Which of two decimals is taken when a double lies exactly half way between them. -/
inductive Tie where
  | even
  | up
  deriving DecidableEq, Repr

/-- The exponent of the leading digit of `num / den`, both positive. -/
def magnitude (num den : Nat) : Int :=
  if den ≤ num then (width (num / den) : Int) - 1 else -(width ((den - 1) / num) : Int)

/--
The `n`-digit decimals on either side of `num / den`, the nearer one first. It is a single one if
`num / den` itself has `n` digits.
-/
def around (tie : Tie) (num den n : Nat) : List Decimal :=
  let exponent := magnitude num den + 1 - n
  let num := num * Nat.pow 10 (-exponent).toNat
  let den := den * Nat.pow 10 exponent.toNat
  let below : Decimal := ⟨num / den, exponent⟩
  let above : Decimal := ⟨num / den + 1, exponent⟩
  if num % den = 0 then
    [below]
  else
    match compare (2 * (num % den)) den with
    | .lt => [below, above]
    | .gt => [above, below]
    | .eq =>
      match tie with
      | .even => if below.digits % 2 = 0 then [below, above] else [above, below]
      | .up => [above, below]

def exact (m : Nat) (e : Int) : Decimal :=
  if 0 ≤ e then ⟨m * Nat.pow 2 e.toNat, 0⟩ else ⟨m * Nat.pow 5 (-e).toNat, e⟩

/-- The first of the decimals near `m * 2 ^ e`, fewer digits first, that reads back to `x`. -/
def search (tie : Tie) (x : Float) (m : Nat) (e : Int) : Option Decimal :=
  (List.range' 1 17).findSome? fun n =>
    (around tie (m * Nat.pow 2 e.toNat) (Nat.pow 2 (-e).toNat) n).find? fun d => d.toFloat = x

def shortest (tie : Tie) (x : Float) : Decimal :=
  match x.toModel.unpack with
  | .finite _ m e _ => (search tie x.abs m e).getD (exact m e)
  | _ => ⟨0, 0⟩

end LiveTopology.Decimal
