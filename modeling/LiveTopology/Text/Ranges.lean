/-!
This module contains sets of characters that are given as ranges of code points.
-/

namespace LiveTopology.Text

/-- Ranges from a first to a last code point, in increasing order. -/
abbrev Ranges := Array (Nat × Nat)

def Ranges.has (ranges : Ranges) (n : Nat) : Bool :=
  go ranges.size 0 ranges.size
where
  /-- Looks for `n` among the ranges from `lo` up to and without `hi`, by halving. -/
  go (fuel lo hi : Nat) : Bool :=
    match fuel with
    | 0 => false
    | fuel + 1 =>
      if lo < hi then
        let mid := (lo + hi) / 2
        match ranges[mid]? with
        | none => false
        | some (first, last) =>
          if n < first then go fuel lo mid
          else if last < n then go fuel (mid + 1) hi
          else true
      else
        false

end LiveTopology.Text
