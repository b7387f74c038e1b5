import LiveTopology.Viewport.Transform

/-!
This module contains the bounds that a scale is kept within.
-/

namespace LiveTopology

structure Extent (α : Type) where
  min : α
  max : α
  deriving DecidableEq, Repr

namespace Extent

/--
The bounds from `min` to `max`, where `min` is raised to `floor` and `max` to the bound below it. A
`min` that is not finite counts as too low, and so does a `max` that is not comparable.
-/
def above {α : Type} [Coordinate α] (floor min max : α) : Extent α :=
  let min := if Coordinate.isFinite min && floor < min then min else floor
  ⟨min, if min < max then max else min⟩

/-- The scale within the bounds that is nearest to `scale`. What is not positive counts as low. -/
def clamp {α : Type} [Coordinate α] (e : Extent α) (scale : α) : α :=
  if Coordinate.zero < scale then
    if scale < e.min then e.min
    else if e.max < scale then e.max
    else scale
  else
    e.min

def floor : Float := 1e-6

def of (min max : Float) : Extent Float :=
  above floor min max

def defaultMin : Float := 0.25

def defaultMax : Float := 10.0

def default : Extent Float :=
  ⟨defaultMin, defaultMax⟩

end Extent

end LiveTopology
