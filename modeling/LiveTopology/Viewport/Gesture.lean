import LiveTopology.Viewport.Transform

/-!
This module contains the gestures that move a view, with the modifier keys that are held meanwhile.
-/

namespace LiveTopology

/-- The modifier keys, of which `command` is the one that is also called Meta. -/
structure Modifiers where
  shift : Bool
  ctrl : Bool
  alt : Bool
  command : Bool
  deriving DecidableEq, Repr

namespace Modifiers

def none : Modifiers := ⟨false, false, false, false⟩

def any (m : Modifiers) : Bool :=
  m.shift || m.ctrl || m.alt || m.command

end Modifiers

/-- What a gesture asks for: a shift, or a scale by a factor about a point of the screen. -/
inductive Motion (α : Type) where
  | pan (dx dy : α)
  | zoom (factor : α) (anchor : Point α)
  deriving DecidableEq, Repr

structure Gesture (α : Type) where
  motion : Motion α
  modifiers : Modifiers
  deriving DecidableEq, Repr

namespace Gesture

def pan {α : Type} (dx dy : α) (modifiers : Modifiers) : Gesture α :=
  ⟨.pan dx dy, modifiers⟩

def zoom {α : Type} (factor : α) (anchor : Point α) (modifiers : Modifiers) : Gesture α :=
  ⟨.zoom factor anchor, modifiers⟩

/-- How much of a doubling of the scale one pixel of the wheel is worth. -/
def wheelRate : Float := 0.002

/-- A turn of the wheel by `dy` pixels: upwards, which is negative, the scale grows. -/
def wheel (dy : Float) (anchor : Point Float) (modifiers : Modifiers) : Gesture Float :=
  zoom (-dy * wheelRate).exp2 anchor modifiers

def isFinite {α : Type} [Coordinate α] (g : Gesture α) : Bool :=
  match g.motion with
  | .pan dx dy => Coordinate.isFinite dx && Coordinate.isFinite dy
  | .zoom factor anchor =>
    Coordinate.isFinite factor && Coordinate.isFinite anchor.x && Coordinate.isFinite anchor.y

/-- Whether a key is held that sets gestures apart from ordinary drags and scrolls. -/
def isHeld {α : Type} (g : Gesture α) : Bool :=
  g.modifiers.command || g.modifiers.alt

end Gesture

end LiveTopology
