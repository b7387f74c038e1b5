import LiveTopology.Decimal.Layout
import LiveTopology.Json.Record

/-!
This module contains the transform of a view: how far it is shifted and by what factor it is scaled.
It is written for any kind of number, so that the arithmetic can be read as exact as well as rounded.
-/

namespace LiveTopology

class Coordinate (α : Type) extends Add α, Sub α, Mul α, Div α, LT α where
  zero : α
  one : α
  isFinite : α → Bool
  decLt : ∀ a b : α, Decidable (a < b)

instance instDecidableLt {α : Type} [Coordinate α] (a b : α) : Decidable (a < b) :=
  Coordinate.decLt a b

instance : Coordinate Float where
  zero := 0.0
  one := 1.0
  isFinite := Float.isFinite
  decLt := Float.decLt

structure Point (α : Type) where
  x : α
  y : α
  deriving DecidableEq, Repr

/-- A shift in screen pixels, and a positive scale. -/
structure Transform (α : Type) where
  translateX : α
  translateY : α
  scale : α
  deriving DecidableEq, Repr

namespace Transform

section

variable {α : Type} [Coordinate α]

def identity : Transform α where
  translateX := Coordinate.zero
  translateY := Coordinate.zero
  scale := Coordinate.one

def screenToWorld (t : Transform α) (p : Point α) : Point α where
  x := (p.x - t.translateX) / t.scale
  y := (p.y - t.translateY) / t.scale

def worldToScreen (t : Transform α) (p : Point α) : Point α where
  x := p.x * t.scale + t.translateX
  y := p.y * t.scale + t.translateY

/-- The size in the world of what is to have `size` pixels on the screen. -/
def compensate (t : Transform α) (size : α) : α :=
  size / t.scale

def isFinite (t : Transform α) : Bool :=
  Coordinate.isFinite t.translateX && Coordinate.isFinite t.translateY
    && Coordinate.isFinite t.scale

end

/-- Whether two transforms have equal numbers. A zero equals a zero of the other sign. -/
def equals (t u : Transform Float) : Bool :=
  t.translateX == u.translateX && t.translateY == u.translateY && t.scale == u.scale

def isIdentity (t : Transform Float) : Bool :=
  t.equals identity

/-- The text that a drawing states a transform in. -/
def svg (t : Transform Float) : String :=
  let write := Decimal.Layout.full.write
  s!"translate({write t.translateX},{write t.translateY})scale({write t.scale})"

def toJson (t : Transform Float) : Json :=
  .object [("translate_x", .number (.float t.translateX)),
    ("translate_y", .number (.float t.translateY)), ("scale", .number (.float t.scale))]

def record : Json.Record (List (String × Float)) :=
  .floats "struct Transform" ["translate_x", "translate_y", "scale"]

def ofRecord (fields : List (String × Float)) : Transform Float where
  translateX := (Keyed.get? "translate_x" fields).getD 0
  translateY := (Keyed.get? "translate_y" fields).getD 0
  scale := (Keyed.get? "scale" fields).getD 0

def ofText (s : String) : Except Json.Fault (Transform Float) :=
  (Json.Read.whole record.read s.toList).map ofRecord

end Transform

namespace Point

def toJson (p : Point Float) : Json :=
  .object [("x", .number (.float p.x)), ("y", .number (.float p.y))]

def record : Json.Record (List (String × Float)) :=
  .floats "struct Point" ["x", "y"]

def ofRecord (fields : List (String × Float)) : Point Float where
  x := (Keyed.get? "x" fields).getD 0
  y := (Keyed.get? "y" fields).getD 0

def ofText (s : String) : Except Json.Fault (Point Float) :=
  (Json.Read.whole record.read s.toList).map ofRecord

end Point

end LiveTopology
