import LiveTopology.Viewport.Extent
import LiveTopology.Viewport.Gesture

/-!
This module contains the controller of a view's transform. It decides which gestures move the view
and reports each move, in a state `σ` of its owner, to whatever draws it.
-/

namespace LiveTopology

structure Controller (α σ : Type) where
  transform : Transform α
  extent : Extent α
  /-- Whether a gesture may move the view at all. -/
  enabled : Gesture α → Bool
  /-- What is done with a transform that has come into force. -/
  onChange : Transform α → σ → σ

/-- The transform with which `t` is left by a motion. The anchor of a zoom stays where it is. -/
def Transform.compose {α : Type} [Coordinate α] (extent : Extent α) (t : Transform α)
    : Motion α → Transform α
  | .pan dx dy => { t with translateX := t.translateX + dx, translateY := t.translateY + dy }
  | .zoom factor anchor =>
    let scale := extent.clamp (t.scale * factor)
    let k := scale / t.scale
    { translateX := anchor.x - (anchor.x - t.translateX) * k
      translateY := anchor.y - (anchor.y - t.translateY) * k
      scale }

namespace Controller

variable {α σ : Type} [Coordinate α]

def start (extent : Extent α) (enabled : Gesture α → Bool) (onChange : Transform α → σ → σ)
    : Controller α σ where
  transform := .identity
  extent
  enabled
  onChange

def target? (c : Controller α σ) (g : Gesture α) : Option (Transform α) :=
  let t := c.transform.compose c.extent g.motion
  if c.enabled g && g.isFinite && t.isFinite then some t else none

def commit (c : Controller α σ) (t : Transform α) (s : σ) : Controller α σ × σ :=
  ({ c with transform := t }, c.onChange t s)

def gesture (c : Controller α σ) (g : Gesture α) (s : σ) : Bool × Controller α σ × σ :=
  match c.target? g with
  | none => (false, c, s)
  | some t => (true, c.commit t s)

/-- Goes back to where the view was at first. -/
def reset (c : Controller α σ) (s : σ) : Controller α σ × σ :=
  c.commit .identity s

end Controller

end LiveTopology
