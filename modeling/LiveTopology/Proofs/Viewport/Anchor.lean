import LiveTopology.Proofs.Viewport.Controller
import Mathlib.Algebra.Order.Field.Basic
import Mathlib.Algebra.Order.Ring.Rat
import Mathlib.Tactic.FieldSimp
import Mathlib.Tactic.Ring

/-!
This module contains that the point under the anchor of a zoom stays where it is. Doubles round, so
this is a statement about the same arithmetic on rational numbers.
-/

namespace LiveTopology

local instance Coordinate.exact : Coordinate ℚ where
  zero := 0
  one := 1
  isFinite := fun _ => true
  decLt := fun a b => inferInstanceAs (Decidable (a < b))

namespace Extent

theorem above_min_pos {floor : ℚ} (hfloor : 0 < floor) (min max : ℚ)
    : 0 < (above floor min max).min := by
  unfold above
  dsimp only
  split
  . next h =>
    rw [Bool.and_eq_true, decide_eq_true_iff] at h
    exact hfloor.trans h.2
  . exact hfloor

theorem above_min_le_max (floor min max : ℚ)
    : (above floor min max).min ≤ (above floor min max).max := by
  show _ ≤ if (above floor min max).min < max then max else (above floor min max).min
  split
  . next h => exact h.le
  . exact le_refl _

variable {e : Extent ℚ}

theorem clamp_of_nonpos {scale : ℚ} (h : scale ≤ 0) : e.clamp scale = e.min :=
  if_neg (not_lt.2 h)

theorem clamp_bounds (h : e.min ≤ e.max) (scale : ℚ)
    : e.min ≤ e.clamp scale ∧ e.clamp scale ≤ e.max := by
  unfold clamp
  split
  . split
    . exact ⟨le_refl _, h⟩
    . next hlow =>
      split
      . exact ⟨h, le_refl _⟩
      . next hhigh => exact ⟨not_lt.1 hlow, not_lt.1 hhigh⟩
  . exact ⟨le_refl _, h⟩

end Extent

namespace Transform

/-- The screen and the world are told from each other without loss. -/
structure Invertible (t : Transform ℚ) : Prop where
  screen : ∀ p, t.worldToScreen (t.screenToWorld p) = p
  world : ∀ p, t.screenToWorld (t.worldToScreen p) = p

theorem invertible_of_scale_ne_zero {t : Transform ℚ} (h : t.scale ≠ 0) : t.Invertible where
  screen := by
    intro p
    have hback (x a : ℚ) : (x - a) / t.scale * t.scale + a = x := by
      field_simp
      ring
    unfold worldToScreen screenToWorld
    rw [hback p.x t.translateX, hback p.y t.translateY]
  world := by
    intro p
    have hback (x a : ℚ) : (x * t.scale + a - a) / t.scale = x := by
      field_simp
      ring
    unfold worldToScreen screenToWorld
    rw [hback p.x t.translateX, hback p.y t.translateY]

/-- What a zoom by `factor` about `anchor` makes of `t`, within the bounds `e`. -/
structure Anchored (e : Extent ℚ) (t : Transform ℚ) (factor : ℚ) (anchor : Point ℚ)
    (t' : Transform ℚ) : Prop where
  scale : t'.scale = e.clamp (t.scale * factor)
  bounded : e.min ≤ t'.scale ∧ t'.scale ≤ e.max
  lowest : factor ≤ 0 → t'.scale = e.min
  world : t'.screenToWorld anchor = t.screenToWorld anchor
  screen : t'.worldToScreen (t.screenToWorld anchor) = anchor
  same : e.clamp (t.scale * factor) = t.scale → t' = t

section Zoom

variable {e : Extent ℚ} {t : Transform ℚ} (factor : ℚ) (anchor : Point ℚ)

/-- It is the ratio of the scales that matters, however the new one was found. -/
theorem screenToWorld_zoom (h : t.scale ≠ 0) (hclamp : e.clamp (t.scale * factor) ≠ 0)
    : (t.compose e (.zoom factor anchor)).screenToWorld anchor = t.screenToWorld anchor := by
  have hkept (x a : ℚ) : (x - (x - (x - a) * (e.clamp (t.scale * factor) / t.scale)))
      / e.clamp (t.scale * factor) = (x - a) / t.scale := by
    field_simp
    ring
  unfold compose screenToWorld
  simp only
  rw [hkept anchor.x t.translateX, hkept anchor.y t.translateY]

theorem zoom_of_clamp_eq (h : t.scale ≠ 0) (hclamp : e.clamp (t.scale * factor) = t.scale)
    : t.compose e (.zoom factor anchor) = t := by
  have hkept (x a : ℚ) : x - (x - a) * (t.scale / t.scale) = a := by
    field_simp
    ring
  unfold compose
  simp only
  rw [hclamp, hkept anchor.x t.translateX, hkept anchor.y t.translateY]

theorem anchored_zoom (hmin : 0 < e.min) (hmax : e.min ≤ e.max) (hscale : 0 < t.scale)
    : Anchored e t factor anchor (t.compose e (.zoom factor anchor)) := by
  have hbounds := Extent.clamp_bounds hmax (t.scale * factor)
  have hclamp : e.clamp (t.scale * factor) ≠ 0 := (hmin.trans_le hbounds.1).ne'
  have hworld := screenToWorld_zoom factor anchor hscale.ne' hclamp
  constructor
  case scale => rfl
  case bounded => exact hbounds
  case lowest =>
    intro hfactor
    exact Extent.clamp_of_nonpos (mul_nonpos_of_nonneg_of_nonpos hscale.le hfactor)
  case world => exact hworld
  case screen =>
    rw [← hworld]
    exact (invertible_of_scale_ne_zero hclamp).screen anchor
  case same => exact zoom_of_clamp_eq factor anchor hscale.ne'

end Zoom

end Transform

namespace Controller

variable {σ : Type}

theorem scale_pos_run {e : Extent ℚ} (hmin : 0 < e.min) (hmax : e.min ≤ e.max)
    (enabled : Gesture ℚ → Bool) (onChange : Transform ℚ → σ → σ) (s : σ) (ops : List (Op ℚ))
    : 0 < (run (start e enabled onChange, s) ops).1.transform.scale := by
  induction ops using List.reverseRecOn with
  | nil => exact one_pos
  | append_singleton ops op ih =>
    rw [run_concat]
    cases op with
    | reset => exact one_pos
    | gesture g =>
      generalize hp : run (start e enabled onChange, s) ops = p at ih ⊢
      show 0 < (p.1.gesture g p.2).2.1.transform.scale
      cases htarget : p.1.target? g with
      | none =>
        rw [gesture_of_none htarget]
        exact ih
      | some t =>
        rw [gesture_of_some htarget]
        show 0 < t.scale
        rw [(of_target? htarget).1]
        cases g.motion with
        | pan dx dy => exact ih
        | zoom factor anchor =>
          have hextent : p.1.extent = e := by
            rw [← hp, extent_run]
            rfl
          rw [hextent]
          exact hmin.trans_le (Extent.clamp_bounds hmax _).1

/-- Whatever was done with a controller before, a zoom that comes into force leaves the point under
its anchor where it is, whichever bound the scale is taken back to. -/
theorem anchored_run (floor min max : ℚ) (hfloor : 0 < floor) (enabled : Gesture ℚ → Bool)
    (onChange : Transform ℚ → σ → σ) (s : σ) (ops : List (Op ℚ))
    : let e := Extent.above floor min max
      let p := run (start e enabled onChange, s) ops
      0 < p.1.transform.scale
        ∧ p.1.transform.Invertible
        ∧ ∀ factor anchor modifiers,
          (p.1.gesture (.zoom factor anchor modifiers) p.2).1 = true →
            Transform.Anchored e p.1.transform factor anchor
              (p.1.gesture (.zoom factor anchor modifiers) p.2).2.1.transform := by
  intro e p
  have hmin : 0 < e.min := Extent.above_min_pos hfloor min max
  have hmax : e.min ≤ e.max := Extent.above_min_le_max floor min max
  have hscale : 0 < p.1.transform.scale := scale_pos_run hmin hmax enabled onChange s ops
  refine ⟨hscale, Transform.invertible_of_scale_ne_zero hscale.ne', ?_⟩
  intro factor anchor modifiers hcommitted
  cases htarget : p.1.target? (.zoom factor anchor modifiers) with
  | none =>
    rw [gesture_of_none htarget] at hcommitted
    contradiction
  | some t =>
    rw [gesture_of_some htarget]
    show Transform.Anchored e p.1.transform factor anchor t
    have hextent : p.1.extent = e := extent_run _ ops
    rw [(of_target? htarget).1, hextent]
    exact Transform.anchored_zoom factor anchor hmin hmax hscale

/-- A shift, and a zoom that is taken back to the upper bound. -/
def zoomedIn : List (Op ℚ) :=
  [.gesture (.pan 30 (-10) .none), .gesture (.zoom 100 ⟨200, 150⟩ .none)]

theorem anchored_run_zoomedIn
    : let p := run (start (.above (1 / 1000000) (1 / 4) 10) (fun _ => true) fun _ s => s, ()) zoomedIn
      let t := (p.1.gesture (.zoom (-3) ⟨7, 5⟩ .none) p.2).2.1.transform
      (0 : ℚ) < 1 / 1000000
        ∧ p.1.transform = ⟨-1500, -1450, 10⟩
        ∧ t.scale = 1 / 4
        ∧ t.screenToWorld ⟨7, 5⟩ = p.1.transform.screenToWorld ⟨7, 5⟩ := by
  intro p t
  have hfloor : (0 : ℚ) < 1 / 1000000 := by decide +kernel
  have hanchored := (anchored_run (1 / 1000000) (1 / 4) 10 hfloor (fun _ => true) (fun _ s => s) ()
    zoomedIn).2.2 (-3) ⟨7, 5⟩ .none rfl
  have hscale : t.scale = 1 / 4 :=
    (hanchored.lowest (by decide +kernel)).trans (by decide +kernel)
  exact ⟨hfloor, by decide +kernel, hscale, hanchored.world⟩

end Controller

end LiveTopology
