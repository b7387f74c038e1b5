import LiveTopology.Proofs.Settings
import LiveTopology.Proofs.View.Life
import LiveTopology.Proofs.Viewport.Controller

/-!
This module contains that a zoom of a view keeps the scale within the bounds of its settings, as far
as these are not below the least scale that there can be.
-/

namespace LiveTopology

namespace Extent

/-- The least scale there can be comes before the bounds that were asked for. -/
structure Honours (min max scale : Float) : Prop where
  min_le : min ≤ scale
  floor_le : floor ≤ scale
  le_max : floor ≤ max → scale ≤ max
  le_floor : max < floor → scale ≤ floor

section

variable {min max bound : Float}

theorem le_min_of (h : min.isFinite = true) : min ≤ (of min max).min := by
  have hmin := Float.isNaN_of_isFinite h
  have hfloor : floor.isNaN = false := by decide +kernel
  show min ≤ if min.isFinite && floor < min then min else floor
  rw [h, Bool.true_and]
  split
  . apply Float.le_refl hmin
  . next hlow =>
    apply Float.le_of_not_lt hfloor hmin
    simpa using hlow

theorem min_of_le (hfloor : floor ≤ bound) (hmin : min ≤ bound) : (of min max).min ≤ bound := by
  show (if min.isFinite && floor < min then min else floor) ≤ bound
  split
  . exact hmin
  . exact hfloor

theorem max_of_le (hmin : (of min max).min ≤ bound) (hmax : max ≤ bound)
    : (of min max).max ≤ bound := by
  show (if (of min max).min < max then max else (of min max).min) ≤ bound
  split
  . exact hmax
  . exact hmin

theorem honours_clamp (h : Settings.isZoom min max = true) (scale : Float)
    : Honours min max ((of min max).clamp scale) := by
  obtain ⟨hmin, hmax, -, hle⟩ := (Settings.isZoom_iff min max).1 h
  have hformed := wellFormed_of min max
  have hfloor : floor ≤ floor := Float.le_refl (by decide +kernel)
  constructor
  case min_le => exact Float.le_trans (le_min_of hmin) (hformed.min_le_clamp scale)
  case floor_le => exact Float.le_trans hformed.floor_le_min (hformed.min_le_clamp scale)
  case le_max =>
    intro hreached
    apply Float.le_trans (hformed.clamp_le_max scale)
    apply max_of_le (min_of_le hreached hle)
    apply Float.le_refl (Float.isNaN_of_isFinite hmax)
  case le_floor =>
    intro hbelow
    apply Float.le_trans (hformed.clamp_le_max scale)
    apply max_of_le
    . exact min_of_le hfloor (Float.le_trans hle (Float.le_of_lt hbelow))
    . exact Float.le_of_lt hbelow

end

end Extent

namespace View

variable {η : Type}

theorem extent_gesture (v : View η) (g : Gesture Float)
    : (v.gesture g).2.controller.extent = v.controller.extent := by
  unfold View.gesture Controller.gesture
  cases v.controller.target? g <;> rfl

theorem extent_press (v : View η) (key : String)
    : (v.press key).2.1.controller.extent = v.controller.extent := by
  unfold View.press
  cases v.keymap.press key with
  | none => rfl
  | some action =>
    cases action with
    | resetZoom =>
      dsimp
      split <;> rfl
    | logWarning => rfl
    | logError => rfl

theorem extent_recover (v : View η) : v.recover.1.controller.extent = v.controller.extent := by
  unfold View.recover
  split <;> rfl

theorem extent_teardown (v : View η) : v.teardown.1.controller.extent = v.controller.extent := by
  unfold View.teardown
  split <;> rfl

theorem extent_step (v : View η) (op : Op η)
    : (v.step op).1.controller.extent = v.controller.extent := by
  have howned {result : View η × List (Effect η)}
      (h : result.1.controller.extent = v.controller.extent)
      : (v.owned result).1.controller.extent = v.controller.extent :=
    owned_cases (P := fun result => result.1.controller.extent = v.controller.extent) rfl h
  cases op with
  | gesture g => exact howned (extent_gesture v g)
  | recover => exact howned (extent_recover v)
  | teardown => exact howned (extent_teardown v)
  | drop => exact howned (extent_teardown v)
  | press key => exact extent_press v key
  | send link event => rfl
  | onHost change => rfl
  | _ => exact howned rfl

theorem extent_run (v : View η) (ops : List (Op η))
    : (v.run ops).1.controller.extent = v.controller.extent := by
  induction ops generalizing v with
  | nil => rfl
  | cons op ops ih =>
    show ((v.step op).1.run ops).1.controller.extent = _
    rw [ih, extent_step]

/-- Whatever was done with a view of valid settings before, a zoom that comes into force takes the
scale to one within the bounds of the settings, or to the least scale there can be if they are below
that. -/
theorem bounded_run (settings : Settings) (hvalid : settings.validate = .ok ()) (host : PanelHost)
    (ops : List (Op η)) (factor : Float) (anchor : Point Float) (modifiers : Modifiers)
    : let v := ((activate settings host).1.run ops).1
      (v.gesture (.zoom factor anchor modifiers)).1 = true →
        Extent.Honours settings.zoomMin settings.zoomMax
          (v.gesture (.zoom factor anchor modifiers)).2.controller.transform.scale := by
  intro v hcommitted
  have hextent : v.controller.extent = .of settings.zoomMin settings.zoomMax :=
    extent_run (activate settings host).1 ops
  have hzoom := ((Settings.validate_eq_ok_iff settings).1 hvalid).2.1
  revert hcommitted
  unfold View.gesture
  cases htarget : v.controller.target? (.zoom factor anchor modifiers) with
  | none =>
    rw [Controller.gesture_of_none htarget]
    intro hrefused
    contradiction
  | some t =>
    rw [Controller.gesture_of_some htarget]
    intro _
    show Extent.Honours _ _ t.scale
    rw [(Controller.of_target? htarget).1, hextent]
    apply Extent.honours_clamp hzoom

/-- Settings whose bounds are both below the least scale there can be. -/
def tinyBounds : Settings :=
  { Settings.default with zoomMin := 1e-8, zoomMax := 1e-8 }

/-- A zoom to the upper bound, and one key for another in lower case. -/
def farIn : List (Op Unit) :=
  [.gesture (.zoom 100.0 ⟨3.0, 4.0⟩ ⟨false, false, true, false⟩), .press "w"]

theorem bounded_run_farIn
    : let v := ((activate .default .empty).1.run farIn).1
      let zoomed := v.gesture (.zoom 0.001 ⟨200.0, 150.0⟩ ⟨false, false, false, true⟩)
      Settings.default.validate = .ok ()
        ∧ zoomed.1 = true
        ∧ Extent.Honours Settings.default.zoomMin Settings.default.zoomMax
          zoomed.2.controller.transform.scale := by
  have hvalid : Settings.default.validate = .ok () := by rfl
  refine ⟨hvalid, ?committed, bounded_run .default hvalid .empty farIn 0.001 ⟨200.0, 150.0⟩
    ⟨false, false, false, true⟩ ?committed⟩
  decide +kernel

theorem not_scale_le_tinyBounds
    : let v := (activate tinyBounds .empty : View Unit × _).1
      let zoom := Gesture.zoom 0.5 ⟨0.0, 0.0⟩ ⟨false, false, true, false⟩
      tinyBounds.validate = .ok ()
        ∧ (v.gesture zoom).1 = true
        ∧ ¬ (v.gesture zoom).2.controller.transform.scale ≤ tinyBounds.zoomMax := by
  intro v zoom
  refine ⟨by rfl, by decide +kernel, by decide +kernel⟩

end View

end LiveTopology
