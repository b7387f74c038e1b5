import LiveTopology.Proofs.Scene.Layer
import LiveTopology.Proofs.View.Life

/-!
This module contains what a scene shows over the whole life of a view: the transform of the view's
controller, outlines of the same width on the screen, and nothing else that was not there at first.
-/

namespace LiveTopology.View

variable {η : Type}

/-- What is seen of `v`, a view that was `v₀` when it was built. -/
structure InSync (v₀ v : View η) : Prop where
  layers : v.layers = v₀.layers
  transform : (v.scene.layers[v.layers.zoom]?.bind Layer.transform) = some v.controller.transform
  stroke : v.scene.style? v.layers.map "stroke-width"
    = some (Decimal.Layout.full.write (v.controller.transform.compensate mapStroke) ++ "px")
  /-- No layer is added, taken away or moved. -/
  tree : v.scene.layers.map (fun l => (l.name, l.parent))
    = v₀.scene.layers.map fun l => (l.name, l.parent)
  other_transforms : ∀ layer, layer ≠ v.layers.zoom →
    (v.scene.layers[layer]?.bind Layer.transform) = v₀.scene.layers[layer]?.bind Layer.transform
  other_styles : ∀ layer property, ¬ (layer = v.layers.map ∧ property = "stroke-width") →
    v.scene.style? layer property = v₀.scene.style? layer property
  loads : v.scene.glyphLoads = v₀.scene.glyphLoads ∧ v.scene.maps = v₀.scene.maps

/-- What each step keeps: the scene is that of `v₀`, but for the transform that is applied to it. -/
structure Shows (v₀ v : View η) : Prop where
  layers : v.layers = v₀.layers
  onChange : v.controller.onChange = applyTransform v₀.layers
  scene : v.scene = applyTransform v₀.layers v.controller.transform v₀.scene

theorem applyTransform_applyTransform (layers : ViewLayers) (t t' : Transform Float) (s : Scene)
    : applyTransform layers t' (applyTransform layers t s) = applyTransform layers t' s := by
  unfold applyTransform
  rw [Scene.setTransform_setStyle, Scene.setTransform_setTransform, Scene.setStyle_setStyle]

theorem shows_activate (settings : Settings) (host : PanelHost)
    : Shows (activate settings host : View η × List (Effect η)).1
        (activate settings host : View η × List (Effect η)).1 where
  layers := rfl
  onChange := rfl
  scene := (applyTransform_applyTransform _ _ _ _).symm

section Step

variable {v₀ v : View η} (h : Shows v₀ v)
include h

theorem Shows.of_eq {w : View η} (hlayers : w.layers = v.layers)
    (hcontroller : w.controller = v.controller) (hscene : w.scene = v.scene)
    : Shows v₀ w where
  layers := by rw [hlayers, h.layers]
  onChange := by rw [hcontroller, h.onChange]
  scene := by rw [hscene, hcontroller, h.scene]

/-- A transform that comes into force is applied in the place of the one before. -/
theorem Shows.commit (t : Transform Float)
    : Shows v₀
        { v with
          controller := (v.controller.commit t v.scene).1
          scene := (v.controller.commit t v.scene).2 } where
  layers := h.layers
  onChange := h.onChange
  scene := by
    show v.controller.onChange t v.scene = applyTransform v₀.layers t v₀.scene
    rw [h.onChange, h.scene, applyTransform_applyTransform]

theorem Shows.gesture (g : Gesture Float) : Shows v₀ (v.gesture g).2 := by
  unfold View.gesture Controller.gesture
  cases v.controller.target? g with
  | none => exact h
  | some t => exact h.commit t

theorem Shows.resetZoom : Shows v₀ v.resetZoom :=
  h.commit .identity

theorem Shows.press (key : String) : Shows v₀ (v.press key).2.1 := by
  unfold View.press
  cases v.keymap.press key with
  | none => exact h
  | some action =>
    cases action with
    | resetZoom =>
      dsimp
      split
      . exact h
      . exact h.resetZoom
    | logWarning => exact h
    | logError => exact h

theorem Shows.recover : Shows v₀ v.recover.1 := by
  unfold View.recover
  split
  . exact h
  . exact h.of_eq rfl rfl rfl

theorem Shows.teardown : Shows v₀ v.teardown.1 := by
  unfold View.teardown
  split
  . exact h
  . exact h.of_eq rfl rfl rfl

theorem Shows.drop : Shows v₀ v.drop.1 :=
  h.teardown.of_eq rfl rfl rfl

theorem Shows.owned {result : View η × List (Effect η)} (hresult : Shows v₀ result.1)
    : Shows v₀ (v.owned result).1 := by
  unfold View.owned
  split
  . exact h
  . exact hresult

theorem Shows.step (op : Op η) : Shows v₀ (v.step op).1 := by
  cases op with
  | gesture g => exact h.owned (h.gesture g)
  | resetZoom => exact h.owned h.resetZoom
  | recover => exact h.owned h.recover
  | teardown => exact h.owned h.teardown
  | bind routes => exact h.owned (h.of_eq rfl rfl rfl)
  | openSock => exact h.owned (h.of_eq rfl rfl rfl)
  | closeSock => exact h.owned (h.of_eq rfl rfl rfl)
  | pump => exact h.owned (h.of_eq rfl rfl rfl)
  | next => exact h.owned (h.of_eq rfl rfl rfl)
  | drop => exact h.owned h.drop
  | press key => exact h.press key
  | send link event => exact h.of_eq rfl rfl rfl
  | onHost change => exact h.of_eq rfl rfl rfl

end Step

theorem Shows.run {v₀ v : View η} (h : Shows v₀ v) (ops : List (Op η))
    : Shows v₀ (v.run ops).1 := by
  induction ops generalizing v with
  | nil => exact h
  | cons op ops ih =>
    apply ih
    apply h.step

/-- The layer for the transform and the one for outlines are there, and they are not the same. -/
structure Layered (v : View η) : Prop where
  zoom_lt : v.layers.zoom < v.scene.layers.length
  map_lt : v.layers.map < v.scene.layers.length
  zoom_ne_map : v.layers.zoom ≠ v.layers.map

theorem layered_activate (settings : Settings) (host : PanelHost)
    : Layered (activate settings host : View η × List (Effect η)).1 where
  zoom_lt := by
    show 11 < 14
    omega
  map_lt := by
    show 12 < 14
    omega
  zoom_ne_map := by
    show 11 ≠ 12
    omega

theorem getElem?_applyTransform (layers : ViewLayers) (t : Transform Float) (s : Scene) (i : Nat)
    : (applyTransform layers t s).layers[i]?
        =
      s.layers[i]?.map fun l =>
        { l with
          transform := if layers.zoom = i then some t else l.transform
          styles := if layers.map = i then Keyed.insert "stroke-width" (View.stroke t) l.styles
            else l.styles } := by
  unfold applyTransform
  rw [Scene.getElem?_setStyle, Scene.getElem?_setTransform, Option.map_map]
  congr 1
  funext l
  dsimp
  split <;> split <;> rfl

theorem Shows.inSync {v₀ v : View η} (h : Shows v₀ v) (hlayered : Layered v₀) : InSync v₀ v where
  layers := h.layers
  transform := by
    rw [h.layers, h.scene, getElem?_applyTransform, List.getElem?_eq_getElem hlayered.zoom_lt]
    simp
  stroke := by
    unfold Scene.style?
    rw [h.layers, h.scene, getElem?_applyTransform, List.getElem?_eq_getElem hlayered.map_lt]
    simp [View.stroke]
  tree := by
    apply List.ext_getElem?
    intro i
    rw [h.scene, List.getElem?_map, getElem?_applyTransform, List.getElem?_map, Option.map_map]
    rfl
  other_transforms := by
    intro layer hne
    rw [h.layers] at hne
    rw [h.scene, getElem?_applyTransform]
    cases v₀.scene.layers[layer]? with
    | none => rfl
    | some l => simp [Ne.symm hne]
  other_styles := by
    intro layer property hne
    rw [h.layers] at hne
    unfold Scene.style?
    rw [h.scene, getElem?_applyTransform]
    cases v₀.scene.layers[layer]? with
    | none => rfl
    | some l =>
      by_cases hlayer : v₀.layers.map = layer
      . have hproperty : property ≠ "stroke-width" := fun heq => hne ⟨hlayer.symm, heq⟩
        simp [hlayer, Keyed.get?_insert_of_ne hproperty]
      . simp [hlayer]
  loads := by
    rw [h.scene]
    exact ⟨rfl, rfl⟩

theorem scene_step_of_dropped {v : View η} (h : v.dropped = true) (op : Op η)
    : (v.step op).1.dropped = true ∧ (v.step op).1.scene = v.scene := by
  have hgone (result : View η × List (Effect η))
      : (v.owned result).1.dropped = true ∧ (v.owned result).1.scene = v.scene := by
    rw [owned_of_dropped h]
    exact ⟨h, rfl⟩
  cases op with
  | press key =>
    show (v.press key).2.1.dropped = true ∧ (v.press key).2.1.scene = v.scene
    unfold View.press
    cases v.keymap.press key with
    | none => exact ⟨h, rfl⟩
    | some action => cases action <;> simp [h]
  | send link event => exact ⟨h, rfl⟩
  | onHost change => exact ⟨h, rfl⟩
  | _ => exact hgone _

theorem scene_run_of_dropped {v : View η} (h : v.dropped = true) (ops : List (Op η))
    : (v.run ops).1.scene = v.scene := by
  induction ops generalizing v with
  | nil => rfl
  | cons op ops ih =>
    obtain ⟨hdropped, hscene⟩ := scene_step_of_dropped h op
    show ((v.step op).1.run ops).1.scene = v.scene
    rw [ih hdropped, hscene]

/-- Whatever is done with a view, its scene shows the transform of its controller and is the same in
all other respects. When the view is gone, the scene stays as it is. -/
theorem inSync_run (settings : Settings) (host : PanelHost) (ops : List (Op η))
    : InSync (activate settings host : View η × List (Effect η)).1
          ((activate settings host).1.run ops).1
        ∧ ∀ rest : List (Op η), ((activate settings host).1.run (ops ++ .drop :: rest)).1.scene
          = ((activate settings host).1.run (ops ++ [.drop])).1.scene := by
  constructor
  . apply Shows.inSync
    . apply (shows_activate settings host).run
    . apply layered_activate
  . intro rest
    rw [run_append, run_append]
    exact scene_run_of_dropped (dropped_step_drop _) rest

end LiveTopology.View
