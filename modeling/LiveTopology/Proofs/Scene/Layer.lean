import LiveTopology.Scene.Layer

/-!
This module contains what a change of a style or of a transform does to the layers of a scene.
-/

namespace LiveTopology

namespace Keyed

variable {α : Type}

theorem insert_insert (key : String) (value value' : α) (m : List (String × α))
    : insert key value' (insert key value m) = insert key value' m := by
  induction m with
  | nil => rw [insert, insert, insert, if_neg (String.lt_irrefl key), if_pos rfl]
  | cons kv m ih => grind [insert, String.lt_irrefl]

end Keyed

namespace Scene

theorem getElem?_setTransform (s : Scene) (layer : Nat) (t : Transform Float) (i : Nat)
    : (s.setTransform layer t).layers[i]?
        =
      s.layers[i]?.map fun l => if layer = i then { l with transform := some t } else l := by
  unfold setTransform
  rw [List.getElem?_modify]
  split <;> rfl

theorem getElem?_setStyle (s : Scene) (layer : Nat) (property value : String) (i : Nat)
    : (s.setStyle layer property value).layers[i]?
        =
      s.layers[i]?.map fun l =>
        if layer = i then { l with styles := Keyed.insert property value l.styles } else l := by
  unfold setStyle
  rw [List.getElem?_modify]
  split <;> rfl

theorem setTransform_setTransform (s : Scene) (layer : Nat) (t t' : Transform Float)
    : (s.setTransform layer t).setTransform layer t' = s.setTransform layer t' := by
  unfold setTransform
  rw [List.modify_modify_eq]
  rfl

theorem setStyle_setStyle (s : Scene) (layer : Nat) (property value value' : String)
    : (s.setStyle layer property value).setStyle layer property value'
        =
      s.setStyle layer property value' := by
  unfold setStyle
  rw [List.modify_modify_eq]
  simp only [Function.comp_def, Keyed.insert_insert]

theorem setTransform_setStyle (s : Scene) (layer layer' : Nat) (t : Transform Float)
    (property value : String)
    : (s.setStyle layer' property value).setTransform layer t
        =
      (s.setTransform layer t).setStyle layer' property value := by
  unfold setTransform setStyle
  simp only [Scene.mk.injEq, and_self, and_true]
  apply List.ext_getElem?
  intro i
  simp only [List.getElem?_modify]
  split <;> split <;> simp [Option.map_map, Function.comp_def]

end Scene

end LiveTopology
