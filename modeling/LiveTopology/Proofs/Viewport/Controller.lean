import LiveTopology.Proofs.Since
import LiveTopology.Proofs.Viewport.Extent
import LiveTopology.Viewport.Controller

/-!
This module contains what holds of the transform of a view whatever gestures are made: it can always
be drawn, and its scale is within the bounds as soon as there was a zoom.
-/

namespace LiveTopology

namespace Controller

section

variable {α σ : Type} [Coordinate α]

/-- What is done with a controller, with a state of its owner beside it. -/
inductive Op (α : Type) where
  | gesture (g : Gesture α)
  | reset
  deriving DecidableEq, Repr

def step (p : Controller α σ × σ) : Op α → Controller α σ × σ
  | .gesture g => (p.1.gesture g p.2).2
  | .reset => p.1.reset p.2

def run (p : Controller α σ × σ) (ops : List (Op α)) : Controller α σ × σ :=
  ops.foldl step p

theorem run_concat (p : Controller α σ × σ) (ops : List (Op α)) (op : Op α)
    : run p (ops ++ [op]) = step (run p ops) op := by
  unfold run
  rw [List.foldl_append]
  rfl

/-- Whether a zoom comes into force after all that was done before. -/
def Zooms (p : Controller α σ × σ) (before : List (Op α)) (op : Op α) : Prop :=
  ∃ factor anchor modifiers, op = .gesture (.zoom factor anchor modifiers)
    ∧ ((run p before).1.gesture (.zoom factor anchor modifiers) (run p before).2).1 = true

/-- Whether there was a zoom at all since the view was last where it was at first. -/
def Zoomed (p : Controller α σ × σ) (ops : List (Op α)) : Prop :=
  Since (Zooms p) (fun op => op = .reset) ops

theorem of_target? {c : Controller α σ} {g : Gesture α} {t : Transform α}
    (h : c.target? g = some t)
    : t = c.transform.compose c.extent g.motion ∧ t.isFinite = true := by
  unfold target? at h
  dsimp only at h
  split at h
  . next hfinite =>
    obtain rfl := Option.some.inj h
    rw [Bool.and_eq_true] at hfinite
    exact ⟨rfl, hfinite.2⟩
  . contradiction

theorem gesture_of_none {c : Controller α σ} {g : Gesture α} (h : c.target? g = none) (s : σ)
    : c.gesture g s = (false, c, s) := by
  unfold gesture
  rw [h]

theorem gesture_of_some {c : Controller α σ} {g : Gesture α} {t : Transform α}
    (h : c.target? g = some t) (s : σ)
    : c.gesture g s = (true, c.commit t s) := by
  unfold gesture
  rw [h]

theorem zooms_gesture_iff (p : Controller α σ × σ) (before : List (Op α)) (g : Gesture α)
    : Zooms p before (.gesture g)
        ↔ (∃ factor anchor, g.motion = .zoom factor anchor)
          ∧ ∃ t, (run p before).1.target? g = some t := by
  constructor
  . rintro ⟨factor, anchor, modifiers, heq, hzooms⟩
    rw [← Op.gesture.inj heq] at hzooms
    refine ⟨⟨factor, anchor, congrArg Gesture.motion (Op.gesture.inj heq)⟩, ?_⟩
    cases htarget : (run p before).1.target? g with
    | none =>
      rw [gesture_of_none htarget] at hzooms
      contradiction
    | some t => exact ⟨t, rfl⟩
  . rintro ⟨⟨factor, anchor, hmotion⟩, t, htarget⟩
    obtain ⟨motion, modifiers⟩ := g
    obtain rfl : motion = .zoom factor anchor := hmotion
    refine ⟨factor, anchor, modifiers, rfl, ?_⟩
    show ((run p before).1.gesture ⟨.zoom factor anchor, modifiers⟩ _).1 = true
    rw [gesture_of_some htarget]

theorem zoomed_concat (p : Controller α σ × σ) (ops : List (Op α)) (op : Op α)
    : Zoomed p (ops ++ [op]) ↔ Zooms p ops op ∨ op ≠ .reset ∧ Zoomed p ops :=
  since_concat ops op

theorem extent_step (p : Controller α σ × σ) (op : Op α)
    : (step p op).1.extent = p.1.extent := by
  cases op with
  | reset => rfl
  | gesture g =>
    show (p.1.gesture g p.2).2.1.extent = _
    cases h : p.1.target? g with
    | none => rw [gesture_of_none h]
    | some t =>
      rw [gesture_of_some h]
      rfl

theorem extent_run (p : Controller α σ × σ) (ops : List (Op α))
    : (run p ops).1.extent = p.1.extent := by
  induction ops using List.reverseRecOn with
  | nil => rfl
  | append_singleton ops op ih => rw [run_concat, extent_step, ih]

theorem scale_pan (c : Controller α σ) (dx dy : α) (modifiers : Modifiers) (s : σ)
    : (c.gesture (.pan dx dy modifiers) s).2.1.transform.scale = c.transform.scale := by
  cases h : c.target? (.pan dx dy modifiers) with
  | none => rw [gesture_of_none h]
  | some t =>
    rw [gesture_of_some h]
    show t.scale = _
    rw [(of_target? h).1]
    rfl

end

/-- What holds of a transform that was made from the identity, and by a zoom if there was any. -/
structure Valid (e : Extent Float) (zoomed : Prop) (t : Transform Float) : Prop where
  finite : t.translateX.isFinite = true ∧ t.translateY.isFinite = true ∧ t.scale.isFinite = true
  pos : 0.0 < t.scale
  bounded : zoomed → e.min ≤ t.scale ∧ t.scale ≤ e.max
  unzoomed : ¬ zoomed → t.scale = 1.0

theorem finite_of_isFinite {t : Transform Float} (h : t.isFinite = true)
    : t.translateX.isFinite = true ∧ t.translateY.isFinite = true ∧ t.scale.isFinite = true := by
  unfold Transform.isFinite at h
  rw [Bool.and_eq_true, Bool.and_eq_true] at h
  exact ⟨h.1.1, h.1.2, h.2⟩

theorem valid_identity {e : Extent Float} {zoomed : Prop} (h : ¬ zoomed)
    : Valid e zoomed .identity where
  finite := by decide +kernel
  pos := by decide +kernel
  bounded := fun hzoomed => absurd hzoomed h
  unzoomed := fun _ => rfl

section

variable {e : Extent Float} {zoomed zoomed' : Prop} {t t' : Transform Float}

theorem Valid.congr (h : Valid e zoomed t) (hzoomed : zoomed' ↔ zoomed) : Valid e zoomed' t where
  finite := h.finite
  pos := h.pos
  bounded := fun hzoomed' => h.bounded (hzoomed.1 hzoomed')
  unzoomed := fun hnot => h.unzoomed fun hzoomed' => hnot (hzoomed.2 hzoomed')

theorem Valid.shifted (h : Valid e zoomed t) (hfinite : t'.isFinite = true)
    (hscale : t'.scale = t.scale)
    : Valid e zoomed t' where
  finite := finite_of_isFinite hfinite
  pos := hscale ▸ h.pos
  bounded := hscale ▸ h.bounded
  unzoomed := hscale ▸ h.unzoomed

theorem valid_clamped (he : e.WellFormed) (hzoomed : zoomed) (hfinite : t.isFinite = true)
    {scale : Float} (hscale : t.scale = e.clamp scale)
    : Valid e zoomed t where
  finite := finite_of_isFinite hfinite
  pos := by
    rw [hscale]
    exact Float.lt_of_lt_of_le he.min_pos (he.min_le_clamp scale)
  bounded := by
    rw [hscale]
    exact fun _ => ⟨he.min_le_clamp scale, he.clamp_le_max scale⟩
  unzoomed := fun hnot => absurd hzoomed hnot

end

theorem valid_step {σ : Type} (p : Controller Float σ × σ) (hextent : p.1.extent.WellFormed)
    {ops : List (Op Float)} (h : Valid p.1.extent (Zoomed p ops) (run p ops).1.transform)
    (op : Op Float)
    : Valid p.1.extent (Zoomed p (ops ++ [op])) (run p (ops ++ [op])).1.transform := by
  rw [run_concat]
  cases op with
  | reset =>
    apply valid_identity
    rw [zoomed_concat]
    simp [Zooms]
  | gesture g =>
    have hzoomed := zoomed_concat p ops (.gesture g)
    rw [zooms_gesture_iff] at hzoomed
    show Valid _ _ ((run p ops).1.gesture g (run p ops).2).2.1.transform
    cases htarget : (run p ops).1.target? g with
    | none =>
      rw [gesture_of_none htarget]
      apply h.congr
      simp [hzoomed, htarget]
    | some t =>
      obtain ⟨hcompose, hfinite⟩ := of_target? htarget
      rw [extent_run] at hcompose
      rw [gesture_of_some htarget]
      show Valid _ _ t
      cases hmotion : g.motion with
      | pan dx dy =>
        have hscale : t.scale = (run p ops).1.transform.scale := by
          rw [hcompose, hmotion]
          rfl
        apply (h.shifted hfinite hscale).congr
        simp [hzoomed, hmotion]
      | zoom factor anchor =>
        have hscale : t.scale = p.1.extent.clamp ((run p ops).1.transform.scale * factor) := by
          rw [hcompose, hmotion]
          rfl
        apply valid_clamped hextent _ hfinite hscale
        exact hzoomed.2 (.inl ⟨⟨factor, anchor, hmotion⟩, t, htarget⟩)

/-- Whatever is done with a new controller, its transform can be drawn. The scale is within the
bounds after a zoom, and otherwise it is one, even if the bounds exclude that. -/
theorem valid_run {σ : Type} (min max : Float) (enabled : Gesture Float → Bool)
    (onChange : Transform Float → σ → σ) (s : σ) (ops : List (Op Float))
    : let p := (start (.of min max) enabled onChange, s)
      Valid (.of min max) (Zoomed p ops) (run p ops).1.transform
        ∧ ∀ dx dy modifiers,
          ((run p ops).1.gesture (.pan dx dy modifiers) (run p ops).2).2.1.transform.scale
            = (run p ops).1.transform.scale := by
  intro p
  constructor
  . induction ops using List.reverseRecOn with
    | nil =>
      apply valid_identity
      exact not_since_nil
    | append_singleton ops op ih =>
      apply valid_step p _ ih
      apply Extent.wellFormed_of
  . intro dx dy modifiers
    apply scale_pan

end Controller

end LiveTopology
