import LiveTopology.Proofs.Keyed
import LiveTopology.Scene.Panels

/-!
This module contains what is found under a name on a host of panels after each change of the host,
whether somebody makes it directly or through the panels that are owned.
-/

namespace LiveTopology

namespace PanelHost

/-- What anybody can do with a host. -/
inductive Op where
  | create (name : String)
  | setContent (name : String) (content : Json)
  | reveal (name : String)
  | hide (name : String)
  | destroy (name : String)
  deriving DecidableEq, Repr

def Op.name : Op → String
  | .create name | .setContent name _ | .reveal name | .hide name | .destroy name => name

def Op.isCreation : Op → Bool
  | .create _ => true
  | _ => false

def step (h : PanelHost) : Op → PanelHost
  | .create name => h.create name
  | .setContent name content => h.setContent name content
  | .reveal name => (h.reveal name).1
  | .hide name => h.hide name
  | .destroy name => h.destroy name

variable (h : PanelHost) (name other : String)

theorem has_eq : h.has name = (h.panel? name).isSome :=
  rfl

theorem panel?_create
    : (h.create name).panel? other
        =
      if other = name then some ⟨false, .null⟩ else h.panel? other := by
  unfold panel? create
  split
  . next heq => rw [heq, Keyed.get?_insert_self]
  . next hne => rw [Keyed.get?_insert_of_ne hne]

theorem panel?_setContent (content : Json)
    : (h.setContent name content).panel? other
        =
      (h.panel? other).map fun p => if other = name then { p with content } else p := by
  unfold panel? setContent
  rw [Keyed.get?_modify]

theorem panel?_reveal
    : (h.reveal name).1.panel? other
        =
      (h.panel? other).map fun p => if other = name then { p with visible := true } else p := by
  unfold panel? reveal
  rw [Keyed.get?_modify]

theorem panel?_hide
    : (h.hide name).panel? other
        =
      (h.panel? other).map fun p => if other = name then { p with visible := false } else p := by
  unfold panel? hide
  rw [Keyed.get?_modify]

theorem panel?_destroy
    : (h.destroy name).panel? other = if other = name then none else h.panel? other := by
  unfold panel? destroy
  split
  . next heq => rw [heq, Keyed.get?_erase_self]
  . next hne => rw [Keyed.get?_erase_of_ne hne]

/-- What is done with one panel leaves the others as they are. -/
theorem panel?_step_of_ne {op : Op} (hother : other ≠ op.name)
    : (h.step op).panel? other = h.panel? other := by
  cases op with
  | create name => exact (h.panel?_create name other).trans (if_neg hother)
  | destroy name => exact (h.panel?_destroy name other).trans (if_neg hother)
  | setContent name content =>
    have hother : other ≠ name := hother
    refine (h.panel?_setContent name other content).trans ?_
    simp [hother]
  | reveal name =>
    have hother : other ≠ name := hother
    refine (h.panel?_reveal name other).trans ?_
    simp [hother]
  | hide name =>
    have hother : other ≠ name := hother
    refine (h.panel?_hide name other).trans ?_
    simp [hother]

theorem created_step (op : Op) : (h.step op).created = h.created + op.isCreation.toNat := by
  cases op <;> rfl

theorem panel?_foldl_destroy (names : List String)
    : (names.foldl destroy h).panel? name = if name ∈ names then none else h.panel? name := by
  induction names generalizing h with
  | nil => rfl
  | cons first names ih =>
    rw [List.foldl_cons, ih, panel?_destroy]
    by_cases hfirst : name = first
    . simp [hfirst]
    . simp [hfirst]

theorem created_foldl_destroy (names : List String)
    : (names.foldl destroy h).created = h.created := by
  induction names generalizing h with
  | nil => rfl
  | cons first names ih => exact ih (h.destroy first)

end PanelHost

namespace Panels

variable (p : Panels) (name : String)

theorem panel?_release
    : p.release.2.host.panel? name = if p.owns name then none else p.host.panel? name := by
  refine (p.host.panel?_foldl_destroy name p.owned).trans ?_
  simp [owns]

theorem has_release {p : Panels} {name : String} (h : name ∈ p.owned)
    : p.release.2.host.has name = false := by
  have howns : p.owns name = true := by simpa [owns] using h
  rw [PanelHost.has_eq, panel?_release, if_pos howns]
  rfl

theorem owns_ensure : (p.ensure name).2.owns name = true := by
  unfold ensure
  split
  . assumption
  . simp [owns]

theorem panel?_ensure
    : (p.ensure name).2.host.panel? name
        =
      if p.owns name then p.host.panel? name else some ⟨false, .null⟩ := by
  unfold ensure
  split
  . rfl
  . exact (p.host.panel?_create name name).trans (if_pos rfl)

theorem created_ensure
    : (p.ensure name).2.host.created = p.host.created + (!p.owns name).toNat := by
  unfold ensure
  split
  . next howns =>
    rw [howns]
    rfl
  . next howns =>
    rw [Bool.not_eq_true] at howns
    rw [howns]
    rfl

/-- What is done with a panel that is owned is done on the host. -/
theorem act_of_owns {p : Panels} {name : String} (h : p.owns name = true)
    (f : PanelHost → PanelHost × List Log.Record)
    : (p.act name f).2.1 = { p with host := (f p.host).1 } := by
  unfold act
  rw [if_pos h]

theorem act_of_not_owns {p : Panels} {name : String} (h : p.owns name = false)
    (f : PanelHost → PanelHost × List Log.Record)
    : (p.act name f).2.1 = p := by
  unfold act
  rw [h]
  rfl

end Panels

end LiveTopology
