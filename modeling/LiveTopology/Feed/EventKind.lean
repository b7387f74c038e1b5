import LiveTopology.Text.Quoted
import LiveTopology.Topology.Element

/-!
This module contains the kinds of events, each of which has a tag of its own on the wire.
-/

namespace LiveTopology

inductive EventKind where
  | snapshot
  | batch
  | showSummary
  | hideSummary
  | element (change : Change) (kind : ElementKind)
  | other (tag : String)
  deriving DecidableEq, Repr

namespace EventKind

def tag : EventKind → String
  | .snapshot => "topo.snapshot"
  | .batch => "topo.update"
  | .showSummary => "showSummary"
  | .hideSummary => "hideSummary"
  | .element change kind => change.word ++ kind.word
  | .other tag => tag

/-- The kinds with a tag that is reserved for them. -/
def known : List EventKind :=
  [.snapshot, .batch, .showSummary, .hideSummary]
    ++ ElementKind.all.flatMap fun kind => Change.all.map fun change => .element change kind

def ofTag (tag : String) : EventKind :=
  (known.find? fun kind => kind.tag = tag).getD (.other tag)

def isKnown : EventKind → Bool
  | .other _ => false
  | _ => true

def text : EventKind → String
  | .snapshot => "TopoSnapshot"
  | .batch => "TopoUpdate"
  | .showSummary => "ShowSummary"
  | .hideSummary => "HideSummary"
  | .element change kind => change.title ++ kind.word
  | .other tag => "Other(" ++ Text.quote tag ++ ")"

@[simp]
theorem tag_ofTag (t : String) : (ofTag t).tag = t := by
  unfold ofTag
  cases h : known.find? fun kind => kind.tag = t with
  | none => simp [tag]
  | some kind => simpa using List.find?_some h

theorem ofTag_injective {s t : String} (h : ofTag s = ofTag t) : s = t := by
  rw [← tag_ofTag s, h, tag_ofTag]

end EventKind

end LiveTopology
