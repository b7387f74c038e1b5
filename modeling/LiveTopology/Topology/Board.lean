import LiveTopology.Feed.Notice
import LiveTopology.Scene.Panels
import LiveTopology.Topology.Model

/-!
This module contains what the events of the feed act on, the topology and the summary panel, and the
table that says which event does what.
-/

namespace LiveTopology

structure Board where
  model : Model
  panels : Panels
  deriving DecidableEq, Repr

inductive Reaction where
  | loadSnapshot
  | applyBatch
  | change (change : Change) (kind : ElementKind)
  | showSummary
  | hideSummary
  deriving DecidableEq, Repr

def summaryPanel : String := "topo-p-summary"

namespace Board

def on (host : PanelHost) : Board :=
  ⟨.empty, .on host⟩

def change (b : Board) (change : Change) (kind : ElementKind) (payload : Json) : Board :=
  { b with model :=
      match change with
      | .add => (b.model.upsert kind payload).2
      | .update => (b.model.update kind payload).2
      | .remove => (b.model.remove kind payload).2 }

def showSummary (b : Board) (payload : Json) : Board × List Log.Record :=
  let panels := (b.panels.ensure summaryPanel).2
  let (_, panels, log) := panels.act summaryPanel fun host =>
    (host.setContent summaryPanel payload).reveal summaryPanel
  (⟨b.model.setSummary payload, panels⟩, log)

/-- Hides the summary if its panel is owned. -/
def hideSummary (b : Board) : Board :=
  { b with panels := (b.panels.act summaryPanel fun host => (host.hide summaryPanel, [])).2.1 }

def react (b : Board) (reaction : Reaction) (payload : Json) : Board × List Log.Record :=
  match reaction with
  | .loadSnapshot => ({ b with model := (b.model.loadSnapshot payload).2 }, Model.batchLog payload)
  | .applyBatch => ({ b with model := (b.model.applyBatch payload).2 }, Model.batchLog payload)
  | .change change kind => (b.change change kind payload, Model.logOf kind payload)
  | .showSummary => b.showSummary payload
  | .hideSummary => (b.hideSummary, [])

/-- The reaction to each kind of event that has one. -/
def reactions : List (EventKind × Reaction) :=
  [(.snapshot, .loadSnapshot), (.batch, .applyBatch), (.showSummary, .showSummary),
    (.hideSummary, .hideSummary)]
    ++ ElementKind.all.flatMap fun kind =>
      Change.all.map fun change => (.element change kind, .change change kind)

def routes : Routes Reaction :=
  .ofList reactions

end Board

/-- A board with the table by which frames reach it. -/
structure Desk where
  dispatcher : Dispatcher Reaction
  board : Board
  deriving DecidableEq, Repr

namespace Desk

def on (host : PanelHost) : Desk :=
  ⟨.bind Board.routes, .on host⟩

/-- Lets a frame have its effect. Says whether it has any. -/
def receive (d : Desk) (frame : Frame) : Bool × Desk × List Log.Record :=
  let (handled, dispatcher, notice) := d.dispatcher.dispatch frame
  match notice with
  | .called reaction payload =>
    let (board, log) := d.board.react reaction payload
    (handled, ⟨dispatcher, board⟩, log)
  | notice => (handled, ⟨dispatcher, d.board⟩, notice.log)

def receiveAll (d : Desk) (frames : List Frame) : Desk :=
  frames.foldl (fun d frame => (d.receive frame).2.1) d

def release (d : Desk) : Nat × Desk :=
  let (n, panels) := d.board.panels.release
  (n, { d with board := { d.board with panels } })

def onHost (d : Desk) (f : PanelHost → PanelHost) : Desk :=
  { d with board := { d.board with panels := { d.board.panels with host := f d.board.panels.host } } }

end Desk

end LiveTopology
