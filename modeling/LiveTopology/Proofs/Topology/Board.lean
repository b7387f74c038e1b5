import LiveTopology.Proofs.Feed.Routes
import LiveTopology.Proofs.Topology.Model
import LiveTopology.Topology.Board

/-!
This module contains what the table of a board says about each kind of event, and what a frame does
to the topology that the board shows.
-/

namespace LiveTopology

def EventKind.reaction? : EventKind → Option Reaction
  | .snapshot => some .loadSnapshot
  | .batch => some .applyBatch
  | .showSummary => some .showSummary
  | .hideSummary => some .hideSummary
  | .element change kind => some (.change change kind)
  | .other _ => none

namespace Board

theorem handler?_routes (kind : EventKind) : routes.handler? kind = kind.reaction? := by
  unfold routes
  rw [Routes.handler?_ofList]
  cases kind with
  | other tag =>
    have hknown : ∀ entry ∈ reactions, entry.1.isKnown = true := by decide
    rw [List.findRev?_eq_find?_reverse, List.find?_eq_none.2]
    . rfl
    . intro entry hentry heq
      have := hknown entry (List.mem_reverse.1 hentry)
      rw [of_decide_eq_true heq] at this
      contradiction
  | element change kind => cases change <;> cases kind <;> rfl
  | _ => rfl

theorem ordered_react {b : Board} (hb : b.model.Ordered) (reaction : Reaction) (payload : Json)
    : (b.react reaction payload).1.model.Ordered := by
  cases reaction with
  | loadSnapshot => apply Model.ordered_loadSnapshot
  | applyBatch => apply hb.applyBatch
  | showSummary => apply hb.setSummary
  | hideSummary => exact hb
  | change change kind =>
    cases change with
    | add => apply hb.upsert
    | update => apply hb.update
    | remove => apply hb.remove

end Board

namespace Desk

theorem receive_eq (d : Desk) (frame : Frame)
    : d.receive frame
        =
      match d.dispatcher.handler? frame with
      | some reaction =>
        (true, ⟨d.dispatcher.count frame, (d.board.react reaction frame.payload).1⟩,
          (d.board.react reaction frame.payload).2)
      | none => (false, ⟨d.dispatcher.count frame, d.board⟩, (d.dispatcher.notice frame).log) := by
  unfold receive Dispatcher.dispatch Dispatcher.notice
  cases d.dispatcher.handler? frame <;> rfl

theorem fst_receive (d : Desk) (frame : Frame)
    : (d.receive frame).1 = (d.dispatcher.handler? frame).isSome := by
  rw [receive_eq]
  cases d.dispatcher.handler? frame <;> rfl

theorem dispatcher_receive (d : Desk) (frame : Frame)
    : (d.receive frame).2.1.dispatcher = d.dispatcher.count frame := by
  rw [receive_eq]
  cases d.dispatcher.handler? frame <;> rfl

theorem routes_receive (d : Desk) (frame : Frame)
    : (d.receive frame).2.1.dispatcher.routes = d.dispatcher.routes := by
  rw [dispatcher_receive, Dispatcher.routes_count]

theorem board_receive (d : Desk) (frame : Frame)
    : (d.receive frame).2.1.board
        =
      match d.dispatcher.handler? frame with
      | some reaction => (d.board.react reaction frame.payload).1
      | none => d.board := by
  rw [receive_eq]
  cases d.dispatcher.handler? frame <;> rfl

theorem ordered_receiveAll {d : Desk} (hd : d.board.model.Ordered) (frames : List Frame)
    : (d.receiveAll frames).board.model.Ordered := by
  unfold receiveAll
  induction frames generalizing d with
  | nil => exact hd
  | cons frame frames ih =>
    apply ih
    rw [board_receive]
    split
    . apply Board.ordered_react hd
    . exact hd

end Desk

end LiveTopology
