import LiveTopology.Proofs.Topology.Summary

/-!
This module contains when a summary that is to be shown is shown: always, except that a panel which
was taken away by others while it was owned is not put up again.
-/

namespace LiveTopology

namespace PanelHost

/-- A panel comes and goes with its creation and its destruction, and with nothing else. -/
theorem has_step_of_ne (h : PanelHost) {name : String} {op : Op} (hcreate : op ≠ .create name)
    (hdestroy : op ≠ .destroy name)
    : (h.step op).has name = h.has name := by
  cases op with
  | create other =>
    have hother : name ≠ (Op.create other).name := fun heq => hcreate (heq ▸ rfl)
    rw [has_eq, panel?_step_of_ne h name hother, has_eq]
  | destroy other =>
    have hother : name ≠ (Op.destroy other).name := fun heq => hdestroy (heq ▸ rfl)
    rw [has_eq, panel?_step_of_ne h name hother, has_eq]
  | setContent other content =>
    show (h.setContent other content).has name = _
    rw [has_eq, panel?_setContent, Option.isSome_map, has_eq]
  | reveal other =>
    show (h.reveal other).1.has name = _
    rw [has_eq, panel?_reveal, Option.isSome_map, has_eq]
  | hide other =>
    show (h.hide other).has name = _
    rw [has_eq, panel?_hide, Option.isSome_map, has_eq]

end PanelHost

namespace Board

variable {b : Board}

theorem has_showSummary (b : Board) (payload : Json)
    : (b.showSummary payload).1.panels.host.has summaryPanel
        =
      (b.panels.host.has summaryPanel || !b.panels.owns summaryPanel) := by
  rw [panels_showSummary]
  simp only [PanelHost.has_eq, PanelHost.panel?_reveal, PanelHost.panel?_setContent,
    Panels.panel?_ensure, Option.isSome_map]
  cases b.panels.owns summaryPanel <;> simp

theorem panel?_showSummary (payload : Json)
    (h : (b.showSummary payload).1.panels.host.has summaryPanel = true)
    : (b.showSummary payload).1.panels.host.panel? summaryPanel = some ⟨true, payload⟩ := by
  rw [panels_showSummary] at h ⊢
  simp only [PanelHost.has_eq, PanelHost.panel?_reveal, PanelHost.panel?_setContent,
    Option.isSome_map] at h ⊢
  obtain ⟨panel, hpanel⟩ := Option.isSome_iff_exists.1 h
  rw [hpanel]
  rfl

theorem has_hideSummary (b : Board)
    : b.hideSummary.panels.host.has summaryPanel = b.panels.host.has summaryPanel := by
  unfold hideSummary Panels.act
  split
  . simp only [PanelHost.has_eq, PanelHost.panel?_hide, Option.isSome_map]
  . rfl

/-- Only a summary that is shown can have its panel created, and none can have it destroyed. -/
theorem kept_react_of_ne {reaction : Reaction} (h : reaction ≠ .showSummary) (b : Board)
    (payload : Json)
    : (b.react reaction payload).1.panels.owns summaryPanel = b.panels.owns summaryPanel
        ∧ (b.react reaction payload).1.panels.host.has summaryPanel
          = b.panels.host.has summaryPanel := by
  by_cases hhide : reaction = .hideSummary
  . subst hhide
    exact ⟨b.owns_hideSummary, b.has_hideSummary⟩
  . rw [(b.react_of_ne payload h hhide).1]
    exact ⟨rfl, rfl⟩

end Board

namespace Desk

theorem board_receive_shows {d : Desk} (hroutes : d.dispatcher.routes = Board.routes)
    {frame : Frame} (hframe : frame.event = "showSummary")
    : (d.receive frame).1 = true
        ∧ (d.receive frame).2.1.board = (d.board.showSummary frame.payload).1 := by
  have hhandler : d.dispatcher.handler? frame = some .showSummary := by
    rw [Dispatcher.handler?, hroutes, Board.handler?_routes,
      (EventKind.eq_tag_iff .showSummary rfl frame.event).1 hframe]
    rfl
  rw [receive_eq, hhandler]
  exact ⟨rfl, rfl⟩

theorem kept_receive {d : Desk} (hroutes : d.dispatcher.routes = Board.routes) {frame : Frame}
    (hframe : frame.event ≠ "showSummary")
    : (d.receive frame).2.1.board.panels.owns summaryPanel = d.board.panels.owns summaryPanel
        ∧ (d.receive frame).2.1.board.panels.host.has summaryPanel
          = d.board.panels.host.has summaryPanel := by
  rw [board_receive, Dispatcher.handler?, hroutes, Board.handler?_routes]
  split
  . next reaction hreaction =>
    apply Board.kept_react_of_ne
    rintro rfl
    apply hframe
    apply (EventKind.eq_tag_iff .showSummary rfl frame.event).2
    apply EventKind.reaction?_injective hreaction rfl
  . exact ⟨rfl, rfl⟩

/-- A summary was to be shown, and its panel was not released since. -/
def Owned (ops : List Op) : Prop :=
  Since (fun _ op => op.shows = true) (fun op => op = .release) ops

/-- The panel for the summary was taken away by others while it was owned. It was not released since,
and nobody has put a panel in its place. -/
def Lost (ops : List Op) : Prop :=
  Since (fun before op => Owned before ∧ op = .onHost (.destroy summaryPanel))
    (fun op => op = .release ∨ op = .onHost (.create summaryPanel)) ops

theorem owned_concat (ops : List Op) (op : Op)
    : Owned (ops ++ [op]) ↔ op.shows = true ∨ op ≠ .release ∧ Owned ops :=
  since_concat ops op

theorem lost_concat (ops : List Op) (op : Op)
    : Lost (ops ++ [op])
        ↔ Owned ops ∧ op = .onHost (.destroy summaryPanel)
          ∨ ¬ (op = .release ∨ op = .onHost (.create summaryPanel)) ∧ Lost ops :=
  since_concat ops op

/-- What was done tells what is owned, and whether it is there. -/
structure Held (ops : List Op) (d : Desk) : Prop where
  owned : d.board.panels.owns summaryPanel = true ↔ Owned ops
  lost : d.board.panels.owns summaryPanel = true ∧ d.board.panels.host.has summaryPanel = false
    ↔ Lost ops

section Held

variable {ops : List Op} {d : Desk} (h : Held ops d)
include h

theorem Held.shows (hroutes : d.dispatcher.routes = Board.routes) {frame : Frame}
    (hframe : frame.event = "showSummary")
    : Held (ops ++ [.receive frame]) (d.step (.receive frame)) := by
  have hboard : (d.step (.receive frame)).board = (d.board.showSummary frame.payload).1 :=
    (board_receive_shows hroutes hframe).2
  have hshows : (Op.receive frame).shows = true := by simp [Op.shows, Op.shown?, hframe]
  constructor
  . rw [hboard, Board.owns_showSummary, owned_concat]
    simp [hshows]
  . -- What was owned and not there before is so still, and what was not owned is created.
    rw [hboard, Board.owns_showSummary, Board.has_showSummary, lost_concat, ← h.lost]
    simp [and_comm]

theorem Held.receive (hroutes : d.dispatcher.routes = Board.routes) (frame : Frame)
    : Held (ops ++ [.receive frame]) (d.step (.receive frame)) := by
  by_cases hframe : frame.event = "showSummary"
  . exact h.shows hroutes hframe
  . obtain ⟨howns, hhas⟩ := kept_receive hroutes hframe
    have hnot : (Op.receive frame).shows = false := by simp [Op.shows, Op.shown?, hframe]
    constructor
    . show (d.receive frame).2.1.board.panels.owns summaryPanel = true ↔ _
      rw [howns, owned_concat, h.owned]
      simp [hnot]
    . show (d.receive frame).2.1.board.panels.owns summaryPanel = true
        ∧ (d.receive frame).2.1.board.panels.host.has summaryPanel = false ↔ _
      rw [howns, hhas, lost_concat, h.lost]
      simp

theorem Held.onHost (op : PanelHost.Op) : Held (ops ++ [.onHost op]) (d.step (.onHost op)) := by
  have howns : (d.step (.onHost op)).board.panels.owns summaryPanel
      = d.board.panels.owns summaryPanel := rfl
  have hhost : (d.step (.onHost op)).board.panels.host = d.board.panels.host.step op := rfl
  constructor
  . rw [howns, owned_concat, h.owned]
    simp [Op.shows, Op.shown?]
  . rw [howns, hhost, lost_concat]
    by_cases hcreate : op = .create summaryPanel
    . subst hcreate
      have hhas : (d.board.panels.host.step (.create summaryPanel)).has summaryPanel = true :=
        congrArg Option.isSome ((PanelHost.panel?_create _ _ _).trans (if_pos rfl))
      simp [hhas]
    . by_cases hdestroy : op = .destroy summaryPanel
      . subst hdestroy
        have hhas : (d.board.panels.host.step (.destroy summaryPanel)).has summaryPanel = false :=
          congrArg Option.isSome ((PanelHost.panel?_destroy _ _ _).trans (if_pos rfl))
        simp only [hhas, ← h.lost, ← h.owned, and_true, Op.onHost.injEq, reduceCtorEq, or_self,
          not_false_eq_true, true_and]
        exact ⟨.inl, fun hlost => hlost.elim id And.left⟩
      . rw [PanelHost.has_step_of_ne _ hcreate hdestroy, h.lost]
        simp [hcreate, hdestroy]

end Held

end Desk

end LiveTopology
