import LiveTopology.Proofs.Topology.Summary
import LiveTopology.Proofs.View.Teardown

/-!
This module contains when the panel for the summary is left on a host by a view that is gone.
-/

namespace LiveTopology

theorem Board.Matched.release {b : Board} (h : b.Matched)
    : Board.Matched { b with panels := b.panels.release.2 } := by
  rw [Matched, PanelHost.has_eq, h.panel?_release]
  rfl

namespace View

variable {η : Type} {v : View η}

section Board

variable {P : Board → Prop}
  (hreact : ∀ b reaction payload, P b → P (b.react reaction payload).1)
include hreact

theorem board_absorbAll {b : Board} (h : P b) (notices : List (Notice (Handler η)))
    : P (absorbAll b notices).1 := by
  induction notices generalizing b with
  | nil => exact h
  | cons notice notices ih =>
    apply ih
    show P (absorb b notice).1
    unfold absorb
    split
    . apply hreact
      exact h
    . exact h
    . exact h

variable (hrelease : ∀ b : Board, P b → P { b with panels := b.panels.release.2 })
include hrelease

theorem board_teardown (h : P v.board) : P v.teardown.1.board := by
  unfold teardown
  split
  . exact h
  . apply hrelease
    apply board_absorbAll hreact h

/-- A board changes by reactions, by the release of its panels and by what others do on the host, and
by nothing else. -/
theorem board_step (h : P v.board) {op : Op η}
    (hhost : ∀ change, op = .onHost change → P (v.onHost change).board)
    : P (v.step op).1.board := by
  have howned {result : View η × List (Effect η)} (hresult : P result.1.board)
      : P (v.owned result).1.board :=
    owned_cases (P := fun result => P result.1.board) h hresult
  have habsorbed := board_absorbAll (η := η) hreact h
  cases op with
  | gesture g => exact howned h
  | resetZoom => exact howned h
  | recover =>
    apply howned
    unfold recover
    split
    . exact h
    . apply habsorbed
  | teardown =>
    apply howned
    apply board_teardown hreact hrelease h
  | drop =>
    apply howned
    apply board_absorbAll hreact
    apply board_teardown hreact hrelease h
  | bind routes =>
    apply howned
    apply habsorbed
  | openSock =>
    apply howned
    apply habsorbed
  | closeSock =>
    apply howned
    apply habsorbed
  | pump =>
    apply howned
    apply habsorbed
  | next =>
    apply howned
    apply habsorbed
  | press key =>
    show P (v.press key).2.1.board
    rw [(v.press_eq key).2.1]
    exact h
  | send link event => exact h
  | onHost change => exact hhost change rfl

end Board

/-- Whether somebody else puts the panel for the summary on the host or takes it away. -/
def Op.Meddles (op : Op η) : Prop :=
  ∃ change, op = .onHost change ∧ ∃ host, (change host).has summaryPanel ≠ host.has summaryPanel

theorem has_onHost {change : PanelHost → PanelHost} (h : ¬ Op.Meddles (.onHost change : Op η))
    (host : PanelHost)
    : (change host).has summaryPanel = host.has summaryPanel := by
  by_contra hne
  exact h ⟨change, rfl, host, hne⟩

theorem matched_step (h : v.board.Matched) {op : Op η} (hop : ¬ op.Meddles)
    : (v.step op).1.board.Matched := by
  apply board_step _ _ h
  . rintro change rfl
    exact (has_onHost hop _).trans h
  . intro b reaction payload hb
    apply hb.react
  . intro b hb
    exact hb.release

theorem matched_run (h : v.board.Matched) {ops : List (Op η)} (hops : ∀ op ∈ ops, ¬ op.Meddles)
    : (v.run ops).1.board.Matched := by
  induction ops generalizing v with
  | nil => exact h
  | cons op ops ih =>
    obtain ⟨hop, hrest⟩ := List.forall_mem_cons.1 hops
    apply ih
    . apply matched_step h hop
    . exact hrest

theorem dropped_step (hdropped : v.dropped = true) (op : Op η) : (v.step op).1.dropped = true := by
  by_cases hdrop : op = .drop
  . rw [hdrop]
    apply dropped_step_drop
  . rw [v.dropped_step_of_ne_drop hdrop, hdropped]

theorem has_step_of_dropped (hdropped : v.dropped = true) {op : Op η} (hop : ¬ op.Meddles)
    : (v.step op).1.board.panels.host.has summaryPanel
        =
      v.board.panels.host.has summaryPanel := by
  cases op with
  | press key =>
    show (v.press key).2.1.board.panels.host.has summaryPanel = _
    rw [(v.press_eq key).2.1]
  | send link event => rfl
  | onHost change => exact has_onHost hop _
  | _ => exact congrArg (·.1.board.panels.host.has summaryPanel) (owned_of_dropped hdropped _)

theorem has_run_of_dropped (hdropped : v.dropped = true) {ops : List (Op η)}
    (hops : ∀ op ∈ ops, ¬ op.Meddles)
    : (v.run ops).1.board.panels.host.has summaryPanel
        =
      v.board.panels.host.has summaryPanel := by
  induction ops generalizing v with
  | nil => rfl
  | cons op ops ih =>
    obtain ⟨hop, hrest⟩ := List.forall_mem_cons.1 hops
    rw [← has_step_of_dropped hdropped hop]
    apply ih
    . apply dropped_step hdropped
    . exact hrest

/-- To drop a view that is torn down gives up its feed, and nothing else. -/
theorem board_drop_of_tornDown (h : v.tornDown = true) : v.drop.1.board = v.board := by
  unfold drop Subscription.drop Subscription.closeSock
  rw [teardown_of_tornDown h]
  by_cases hphase : v.subscription.phase = .closed
  . simp only [if_pos hphase]
    rfl
  . simp only [if_neg hphase]
    rfl

theorem has_step_drop (hkept : v.Kept) (h : v.board.Matched)
    : (v.step .drop).1.board.panels.host.has summaryPanel = true
        ↔ v.tornDown = true ∧ v.board.panels.owns summaryPanel = true := by
  cases htornDown : v.tornDown with
  | true =>
    -- Neither a view that is gone nor one that is torn down takes a panel away.
    have hboard : (v.step .drop).1.board = v.board :=
      owned_cases (P := fun result => result.1.board = v.board) rfl
        (board_drop_of_tornDown htornDown)
    have hmatched : v.board.panels.host.has summaryPanel = v.board.panels.owns summaryPanel := h
    rw [hboard, hmatched]
    simp
  | false =>
    have hdropped := hkept.dropped_eq_false htornDown
    rw [(ended_step htornDown hdropped (.inr rfl)).2, PanelHost.has_eq, h.panel?_release]
    simp

/-- A panel for the summary outlives its view if it was created after the view was torn down, which
can only happen after the feed was opened again. -/
theorem outlived_run (settings : Settings) (host : PanelHost)
    (hhost : host.has summaryPanel = false) (before rest : List (Op η))
    (hbefore : ∀ op ∈ before, ¬ op.Meddles) (hrest : ∀ op ∈ rest, ¬ op.Meddles)
    : ((reached settings host (before ++ .drop :: rest)).board.panels.host.has summaryPanel = true
          ↔ (reached settings host before).tornDown = true
            ∧ (reached settings host before).board.panels.owns summaryPanel = true)
        ∧ (¬ Reopened before →
          (reached settings host (before ++ .drop :: rest)).board.panels.host.has summaryPanel
            = false) := by
  have hmatched : (reached settings host before).board.Matched := by
    apply matched_run _ hbefore
    exact hhost
  have hrun : (reached settings host (before ++ .drop :: rest))
      = (((reached settings host before).step .drop).1.run rest).1 := by
    unfold reached
    rw [run_append]
    rfl
  have hiff := has_step_drop (kept_reached settings host before) hmatched
  rw [hrun, has_run_of_dropped (dropped_step_drop _) hrest]
  refine ⟨hiff, fun hreopened => ?_⟩
  rw [Bool.eq_false_iff, ne_eq, hiff]
  rintro ⟨htornDown, howns⟩
  have howned := (settled_reached settings host hreopened htornDown).2
  rw [Panels.owns, howned] at howns
  contradiction

/-- A summary comes when the view is torn down already, and its feed is open again. -/
def shownLate : List (Op Unit) :=
  [.teardown, .openSock, .send 1 .connected, .send 1 (.frame ⟨"showSummary", none, .null⟩), .pump]

theorem outlived_run_shownLate
    : (∀ op ∈ shownLate, ¬ op.Meddles)
        ∧ (¬ Op.Meddles (.onHost (fun host => host.create "details") : Op Unit))
        ∧ (reached .default .empty
            (shownLate ++ .drop :: [.onHost fun host => host.create "details"])).board.panels.host.has
              summaryPanel = true := by
  have hbefore : ∀ op ∈ shownLate, ¬ op.Meddles := by simp [shownLate, Op.Meddles]
  have hother : ¬ Op.Meddles (.onHost (fun host => host.create "details") : Op Unit) := by
    rintro ⟨change, heq, host, hne⟩
    obtain rfl := Op.onHost.inj heq
    apply hne
    rw [PanelHost.has_eq, PanelHost.has_eq, PanelHost.panel?_create, if_neg (by decide)]
  have hrest : ∀ op ∈ [(.onHost fun host => host.create "details" : Op Unit)], ¬ op.Meddles := by
    simpa using hother
  refine ⟨hbefore, hother, (outlived_run .default .empty rfl shownLate _ hbefore hrest).1.2 ?_⟩
  decide +kernel

/-- The panel that is created late is left to the host. -/
theorem has_drop_shownLate
    : PanelHost.empty.has summaryPanel = false
        ∧ (∀ op ∈ shownLate ++ [.drop], ¬ op.Meddles)
        ∧ (reached .default .empty (shownLate ++ [.drop])).board.panels.host.has summaryPanel
          = true := by
  refine ⟨rfl, ?_, by decide +kernel⟩
  simp [shownLate, Op.Meddles]

end View

end LiveTopology
