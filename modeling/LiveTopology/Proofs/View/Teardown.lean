import LiveTopology.Proofs.Scene.Panels
import LiveTopology.Proofs.View.Kept

/-!
This module contains that the end of a view is final. The feed is given up, what the view has put on
its host is taken away, and what comes later has no influence on either.
-/

namespace LiveTopology

namespace Subscription

variable {η : Type}

theorem phase_closeSock (s : Subscription η) : s.closeSock.1.phase = .closed := by
  unfold closeSock
  split
  . assumption
  . rfl

theorem send_eq (s : Subscription η) (link : Nat) (event : LinkEvent)
    : ∃ q, (s.send link event).2 = s.withQueue q := by
  unfold send
  split
  . split
    . exact ⟨_, rfl⟩
    . exact ⟨s.queue, rfl⟩
  . exact ⟨s.queue, rfl⟩

section Closed

variable {s : Subscription η} (h : s.phase = .closed)
include h

theorem closeSock_of_closed : s.closeSock = (s, []) := by
  unfold closeSock
  rw [if_pos h]

theorem handle_of_closed (envelope : Envelope) : s.handle envelope = (s, []) := by
  have hcurrent : s.isCurrent envelope = false := by simp [isCurrent, h]
  unfold handle
  rw [hcurrent]
  rfl

theorem handleAll_of_closed (envelopes : List Envelope) : s.handleAll envelopes = (s, []) := by
  induction envelopes with
  | nil => rfl
  | cons envelope envelopes ih => simp only [handleAll, handle_of_closed h, ih, List.append_nil]

theorem pump_of_closed : s.pump.2 = (s.withQueue [], []) := by
  apply handleAll_of_closed (s := s.withQueue []) h

theorem next_of_closed : s.next.2 = (s.withQueue s.queue.tail, []) := by
  unfold next
  cases hqueue : s.queue with
  | nil =>
    show (s, []) = (s.withQueue [], [])
    rw [← hqueue]
    rfl
  | cons envelope q => apply handle_of_closed (s := s.withQueue q) h

end Closed

end Subscription

namespace View

variable {η : Type}

/-- What anybody can do with a view that is torn down, other than to open its feed again. -/
def Op.isLate : Op η → Bool
  | .bind _ | .openSock | .onHost _ => false
  | _ => true

/-- The result of what is done with `w` after its end, which changes nothing but the scene. -/
structure Quiet (w : View η) (result : View η × List (Effect η)) : Prop where
  tornDown : result.1.tornDown = true
  phase : result.1.subscription.phase = .closed
  links : result.1.subscription.links = w.subscription.links
  tables : result.1.subscription.tables = w.subscription.tables
  board : result.1.board = w.board
  logs : ∀ effect ∈ result.2, ∃ record, effect = .log record

section Quiet

variable {w : View η} (htornDown : w.tornDown = true) (hphase : w.subscription.phase = .closed)
include htornDown hphase

/-- What reports there still are to handle makes no difference. -/
theorem quiet_withQueue (q : List Envelope)
    : Quiet w ({ w with subscription := w.subscription.withQueue q }, []) where
  tornDown := htornDown
  phase := hphase
  links := rfl
  tables := rfl
  board := rfl
  logs := by simp

theorem quiet_refl : Quiet w (w, []) := by
  apply quiet_withQueue htornDown hphase w.subscription.queue

theorem Quiet.owned {result : View η × List (Effect η)} (h : Quiet w result)
    : Quiet w (w.owned result) := by
  apply owned_cases
  . apply quiet_refl htornDown hphase
  . exact h

theorem quiet_step {op : Op η} (hop : op.isLate = true) : Quiet w (w.step op) := by
  have hrefl := quiet_refl htornDown hphase
  have hteardown := teardown_of_tornDown htornDown
  cases op with
  | bind | openSock | onHost => contradiction
  | gesture g =>
    apply Quiet.owned htornDown hphase
    exact ⟨htornDown, hphase, rfl, rfl, rfl, by simp⟩
  | resetZoom =>
    apply Quiet.owned htornDown hphase
    exact ⟨htornDown, hphase, rfl, rfl, rfl, by simp⟩
  | recover =>
    apply Quiet.owned htornDown hphase
    unfold recover
    rw [if_pos htornDown]
    exact ⟨htornDown, hphase, rfl, rfl, rfl, by simp⟩
  | teardown =>
    apply Quiet.owned htornDown hphase
    rw [hteardown]
    exact hrefl
  | closeSock =>
    apply Quiet.owned htornDown hphase
    unfold closeSock
    rw [Subscription.closeSock_of_closed hphase]
    exact hrefl
  | pump =>
    apply Quiet.owned htornDown hphase
    show Quiet w (w.withSubscription w.subscription.pump.2)
    rw [Subscription.pump_of_closed hphase]
    apply quiet_withQueue htornDown hphase
  | next =>
    apply Quiet.owned htornDown hphase
    show Quiet w (w.withSubscription w.subscription.next.2)
    rw [Subscription.next_of_closed hphase]
    apply quiet_withQueue htornDown hphase
  | drop =>
    apply Quiet.owned htornDown hphase
    unfold drop Subscription.drop
    rw [hteardown]
    simp only [Subscription.closeSock_of_closed hphase]
    exact ⟨htornDown, hphase, rfl, rfl, rfl, by simp [withSubscription, absorbAll]⟩
  | press key =>
    obtain ⟨hsubscription, hboard, hmarks, -⟩ := w.press_eq key
    show Quiet w ((w.press key).2.1, (w.press key).2.2.map .log)
    refine ⟨hmarks.trans htornDown, ?_, ?_, ?_, hboard, ?_⟩
    . rw [hsubscription, hphase]
    . rw [hsubscription]
    . rw [hsubscription]
    . intro effect heffect
      obtain ⟨record, -, hrecord⟩ := List.mem_map.1 heffect
      exact ⟨record, hrecord.symm⟩
  | send link event =>
    obtain ⟨q, hsend⟩ := w.subscription.send_eq link event
    show Quiet w ({ w with subscription := (w.subscription.send link event).2 }, [])
    rw [hsend]
    apply quiet_withQueue htornDown hphase

end Quiet

theorem quiet_run {w : View η} (htornDown : w.tornDown = true)
    (hphase : w.subscription.phase = .closed) {ops : List (Op η)}
    (hops : ∀ op ∈ ops, op.isLate = true)
    : Quiet w (w.run ops) := by
  induction ops generalizing w with
  | nil => apply quiet_refl htornDown hphase
  | cons op ops ih =>
    obtain ⟨hop, hrest⟩ := List.forall_mem_cons.1 hops
    have hfirst := quiet_step htornDown hphase hop
    have hthen := ih hfirst.tornDown hfirst.phase hrest
    refine ⟨hthen.tornDown, hthen.phase, hthen.links.trans hfirst.links,
      hthen.tables.trans hfirst.tables, hthen.board.trans hfirst.board, ?_⟩
    intro effect heffect
    rcases List.mem_append.1 heffect with heffect | heffect
    . apply hfirst.logs effect heffect
    . apply hthen.logs effect heffect

/-- The feed is given up, and nothing on the host is owned, once a view is torn down. -/
def Settled (v : View η) : Prop :=
  v.tornDown = true → v.subscription.phase = .closed ∧ v.board.panels.owned = []

theorem teardown_eq {v : View η} (h : v.tornDown = false)
    : v.teardown.1.subscription = v.subscription.closeSock.1
        ∧ v.teardown.1.board = { v.board with panels := v.board.panels.release.2 } := by
  unfold teardown Subscription.closeSock
  rw [h]
  by_cases hphase : v.subscription.phase = .closed
  . simp only [if_pos hphase]
    exact ⟨rfl, rfl⟩
  . simp only [if_neg hphase]
    exact ⟨rfl, rfl⟩

theorem board_drop {v : View η} (h : v.teardown.1.subscription.phase = .closed)
    : v.drop.1.board = v.teardown.1.board := by
  unfold drop Subscription.drop
  simp only [Subscription.closeSock_of_closed h]
  rfl

theorem phase_drop (v : View η) : v.drop.1.subscription.phase = .closed := by
  show v.teardown.1.subscription.closeSock.1.phase = .closed
  apply Subscription.phase_closeSock

/-- What an end that is not forestalled makes of the view. -/
theorem ended_step {v : View η} (htornDown : v.tornDown = false) (hdropped : v.dropped = false)
    {ending : Op η} (hending : ending = .teardown ∨ ending = .drop)
    : (v.step ending).1.subscription.phase = .closed
        ∧ (v.step ending).1.board = { v.board with panels := v.board.panels.release.2 } := by
  obtain ⟨hsubscription, hboard⟩ := teardown_eq htornDown
  have hphase : v.teardown.1.subscription.phase = .closed := by
    rw [hsubscription]
    apply Subscription.phase_closeSock
  rcases hending with rfl | rfl
  . rw [step_teardown hdropped]
    exact ⟨hphase, hboard⟩
  . rw [step_drop hdropped, board_drop hphase]
    exact ⟨v.phase_drop, hboard⟩

theorem Settled.step {v : View η} (hkept : v.Kept) (h : v.Settled) {op : Op η}
    (hop : op = .openSock → v.tornDown = true → v.dropped = true)
    : (v.step op).1.Settled := by
  cases htornDown : v.tornDown with
  | true =>
    obtain ⟨hphase, howned⟩ := h htornDown
    by_cases hlate : op.isLate = true
    . have hquiet := quiet_step htornDown hphase hlate
      exact fun _ => ⟨hquiet.phase, by rw [hquiet.board, howned]⟩
    . have hbind (routes : Routes η) : (v.bind routes).1.Settled := by
        have hrebound (routes : Routes (Handler η)) : (v.subscription.bind routes).2 = [] :=
          if_pos hphase
        unfold bind withSubscription
        rw [hrebound]
        exact fun _ => ⟨hphase, howned⟩
      cases op with
      | bind routes =>
        exact owned_cases (P := fun r => r.1.Settled) h (hbind routes)
      | openSock =>
        show (v.owned v.openSock).1.Settled
        rw [owned_of_dropped (hop rfl htornDown)]
        exact h
      | onHost change => exact fun _ => ⟨hphase, howned⟩
      | _ => contradiction
  | false =>
    have hdropped := hkept.dropped_eq_false htornDown
    by_cases hending : op = .teardown ∨ op = .drop
    . obtain ⟨hphase, hboard⟩ := ended_step htornDown hdropped hending
      exact fun _ => ⟨hphase, by rw [hboard]; rfl⟩
    . obtain ⟨hteardown, hdrop⟩ := not_or.1 hending
      -- Nothing else tears the view down, so there is nothing to show.
      intro htrue
      rw [(v.marks_step hteardown hdrop).1, htornDown] at htrue
      contradiction

/-- Whether the feed is opened directly after the view was torn down. -/
def Reopened (ops : List (Op η)) : Prop :=
  ∃ first second, ops = first ++ .openSock :: second ∧ .teardown ∈ first

theorem Settled.run {v : View η} (hkept : v.Kept) (h : v.Settled) {ops : List (Op η)}
    (hops : v.tornDown = true → v.dropped = true ∨ .openSock ∉ ops) (hreopened : ¬ Reopened ops)
    : (v.run ops).1.Settled := by
  induction ops generalizing v with
  | nil => exact h
  | cons op ops ih =>
    have hop : op = .openSock → v.tornDown = true → v.dropped = true := by
      intro hopen htornDown
      apply (hops htornDown).resolve_right
      simp [hopen]
    apply ih (hkept.step op) (h.step hkept hop)
    . intro htornDown
      by_cases hdrop : op = .drop
      . left
        rw [hdrop]
        apply dropped_step_drop
      . rw [v.dropped_step_of_ne_drop hdrop]
        by_cases hteardown : op = .teardown
        . right
          -- To open the feed from here on would be to open it after this teardown.
          intro hmem
          obtain ⟨first, second, rfl⟩ := List.append_of_mem hmem
          apply hreopened
          exact ⟨op :: first, second, rfl, by simp [hteardown]⟩
        . rw [(v.marks_step hteardown hdrop).1] at htornDown
          apply (hops htornDown).imp_right
          intro hnot hmem
          exact hnot (List.mem_cons_of_mem _ hmem)
    . rintro ⟨first, second, rfl, hmem⟩
      apply hreopened
      exact ⟨op :: first, second, rfl, List.mem_cons_of_mem _ hmem⟩

/-- After the end of a view nothing is subscribed to, and each link was closed once. -/
theorem Kept.released {v : View η} (h : v.Kept) {ending : Op η}
    (hending : ending = .teardown ∧ v.Settled ∨ ending = .drop)
    : (v.step ending).1.subscription.phase = .closed
        ∧ ∀ link ∈ (v.step ending).1.subscription.links, link.closes = 1 := by
  have hphase : (v.step ending).1.subscription.phase = .closed := by
    cases hdropped : v.dropped with
    | true =>
      have hdead : v.subscription.alive = false := by rw [h.alive, hdropped]; rfl
      have hstep : v.step ending = (v, []) := by
        rcases hending with ⟨rfl, -⟩ | rfl
        . apply owned_of_dropped hdropped
        . apply owned_of_dropped hdropped
      rw [hstep]
      exact h.consistent.dead hdead
    | false =>
      rcases hending with ⟨rfl, hsettled⟩ | rfl
      . rw [step_teardown hdropped]
        cases htornDown : v.tornDown with
        | true =>
          rw [teardown_of_tornDown htornDown]
          exact (hsettled htornDown).1
        | false =>
          rw [(teardown_eq htornDown).1]
          apply Subscription.phase_closeSock
      . rw [step_drop hdropped]
        exact v.phase_drop
  -- A consistent subscription that is closed has told each of its links to close.
  refine ⟨hphase, fun link hlink => ?_⟩
  exact (((h.step ending).consistent.closed hphase).2 link hlink).2

theorem Settled.not_has_of_owned {v : View η} (hkept : v.Kept) (h : v.Settled) {ending : Op η}
    (hending : ending = .teardown ∨ ending = .drop) (name : String)
    (hname : name ∈ v.board.panels.owned)
    : (v.step ending).1.board.panels.host.has name = false := by
  cases htornDown : v.tornDown with
  | true =>
    rw [(h htornDown).2] at hname
    contradiction
  | false =>
    have hdropped := hkept.dropped_eq_false htornDown
    rw [(ended_step htornDown hdropped hending).2]
    apply Panels.has_release hname

/-- What a view has become after all that was done with it. -/
def reached (settings : Settings) (host : PanelHost) (ops : List (Op η)) : View η :=
  ((activate settings host).1.run ops).1

theorem kept_reached (settings : Settings) (host : PanelHost) (ops : List (Op η))
    : (reached settings host ops).Kept := by
  apply (kept_activate settings host).run

theorem settled_reached (settings : Settings) (host : PanelHost) {ops : List (Op η)}
    (h : ¬ Reopened ops)
    : (reached settings host ops).Settled := by
  apply Settled.run (kept_activate settings host)
  . intro htornDown
    contradiction
  . intro htornDown
    contradiction
  . exact h

/-- The end of a view gives up its feed and takes away its panels, and what comes later has no
influence on either. If the feed was opened directly after the view was torn down, only to drop the
view gives it up, since to tear the view down once more does nothing. -/
theorem final_run (settings : Settings) (host : PanelHost) (before rest : List (Op η))
    (ending : Op η) (hending : ending = .teardown ∧ ¬ Reopened before ∨ ending = .drop)
    (hrest : ∀ op ∈ rest, op.isLate = true)
    : ((reached settings host (before ++ [ending])).subscription.phase = .closed
          ∧ ∀ link ∈ (reached settings host (before ++ [ending])).subscription.links,
            link.closes = 1)
        ∧ (¬ Reopened before → ∀ name ∈ (reached settings host before).board.panels.owned,
          (reached settings host (before ++ [ending])).board.panels.host.has name = false)
        ∧ (∀ past future, rest = past ++ future →
          Quiet (reached settings host (before ++ [ending]))
              ((reached settings host (before ++ [ending])).run past)
            ∧ (reached settings host (before ++ [ending] ++ past)).subscription.pump.2.2 = []
            ∧ (reached settings host (before ++ [ending] ++ past)).subscription.next.2.2 = [])
        ∧ ∀ ops : List (Op η), .teardown ∈ ops ∨ .drop ∈ ops →
          (reached settings host ops).step .teardown = (reached settings host ops, []) := by
  have hkept : (reached settings host before).Kept := kept_reached settings host before
  have hstep : reached settings host (before ++ [ending])
      = ((reached settings host before).step ending).1 := by
    unfold reached
    rw [run_append]
    rfl
  have hreleased : ending = .teardown ∧ (reached settings host before).Settled ∨ ending = .drop :=
    hending.imp_left fun ⟨hteardown, hnot⟩ => ⟨hteardown, settled_reached settings host hnot⟩
  obtain ⟨hphase, hcloses⟩ := hkept.released hreleased
  have htornDown := hkept.tornDown_ending (hending.imp_left And.left)
  rw [← hstep] at htornDown hphase hcloses
  refine ⟨⟨hphase, hcloses⟩, ?panels, ?later, ?once⟩
  case panels =>
    intro hnot name hname
    rw [hstep]
    apply (settled_reached settings host hnot).not_has_of_owned hkept _ name hname
    exact hending.imp_left And.left
  case later =>
    intro past future hsplit
    have hpast : ∀ op ∈ past, op.isLate = true := by
      intro op hop
      apply hrest
      rw [hsplit]
      exact List.mem_append_left _ hop
    have hquiet := quiet_run htornDown hphase hpast
    have hlater : reached settings host (before ++ [ending] ++ past)
        = ((reached settings host (before ++ [ending])).run past).1 := by
      unfold reached
      rw [run_append _ (before ++ [ending])]
    rw [hlater, Subscription.pump_of_closed hquiet.phase, Subscription.next_of_closed hquiet.phase]
    exact ⟨hquiet, rfl, rfl⟩
  case once =>
    intro ops hops
    have htornDown : (reached settings host ops).tornDown = true := by
      rcases hops with hmem | hmem
      . exact (kept_activate settings host).tornDown_run_of_mem (.inl rfl) hmem
      . exact (kept_activate settings host).tornDown_run_of_mem (.inr rfl) hmem
    show (reached settings host ops).owned (reached settings host ops).teardown = _
    rw [teardown_of_tornDown htornDown]
    exact owned_cases (P := (· = _)) rfl rfl

/-- A view shows its summary before it is torn down. -/
def withSummary : List (Op Unit) :=
  [.send 0 .connected, .send 0 (.frame ⟨"showSummary", none, .null⟩), .pump]

theorem final_run_withSummary
    : ¬ Reopened withSummary
        ∧ summaryPanel ∈ (reached .default .empty withSummary).board.panels.owned
        ∧ (reached .default .empty (withSummary ++ [.teardown])).board.panels.host.has summaryPanel
          = false
        ∧ Quiet (reached .default .empty (withSummary ++ [.teardown]))
          ((reached .default .empty (withSummary ++ [.teardown])).run
            [.send 0 .closed, .pump, .recover, .drop]) := by
  have hreopened : ¬ Reopened withSummary := by
    rintro ⟨first, second, heq, -⟩
    have hmem : Op.openSock ∈ withSummary := by
      rw [heq]
      exact List.mem_append_right _ List.mem_cons_self
    simp [withSummary] at hmem
  have howned : summaryPanel ∈ (reached .default .empty withSummary).board.panels.owned := by
    decide +kernel
  have hlate : ∀ op ∈ ([.send 0 .closed, .pump, .recover, .drop] : List (Op Unit)),
      op.isLate = true := by
    decide
  obtain ⟨-, hpanels, hlater, -⟩ := final_run .default .empty withSummary
    [.send 0 .closed, .pump, .recover, .drop] .teardown (.inl ⟨rfl, hreopened⟩) hlate
  exact ⟨hreopened, howned, hpanels hreopened summaryPanel howned,
    (hlater _ [] (List.append_nil _).symm).1⟩

/-- A view that is opened again although it is torn down. -/
def tornDownTwice : List (Op Unit) :=
  [.teardown, .openSock, .teardown]

/-- What is torn down is not torn down once more, so that the last link stays open. -/
theorem not_closed_tornDownTwice
    : (reached .default .empty tornDownTwice).subscription.phase ≠ .closed
        ∧ ∃ link ∈ (reached .default .empty tornDownTwice).subscription.links, link.closes ≠ 1 := by
  refine ⟨by decide, ⟨3, 0⟩, ?_, by decide⟩
  exact List.mem_cons_of_mem _ List.mem_cons_self

end View

end LiveTopology
