import LiveTopology.Proofs.Feed.Moves

/-!
This module contains that links which are not held any more have no influence. A run in which they
are silent goes the same way as the run in which they are not.
-/

namespace LiveTopology

/-- What is left of a list without what is marked. The marks may end before the list does. -/
def without {α : Type} : List Bool → List α → List α
  | [], as => as
  | _ :: _, [] => []
  | true :: marks, _ :: as => without marks as
  | false :: marks, a :: as => a :: without marks as

section

variable {α : Type}

@[simp]
theorem without_nil (marks : List Bool) : without marks ([] : List α) = [] := by
  cases marks <;> rfl

@[simp]
theorem without_cons_cons (mark : Bool) (marks : List Bool) (a : α) (as : List α)
    : without (mark :: marks) (a :: as)
        =
      if mark then without marks as else a :: without marks as := by
  cases mark <;> rfl

theorem without_append_of_length_eq {marks : List Bool} {as : List α}
    (h : marks.length = as.length) (more : List Bool)
    : without (marks ++ more) as = without marks as := by
  induction marks generalizing as with
  | nil => simp [List.eq_nil_of_length_eq_zero h.symm]
  | cons mark marks ih =>
    cases as with
    | nil => simp
    | cons a as =>
      have hlength : marks.length = as.length := by simpa using h
      simp [ih hlength]

theorem without_concat (marks : List Bool) (as : List α) (a : α)
    : without marks (as ++ [a])
        =
      without marks as ++ if marks[as.length]? = some true then [] else [a] := by
  induction marks generalizing as with
  | nil => simp [without]
  | cons mark marks ih =>
    cases as with
    | nil => cases mark <;> simp
    | cons a' as => cases mark <;> simp [ih]

end

/-- What becomes of what handlers act on, as `Board.react` does on a board. -/
def Notice.heed {η σ : Type} (react : σ → η → Json → σ) (b : σ) : Notice η → σ
  | .called handler payload => react b handler payload
  | _ => b

def Moment.stale? {η : Type} : Moment η → Option Bool
  | .handled _ held => some !held
  | _ => none

namespace Subscription

variable {η σ : Type}

/-- For each report that is handled, in this order, whether its link is not held any more. -/
def verdicts (s : Subscription η) (ops : List (Op η)) : List Bool :=
  (s.history ops).filterMap Moment.stale?

/--
Whether something is done for a link that is not held any more: it sends what is handled only after
it was given up, or that is handled. Reports are handled in the order in which they are sent, so the
verdict about the one that comes last is after those about the whole queue.
-/
def isWasted (s : Subscription η) (op : Op η) (ops : List (Op η)) : Bool :=
  match op with
  | .send link _ =>
    link < s.links.length && ((s.step op).1.verdicts ops)[s.queue.length]? = some true
  | .next => (s.moments op).filterMap Moment.stale? = [true]
  | _ => false

def wasted (s : Subscription η) : List (Op η) → List Bool
  | [] => []
  | op :: ops => s.isWasted op ops :: (s.step op).1.wasted ops

/-- What is done without all that is done for links that are not held any more. -/
def spared (s : Subscription η) (ops : List (Op η)) : List (Op η) :=
  without (s.wasted ops) ops

/--
How a run goes: what each step makes of the subscription, apart from the reports that are still to be
handled, what happens in that step, and what the handlers have made of what they act on.
-/
def course (react : σ → η → Json → σ) (s : Subscription η) (b : σ) : List (Op η) →
    List (Subscription η × List (Notice η) × σ)
  | [] => []
  | op :: ops =>
    let (s, notices) := s.step op
    let b := notices.foldl (Notice.heed react) b
    (s.withQueue [], notices, b) :: s.course react b ops

theorem history_cons (s : Subscription η) {op : Op η} (hop : op ≠ .pump) (ops : List (Op η))
    : s.history (op :: ops) = s.moments op ++ (s.step op).1.history ops := by
  cases op with
  | pump => contradiction
  | _ => rfl

theorem history_go_append (s : Subscription η) (ops ops' : List (Op η))
    : history.go s (ops ++ ops') = history.go s ops ++ history.go (s.run ops).1 ops' := by
  induction ops generalizing s with
  | nil => rfl
  | cons op ops ih => simp [history.go, run, ih]

theorem history_pump (s : Subscription η) (ops : List (Op η))
    : s.history (.pump :: ops)
        =
      history.go s (List.replicate s.queue.length .next) ++ (s.step .pump).1.history ops := by
  rw [history, singly, history_go_append, ← step_pump]
  rfl

theorem verdicts_cons (s : Subscription η) {op : Op η} (hop : op ≠ .pump) (ops : List (Op η))
    : s.verdicts (op :: ops)
        =
      (s.moments op).filterMap Moment.stale? ++ (s.step op).1.verdicts ops := by
  rw [verdicts, history_cons s hop, List.filterMap_append, verdicts]

theorem filterMap_stale?_noticed (notices : List (Notice η))
    : (notices.map Moment.noticed).filterMap Moment.stale? = [] := by
  simp [Moment.stale?]

theorem filterMap_stale?_moments (s : Subscription η) {op : Op η} (hop : op ≠ .next)
    : (s.moments op).filterMap Moment.stale? = [] := by
  rw [moments, List.filterMap_append, filterMap_stale?_noticed, List.append_nil,
    List.filterMap_eq_nil_iff]
  intro moment hmoment
  cases op <;> grind [reports, Moment.stale?]

theorem verdicts_of_dead {s : Subscription η} (h : s.alive = false) (ops : List (Op η))
    : s.verdicts ops = [] := by
  rw [verdicts, history]
  generalize s.singly ops = ops
  induction ops with
  | nil => rfl
  | cons op ops ih =>
    have hmoments : (s.moments op).filterMap Moment.stale? = [] := by
      by_cases hop : op = .next
      . simp [hop, moments, reports, step_of_dead h, h]
      . exact filterMap_stale?_moments s hop
    simp [history.go, step_of_dead h, hmoments, ih]

theorem filterMap_stale?_next {s : Subscription η} {envelope : Envelope} {q : List Envelope}
    (h : s.alive = true) (hq : s.queue = envelope :: q)
    : (s.moments .next).filterMap Moment.stale?
        =
      [!decide (s.heldGeneration? = some envelope.generation)] := by
  rw [moments, List.filterMap_append, filterMap_stale?_noticed]
  simp only [reports, h, hq, if_true]
  rfl

/-- A subscription without the reports that will be handled as stale. -/
def relieved (s : Subscription η) (ops : List (Op η)) : Subscription η :=
  s.withQueue (without (s.verdicts ops) s.queue)

theorem withQueue_relieved (s : Subscription η) (ops : List (Op η)) (q : List Envelope)
    : (s.relieved ops).withQueue q = s.withQueue q :=
  rfl

theorem relieved_of_dead {s : Subscription η} (h : s.alive = false) (ops : List (Op η))
    : s.relieved ops = s := by
  rw [relieved, verdicts_of_dead h]
  rfl

/-- What is done with the link itself does not depend on the reports that are still to be handled. -/
theorem step_relieved_of_step_withQueue {s : Subscription η} {op : Op η}
    (hnext : op ≠ .next) (hpump : op ≠ .pump) (hqueue : (s.step op).1.queue = s.queue)
    (hstep : ∀ q, (s.withQueue q).step op = ((s.step op).1.withQueue q, (s.step op).2))
    (ops : List (Op η))
    : (s.relieved (op :: ops)).step op = ((s.step op).1.relieved ops, (s.step op).2) := by
  rw [relieved, hstep, relieved, hqueue, verdicts_cons s hpump, filterMap_stale?_moments s hnext,
    List.nil_append]

theorem Consistent.handle_of_stale {s : Subscription η} (h : s.Consistent) {envelope : Envelope}
    (hheld : s.heldGeneration? ≠ some envelope.generation)
    : s.handle envelope = (s, []) := by
  have hcurrent : ¬ s.isCurrent envelope = true := fun hc => hheld ((h.isCurrent_iff envelope).1 hc)
  simp [handle, hcurrent]

/-- The verdicts about all reports in the queue, when all are handled. -/
def census (s : Subscription η) : List Bool :=
  (history.go s (List.replicate s.queue.length .next)).filterMap Moment.stale?

theorem census_cons {s : Subscription η} {envelope : Envelope} {q : List Envelope}
    (h : s.alive = true) (hq : s.queue = envelope :: q)
    : s.census
        =
      (!decide (s.heldGeneration? = some envelope.generation))
        :: ((s.handle envelope).1.withQueue q).census := by
  rw [census, hq, List.length_cons, List.replicate_succ, history.go, List.filterMap_append,
    filterMap_stale?_next h hq, step_next h hq]
  rfl

theorem length_census {s : Subscription η} (h : s.alive = true)
    : s.census.length = s.queue.length := by
  generalize hq : s.queue = q
  induction q generalizing s with
  | nil => simp [census, hq, history.go]
  | cons envelope q ih =>
    have halive : ((s.handle envelope).1.withQueue q).alive = true := by
      rw [← h, ← alive_handle s envelope]
      rfl
    simp [census_cons h hq, ih halive rfl]

theorem verdicts_pump (s : Subscription η) (ops : List (Op η))
    : s.verdicts (.pump :: ops) = s.census ++ (s.step .pump).1.verdicts ops := by
  rw [verdicts, history_pump, List.filterMap_append]
  rfl

/-- It makes no difference to handle only the reports that are not stale. -/
theorem Consistent.handleAll_without {s : Subscription η} (h : s.Consistent) (halive : s.alive = true)
    : (s.withQueue []).handleAll (without s.census s.queue) = (s.withQueue []).handleAll s.queue := by
  generalize hq : s.queue = q
  induction q generalizing s with
  | nil => simp
  | cons envelope q ih =>
    have hs := (h.moves_step (show Op.next ≠ .pump by simp)).consistent h
    rw [step_next halive hq] at hs
    have hrest : ((s.handle envelope).1.withQueue []).handleAll
          (without ((s.handle envelope).1.withQueue q).census q)
        = ((s.handle envelope).1.withQueue []).handleAll q :=
      ih hs (by rw [← halive, ← alive_handle s envelope]; rfl) rfl
    rw [census_cons halive hq, without_cons_cons]
    by_cases hheld : s.heldGeneration? = some envelope.generation
    . simp [hheld, handleAll, handle_withQueue, hrest]
    . have hhandle := h.handle_of_stale hheld
      rw [hhandle] at hrest ⊢
      simp [hheld, handleAll, handle_withQueue, hhandle, hrest]

theorem handleAll_withQueue (s : Subscription η) (q envelopes : List Envelope)
    : (s.withQueue q).handleAll envelopes
        =
      ((s.handleAll envelopes).1.withQueue q, (s.handleAll envelopes).2) := by
  induction envelopes generalizing s with
  | nil => rfl
  | cons envelope envelopes ih => simp [handleAll, handle_withQueue, ih]

theorem relieved_of_queue_eq_nil {s : Subscription η} (h : s.queue = []) (ops : List (Op η))
    : s.relieved ops = s := by
  rw [relieved, h, without_nil, ← h]
  rfl

theorem Consistent.step_pump_relieved {s : Subscription η} (h : s.Consistent) (ops : List (Op η))
    : (s.relieved (.pump :: ops)).step .pump
        =
      ((s.step .pump).1.relieved ops, (s.step .pump).2) := by
  cases halive : s.alive with
  | false => simp [relieved_of_dead halive, step_of_dead halive]
  | true =>
    have hstep (q : List Envelope) : (s.withQueue q).step .pump = (s.withQueue []).handleAll q := by
      rw [Subscription.step, if_pos (show (s.withQueue q).alive = true from halive)]
      rfl
    have hqueue : (s.step .pump).1.queue = [] := by
      have := hstep s.queue
      rw [handleAll_withQueue] at this
      rw [show s.step .pump = _ from this]
      rfl
    rw [relieved_of_queue_eq_nil hqueue, relieved, verdicts_pump,
      without_append_of_length_eq (length_census halive), hstep, h.handleAll_without halive]
    exact (hstep s.queue).symm

theorem step_next_relieved {s : Subscription η} {ops : List (Op η)}
    (hwasted : s.isWasted .next ops = false)
    : (s.relieved (.next :: ops)).step .next
        =
      ((s.step .next).1.relieved ops, (s.step .next).2) := by
  cases halive : s.alive with
  | false => simp [relieved_of_dead halive, step_of_dead halive]
  | true =>
    cases hq : s.queue with
    | nil =>
      have hstep : s.step .next = (s, []) := by simp [step, halive, next, hq]
      rw [relieved_of_queue_eq_nil hq, hstep, relieved_of_queue_eq_nil hq]
    | cons envelope q =>
      have hmoments := filterMap_stale?_next halive hq
      have hheld : s.heldGeneration? = some envelope.generation := by
        simpa [isWasted, hmoments] using hwasted
      have hverdicts : s.verdicts (.next :: ops)
          = false :: ((s.handle envelope).1.withQueue q).verdicts ops := by
        rw [verdicts_cons s (by simp), hmoments, step_next halive hq]
        simp [hheld]
      have hqueue : (s.relieved (.next :: ops)).queue
          = envelope :: without (((s.handle envelope).1.withQueue q).verdicts ops) q := by
        simp [relieved, withQueue, hverdicts, hq]
      rw [step_next (s := s.relieved _) halive hqueue, step_next halive hq, relieved,
        handle_withQueue]
      rfl

theorem step_send {s : Subscription η} (h : s.alive = true) {link : Nat}
    (hlink : link < s.links.length) (event : LinkEvent)
    : s.step (.send link event)
        =
      (s.withQueue (s.queue ++ [⟨s.links[link].generation, event⟩]), []) := by
  rw [step, if_pos h]
  simp [send, hlink, h, withQueue]

/-- A report that is sent comes last, if it is not handled as stale. -/
theorem relieved_send {s : Subscription η} (h : s.alive = true) {link : Nat}
    (hlink : link < s.links.length) (event : LinkEvent) (ops : List (Op η))
    : (s.step (.send link event)).1.relieved ops
        =
      s.withQueue ((s.relieved (.send link event :: ops)).queue
        ++ if s.isWasted (.send link event) ops then []
          else [⟨s.links[link].generation, event⟩]) := by
  have hverdicts := verdicts_cons s (show Op.send link event ≠ .pump by simp) ops
  rw [filterMap_stale?_moments s (by simp), List.nil_append] at hverdicts
  have hqueue : (s.step (.send link event)).1.queue
      = s.queue ++ [⟨s.links[link].generation, event⟩] := by
    rw [step_send h hlink]
    rfl
  rw [relieved, relieved, hqueue, without_concat, hverdicts, isWasted]
  simp only [hlink, decide_true, Bool.true_and, decide_eq_true_eq]
  rw [step_send h hlink]
  rfl

theorem step_send_relieved {s : Subscription η} {link : Nat} {event : LinkEvent} {ops : List (Op η)}
    (hwasted : s.isWasted (.send link event) ops = false)
    : (s.relieved (.send link event :: ops)).step (.send link event)
        =
      ((s.step (.send link event)).1.relieved ops, (s.step (.send link event)).2) := by
  cases halive : s.alive with
  | false => simp [relieved_of_dead halive, step_of_dead halive]
  | true =>
    by_cases hlink : link < s.links.length
    . rw [relieved_send halive hlink, hwasted, step_send halive hlink,
        step_send (s := s.relieved _) halive hlink]
      rfl
    . apply step_relieved_of_step_withQueue
      . simp
      . simp
      . simp [step, send, halive, hlink]
      . intro q
        simp [step, send, halive, hlink, withQueue]

theorem isWasted_of_dead {s : Subscription η} (h : s.alive = false) (op : Op η) (ops : List (Op η))
    : s.isWasted op ops = false := by
  cases op with
  | send link event => simp [isWasted, step_of_dead h, verdicts_of_dead h]
  | next => simp [isWasted, moments, reports, step_of_dead h, h]
  | _ => rfl

/-- What is done for a link that is not held has no effect, other than on the reports to handle. -/
theorem Consistent.step_of_isWasted {s : Subscription η} (h : s.Consistent) {op : Op η}
    {ops : List (Op η)} (hwasted : s.isWasted op ops = true)
    : (s.step op).1.withQueue [] = s.withQueue []
        ∧ (s.step op).2 = []
        ∧ (s.step op).1.relieved ops = s.relieved (op :: ops) := by
  have halive : s.alive = true := by
    cases hdead : s.alive with
    | true => rfl
    | false => simp [isWasted_of_dead hdead] at hwasted
  cases op with
  | next =>
    cases hq : s.queue with
    | nil => simp [isWasted, moments, reports, halive, hq, Subscription.step, next] at hwasted
    | cons envelope q =>
      have hmoments := filterMap_stale?_next halive hq
      have hheld : s.heldGeneration? ≠ some envelope.generation := by
        simpa [isWasted, hmoments] using hwasted
      have hstep : s.step .next = (s.withQueue q, []) := by
        rw [step_next halive hq, h.handle_of_stale hheld]
      refine ⟨?_, ?_, ?_⟩
      . rw [hstep]
        rfl
      . rw [hstep]
      . rw [relieved, relieved, verdicts_cons s (by simp), hmoments, hstep, hq]
        simp [hheld, withQueue]
  | send link event =>
    have hlink : link < s.links.length := by
      simp only [isWasted, Bool.and_eq_true, decide_eq_true_eq] at hwasted
      exact hwasted.1
    refine ⟨?_, ?_, ?_⟩
    . rw [step_send halive hlink]
      rfl
    . rw [step_send halive hlink]
    . rw [relieved_send halive hlink, if_pos hwasted, List.append_nil]
      rfl
  | _ => simp [isWasted] at hwasted

theorem Consistent.step_relieved {s : Subscription η} (h : s.Consistent) {op : Op η}
    {ops : List (Op η)} (hwasted : s.isWasted op ops = false)
    : (s.relieved (op :: ops)).step op = ((s.step op).1.relieved ops, (s.step op).2) := by
  cases halive : s.alive with
  | false => simp [relieved_of_dead halive, step_of_dead halive]
  | true =>
    cases op with
    | pump => exact h.step_pump_relieved ops
    | next => exact step_next_relieved hwasted
    | send link event => exact step_send_relieved hwasted
    | bind routes =>
      apply step_relieved_of_step_withQueue
      . simp
      . simp
      . simp [Subscription.step, halive, bind]
      . intro q
        simp [Subscription.step, halive, bind, withQueue]
    | openSock =>
      apply step_relieved_of_step_withQueue
      . simp
      . simp
      . by_cases hphase : s.phase = .closed <;> simp [Subscription.step, halive, openSock, hphase]
      . intro q
        by_cases hphase : s.phase = .closed
          <;> simp [Subscription.step, halive, openSock, hphase, withQueue, isBound]
    | closeSock =>
      apply step_relieved_of_step_withQueue
      . simp
      . simp
      . by_cases hphase : s.phase = .closed
          <;> simp [Subscription.step, halive, closeSock, hphase, Subscription.release]
      . intro q
        by_cases hphase : s.phase = .closed
          <;> simp [Subscription.step, halive, closeSock, hphase, withQueue, Subscription.release]
    | drop =>
      -- Nothing is left to handle, so what was in the queue makes no difference.
      have hqueue : (s.step .drop).1.queue = [] := by simp [Subscription.step, halive, drop]
      rw [relieved_of_queue_eq_nil hqueue]
      by_cases hphase : s.phase = .closed
        <;> simp [relieved, withQueue, Subscription.step, halive, drop, closeSock, hphase,
          Subscription.release]

theorem Consistent.course_spared {s : Subscription η} (h : s.Consistent)
    (react : σ → η → Json → σ) (b : σ) (ops : List (Op η))
    : (s.relieved ops).course react b (s.spared ops)
        =
      without (s.wasted ops) (s.course react b ops) := by
  induction ops generalizing s b with
  | nil => rfl
  | cons op ops ih =>
    have hnext := ih (h.step op)
    unfold spared at hnext ⊢
    cases hwasted : s.isWasted op ops with
    | true =>
      obtain ⟨-, hnotices, hrelieved⟩ := h.step_of_isWasted hwasted
      rw [hrelieved] at hnext
      simp [wasted, course, hwasted, hnotices, hnext]
    | false =>
      have hstep := h.step_relieved hwasted
      simp [wasted, hwasted, course, hstep, hnext, withQueue_relieved]

/--
A run in which links that are not held any more are silent goes the same way as the run in which they
are not, and nothing that is left out of it has an effect.
-/
theorem abandoned_run (react : σ → η → Json → σ) (b : σ) (ops : List (Op η))
    : fresh.course react b (fresh.spared ops)
          = without (fresh.wasted ops) (fresh.course react b ops)
        ∧ ∀ before op after, ops = before ++ op :: after →
            (fresh.run before).1.isWasted op after = true →
            (fresh.run (before ++ [op])).1.withQueue [] = (fresh.run before).1.withQueue []
              ∧ (fresh.run (before ++ [op])).2 = (fresh.run before).2 := by
  refine ⟨?_, ?_⟩
  . have := consistent_fresh.course_spared react b ops
    rwa [relieved_of_queue_eq_nil rfl] at this
  . intro before op after _ hwasted
    obtain ⟨hstep, hnotices, -⟩ := (consistent_run before).step_of_isWasted hwasted
    simp [run_append, run, hstep, hnotices]

/-- A link is given up before its reports are handled, and goes on to send. -/
theorem abandoned_run_reopened
    : (fresh : Subscription Unit).course (fun calls _ _ => calls + 1) 0
          [.openSock, .closeSock, .openSock, .send 1 .connected, .pump]
          = without [false, true, false, true, false, true, false, false]
            (fresh.course (fun calls _ _ => calls + 1) 0
              [.openSock, .send 0 .connected, .closeSock, .next, .openSock, .send 0 .closed,
                .send 1 .connected, .pump])
        ∧ ((fresh : Subscription Unit).run
            ([.openSock, .send 0 .connected, .closeSock] ++ [.next])).1.withQueue []
          = (fresh.run [.openSock, .send 0 .connected, .closeSock]).1.withQueue [] := by
  have hspared : (fresh : Subscription Unit).spared
        [.openSock, .send 0 .connected, .closeSock, .next, .openSock, .send 0 .closed,
          .send 1 .connected, .pump]
      = [.openSock, .closeSock, .openSock, .send 1 .connected, .pump] := by decide
  have hwasted : (fresh : Subscription Unit).wasted
        [.openSock, .send 0 .connected, .closeSock, .next, .openSock, .send 0 .closed,
          .send 1 .connected, .pump]
      = [false, true, false, true, false, true, false, false] := by decide
  have hrun := abandoned_run (η := Unit) (fun calls _ _ => calls + 1) 0
    [.openSock, .send 0 .connected, .closeSock, .next, .openSock, .send 0 .closed,
      .send 1 .connected, .pump]
  rw [hspared, hwasted] at hrun
  refine ⟨hrun.1, (hrun.2 [.openSock, .send 0 .connected, .closeSock] .next _ rfl ?_).1⟩
  decide

end Subscription

end LiveTopology
