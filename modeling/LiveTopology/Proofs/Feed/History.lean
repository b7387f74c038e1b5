import LiveTopology.Feed.Subscription

/-!
This module contains the history of a subscription: what links send, which reports are handled, and
what happens then. A run that handles several reports at once is the same as one that handles them
singly, so that a history has one moment after another.
-/

namespace LiveTopology

inductive Moment (η : Type) where
  | sent (link : Nat) (event : LinkEvent)
  /-- A report is taken from the queue, while the link that sent it is held or is not. -/
  | handled (envelope : Envelope) (held : Bool)
  | noticed (notice : Notice η)
  deriving DecidableEq, Repr

namespace Moment

variable {η : Type}

def notice? : Moment η → Option (Notice η)
  | .noticed notice => some notice
  | _ => none

end Moment

/-- One thing that is done in the course of a run, with the subscription that it is done with. -/
structure Stage (η : Type) where
  before : Subscription η
  op : Subscription.Op η

namespace Subscription

variable {η : Type}

def heldGeneration? (s : Subscription η) : Option Nat :=
  (s.held.bind fun link => s.links[link]?).map LinkRecord.generation

def reports (s : Subscription η) : Op η → List (Moment η)
  | .send link event => if link < s.links.length then [.sent link event] else []
  | .next =>
    if s.alive then
      s.queue.head?.toList.map fun envelope =>
        .handled envelope (s.heldGeneration? = some envelope.generation)
    else
      []
  | _ => []

/-- The moments of one thing that is done, other than to handle all reports. -/
def moments (s : Subscription η) (op : Op η) : List (Moment η) :=
  s.reports op ++ (s.step op).2.map .noticed

/-- The same things to do, but with all reports handled singly. -/
def singly (s : Subscription η) : List (Op η) → List (Op η)
  | [] => []
  | .pump :: ops => List.replicate s.queue.length .next ++ singly (s.step .pump).1 ops
  | op :: ops => op :: singly (s.step op).1 ops

def history (s : Subscription η) (ops : List (Op η)) : List (Moment η) :=
  go s (s.singly ops)
where
  go (s : Subscription η) : List (Op η) → List (Moment η)
    | [] => []
    | op :: ops => s.moments op ++ go (s.step op).1 ops

/-- What is done in a run, one thing after another, with all reports handled singly. -/
def stages (s : Subscription η) (ops : List (Op η)) : List (Stage η) :=
  go s (s.singly ops)
where
  go (s : Subscription η) : List (Op η) → List (Stage η)
    | [] => []
    | op :: ops => ⟨s, op⟩ :: go (s.step op).1 ops

theorem run_append (s : Subscription η) (ops ops' : List (Op η))
    : s.run (ops ++ ops')
        =
      (((s.run ops).1.run ops').1, (s.run ops).2 ++ ((s.run ops).1.run ops').2) := by
  induction ops generalizing s with
  | nil => simp [run]
  | cons op ops ih => simp [run, ih]

/-- The subscription with other reports to handle, which is all that is not looked at while one is. -/
def withQueue (s : Subscription η) (queue : List Envelope) : Subscription η :=
  { s with queue }

theorem dispatch_withQueue (s : Subscription η) (q : List Envelope) (frame : Frame)
    : (s.withQueue q).dispatch frame
        =
      ((s.dispatch frame).1.withQueue q, (s.dispatch frame).2) := by
  unfold dispatch withQueue
  dsimp
  split <;> rfl

theorem dispatchAll_withQueue (s : Subscription η) (q : List Envelope) (frames : List Frame)
    : (s.withQueue q).dispatchAll frames
        =
      ((s.dispatchAll frames).1.withQueue q, (s.dispatchAll frames).2) := by
  induction frames generalizing s with
  | nil => rfl
  | cons frame frames ih => simp [dispatchAll, dispatch_withQueue, ih]

theorem accept_withQueue (s : Subscription η) (q : List Envelope) (event : LinkEvent)
    : (s.withQueue q).accept event
        =
      ((s.accept event).1.withQueue q, (s.accept event).2) := by
  cases event with
  | connected =>
    by_cases h : s.phase = .connecting
    . have := dispatchAll_withQueue { s with phase := .opened, pending := [] } q s.pending
      simp only [accept, withQueue, h, if_true] at this ⊢
      simp only [this]
    . simp only [accept, withQueue, h, if_false]
  | frame frame =>
    cases h : s.phase with
    | closed => simp only [accept, withQueue, h]
    | connecting => simp only [accept, withQueue, h]
    | opened =>
      have := dispatch_withQueue s q frame
      simpa only [accept, withQueue, h] using this
  | failed error => rfl
  | closed => rfl

theorem handle_withQueue (s : Subscription η) (q : List Envelope) (envelope : Envelope)
    : (s.withQueue q).handle envelope
        =
      ((s.handle envelope).1.withQueue q, (s.handle envelope).2) := by
  have hcurrent : (s.withQueue q).isCurrent envelope = s.isCurrent envelope := rfl
  unfold handle
  rw [hcurrent]
  split
  . apply accept_withQueue
  . rfl

theorem dispatch_fst (s : Subscription η) (frame : Frame)
    : (s.dispatch frame).1 = { s with tables := (s.dispatch frame).1.tables } := by
  unfold dispatch
  split <;> rfl

theorem dispatchAll_fst (s : Subscription η) (frames : List Frame)
    : (s.dispatchAll frames).1 = { s with tables := (s.dispatchAll frames).1.tables } := by
  induction frames generalizing s with
  | nil => rfl
  | cons frame frames ih =>
    simp only [dispatchAll]
    rw [ih, dispatch_fst]

theorem alive_accept (s : Subscription η) (event : LinkEvent)
    : (s.accept event).1.alive = s.alive := by
  cases event with
  | connected =>
    simp only [accept]
    split
    . rw [dispatchAll_fst]
    . rfl
  | frame frame =>
    simp only [accept]
    split
    . rfl
    . rw [dispatch_fst]
    . rfl
  | failed error => rfl
  | closed => rfl

theorem alive_handle (s : Subscription η) (envelope : Envelope)
    : (s.handle envelope).1.alive = s.alive := by
  unfold handle
  split
  . apply alive_accept
  . rfl

theorem step_of_dead {s : Subscription η} (h : s.alive = false) (op : Op η)
    : s.step op = (s, []) := by
  simp [step, h]

theorem run_of_dead {s : Subscription η} (h : s.alive = false) (ops : List (Op η))
    : s.run ops = (s, []) := by
  induction ops with
  | nil => rfl
  | cons op ops ih => simp [run, step_of_dead h, ih]

theorem step_next {s : Subscription η} {envelope : Envelope} {q : List Envelope}
    (h : s.alive = true) (hq : s.queue = envelope :: q)
    : s.step .next = ((s.handle envelope).1.withQueue q, (s.handle envelope).2) := by
  rw [← handle_withQueue, step, if_pos h]
  simp only [next, hq]
  rfl

theorem handleAll_eq_run {s : Subscription η} (h : s.alive = true) (q : List Envelope)
    : (s.withQueue []).handleAll q = (s.withQueue q).run (List.replicate q.length .next) := by
  induction q generalizing s with
  | nil => rfl
  | cons envelope q ih =>
    have halive : (s.handle envelope).1.alive = true := by rw [alive_handle, h]
    have hstep : (s.withQueue (envelope :: q)).step .next
        = ((s.handle envelope).1.withQueue q, (s.handle envelope).2) := by
      rw [step_next (s := s.withQueue (envelope :: q)) h rfl, handle_withQueue]
      rfl
    -- The one side takes all reports from the queue at first, and the other one by one.
    simp only [handleAll, handle_withQueue, List.length_cons, List.replicate_succ, run, hstep]
    rw [ih halive]

theorem step_pump (s : Subscription η)
    : s.step .pump = s.run (List.replicate s.queue.length .next) := by
  cases h : s.alive with
  | false => rw [step_of_dead h, run_of_dead h]
  | true =>
    rw [step, if_pos h]
    exact handleAll_eq_run h s.queue

theorem run_singly (s : Subscription η) (ops : List (Op η))
    : s.run (s.singly ops) = s.run ops := by
  fun_induction singly s ops with
  | case1 s => rfl
  | case2 s ops ih => simp only [run_append, run, ih, ← step_pump]
  | case3 s op ops hop ih => simp [run, ih]

theorem ne_pump_of_mem_singly {s : Subscription η} {ops : List (Op η)} {op : Op η}
    (h : op ∈ s.singly ops)
    : op ≠ .pump := by
  fun_induction singly s ops with
  | case1 s => simp at h
  | case2 s ops ih =>
    rcases List.mem_append.1 h with h | h
    . simp [List.eq_of_mem_replicate h]
    . exact ih h
  | case3 s op' ops hop ih =>
    rcases List.mem_cons.1 h with h | h
    . rw [h]
      exact hop
    . exact ih h

theorem filterMap_notice?_moments (s : Subscription η) (op : Op η)
    : (s.moments op).filterMap Moment.notice? = (s.step op).2 := by
  have hreports : (s.reports op).filterMap Moment.notice? = [] := by
    rw [List.filterMap_eq_nil_iff]
    intro moment hmoment
    cases op <;> grind [reports, Moment.notice?]
  have hnotices : Moment.notice? ∘ Moment.noticed = (some : Notice η → _) := rfl
  rw [moments, List.filterMap_append, hreports, List.filterMap_map, hnotices, List.filterMap_some,
    List.nil_append]

/-- A history tells everything that happens, in the same order. -/
theorem filterMap_notice?_history (s : Subscription η) (ops : List (Op η))
    : (s.history ops).filterMap Moment.notice? = (s.run ops).2 := by
  rw [← run_singly, history]
  -- That reports are handled singly has no more influence on what happens.
  generalize s.singly ops = ops
  induction ops generalizing s with
  | nil => rfl
  | cons op ops ih => simp [history.go, run, filterMap_notice?_moments, ih]

/-- What holds at first and is kept by each thing that is done holds after every run. -/
theorem stages_induction {P : Subscription η → List (Stage η) → Prop} {s : Subscription η}
    (hstart : P s [])
    (hstep : ∀ t past op, op ≠ .pump → P t past → P (t.step op).1 (past ++ [⟨t, op⟩]))
    (ops : List (Op η))
    : P (s.run ops).1 (s.stages ops) := by
  -- By induction on what is left to do, after any stages of what has been done.
  have hgo (ops : List (Op η)) (hops : ∀ op ∈ ops, op ≠ .pump)
      : ∀ t past, P t past → P (t.run ops).1 (past ++ stages.go t ops) := by
    induction ops with
    | nil =>
      intro t past ht
      simpa [run, stages.go] using ht
    | cons op ops ih =>
      intro t past ht
      have := ih (fun op hop => hops op (List.mem_cons_of_mem _ hop)) _ _
        (hstep t past op (hops op List.mem_cons_self) ht)
      simpa [run, stages.go, List.append_assoc] using this
  rw [← run_singly]
  simpa [stages] using hgo (s.singly ops) (fun op hop => ne_pump_of_mem_singly hop) s [] hstart

theorem history_eq_flatMap_stages (s : Subscription η) (ops : List (Op η))
    : s.history ops = (s.stages ops).flatMap fun stage => stage.before.moments stage.op := by
  rw [history, stages]
  generalize s.singly ops = ops
  induction ops generalizing s with
  | nil => rfl
  | cons op ops ih => simp [history.go, stages.go, ih]

theorem history_induction {P : Subscription η → List (Moment η) → Prop} {s : Subscription η}
    (hstart : P s [])
    (hstep : ∀ t h op, op ≠ .pump → P t h → P (t.step op).1 (h ++ t.moments op))
    (ops : List (Op η))
    : P (s.run ops).1 (s.history ops) := by
  rw [history_eq_flatMap_stages]
  apply stages_induction (P := fun t past =>
    P t (past.flatMap fun stage => stage.before.moments stage.op))
  . exact hstart
  . intro t past op hop ht
    simpa using hstep t _ op hop ht

end Subscription

end LiveTopology
