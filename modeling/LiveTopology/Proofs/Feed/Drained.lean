import LiveTopology.Proofs.Feed.Abandoned

/-!
This module contains that it does not matter when a subscription handles what links send to it. As
long as the links are left alone, reports are handled in the order in which they are sent, and once
all of them are handled, nothing tells in which portions that was done.
-/

namespace LiveTopology.Subscription

variable {η : Type}

/-- What links and the handling of reports do, which leaves alone which link is asked for. -/
def Op.isFeeding : Op η → Bool
  | .send .. | .pump | .next => true
  | _ => false

def Op.sent? : Op η → Option (Nat × LinkEvent)
  | .send link event => some (link, event)
  | _ => none

/-- The report that comes of what a link sends, if the links have these generations. -/
def stamp? (generations : List Nat) (sent : Nat × LinkEvent) : Option Envelope :=
  generations[sent.1]?.map fun generation => ⟨generation, sent.2⟩

def generations (s : Subscription η) : List Nat :=
  s.links.map LinkRecord.generation

theorem handleAll_append (s : Subscription η) (es es' : List Envelope)
    : s.handleAll (es ++ es')
        =
      (((s.handleAll es).1.handleAll es').1,
        (s.handleAll es).2 ++ ((s.handleAll es).1.handleAll es').2) := by
  induction es generalizing s with
  | nil => rfl
  | cons e es ih => simp only [List.cons_append, handleAll, ih, List.append_assoc]

theorem generations_accept (s : Subscription η) (event : LinkEvent)
    : (s.accept event).1.generations = s.generations := by
  cases event with
  | connected =>
    simp only [accept]
    split
    . rw [dispatchAll_fst]
      rfl
    . rfl
  | frame frame =>
    simp only [accept]
    split
    . rfl
    . rw [dispatch_fst]
      rfl
    . rfl
  | failed error => apply generations_release
  | closed => apply generations_release

theorem kept_handleAll (s : Subscription η) (es : List Envelope)
    : (s.handleAll es).1.alive = s.alive ∧ (s.handleAll es).1.generations = s.generations := by
  induction es generalizing s with
  | nil => exact ⟨rfl, rfl⟩
  | cons e es ih =>
    obtain ⟨halive, hgenerations⟩ := ih (s.handle e).1
    constructor
    . apply halive.trans
      apply alive_handle
    . apply hgenerations.trans
      unfold handle
      split
      . apply generations_accept
      . rfl

/-- One thing handles the first reports of the queue, and may let one more come. -/
theorem drained_step {s : Subscription η} (h : s.alive = true) {op : Op η}
    (hop : op.isFeeding = true)
    : ∃ es q, es ++ q = s.queue ++ (op.sent?.bind (stamp? s.generations)).toList
        ∧ s.step op = ((s.handleAll es).1.withQueue q, (s.handleAll es).2) := by
  unfold step
  rw [if_pos h]
  cases op with
  | send link event =>
    refine ⟨[], (s.send link event).2.queue, ?_⟩
    show (s.send link event).2.queue
        = s.queue ++ (s.generations[link]?.map fun generation => ⟨generation, event⟩).toList
      ∧ ((s.send link event).2, []) = (s.withQueue (s.send link event).2.queue, [])
    unfold send generations
    rw [List.getElem?_map]
    cases s.links[link]? with
    | none => exact ⟨(List.append_nil _).symm, rfl⟩
    | some l =>
      simp only [if_pos h]
      exact ⟨rfl, rfl⟩
  | pump =>
    refine ⟨s.queue, [], rfl, ?_⟩
    apply handleAll_withQueue s [] s.queue
  | next =>
    cases hqueue : s.queue with
    | nil =>
      refine ⟨[], [], rfl, ?_⟩
      simp only [next, hqueue, handleAll, withQueue]
      rw [← hqueue]
    | cons e q =>
      refine ⟨[e], q, (List.append_nil _).symm, ?_⟩
      simp only [next, hqueue, handleAll, List.append_nil]
      apply handle_withQueue s q e
  | bind | openSock | closeSock | drop => contradiction

/-- The reports that are handled in a run are those that came first, whenever they are handled. -/
theorem drained_run {s : Subscription η} (h : s.alive = true) {ops : List (Op η)}
    (hops : ∀ op ∈ ops, op.isFeeding = true)
    : ∃ es q, es ++ q
          = s.queue ++ (ops.filterMap Op.sent?).filterMap (stamp? s.generations)
        ∧ s.run ops = ((s.handleAll es).1.withQueue q, (s.handleAll es).2) := by
  induction ops generalizing s with
  | nil => exact ⟨[], s.queue, by simp, rfl⟩
  | cons op ops ih =>
    obtain ⟨hop, hrest⟩ := List.forall_mem_cons.1 hops
    obtain ⟨first, q, hfirst, hstep⟩ := drained_step h hop
    obtain ⟨halive, hgenerations⟩ := kept_handleAll s first
    obtain ⟨rest, q', hqueue, hrun⟩ := ih (s := (s.handleAll first).1.withQueue q)
      (halive.trans h) hrest
    have hstamps : ((s.handleAll first).1.withQueue q).generations = s.generations := hgenerations
    rw [hstamps] at hqueue
    refine ⟨first ++ rest, q', ?_, ?_⟩
    . rw [List.append_assoc, hqueue]
      show first ++ (q ++ _) = _
      rw [← List.append_assoc, hfirst, List.append_assoc]
      congr 1
      cases hsent : op.sent? with
      | none => simp [hsent]
      | some sent => cases hstamp : stamp? s.generations sent <;> simp [hsent, hstamp]
    . -- What is handled later does not depend on what still waits at first.
      rw [handleAll_withQueue] at hrun
      rw [run, hstep]
      simp only [hrun, handleAll_append]
      rfl

/-- How many reports are said to be handled. -/
def handled (s : Subscription η) (op : Op η) : Nat :=
  if s.alive then
    match op with
    | .pump => s.pump.1
    | .next => s.next.1.toNat
    | _ => 0
  else
    0

def handledIn (s : Subscription η) : List (Op η) → Nat
  | [] => 0
  | op :: ops => s.handled op + (s.step op).1.handledIn ops

/-- The reports that come of what links send, as long as there is somebody to report to. -/
def arrivals (s : Subscription η) (ops : List (Op η)) : List Envelope :=
  if s.alive then (ops.filterMap Op.sent?).filterMap (stamp? s.generations) else []

/-- What is said to be handled is what is missing from the queue then. -/
theorem handled_step {s : Subscription η} (h : s.alive = true) {op : Op η}
    (hop : op.isFeeding = true)
    : s.handled op + (s.step op).1.queue.length
        =
      s.queue.length + (op.sent?.bind (stamp? s.generations)).toList.length := by
  unfold handled
  rw [if_pos h]
  cases op with
  | send link event =>
    simp only [step, if_pos h, send, generations, Op.sent?, Option.bind_some, stamp?,
      List.getElem?_map]
    cases s.links[link]? with
    | none => simp
    | some l => simp
  | pump =>
    have hqueue : (s.step .pump).1.queue = [] := by
      simp only [step, if_pos h, pump]
      rw [show { s with queue := [] } = s.withQueue [] from rfl, handleAll_withQueue]
      rfl
    simp [hqueue, pump, Op.sent?]
  | next =>
    cases hqueue : s.queue with
    | nil => simp [step, h, next, hqueue, Op.sent?]
    | cons e q =>
      rw [step_next h hqueue]
      simp [next, hqueue, withQueue, Op.sent?, Nat.add_comm]
  | bind | openSock | closeSock | drop => contradiction

/-- In a run, what came is either said to be handled or still waits. -/
theorem handledIn_run {s : Subscription η} (h : s.alive = true) {ops : List (Op η)}
    (hops : ∀ op ∈ ops, op.isFeeding = true)
    : s.handledIn ops + (s.run ops).1.queue.length = (s.queue ++ s.arrivals ops).length := by
  induction ops generalizing s with
  | nil => simp [handledIn, run, arrivals]
  | cons op ops ih =>
    obtain ⟨hop, hrest⟩ := List.forall_mem_cons.1 hops
    obtain ⟨es, q, -, hstep⟩ := drained_step h hop
    obtain ⟨halive, hgenerations⟩ := kept_handleAll s es
    have hlive : (s.step op).1.alive = true := by
      rw [hstep]
      exact halive.trans h
    have hsame : (s.step op).1.generations = s.generations := by
      rw [hstep]
      exact hgenerations
    have harrivals : (s.arrivals (op :: ops)).length
        = (op.sent?.bind (stamp? s.generations)).toList.length
          + ((s.step op).1.arrivals ops).length := by
      simp only [arrivals, if_pos h, if_pos hlive, hsame]
      cases hsent : op.sent? with
      | none => simp [hsent]
      | some sent => cases hstamp : stamp? s.generations sent <;> simp [hsent, hstamp, Nat.add_comm]
    have hfirst := handled_step h hop
    have hlater := ih hlive hrest
    rw [List.length_append] at hlater ⊢
    simp only [handledIn, run]
    omega

/--
However the handling of reports is spread over what links send, all runs in which nothing is left to
handle go the same way, and all that came is said to be handled.
-/
theorem run_eq_of_drained (s : Subscription η) {ops ops' : List (Op η)}
    (hops : ∀ op ∈ ops, op.isFeeding = true) (hops' : ∀ op ∈ ops', op.isFeeding = true)
    (hsent : ops.filterMap Op.sent? = ops'.filterMap Op.sent?)
    (hempty : (s.run ops).1.queue = []) (hempty' : (s.run ops').1.queue = [])
    : s.run ops = s.run ops'
        ∧ s.handledIn ops = (s.queue ++ s.arrivals ops).length
        ∧ s.handledIn ops' = (s.queue ++ s.arrivals ops).length := by
  have harrivals : s.arrivals ops' = s.arrivals ops := by rw [arrivals, arrivals, hsent]
  cases h : s.alive with
  | true =>
    have hcount := handledIn_run h hops
    have hcount' := handledIn_run h hops'
    obtain ⟨es, q, hes, hrun⟩ := drained_run h hops
    obtain ⟨es', q', hes', hrun'⟩ := drained_run h hops'
    rw [hempty, List.length_nil, Nat.add_zero] at hcount
    rw [hempty', List.length_nil, Nat.add_zero, harrivals] at hcount'
    refine ⟨?_, hcount, hcount'⟩
    -- Nothing is left of what came, so that it is handled as a whole, and in the same order.
    obtain rfl : q = [] := by rwa [hrun] at hempty
    obtain rfl : q' = [] := by rwa [hrun'] at hempty'
    rw [List.append_nil] at hes hes'
    rw [hrun, hrun', hes, hes', hsent]
  | false =>
    have hnone (ops : List (Op η)) : s.handledIn ops = 0 := by
      induction ops with
      | nil => rfl
      | cons op ops ih => simp [handledIn, handled, h, step_of_dead h, ih]
    have hqueue : s.queue = [] := by rwa [run_of_dead h] at hempty
    rw [run_of_dead h, run_of_dead h, hnone, hnone]
    simp [arrivals, h, hqueue]

/-- A link has sent a frame before it is connected, and nobody has handled it yet. -/
def ahead : Subscription Nat :=
  (fresh.run [.bind (.ofList [(.showSummary, 7)]), .openSock,
    .send 0 (.frame ⟨"showSummary", none, .bool true⟩)]).1

/-- The link is connected, sends one more frame, fails, and goes on to send. -/
def piecemeal : List (Op Nat) :=
  [.next, .send 0 .connected, .next, .send 0 (.frame ⟨"hideSummary", none, .null⟩),
    .send 0 (.failed (.other "lost")), .next, .next, .send 0 .connected, .pump]

def atOnce : List (Op Nat) :=
  [.send 0 .connected, .send 0 (.frame ⟨"hideSummary", none, .null⟩),
    .send 0 (.failed (.other "lost")), .send 0 .connected, .pump]

theorem run_eq_of_drained_ahead
    : ahead.run piecemeal = ahead.run atOnce
        ∧ ahead.handledIn piecemeal = 5
        ∧ ahead.handledIn atOnce = 5 :=
  run_eq_of_drained ahead (by decide) (by decide) rfl rfl rfl

end LiveTopology.Subscription
