import LiveTopology.Proofs.Feed.History

/-!
This module contains what is consistent about a subscription, and everything that can happen to a
consistent one in a single step. What holds of all runs is shown by going through these moves.
-/

namespace LiveTopology

def Notice.released? {η : Type} : Notice η → Option (Nat × Frame)
  | .released generation frame => some (generation, frame)
  | _ => none

namespace Subscription

variable {η : Type}

structure Consistent (s : Subscription η) : Prop where
  /-- Without a link, all links are closed and all generations are used up. -/
  closed : s.phase = .closed →
    s.held = none ∧ ∀ l ∈ s.links, l.generation < s.generation ∧ l.closes = 1
  /-- The link that is held is the last one, and it has the present generation. -/
  live : s.phase ≠ .closed →
    ∃ earlier, s.links = earlier ++ [⟨s.generation, 0⟩]
      ∧ s.held = some earlier.length
      ∧ ∀ l ∈ earlier, l.generation < s.generation ∧ l.closes = 1
  increasing : s.links.Pairwise fun a b => a.generation < b.generation
  pending : s.phase ≠ .connecting → s.pending = []
  lastError : s.phase ≠ .closed → s.lastError = none
  dead : s.alive = false → s.phase = .closed

/-- The ways in which one thing is done with `s`, with the moments of it and what `s` becomes. -/
inductive Moves (s : Subscription η) : Op η → List (Moment η) → Subscription η → Prop where
  | stays (op : Op η) : Moves s op [] s
  | binds (routes : Routes η) (tables : List (Dispatcher η)) (notices : List (Notice η))
      (hnotices : notices.filterMap Notice.released? = [])
      : Moves s (.bind routes) (notices.map .noticed) { s with tables }
  | opens (hphase : s.phase = .closed) (halive : s.alive = true)
      : Moves s .openSock [.noticed (.connecting (s.generation + 1) s.isBound)]
          { s with
            phase := .connecting
            links := s.links ++ [⟨s.generation + 1, 0⟩]
            held := some s.links.length
            generation := s.generation + 1
            pending := []
            lastError := none }
  | closes (hphase : s.phase ≠ .closed)
      : Moves s .closeSock [.noticed (.abandoned s.phase)] s.release
  | drops (hphase : s.phase = .closed)
      : Moves s .drop [] { s with queue := [], alive := false }
  | dropsLive (hphase : s.phase ≠ .closed)
      : Moves s .drop [.noticed (.abandoned s.phase)]
          { s.release with queue := [], alive := false }
  | sends (link : Nat) (l : LinkRecord) (event : LinkEvent) (hl : s.links[link]? = some l)
      : Moves s (.send link event) [.sent link event]
          (s.withQueue (s.queue ++ [⟨l.generation, event⟩]))
  /-- There is nobody to send to any more. -/
  | sendsInVain (link : Nat) (event : LinkEvent) (hlink : link < s.links.length)
      (halive : s.alive = false)
      : Moves s (.send link event) [.sent link event] s
  /-- A report does not come from the link that is held. -/
  | skips (envelope : Envelope) (q : List Envelope) (hq : s.queue = envelope :: q)
      (hheld : s.heldGeneration? ≠ some envelope.generation)
      : Moves s .next [.handled envelope false] (s.withQueue q)
  | connects (q : List Envelope) (hq : s.queue = ⟨s.generation, .connected⟩ :: q)
      (hphase : s.phase = .connecting)
      (tables : List (Dispatcher η)) (notices : List (Notice η))
      (hnotices : notices.filterMap Notice.released? = s.pending.map fun f => (s.generation, f))
      : Moves s .next (.handled ⟨s.generation, .connected⟩ true :: notices.map .noticed)
          { s with phase := .opened, pending := [], tables, queue := q }
  /-- A link says once more that it is connected. -/
  | repeats (q : List Envelope) (hq : s.queue = ⟨s.generation, .connected⟩ :: q)
      (hphase : s.phase = .opened)
      : Moves s .next [.handled ⟨s.generation, .connected⟩ true] (s.withQueue q)
  | waits (frame : Frame) (q : List Envelope) (hq : s.queue = ⟨s.generation, .frame frame⟩ :: q)
      (hphase : s.phase = .connecting)
      : Moves s .next [.handled ⟨s.generation, .frame frame⟩ true]
          { s with pending := s.pending ++ [frame], queue := q }
  | delivers (frame : Frame) (q : List Envelope)
      (hq : s.queue = ⟨s.generation, .frame frame⟩ :: q) (hphase : s.phase = .opened)
      (tables : List (Dispatcher η)) (notices : List (Notice η))
      (hnotices : notices.filterMap Notice.released? = [(s.generation, frame)])
      : Moves s .next (.handled ⟨s.generation, .frame frame⟩ true :: notices.map .noticed)
          { s with tables, queue := q }
  | fails (error : LinkError) (q : List Envelope)
      (hq : s.queue = ⟨s.generation, .failed error⟩ :: q) (hphase : s.phase ≠ .closed)
      : Moves s .next
          [.handled ⟨s.generation, .failed error⟩ true, .noticed (.failed error s.phase)]
          { s.release with lastError := some error, queue := q }
  | ends (q : List Envelope) (hq : s.queue = ⟨s.generation, .closed⟩ :: q)
      (hphase : s.phase ≠ .closed)
      : Moves s .next [.handled ⟨s.generation, .closed⟩ true, .noticed .ended]
          (s.release.withQueue q)

theorem consistent_fresh : Consistent (fresh : Subscription η) where
  closed := by simp [fresh]
  live := by simp [fresh]
  increasing := by simp [fresh]
  pending := by simp [fresh]
  lastError := by simp [fresh]
  dead := by simp [fresh]

theorem Consistent.heldGeneration? {s : Subscription η} (h : s.Consistent)
    : s.heldGeneration? = if s.phase = .closed then none else some s.generation := by
  unfold Subscription.heldGeneration?
  split
  . next hphase => simp [(h.closed hphase).1]
  . next hphase =>
    obtain ⟨earlier, hlinks, hheld, -⟩ := h.live hphase
    simp [hheld, hlinks]

theorem Consistent.generation_le {s : Subscription η} (h : s.Consistent) (l : LinkRecord)
    (hl : l ∈ s.links)
    : l.generation ≤ s.generation := by
  by_cases hphase : s.phase = .closed
  . exact Nat.le_of_lt ((h.closed hphase).2 l hl).1
  . obtain ⟨earlier, hlinks, -, hearlier⟩ := h.live hphase
    rw [hlinks] at hl
    rcases List.mem_append.1 hl with hl | hl
    . exact Nat.le_of_lt (hearlier l hl).1
    . simp [List.mem_singleton.1 hl]

theorem Consistent.isCurrent_iff {s : Subscription η} (h : s.Consistent) (envelope : Envelope)
    : s.isCurrent envelope = true ↔ s.heldGeneration? = some envelope.generation := by
  rw [h.heldGeneration?, isCurrent]
  split <;> grind

/-- The link that is given up is told to close, and the others are left alone. -/
theorem Consistent.release_eq {s : Subscription η} (h : s.Consistent) (hphase : s.phase ≠ .closed)
    : ∃ earlier, s.links = earlier ++ [⟨s.generation, 0⟩]
        ∧ (∀ l ∈ earlier, l.generation < s.generation ∧ l.closes = 1)
        ∧ s.release =
          { s with
            phase := .closed
            links := earlier ++ [⟨s.generation, 1⟩]
            held := none
            generation := s.generation + 1
            pending := [] } := by
  obtain ⟨earlier, hlinks, hheld, hearlier⟩ := h.live hphase
  refine ⟨earlier, hlinks, hearlier, ?_⟩
  simp [release, hheld, hlinks, List.modify_eq_take_cons_drop]

/-- To be told to close does not change the generation of a link. -/
theorem generations_release (s : Subscription η)
    : s.release.links.map LinkRecord.generation = s.links.map LinkRecord.generation := by
  unfold release
  cases s.held with
  | none => rfl
  | some link =>
    apply List.ext_getElem?
    intro i
    simp only [List.getElem?_map, List.getElem?_modify]
    cases s.links[i]? with
    | none => rfl
    | some l =>
      dsimp
      split <;> rfl

theorem releases_dispatch (s : Subscription η) (frame : Frame)
    : (s.dispatch frame).2.filterMap Notice.released? = [(s.generation, frame)] := by
  unfold dispatch Dispatcher.dispatch
  split
  . rfl
  . next table htable =>
    have : (table.notice frame).released? = none := by
      unfold Dispatcher.notice
      split <;> rfl
    dsimp
    rw [List.filterMap_cons, List.filterMap_cons, this]
    rfl

theorem releases_dispatchAll (s : Subscription η) (frames : List Frame)
    : (s.dispatchAll frames).2.filterMap Notice.released?
        =
      frames.map fun f => (s.generation, f) := by
  induction frames generalizing s with
  | nil => rfl
  | cons frame frames ih =>
    have hgeneration : (s.dispatch frame).1.generation = s.generation := by rw [dispatch_fst]
    simp [dispatchAll, releases_dispatch, ih, hgeneration]

theorem moves_openSock {s : Subscription η} (halive : s.alive = true)
    : Moves s .openSock (s.moments .openSock) (s.step .openSock).1 := by
  by_cases hphase : s.phase = .closed
  . have := Moves.opens hphase halive
    simpa [moments, reports, step, halive, openSock, hphase] using this
  . have := Moves.stays (s := s) .openSock
    simpa [moments, reports, step, halive, openSock, hphase] using this

theorem moves_closeSock {s : Subscription η} (halive : s.alive = true)
    : Moves s .closeSock (s.moments .closeSock) (s.step .closeSock).1 := by
  by_cases hphase : s.phase = .closed
  . have := Moves.stays (s := s) .closeSock
    simpa [moments, reports, step, halive, closeSock, hphase] using this
  . have := Moves.closes hphase
    simpa [moments, reports, step, halive, closeSock, hphase] using this

theorem moves_drop {s : Subscription η} (halive : s.alive = true)
    : Moves s .drop (s.moments .drop) (s.step .drop).1 := by
  by_cases hphase : s.phase = .closed
  . have := Moves.drops hphase
    simpa [moments, reports, step, halive, drop, closeSock, hphase] using this
  . have := Moves.dropsLive hphase
    simpa [moments, reports, step, halive, drop, closeSock, hphase] using this

theorem moves_send {s : Subscription η} (halive : s.alive = true) (link : Nat) (event : LinkEvent)
    : Moves s (.send link event) (s.moments (.send link event)) (s.step (.send link event)).1 := by
  cases hl : s.links[link]? with
  | none =>
    have hlink : ¬ link < s.links.length := by simpa using hl
    have := Moves.stays (s := s) (.send link event)
    simpa [moments, reports, step, halive, send, hl, hlink] using this
  | some l =>
    obtain ⟨hlink, rfl⟩ := List.getElem?_eq_some_iff.1 hl
    have := Moves.sends link _ event hl
    simpa [moments, reports, step, halive, send, hlink, withQueue] using this

theorem moves_accept {s : Subscription η} {event : LinkEvent} {q : List Envelope}
    (hq : s.queue = ⟨s.generation, event⟩ :: q) (hphase : s.phase ≠ .closed)
    : Moves s .next
        (.handled ⟨s.generation, event⟩ true :: (s.accept event).2.map .noticed)
        ((s.accept event).1.withQueue q) := by
  cases event with
  | connected =>
    by_cases hconnecting : s.phase = .connecting
    . have hfst := dispatchAll_fst { s with phase := .opened, pending := [] } s.pending
      have hreleases := releases_dispatchAll { s with phase := .opened, pending := [] } s.pending
      simp only [accept, hconnecting, if_true]
      rw [hfst]
      exact Moves.connects q hq hconnecting _ (.opened s.generation s.pending.length :: _) hreleases
    . -- A link is held, so it can only have said so before.
      have hopened : s.phase = .opened := by
        cases h : s.phase <;> simp_all
      have := Moves.repeats q hq hopened
      simpa [accept, hopened] using this
  | frame frame =>
    cases h : s.phase with
    | closed => exact absurd h hphase
    | connecting =>
      have := Moves.waits frame q hq h
      simpa [accept, h, withQueue] using this
    | opened =>
      simp only [accept, h]
      rw [dispatch_fst]
      exact Moves.delivers frame q hq h _ _ (releases_dispatch s frame)
  | failed error => exact Moves.fails error q hq hphase
  | closed => exact Moves.ends q hq hphase

theorem Consistent.moves_next {s : Subscription η} (h : s.Consistent) (halive : s.alive = true)
    : Moves s .next (s.moments .next) (s.step .next).1 := by
  cases hq : s.queue with
  | nil =>
    have := Moves.stays (s := s) .next
    simpa [moments, reports, step, halive, next, hq] using this
  | cons envelope q =>
    rw [moments, step_next halive hq]
    by_cases hheld : s.heldGeneration? = some envelope.generation
    . have hcurrent := (h.isCurrent_iff envelope).2 hheld
      rw [h.heldGeneration?] at hheld
      split at hheld
      . contradiction
      . next hphase =>
        obtain ⟨generation, event⟩ := envelope
        obtain rfl := Option.some.inj hheld
        have := moves_accept hq hphase
        simpa [reports, halive, hq, handle, hcurrent, h.heldGeneration?, hphase] using this
    . have hcurrent : ¬ s.isCurrent envelope = true := fun hc => hheld ((h.isCurrent_iff envelope).1 hc)
      have := Moves.skips envelope q hq hheld
      simpa [reports, halive, hq, handle, hcurrent, hheld] using this

/-- There is nothing else that a consistent subscription does. -/
theorem Consistent.moves_step {s : Subscription η} (h : s.Consistent) {op : Op η}
    (hop : op ≠ .pump)
    : Moves s op (s.moments op) (s.step op).1 := by
  cases halive : s.alive with
  | false =>
    rw [moments, step_of_dead halive]
    -- Links do not know that the subscription has ended, and may go on to send.
    by_cases hreports : s.reports op = []
    . simpa [hreports] using Moves.stays op
    . cases op with
      | send link event =>
        have hlink : link < s.links.length := by
          simpa [reports] using hreports
        simpa [reports, hlink] using Moves.sendsInVain link event hlink halive
      | _ => simp [reports, halive] at hreports
  | true =>
    cases op with
    | bind routes =>
      have := Moves.binds (s := s) routes (s.tables ++ [.bind routes])
        (if s.phase = .closed then [] else [.rebound s.phase]) (by split <;> rfl)
      simpa [moments, reports, step, halive, bind] using this
    | openSock => exact moves_openSock halive
    | closeSock => exact moves_closeSock halive
    | pump => contradiction
    | next => exact h.moves_next halive
    | send link event => exact moves_send halive link event
    | drop => exact moves_drop halive

theorem Consistent.release {s : Subscription η} (h : s.Consistent) (hphase : s.phase ≠ .closed)
    : s.release.Consistent := by
  obtain ⟨earlier, hlinks, hearlier, hrelease⟩ := h.release_eq hphase
  have hincreasing := h.increasing
  have hlast := h.lastError hphase
  rw [hlinks] at hincreasing
  rw [hrelease]
  refine ⟨fun _ => ⟨rfl, fun l hl => ?_⟩, by simp, ?_, by simp, by simp, by simp⟩
  . rcases List.mem_append.1 hl with hl | hl
    . obtain ⟨hgeneration, hcloses⟩ := hearlier l hl
      exact ⟨Nat.lt_succ_of_lt hgeneration, hcloses⟩
    . obtain rfl := List.mem_singleton.1 hl
      exact ⟨Nat.lt_succ_self _, rfl⟩
  . -- The number of times that a link was closed has no influence on the order.
    rw [List.pairwise_append] at hincreasing ⊢
    simpa using hincreasing

theorem Consistent.opens {s : Subscription η} (h : s.Consistent) (hphase : s.phase = .closed)
    (halive : s.alive = true)
    : Consistent
        { s with
          phase := .connecting
          links := s.links ++ [⟨s.generation + 1, 0⟩]
          held := some s.links.length
          generation := s.generation + 1
          pending := []
          lastError := none } := by
  obtain ⟨-, hclosed⟩ := h.closed hphase
  refine ⟨by simp, fun _ => ⟨s.links, rfl, rfl, fun l hl => ?_⟩, ?_, by simp, by simp, by simp [halive]⟩
  . obtain ⟨hgeneration, hcloses⟩ := hclosed l hl
    exact ⟨Nat.lt_succ_of_lt hgeneration, hcloses⟩
  . rw [List.pairwise_append]
    refine ⟨h.increasing, List.pairwise_singleton _ _, fun l hl l' hl' => ?_⟩
    obtain rfl := List.mem_singleton.1 hl'
    exact Nat.lt_succ_of_lt (hclosed l hl).1

theorem Moves.consistent {s t : Subscription η} {op : Op η} {ms : List (Moment η)}
    (hm : Moves s op ms t) (h : s.Consistent)
    : t.Consistent := by
  cases hm with
  | stays => exact h
  | binds => exact ⟨h.closed, h.live, h.increasing, h.pending, h.lastError, h.dead⟩
  | opens hphase halive => exact h.opens hphase halive
  | closes hphase => exact h.release hphase
  | drops hphase =>
    exact ⟨h.closed, h.live, h.increasing, h.pending, h.lastError, fun _ => hphase⟩
  | dropsLive hphase =>
    have := h.release hphase
    exact ⟨this.closed, this.live, this.increasing, this.pending, this.lastError, fun _ => rfl⟩
  | sends => exact ⟨h.closed, h.live, h.increasing, h.pending, h.lastError, h.dead⟩
  | sendsInVain => exact h
  | skips => exact ⟨h.closed, h.live, h.increasing, h.pending, h.lastError, h.dead⟩
  | connects q hq hphase =>
    have hlive : s.phase ≠ .closed := by simp [hphase]
    exact ⟨by simp, fun _ => h.live hlive, h.increasing, fun _ => rfl, fun _ => h.lastError hlive,
      fun hdead => absurd (h.dead hdead) hlive⟩
  | repeats => exact ⟨h.closed, h.live, h.increasing, h.pending, h.lastError, h.dead⟩
  | waits frame q hq hphase =>
    exact ⟨h.closed, h.live, h.increasing, fun hne => absurd hphase hne, h.lastError, h.dead⟩
  | delivers => exact ⟨h.closed, h.live, h.increasing, h.pending, h.lastError, h.dead⟩
  | fails error q hq hphase =>
    have := h.release hphase
    exact ⟨this.closed, this.live, this.increasing, this.pending, by simp [release], this.dead⟩
  | ends q hq hphase =>
    have := h.release hphase
    exact ⟨this.closed, this.live, this.increasing, this.pending, this.lastError, this.dead⟩

theorem Consistent.step {s : Subscription η} (h : s.Consistent) (op : Op η)
    : (s.step op).1.Consistent := by
  -- To handle all reports is to handle one after another, and what else is done is a single move.
  have hnexts (n : Nat) : ∀ {t : Subscription η}, t.Consistent →
      (t.run (List.replicate n .next)).1.Consistent := by
    induction n with
    | zero => exact fun ht => ht
    | succ n ih =>
      exact fun ht => ih ((ht.moves_step (show Op.next ≠ .pump by simp)).consistent ht)
  cases op with
  | pump =>
    rw [step_pump]
    exact hnexts _ h
  | _ => exact (h.moves_step (by simp)).consistent h

/--
What holds of a fresh subscription and is kept by every move of a consistent one holds after every
run.
-/
theorem moves_induction {P : Subscription η → List (Moment η) → Prop}
    (hfresh : P fresh [])
    (hmoves : ∀ {s t op h ms}, s.Consistent → Moves s op ms t → P s h → P t (h ++ ms))
    (ops : List (Op η))
    : (fresh.run ops).1.Consistent ∧ P (fresh.run ops).1 (fresh.history ops) := by
  apply history_induction (P := fun s h => s.Consistent ∧ P s h)
  . exact ⟨consistent_fresh, hfresh⟩
  . intro s h op hop ⟨hs, hP⟩
    have hm := hs.moves_step hop
    exact ⟨hm.consistent hs, hmoves hs hm hP⟩

theorem consistent_run (ops : List (Op η)) : (fresh.run ops).1.Consistent :=
  (moves_induction (P := fun _ _ => True) trivial (fun _ _ _ => trivial) ops).1

end Subscription

end LiveTopology
