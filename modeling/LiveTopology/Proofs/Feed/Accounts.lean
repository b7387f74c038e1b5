import LiveTopology.Proofs.Feed.Moves
import LiveTopology.Proofs.Feed.Routes
import Mathlib.Algebra.GroupWithZero.Nat
import Mathlib.Data.List.Basic

/-!
This module contains that every frame is accounted for exactly once. A frame that is released is
counted by the table that is in force then, and by no other. A frame that is given up before that is
counted by none.
-/

namespace LiveTopology

def LinkEvent.frame? : LinkEvent → Option Frame
  | .frame f => some f
  | _ => none

namespace Notice

variable {η : Type}

def frame? : Notice η → Option Frame
  | .released _ frame => some frame
  | _ => none

def call? : Notice η → Option (η × Json)
  | .called handler payload => some (handler, payload)
  | _ => none

def miss? : Notice η → Option Frame
  | .unhandled frame => some frame
  | _ => none

/-- Whether a notice tells that a frame is released, or what becomes of it then. -/
def isOfFrame : Notice η → Bool
  | .released .. | .called .. | .unhandled _ | .unbound _ => true
  | _ => false

/-- Nothing that is told of frames is lost when all else is left out. -/
theorem filterMap_filter_isOfFrame {α : Type} {tell : Notice η → Option α}
    (h : ∀ notice, notice.isOfFrame = false → tell notice = none) (notices : List (Notice η))
    : (notices.filter isOfFrame).filterMap tell = notices.filterMap tell := by
  rw [List.filterMap_filter]
  congr
  funext notice
  cases hnotice : notice.isOfFrame with
  | false => exact (h notice hnotice).symm
  | true => rfl

end Notice

namespace Dispatcher

variable {η : Type}

def call? (d : Dispatcher η) (frame : Frame) : Option (η × Json) :=
  (d.handler? frame).map fun handler => (handler, frame.payload)

def miss? (d : Dispatcher η) (frame : Frame) : Option Frame :=
  if (d.handler? frame).isSome then none else some frame

theorem notice_congr {d d' : Dispatcher η} (h : d.routes = d'.routes) : d.notice = d'.notice := by
  funext frame
  simp only [notice, handler?, h]

theorem call?_congr {d d' : Dispatcher η} (h : d.routes = d'.routes) : d.call? = d'.call? := by
  funext frame
  simp only [call?, handler?, h]

theorem miss?_congr {d d' : Dispatcher η} (h : d.routes = d'.routes) : d.miss? = d'.miss? := by
  funext frame
  unfold miss? handler?
  rw [h]

@[simp]
theorem frame?_notice (d : Dispatcher η) (frame : Frame) : (d.notice frame).frame? = none := by
  unfold notice
  split <;> rfl

@[simp]
theorem call?_notice (d : Dispatcher η) (frame : Frame)
    : (d.notice frame).call? = d.call? frame := by
  unfold notice call?
  cases d.handler? frame <;> rfl

@[simp]
theorem miss?_notice (d : Dispatcher η) (frame : Frame)
    : (d.notice frame).miss? = d.miss? frame := by
  unfold notice miss?
  cases d.handler? frame <;> rfl

@[simp]
theorem isOfFrame_notice (d : Dispatcher η) (frame : Frame)
    : (d.notice frame).isOfFrame = true := by
  unfold notice
  split <;> rfl

@[simp]
theorem routes_foldl_count (d : Dispatcher η) (frames : List Frame)
    : (frames.foldl count d).routes = d.routes := by
  induction frames generalizing d with
  | nil => rfl
  | cons frame frames ih => simp [ih]

/-- A table has a handler for a frame or not, and never both. -/
theorem length_call?_add_length_miss? (d : Dispatcher η) (frames : List Frame)
    : (frames.filterMap d.call?).length + (frames.filterMap d.miss?).length = frames.length := by
  induction frames with
  | nil => rfl
  | cons frame frames ih =>
    cases hhandler : d.handler? frame <;> simp [call?, miss?, hhandler] <;> omega

/-- Whether neither counter has reached its greatest value. -/
def isExact (d : Dispatcher η) : Bool :=
  d.dispatched < UInt64.size - 1 && d.dropped < UInt64.size - 1

theorem count_of_isExact {d : Dispatcher η} {frame : Frame} (h : (d.count frame).isExact = true)
    : d.isExact = true
        ∧ (d.count frame).dispatched = d.dispatched + (d.call? frame).toList.length
        ∧ (d.count frame).dropped = d.dropped + (d.miss? frame).toList.length := by
  unfold count call? miss? isExact at *
  cases hhandler : d.handler? frame with
  | none =>
    simp_all [Count.bump]
    omega
  | some handler =>
    simp_all [Count.bump]
    omega

/-- Counters that have not reached their greatest value tell how many frames there were. -/
theorem foldl_count_of_isExact {d : Dispatcher η} {frames : List Frame}
    (h : (frames.foldl count d).isExact = true)
    : d.isExact = true
        ∧ (frames.foldl count d).dispatched = d.dispatched + (frames.filterMap d.call?).length
        ∧ (frames.foldl count d).dropped = d.dropped + (frames.filterMap d.miss?).length := by
  induction frames generalizing d with
  | nil => exact ⟨h, rfl, rfl⟩
  | cons frame frames ih =>
    obtain ⟨hcount, hdispatched, hdropped⟩ := ih h
    rw [call?_congr (routes_count d frame)] at hdispatched
    rw [miss?_congr (routes_count d frame)] at hdropped
    obtain ⟨hd, hcall, hmiss⟩ := count_of_isExact hcount
    refine ⟨hd, ?_, ?_⟩
    . rw [List.foldl_cons, hdispatched, hcall]
      cases hframe : d.call? frame <;> simp [hframe]
      omega
    . rw [List.foldl_cons, hdropped, hmiss]
      cases hframe : d.miss? frame <;> simp [hframe]
      omega

end Dispatcher

namespace Subscription

variable {η : Type}

def queued (s : Subscription η) : List Frame :=
  s.queue.flatMap fun envelope => envelope.event.frame?.toList

/-- The tables, once the one that is in force has got these frames. -/
def charge (tables : List (Dispatcher η)) (frames : List Frame) : List (Dispatcher η) :=
  tables.dropLast ++ tables.getLast?.toList.map fun table => frames.foldl Dispatcher.count table

/-- What becomes of a frame that is released now. -/
def outcome (s : Subscription η) (frame : Frame) : Notice η :=
  match s.tables.getLast? with
  | none => .unbound frame
  | some table => table.notice frame

/-- What happens when these frames are released now. -/
def entries (s : Subscription η) (frames : List Frame) : List (Notice η) :=
  frames.flatMap fun frame => [.released s.generation frame, s.outcome frame]

/-- The frames that are released when a report is handled. -/
def passed (s : Subscription η) (envelope : Envelope) : List Frame :=
  if s.isCurrent envelope then
    match envelope.event with
    | .connected => if s.phase = .connecting then s.pending else []
    | .frame frame => if s.phase = .opened then [frame] else []
    | .failed _ | .closed => []
  else
    []

/-- The frames that are given up when a report is handled. -/
def forsaken (s : Subscription η) (envelope : Envelope) : List Frame :=
  if s.isCurrent envelope then
    match envelope.event with
    | .failed _ | .closed => s.pending
    | .connected | .frame _ => []
  else
    envelope.event.frame?.toList

end Subscription

namespace Stage

open Subscription

variable {η : Type}

def after (stage : Stage η) : Subscription η :=
  (stage.before.step stage.op).1

def notices (stage : Stage η) : List (Notice η) :=
  (stage.before.step stage.op).2

def released (stage : Stage η) : List Frame :=
  stage.notices.filterMap Notice.frame?

def calls (stage : Stage η) : List (η × Json) :=
  stage.notices.filterMap Notice.call?

def misses (stage : Stage η) : List Frame :=
  stage.notices.filterMap Notice.miss?

/-- The frames that links send, even if there is nobody to report to any more. -/
def sent (stage : Stage η) : List Frame :=
  match stage.op with
  | .send link event => if link < stage.before.links.length then event.frame?.toList else []
  | _ => []

/-- The frames that have come so far that they are released. -/
def due (stage : Stage η) : List Frame :=
  match stage.op with
  | .next =>
    if stage.before.alive then stage.before.queue.head?.toList.flatMap stage.before.passed else []
  | _ => []

/-- The frames that are given up without being released. -/
def discarded (stage : Stage η) : List Frame :=
  if stage.before.alive then
    match stage.op with
    | .closeSock => stage.before.pending
    | .drop => stage.before.pending ++ stage.before.queued
    | .next => stage.before.queue.head?.toList.flatMap stage.before.forsaken
    | _ => []
  else
    stage.sent

/-- The table that is bound, if one is. -/
def bound (stage : Stage η) : List (Routes η) :=
  match stage.op with
  | .bind routes => if stage.before.alive then [routes] else []
  | _ => []

end Stage

/-- What is done while so many tables have been bound. The last of them is in force. -/
def during {η : Type} (n : Nat) (stages : List (Stage η)) : List (Stage η) :=
  stages.filter fun stage => stage.before.tables.length = n

namespace Subscription

variable {η : Type}

@[simp]
theorem charge_nil (frames : List Frame) : charge ([] : List (Dispatcher η)) frames = [] :=
  rfl

@[simp]
theorem charge_concat (earlier : List (Dispatcher η)) (table : Dispatcher η) (frames : List Frame)
    : charge (earlier ++ [table]) frames = earlier ++ [frames.foldl Dispatcher.count table] := by
  simp [charge]

@[simp]
theorem charge_of_no_frames (tables : List (Dispatcher η)) : charge tables [] = tables := by
  rcases List.eq_nil_or_concat' tables with rfl | ⟨earlier, table, rfl⟩ <;> simp

theorem charge_append (tables : List (Dispatcher η)) (frames frames' : List Frame)
    : charge tables (frames ++ frames') = charge (charge tables frames) frames' := by
  rcases List.eq_nil_or_concat' tables with rfl | ⟨earlier, table, rfl⟩ <;> simp

theorem outcome_charge (s : Subscription η) (frames : List Frame)
    : outcome { s with tables := charge s.tables frames } = s.outcome := by
  funext frame
  unfold outcome
  rcases List.eq_nil_or_concat' s.tables with h | ⟨earlier, table, h⟩
  . simp [h]
  . simp [h, Dispatcher.notice_congr (Dispatcher.routes_foldl_count table frames)]

theorem dispatch_eq (s : Subscription η) (frame : Frame)
    : s.dispatch frame
        =
      ({ s with tables := charge s.tables [frame] }, s.entries [frame]) := by
  unfold dispatch Dispatcher.dispatch entries outcome
  rcases List.eq_nil_or_concat' s.tables with h | ⟨earlier, table, h⟩
  . simp [h]
    rw [← h]
  . simp [h]

theorem dispatchAll_eq (s : Subscription η) (frames : List Frame)
    : s.dispatchAll frames
        =
      ({ s with tables := charge s.tables frames }, s.entries frames) := by
  induction frames generalizing s with
  | nil => simp [dispatchAll, entries]
  | cons frame frames ih =>
    simp only [dispatchAll, dispatch_eq, ih, ← charge_append, entries, outcome_charge]
    simp

@[simp]
theorem isOfFrame_outcome (s : Subscription η) (frame : Frame)
    : (s.outcome frame).isOfFrame = true := by
  unfold outcome
  split
  . rfl
  . apply Dispatcher.isOfFrame_notice

@[simp]
theorem frame?_outcome (s : Subscription η) (frame : Frame) : (s.outcome frame).frame? = none := by
  unfold outcome
  split
  . rfl
  . apply Dispatcher.frame?_notice

theorem filter_isOfFrame_entries (s : Subscription η) (frames : List Frame)
    : (s.entries frames).filter Notice.isOfFrame = s.entries frames := by
  rw [List.filter_eq_self]
  intro notice hnotice
  obtain ⟨frame, -, hnotice⟩ := List.mem_flatMap.1 hnotice
  rcases List.mem_cons.1 hnotice with rfl | hnotice
  . rfl
  . rw [List.mem_singleton.1 hnotice, isOfFrame_outcome]

theorem filterMap_frame?_entries (s : Subscription η) (frames : List Frame)
    : (s.entries frames).filterMap Notice.frame? = frames := by
  induction frames with
  | nil => rfl
  | cons frame frames ih =>
    have hframe : (Notice.released (η := η) s.generation frame).frame? = some frame := rfl
    rw [entries, List.flatMap_cons, List.filterMap_append, ← entries, ih]
    simp only [List.filterMap_cons, hframe, frame?_outcome]
    rfl

theorem filterMap_entries (s : Subscription η) {α : Type} {tell : Notice η → Option α}
    (h : ∀ generation frame, tell (.released generation frame) = none) (frames : List Frame)
    : (s.entries frames).filterMap tell = frames.filterMap fun frame => tell (s.outcome frame) := by
  induction frames with
  | nil => rfl
  | cons frame frames ih =>
    rw [entries, List.flatMap_cons, List.filterMap_append, ← entries, ih]
    cases houtcome : tell (s.outcome frame) <;> simp [h, houtcome]

theorem handle_accounts (s : Subscription η) (envelope : Envelope)
    : (s.handle envelope).1.tables = charge s.tables (s.passed envelope)
        ∧ (s.handle envelope).2.filter Notice.isOfFrame = s.entries (s.passed envelope) := by
  obtain ⟨generation, event⟩ := envelope
  unfold handle passed
  by_cases hcurrent : s.isCurrent ⟨generation, event⟩ = true
  . rw [if_pos hcurrent, if_pos hcurrent]
    cases event with
    | connected =>
      by_cases hphase : s.phase = .connecting
      . simp only [accept, hphase, if_true, dispatchAll_eq, true_and]
        apply filter_isOfFrame_entries
      . simp [accept, hphase, entries]
    | frame frame =>
      cases hphase : s.phase with
      | opened =>
        simp only [accept, hphase, if_true, dispatch_eq, true_and]
        apply filter_isOfFrame_entries
      | _ => simp [accept, hphase, entries]
    | failed error => simp [accept, release, entries, Notice.isOfFrame]
    | closed => simp [accept, release, entries, Notice.isOfFrame]
  . simp [hcurrent, entries]

/-- A report that is handled adds its frame to those that wait, and these leave in either way. -/
theorem Consistent.pending_handle {s : Subscription η} (h : s.Consistent) (envelope : Envelope)
    : (s.pending ++ envelope.event.frame?.toList).Perm
        (s.passed envelope ++ s.forsaken envelope ++ (s.handle envelope).1.pending) := by
  obtain ⟨generation, event⟩ := envelope
  unfold handle passed forsaken
  by_cases hcurrent : s.isCurrent ⟨generation, event⟩ = true
  . simp only [if_pos hcurrent]
    cases event with
    | connected =>
      by_cases hphase : s.phase = .connecting
      . simp [accept, hphase, dispatchAll_eq, LinkEvent.frame?]
      . simp [accept, hphase, LinkEvent.frame?]
    | frame frame =>
      cases hphase : s.phase with
      | closed => simp [isCurrent, hphase] at hcurrent
      | connecting => simp [accept, hphase, LinkEvent.frame?]
      | opened =>
        have hpending : s.pending = [] := h.pending (by simp [hphase])
        simp [accept, hphase, dispatch_eq, hpending, LinkEvent.frame?]
    | failed error => simp [accept, Subscription.release, LinkEvent.frame?]
    | closed => simp [accept, Subscription.release, LinkEvent.frame?]
  . simp [hcurrent, List.perm_append_comm]

/-- One thing that is done charges what is due to the table that is in force. -/
theorem step_accounts (s : Subscription η) {op : Op η} (hop : op ≠ .pump)
    : (s.step op).1.tables
          = charge s.tables (Stage.mk s op).due ++ (Stage.mk s op).bound.map .bind
        ∧ (s.step op).2.filter Notice.isOfFrame = s.entries (Stage.mk s op).due := by
  cases halive : s.alive with
  | false =>
    rw [step_of_dead halive]
    cases op <;> simp [Stage.bound, Stage.due, halive, entries]
  | true =>
    cases op with
    | bind routes =>
      by_cases hphase : s.phase = .closed
      . simp [step, bind, Stage.bound, Stage.due, halive, entries, hphase]
      . simp [step, bind, Stage.bound, Stage.due, halive, entries, hphase, Notice.isOfFrame]
    | openSock =>
      by_cases hphase : s.phase = .closed
      . simp [step, openSock, Stage.bound, Stage.due, halive, entries, hphase, Notice.isOfFrame]
      . simp [step, openSock, Stage.bound, Stage.due, halive, entries, hphase]
    | closeSock =>
      by_cases hphase : s.phase = .closed
      . simp [step, closeSock, Stage.bound, Stage.due, halive, entries, hphase]
      . simp [step, closeSock, release, Stage.bound, Stage.due, halive, entries, hphase,
          Notice.isOfFrame]
    | pump => contradiction
    | next =>
      cases hq : s.queue with
      | nil => simp [step, next, hq, Stage.bound, Stage.due, halive, entries]
      | cons envelope q =>
        rw [step_next halive hq]
        simpa [Stage.bound, Stage.due, halive, hq, withQueue] using s.handle_accounts envelope
    | send link event =>
      cases hl : s.links[link]? <;> simp [step, send, hl, Stage.bound, Stage.due, halive, entries]
    | drop =>
      by_cases hphase : s.phase = .closed
      . simp [step, drop, closeSock, Stage.bound, Stage.due, halive, entries, hphase]
      . simp [step, drop, closeSock, release, Stage.bound, Stage.due, halive, entries, hphase,
          Notice.isOfFrame]

/-- What waits, what is on its way and what is sent is released or given up, or goes on to wait. -/
theorem Consistent.step_conserves {s : Subscription η} (h : s.Consistent) {op : Op η}
    (hop : op ≠ .pump)
    : (s.pending ++ s.queued ++ (Stage.mk s op).sent).Perm
        ((Stage.mk s op).due ++ (Stage.mk s op).discarded ++ (s.step op).1.pending
          ++ (s.step op).1.queued) := by
  cases halive : s.alive with
  | false =>
    rw [step_of_dead halive]
    have hdue : (Stage.mk s op).due = [] := by cases op <;> simp [Stage.due, halive]
    have hdiscarded : (Stage.mk s op).discarded = (Stage.mk s op).sent := by
      simp [Stage.discarded, halive]
    rw [hdue, hdiscarded, List.nil_append, List.append_assoc (Stage.mk s op).sent]
    apply List.perm_append_comm
  | true =>
    have hpending (hphase : s.phase = .closed) : s.pending = [] := h.pending (by simp [hphase])
    cases op with
    | bind routes =>
      simp [Subscription.step, bind, Stage.due, Stage.discarded, Stage.sent, halive, queued]
    | openSock =>
      by_cases hphase : s.phase = .closed
      . simp [Subscription.step, openSock, Stage.due, Stage.discarded, Stage.sent, halive, hphase,
          hpending, queued]
      . simp [Subscription.step, openSock, Stage.due, Stage.discarded, Stage.sent, halive, hphase,
          queued]
    | closeSock =>
      by_cases hphase : s.phase = .closed
      . simp [Subscription.step, closeSock, Stage.due, Stage.discarded, Stage.sent, halive, hphase,
          hpending, queued]
      . simp [Subscription.step, closeSock, Subscription.release, Stage.due, Stage.discarded,
          Stage.sent, halive, hphase, queued]
    | pump => contradiction
    | next =>
      cases hq : s.queue with
      | nil =>
        simp [Subscription.step, next, hq, Stage.due, Stage.discarded, Stage.sent, halive, queued]
      | cons envelope q =>
        have := (h.pending_handle envelope).append_right
          (q.flatMap fun envelope => envelope.event.frame?.toList)
        rw [step_next halive hq]
        simpa [queued, hq, Stage.due, Stage.discarded, Stage.sent, halive, withQueue] using this
    | send link event =>
      cases hl : s.links[link]? with
      | none =>
        have hlink : ¬ link < s.links.length := by simpa using hl
        simp [Subscription.step, send, Stage.due, Stage.discarded, Stage.sent, halive, hlink,
          queued]
      | some l =>
        obtain ⟨hlink, -⟩ := List.getElem?_eq_some_iff.1 hl
        simp [Subscription.step, send, Stage.due, Stage.discarded, Stage.sent, halive, hlink,
          queued]
    | drop =>
      by_cases hphase : s.phase = .closed
      . simp [Subscription.step, drop, closeSock, Stage.due, Stage.discarded, Stage.sent, halive,
          hphase, hpending, queued]
      . simp [Subscription.step, drop, closeSock, Subscription.release, Stage.due, Stage.discarded,
          Stage.sent, halive, hphase, queued]

@[simp]
theorem routes_charge (tables : List (Dispatcher η)) (frames : List Frame)
    : (charge tables frames).map Dispatcher.routes = tables.map Dispatcher.routes := by
  rcases List.eq_nil_or_concat' tables with rfl | ⟨earlier, table, rfl⟩ <;> simp

@[simp]
theorem length_charge (tables : List (Dispatcher η)) (frames : List Frame)
    : (charge tables frames).length = tables.length := by
  rw [← List.length_map, routes_charge, List.length_map]

theorem getElem?_charge_of_lt {tables : List (Dispatcher η)} {k : Nat} (h : k + 1 < tables.length)
    (frames : List Frame)
    : (charge tables frames)[k]? = tables[k]? := by
  rcases List.eq_nil_or_concat' tables with rfl | ⟨earlier, table, rfl⟩
  . simp
  . have hk : k < earlier.length := by simpa using h
    simp [List.getElem?_append_left hk]

theorem getElem?_charge_of_eq {tables : List (Dispatcher η)} {k : Nat} (h : k + 1 = tables.length)
    (frames : List Frame)
    : (charge tables frames)[k]? = tables[k]?.map fun table => frames.foldl .count table := by
  rcases List.eq_nil_or_concat' tables with rfl | ⟨earlier, table, rfl⟩
  . simp
  . have hk : k = earlier.length := by simpa using h
    simp [hk]

/-- What is released is counted once, if there is a table that counts it. -/
theorem sum_charge {tables : List (Dispatcher η)} {frames : List Frame}
    (h : ∀ table ∈ charge tables frames, table.isExact = true)
    : (∀ table ∈ tables, table.isExact = true)
        ∧ ((charge tables frames).map fun table => table.dispatched + table.dropped).sum
          = (tables.map fun table => table.dispatched + table.dropped).sum
            + if tables.length = 0 then 0 else frames.length := by
  rcases List.eq_nil_or_concat' tables with rfl | ⟨earlier, table, rfl⟩
  . simp
  . simp only [charge_concat] at h ⊢
    obtain ⟨htable, hdispatched, hdropped⟩ :=
      Dispatcher.foldl_count_of_isExact (h _ (List.mem_append_right _ (List.mem_singleton_self _)))
    constructor
    . intro other hother
      rcases List.mem_append.1 hother with hother | hother
      . exact h other (List.mem_append_left _ hother)
      . rwa [List.mem_singleton.1 hother]
    . have := table.length_call?_add_length_miss? frames
      simp [hdispatched, hdropped]
      omega

end Subscription

namespace Stage

open Subscription

variable {η : Type} {stage : Stage η}

/-- How the frames of one thing that is done are accounted for. -/
structure Charged (stage : Stage η) : Prop where
  /-- Only the table in force counts, and what it counts is what is released. -/
  tables : stage.after.tables = charge stage.before.tables stage.released ++ stage.bound.map .bind
  /-- For each frame that is released one thing happens, which the table in force decides. -/
  notices : stage.notices.filter Notice.isOfFrame = stage.before.entries stage.released
  /-- A frame that waits is not counted yet. -/
  waiting : stage.op = .next → stage.before.phase = .connecting → ∀ frame q,
    stage.before.queue = ⟨stage.before.generation, .frame frame⟩ :: q →
      stage.released = []
        ∧ stage.after.tables = stage.before.tables
        ∧ stage.after.pending = stage.before.pending ++ [frame]
  /-- The frames that wait are released and counted once their link is connected. -/
  flushed : stage.op = .next → stage.before.phase = .connecting → ∀ q,
    stage.before.queue = ⟨stage.before.generation, .connected⟩ :: q →
      stage.released = stage.before.pending
        ∧ stage.after.tables = charge stage.before.tables stage.before.pending
        ∧ stage.after.pending = []
  /-- A frame that is given up is counted by none. -/
  discarded : stage.discarded ≠ [] →
    stage.released = [] ∧ stage.after.tables = stage.before.tables

theorem released_eq_due (hop : stage.op ≠ .pump) : stage.released = stage.due := by
  rw [released, ← Notice.filterMap_filter_isOfFrame (by intro notice h; cases notice <;> trivial),
    notices, (step_accounts stage.before hop).2, filterMap_frame?_entries]

theorem due_of_discarded (h : stage.discarded ≠ []) : stage.due = [] ∧ stage.bound = [] := by
  obtain ⟨s, op⟩ := stage
  cases op with
  | next =>
    refine ⟨?_, rfl⟩
    cases halive : s.alive with
    | false => simp [due, halive]
    | true =>
      cases hq : s.queue with
      | nil => simp [due, hq]
      | cons envelope q =>
        have hforsaken : s.forsaken envelope ≠ [] := by
          simpa [Stage.discarded, halive, hq] using h
        have hpassed : s.passed envelope = [] := by
          grind [forsaken, passed]
        simp [due, halive, hq, hpassed]
  | bind routes => cases halive : s.alive <;> simp [Stage.discarded, Stage.sent, halive] at h
  | _ => exact ⟨rfl, rfl⟩

theorem charged (h : stage.before.Consistent) (hop : stage.op ≠ .pump) : stage.Charged := by
  obtain ⟨htables, hnotices⟩ := step_accounts stage.before hop
  have hreleased := released_eq_due hop
  have halive (hphase : stage.before.phase = .connecting) : stage.before.alive = true := by
    by_contra hdead
    simpa [hphase] using h.dead (by simpa using hdead)
  constructor
  . rw [hreleased]
    exact htables
  . rw [hreleased]
    exact hnotices
  . intro hnext hphase frame q hq
    have hcurrent : stage.before.isCurrent ⟨stage.before.generation, .frame frame⟩ = true := by
      simp [isCurrent, hphase]
    have hdue : stage.due = [] := by simp [due, hnext, hq, passed, hcurrent, hphase]
    have hafter : stage.after = { stage.before with
        pending := stage.before.pending ++ [frame]
        queue := q } := by
      rw [after, hnext, step_next (halive hphase) hq]
      simp [handle, hcurrent, accept, hphase, withQueue]
    rw [hreleased, hafter]
    exact ⟨hdue, rfl, rfl⟩
  . intro hnext hphase q hq
    have hcurrent : stage.before.isCurrent ⟨stage.before.generation, .connected⟩ = true := by
      simp [isCurrent, hphase]
    have hdue : stage.due = stage.before.pending := by
      simp [due, hnext, halive hphase, hq, passed, hcurrent, hphase]
    have hafter : stage.after = { stage.before with
        phase := .opened
        tables := charge stage.before.tables stage.before.pending
        pending := []
        queue := q } := by
      rw [after, hnext, step_next (halive hphase) hq]
      simp [handle, hcurrent, accept, hphase, dispatchAll_eq, withQueue]
    rw [hreleased, hafter]
    exact ⟨hdue, rfl, rfl⟩
  . intro hdiscarded
    obtain ⟨hdue, hbound⟩ := due_of_discarded hdiscarded
    refine ⟨hreleased.trans hdue, ?_⟩
    apply htables.trans
    show charge stage.before.tables stage.due ++ stage.bound.map Dispatcher.bind = _
    rw [hdue, hbound]
    simp

end Stage

namespace Subscription

variable {η : Type}

/-- How the stages of a run and the subscription at its end fit together. -/
structure Balanced (s : Subscription η) (stages : List (Stage η)) : Prop where
  /-- There is one table for each that was bound, in the same order. -/
  bound : s.tables.map Dispatcher.routes = stages.flatMap Stage.bound
  charged : ∀ stage ∈ stages, stage.Charged
  /-- Every frame that is sent goes one way. -/
  conserved : (stages.flatMap Stage.sent).Perm
    (stages.flatMap Stage.released ++ stages.flatMap Stage.discarded ++ s.pending ++ s.queued)

/-- How the frames of a run are accounted for. -/
structure Accounted (s : Subscription η) (stages : List (Stage η)) : Prop
    extends s.Balanced stages where
  /-- The tables together have counted what was released, other than when there was no table. -/
  total : (stages.flatMap Stage.released).length
    = (s.tables.map fun table => table.dispatched + table.dropped).sum
      + ((during 0 stages).flatMap Stage.released).length
  /-- Without a table, no handler is called. -/
  unbound : (during 0 stages).flatMap Stage.calls = []
  /-- While a table is in force, it calls its own handlers for what is released then. -/
  calls : ∀ k table, s.tables[k]? = some table →
    (during (k + 1) stages).flatMap Stage.calls
      = ((during (k + 1) stages).flatMap Stage.released).filterMap table.call?
  dispatched : ∀ k table, s.tables[k]? = some table →
    table.dispatched = ((during (k + 1) stages).flatMap Stage.calls).length
  dropped : ∀ k table, s.tables[k]? = some table →
    table.dropped = ((during (k + 1) stages).flatMap Stage.misses).length

theorem flatMap_notices_stages (s : Subscription η) (ops : List (Op η))
    : (s.stages ops).flatMap Stage.notices = (s.run ops).2 := by
  rw [← filterMap_notice?_history, history_eq_flatMap_stages, List.filterMap_flatMap]
  simp only [filterMap_notice?_moments]
  rfl

/-- What each thing that is done keeps, even if counters are at their greatest value. -/
structure Tallied (s : Subscription η) (stages : List (Stage η)) : Prop
    extends s.Balanced stages where
  consistent : s.Consistent
  /-- No table is ever replaced by another one in its place. -/
  earlier : ∀ stage ∈ stages,
    stage.before.tables.map Dispatcher.routes <+: s.tables.map Dispatcher.routes
  /-- A table has counted what was released while it was in force. -/
  counted : ∀ k table, s.tables[k]? = some table →
    table = ((during (k + 1) stages).flatMap Stage.released).foldl .count (.bind table.routes)
  total : (∀ table ∈ s.tables, table.isExact = true) →
    (stages.flatMap Stage.released).length
      = (s.tables.map fun table => table.dispatched + table.dropped).sum
        + ((during 0 stages).flatMap Stage.released).length

theorem tallied_fresh : Tallied (fresh : Subscription η) [] where
  consistent := consistent_fresh
  charged := by simp
  bound := rfl
  earlier := by simp
  counted := by simp [fresh]
  conserved := by simp [fresh, queued]
  total := by simp [fresh, during]

theorem during_concat (n : Nat) (stages : List (Stage η)) (stage : Stage η)
    : during n (stages ++ [stage])
        =
      during n stages ++ if stage.before.tables.length = n then [stage] else [] := by
  unfold during
  by_cases h : stage.before.tables.length = n <;> simp [h]

variable {s : Subscription η} {stages : List (Stage η)} {op : Op η}

theorem Tallied.during_eq_nil (h : s.Tallied stages) {n : Nat} (hn : s.tables.length < n)
    : during n stages = [] := by
  unfold during
  rw [List.filter_eq_nil_iff]
  intro stage hstage heq
  have hle := (h.earlier stage hstage).length_le
  simp at hle heq
  omega

theorem Tallied.counted_step (h : s.Tallied stages) (hstage : (Stage.mk s op).Charged) {k : Nat}
    {table : Dispatcher η} (htable : (s.step op).1.tables[k]? = some table)
    : table
        =
      ((during (k + 1) (stages ++ [⟨s, op⟩])).flatMap Stage.released).foldl .count
        (.bind table.routes) := by
  have htables : (s.step op).1.tables
      = charge s.tables (Stage.mk s op).released ++ (Stage.mk s op).bound.map .bind := hstage.tables
  rw [htables] at htable
  rw [during_concat, List.flatMap_append]
  by_cases hk : k < s.tables.length
  . rw [List.getElem?_append_left (by simpa using hk)] at htable
    by_cases hlast : k + 1 = s.tables.length
    . -- The table in force counts what is released.
      rw [getElem?_charge_of_eq hlast, Option.map_eq_some_iff] at htable
      obtain ⟨before, hbefore, rfl⟩ := htable
      have := h.counted k before hbefore
      rw [if_pos hlast.symm, List.foldl_append, Dispatcher.routes_foldl_count, ← this]
      simp
    . rw [getElem?_charge_of_lt (by omega)] at htable
      rw [if_neg (fun heq => hlast heq.symm)]
      simpa using h.counted k table htable
  . -- A table that has just been bound has not counted anything.
    rw [List.getElem?_append_right (by simpa using hk)] at htable
    obtain ⟨routes, -, rfl⟩ := List.mem_map.1 (List.mem_of_getElem? htable)
    rw [h.during_eq_nil (by omega), if_neg (by dsimp; omega)]
    rfl

theorem Tallied.conserved_step (h : s.Tallied stages) (hop : op ≠ .pump)
    : ((stages ++ [Stage.mk s op]).flatMap Stage.sent).Perm
        ((stages ++ [Stage.mk s op]).flatMap Stage.released
          ++ (stages ++ [Stage.mk s op]).flatMap Stage.discarded ++ (s.step op).1.pending
          ++ (s.step op).1.queued) := by
  have hpast := h.conserved
  have hstep := h.consistent.step_conserves hop
  have hreleased : (Stage.mk s op).released = (Stage.mk s op).due := Stage.released_eq_due hop
  rw [List.perm_iff_count] at hpast hstep ⊢
  intro frame
  have hpast := hpast frame
  have hstep := hstep frame
  simp only [List.flatMap_append, List.flatMap_singleton, List.count_append, hreleased]
    at hpast hstep ⊢
  omega

theorem Tallied.total_step (h : s.Tallied stages) (hstage : (Stage.mk s op).Charged)
    (hexact : ∀ table ∈ (s.step op).1.tables, table.isExact = true)
    : ((stages ++ [Stage.mk s op]).flatMap Stage.released).length
        =
      ((s.step op).1.tables.map fun table => table.dispatched + table.dropped).sum
        + ((during 0 (stages ++ [Stage.mk s op])).flatMap Stage.released).length := by
  have htables : (s.step op).1.tables
      = charge s.tables (Stage.mk s op).released ++ (Stage.mk s op).bound.map .bind := hstage.tables
  rw [htables] at hexact ⊢
  obtain ⟨hexact, hsum⟩ := sum_charge fun table htable =>
    hexact table (List.mem_append_left _ htable)
  have hpast := h.total hexact
  have hbound : ((((Stage.mk s op).bound.map Dispatcher.bind).map fun table =>
      table.dispatched + table.dropped)).sum = 0 := by
    unfold Stage.bound
    split
    . split <;> rfl
    . rfl
  rw [List.map_append, List.sum_append, hsum, hbound, during_concat]
  by_cases hnone : s.tables.length = 0 <;> simp [hnone, hpast] <;> omega

theorem Tallied.step (h : s.Tallied stages) (hop : op ≠ .pump)
    : (s.step op).1.Tallied (stages ++ [⟨s, op⟩]) := by
  have hstage : (Stage.mk s op).Charged := Stage.charged h.consistent hop
  have hroutes : (s.step op).1.tables.map Dispatcher.routes
      = s.tables.map Dispatcher.routes ++ (Stage.mk s op).bound := by
    rw [show (s.step op).1.tables = _ from hstage.tables, List.map_append, routes_charge,
      List.map_map]
    congr 1
    exact List.map_id _
  refine {
    consistent := h.consistent.step op
    bound := ?bound
    charged := ?charged
    conserved := h.conserved_step hop
    earlier := ?earlier
    counted := ?counted
    total := h.total_step hstage }
  case bound => rw [hroutes, h.bound, List.flatMap_append, List.flatMap_singleton]
  case charged =>
    intro stage hmem
    rcases List.mem_append.1 hmem with hmem | hmem
    . exact h.charged stage hmem
    . rw [List.mem_singleton.1 hmem]
      exact hstage
  case earlier =>
    intro stage hmem
    rw [hroutes]
    rcases List.mem_append.1 hmem with hmem | hmem
    . exact (h.earlier stage hmem).trans (List.prefix_append _ _)
    . rw [List.mem_singleton.1 hmem]
      apply List.prefix_append
  case counted =>
    intro k table htable
    exact h.counted_step hstage htable

theorem tallied_run (ops : List (Op η)) : (fresh.run ops).1.Tallied (fresh.stages ops) :=
  stages_induction tallied_fresh (fun _ _ _ hop h => h.step hop) ops

theorem outcome_of_mem_during_zero {stage : Stage η} (h : stage ∈ during 0 stages)
    : stage.before.outcome = .unbound := by
  have hnone : stage.before.tables = [] := by simpa [during] using (List.mem_filter.1 h).2
  funext frame
  simp [outcome, hnone]

theorem Tallied.outcome_of_mem_during (h : s.Tallied stages) {k : Nat} {table : Dispatcher η}
    (htable : s.tables[k]? = some table) {stage : Stage η} (hstage : stage ∈ during (k + 1) stages)
    : stage.before.outcome = table.notice := by
  obtain ⟨hmem, hlength⟩ := List.mem_filter.1 hstage
  have hlength : stage.before.tables.length = k + 1 := by simpa using hlength
  have hk : k < stage.before.tables.length := by omega
  have hlast : stage.before.tables.getLast? = some stage.before.tables[k] := by
    rw [List.getLast?_eq_getElem?, hlength, Nat.add_sub_cancel, List.getElem?_eq_getElem hk]
  -- The table that was in force then is the one in question, but for what it has counted since.
  obtain ⟨more, hmore⟩ := h.earlier stage hmem
  have hroutes : some stage.before.tables[k].routes = some table.routes :=
    calc some stage.before.tables[k].routes
      _ = (stage.before.tables.map Dispatcher.routes)[k]? := by simp [hk]
      _ = (s.tables.map Dispatcher.routes)[k]? := by
        rw [← hmore, List.getElem?_append_left (by simpa using hk)]
      _ = some table.routes := by simp [htable]
  funext frame
  simp only [outcome, hlast, Dispatcher.notice_congr (Option.some.inj hroutes)]

/-- What is told of the frames that are released is what their outcome tells. -/
theorem Tallied.flatMap_during (h : s.Tallied stages) {α : Type} {tell : Notice η → Option α}
    (hframe : ∀ notice, notice.isOfFrame = false → tell notice = none)
    (hreleased : ∀ generation frame, tell (.released generation frame) = none) {n : Nat}
    {outcome : Frame → Notice η}
    (houtcome : ∀ stage ∈ during n stages, stage.before.outcome = outcome)
    : ((during n stages).flatMap fun stage => stage.notices.filterMap tell)
        =
      ((during n stages).flatMap Stage.released).filterMap fun frame => tell (outcome frame) := by
  rw [List.filterMap_flatMap]
  apply List.flatMap_congr
  intro stage hstage
  have hmem := (List.mem_filter.1 hstage).1
  rw [← Notice.filterMap_filter_isOfFrame hframe, (h.charged stage hmem).notices,
    filterMap_entries _ hreleased, houtcome stage hstage]

theorem Tallied.calls_during (h : s.Tallied stages) {n : Nat} {outcome : Frame → Notice η}
    (houtcome : ∀ stage ∈ during n stages, stage.before.outcome = outcome)
    : (during n stages).flatMap Stage.calls
        =
      ((during n stages).flatMap Stage.released).filterMap fun frame => (outcome frame).call? :=
  h.flatMap_during (by intro notice h; cases notice <;> trivial) (fun _ _ => rfl) houtcome

theorem Tallied.misses_during (h : s.Tallied stages) {n : Nat} {outcome : Frame → Notice η}
    (houtcome : ∀ stage ∈ during n stages, stage.before.outcome = outcome)
    : (during n stages).flatMap Stage.misses
        =
      ((during n stages).flatMap Stage.released).filterMap fun frame => (outcome frame).miss? :=
  h.flatMap_during (by intro notice h; cases notice <;> trivial) (fun _ _ => rfl) houtcome

theorem Tallied.accounted (h : s.Tallied stages) (hexact : ∀ table ∈ s.tables, table.isExact = true)
    : s.Accounted stages := by
  have hcalls (k : Nat) (table : Dispatcher η) (htable : s.tables[k]? = some table)
      : (during (k + 1) stages).flatMap Stage.calls
        = ((during (k + 1) stages).flatMap Stage.released).filterMap table.call? := by
    simpa using h.calls_during fun stage => h.outcome_of_mem_during htable
  have hmisses (k : Nat) (table : Dispatcher η) (htable : s.tables[k]? = some table)
      : (during (k + 1) stages).flatMap Stage.misses
        = ((during (k + 1) stages).flatMap Stage.released).filterMap table.miss? := by
    simpa using h.misses_during fun stage => h.outcome_of_mem_during htable
  have hcount (k : Nat) (table : Dispatcher η) (htable : s.tables[k]? = some table)
      : table.dispatched = ((during (k + 1) stages).flatMap Stage.calls).length
        ∧ table.dropped = ((during (k + 1) stages).flatMap Stage.misses).length := by
    have hcounted := h.counted k table htable
    have hexact := hexact table (List.mem_of_getElem? htable)
    rw [hcounted] at hexact
    obtain ⟨-, hdispatched, hdropped⟩ := Dispatcher.foldl_count_of_isExact hexact
    have hroutes : (Dispatcher.bind table.routes).routes = table.routes := rfl
    rw [← hcounted, Dispatcher.call?_congr hroutes] at hdispatched
    rw [← hcounted, Dispatcher.miss?_congr hroutes] at hdropped
    rw [hcalls k table htable, hmisses k table htable]
    exact ⟨hdispatched.trans (Nat.zero_add _), hdropped.trans (Nat.zero_add _)⟩
  exact {
    h.toBalanced with
    total := h.total hexact
    unbound := by
      rw [h.calls_during fun stage => outcome_of_mem_during_zero, List.filterMap_eq_nil_iff]
      intro frame hframe
      rfl
    calls := hcalls
    dispatched := fun k table htable => (hcount k table htable).1
    dropped := fun k table htable => (hcount k table htable).2 }

/-- A table that is not in force any more has counted all that it will. -/
theorem getElem?_run (s : Subscription η) (ops : List (Op η)) {k : Nat}
    (h : k + 1 < s.tables.length)
    : (s.run ops).1.tables[k]? = s.tables[k]? := by
  have hrun := stages_induction (s := s)
    (P := fun t _ => s.tables.length ≤ t.tables.length ∧ t.tables[k]? = s.tables[k]?)
    ⟨Nat.le_refl _, rfl⟩
    (fun t past op hop ⟨hlength, hk⟩ => by
      rw [(step_accounts t hop).1]
      constructor
      . simp
        omega
      . rw [List.getElem?_append_left (by simp; omega), getElem?_charge_of_lt (by omega), hk])
    ops
  exact hrun.2

/--
In whatever order tables are bound, links are asked for and given up, and reports come and are
handled: as long as no counter is at its greatest value, every frame is accounted for exactly once.
-/
theorem accounted_run (ops rest : List (Op η))
    (hexact : ∀ table ∈ (fresh.run ops).1.tables, table.isExact = true)
    : (fresh.stages ops).flatMap Stage.notices = (fresh.run ops).2
        ∧ (fresh.run ops).1.Accounted (fresh.stages ops)
        ∧ ∀ k, k + 1 < (fresh.run ops).1.tables.length →
          (fresh.run (ops ++ rest)).1.tables[k]? = (fresh.run ops).1.tables[k]? := by
  refine ⟨flatMap_notices_stages fresh ops, (tallied_run ops).accounted hexact, ?_⟩
  intro k hk
  rw [run_append]
  apply getElem?_run
  exact hk

/-- A table is bound while a frame waits, and another one before a frame comes that is stale. -/
def rebound : List (Op Nat) :=
  let routes (handler : Nat) := Routes.ofList [(.element .add .device, handler)]
  let frame (event : String) : LinkEvent := .frame ⟨event, none, .null⟩
  [.bind (routes 0), .openSock, .send 0 (frame "addDevice"), .pump, .bind (routes 1),
    .send 0 .connected, .send 0 (frame "showTraffic"), .pump, .closeSock, .bind (routes 2),
    .send 0 (frame "addDevice"), .pump]

/-- The frame that waits is not counted by the table that it came to, and the stale one by none. -/
theorem accounted_run_rebound
    : (∀ table ∈ (fresh.run rebound).1.tables, table.isExact = true)
        ∧ (fresh.run rebound).1.Accounted (fresh.stages rebound)
        ∧ ((fresh.run rebound).1.tables.map fun table => (table.dispatched, table.dropped))
          = [(0, 0), (1, 1), (0, 0)] := by
  have hexact : ∀ table ∈ (fresh.run rebound).1.tables, table.isExact = true := by decide +kernel
  exact ⟨hexact, (accounted_run rebound [] hexact).2.1, by decide +kernel⟩

end Subscription

end LiveTopology
