import LiveTopology.Feed.Notice

/-!
This module contains the subscription to the server's feed. It holds at most one link at a time, and
gives each link a generation of its own, so that what a link reports after it was given up is known
as stale and has no effect. Frames that come before their link is connected wait for it.
-/

namespace LiveTopology

/-- A link that was asked for: the generation of its reports, and how often it was told to close. -/
structure LinkRecord where
  generation : Nat
  closes : Nat
  deriving DecidableEq, Repr

structure Envelope where
  generation : Nat
  event : LinkEvent
  deriving DecidableEq, Repr

structure Subscription (η : Type) where
  phase : Phase
  /-- Every table that was bound. The last one is in force. -/
  tables : List (Dispatcher η)
  /-- Every link that was asked for. -/
  links : List LinkRecord
  /-- Which of the links is held. -/
  held : Option Nat
  generation : Nat
  /-- The frames that wait for the link to be connected. -/
  pending : List Frame
  /-- The failure that ended the last link. -/
  lastError : Option LinkError
  queue : List Envelope
  /-- Whether there still is somebody to report to. -/
  alive : Bool
  deriving DecidableEq, Repr

namespace Subscription

variable {η : Type}

def fresh : Subscription η where
  phase := .closed
  tables := []
  links := []
  held := none
  generation := 0
  pending := []
  lastError := none
  queue := []
  alive := true

def isBound (s : Subscription η) : Bool :=
  !s.tables.isEmpty

def closes (s : Subscription η) : Nat :=
  s.links.foldl (fun n link => n + link.closes) 0

def bind (s : Subscription η) (routes : Routes η) : Subscription η × List (Notice η) :=
  ({ s with tables := s.tables ++ [.bind routes] },
    if s.phase = .closed then [] else [.rebound s.phase])

/-- Asks for a link, unless there is one. -/
def openSock (s : Subscription η) : Subscription η × List (Notice η) :=
  if s.phase = .closed then
    let generation := s.generation + 1
    ({ s with
        phase := .connecting
        links := s.links ++ [⟨generation, 0⟩]
        held := some s.links.length
        generation
        pending := []
        lastError := none },
      [.connecting generation s.isBound])
  else
    (s, [])

/-- Gives up the link, and with it the frames that wait. -/
def release (s : Subscription η) : Subscription η :=
  { s with
    phase := .closed
    links := match s.held with
      | none => s.links
      | some link => s.links.modify link fun l => { l with closes := l.closes + 1 }
    held := none
    generation := s.generation + 1
    pending := [] }

def closeSock (s : Subscription η) : Subscription η × List (Notice η) :=
  if s.phase = .closed then (s, []) else (s.release, [.abandoned s.phase])

def dispatch (s : Subscription η) (frame : Frame) : Subscription η × List (Notice η) :=
  match s.tables.getLast? with
  | none => (s, [.released s.generation frame, .unbound frame])
  | some table =>
    let (_, table, notice) := table.dispatch frame
    ({ s with tables := s.tables.dropLast ++ [table] }, [.released s.generation frame, notice])

def dispatchAll (s : Subscription η) : List Frame → Subscription η × List (Notice η)
  | [] => (s, [])
  | frame :: frames =>
    let (s, first) := s.dispatch frame
    let (s, rest) := s.dispatchAll frames
    (s, first ++ rest)

/-- Whether a report comes from the link that is held. -/
def isCurrent (s : Subscription η) (envelope : Envelope) : Bool :=
  envelope.generation = s.generation && s.phase ≠ .closed

/-- Handles a report of the link that is held. -/
def accept (s : Subscription η) : LinkEvent → Subscription η × List (Notice η)
  | .connected =>
    if s.phase = .connecting then
      let (t, notices) := { s with phase := .opened, pending := [] }.dispatchAll s.pending
      (t, .opened s.generation s.pending.length :: notices)
    else
      (s, [])
  | .frame frame =>
    match s.phase with
    | .connecting => ({ s with pending := s.pending ++ [frame] }, [])
    | .opened => s.dispatch frame
    | .closed => (s, [])
  | .failed error => ({ s.release with lastError := some error }, [.failed error s.phase])
  | .closed => (s.release, [.ended])

/-- Handles a report, which has no effect if it is stale. -/
def handle (s : Subscription η) (envelope : Envelope) : Subscription η × List (Notice η) :=
  if s.isCurrent envelope then s.accept envelope.event else (s, [])

def handleAll (s : Subscription η) : List Envelope → Subscription η × List (Notice η)
  | [] => (s, [])
  | envelope :: envelopes =>
    let (s, first) := s.handle envelope
    let (s, rest) := s.handleAll envelopes
    (s, first ++ rest)

/-- Handles all reports that have come. Says how many they were. -/
def pump (s : Subscription η) : Nat × Subscription η × List (Notice η) :=
  (s.queue.length, { s with queue := [] }.handleAll s.queue)

/-- Handles the report that has come first, if any has. Says whether one has. -/
def next (s : Subscription η) : Bool × Subscription η × List (Notice η) :=
  match s.queue with
  | [] => (false, s, [])
  | envelope :: queue => (true, { s with queue }.handle envelope)

/-- Takes in what a link reports. Says whether there is still somebody to report to. -/
def send (s : Subscription η) (link : Nat) (event : LinkEvent) : Bool × Subscription η :=
  match s.links[link]? with
  | some l =>
    if s.alive then (true, { s with queue := s.queue ++ [⟨l.generation, event⟩] }) else (false, s)
  | none => (false, s)

def drop (s : Subscription η) : Subscription η × List (Notice η) :=
  let (s, notices) := s.closeSock
  ({ s with queue := [], alive := false }, notices)

inductive Op (η : Type) where
  | bind (routes : Routes η)
  | openSock
  | closeSock
  | pump
  | next
  | send (link : Nat) (event : LinkEvent)
  | drop
  deriving DecidableEq, Repr

/-- Does one thing with a subscription. With one that has ended, nothing can be done. -/
def step (s : Subscription η) (op : Op η) : Subscription η × List (Notice η) :=
  if s.alive then
    match op with
    | .bind routes => s.bind routes
    | .openSock => s.openSock
    | .closeSock => s.closeSock
    | .pump => s.pump.2
    | .next => s.next.2
    | .send link event => ((s.send link event).2, [])
    | .drop => s.drop
  else
    (s, [])

def run (s : Subscription η) : List (Op η) → Subscription η × List (Notice η)
  | [] => (s, [])
  | op :: ops =>
    let (s, first) := s.step op
    let (s, rest) := s.run ops
    (s, first ++ rest)

end Subscription

end LiveTopology
