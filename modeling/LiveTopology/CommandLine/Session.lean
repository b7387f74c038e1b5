import LiveTopology.Backoff
import LiveTopology.CommandLine.Respond

/-!
This module contains a session at the console: lines, reports of links and the end of waiting times
come in any order, and whenever the feed is lost it is opened again after a while.
-/

namespace LiveTopology

inductive Incident where
  | line (line : String)
  | endOfInput
  | unreadable
  | interrupt
  | report (link : Nat) (event : LinkEvent)
  /-- The session turns to the first report that has not been handled. -/
  | feed
  | timer
  deriving DecidableEq, Repr

inductive Outcome where
  | done
  | unreadable
  | feedLost
  deriving DecidableEq, Repr

structure Session (η : Type) where
  view : View η
  backoff : Backoff
  dice : Dice
  /-- How many milliseconds to wait until the feed is opened again. -/
  retry : Option Nat
  /-- The phase of the subscription when it was last looked at. -/
  lastPhase : Phase
  noReconnect : Bool
  outcome : Option Outcome

namespace Session

variable {η : Type}

def start (view : View η) (delays : Delays) (dice : Dice) (noReconnect : Bool) : Session η where
  view
  backoff := .start delays
  dice
  retry := none
  lastPhase := view.subscription.phase
  noReconnect
  outcome := none

/-- Looks at the subscription after a report was handled. -/
def observe (s : Session η) : Session η × List (Effect η) :=
  let phase := s.view.subscription.phase
  if phase = s.lastPhase then
    (s, [])
  else
    match phase with
    | .opened => ({ s with backoff := s.backoff.reset, lastPhase := phase }, [])
    | .connecting => ({ s with lastPhase := phase }, [])
    | .closed =>
      if s.noReconnect then
        ({ s with outcome := some .feedLost }, [])
      else
        let (delay, backoff, dice) := s.backoff.next s.dice
        ({ s with backoff, dice, retry := some delay, lastPhase := phase },
          [.log (.warn "topo event channel down; scheduling reconnect"
            [("attempt", toString backoff.attempts), ("delay_ms", toString delay)])])

/-- Goes on after an incident. A session that has ended does not. -/
def step (s : Session η) (incident : Incident) : Session η × List (Effect η) :=
  if s.outcome.isSome then (s, [])
  else
    match incident with
    | .line line =>
      let (view, log) := s.view.respond line
      ({ s with view }, log.map .log)
    | .endOfInput =>
      ({ s with outcome := some .done }, [.log (.info "stdin closed; shutting down" [])])
    | .unreadable => ({ s with outcome := some .unreadable }, [])
    | .interrupt =>
      ({ s with outcome := some .done }, [.log (.info "interrupted; shutting down" [])])
    | .report link event => ({ s with view := (s.view.send link event).2 }, [])
    | .feed =>
      let (handled, view, effects) := s.view.next
      if handled then
        let (s, rest) := { s with view }.observe
        (s, effects ++ rest)
      else
        (s, [])
    | .timer =>
      if s.retry.isSome then
        let (view, effects) := s.view.recover
        ({ s with view, retry := none, lastPhase := view.subscription.phase }, effects)
      else
        (s, [])

def run (s : Session η) : List Incident → Session η × List (Effect η)
  | [] => (s, [])
  | incident :: incidents =>
    let (s, first) := s.step incident
    let (s, rest) := s.run incidents
    (s, first ++ rest)

end Session

end LiveTopology
