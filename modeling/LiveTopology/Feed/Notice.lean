import LiveTopology.Feed.Link
import LiveTopology.Feed.Routes

/-!
This module contains what happens to a subscription and to the frames that come with it, and how
that is logged.
-/

namespace LiveTopology

inductive Phase where
  | closed
  | connecting
  | opened
  deriving DecidableEq, Repr

def Phase.text : Phase → String
  | .closed => "Closed"
  | .connecting => "Connecting"
  | .opened => "Open"

/-- Something that happens, where `η` are the handlers of events. -/
inductive Notice (η : Type) where
  /-- A table is put in force although there is a link. -/
  | rebound (phase : Phase)
  | connecting (generation : Nat) (bound : Bool)
  | opened (generation : Nat) (waiting : Nat)
  | released (generation : Nat) (frame : Frame)
  | called (handler : η) (payload : Json)
  | unhandled (frame : Frame)
  | unbound (frame : Frame)
  | failed (error : LinkError) (phase : Phase)
  /-- The server has closed the link. -/
  | ended
  /-- The link is given up. -/
  | abandoned (phase : Phase)
  deriving DecidableEq, Repr

/-- What others see of a notice: handlers that are called, and log records. -/
inductive Effect (η : Type) where
  | call (handler : η) (payload : Json)
  | log (record : Log.Record)
  deriving DecidableEq, Repr

def Effect.record? {η : Type} : Effect η → Option Log.Record
  | .call .. => none
  | .log record => some record

namespace Notice

variable {η : Type}

def sidText : Option UInt64 → String
  | none => "None"
  | some sid => s!"Some({sid.toNat})"

def log : Notice η → List Log.Record
  | .rebound phase =>
    [.warn "rebinding dispatcher on a live channel" [("state", phase.text)]]
  | .connecting generation bound =>
    (if bound then []
      else [.warn "opening channel without a bound dispatcher; frames will be dropped" []])
    ++ [.info "topo event channel connecting" [("generation", toString generation)]]
  | .opened _ waiting => [.info "topo event channel open" [("buffered", toString waiting)]]
  | .released .. => []
  | .called .. => []
  | .unhandled frame =>
    [.warn "no handler for topo event; dropped"
      [("event", frame.event), ("sid", sidText frame.sid)]]
  | .unbound frame => [.warn "no dispatcher bound; frame dropped" [("event", frame.event)]]
  | .failed error phase =>
    [.warn "topo event channel failed" [("error", error.message), ("state", phase.text)]]
  | .ended => [.info "topo event channel closed by server" []]
  | .abandoned phase => [.info "topo event channel closed" [("was", phase.text)]]

def effects : Notice η → List (Effect η)
  | .called handler payload => [.call handler payload]
  | notice => notice.log.map .log

end Notice

namespace Dispatcher

variable {η : Type}

def notice (d : Dispatcher η) (frame : Frame) : Notice η :=
  match d.handler? frame with
  | some handler => .called handler frame.payload
  | none => .unhandled frame

/-- Gives a frame to its handler. Says whether it has one. -/
def dispatch (d : Dispatcher η) (frame : Frame) : Bool × Dispatcher η × Notice η :=
  ((d.handler? frame).isSome, d.count frame, d.notice frame)

end Dispatcher

end LiveTopology
