import LiveTopology.Frame.Binary
import LiveTopology.Frame.Text
import LiveTopology.Log

/-!
This module contains the links to the server: what a link reports to the subscription that it was
opened for, and how the messages that it receives become reports.
-/

namespace LiveTopology

inductive LinkError where
  | connect (reason : String)
  | receive (reason : String)
  | other (reason : String)
  deriving DecidableEq, Repr

def LinkError.message : LinkError → String
  | .connect reason => s!"websocket connect failed: {reason}"
  | .receive reason => s!"websocket receive failed: {reason}"
  | .other reason => reason

inductive LinkEvent where
  | connected
  | frame (frame : Frame)
  | failed (error : LinkError)
  | closed
  deriving DecidableEq, Repr

inductive Message where
  | text (s : String)
  | binary (bs : List UInt8)
  /-- A message that only keeps the connection alive. -/
  | control
  | close
  /-- There is nothing more to receive. -/
  | finished
  | error (reason : String)
  deriving DecidableEq, Repr

namespace Message

def frame? : Message → Option (Except Frame.Error Frame)
  | .text s => some (Frame.ofText s)
  | .binary bs => some (Frame.ofBytes bs)
  | _ => none

/-- The report that ends a link, if a message makes it end. -/
def ending? : Message → Option LinkEvent
  | .close | .finished => some .closed
  | .error reason => some (.failed (.receive reason))
  | _ => none

end Message

namespace Link

def skipNotice (error : Frame.Error) : Log.Record :=
  .warn "skipping undecodable frame" [("error", error.message)]

/--
What a link reports while it receives messages, and the log of those that are skipped. Without a
message that ends it, the link goes on.
-/
def reports : List Message → List LinkEvent × List Log.Record
  | [] => ([], [])
  | message :: messages =>
    match message.ending? with
    | some event => ([event], [])
    | none =>
      let (events, log) := reports messages
      match message.frame? with
      | none => (events, log)
      | some (.ok frame) => (.frame frame :: events, log)
      | some (.error error) => (events, skipNotice error :: log)

def run (messages : List Message) : List LinkEvent :=
  .connected :: (reports messages).1

end Link

end LiveTopology
