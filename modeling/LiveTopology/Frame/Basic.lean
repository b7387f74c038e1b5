import LiveTopology.Json.Fault
import LiveTopology.Wire.Fault

/-!
This module contains the frames that the server pushes: an event tag and a payload.
-/

namespace LiveTopology

structure Frame where
  event : String
  /-- The number of the frame, if the server numbers its frames. -/
  sid : Option UInt64
  payload : Json
  deriving DecidableEq, Repr

namespace Frame

inductive Error where
  | text (cause : Json.Cause) (position : Json.Position)
  | binary (fault : Wire.Fault)
  | noEvent
  deriving DecidableEq, Repr

def Error.message : Error → String
  | .text cause position =>
    s!"failed to decode json frame: {cause.message} at line {position.line} column {position.column}"
  | .binary fault => s!"failed to decode protobuf frame: {fault.message}"
  | .noEvent => "frame has no event type"

/-- Refuses a frame without an event tag. -/
def checked (frame : Frame) : Except Error Frame :=
  if frame.event = "" then .error .noEvent else .ok frame

end Frame

end LiveTopology
