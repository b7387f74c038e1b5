import LiveTopology.Frame.Basic
import LiveTopology.Json.Record

/-!
This module contains the text form of frames.
-/

namespace LiveTopology.Frame

structure Draft where
  event : Option String
  sid : Option (Option UInt64)
  payload : Option Json

/--
A frame needs an event tag, which goes by two names. Without a payload it carries the empty object.
-/
def record : Json.Record Draft where
  title := "struct Frame"
  fields := [
    { name := "type"
      aliases := ["event"]
      required := true
      given := (·.event.isSome)
      read := fun draft cs => do
        let (event, cs) ← Json.Read.text cs
        .ok ({ draft with event := some event }, cs) },
    { name := "sid"
      aliases := []
      required := false
      given := (·.sid.isSome)
      read := fun draft cs => do
        let (sid, cs) ← Json.Read.option Json.Read.word64 cs
        .ok ({ draft with sid := some sid }, cs) },
    { name := "payload"
      aliases := []
      required := false
      given := (·.payload.isSome)
      read := fun draft cs => do
        let (payload, cs) ← Json.Read.value (Json.Read.nesting - 1) cs
        .ok ({ draft with payload := some payload }, cs) }]
  start := ⟨none, none, none⟩

def ofDraft (draft : Draft) : Frame where
  event := draft.event.getD ""
  sid := draft.sid.getD none
  payload := draft.payload.getD .empty

def ofText (s : String) : Except Error Frame :=
  match Json.Read.whole record.read s.toList with
  | .error fault => .error (.text fault.cause (fault.position s.toList))
  | .ok draft => (ofDraft draft).checked

/-- The members of the object that stands for a frame, in the order in which they are written. -/
def members (frame : Frame) : List (String × Json) :=
  [("type", .string frame.event)]
    ++ (frame.sid.map fun sid => ("sid", Json.number (.int sid.toNat))).toList
    ++ [("payload", frame.payload)]

def toText (frame : Frame) : String :=
  (Json.object frame.members).text

end LiveTopology.Frame
