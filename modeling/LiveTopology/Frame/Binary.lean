import LiveTopology.Frame.Basic
import LiveTopology.Wire.Decoder
import LiveTopology.Wire.Encoder

/-!
This module contains the binary form of frames.
-/

namespace LiveTopology.Frame

/-- The fields of a binary frame, with the values that they have when they are left out. -/
structure Message where
  event : String
  sid : Option UInt64
  payload : Option Wire.Value

def messageStep : Wire.Step Message := fun m bs => do
  let (key, bs) ← Wire.readKey bs
  match key.tag with
  | 1 => Wire.within "WireFrame" "event" do
    Wire.expect .delimited key.kind
    let (event, bs) ← Wire.readText bs
    .ok ({ m with event }, bs)
  | 2 => Wire.within "WireFrame" "sid" do
    Wire.expect .varint key.kind
    let (sid, bs) ← Wire.readVarint bs
    .ok ({ m with sid := some (UInt64.ofNat sid) }, bs)
  | 3 => Wire.within "WireFrame" "payload" do
    let (payload, bs) ←
      Wire.message (some (Wire.Value.step (Wire.nesting - 1))) key.kind (m.payload.getD .unset) bs
    .ok ({ m with payload := some payload }, bs)
  | _ => Wire.ignore Wire.nesting key m bs

def ofBytes (bs : List UInt8) : Except Error Frame :=
  match Wire.fields messageStep 0 (bs.length + 1) ⟨"", none, none⟩ bs with
  | .error fault => .error (.binary fault)
  | .ok (m, _) =>
    checked ⟨m.event, m.sid, (m.payload.map Wire.Value.toJson).getD .empty⟩

def toBytes (frame : Frame) : List UInt8 :=
  (if frame.event = "" then [] else Wire.textField 1 frame.event)
    ++ (match frame.sid with
      | none => []
      | some sid => Wire.key 2 .varint ++ Wire.varint sid.toNat)
    ++ Wire.messageField 3 (Wire.Value.ofJson frame.payload).encode

end LiveTopology.Frame
