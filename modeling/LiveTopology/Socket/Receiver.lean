import LiveTopology.Feed.Link
import LiveTopology.Socket.Packet

/-!
This module contains how the bytes that come over a socket become messages, and which packets are
sent in reply.
-/

namespace LiveTopology.Socket

/-- How many bytes the characters that start with this byte have, if any do. -/
def charSize (lead : UInt8) : Nat :=
  if lead < 0x80 then 1
  else if lead < 0xC2 then 0
  else if lead < 0xE0 then 2
  else if lead < 0xF0 then 3
  else if lead < 0xF5 then 4
  else 0

/-- The bytes that can stand behind the first byte of a character. -/
def isSecond (lead second : UInt8) : Bool :=
  let low := if lead = 0xE0 then 0xA0 else if lead = 0xF0 then 0x90 else 0x80
  let high := if lead = 0xED then 0x9F else if lead = 0xF4 then 0x8F else 0xBF
  low ≤ second && second ≤ high

/-- Whether `bs` are the first bytes of a character, but not all of them. -/
def startsChar : List UInt8 → Bool
  | [] => true
  | [lead] => 1 < charSize lead
  | lead :: second :: rest =>
    rest.length + 2 < charSize lead && isSecond lead second
      && rest.all fun b => 0x80 ≤ b && b < 0xC0

/-- Whether `bs` are a text whose last character may still be incomplete. -/
def startsText (bs : List UInt8) : Bool :=
  (List.range 4).any fun k =>
    k ≤ bs.length && startsChar (bs.drop (bs.length - k))
      && (Bytes.text? (bs.take (bs.length - k))).isSome

structure Unfinished where
  isText : Bool
  payload : List UInt8
  deriving DecidableEq, Repr

structure Reply where
  opcode : Opcode
  payload : List UInt8
  deriving DecidableEq, Repr

structure Receiver where
  /-- The bytes that do not make a packet yet. -/
  buffer : List UInt8
  unfinished : Option Unfinished
  ended : Bool
  deriving DecidableEq, Repr

structure Receipt where
  messages : List Message
  replies : List Reply
  receiver : Receiver
  deriving DecidableEq, Repr

namespace Receiver

/-- The number of bytes that a message can hold. -/
def limit : Nat := 0x4000000

/-- A receiver behind the answer of the server, with the bytes that came with the answer. -/
def start (bs : List UInt8) : Receiver :=
  ⟨bs, none, false⟩

def complete (u : Unfinished) : Except Fault Message :=
  if u.isText then
    match Bytes.text? u.payload with
    | some s => .ok (.text s)
    | none => .error .notText
  else
    .ok (.binary u.payload)

/-- Appends a packet to a message. What cannot become a text any more is refused at once. -/
def extend (u : Unfinished) (payload : List UInt8) : Except Fault Unfinished :=
  let size := u.payload.length + payload.length
  if limit < size then .error (.tooLong size limit)
  else
    let u := { u with payload := u.payload ++ payload }
    if u.isText && !startsText u.payload then .error .notText else .ok u

def isReason (code : Nat) : Bool :=
  (1000 ≤ code && code ≤ 1003) || (1007 ≤ code && code ≤ 1013) || (3000 ≤ code && code < 5000)

def closing (payload : List UInt8) : Except Fault Reply :=
  match payload with
  | [] => .ok ⟨.close, []⟩
  | [_] => .error (.protocol .badClose)
  | a :: b :: reason =>
    if (Bytes.text? reason).isNone then .error .notText
    else if isReason (Bytes.ofBigEndian [a, b]) then .ok ⟨.close, payload⟩
    else .ok ⟨.close, Bytes.bigEndian 2 1002 ++ Bytes.ofText "Protocol violation"⟩

def control (p : Packet) : Except Fault (Message × List Reply) :=
  if !p.final then .error (.protocol .fragmentedControl)
  else if 125 < p.payload.length then .error (.protocol .longControl)
  else
    match p.opcode with
    | .close => do .ok (.close, [← closing p.payload])
    | .ping => .ok (.control, [⟨.pong, p.payload⟩])
    | _ => .ok (.control, [])

/-- Takes in a packet of a message. Gives the message if it is complete. -/
def data (unfinished : Option Unfinished) (p : Packet)
    : Except Fault (Option Message × Option Unfinished) := do
  let u ← match p.opcode, unfinished with
    | .continuation, none => .error (.protocol .nothingToContinue)
    | .continuation, some u => extend u p.payload
    | opcode, some _ =>
      .error (.protocol (.interrupted (if opcode = .text then "TEXT" else "BINARY")))
    | opcode, none =>
      let u : Unfinished := ⟨opcode = .text, []⟩
      if p.final then .ok { u with payload := p.payload } else extend u p.payload
  if p.final then .ok (some (← complete u), none) else .ok (none, some u)

def accept (r : Receiver) (p : Packet) : Except Fault Receipt :=
  if p.reserved then .error (.protocol .reservedBits)
  else if p.masked then .error (.protocol .masked)
  else if p.opcode.isControl then do
    let (message, replies) ← control p
    .ok ⟨[message], replies, { r with ended := message = .close }⟩
  else do
    let (message, unfinished) ← data r.unfinished p
    .ok ⟨message.toList, [], { r with unfinished }⟩

def fail (r : Receiver) (fault : Fault) : Receipt :=
  ⟨[.error fault.message], [], { r with ended := true }⟩

def drain (r : Receiver) : Receipt :=
  if r.ended then ⟨[], [], r⟩
  else
    match h : Packet.read r.buffer with
    | .error fault => r.fail fault
    | .ok none => ⟨[], [], r⟩
    | .ok (some (p, rest)) =>
      match { r with buffer := rest }.accept p with
      | .error fault => r.fail fault
      | .ok first =>
        have := Packet.length_lt_of_read h
        let more := drain { first.receiver with buffer := rest }
        ⟨first.messages ++ more.messages, first.replies ++ more.replies, more.receiver⟩
termination_by r.buffer.length

def take (r : Receiver) (bs : List UInt8) : Receipt :=
  drain { r with buffer := r.buffer ++ bs }

def hangUp (r : Receiver) : Receipt :=
  if r.ended then ⟨[], [], r⟩ else r.fail (.protocol .reset)

end Receiver

end LiveTopology.Socket
