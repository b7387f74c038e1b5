import LiveTopology.Bytes
import LiveTopology.Socket.Fault

/-!
This module contains the packets that are sent over a socket.
-/

namespace LiveTopology.Socket

inductive Opcode where
  | continuation
  | text
  | binary
  | close
  | ping
  | pong
  deriving DecidableEq, Repr

namespace Opcode

def code : Opcode → Nat
  | .continuation => 0
  | .text => 1
  | .binary => 2
  | .close => 8
  | .ping => 9
  | .pong => 10

def ofCode? : Nat → Option Opcode
  | 0 => some .continuation
  | 1 => some .text
  | 2 => some .binary
  | 8 => some .close
  | 9 => some .ping
  | 10 => some .pong
  | _ => none

def isControl : Opcode → Bool
  | .continuation | .text | .binary => false
  | .close | .ping | .pong => true

end Opcode

structure Packet where
  /-- Whether a message ends with this packet. -/
  final : Bool
  /-- Whether a bit is set that has no meaning. -/
  reserved : Bool
  masked : Bool
  opcode : Opcode
  payload : List UInt8
  deriving DecidableEq, Repr

namespace Packet

def limit : Nat := 0x1000000

/-- The packet at the front of `bs`, if all of it has come, and the bytes behind it. -/
def read : List UInt8 → Except Fault (Option (Packet × List UInt8))
  | first :: second :: bs =>
    let short := second.toNat % 0x80
    let extra := if short = 126 then 2 else if short = 127 then 8 else 0
    let mask := if second.toNat < 0x80 then 0 else 4
    if bs.length < extra + mask then .ok none
    else
      match Opcode.ofCode? (first.toNat % 0x10) with
      | none => .error (.protocol (.unknownOpcode (first.toNat % 0x10)))
      | some opcode =>
        let size := if extra = 0 then short else Bytes.ofBigEndian (bs.take extra)
        let bs := bs.drop (extra + mask)
        if limit < size then .error (.tooLong size limit)
        else if bs.length < size then .ok none
        else
          .ok (some (⟨0x80 ≤ first.toNat, first.toNat / 0x10 % 8 ≠ 0, mask ≠ 0, opcode,
            bs.take size⟩, bs.drop size))
  | _ => .ok none

theorem length_lt_of_read {bs rest : List UInt8} {p : Packet}
    (h : read bs = .ok (some (p, rest))) : rest.length < bs.length := by
  unfold read at h
  split at h
  . grind
  . simp at h

/-- The length of a payload, in the fewest bytes. The first of them has a bit for the mask. -/
def writeLength (masked : Bool) (n : Nat) : List UInt8 :=
  let bit := if masked then 0x80 else 0
  if n < 126 then [UInt8.ofNat (n + bit)]
  else if n < UInt16.size then UInt8.ofNat (126 + bit) :: Bytes.bigEndian 2 n
  else UInt8.ofNat (127 + bit) :: Bytes.bigEndian 8 n

/-- `bs`, each changed by the byte of the mask whose turn it is. -/
def cover (mask : List UInt8) (bs : List UInt8) : List UInt8 :=
  bs.mapIdx fun i b => b ^^^ mask.getD (i % 4) 0

/--
A packet that is a message of its own. A mask of four bytes covers what is sent to a server, and
nothing covers what a server sends.
-/
def write (mask : List UInt8) (opcode : Opcode) (payload : List UInt8) : List UInt8 :=
  UInt8.ofNat (opcode.code + 0x80) :: writeLength (!mask.isEmpty) payload.length ++ mask
    ++ cover mask payload

end Packet

end LiveTopology.Socket
