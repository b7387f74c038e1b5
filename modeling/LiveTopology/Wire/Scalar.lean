import LiveTopology.Bytes
import LiveTopology.Wire.Fault

/-!
This module contains the binary form of numbers, doubles and texts, and of the key that stands in
front of each field.
-/

namespace LiveTopology.Wire

/-- Writes a number seven bits a byte, the lowest first. All bytes but the last have the top bit. -/
def varint (n : Nat) : List UInt8 :=
  if n < 0x80 then [UInt8.ofNat n] else UInt8.ofNat (n % 0x80 + 0x80) :: varint (n / 0x80)

/-- Reads a number below `2 ^ 64`, which takes at most ten bytes. -/
def readVarint (bs : List UInt8) : Except Fault (Nat × List UInt8) :=
  go 10 bs
where
  go : Nat → List UInt8 → Except Fault (Nat × List UInt8)
    | fuel + 1, b :: bs =>
      if b.toNat < 0x80 then
        if fuel = 0 ∧ 1 < b.toNat then .error (.of .badVarint) else .ok (b.toNat, bs)
      else do
        let (n, bs) ← go fuel bs
        .ok (b.toNat - 0x80 + 0x80 * n, bs)
    | _, _ => .error (.of .badVarint)

def double (x : Float) : List UInt8 :=
  Bytes.littleEndian 8 x.toBits.toNat

def readDouble (bs : List UInt8) : Except Fault (Float × List UInt8) :=
  if bs.length < 8 then .error (.of .tooShort)
  else .ok (Float.ofBits (UInt64.ofNat (Bytes.ofLittleEndian (bs.take 8))), bs.drop 8)

/-- Writes bytes behind their number. -/
def delimited (bs : List UInt8) : List UInt8 :=
  varint bs.length ++ bs

def text (s : String) : List UInt8 :=
  delimited (Bytes.ofText s)

def readText (bs : List UInt8) : Except Fault (String × List UInt8) := do
  let (length, bs) ← readVarint bs
  if bs.length < length then .error (.of .tooShort)
  else
    match Bytes.text? (bs.take length) with
    | some s => .ok (s, bs.drop length)
    | none => .error (.of .notText)

structure Key where
  tag : Nat
  kind : Kind
  deriving DecidableEq, Repr

def key (tag : Nat) (kind : Kind) : List UInt8 :=
  varint (tag * 8 + kind.code)

def readKey (bs : List UInt8) : Except Fault (Key × List UInt8) := do
  let (n, bs) ← readVarint bs
  if UInt32.size ≤ n then .error (.of (.badKey n))
  else
    match Kind.ofCode? (n % 8) with
    | none => .error (.of (.badKind (n % 8)))
    | some kind =>
      if n / 8 = 0 then .error (.of .badTag) else .ok (⟨n / 8, kind⟩, bs)

end LiveTopology.Wire
