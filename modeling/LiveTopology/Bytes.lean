/-!
This module contains the ways in which numbers and texts are written as bytes.
-/

namespace LiveTopology.Bytes

/-- The last `size` bytes of `n`, the lowest first. -/
def littleEndian : Nat → Nat → List UInt8
  | 0, _ => []
  | size + 1, n => UInt8.ofNat (n % 0x100) :: littleEndian size (n / 0x100)

/-- The number whose bytes are `bs`, the lowest first. -/
def ofLittleEndian : List UInt8 → Nat
  | [] => 0
  | b :: bs => b.toNat + 0x100 * ofLittleEndian bs

def bigEndian (size n : Nat) : List UInt8 :=
  (littleEndian size n).reverse

def ofBigEndian (bs : List UInt8) : Nat :=
  ofLittleEndian bs.reverse

def ofText (s : String) : List UInt8 :=
  s.toByteArray.data.toList

def text? (bs : List UInt8) : Option String :=
  String.fromUTF8? ⟨bs.toArray⟩

@[simp]
theorem length_littleEndian (size n : Nat) : (littleEndian size n).length = size := by
  induction size generalizing n with
  | zero => rfl
  | succ size ih => simp [littleEndian, ih]

@[simp]
theorem text?_ofText (s : String) : text? (ofText s) = some s := by
  have h : text? (ofText s) = String.fromUTF8? s.toByteArray := by
    simp [text?, ofText]
  rw [h, String.fromUTF8?, dif_pos s.isValidUTF8]
  rfl

end LiveTopology.Bytes
