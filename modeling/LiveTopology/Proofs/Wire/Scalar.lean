import LiveTopology.Proofs.Decimal.Packing
import LiveTopology.Wire.Scalar

/-!
This module contains the proof that what is written in binary form is read back, whatever follows
it: numbers, doubles, texts and keys.
-/

namespace LiveTopology

namespace Bytes

theorem ofLittleEndian_littleEndian (size n : Nat)
    : ofLittleEndian (littleEndian size n) = n % 0x100 ^ size := by
  induction size generalizing n with
  | zero =>
    rw [Nat.pow_zero, Nat.mod_one]
    rfl
  | succ size ih =>
    unfold littleEndian ofLittleEndian
    rw [ih, Nat.pow_succ', Nat.mod_mul, UInt8.toNat_ofNat']
    omega

end Bytes

namespace Wire

theorem go_varint (fuel n : Nat) (rest : List UInt8) (h : n < 2 ^ (7 * fuel + 1))
    : readVarint.go (fuel + 1) (varint n ++ rest) = .ok (n, rest) := by
  induction fuel generalizing n with
  | zero =>
    have hn : n < 0x80 := by omega
    have hbyte : (UInt8.ofNat n).toNat = n := by
      rw [UInt8.toNat_ofNat']
      omega
    unfold varint
    rw [if_pos hn, List.singleton_append]
    unfold readVarint.go
    rw [hbyte, if_pos hn, if_neg (by omega)]
  | succ fuel ih =>
    unfold varint
    by_cases hn : n < 0x80
    . have hbyte : (UInt8.ofNat n).toNat = n := by
        rw [UInt8.toNat_ofNat']
        omega
      rw [if_pos hn, List.singleton_append]
      unfold readVarint.go
      rw [hbyte, if_pos hn, if_neg (by omega)]
    . have hbyte : (UInt8.ofNat (n % 0x80 + 0x80)).toNat = n % 0x80 + 0x80 := by
        rw [UInt8.toNat_ofNat']
        omega
      have hrest : n / 0x80 < 2 ^ (7 * fuel + 1) := by
        rw [Nat.div_lt_iff_lt_mul (by decide), ← Nat.pow_add 2 (7 * fuel + 1) 7]
        exact h
      rw [if_neg hn, List.cons_append]
      unfold readVarint.go
      rw [hbyte, if_neg (by omega), ih _ hrest]
      show Except.ok (n % 0x80 + 0x80 - 0x80 + 0x80 * (n / 0x80), rest) = _
      congr 2
      omega

theorem readVarint_varint {n : Nat} (h : n < UInt64.size) (rest : List UInt8)
    : readVarint (varint n ++ rest) = .ok (n, rest) := by
  unfold readVarint
  apply go_varint
  exact h

theorem readDouble_double (x : Float) (rest : List UInt8)
    : readDouble (double x ++ rest) = .ok (x, rest) := by
  have hlength : (double x).length = 8 := Bytes.length_littleEndian 8 _
  have hbits : UInt64.ofNat (Bytes.ofLittleEndian (double x)) = x.toBits := by
    have hlt : x.toBits.toNat < 0x100 ^ 8 := x.toBits.toNat_lt
    unfold double
    rw [Bytes.ofLittleEndian_littleEndian, Nat.mod_eq_of_lt hlt, UInt64.ofNat_toNat]
  unfold readDouble
  rw [if_neg, List.take_left' hlength, List.drop_left' hlength, hbits, Packing.ofBits_toBits]
  rw [List.length_append]
  omega

theorem readText_text {s : String} (h : (Bytes.ofText s).length < UInt64.size) (rest : List UInt8)
    : readText (text s ++ rest) = .ok (s, rest) := by
  unfold readText text delimited
  rw [List.append_assoc, readVarint_varint h]
  show (if (Bytes.ofText s ++ rest).length < (Bytes.ofText s).length then _ else _) = _
  rw [if_neg, List.take_left, List.drop_left, Bytes.text?_ofText]
  rw [List.length_append]
  omega

theorem readKey_key {tag : Nat} (kind : Kind) (hpos : 0 < tag) (hsize : tag < 2 ^ 29)
    (rest : List UInt8) : readKey (key tag kind ++ rest) = .ok (⟨tag, kind⟩, rest) := by
  have hcode : kind.code < 8 := by
    cases kind <;> decide
  have hkind : Kind.ofCode? kind.code = some kind := by
    cases kind <;> rfl
  have hnumber : tag * 8 + kind.code < UInt32.size := by
    show _ < 2 ^ 32
    omega
  have hmod : (tag * 8 + kind.code) % 8 = kind.code := by omega
  have hdiv : (tag * 8 + kind.code) / 8 = tag := by omega
  unfold readKey key
  rw [readVarint_varint (Nat.lt_trans hnumber (by decide))]
  show (if UInt32.size ≤ tag * 8 + kind.code then _ else _) = _
  rw [if_neg (by omega), hmod, hkind, hdiv]
  show (if tag = 0 then _ else _) = _
  rw [if_neg (by omega)]

end Wire

end LiveTopology
