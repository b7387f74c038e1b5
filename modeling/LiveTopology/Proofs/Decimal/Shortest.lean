import LiveTopology.Decimal.Layout
import LiveTopology.Decimal.Numeral
import LiveTopology.Proofs.Decimal.Value

/-!
This module contains that the digits that are chosen for a double stand for it, and that a double is
known by its size and its sign.
-/

namespace LiveTopology.Decimal

open Float.Model Float.Model.UnpackedFloat

theorem value_exact (m : Nat) (e : Int) : (exact m e).value = m * 2 ^ e := by
  unfold exact
  split
  . next hsign =>
    obtain ⟨k, rfl⟩ := Int.eq_ofNat_of_zero_le hsign
    simp [value]
  . next hsign =>
    obtain ⟨k, hk⟩ := Int.eq_ofNat_of_zero_le (show 0 ≤ -e by omega)
    have he : e = -(k : Int) := by omega
    subst he
    have hten : (10 : Rat) ^ k = 5 ^ k * 2 ^ k := by
      rw [← mul_pow]
      norm_num
    simp only [value, neg_neg, Int.toNat_natCast, zpow_neg, zpow_natCast, hten, Nat.pow_eq]
    push_cast
    field_simp

theorem canonical_of_unpack {x : Float} {sign : Sign} {m : Nat} {e : Int} {hm : 0 < m}
    (h : x.toModel.unpack = .finite sign m e hm)
    : max ((m.log2 : Int) + e - 52) (-1074) = e := by
  rcases Packing.format_of_unpack _ h with ⟨hle, hlt, hmin, -⟩ | ⟨hlt, rfl⟩
  . have : m.log2 = 52 := Rounding.log2_eq_of_bounds hle hlt
    omega
  . have : m.log2 < 52 := (Nat.log2_lt hm.ne').2 hlt
    omega

theorem toFloat_of_search {tie : Tie} {x : Float} {m : Nat} {e : Int} {d : Decimal}
    (h : search tie x m e = some d) : d.toFloat = x := by
  obtain ⟨n, -, hd⟩ := List.exists_of_findSome?_eq_some h
  simpa using List.find?_some hd

theorem isFinite_cases {x : Float} (hx : x.isFinite = true)
    : (∃ sign, x.toModel.unpack = .zero sign)
        ∨ ∃ sign m e hm, x.toModel.unpack = .finite sign m e hm := by
  have hfinite : x.toModel.unpack.isFinite = true := hx
  cases hunpack : x.toModel.unpack with
  | zero sign => exact .inl ⟨sign, rfl⟩
  | finite sign m e hm => exact .inr ⟨sign, m, e, hm, rfl⟩
  | infinity sign =>
    rw [hunpack] at hfinite
    contradiction
  | notANumber =>
    rw [hunpack] at hfinite
    contradiction

theorem abs_eq (x : Float) : x.abs = .ofModel (.pack x.toModel.unpack.abs) :=
  rfl

/-- The digits that are chosen for a double are read as its size. -/
theorem toFloat_shortest (tie : Tie) {x : Float} (hx : x.isFinite = true)
    : (shortest tie x).toFloat = x.abs := by
  unfold shortest
  rcases isFinite_cases hx with ⟨sign, hunpack⟩ | ⟨sign, m, e, hm, hunpack⟩
  . rw [abs_eq, hunpack]
    exact toFloat_of_digits_eq_zero rfl
  . rw [hunpack]
    simp only
    cases hsearch : search tie x.abs m e with
    | some d => exact toFloat_of_search hsearch
    | none =>
      rw [abs_eq, hunpack]
      exact toFloat_of_value_eq hm (canonical_of_unpack hunpack) (value_exact m e)

theorem shortest_of_unpack_zero (tie : Tie) {x : Float} {sign : Sign}
    (h : x.toModel.unpack = .zero sign) : shortest tie x = ⟨0, 0⟩ := by
  unfold shortest
  rw [h]

theorem shortest_of_unpack_finite (tie : Tie) {x : Float} {sign : Sign} {m : Nat} {e : Int}
    {hm : 0 < m} (h : x.toModel.unpack = .finite sign m e hm)
    : (shortest tie x).digits ≠ 0 := by
  intro hzero
  have hfinite : x.isFinite = true := by
    show x.toModel.unpack.isFinite = true
    rw [h]
    rfl
  have hsize := toFloat_shortest tie hfinite
  rw [toFloat_of_digits_eq_zero hzero, abs_eq, h] at hsize
  have hunpack := congrArg (fun x : Float => x.toModel.unpack) hsize
  have hback : UnpackedFloat.zero .positive = .finite .positive m e hm :=
    hunpack.trans (Packing.unpack_pack_of_unpack _ h .positive)
  contradiction

theorem toNat_unpackSign (b : UInt64)
    : (@unpackSign Format.binary64 b.toBitVec).toNat = (b >>> 63).toNat := by
  have hbound := b.toNat_lt
  have hsign : (@unpackSign Format.binary64 b.toBitVec).toNat = b.toNat >>> 63 % 2 := by
    unfold unpackSign
    rw [BitVec.toNat_cast, BitVec.extractLsb_toNat]
    rfl
  rw [hsign, UInt64.toNat_shiftRight]
  show b.toNat >>> 63 % 2 = b.toNat >>> 63
  omega

theorem isNegative_eq (x : Float) {sign : Sign}
    (h : sign = Sign.ofBitVec (@unpackSign Format.binary64 x.toModel.toBits.toBitVec))
    : isNegative x = (sign == .negative) := by
  have hsign := toNat_unpackSign x.toModel.toBits
  rw [h]
  unfold isNegative Float.toBits
  rcases BitVec.eq_zero_or_eq_one
    (@unpackSign Format.binary64 x.toModel.toBits.toBitVec) with heq | heq
  . rw [heq] at hsign ⊢
    rw [show x.toModel.toBits >>> 63 = 0 from UInt64.toNat_inj.1 hsign.symm]
    rfl
  . rw [heq] at hsign ⊢
    rw [show x.toModel.toBits >>> 63 = 1 from UInt64.toNat_inj.1 hsign.symm]
    rfl

/-- A double is known by its sign and its size. -/
theorem signed_isNegative {x : Float} (hx : x.isFinite = true)
    : signed (isNegative x) x.abs = x := by
  apply Packing.eq_of_unpack_eq
  rcases isFinite_cases hx with ⟨sign, hunpack⟩ | ⟨sign, m, e, hm, hunpack⟩
  . rw [isNegative_eq x (Packing.sign_of_unpack_zero _ hunpack), abs_eq, hunpack]
    cases sign <;> rfl
  . have hback := Packing.unpack_pack_of_unpack _ hunpack
    rw [isNegative_eq x (Packing.sign_of_unpack_finite _ hunpack), abs_eq, hunpack]
    cases sign with
    | positive => exact hback .positive
    | negative =>
      show UnpackedFloat.unpack Format.binary64 (UnpackedFloat.pack Format.binary64
        (UnpackedFloat.unpack Format.binary64 (UnpackedFloat.pack Format.binary64
          (.finite .positive m e hm))).neg) = _
      rw [hback .positive]
      exact hback .negative

theorem isFinite_abs {x : Float} (hx : x.isFinite = true) : x.abs.isFinite = true := by
  rw [abs_eq]
  show (UnpackedFloat.unpack Format.binary64
    (UnpackedFloat.pack Format.binary64 x.toModel.unpack.abs)).isFinite = true
  rcases isFinite_cases hx with ⟨sign, hunpack⟩ | ⟨sign, m, e, hm, hunpack⟩
  . rw [hunpack, UnpackedFloat.abs]
    rfl
  . have hback := Packing.unpack_pack_of_unpack _ hunpack .positive
    rw [hunpack, UnpackedFloat.abs, hback]
    rfl

end LiveTopology.Decimal
