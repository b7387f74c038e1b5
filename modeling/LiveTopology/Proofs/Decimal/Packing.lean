import Mathlib

/-!
This module contains the relation between a double and its bits. A double is known by its bits, and
a number that is in the format of doubles is packed into bits without a loss.
-/

namespace LiveTopology.Packing

open Float.Model Float.Model.UnpackedFloat

theorem toBitVec_ofBitVec (b : BitVec 1) : (Sign.ofBitVec b).toBitVec = b := by
  revert b
  decide

theorem ofBitVec_toBitVec (sign : Sign) : Sign.ofBitVec sign.toBitVec = sign := by
  cases sign <;> rfl

variable (b : BitVec Format.binary64.numBits)

theorem packComponents_unpack
    : packComponents Format.binary64 (Sign.ofBitVec (unpackSign b)) (unpackExponent b)
          (unpackMantissa b)
        =
      b := by
  unfold packComponents
  rw [toBitVec_ofBitVec]
  apply BitVec.eq_of_getLsbD_eq
  intro i hi
  have hi : i < 64 := hi
  rw [BitVec.getLsbD_append, BitVec.getLsbD_append]
  simp only [unpackSign, unpackExponent, unpackMantissa, BitVec.getLsbD_cast,
    BitVec.getLsbD_extractLsb]
  -- From the lowest bit on, a double has its mantissa, its exponent and its sign.
  by_cases hmantissa : i < 52
  . simp [hmantissa]
  . by_cases hexponent : i < 63
    . have : i - 52 < 11 := by omega
      have hindex : 52 + (i - 52) = i := by omega
      simp [hmantissa, this, hindex]
    . have : i = 63 := by omega
      subst this
      rfl

theorem unpackSign_packComponents (sign : Sign) (exponent : BitVec 11) (mantissa : BitVec 52)
    : unpackSign (packComponents Format.binary64 sign exponent mantissa) = sign.toBitVec := by
  apply BitVec.eq_of_getLsbD_eq
  intro i hi
  have : i = 0 := by omega
  subst this
  unfold unpackSign packComponents
  simp only [BitVec.getLsbD_cast, BitVec.getLsbD_extractLsb]
  rw [BitVec.getLsbD_append, BitVec.getLsbD_append]
  simp

theorem toNat_implicit (mantissa : BitVec 52)
    : (1#1 ++ mantissa).toNat = 2 ^ 52 + mantissa.toNat := by
  rw [BitVec.toNat_append, ← Nat.shiftLeft_add_eq_or_of_lt mantissa.isLt]
  rfl

theorem toNat_negOne : (-1#11 : BitVec 11).toNat = 2047 :=
  rfl

theorem unpack_infinity (hexponent : unpackExponent b = -1#11) (hmantissa : unpackMantissa b = 0#52)
    : UnpackedFloat.unpack Format.binary64 b = .infinity (Sign.ofBitVec (unpackSign b)) := by
  unfold UnpackedFloat.unpack
  simp only
  rw [if_pos hexponent, if_pos hmantissa]

theorem unpack_notANumber (hexponent : unpackExponent b = -1#11)
    (hmantissa : unpackMantissa b ≠ 0#52)
    : UnpackedFloat.unpack Format.binary64 b = .notANumber := by
  unfold UnpackedFloat.unpack
  simp only
  rw [if_pos hexponent, if_neg hmantissa]

theorem unpack_zero (hexponent : unpackExponent b = 0#11) (hmantissa : unpackMantissa b = 0#52)
    : UnpackedFloat.unpack Format.binary64 b = .zero (Sign.ofBitVec (unpackSign b)) := by
  have hspecial : unpackExponent b ≠ -1#11 := by
    rw [hexponent]
    decide
  unfold UnpackedFloat.unpack
  simp only
  rw [if_neg hspecial, if_pos hexponent, dif_pos hmantissa]

theorem unpack_subnormal (hexponent : unpackExponent b = 0#11) (hmantissa : unpackMantissa b ≠ 0#52)
    : ∃ hf, UnpackedFloat.unpack Format.binary64 b
        =
      .finite (Sign.ofBitVec (unpackSign b)) (unpackMantissa b).toNat (-1074) hf := by
  have hspecial : unpackExponent b ≠ -1#11 := by
    rw [hexponent]
    decide
  have hpos : 0 < (unpackMantissa b).toNat := by
    apply Nat.pos_of_ne_zero
    intro hzero
    apply hmantissa
    apply BitVec.eq_of_toNat_eq hzero
  have hleast : ((unpackExponent b).toNat : Int)
      - (Format.binary64.exponentBias + Format.binary64.mantissaBitsWithoutImplicit) + 1 = -1074 := by
    rw [hexponent]
    rfl
  refine ⟨hpos, ?_⟩
  unfold UnpackedFloat.unpack
  simp only
  rw [if_neg hspecial, if_pos hexponent, dif_neg hmantissa]
  simp only [hleast]

theorem unpack_normal (hspecial : unpackExponent b ≠ -1#11) (hexponent : unpackExponent b ≠ 0#11)
    : ∃ hf, UnpackedFloat.unpack Format.binary64 b
        =
      .finite (Sign.ofBitVec (unpackSign b)) (2 ^ 52 + (unpackMantissa b).toNat)
        ((unpackExponent b).toNat - 1075) hf := by
  refine ⟨by omega, ?_⟩
  unfold UnpackedFloat.unpack
  simp only
  rw [if_neg hspecial, if_neg hexponent]
  simp only [toNat_implicit]
  rfl

theorem pack_normal (sign : Sign) (f : Nat) (e : Int) (hf : 0 < f) (hle : 2 ^ 52 ≤ f)
    (hlt : f < 2 ^ 53) (hmin : -1074 ≤ e) (hmax : e ≤ 971)
    : pack Format.binary64 (.finite sign f e hf)
        =
      packComponents Format.binary64 sign (BitVec.ofNat 11 (e + 1075).toNat) (BitVec.ofNat 52 f) := by
  have hlog : f.log2 = 52 := (Nat.log2_eq_iff (by omega)).2 ⟨hle, hlt⟩
  have hbiased : e + Format.binary64.exponentBias + (52 : Nat) = e + 1075 := by
    show e + 1023 + 52 = e + 1075
    omega
  unfold UnpackedFloat.pack
  simp only [hbiased, hlog]
  rw [if_neg, if_pos]
  . rfl
  . show ¬ 2048 ≤ (e + 1075).toNat + 1
    omega

theorem pack_subnormal (sign : Sign) (f : Nat) (hf : 0 < f) (hlt : f < 2 ^ 52)
    : pack Format.binary64 (.finite sign f (-1074) hf)
        =
      packComponents Format.binary64 sign 0#11 (BitVec.ofNat 52 f) := by
  have hlog : f.log2 < 52 := (Nat.log2_lt (by omega)).2 hlt
  unfold UnpackedFloat.pack
  simp only
  rw [if_neg, if_neg]
  . show ¬ f.log2 + 1 = 53
    omega
  . decide

theorem finite_congr {sign : Sign} {f f' : Nat} {e e' : Int} {hf : 0 < f} (hmantissa : f = f')
    (hexponent : e = e')
    : UnpackedFloat.finite sign f e hf = .finite sign f' e' (by omega) := by
  subst hmantissa hexponent
  rfl

theorem unpack_pack (sign : Sign) (f : Nat) (e : Int) (hf : 0 < f) (hle : 2 ^ 52 ≤ f)
    (hlt : f < 2 ^ 53) (hmin : -1074 ≤ e) (hmax : e ≤ 971)
    : UnpackedFloat.unpack Format.binary64 (UnpackedFloat.pack Format.binary64 (.finite sign f e hf))
        =
      .finite sign f e hf := by
  have hexponent : (BitVec.ofNat 11 (e + 1075).toNat).toNat = (e + 1075).toNat := by
    rw [BitVec.toNat_ofNat]
    omega
  have hmantissa : (BitVec.ofNat 52 f).toNat = f - 2 ^ 52 := by
    rw [BitVec.toNat_ofNat]
    omega
  have hspecial : BitVec.ofNat 11 (e + 1075).toNat ≠ -1#11 := by
    intro heq
    rw [heq, toNat_negOne] at hexponent
    omega
  have hnormal : BitVec.ofNat 11 (e + 1075).toNat ≠ 0#11 := by
    intro heq
    rw [heq] at hexponent
    simp only [BitVec.toNat_ofNat] at hexponent
    omega
  rw [pack_normal sign f e hf hle hlt hmin hmax]
  obtain ⟨hpos, hunpack⟩ := unpack_normal
    (packComponents Format.binary64 sign (BitVec.ofNat 11 (e + 1075).toNat) (BitVec.ofNat 52 f))
    (by rwa [unpackExponent_packComponents]) (by rwa [unpackExponent_packComponents])
  rw [hunpack]
  rw [unpackSign_packComponents, ofBitVec_toBitVec]
  apply finite_congr
  . rw [unpackMantissa_packComponents, hmantissa]
    omega
  . rw [unpackExponent_packComponents, hexponent]
    omega

theorem pack_unpack (h : Format.binary64.Valid b)
    : UnpackedFloat.pack Format.binary64 (UnpackedFloat.unpack Format.binary64 b) = b := by
  by_cases hspecial : unpackExponent b = -1#11
  . by_cases hmantissa : unpackMantissa b = 0#52
    . rw [unpack_infinity b hspecial hmantissa]
      show packComponents Format.binary64 (Sign.ofBitVec (unpackSign b)) (-1#11) 0#52 = b
      rw [← hspecial, ← hmantissa, packComponents_unpack]
    . -- Of all bits that are no number, only one choice is valid.
      rw [unpack_notANumber b hspecial hmantissa]
      exact (h.eq_packedNaN hspecial hmantissa).symm
  . by_cases hexponent : unpackExponent b = 0#11
    . by_cases hmantissa : unpackMantissa b = 0#52
      . rw [unpack_zero b hexponent hmantissa]
        show packComponents Format.binary64 (Sign.ofBitVec (unpackSign b)) 0#11 0#52 = b
        rw [← hexponent, ← hmantissa, packComponents_unpack]
      . obtain ⟨hf, hunpack⟩ := unpack_subnormal b hexponent hmantissa
        rw [hunpack, pack_subnormal _ _ hf (unpackMantissa b).isLt, ← hexponent]
        rw [BitVec.ofNat_toNat, BitVec.setWidth_eq, packComponents_unpack]
    . obtain ⟨hf, hunpack⟩ := unpack_normal b hspecial hexponent
      have hmantissa : (unpackMantissa b).toNat < 2 ^ 52 := (unpackMantissa b).isLt
      have hpos : 0 < (unpackExponent b).toNat := by
        apply Nat.pos_of_ne_zero
        intro hzero
        apply hexponent
        apply BitVec.eq_of_toNat_eq hzero
      have hbound : (unpackExponent b).toNat < 2047 := by
        have : (unpackExponent b).toNat < 2048 := (unpackExponent b).isLt
        have : (unpackExponent b).toNat ≠ 2047 := by
          intro heq
          apply hspecial
          apply BitVec.eq_of_toNat_eq heq
        omega
      rw [hunpack, pack_normal _ _ _ hf (by omega) (by omega) (by omega) (by omega)]
      have hback : BitVec.ofNat 11 ((unpackExponent b).toNat - 1075 + 1075 : Int).toNat
          = unpackExponent b := by
        apply BitVec.eq_of_toNat_eq
        rw [BitVec.toNat_ofNat]
        omega
      have hcut : BitVec.ofNat 52 (2 ^ 52 + (unpackMantissa b).toNat) = unpackMantissa b := by
        apply BitVec.eq_of_toNat_eq
        rw [BitVec.toNat_ofNat]
        omega
      rw [hback, hcut, packComponents_unpack]

/-- The mantissa of a double has 53 bits, or its exponent is the least one. -/
theorem format_of_unpack {sign : Sign} {f : Nat} {e : Int} {hf : 0 < f}
    (h : UnpackedFloat.unpack Format.binary64 b = .finite sign f e hf)
    : (2 ^ 52 ≤ f ∧ f < 2 ^ 53 ∧ -1074 ≤ e ∧ e ≤ 971) ∨ (f < 2 ^ 52 ∧ e = -1074) := by
  have hmantissa : (unpackMantissa b).toNat < 2 ^ 52 := (unpackMantissa b).isLt
  by_cases hspecial : unpackExponent b = -1#11
  . by_cases hzero : unpackMantissa b = 0#52
    . rw [unpack_infinity b hspecial hzero] at h
      contradiction
    . rw [unpack_notANumber b hspecial hzero] at h
      contradiction
  . by_cases hexponent : unpackExponent b = 0#11
    . by_cases hzero : unpackMantissa b = 0#52
      . rw [unpack_zero b hexponent hzero] at h
        contradiction
      . obtain ⟨hpos, hunpack⟩ := unpack_subnormal b hexponent hzero
        rw [hunpack] at h
        injection h
        omega
    . obtain ⟨hpos, hunpack⟩ := unpack_normal b hspecial hexponent
      have hleast : 0 < (unpackExponent b).toNat := by
        apply Nat.pos_of_ne_zero
        intro hzero
        apply hexponent
        apply BitVec.eq_of_toNat_eq hzero
      have hgreatest : (unpackExponent b).toNat < 2047 := by
        have : (unpackExponent b).toNat < 2048 := (unpackExponent b).isLt
        have : (unpackExponent b).toNat ≠ 2047 := by
          intro heq
          apply hspecial
          apply BitVec.eq_of_toNat_eq heq
        omega
      rw [hunpack] at h
      injection h
      omega

theorem sign_of_unpack_finite {sign : Sign} {f : Nat} {e : Int} {hf : 0 < f}
    (h : UnpackedFloat.unpack Format.binary64 b = .finite sign f e hf)
    : sign = Sign.ofBitVec (unpackSign b) := by
  unfold UnpackedFloat.unpack at h
  simp only at h
  split at h
  . split at h <;> contradiction
  . split at h
    . split at h
      . contradiction
      . injection h with hsign
        exact hsign.symm
    . injection h with hsign
      exact hsign.symm

theorem sign_of_unpack_zero {sign : Sign}
    (h : UnpackedFloat.unpack Format.binary64 b = .zero sign)
    : sign = Sign.ofBitVec (unpackSign b) := by
  unfold UnpackedFloat.unpack at h
  simp only at h
  split at h
  . split at h <;> contradiction
  . split at h
    . split at h
      . injection h with hsign
        exact hsign.symm
      . contradiction
    . contradiction

theorem mantissa_lt {sign : Sign} {f : Nat} {e : Int} {hf : 0 < f}
    (h : UnpackedFloat.unpack Format.binary64 b = .finite sign f e hf) : f < 2 ^ 53 := by
  have := format_of_unpack b h
  omega

theorem unpack_pack_subnormal (sign : Sign) (f : Nat) (hf : 0 < f) (hlt : f < 2 ^ 52)
    : UnpackedFloat.unpack Format.binary64
          (UnpackedFloat.pack Format.binary64 (.finite sign f (-1074) hf))
        =
      .finite sign f (-1074) hf := by
  have hmantissa : (BitVec.ofNat 52 f).toNat = f := by
    rw [BitVec.toNat_ofNat]
    omega
  have hne : BitVec.ofNat 52 f ≠ 0#52 := by
    intro heq
    rw [heq] at hmantissa
    simp only [BitVec.toNat_ofNat] at hmantissa
    omega
  rw [pack_subnormal sign f hf hlt]
  obtain ⟨hpos, hunpack⟩ := unpack_subnormal
    (packComponents Format.binary64 sign 0#11 (BitVec.ofNat 52 f))
    (by rw [unpackExponent_packComponents]) (by rwa [unpackMantissa_packComponents])
  rw [hunpack, unpackSign_packComponents, ofBitVec_toBitVec]
  apply finite_congr
  . rw [unpackMantissa_packComponents, hmantissa]
  . rfl

/-- The format of a double does not depend on its sign. -/
theorem unpack_pack_of_unpack {sign : Sign} {f : Nat} {e : Int} {hf : 0 < f}
    (h : UnpackedFloat.unpack Format.binary64 b = .finite sign f e hf) (sign' : Sign)
    : UnpackedFloat.unpack Format.binary64
          (UnpackedFloat.pack Format.binary64 (.finite sign' f e hf))
        =
      .finite sign' f e hf := by
  rcases format_of_unpack b h with ⟨hle, hlt, hmin, hmax⟩ | ⟨hlt, rfl⟩
  . exact unpack_pack sign' f e hf hle hlt hmin hmax
  . exact unpack_pack_subnormal sign' f hf hlt

theorem eq_of_unpack_eq {x y : Float} (h : x.toModel.unpack = y.toModel.unpack) : x = y := by
  obtain ⟨⟨b⟩, hb⟩ := x
  obtain ⟨⟨c⟩, hc⟩ := y
  have : b = c := by
    rw [← pack_unpack b hb, ← pack_unpack c hc]
    exact congrArg _ h
  subst this
  rfl

theorem ofBits_toBits (x : Float) : Float.ofBits x.toBits = x := by
  obtain ⟨bits, hvalid⟩ := x
  have hpack := pack_unpack bits.toBitVec hvalid
  unfold Float.ofBits Float.toBits Float.Model.ofBits Float.Model.pack
  simp only [hpack]

end LiveTopology.Packing
