import LiveTopology.Decimal.Basic
import LiveTopology.Proofs.Decimal.Packing
import LiveTopology.Proofs.Decimal.Rounding

/-!
This module contains the numbers that doubles stand for, and the proof that the double for an
integer is nearest to it.
-/

namespace LiveTopology.Decimal

open Float.Model Float.Model.UnpackedFloat

/-- The number that a double is. -/
def value? (x : Float) : Option Rat :=
  match x.toModel.unpack with
  | .zero _ => some 0
  | .finite sign f e _ => some (sign.apply f * 2 ^ e)
  | _ => none

theorem value?_of_zero {x : Float} {sign : Sign} (h : x.toModel.unpack = .zero sign)
    : value? x = some 0 := by
  unfold value?
  rw [h]

theorem value?_of_finite {x : Float} {sign : Sign} {f : Nat} {e : Int} {hf : 0 < f}
    (h : x.toModel.unpack = .finite sign f e hf)
    : value? x = some ((sign.apply f : Rat) * 2 ^ e) := by
  unfold value?
  rw [h]

theorem isFinite_iff (x : Float) : x.isFinite = true ↔ ∃ q, value? x = some q := by
  have hfinite : x.isFinite = x.toModel.unpack.isFinite := rfl
  unfold value?
  rw [hfinite]
  cases x.toModel.unpack <;> simp [UnpackedFloat.isFinite]

theorem size?_eq_some_iff (f : Nat) (e : Int) (n : Nat)
    : integer?.size? f e = some n ↔ (f : Rat) * 2 ^ e = n := by
  unfold integer?.size?
  by_cases hsign : 0 ≤ e
  . obtain ⟨k, rfl⟩ := Int.eq_ofNat_of_zero_le hsign
    rw [if_pos hsign, zpow_natCast, Option.some.injEq, Int.toNat_natCast]
    constructor
    . intro heq
      exact_mod_cast heq
    . intro heq
      exact_mod_cast heq
  . obtain ⟨k, hk⟩ := Int.eq_ofNat_of_zero_le (show 0 ≤ -e by omega)
    have hpow : (2 : Rat) ^ k ≠ 0 := by positivity
    have he : e = -(k : Int) := by omega
    rw [if_neg hsign, he, neg_neg, Int.toNat_natCast, zpow_neg, zpow_natCast,
      ← div_eq_mul_inv, div_eq_iff hpow]
    show (if f % 2 ^ k = 0 then some (f / 2 ^ k) else none) = some n ↔ _
    constructor
    . intro heq
      split at heq
      . next hdvd =>
        have := Nat.div_mul_cancel (Nat.dvd_of_mod_eq_zero hdvd)
        rw [← Option.some.inj heq]
        exact_mod_cast this.symm
      . contradiction
    . intro heq
      have heq : f = n * 2 ^ k := by exact_mod_cast heq
      rw [heq, Nat.mul_mod_left, if_pos rfl, Nat.mul_div_cancel n (Nat.two_pow_pos k)]

theorem size?_cast_eq_some_iff (f : Nat) (e n : Int)
    : (integer?.size? f e >>= fun k => pure (k : Int)) = some n ↔ (f : Rat) * 2 ^ e = n := by
  constructor
  . intro heq
    cases hsize : integer?.size? f e with
    | none =>
      rw [hsize] at heq
      contradiction
    | some k =>
      rw [hsize] at heq
      rw [(size?_eq_some_iff f e k).1 hsize, ← Option.some.inj heq, Int.cast_natCast]
  . intro heq
    have hpos : (0 : Rat) ≤ n := by
      rw [← heq]
      positivity
    obtain ⟨k, rfl⟩ := Int.eq_ofNat_of_zero_le (Int.cast_nonneg_iff.1 hpos)
    rw [Int.cast_natCast] at heq
    rw [(size?_eq_some_iff f e k).2 heq]
    rfl

theorem integer?_eq_some_iff (x : Float) (n : Int)
    : integer? x = some n ↔ value? x = some (n : Rat) := by
  unfold integer? value?
  cases x.toModel.unpack with
  | infinity sign => simp
  | notANumber => simp
  | zero sign => simp [eq_comm]
  | finite sign f e hf =>
    cases sign with
    | positive =>
      show Option.map id (integer?.size? f e >>= fun k => pure (k : Int)) = some n ↔ _
      rw [Option.map_id_apply, size?_cast_eq_some_iff, Option.some.injEq]
      simp [Sign.apply]
    | negative =>
      show Option.map (fun k => -k) (integer?.size? f e >>= fun k => pure (k : Int)) = some n ↔ _
      have hflip : Option.map (fun k => -k) (integer?.size? f e >>= fun k => pure (k : Int)) = some n
          ↔ (integer?.size? f e >>= fun k => pure (k : Int)) = some (-n) := by
        rw [Option.map_eq_some_iff]
        simp only [neg_eq_iff_eq_neg, exists_eq_right]
      rw [hflip, size?_cast_eq_some_iff, Option.some.injEq]
      simp [Sign.apply, neg_eq_iff_eq_neg]

theorem log2_shiftLeft (m k : Nat) (hpos : 0 < m) : (m <<< k).log2 = m.log2 + k := by
  obtain ⟨hle, hlt⟩ := (Nat.log2_eq_iff (by omega)).1 (rfl : m.log2 = m.log2)
  have hpow := Nat.two_pow_pos k
  rw [Nat.shiftLeft_eq]
  apply Rounding.log2_eq_of_bounds
  . rw [Nat.pow_add]
    apply Nat.mul_le_mul_right _ hle
  . rw [show m.log2 + k + 1 = m.log2 + 1 + k by omega, Nat.pow_add]
    apply Nat.mul_lt_mul_of_pos_right hlt hpow

/-- The double for a positive integer is the multiple of a power of two that is nearest to it. -/
theorem unpack_toFloat (m : Nat) (hpos : 0 < m) (hsize : m.log2 < 900)
    : ∃ (r f : Nat) (g : Int) (hf : 0 < f),
        (Decimal.mk m 0).toFloat.toModel.unpack = .finite .positive f g hf
          ∧ (2 ^ 52 ≤ f ∧ f < 2 ^ 53)
          ∧ ((m.log2 : Int) - 52 ≤ g ∧ g ≤ m.log2 - 51)
          ∧ |(r : Rat) - m / 2 ^ ((m.log2 : Int) - 52)| ≤ 1 / 2
          ∧ (f : Rat) * 2 ^ g = r * 2 ^ ((m.log2 : Int) - 52) := by
  have hround : UnpackedFloat.ofScientific Format.binary64 m 0
      = roundWithAccuracy Format.binary64 .positive (m <<< 53) (-53) .exact := by
    unfold UnpackedFloat.ofScientific
    rw [dif_neg (by omega), if_neg (by decide), if_neg, if_pos (by decide)]
    . show roundWithAccuracy Format.binary64 .positive (m <<< 53 * 1) (-53 + 0) .exact = _
      rw [Nat.mul_one, Int.add_zero]
    . show ¬ 0 < -(2048 + (m.log2 : Int))
      omega
  have hlog : (m <<< 53).log2 = 52 + (m.log2 + 1) := by
    rw [log2_shiftLeft m 53 hpos]
    omega
  obtain ⟨r, f, g, hf, heq, hbounds, hexponent, hnear, hvalue⟩ :=
    Rounding.roundWithAccuracy_eq .positive (m <<< 53) (m.log2 + 1) (-53) hlog (by omega)
  have hshift : (-53 : Int) + ((m.log2 + 1 : Nat) : Int) = m.log2 - 52 := by omega
  rw [hshift] at hexponent hvalue
  refine ⟨r, f, g, hf, ?_, hbounds, by omega, ?_, hvalue⟩
  . show UnpackedFloat.unpack Format.binary64
      (UnpackedFloat.pack Format.binary64 (UnpackedFloat.ofScientific Format.binary64 m 0)) = _
    rw [hround, heq]
    apply Packing.unpack_pack <;> omega
  . have hscale : ((m <<< 53 : Nat) : Rat) / 2 ^ (m.log2 + 1) = m / 2 ^ ((m.log2 : Int) - 52) := by
      have hsplit : (m.log2 : Int) - 52 = ((m.log2 + 1 : Nat) : Int) - (53 : Nat) := by omega
      rw [hsplit, zpow_sub₀ two_ne_zero, zpow_natCast, zpow_natCast, Nat.shiftLeft_eq,
        Nat.cast_mul, Nat.cast_pow, Nat.cast_ofNat, div_div_eq_mul_div]
    rw [← hscale]
    exact hnear

theorem abs_sub_le_of_multiple {x p : Rat} (hp : 0 < p) {r : Nat} (hnear : |(r : Rat) - x / p| ≤ 1 / 2)
    (j : Int) : |r * p - x| ≤ |j * p - x| := by
  have hscale : ∀ y : Rat, |y * p - x| = |y - x / p| * p := by
    intro y
    have hcancel : y * p - x = (y - x / p) * p := by
      field_simp
    rw [hcancel, abs_mul, abs_of_pos hp]
  rw [hscale, hscale]
  apply mul_le_mul_of_nonneg_right _ (le_of_lt hp)
  by_cases heq : j = r
  . rw [heq, Int.cast_natCast]
  . -- Another integer is at least one away from the nearest one.
    have hone : (1 : Rat) ≤ |(j : Rat) - r| := by
      have : 1 ≤ |j - r| := Int.one_le_abs (sub_ne_zero.2 heq)
      exact_mod_cast this
    have htriangle := abs_sub_le (j : Rat) (x / p) r
    rw [abs_sub_comm (x / p)] at htriangle
    linarith

theorem abs_sub_le_of_mantissa {m r : Nat} (hpos : 0 < m)
    (hnear : |(r : Rat) - m / 2 ^ ((m.log2 : Int) - 52)| ≤ 1 / 2) {f : Nat} (hf : f < 2 ^ 53)
    (e : Int)
    : |(r : Rat) * 2 ^ ((m.log2 : Int) - 52) - m| ≤ |(f : Rat) * 2 ^ e - m| := by
  have hunit : (0 : Rat) < 2 ^ ((m.log2 : Int) - 52) := by positivity
  have hmultiple := abs_sub_le_of_multiple hunit hnear
  by_cases he : (m.log2 : Int) - 52 ≤ e
  . -- A number with a greater exponent is a multiple of the same power of two.
    obtain ⟨k, hk⟩ := Int.eq_ofNat_of_zero_le (show 0 ≤ e - ((m.log2 : Int) - 52) by omega)
    have hsplit : (f : Rat) * 2 ^ e
        = ((f * 2 ^ k : Nat) : Int) * 2 ^ ((m.log2 : Int) - 52) := by
      rw [show e = (k : Int) + ((m.log2 : Int) - 52) by omega, zpow_add₀ two_ne_zero, zpow_natCast]
      push_cast
      ring
    rw [hsplit]
    apply hmultiple
  . -- A number with a lesser exponent lies below the power of two that is still below `m`.
    have hpower : (2 : Rat) ^ (52 : Nat) * 2 ^ ((m.log2 : Int) - 52) ≤ m := by
      have hle : 2 ^ m.log2 ≤ m := Nat.log2_self_le (by omega)
      rw [← zpow_natCast, ← zpow_add₀ two_ne_zero,
        show ((52 : Nat) : Int) + ((m.log2 : Int) - 52) = m.log2 by omega, zpow_natCast]
      exact_mod_cast hle
    have hsmall : (f : Rat) * 2 ^ e ≤ 2 ^ (52 : Nat) * 2 ^ ((m.log2 : Int) - 52) := by
      have hexponent : (2 : Rat) ^ e ≤ 2 ^ ((m.log2 : Int) - 53) :=
        zpow_le_zpow_right₀ one_le_two (by omega)
      have hmantissa : (f : Rat) ≤ 2 ^ (53 : Nat) := by
        exact_mod_cast hf.le
      calc (f : Rat) * 2 ^ e
        _ ≤ 2 ^ (53 : Nat) * 2 ^ ((m.log2 : Int) - 53) := by gcongr
        _ = 2 ^ (52 : Nat) * 2 ^ ((m.log2 : Int) - 52) := by
          rw [← zpow_natCast, ← zpow_natCast, ← zpow_add₀ two_ne_zero, ← zpow_add₀ two_ne_zero]
          congr 1
          omega
    have hfrom := hmultiple (2 ^ 52)
    push_cast at hfrom
    rw [abs_of_nonpos (show (f : Rat) * 2 ^ e - m ≤ 0 by linarith)]
    apply le_trans hfrom
    rw [abs_of_nonpos (by linarith)]
    linarith

def signOf (n : Int) : Sign :=
  if n < 0 then .negative else .positive

theorem unpack_nearest (n : Int) (hne : n ≠ 0) (hsize : n.natAbs.log2 < 900)
    : ∃ (r f : Nat) (g : Int) (hf : 0 < f),
        (nearest n).toModel.unpack = .finite (signOf n) f g hf
          ∧ (2 ^ 52 ≤ f ∧ f < 2 ^ 53)
          ∧ ((n.natAbs.log2 : Int) - 52 ≤ g ∧ g ≤ n.natAbs.log2 - 51)
          ∧ |(r : Rat) - n.natAbs / 2 ^ ((n.natAbs.log2 : Int) - 52)| ≤ 1 / 2
          ∧ (f : Rat) * 2 ^ g = r * 2 ^ ((n.natAbs.log2 : Int) - 52) := by
  obtain ⟨r, f, g, hf, hunpack, hbounds, hexponent, hnear, hvalue⟩ :=
    unpack_toFloat n.natAbs (by omega) hsize
  refine ⟨r, f, g, hf, ?_, hbounds, hexponent, hnear, hvalue⟩
  unfold nearest signOf
  by_cases hsign : n < 0
  . rw [if_pos hsign, if_pos hsign]
    show UnpackedFloat.unpack Format.binary64 (UnpackedFloat.pack Format.binary64
      (Decimal.mk n.natAbs 0).toFloat.toModel.unpack.neg) = _
    rw [hunpack]
    apply Packing.unpack_pack <;> omega
  . rw [if_neg hsign, if_neg hsign]
    exact hunpack

theorem value?_nearest_zero : value? (nearest 0) = some 0 := by
  have hunpack : (nearest 0).toModel.unpack = .zero .positive := by
    rfl
  apply value?_of_zero hunpack

theorem cast_apply_eq (sign : Sign) (k : Nat)
    : ((sign.apply k : Int) : Rat) = ((sign.apply 1 : Int) : Rat) * k := by
  cases sign <;> simp [Sign.apply]

theorem abs_apply_one (sign : Sign) : |((sign.apply 1 : Int) : Rat)| = 1 := by
  cases sign <;> simp [Sign.apply]

theorem signOf_apply_natAbs (n : Int) : (signOf n).apply n.natAbs = n := by
  unfold signOf
  by_cases hsign : n < 0
  . rw [if_pos hsign]
    show -(n.natAbs : Int) = n
    omega
  . rw [if_neg hsign]
    show (n.natAbs : Int) = n
    omega

theorem value?_nearest (n : Int) (hne : n ≠ 0) (hsize : n.natAbs.log2 < 900)
    : ∃ (r : Nat) (q : Rat), value? (nearest n) = some q
        ∧ |(r : Rat) - n.natAbs / 2 ^ ((n.natAbs.log2 : Int) - 52)| ≤ 1 / 2
        ∧ |q - n| = |(r : Rat) * 2 ^ ((n.natAbs.log2 : Int) - 52) - n.natAbs|
        ∧ (2 : Rat) ^ (n.natAbs.log2 : Int) ≤ |q| := by
  obtain ⟨r, f, g, hf, hunpack, hbounds, hexponent, hnear, hvalue⟩ := unpack_nearest n hne hsize
  refine ⟨r, _, value?_of_finite hunpack, hnear, ?_, ?_⟩
  . have hsplit : (n : Rat) = ((signOf n).apply 1 : Int) * n.natAbs := by
      rw [← cast_apply_eq, signOf_apply_natAbs]
    have hfactor : ((signOf n).apply f : Rat) * 2 ^ g - n
        = ((signOf n).apply 1 : Int) * ((f : Rat) * 2 ^ g - n.natAbs) := by
      rw [mul_sub, ← hsplit, cast_apply_eq, mul_assoc]
    rw [hfactor, abs_mul, abs_apply_one, one_mul, hvalue]
  . have hlower : (2 : Rat) ^ (52 : Nat) ≤ f := by
      exact_mod_cast hbounds.1
    have hunit : (2 : Rat) ^ ((n.natAbs.log2 : Int) - 52) ≤ 2 ^ g :=
      zpow_le_zpow_right₀ one_le_two hexponent.1
    rw [cast_apply_eq, mul_assoc, abs_mul, abs_apply_one, one_mul, abs_of_nonneg (by positivity)]
    calc (2 : Rat) ^ (n.natAbs.log2 : Int)
      _ = 2 ^ (52 : Nat) * 2 ^ ((n.natAbs.log2 : Int) - 52) := by
        rw [← zpow_natCast, ← zpow_add₀ two_ne_zero]
        congr 1
        omega
      _ ≤ f * 2 ^ g := by gcongr

theorem log2_lt_of_lt_size {n : Int} (h : n.natAbs < UInt64.size) : n.natAbs.log2 < 900 := by
  by_cases hzero : n.natAbs = 0
  . rw [hzero, Nat.log2_zero]
    omega
  . have : n.natAbs.log2 < 64 := (Nat.log2_lt hzero).2 h
    omega

theorem abs_value_eq {x : Float} {q : Rat} (h : value? x = some q)
    : ∃ (f : Nat) (e : Int), f < 2 ^ 53 ∧ |q| = f * 2 ^ e := by
  unfold value? at h
  cases hunpack : x.toModel.unpack with
  | infinity sign =>
    rw [hunpack] at h
    contradiction
  | notANumber =>
    rw [hunpack] at h
    contradiction
  | zero sign =>
    rw [hunpack] at h
    refine ⟨0, 0, by omega, ?_⟩
    rw [← Option.some.inj h]
    simp
  | finite sign f e hf =>
    rw [hunpack] at h
    refine ⟨f, e, Packing.mantissa_lt _ hunpack, ?_⟩
    rw [← Option.some.inj h, cast_apply_eq, mul_assoc, abs_mul, abs_apply_one, one_mul]
    apply abs_of_nonneg
    positivity

/-- No double stands for a number that is nearer to an integer than its own. -/
theorem nearest_closest {n : Int} (hsize : n.natAbs < UInt64.size)
    : ∃ q, value? (nearest n) = some q ∧ ∀ x p, value? x = some p → |q - n| ≤ |p - n| := by
  by_cases hzero : n = 0
  . subst hzero
    refine ⟨0, value?_nearest_zero, ?_⟩
    intro x p hp
    simp
  . obtain ⟨r, q, hq, hnear, hdistance, -⟩ := value?_nearest n hzero (log2_lt_of_lt_size hsize)
    refine ⟨q, hq, ?_⟩
    intro x p hp
    obtain ⟨f, e, hf, habs⟩ := abs_value_eq hp
    have hcast : |(n : Rat)| = n.natAbs := by
      rw [Nat.cast_natAbs, Int.cast_abs]
    calc |q - n|
      _ = |(r : Rat) * 2 ^ ((n.natAbs.log2 : Int) - 52) - n.natAbs| := hdistance
      _ ≤ |(f : Rat) * 2 ^ e - n.natAbs| := abs_sub_le_of_mantissa (by omega) hnear hf e
      _ = abs (|p| - |(n : Rat)|) := by rw [habs, hcast]
      _ ≤ |p - n| := abs_abs_sub_abs_le p n

theorem integer?_nearest {n : Int} (hsize : n.natAbs < 2 ^ 53) : integer? (nearest n) = some n := by
  rw [integer?_eq_some_iff]
  by_cases hzero : n = 0
  . subst hzero
    rw [value?_nearest_zero, Int.cast_zero]
  . have hlog : n.natAbs < UInt64.size := Nat.lt_trans hsize (by decide)
    obtain ⟨r, q, hq, hnear, hdistance, -⟩ := value?_nearest n hzero (log2_lt_of_lt_size hlog)
    -- The integer is a mantissa itself, so that the nearest double is at no distance from it.
    have hexact := abs_sub_le_of_mantissa (by omega) hnear hsize 0
    rw [zpow_zero, mul_one, sub_self, abs_zero, ← hdistance] at hexact
    rw [hq, sub_eq_zero.1 (abs_eq_zero.1 (le_antisymm hexact (abs_nonneg _)))]

theorem le_natAbs_of_integer?_nearest {n k : Int} (hsize : n.natAbs < UInt64.size)
    (hlarge : 2 ^ 53 ≤ n.natAbs) (h : integer? (nearest n) = some k) : 2 ^ 53 ≤ k.natAbs := by
  obtain ⟨r, q, hq, -, -, hlower⟩ := value?_nearest n (by omega) (log2_lt_of_lt_size hsize)
  rw [integer?_eq_some_iff, hq] at h
  have hlog : 53 ≤ n.natAbs.log2 := (Nat.le_log2 (by omega)).2 hlarge
  have hpower : (2 : Rat) ^ (53 : Nat) ≤ 2 ^ (n.natAbs.log2 : Int) := by
    rw [zpow_natCast]
    exact pow_le_pow_right₀ one_le_two hlog
  have hcast : |(k : Rat)| = k.natAbs := by
    rw [Nat.cast_natAbs, Int.cast_abs]
  rw [Option.some.inj h, hcast] at hlower
  exact_mod_cast le_trans hpower hlower

end LiveTopology.Decimal
