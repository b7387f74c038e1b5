import LiveTopology.Json.Numeral
import LiveTopology.Proofs.Decimal.Digits

/-!
This module contains when the steps in which a number of a text is made a double give the double that
is nearest to it: if its digits and its power of ten are doubles themselves, only the last step
rounds.
-/

namespace LiveTopology.Decimal

open Float.Model Float.Model.UnpackedFloat

theorem unpack_of_value?_pos {x : Float} {q : Rat} (h : value? x = some q) (hq : 0 < q)
    : ∃ f e hf, x.toModel.unpack = .finite .positive f e hf ∧ q = f * 2 ^ e := by
  unfold value? at h
  split at h
  . rw [← Option.some.inj h] at hq
    contradiction
  . next sign f e hf hunpack =>
    have hvalue := Option.some.inj h
    cases sign with
    | negative =>
      have hneg : ((Sign.negative.apply (f : Int) : Int) : Rat) = -f := by simp [Sign.apply]
      have hfpos : (0 : Rat) < f := by exact_mod_cast hf
      have : (0 : Rat) < f * 2 ^ e := by positivity
      rw [hneg] at hvalue
      linarith
    | positive =>
      have hplus : ((Sign.positive.apply (f : Int) : Int) : Rat) = f := by simp [Sign.apply]
      rw [hplus] at hvalue
      exact ⟨f, e, hf, hunpack, hvalue.symm⟩
  . contradiction

/-- A double that is at least one has all the bits of a mantissa. -/
theorem unpack_of_value? {x : Float} {q : Rat} (h : value? x = some q) (hq : 1 ≤ q)
    : ∃ f e hf, x.toModel.unpack = .finite .positive f e hf ∧ q = f * 2 ^ e
        ∧ 2 ^ 52 ≤ f ∧ -53 < e ∧ e ≤ 971 := by
  obtain ⟨f, e, hf, hunpack, hvalue⟩ := unpack_of_value?_pos h (lt_of_lt_of_le one_pos hq)
  have hlt : (f : Rat) < 2 ^ (53 : Int) := by exact_mod_cast Packing.mantissa_lt _ hunpack
  have hlower : -53 < e := by
    by_contra hle
    have : q < 1 := by
      calc q
        _ = f * 2 ^ e := hvalue
        _ < 2 ^ (53 : Int) * 2 ^ e := by gcongr
        _ = 2 ^ (53 + e) := (zpow_add₀ two_ne_zero _ _).symm
        _ ≤ 2 ^ (0 : Int) := zpow_le_zpow_right₀ one_le_two (by omega)
        _ = 1 := zpow_zero _
    linarith
  rcases Packing.format_of_unpack _ hunpack with ⟨hbits, -, -, hupper⟩ | ⟨-, hleast⟩
  . exact ⟨f, e, hf, hunpack, hvalue, hbits, hlower, hupper⟩
  . omega

theorem mul_eq_ofValue {x y : Float} {q r : Rat} (hx : value? x = some q) (hy : value? y = some r)
    (hq : 1 ≤ q) (hr : 1 ≤ r)
    : x * y = ofValue (q * r) := by
  obtain ⟨f, e, hf, hunpack, rfl, hbits, -⟩ := unpack_of_value? hx hq
  obtain ⟨g, e', hg, hunpack', rfl, -⟩ := unpack_of_value? hy hr
  have hlog : 52 ≤ f.log2 + g.log2 := by
    have := (Nat.le_log2 hf.ne').2 hbits
    omega
  show Float.ofModel (.pack (UnpackedFloat.mul Format.binary64 x.toModel.unpack y.toModel.unpack)) = _
  rw [hunpack, hunpack', Rounding.mul_eq_double hf hg hlog]
  rfl

theorem div_eq_ofValue {x y : Float} {q r : Rat} (hx : value? x = some q) (hy : value? y = some r)
    (hq : 1 ≤ q) (hr : 1 ≤ r)
    : x / y = ofValue (q / r) := by
  obtain ⟨f, e, hf, hunpack, rfl, -, hlower, -⟩ := unpack_of_value? hx hq
  obtain ⟨g, e', hg, hunpack', rfl, -, -, hupper⟩ := unpack_of_value? hy hr
  show Float.ofModel (.pack (UnpackedFloat.div Format.binary64 x.toModel.unpack y.toModel.unpack)) = _
  rw [hunpack, hunpack', Rounding.div_eq_double hf hg (by omega)]
  rfl

/-- These powers of ten are doubles. -/
theorem value?_tens {k : Nat} (hk : k ≤ 22) : value? (tens k) = some (10 ^ k) := by
  have hall : ∀ k : Fin 23, integer? (tens k) = some (10 ^ k.val : Nat) := by decide +kernel
  have := (integer?_eq_some_iff _ _).1 (hall ⟨k, by omega⟩)
  exact_mod_cast this

/-- Digits and a power of ten that are doubles are rounded once, as if nothing came in between. -/
theorem scaled_eq_toFloat {d : Decimal} (hdigits : d.digits < 2 ^ 53)
    (hexponent : d.exponent.natAbs ≤ 22)
    : d.scaled = d.toFloat := by
  obtain ⟨digits, exponent⟩ := d
  simp only at hdigits hexponent
  have hstep : exponent.natAbs ≤ greatestTens := Nat.le_trans hexponent (by decide)
  have hlower (x : Float) : lower x exponent.natAbs = x / tens exponent.natAbs := by
    rw [lower, if_pos hstep]
  have hraise (x : Float) : raise x exponent.natAbs = x * tens exponent.natAbs := if_pos hstep
  unfold scaled
  simp only [hlower, hraise]
  by_cases hzero : digits = 0
  . have hall : ∀ k : Fin 23, nearest (0 : Nat) / tens k = .ofModel (.pack (.zero .positive))
        ∧ nearest (0 : Nat) * tens k = .ofModel (.pack (.zero .positive)) := by
      decide +kernel
    have hk := hall ⟨exponent.natAbs, by omega⟩
    rw [toFloat_of_digits_eq_zero hzero, hzero, hk.1, hk.2, ite_self]
  . have hone : (1 : Rat) ≤ digits := by exact_mod_cast Nat.pos_of_ne_zero hzero
    have htens : (1 : Rat) ≤ 10 ^ exponent.natAbs := one_le_pow₀ (by norm_num)
    have hnearest : value? (nearest digits) = some (digits : Rat) := by
      exact_mod_cast (integer?_eq_some_iff _ _).1 (integer?_nearest (n := digits) hdigits)
    rw [toFloat_eq_ofValue hzero, value]
    split
    . next hsign =>
      have hpower : (10 : Rat) ^ exponent = (10 ^ exponent.natAbs)⁻¹ := by
        rw [← zpow_natCast, ← zpow_neg]
        congr 1
        omega
      rw [div_eq_ofValue hnearest (value?_tens hexponent) hone htens, hpower, ← div_eq_mul_inv]
    . next hsign =>
      have hpower : (10 : Rat) ^ exponent = 10 ^ exponent.natAbs := by
        rw [← zpow_natCast]
        congr 1
        omega
      rw [mul_eq_ofValue hnearest (value?_tens hexponent) hone htens, hpower]

end LiveTopology.Decimal
