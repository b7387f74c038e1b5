import LiveTopology.Proofs.Decimal.Nearest

/-!
This module contains that the double for a decimal depends only on the number that the decimal is,
and not on the way it is written, and that the number of a double is read as that double.
-/

namespace LiveTopology

namespace Rounding

open Float.Model Float.Model.UnpackedFloat

theorem Stands.unique {em em' : ExtendedMantissa} {x : Rat} (h : Stands em x) (h' : Stands em' x)
    : em = em' := by
  obtain ⟨m, round, sticky⟩ := em
  obtain ⟨m', round', sticky'⟩ := em'
  have hmantissa : m = m' := by
    have hlower : (m : Rat) < m' + 1 := lt_of_le_of_lt h.le h'.lt
    have hupper : (m' : Rat) < m + 1 := lt_of_le_of_lt h'.le h.lt
    have : m < m' + 1 := by exact_mod_cast hlower
    have : m' < m + 1 := by exact_mod_cast hupper
    omega
  subst hmantissa
  have hround : round = round' := Bool.eq_iff_iff.2 (h.round_iff.trans h'.round_iff.symm)
  have hsticky : sticky = sticky' := by
    have := h.not_sticky_iff.trans h'.not_sticky_iff.symm
    cases sticky <;> cases sticky' <;> simp_all
  rw [hround, hsticky]

/-- The mantissa with the residual bits of a number. -/
def mantissaOf (x : Rat) : ExtendedMantissa where
  mantissa := ⌊x⌋₊
  roundBit := ⌊x⌋₊ + 1 / 2 ≤ x
  stickyBit := x ≠ ⌊x⌋₊ ∧ x ≠ ⌊x⌋₊ + 1 / 2

theorem stands_mantissaOf {x : Rat} (hx : 0 ≤ x) : Stands (mantissaOf x) x where
  le := Nat.floor_le hx
  lt := Nat.lt_floor_add_one x
  round_iff := by simp [mantissaOf]
  not_sticky_iff := by
    simp only [mantissaOf, decide_eq_false_iff_not]
    tauto

theorem Stands.eq_mantissaOf {em : ExtendedMantissa} {x : Rat} (h : Stands em x)
    : em = mantissaOf x := by
  have hx : 0 ≤ x := le_trans (Nat.cast_nonneg _) h.le
  exact h.unique (stands_mantissaOf hx)

/-- The residual bits of a fraction say how it compares to one half. -/
theorem stands_fraction (k : Nat) {r n : Nat} (hrest : r < n)
    : Stands (.ofMantissaAndAccuracy k (accuracyOfFraction r n)) (k + r / n) := by
  have hpos : (0 : Rat) < n := by exact_mod_cast Nat.zero_lt_of_lt hrest
  have hlt : (r : Rat) / n < 1 := by
    rw [div_lt_one hpos]
    exact_mod_cast hrest
  have hhalf : (1 : Rat) / 2 ≤ r / n ↔ n ≤ 2 * r := by
    rw [div_le_div_iff₀ two_pos hpos, one_mul, mul_comm]
    norm_cast
  have hequal : (r : Rat) / n = 1 / 2 ↔ 2 * r = n := by
    rw [div_eq_div_iff hpos.ne' two_ne_zero, one_mul, mul_comm]
    norm_cast
  have hzero : (r : Rat) / n = 0 ↔ r = 0 := by
    simp [div_eq_zero_iff, hpos.ne']
  have hnonneg : (0 : Rat) ≤ r / n := by positivity
  have hround : (k : Rat) + 1 / 2 ≤ k + r / n ↔ n ≤ 2 * r := by
    rw [← hhalf, add_le_add_iff_left]
  have hsticky : (k : Rat) + r / n = k ∨ (k : Rat) + r / n = k + 1 / 2 ↔ r = 0 ∨ 2 * r = n := by
    rw [← hzero, ← hequal, add_eq_left, add_right_inj]
  have hstands (round sticky : Bool) (hr : round = true ↔ n ≤ 2 * r)
      (hs : sticky = false ↔ r = 0 ∨ 2 * r = n) : Stands ⟨k, round, sticky⟩ (k + r / n) :=
    ⟨by linarith, by linarith, hr.trans hround.symm, hs.trans hsticky.symm⟩
  unfold accuracyOfFraction
  split
  . next hexact =>
    apply hstands false false
    . simp only [Bool.false_eq_true, false_iff]
      omega
    . simp [hexact]
  . cases hcompare : compare (2 * r) n with
    | lt =>
      have := Nat.compare_eq_lt.1 hcompare
      apply hstands false true
      . simp only [Bool.false_eq_true, false_iff]
        omega
      . simp only [Bool.true_eq_false, false_iff]
        omega
    | eq =>
      have := Nat.compare_eq_eq.1 hcompare
      apply hstands true false
      . simp only [true_iff]
        omega
      . simp only [true_iff]
        omega
    | gt =>
      have := Nat.compare_eq_gt.1 hcompare
      apply hstands true true
      . simp only [true_iff]
        omega
      . simp only [Bool.true_eq_false, false_iff]
        omega

theorem stands_quotient (m : Nat) {n : Nat} (hn : 0 < n)
    : Stands (.ofMantissaAndAccuracy (m / n) (accuracyOfFraction (m % n) n)) (m / n) := by
  have hsplit : (m : Rat) / n = (m / n : Nat) + (m % n : Nat) / n := by
    have hpos : (0 : Rat) < n := by exact_mod_cast hn
    have : (m : Rat) = n * (m / n : Nat) + (m % n : Nat) := by
      exact_mod_cast (Nat.div_add_mod m n).symm
    field_simp
    linarith
  rw [hsplit]
  apply stands_fraction _ (Nat.mod_lt m hn)

/-- The exponent of the last bit of the doubles near `q`. -/
def grid (q : Rat) : Int :=
  max (Int.log 2 q - 52) (-1074)

theorem le_log_iff {q : Rat} (hq : 0 < q) {k : Int} : k ≤ Int.log 2 q ↔ 2 ^ k ≤ q := by
  rw [← Int.zpow_le_iff_le_log one_lt_two hq, Nat.cast_ofNat]

theorem log_lt_iff {q : Rat} (hq : 0 < q) {k : Int} : Int.log 2 q < k ↔ q < 2 ^ k := by
  rw [← Int.lt_zpow_iff_log_lt one_lt_two hq, Nat.cast_ofNat]

theorem log_eq_of_mantissa {q : Rat} (hq : 0 < q) {m : Nat} (hm : m ≠ 0) {e : Int}
    (hle : m * 2 ^ e ≤ q) (hlt : q < (m + 1) * 2 ^ e)
    : Int.log 2 q = m.log2 + e := by
  obtain ⟨hlower, hupper⟩ := (Nat.log2_eq_iff hm).1 (rfl : m.log2 = m.log2)
  apply le_antisymm
  . rw [← Int.lt_add_one_iff, log_lt_iff hq,
      show (m.log2 : Int) + e + 1 = (m.log2 + 1 : Nat) + e by omega, zpow_add₀ two_ne_zero,
      zpow_natCast]
    apply lt_of_lt_of_le hlt
    gcongr
    exact_mod_cast hupper
  . rw [le_log_iff hq, zpow_add₀ two_ne_zero, zpow_natCast]
    apply le_trans _ hle
    gcongr
    exact_mod_cast hlower

/-- The double nearest to a positive number. -/
def double (q : Rat) : UnpackedFloat :=
  settle .positive (mantissaOf (q / 2 ^ grid q)) (grid q)

theorem shiftToTargetExponent_eq_mantissaOf {q : Rat} {m : Nat} {e : Int} {accuracy : Accuracy}
    (h : Stands (.ofMantissaAndAccuracy m accuracy) (q / 2 ^ e)) (he : e ≤ grid q)
    (htarget : max ((m.log2 : Int) + e - 52) (-1074) = grid q)
    : shiftToTargetExponent Format.binary64 m e accuracy
        =
      (mantissaOf (q / 2 ^ grid q), grid q) := by
  obtain ⟨k, hk⟩ := Int.eq_ofNat_of_zero_le (show 0 ≤ grid q - e by omega)
  have hgrid : grid q = e + k := by omega
  have hscale : q / 2 ^ grid q = q / 2 ^ e / 2 ^ k := by
    rw [hgrid, zpow_add₀ two_ne_zero, zpow_natCast, div_div]
  have hshift : (grid q - e).toNat = k := by omega
  unfold shiftToTargetExponent shiftToExponent
  simp only [targetExponent_eq, htarget, hshift]
  rw [(h.shiftRight k).eq_mantissaOf, ← hscale, hgrid]

/-- A number is rounded in the same way from all mantissas that are fine enough. -/
theorem roundWithAccuracy_eq_double {q : Rat} (hq : 0 < q) {m : Nat} {e : Int} {accuracy : Accuracy}
    (h : Stands (.ofMantissaAndAccuracy m accuracy) (q / 2 ^ e)) (he : e ≤ grid q)
    (hm : m = 0 → e = -1074)
    : roundWithAccuracy Format.binary64 .positive m e accuracy = double q := by
  have hunit : (0 : Rat) < 2 ^ e := by positivity
  have hm' : (ExtendedMantissa.ofMantissaAndAccuracy m accuracy).mantissa = m := by
    cases accuracy with
    | exact => rfl
    | inexact order => cases order <;> rfl
  have hle := h.le
  have hlt := h.lt
  rw [hm', le_div_iff₀ hunit] at hle
  rw [hm', div_lt_iff₀ hunit] at hlt
  rw [roundWithAccuracy_eq_settle, shiftToTargetExponent_eq_mantissaOf h he]
  . rfl
  . by_cases hzero : m = 0
    . have hexponent := hm hzero
      rw [hzero, Nat.cast_zero, zero_add, one_mul] at hlt
      have hlog := (log_lt_iff hq).2 hlt
      rw [hzero, Nat.log2_zero, grid]
      omega
    . rw [grid, log_eq_of_mantissa hq hzero hle hlt]

theorem le_log_quotient {m n : Nat} (hm : 0 < m) (hn : 0 < n)
    : (m.log2 : Int) - n.log2 - 1 ≤ Int.log 2 ((m : Rat) / n) := by
  obtain ⟨hlower, -⟩ := (Nat.log2_eq_iff hm.ne').1 (rfl : m.log2 = m.log2)
  obtain ⟨-, hupper⟩ := (Nat.log2_eq_iff hn.ne').1 (rfl : n.log2 = n.log2)
  rw [le_log_iff (by positivity), le_div_iff₀ (by exact_mod_cast hn)]
  calc (2 : Rat) ^ ((m.log2 : Int) - n.log2 - 1) * n
    _ ≤ 2 ^ ((m.log2 : Int) - n.log2 - 1) * 2 ^ ((n.log2 + 1 : Nat) : Int) := by
      rw [zpow_natCast]
      gcongr
      exact_mod_cast hupper.le
    _ = 2 ^ m.log2 := by
      rw [← zpow_add₀ two_ne_zero, ← zpow_natCast]
      congr 1
      omega
    _ ≤ m := by exact_mod_cast hlower

/-- A quotient is taken to more bits than a double has. -/
theorem divCore_eq (m n : Nat) (e e' : Int)
    : ∃ (k : Nat) (target : Int),
        target = min (e - e') (max ((m.log2 : Int) + e - (n.log2 + e') - 53) (-1074))
          ∧ target + k = e - e'
          ∧ divCore Format.binary64 m e n e'
            = (m <<< k / n, target, accuracyOfFraction (m <<< k % n) n) := by
  obtain ⟨target, htarget⟩ : ∃ target,
      target = min (e - e') (max ((m.log2 : Int) + e - (n.log2 + e') - 53) (-1074)) := ⟨_, rfl⟩
  have hmin : min (e - e')
        (Format.binary64.targetExponent (totalExponent m e - totalExponent n e'))
      = target := by
    rw [htarget]
    congr 1
    simp only [Format.targetExponent, totalExponent, Format.mantissaBits, Format.minExponent]
    omega
  obtain ⟨k, hk⟩ := Int.eq_ofNat_of_zero_le (show 0 ≤ e - e' - target by omega)
  refine ⟨k, target, htarget, by omega, ?_⟩
  unfold divCore
  simp only [hmin, hk, Int.toNat_natCast]

theorem div_eq_double {m n : Nat} {e g : Int} (hm : 0 < m) (hn : 0 < n) (he : -1074 ≤ e - g)
    : UnpackedFloat.div Format.binary64 (.finite .positive m e hm) (.finite .positive n g hn)
        =
      double (m * 2 ^ e / (n * 2 ^ g)) := by
  have hsplit : (m : Rat) * 2 ^ e / (n * 2 ^ g) = m / n * 2 ^ (e - g) := by
    rw [zpow_sub₀ two_ne_zero]
    field_simp
  have hquotient : (0 : Rat) < m / n := by positivity
  have hq : (0 : Rat) < m / n * 2 ^ (e - g) := by positivity
  obtain ⟨k, target, htarget, hk, hcore⟩ := divCore_eq m n e g
  have hlog : (m.log2 : Int) - n.log2 - 1 + (e - g) ≤ Int.log 2 ((m : Rat) / n * 2 ^ (e - g)) := by
    rw [le_log_iff hq, zpow_add₀ two_ne_zero]
    gcongr
    exact (le_log_iff hquotient).1 (le_log_quotient hm hn)
  have hscale : ((m <<< k : Nat) : Rat) / n = m / n * 2 ^ (e - g) / 2 ^ target := by
    rw [Nat.shiftLeft_eq, ← hk, zpow_add₀ two_ne_zero, zpow_natCast]
    push_cast
    field_simp
  have hstands := stands_quotient (m <<< k) hn
  have hlt : m <<< k / n = 0 → Int.log 2 ((m : Rat) / n * 2 ^ (e - g)) < target := by
    intro hzero
    have hless : ((m <<< k : Nat) : Rat) / n < 1 := by
      rw [div_lt_one (by exact_mod_cast hn)]
      exact_mod_cast (Nat.div_eq_zero_iff_lt hn).1 hzero
    rw [log_lt_iff hq]
    rwa [hscale, div_lt_one (by positivity)] at hless
  rw [hscale] at hstands
  rw [hsplit]
  unfold UnpackedFloat.div
  simp only [hcore]
  apply roundWithAccuracy_eq_double hq hstands
  . rw [grid]
    omega
  . intro hzero
    have := hlt hzero
    omega

theorem mul_eq_double {m n : Nat} {e g : Int} (hm : 0 < m) (hn : 0 < n)
    (hbits : 52 ≤ m.log2 + n.log2)
    : UnpackedFloat.mul Format.binary64 (.finite .positive m e hm) (.finite .positive n g hn)
        =
      double (m * 2 ^ e * (n * 2 ^ g)) := by
  have hq : (0 : Rat) < m * 2 ^ e * (n * 2 ^ g) := by positivity
  have hscale : ((m * n : Nat) : Rat) = m * 2 ^ e * (n * 2 ^ g) / 2 ^ (e + g) := by
    rw [zpow_add₀ two_ne_zero]
    push_cast
    field_simp
  have hlog : (m.log2 : Int) + n.log2 + (e + g) ≤ Int.log 2 ((m : Rat) * 2 ^ e * (n * 2 ^ g)) := by
    have hlower {k : Nat} (hk : 0 < k) : (2 : Rat) ^ (k.log2 : Int) ≤ k := by
      rw [zpow_natCast]
      exact_mod_cast ((Nat.log2_eq_iff hk.ne').1 rfl).1
    rw [le_log_iff hq, zpow_add₀ two_ne_zero, zpow_add₀ two_ne_zero, zpow_add₀ two_ne_zero]
    calc (2 : Rat) ^ (m.log2 : Int) * 2 ^ (n.log2 : Int) * (2 ^ e * 2 ^ g)
      _ ≤ m * n * (2 ^ e * 2 ^ g) := by
        gcongr
        . exact hlower hm
        . exact hlower hn
      _ = m * 2 ^ e * (n * 2 ^ g) := by ring
  have hstands := stands_exact (m * n)
  rw [hscale] at hstands
  apply roundWithAccuracy_eq_double hq hstands
  . rw [grid]
    omega
  . intro hzero
    exact absurd hzero (Nat.mul_pos hm hn).ne'

theorem double_normal {q : Rat} (hq : 0 < q) (hlog : -1022 ≤ Int.log 2 q)
    : ∃ (f : Nat) (g : Int) (hf : 0 < f),
        double q = .finite .positive f g hf ∧ (2 ^ 52 ≤ f ∧ f < 2 ^ 53) ∧ Int.log 2 q - 52 ≤ g := by
  have hgrid : grid q = Int.log 2 q - 52 := by
    rw [grid]
    omega
  have hunit : (0 : Rat) < 2 ^ grid q := by positivity
  have hle : 2 ^ 52 ≤ q / 2 ^ grid q := by
    rw [le_div_iff₀ hunit, ← zpow_natCast, ← zpow_add₀ two_ne_zero, ← le_log_iff hq]
    omega
  have hlt : q / 2 ^ grid q < 2 ^ 53 := by
    rw [div_lt_iff₀ hunit, ← zpow_natCast, ← zpow_add₀ two_ne_zero, ← log_lt_iff hq]
    omega
  have hstands := stands_mantissaOf (show 0 ≤ q / 2 ^ grid q by positivity)
  obtain ⟨hlower, hupper⟩ := rounded_bounds hle hlt hstands.abs_sub_le
  obtain ⟨f, g, hf, heq, hbounds, hexponent, -⟩ :=
    settle_normal .positive hlower hupper (show -1074 ≤ grid q by omega)
  exact ⟨f, g, hf, heq, hbounds, by omega⟩

theorem pack_double_of_huge {q : Rat} (h : 2 ^ (1024 : Int) ≤ q)
    : pack Format.binary64 (double q) = packedInfinity Format.binary64 .positive := by
  have hq : 0 < q := lt_of_lt_of_le (by positivity) h
  have hlog := (le_log_iff hq).2 h
  obtain ⟨f, g, hf, heq, hbounds, hexponent⟩ := double_normal hq (by omega)
  rw [heq]
  unfold UnpackedFloat.pack
  simp only
  rw [if_pos]
  show 2048 ≤ (g + 1023 + 52).toNat + 1
  omega

theorem double_of_tiny {q : Rat} (hq : 0 < q) (h : q < 2 ^ (-1075 : Int))
    : double q = .zero .positive := by
  have hgrid : grid q = -1074 := by
    have := (log_lt_iff hq).2 h
    rw [grid]
    omega
  have hhalf : q / 2 ^ (-1074 : Int) < 1 / 2 := by
    rw [div_lt_iff₀ (by positivity)]
    apply lt_of_lt_of_eq h
    rw [show (-1075 : Int) = -1074 - 1 by omega, zpow_sub_one₀ two_ne_zero]
    ring
  have hrounded : (mantissaOf (q / 2 ^ (-1074 : Int))).roundedMantissa = 0 := by
    have := (stands_mantissaOf (show 0 ≤ q / 2 ^ (-1074 : Int) by positivity)).abs_sub_le
    have hlt : ((mantissaOf (q / 2 ^ (-1074 : Int))).roundedMantissa : Rat) < 1 := by
      linarith [(abs_le.1 this).2]
    exact Nat.lt_one_iff.1 (by exact_mod_cast hlt)
  rw [double, hgrid, settle, hrounded]
  rfl

/-- A number in the format of doubles is not rounded. -/
theorem double_of_canonical {m : Nat} (hm : 0 < m) {e : Int}
    (hcanonical : max ((m.log2 : Int) + e - 52) (-1074) = e)
    : double (m * 2 ^ e) = .finite .positive m e hm := by
  have hunit : (0 : Rat) < 2 ^ e := by positivity
  have hq : (0 : Rat) < m * 2 ^ e := by positivity
  have hgrid : grid (m * 2 ^ e) = e := by
    rw [grid, log_eq_of_mantissa hq hm.ne' (le_refl _) (by linarith)]
    exact hcanonical
  have hmantissa : mantissaOf (m * 2 ^ e / 2 ^ e) = .ofMantissaAndAccuracy m .exact := by
    rw [mul_div_cancel_right₀ _ hunit.ne']
    exact (stands_exact m).eq_mantissaOf.symm
  have hshift : shiftToTargetExponent Format.binary64 m e .exact
      = (.ofMantissaAndAccuracy m .exact, e) := by
    unfold shiftToTargetExponent shiftToExponent
    simp only [targetExponent_eq, hcanonical, sub_self, Int.toNat_zero, shiftRight_zero,
      Nat.cast_zero, add_zero]
  have hrounded : (ExtendedMantissa.ofMantissaAndAccuracy m .exact).roundedMantissa = m := rfl
  rw [double, hgrid, hmantissa, settle, hrounded, hshift]
  exact dif_neg hm.ne'

end Rounding

namespace Decimal

open Float.Model Float.Model.UnpackedFloat

/-- The number that a decimal is. -/
def value (d : Decimal) : Rat :=
  d.digits * 10 ^ d.exponent

theorem two_zpow_le_ten_zpow {e : Int} (he : 0 ≤ e) : (2 : Rat) ^ e ≤ 10 ^ e := by
  obtain ⟨k, rfl⟩ := Int.eq_ofNat_of_zero_le he
  rw [zpow_natCast, zpow_natCast]
  gcongr
  norm_num

theorem pack_ofScientific {m : Nat} (hm : m ≠ 0) (e : Int)
    : pack Format.binary64 (UnpackedFloat.ofScientific Format.binary64 m e)
        =
      pack Format.binary64 (Rounding.double (m * 10 ^ e)) := by
  have hpos : 0 < m := Nat.pos_of_ne_zero hm
  have hone : (1 : Rat) ≤ m := by exact_mod_cast hpos
  unfold UnpackedFloat.ofScientific
  rw [dif_neg hm]
  split
  . next hhuge =>
    have hhuge : 2048 < e := hhuge
    rw [Rounding.pack_double_of_huge]
    . rfl
    . calc (2 : Rat) ^ (1024 : Int)
        _ ≤ 2 ^ e := zpow_le_zpow_right₀ one_le_two (by omega)
        _ ≤ 10 ^ e := two_zpow_le_ten_zpow (by omega)
        _ ≤ m * 10 ^ e := le_mul_of_one_le_left (by positivity) hone
  . split
    . next htiny =>
      have htiny : e < -(2048 + (m.log2 : Int)) := htiny
      have hupper : (m : Rat) < 2 ^ ((m.log2 + 1 : Nat) : Int) := by
        rw [zpow_natCast]
        exact_mod_cast ((Nat.log2_eq_iff hm).1 rfl).2
      rw [Rounding.double_of_tiny (by positivity)]
      calc (m : Rat) * 10 ^ e
        _ = m * (10 ^ (-e))⁻¹ := by rw [zpow_neg, inv_inv]
        _ < 2 ^ ((m.log2 + 1 : Nat) : Int) * (2 ^ (-e))⁻¹ := by
          apply mul_lt_mul hupper _ (by positivity) (by positivity)
          exact inv_anti₀ (by positivity) (two_zpow_le_ten_zpow (by omega))
        _ = 2 ^ (((m.log2 + 1 : Nat) : Int) + e) := by
          rw [zpow_neg, inv_inv, zpow_add₀ two_ne_zero]
        _ ≤ 2 ^ (-1075 : Int) := zpow_le_zpow_right₀ one_le_two (by omega)
    . split
      . next hsign =>
        obtain ⟨k, rfl⟩ := Int.eq_ofNat_of_zero_le hsign
        have hshift : 0 < m <<< 53 := by
          rw [Nat.shiftLeft_eq]
          positivity
        have hmul := Rounding.mul_eq_double (e := -53) (g := 0) hshift
          (Nat.pow_pos (n := k) (show 0 < 10 by omega)) (by
            rw [log2_shiftLeft m 53 hpos]
            omega)
        have hvalue : ((m <<< 53 : Nat) : Rat) * 2 ^ (-53 : Int) * ((10 ^ k : Nat) * 2 ^ (0 : Int))
            = m * 10 ^ k := by
          rw [Nat.shiftLeft_eq, zpow_zero, mul_one, zpow_neg]
          push_cast
          field_simp
        rw [zpow_natCast, ← hvalue, ← hmul]
        rfl
      . next hsign =>
        obtain ⟨k, hk⟩ := Int.eq_ofNat_of_zero_le (show 0 ≤ -e by omega)
        have := Rounding.div_eq_double (e := 0) (g := 0) hpos
          (Nat.pow_pos (n := k) (show 0 < 10 by omega)) (by omega)
        rw [Nat.cast_pow, Nat.cast_ofNat, zpow_zero, mul_one, mul_one] at this
        have he : e = -(k : Int) := by omega
        subst he
        rw [zpow_neg, zpow_natCast, ← div_eq_mul_inv, ← this]
        simp only [neg_neg, Int.toNat_natCast]

theorem value_eq_zero_iff {d : Decimal} : d.value = 0 ↔ d.digits = 0 := by
  have hunit : (10 : Rat) ^ d.exponent ≠ 0 := by positivity
  rw [value, mul_eq_zero, or_iff_left hunit, Nat.cast_eq_zero]

/-- The double that is nearest to a positive number. -/
def ofValue (q : Rat) : Float :=
  .ofModel (.pack (Rounding.double q))

theorem toFloat_eq_ofValue {d : Decimal} (h : d.digits ≠ 0) : d.toFloat = ofValue d.value := by
  unfold toFloat ofValue Float.Model.ofScientific Float.Model.pack
  simp only [pack_ofScientific h, value]

theorem toFloat_of_digits_eq_zero {d : Decimal} (h : d.digits = 0)
    : d.toFloat = .ofModel (.pack (.zero .positive)) := by
  unfold toFloat Float.Model.ofScientific
  rw [h]
  rfl

/-- Of a decimal, only the number that it is makes a difference for the double. -/
theorem toFloat_eq_of_value_eq {d d' : Decimal} (h : d.value = d'.value)
    : d.toFloat = d'.toFloat := by
  by_cases hzero : d.digits = 0
  . have hzero' : d'.digits = 0 := by
      rw [← value_eq_zero_iff, ← h, value_eq_zero_iff]
      exact hzero
    rw [toFloat_of_digits_eq_zero hzero, toFloat_of_digits_eq_zero hzero']
  . have hzero' : d'.digits ≠ 0 := by
      rw [ne_eq, ← value_eq_zero_iff, ← h, value_eq_zero_iff]
      exact hzero
    rw [toFloat_eq_ofValue hzero, toFloat_eq_ofValue hzero', h]

theorem toFloat_of_value_eq {d : Decimal} {m : Nat} (hm : 0 < m) {e : Int}
    (hcanonical : max ((m.log2 : Int) + e - 52) (-1074) = e) (h : d.value = m * 2 ^ e)
    : d.toFloat = .ofModel (.pack (.finite .positive m e hm)) := by
  have hne : d.digits ≠ 0 := by
    rw [ne_eq, ← value_eq_zero_iff, h]
    positivity
  rw [toFloat_eq_ofValue hne, ofValue, h, Rounding.double_of_canonical hm hcanonical]

theorem value_lt_of_isFinite {d : Decimal} (h : d.toFloat.isFinite = true)
    : d.value < 2 ^ (1024 : Int) := by
  by_contra hge
  have hhuge := not_lt.1 hge
  have hne : d.digits ≠ 0 := by
    rw [ne_eq, ← value_eq_zero_iff]
    exact (lt_of_lt_of_le (by positivity) hhuge).ne'
  have hfinite : (UnpackedFloat.unpack Format.binary64
      (pack Format.binary64 (Rounding.double d.value))).isFinite = true := by
    rw [toFloat_eq_ofValue hne] at h
    exact h
  rw [Rounding.pack_double_of_huge hhuge] at hfinite
  contradiction

end Decimal

end LiveTopology
