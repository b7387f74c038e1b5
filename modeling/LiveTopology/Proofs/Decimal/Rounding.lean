import Mathlib

/-!
This module contains the rounding of a number to the format of doubles, as the model of doubles does
it bit by bit, and its relation to the nearest integer.
-/

namespace LiveTopology.Rounding

open Float.Model Float.Model.UnpackedFloat

/-- What a mantissa with its two residual bits says about the number that it comes from. -/
structure Stands (em : ExtendedMantissa) (x : Rat) : Prop where
  le : em.mantissa ≤ x
  lt : x < em.mantissa + 1
  round_iff : em.roundBit = true ↔ em.mantissa + 1 / 2 ≤ x
  not_sticky_iff : em.stickyBit = false ↔ x = em.mantissa ∨ x = em.mantissa + 1 / 2

theorem stands_exact (m : Nat) : Stands (.ofMantissaAndAccuracy m .exact) m := by
  constructor
  . exact le_refl _
  . exact lt_add_one _
  . simp [ExtendedMantissa.ofMantissaAndAccuracy]
  . simp [ExtendedMantissa.ofMantissaAndAccuracy]

theorem Stands.exact_iff {em : ExtendedMantissa} {x : Rat} (h : Stands em x)
    : (em.roundBit || em.stickyBit) = false ↔ x = em.mantissa := by
  rw [Bool.or_eq_false_iff, h.not_sticky_iff, ← Bool.not_eq_true, h.round_iff]
  constructor
  . intro ⟨hround, hsticky⟩
    cases hsticky with
    | inl heq => exact heq
    | inr heq => exact absurd (le_of_eq heq.symm) hround
  . intro heq
    constructor
    . linarith
    . exact .inl heq

theorem Stands.shiftRightOne {em : ExtendedMantissa} {x : Rat} (h : Stands em x)
    : Stands em.shiftRightOne (x / 2) := by
  have hle := h.le
  have hlt := h.lt
  have hexact := h.exact_iff
  have hsplit : (em.mantissa : Rat) = 2 * (em.mantissa / 2 : Nat) + (em.mantissa % 2 : Nat) := by
    exact_mod_cast (Nat.div_add_mod em.mantissa 2).symm
  -- The last bit of the mantissa becomes the round bit.
  cases Nat.mod_two_eq_zero_or_one em.mantissa with
  | inl heven =>
    rw [heven, Nat.cast_zero] at hsplit
    constructor
    . show ((em.mantissa / 2 : Nat) : Rat) ≤ x / 2
      linarith
    . show x / 2 < ((em.mantissa / 2 : Nat) : Rat) + 1
      linarith
    . show (em.mantissa % 2 != 0) = true ↔ ((em.mantissa / 2 : Nat) : Rat) + 1 / 2 ≤ x / 2
      rw [heven]
      simp only [bne_self_eq_false, Bool.false_eq_true, false_iff, not_le]
      linarith
    . show (em.roundBit || em.stickyBit) = false
        ↔ x / 2 = (em.mantissa / 2 : Nat) ∨ x / 2 = (em.mantissa / 2 : Nat) + 1 / 2
      rw [hexact]
      constructor
      . intro heq
        left
        linarith
      . intro hor
        cases hor <;> linarith
  | inr hodd =>
    rw [hodd, Nat.cast_one] at hsplit
    constructor
    . show ((em.mantissa / 2 : Nat) : Rat) ≤ x / 2
      linarith
    . show x / 2 < ((em.mantissa / 2 : Nat) : Rat) + 1
      linarith
    . show (em.mantissa % 2 != 0) = true ↔ ((em.mantissa / 2 : Nat) : Rat) + 1 / 2 ≤ x / 2
      rw [hodd]
      simp only [bne_iff_ne, ne_eq, one_ne_zero, not_false_eq_true, true_iff]
      linarith
    . show (em.roundBit || em.stickyBit) = false
        ↔ x / 2 = (em.mantissa / 2 : Nat) ∨ x / 2 = (em.mantissa / 2 : Nat) + 1 / 2
      rw [hexact]
      constructor
      . intro heq
        right
        linarith
      . intro hor
        cases hor <;> linarith

theorem Stands.shiftRight {em : ExtendedMantissa} {x : Rat} (h : Stands em x) (n : Nat)
    : Stands (em >>> n) (x / 2 ^ n) := by
  show Stands (n.repeat ExtendedMantissa.shiftRightOne em) (x / 2 ^ n)
  induction n with
  | zero => simpa [Nat.repeat] using h
  | succ n ih =>
    rw [Nat.repeat, pow_succ, ← div_div]
    apply ih.shiftRightOne

theorem Stands.abs_sub_le {em : ExtendedMantissa} {x : Rat} (h : Stands em x)
    : |(em.roundedMantissa : Rat) - x| ≤ 1 / 2 := by
  obtain ⟨m, round, sticky⟩ := em
  have hle := h.le
  have hlt := h.lt
  have hround := h.round_iff
  have hsticky := h.not_sticky_iff
  simp only at hle hlt hround hsticky
  rw [abs_le]
  cases round with
  | false =>
    have hdown : ExtendedMantissa.roundedMantissa ⟨m, false, sticky⟩ = m := by
      cases sticky <;> rfl
    simp only [Bool.false_eq_true, false_iff, not_le] at hround
    rw [hdown]
    constructor <;> linarith
  | true =>
    simp only [true_iff] at hround
    cases sticky with
    | true =>
      have hup : ExtendedMantissa.roundedMantissa ⟨m, true, true⟩ = m + 1 := rfl
      rw [hup]
      push_cast
      constructor <;> linarith
    | false =>
      -- Halfway between two integers, both are equally near.
      have heven : ExtendedMantissa.roundedMantissa ⟨m, true, false⟩ = m + m % 2 := rfl
      have hhalf : x = m + 1 / 2 := by
        cases hsticky.1 rfl with
        | inl heq => linarith
        | inr heq => exact heq
      rw [heven, hhalf]
      cases Nat.mod_two_eq_zero_or_one m with
      | inl heq =>
        rw [heq]
        push_cast
        constructor <;> linarith
      | inr heq =>
        rw [heq]
        push_cast
        constructor <;> linarith

theorem targetExponent_eq (m : Nat) (e : Int)
    : Format.binary64.targetExponent (totalExponent m e) = max (m.log2 + e - 52) (-1074) := by
  simp only [Format.targetExponent, totalExponent, Format.mantissaBits, Format.minExponent]
  omega

theorem shiftToTargetExponent_eq (m k : Nat) (e : Int) (hlog : m.log2 = 52 + k) (he : -1074 ≤ e + k)
    : shiftToTargetExponent Format.binary64 m e .exact
        =
      (ExtendedMantissa.ofMantissaAndAccuracy m .exact >>> k, e + k) := by
  have htarget : max ((m.log2 : Int) + e - 52) (-1074) = e + k := by
    rw [hlog]
    omega
  have hshift : (e + k - e).toNat = k := by omega
  unfold shiftToTargetExponent shiftToExponent
  simp only [targetExponent_eq, htarget, hshift]

theorem log2_eq_of_bounds {m k : Nat} (hle : 2 ^ k ≤ m) (hlt : m < 2 ^ (k + 1)) : m.log2 = k := by
  have hne : m ≠ 0 := by
    have := Nat.two_pow_pos k
    omega
  exact (Nat.log2_eq_iff hne).2 ⟨hle, hlt⟩

theorem shiftRight_zero (em : ExtendedMantissa) : em >>> (0 : Nat) = em :=
  rfl

theorem rounded_bounds {x : Rat} (hle : 2 ^ 52 ≤ x) (hlt : x < 2 ^ 53) {r : Nat}
    (hnear : |(r : Rat) - x| ≤ 1 / 2) : 2 ^ 52 ≤ r ∧ r ≤ 2 ^ 53 := by
  obtain ⟨hleft, hright⟩ := abs_le.1 hnear
  constructor
  . have : ((2 ^ 52 : Nat) : Rat) < ((r + 1 : Nat) : Rat) := by
      push_cast
      linarith
    have := Nat.cast_lt.1 this
    omega
  . have : (r : Rat) < ((2 ^ 53 + 1 : Nat) : Rat) := by
      push_cast
      linarith
    have := Nat.cast_lt.1 this
    omega

theorem quotient_bounds {m k : Nat} (hlog : m.log2 = 52 + k)
    : (2 : Rat) ^ 52 ≤ m / 2 ^ k ∧ (m : Rat) / 2 ^ k < 2 ^ 53 := by
  have hne : m ≠ 0 := by
    intro hzero
    rw [hzero, Nat.log2_zero] at hlog
    omega
  obtain ⟨hle, hlt⟩ := (Nat.log2_eq_iff hne).1 hlog
  have hpow : (0 : Rat) < 2 ^ k := by positivity
  constructor
  . rw [le_div_iff₀ hpow, ← pow_add]
    exact_mod_cast hle
  . rw [div_lt_iff₀ hpow, ← pow_add]
    rw [show 52 + k + 1 = 53 + k by omega] at hlt
    exact_mod_cast hlt

/-- What a mantissa whose last bit has the exponent `e` is rounded to. -/
def settle (sign : Sign) (em : ExtendedMantissa) (e : Int) : UnpackedFloat :=
  let (final, exponent) := shiftToTargetExponent Format.binary64 em.roundedMantissa e .exact
  if h : final.mantissa = 0 then .zero sign
  else .finite sign final.mantissa exponent (Nat.pos_of_ne_zero h)

theorem roundWithAccuracy_eq_settle (sign : Sign) (m : Nat) (e : Int) (accuracy : Accuracy)
    : roundWithAccuracy Format.binary64 sign m e accuracy
        =
      settle sign (shiftToTargetExponent Format.binary64 m e accuracy).1
        (shiftToTargetExponent Format.binary64 m e accuracy).2 :=
  rfl

theorem settle_normal (sign : Sign) {em : ExtendedMantissa} {e : Int}
    (hle : 2 ^ 52 ≤ em.roundedMantissa) (hlt : em.roundedMantissa ≤ 2 ^ 53) (he : -1074 ≤ e)
    : ∃ (f : Nat) (g : Int) (hf : 0 < f),
        settle sign em e = .finite sign f g hf
          ∧ (2 ^ 52 ≤ f ∧ f < 2 ^ 53)
          ∧ (e ≤ g ∧ g ≤ e + 1)
          ∧ (f : Rat) * 2 ^ g = em.roundedMantissa * 2 ^ e := by
  unfold settle
  generalize em.roundedMantissa = r at hle hlt ⊢
  by_cases hcarry : r < 2 ^ 53
  . have hr : r.log2 = 52 + 0 := log2_eq_of_bounds hle hcarry
    have hpos : r ≠ 0 := by omega
    rw [shiftToTargetExponent_eq r 0 _ hr (by omega)]
    refine ⟨r, e, by omega, ?_, ⟨hle, hcarry⟩, by omega, rfl⟩
    simp only [shiftRight_zero, ExtendedMantissa.ofMantissaAndAccuracy, Nat.cast_zero, add_zero,
      hpos, dite_false]
  . -- The mantissa has been rounded up to the next power of two.
    have heq : r = 2 ^ 53 := by omega
    subst heq
    rw [shiftToTargetExponent_eq (2 ^ 53) 1 _ Nat.log2_two_pow (by omega)]
    refine ⟨2 ^ 52, e + 1, by omega, ?_, by omega, by omega, ?_⟩
    . rfl
    . rw [zpow_add₀ two_ne_zero, zpow_one]
      push_cast
      ring

/-- A mantissa that is long enough is rounded to 53 bits, and what is cut off is at most one half. -/
theorem roundWithAccuracy_eq (sign : Sign) (m k : Nat) (e : Int) (hlog : m.log2 = 52 + k)
    (he : -1074 ≤ e + k)
    : ∃ (r f : Nat) (g : Int) (hf : 0 < f),
        roundWithAccuracy Format.binary64 sign m e .exact = .finite sign f g hf
          ∧ (2 ^ 52 ≤ f ∧ f < 2 ^ 53)
          ∧ (e + k ≤ g ∧ g ≤ e + k + 1)
          ∧ |(r : Rat) - m / 2 ^ k| ≤ 1 / 2
          ∧ (f : Rat) * 2 ^ g = r * 2 ^ (e + k) := by
  have hnear := ((stands_exact m).shiftRight k).abs_sub_le
  rw [roundWithAccuracy_eq_settle, shiftToTargetExponent_eq m k e hlog he]
  obtain ⟨hlower, hupper⟩ := quotient_bounds hlog
  obtain ⟨hle, hlt⟩ := rounded_bounds hlower hupper hnear
  obtain ⟨f, g, hf, heq, hbounds, hexponent, hvalue⟩ := settle_normal sign hle hlt he
  exact ⟨_, f, g, hf, heq, hbounds, hexponent, hnear, hvalue⟩

end LiveTopology.Rounding
