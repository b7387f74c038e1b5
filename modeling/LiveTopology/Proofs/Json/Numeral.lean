import LiveTopology.Proofs.Decimal.Scaled
import LiveTopology.Proofs.Json.Accepted
import LiveTopology.Proofs.Json.Spelling

/-!
This module contains which numbers are read from number texts. An integer is one that is written in
digits only, behind a minus or not, and fits a word. Of the other numbers, those of few digits are
the doubles that are nearest to what is written.
-/

namespace LiveTopology

namespace Decimal

theorem le_ofDigitChars (ds : List Char) (n : Nat) : n ≤ Nat.ofDigitChars 10 ds n := by
  rw [Nat.ofDigitChars_eq_ofDigitChars_zero]
  have := Nat.le_mul_of_pos_left n (Nat.pow_pos (n := ds.length) (show 0 < 10 by decide))
  omega

/-- Digits are all taken if the number that they make is a word. -/
theorem fit_of_lt {ds : List Char} {n : Nat} (h : Nat.ofDigitChars 10 ds n < UInt64.size)
    : fit n ds = (Nat.ofDigitChars 10 ds n, []) := by
  induction ds generalizing n with
  | nil => rfl
  | cons d ds ih =>
    rw [Nat.ofDigitChars_cons] at h ⊢
    have hmore := Nat.lt_of_le_of_lt (le_ofDigitChars ds _) h
    unfold fit
    simp only [hmore, if_true]
    exact ih h

end Decimal

namespace Json

open Decimal

theorem Read.Numeral.decimal_of_lt {n : Read.Numeral}
    (h : ofDigits (n.whole ++ n.fraction) < UInt64.size)
    : n.decimal = ofParts n.whole n.fraction (n.exponent.getD 0) := by
  have hsplit : ofDigits (n.whole ++ n.fraction)
      = Nat.ofDigitChars 10 n.fraction (Nat.ofDigitChars 10 n.whole 0) := by
    rw [ofDigits_eq, Nat.ofDigitChars_append]
  rw [hsplit] at h
  have hwhole := Nat.lt_of_le_of_lt (le_ofDigitChars n.fraction _) h
  unfold decimal ofParts
  simp only [fit_of_lt hwhole, fit_of_lt h, hsplit, List.length_nil, Nat.sub_zero, Nat.cast_zero,
    add_zero]

namespace Spelling.Numeral

/-- The size that is written, with all its digits. -/
def written (n : Spelling.Numeral) : Decimal :=
  ofParts n.parts.whole n.parts.fraction (n.parts.exponent.getD 0)

/-- Few digits, of which the first and the last one are not far from the point. -/
def Short (n : Spelling.Numeral) : Prop :=
  n.written.digits < 2 ^ 53 ∧ n.written.exponent.natAbs ≤ 22

theorem Short.scaled {n : Spelling.Numeral} (h : n.Short)
    : n.parts.decimal.scaled = n.written.toFloat := by
  rw [Read.Numeral.decimal_of_lt (Nat.lt_trans h.1 (by decide))]
  exact scaled_eq_toFloat h.1 h.2

/-- Whether `i` is written in digits only, behind a minus or not. A minus makes no integer of zero. -/
structure IsInt (n : Spelling.Numeral) (i : Int) : Prop where
  fraction : n.fraction = none
  exponent : n.exponent = none
  eq : i = if n.negative then -(ofDigits n.whole : Int) else ofDigits n.whole
  ne_zero : n.negative = true → i ≠ 0
  proper : (Number.int i).Proper

theorem value_parts_of_isInt {n : Spelling.Numeral} {i : Int} (h : n.IsInt i)
    : n.parts.value = .int i := by
  obtain ⟨hfraction, hexponent, heq, hzero, hlower, hupper⟩ := h
  have hword : Read.isWord i = true := by
    unfold Read.isWord
    rw [Bool.and_eq_true, decide_eq_true_eq, decide_eq_true_eq]
    exact ⟨hlower, hupper⟩
  have hsign : (n.negative && ofDigits n.whole == 0) = false := by
    cases hnegative : n.negative with
    | false => rfl
    | true =>
      have hne := hzero hnegative
      rw [hnegative, if_pos rfl] at heq
      rw [Bool.true_and, beq_eq_false_iff_ne]
      omega
  unfold Read.Numeral.value parts
  simp [hfraction, hexponent, ← heq, hword, hsign]

theorem eq_of_value_parts {n : Spelling.Numeral} {x : Float} (h : n.parts.value = .float x)
    : x = signed n.negative n.parts.decimal.scaled := by
  unfold Read.Numeral.value at h
  extract_lets size int at h
  split at h
  . contradiction
  . exact (Number.float.inj h).symm

theorem isInt_of_value_parts {n : Spelling.Numeral} {i : Int} (h : n.parts.value = .int i)
    : n.IsInt i := by
  have hproper := Read.proper_of_numeral h
  have hparts : n.parts = ⟨n.negative, n.whole, n.fraction.elim [] Digits.text,
    n.exponent.map Exponent.value⟩ := rfl
  rw [hparts, Read.Numeral.value] at h
  simp only at h
  generalize heq : (if n.negative = true then -(ofDigits n.whole : Int)
    else ofDigits n.whole) = int at h
  split at h
  . next hint =>
    simp only [Bool.and_eq_true, Option.isNone_map, Option.isNone_iff_eq_none] at hint
    obtain ⟨⟨⟨hfraction, hexponent⟩, -⟩, hsign⟩ := hint
    obtain rfl := Number.int.inj h
    refine ⟨?fraction, hexponent, heq.symm, ?ne_zero, hproper⟩
    case fraction =>
      cases hsome : n.fraction with
      | none => rfl
      | some ds =>
        rw [hsome, Option.elim_some, List.isEmpty_iff] at hfraction
        exact absurd hfraction ds.ne_nil
    case ne_zero =>
      intro hnegative
      rw [hnegative, if_pos rfl] at heq
      simp only [hnegative, Bool.true_and, Bool.not_eq_true', beq_eq_false_iff_ne] at hsign
      omega
  . contradiction

theorem value_parts_of_value? {n : Spelling.Numeral} {m : Number} (h : n.value? = some m)
    : n.parts.value = m := by
  unfold value? at h
  split at h
  . contradiction
  . cases hvalue : n.parts.value with
    | int i =>
      rw [hvalue, inRange?] at h
      exact Option.some.inj h
    | float x =>
      rw [hvalue, inRange?, Option.ite_none_right_eq_some] at h
      exact Option.some.inj h.2

theorem value?_eq_int_iff (n : Spelling.Numeral) (i : Int)
    : n.value? = some (.int i) ↔ n.IsInt i := by
  constructor
  . exact fun h => isInt_of_value_parts (value_parts_of_value? h)
  . intro h
    rw [value?, value_parts_of_isInt h, h.exponent]
    rfl

/-- A number of few digits that is no integer is read as the double nearest to it. -/
theorem eq_of_value?_eq_float (n : Spelling.Numeral) (x : Float) (hshort : n.Short)
    (h : n.value? = some (.float x))
    : x = signed n.negative n.written.toFloat := by
  rw [eq_of_value_parts (value_parts_of_value? h), hshort.scaled]

end Spelling.Numeral

end Json

end LiveTopology
