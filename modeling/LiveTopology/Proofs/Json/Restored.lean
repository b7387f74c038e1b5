import LiveTopology.Proofs.Json.Numeral
import LiveTopology.Proofs.Json.Spelled

/-!
This module contains which doubles are read from the text that is written for them. Not all are, as
a text is made a double in steps that each round. A double of few digits is, and one that is read
from a text of its own is read from any text that it is a part of.
-/

namespace LiveTopology.Json

open Decimal Read Spelling

/-- Whether the text that is written for a double, read as a text of its own, gives the double. -/
def Restored (x : Float) : Prop :=
  whole (value nesting) (printFloat x) = .ok (.number (.float x))

theorem Restored.isFinite {x : Float} (h : Restored x) : x.isFinite = true := by
  by_contra hfinite
  have hnull : whole (value nesting) ['n', 'u', 'l', 'l'] = .ok .null := rfl
  unfold Restored printFloat at h
  rw [if_neg hfinite, hnull] at h
  injection h with h
  contradiction

theorem print_float {x : Float} (hx : x.isFinite = true)
    : printFloat x = (if isNegative x then ['-'] else []) ++ writeSize layout x := by
  have hspecial : x.isNaN = false ∧ x.isInf = false := by
    show x.toModel.unpack.isNaN = false ∧ x.toModel.unpack.isInf = false
    rcases isFinite_cases hx with ⟨sign, hunpack⟩ | ⟨sign, m, e, hm, hunpack⟩
    . rw [hunpack]
      exact ⟨rfl, rfl⟩
    . rw [hunpack]
      exact ⟨rfl, rfl⟩
  unfold printFloat Layout.write
  simp only [hx, hspecial.1, hspecial.2, Bool.false_eq_true, if_true, if_false]
  split
  . simp
  . simp

/-- The size of a double as it is written, with zeros up to the point and one behind it. -/
def pointed (x : Float) : Decimal :=
  let (ds, lead) := significant (shortest layout.tie x)
  (led ds lead).shift (lead + 2 - ds.length).toNat

namespace Spelling

def Digits.ofNat (n : Nat) : Digits where
  text := Nat.toDigits 10 n
  isDigit _ hc := Nat.isDigit_of_mem_toDigits (by omega) (by omega) hc
  ne_nil := Nat.toDigits_ne_nil

/-- The digits behind a point, if there are any. -/
def Digits.ofList? (ds : List Char) (h : ∀ c ∈ ds, c.isDigit = true) : Option Digits :=
  if hne : ds = [] then none else some ⟨ds, h, hne⟩

theorem Digits.text_ofList? (ds : List Char) (h : ∀ c ∈ ds, c.isDigit = true)
    : (Digits.ofList? ds h).elim [] Digits.text = ds
        ∧ (Digits.ofList? ds h).elim [] (fun ds => '.' :: ds.text)
          =
        if ds = [] then [] else '.' :: ds := by
  unfold Digits.ofList?
  by_cases hne : ds = [] <;> simp [hne]

def Exponent.ofInt (e : Int) : Exponent where
  capital := false
  sign := if e < 0 then .minus else .plus
  digits := .ofNat e.natAbs

theorem Exponent.text_ofInt (e : Int)
    : (Exponent.ofInt e).text = 'e' :: (if e < 0 then '-' else '+') :: Nat.toDigits 10 e.natAbs := by
  by_cases hsign : e < 0 <;> simp [Exponent.ofInt, Exponent.text, Digits.ofNat, Sign.text, hsign]

theorem Exponent.value_ofInt (e : Int) : (Exponent.ofInt e).value = e := by
  have hdigits : ofDigits (Exponent.ofInt e).digits.text = e.natAbs := ofDigits_toDigits e.natAbs
  unfold Exponent.value
  rw [hdigits]
  by_cases hsign : e < 0
  . have hminus : (Exponent.ofInt e).sign = .minus := if_pos hsign
    rw [if_pos hminus]
    omega
  . have hplus : (Exponent.ofInt e).sign = .plus := if_neg hsign
    rw [hplus, if_neg (by decide)]
    omega

theorem Exponent.isExcessive_ofInt {e : Int} (he : e < 1024)
    : (Exponent.ofInt e).isExcessive = false := by
  unfold Exponent.isExcessive
  rw [Bool.and_eq_false_iff, decide_eq_false_iff_not]
  by_cases hsign : e < 0
  . right
    simp [Exponent.ofInt, hsign]
  . left
    show ¬ Read.greatestExponent < ofDigits (Nat.toDigits 10 e.natAbs)
    rw [ofDigits_toDigits, Read.greatestExponent]
    omega

end Spelling

/-- What is known of the text that is written for a double. -/
structure Writes (n : Spelling.Numeral) (x : Float) : Prop where
  text : printFloat x = n.text
  negative : n.negative = isNegative x
  marked : (n.parts.fraction.isEmpty && n.parts.exponent.isNone) = false
  small : n.exponent.any Exponent.isExcessive = false
  value : n.written.value = (shortest layout.tie x).value
  digits : n.written.digits ≤ (pointed x).digits
  lower : (pointed x).exponent ≤ n.written.exponent
  upper : n.written.exponent < 0 ∨ 10 ^ n.written.exponent.toNat ≤ (pointed x).digits

theorem writes_zero {x : Float} (hx : x.isFinite = true)
    (hshortest : shortest layout.tie x = ⟨0, 0⟩)
    : Writes ⟨isNegative x, ['0'], .inl rfl, some (.ofNat 0), none⟩ x := by
  have hpointed : pointed x = ⟨0, -1⟩ := by
    unfold pointed
    rw [hshortest]
    rfl
  have hwritten : Numeral.written ⟨isNegative x, ['0'], .inl rfl, some (.ofNat 0), none⟩ = ⟨0, -1⟩ := rfl
  refine ⟨?text, rfl, rfl, rfl, ?value, ?digits, ?lower, .inl (by rw [hwritten]; decide)⟩
  case text =>
    rw [print_float hx]
    unfold writeSize
    rw [hshortest]
    rfl
  case value => rw [hwritten, hshortest, value_eq_zero_iff.2 rfl, value_eq_zero_iff.2 rfl]
  case digits => rw [hpointed, hwritten]
  case lower => rw [hpointed, hwritten]

section Nonzero

variable {x : Float} (hx : x.isFinite = true) {ds : List Char} {lead : Int}
  (hsignificant : significant (shortest layout.tie x) = (ds, lead)) (hleading : Leading ds)
  (hvalue : (shortest layout.tie x).value = (led ds lead).value)

include hsignificant hleading in
theorem writeSize_eq
    : writeSize layout x
        =
      if -5 ≤ lead ∧ lead ≤ 15 then positional ds lead true else scientific ds lead true := by
  have hne : ds.isEmpty = false := by
    obtain ⟨c, cs, rfl, -⟩ := hleading.head
    rfl
  unfold writeSize
  simp only [hsignificant, hne]
  rfl

include hsignificant in
theorem pointed_eq : pointed x = (led ds lead).shift (lead + 2 - ds.length).toNat := by
  unfold pointed
  rw [hsignificant]

include hx hsignificant hleading hvalue

theorem exists_writes_positional (hplain : -5 ≤ lead ∧ lead ≤ 15) : ∃ n, Writes n x := by
  have hpointed := pointed_eq hsignificant
  obtain ⟨whole, fraction, htext, hwhole, ⟨hne, hdigits⟩, hparts⟩ := positional_eq hleading lead
  have hwritten : ofParts whole fraction 0 = pointed x := hparts.trans hpointed.symm
  refine ⟨⟨isNegative x, whole, hwhole, some ⟨fraction, hdigits, hne⟩, none⟩,
    ?text, rfl, ?marked, rfl, ?value, ?digits, ?lower, ?upper⟩
  case text =>
    rw [print_float hx, writeSize_eq hsignificant hleading, if_pos hplain, htext]
    simp [Numeral.text, Numeral.size]
  case marked => simp [Numeral.parts, hne]
  case value =>
    show (ofParts whole fraction 0).value = _
    rw [hparts, value_shift, hvalue]
  case digits => exact (congrArg Decimal.digits hwritten).le
  case lower => exact (congrArg Decimal.exponent hwritten).ge
  case upper =>
    left
    show (ofParts whole fraction 0).exponent < 0
    rw [hparts]
    show lead + 1 - ds.length - (lead + 2 - ds.length).toNat < 0
    omega

theorem exists_writes_scientific (hplain : ¬ (-5 ≤ lead ∧ lead ≤ 15)) (hlead : lead < 1024)
    : ∃ n, Writes n x := by
  have hpointed := pointed_eq hsignificant
  obtain ⟨whole, fraction, htext, hwhole, hdigits, hparts⟩ := scientific_eq hleading lead
  obtain ⟨helim, hpoint⟩ := Digits.text_ofList? fraction hdigits
  have hwritten : Numeral.written ⟨isNegative x, whole, hwhole, Digits.ofList? fraction hdigits,
      some (.ofInt lead)⟩ = led ds lead := by
    show ofParts whole ((Digits.ofList? fraction hdigits).elim [] Digits.text)
      (Exponent.ofInt lead).value = _
    rw [helim, Exponent.value_ofInt, hparts]
  refine ⟨⟨isNegative x, whole, hwhole, Digits.ofList? fraction hdigits, some (.ofInt lead)⟩,
    ?text, rfl, ?marked, ?small, ?value, ?digits, ?lower, ?upper⟩
  case text =>
    rw [print_float hx, writeSize_eq hsignificant hleading, if_neg hplain, htext]
    unfold Numeral.text Numeral.size
    rw [hpoint, Option.elim_some, Exponent.text_ofInt]
  case marked => exact Bool.and_false _
  case small => exact Exponent.isExcessive_ofInt hlead
  case value => rw [hwritten, hvalue]
  case digits =>
    rw [hwritten, hpointed]
    exact Nat.le_mul_of_pos_right _ (Nat.pow_pos (by decide))
  case lower =>
    rw [hwritten, hpointed]
    show lead + 1 - ds.length - (lead + 2 - ds.length).toNat ≤ lead + 1 - ds.length
    omega
  case upper =>
    rw [hwritten, hpointed]
    right
    show 10 ^ (lead + 1 - ds.length).toNat ≤ ofDigits ds * 10 ^ (lead + 2 - ds.length).toNat
    have hpos : 0 < ofDigits ds := Nat.lt_of_lt_of_le (Nat.pow_pos (by decide)) hleading.le_ofDigits
    calc 10 ^ (lead + 1 - ds.length).toNat
      _ ≤ 10 ^ (lead + 2 - ds.length).toNat := Nat.pow_le_pow_right (by decide) (by omega)
      _ ≤ ofDigits ds * 10 ^ (lead + 2 - ds.length).toNat := Nat.le_mul_of_pos_left _ hpos

end Nonzero

theorem exists_writes {x : Float} (hx : x.isFinite = true) : ∃ n, Writes n x := by
  rcases isFinite_cases hx with ⟨sign, hunpack⟩ | ⟨sign, m, e, hm, hunpack⟩
  . exact ⟨_, writes_zero hx (shortest_of_unpack_zero layout.tie hunpack)⟩
  . have hne := shortest_of_unpack_finite layout.tie hunpack
    obtain ⟨hleading, hvalue⟩ := significant_of_digits_ne_zero hne
    have hlead : (significant (shortest layout.tie x)).2 < 1024 := by
      apply lead_lt hne
      rw [toFloat_shortest _ hx]
      exact isFinite_abs hx
    by_cases hplain : -5 ≤ (significant (shortest layout.tie x)).2
        ∧ (significant (shortest layout.tie x)).2 ≤ 15
    . exact exists_writes_positional hx rfl hleading hvalue hplain
    . exact exists_writes_scientific hx rfl hleading hvalue hplain hlead

theorem restored_iff {n : Spelling.Numeral} {x : Float} (h : printFloat x = n.text)
    : Restored x ↔ n.value? = some (.float x) := by
  have hread := value_number n nesting [] stops_nil
  rw [List.append_nil, ← h] at hread
  constructor
  . intro hwhole
    obtain ⟨rest, hvalue⟩ := read_of_whole hwhole
    rw [hvalue] at hread
    cases hnumber : n.value? with
    | none =>
      rw [hnumber] at hread
      contradiction
    | some m =>
      rw [hnumber] at hread
      injection hread with hread
      injection hread with hread
      injection hread with hread
      rw [hread]
  . intro hvalue
    rw [hvalue] at hread
    exact whole_of_read (eq_ok_of_toOption hread)

/-- A double that is read from its text is also read from it if anything follows. -/
theorem Restored.reread {x : Float} (h : Restored x) : Reread x := by
  obtain ⟨n, hn⟩ := exists_writes h.isFinite
  have hvalue := (restored_iff hn.text).1 h
  refine ⟨?opens, fun d rest hrest => ?value⟩
  case opens =>
    obtain ⟨c, cs, hcs, hblank, hclose, -⟩ := head_number n
    exact ⟨c, cs, hn.text.trans hcs, hblank, hclose⟩
  case value =>
    have hread := value_number n d rest hrest
    rw [hvalue, ← hn.text] at hread
    exact eq_ok_of_toOption hread

/-- A double of few digits, even if zeros are put between them and the point. -/
structure Short (x : Float) : Prop where
  isFinite : x.isFinite = true
  digits : (pointed x).digits < 2 ^ 53
  exponent : -22 ≤ (pointed x).exponent

theorem Short.restored {x : Float} (h : Short x) : Restored x := by
  obtain ⟨n, hn⟩ := exists_writes h.isFinite
  have hdigits : n.written.digits < 2 ^ 53 := Nat.lt_of_le_of_lt hn.digits h.digits
  have hexponent : n.written.exponent.natAbs ≤ 22 := by
    have hupper : n.written.exponent ≤ 22 := by
      rcases hn.upper with hneg | hpower
      . omega
      . by_contra hgreat
        have : 10 ^ 23 ≤ 10 ^ n.written.exponent.toNat :=
          Nat.pow_le_pow_right (by decide) (by omega)
        have := h.digits
        omega
    have := hn.lower
    have := h.exponent
    omega
  have hsize : n.parts.decimal.scaled = x.abs := by
    calc n.parts.decimal.scaled
      _ = n.written.toFloat := Numeral.Short.scaled ⟨hdigits, hexponent⟩
      _ = (shortest layout.tie x).toFloat := toFloat_eq_of_value_eq hn.value
      _ = x.abs := toFloat_shortest _ h.isFinite
  have hparts : n.parts.value = .float x := by
    have hnegative : n.parts.negative = isNegative x := hn.negative
    unfold Read.Numeral.value
    simp only [hn.marked, Bool.false_and, Bool.false_eq_true, if_false, hsize, hnegative,
      signed_isNegative h.isFinite]
  rw [restored_iff hn.text]
  unfold Numeral.value?
  rw [hn.small, hparts, Bool.false_and, if_neg (by decide), inRange?, if_pos h.isFinite]

/-- This double is read as the next greater one. -/
example : ¬ Restored 51.248178375505404 := by
  intro h
  have hread := congrArg Except.toOption h
  revert hread
  decide +kernel

end LiveTopology.Json
