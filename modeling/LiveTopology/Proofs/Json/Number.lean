import LiveTopology.Json.Reader
import LiveTopology.Proofs.Decimal.Digits
import LiveTopology.Proofs.Json.Proper

/-!
This module contains how the text of a number is cut into its parts, and that an integer that fits a
word is read from its text.
-/

namespace LiveTopology.Json.Read

open Decimal

/-- What can follow a number without being a part of it. -/
def Stops (rest : List Char) : Prop :=
  ∀ c cs, rest = c :: cs → c.isDigit = false ∧ c ≠ '.' ∧ c ≠ 'e' ∧ c ≠ 'E'

theorem stops_nil : Stops [] := by
  intro c cs h
  contradiction

theorem stops_cons {c : Char} (hc : c.isDigit = false ∧ c ≠ '.' ∧ c ≠ 'e' ∧ c ≠ 'E')
    (cs : List Char) : Stops (c :: cs) := by
  intro c' cs' h
  injection h with hhead
  rwa [← hhead]

theorem Stops.startsWithDigit {rest : List Char} (h : Stops rest)
    : number.startsWithDigit rest = false := by
  cases rest with
  | nil => rfl
  | cons c cs => exact (h c cs rfl).1

theorem span_digits {ds rest : List Char} (hds : ∀ c ∈ ds, c.isDigit = true)
    (hrest : number.startsWithDigit rest = false)
    : (ds ++ rest).takeWhile Char.isDigit = ds ∧ (ds ++ rest).dropWhile Char.isDigit = rest := by
  rw [List.takeWhile_append_of_pos hds, List.dropWhile_append_of_pos hds]
  cases rest with
  | nil => simp
  | cons c cs =>
    have hc : c.isDigit = false := hrest
    simp [hc]

variable (negative : Bool)

theorem number_whole {whole rest : List Char} (hwhole : IsWhole whole)
    (hrest : number.startsWithDigit rest = false)
    : number negative (whole ++ rest) = number.fraction negative whole rest := by
  rcases hwhole with rfl | hleading
  . simp [number, hrest]
  . obtain ⟨htake, hdrop⟩ := span_digits hleading.isDigit hrest
    have hisDigit := hleading.isDigit
    obtain ⟨c, cs, rfl, hc⟩ := hleading.head
    have hdigit := hisDigit c List.mem_cons_self
    unfold number
    split
    . contradiction
    . next heq =>
      injection heq with hhead
      exact absurd hhead hc
    . next c' cs' _ heq =>
      injection heq with hhead
      rw [← hhead, if_pos hdigit, htake, hdrop]

theorem fraction_point {whole fraction rest : List Char}
    (hne : fraction ≠ []) (hfraction : ∀ c ∈ fraction, c.isDigit = true)
    (hrest : number.startsWithDigit rest = false)
    : number.fraction negative whole ('.' :: (fraction ++ rest))
        =
      number.exponent negative whole fraction rest := by
  obtain ⟨htake, hdrop⟩ := span_digits hfraction hrest
  unfold number.fraction
  simp only [htake, hdrop]
  cases fraction with
  | nil => contradiction
  | cons c cs => rfl

theorem fraction_none {whole rest : List Char} (hrest : ∀ cs, rest ≠ '.' :: cs)
    : number.fraction negative whole rest = number.exponent negative whole [] rest := by
  unfold number.fraction
  split
  . next cs => exact absurd rfl (hrest cs)
  . rfl

theorem exponent_none {whole fraction rest : List Char} (hrest : Stops rest)
    : number.exponent negative whole fraction rest
        =
      number.finish ⟨negative, whole, fraction, none⟩ rest := by
  cases rest with
  | nil => rfl
  | cons c cs =>
    obtain ⟨-, -, he, hE⟩ := hrest c cs rfl
    simp [number.exponent, he, hE]

theorem signed_natAbs (n : Int)
    : (if decide (n < 0) = true then -(n.natAbs : Int) else n.natAbs) = n := by
  by_cases hsign : n < 0
  . simp only [hsign, decide_true, if_true]
    omega
  . simp only [hsign, decide_false, Bool.false_eq_true, if_false]
    omega

theorem isWhole_toDigits (n : Nat) : IsWhole (Nat.toDigits 10 n) := by
  by_cases hzero : n = 0
  . left
    rw [hzero]
    rfl
  . right
    apply leading_toDigits hzero

theorem value_int {n : Int} (hn : (Number.int n).Proper)
    : Numeral.value ⟨n < 0, Nat.toDigits 10 n.natAbs, [], none⟩ = .int n := by
  obtain ⟨hlower, hupper⟩ := hn
  have hword : isWord n = true := by
    unfold isWord
    rw [Bool.and_eq_true, decide_eq_true_eq, decide_eq_true_eq]
    exact ⟨hlower, hupper⟩
  have hzero : (decide (n < 0) && n.natAbs == 0) = false := by
    rw [Bool.and_eq_false_iff, decide_eq_false_iff_not, beq_eq_false_iff_ne]
    omega
  unfold Numeral.value
  simp only [ofDigits_toDigits, signed_natAbs, hword, hzero, List.isEmpty_nil, Option.isNone_none,
    Bool.and_self, Bool.not_false, if_true]

theorem number_toDigits {n : Int} (hn : (Number.int n).Proper) {rest : List Char}
    (hrest : Stops rest)
    : number (n < 0) (Nat.toDigits 10 n.natAbs ++ rest) = .ok (.int n, rest) := by
  have hpoint : ∀ cs, rest ≠ '.' :: cs := fun cs heq => (hrest _ _ heq).2.1 rfl
  rw [number_whole _ (isWhole_toDigits _) hrest.startsWithDigit, fraction_none _ hpoint,
    exponent_none _ hrest]
  unfold number.finish
  rw [value_int hn]

/-- A number that is read begins with a digit. -/
theorem head_of_number {negative : Bool} {cs rest : List Char} {n : Number}
    (h : number negative cs = .ok (n, rest))
    : ∃ c cs', cs = c :: cs' ∧ c.isDigit = true := by
  unfold number at h
  split at h
  . contradiction
  . exact ⟨_, _, rfl, rfl⟩
  . next c cs' _ =>
    split at h
    . next hc => exact ⟨c, cs', rfl, hc⟩
    . contradiction

theorem scalar_of_isDigit {c : Char} (hc : c.isDigit = true) (cs : List Char)
    : scalar (c :: cs) = (do
        let (n, cs) ← number false (c :: cs)
        .ok (.number n, cs)) := by
  unfold scalar
  split
  case h_1 heq => contradiction
  case h_7 heq =>
    injection heq with hhead htail
    subst hhead htail
    rw [if_pos hc]
  all_goals
    next heq =>
      injection heq with hhead
      rw [hhead] at hc
      contradiction

theorem scalar_of_number {negative : Bool} {cs rest : List Char} {n : Number}
    (h : number negative cs = .ok (n, rest))
    : scalar ((if negative then ['-'] else []) ++ cs) = .ok (.number n, rest) := by
  cases negative with
  | true =>
    show (number true cs >>= fun p => Except.ok (Json.number p.1, p.2)) = _
    rw [h]
    rfl
  | false =>
    obtain ⟨c, cs', rfl, hc⟩ := head_of_number h
    show scalar (c :: cs') = _
    rw [scalar_of_isDigit hc, h]
    rfl

theorem scalar_int {n : Int} (hn : (Number.int n).Proper) {rest : List Char} (hrest : Stops rest)
    : scalar ((Number.int n).print ++ rest) = .ok (.number (.int n), rest) := by
  have hprint : (Number.int n).print
      = (if decide (n < 0) = true then ['-'] else []) ++ Nat.toDigits 10 n.natAbs := by
    by_cases hsign : n < 0 <;> simp [Number.print, printInt, hsign]
  rw [hprint, List.append_assoc]
  exact scalar_of_number (number_toDigits hn hrest)

end LiveTopology.Json.Read
