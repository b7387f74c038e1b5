import LiveTopology.Decimal.Numeral

/-!
This module contains what is never missing from the text of a number.
-/

namespace LiveTopology.Decimal

theorem takeSign_cases (cs : List Char)
    : cs = (takeSign cs).2 ∨ cs = '+' :: (takeSign cs).2 ∨ cs = '-' :: (takeSign cs).2 := by
  unfold takeSign
  split <;> simp

theorem takeWhile_isDigit_of_forall {cs : List Char} (h : ∀ c ∈ cs, c.isDigit = false)
    : cs.takeWhile Char.isDigit = [] ∧ cs.dropWhile Char.isDigit = cs := by
  cases cs with
  | nil => exact ⟨rfl, rfl⟩
  | cons c cs => simp [h c List.mem_cons_self]

theorem exists_isDigit_of_ofText? {cs : List Char} {d : Decimal} (h : ofText? cs = some d)
    : ∃ c ∈ cs, c.isDigit = true := by
  apply Decidable.byContradiction
  intro hnone
  have hnone : ∀ c ∈ cs, c.isDigit = false := by simpa using hnone
  obtain ⟨htake, hdrop⟩ := takeWhile_isDigit_of_forall hnone
  unfold ofText? at h
  rw [htake, hdrop] at h
  split at h
  next fraction rest heq =>
  have hfraction : fraction = [] := by
    split at heq
    . next cs' =>
      have hrest := takeWhile_isDigit_of_forall fun c hc => hnone c (List.mem_cons_of_mem '.' hc)
      rw [← (Prod.mk.inj heq).1, hrest.1]
    . exact (Prod.mk.inj heq).1.symm
  rw [hfraction] at h
  contradiction

/-- The numbers that are spelled without a digit. -/
def digitless : List String :=
  ["inf", "infinity", "nan"]

/-- A number has a digit, or is one of three words behind its sign. -/
theorem spelling_of_parseFloat? {s : String} {x : Float} (h : parseFloat? s = some x)
    : (∃ c ∈ s.toList, c.isDigit = true)
      ∨ String.ofList ((takeSign s.toList).2.map Char.toLower) ∈ digitless := by
  unfold parseFloat? at h
  dsimp only at h
  split at h
  . next heq => exact .inr (by simp [heq, digitless])
  . next heq => exact .inr (by simp [heq, digitless])
  . next heq => exact .inr (by simp [heq, digitless])
  . obtain ⟨size, hsize, -⟩ := Option.map_eq_some_iff.1 h
    obtain ⟨d, hd, -⟩ := Option.map_eq_some_iff.1 hsize
    obtain ⟨c, hc, hdigit⟩ := exists_isDigit_of_ofText? hd
    refine .inl ⟨c, ?_, hdigit⟩
    rcases takeSign_cases s.toList with heq | heq | heq
    . rw [heq]
      exact hc
    . rw [heq]
      exact List.mem_cons_of_mem _ hc
    . rw [heq]
      exact List.mem_cons_of_mem _ hc

end LiveTopology.Decimal
