import Mathlib.Data.List.Induction

/-!
This module contains what it means that something was done in the course of a run, and that nothing
of another kind was done since.
-/

namespace LiveTopology

variable {α : Type} {P : List α → α → Prop} {Q : α → Prop}

/-- Of all that was done one after another, `P` is true of something, by what was done before it, and
`Q` is true of nothing that was done since. -/
def Since (P : List α → α → Prop) (Q : α → Prop) (ops : List α) : Prop :=
  ∃ before op after, ops = before ++ op :: after ∧ P before op ∧ ∀ later ∈ after, ¬ Q later

theorem not_since_nil : ¬ Since P Q [] := by
  rintro ⟨before, op, after, heq, -⟩
  simp at heq

theorem since_concat (ops : List α) (op : α)
    : Since P Q (ops ++ [op]) ↔ P ops op ∨ ¬ Q op ∧ Since P Q ops := by
  constructor
  . rintro ⟨before, first, after, heq, hfirst, hafter⟩
    -- Either the last thing that was done is the one in question, or it came after that.
    rcases List.eq_nil_or_concat after with rfl | ⟨middle, last, rfl⟩
    . obtain ⟨rfl, hlast⟩ := List.append_inj' heq rfl
      obtain rfl := List.singleton_inj.1 hlast
      exact .inl hfirst
    . have heq : ops ++ [op] = (before ++ first :: middle) ++ [last] := by simpa using heq
      obtain ⟨rfl, hlast⟩ := List.append_inj' heq rfl
      obtain rfl := List.singleton_inj.1 hlast
      refine .inr ⟨hafter op (by simp), before, first, middle, rfl, hfirst, ?_⟩
      intro later hlater
      apply hafter
      simp [hlater]
  . rintro (hop | ⟨hop, before, first, after, rfl, hfirst, hafter⟩)
    . exact ⟨ops, op, [], rfl, hop, by simp⟩
    . refine ⟨before, first, after ++ [op], by simp, hfirst, ?_⟩
      intro later hlater
      rcases List.mem_append.1 hlater with hlater | hlater
      . exact hafter later hlater
      . rwa [List.mem_singleton.1 hlater]

end LiveTopology
