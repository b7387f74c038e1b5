import LiveTopology.Text.Blank

/-!
This module contains what it means to cut a text at its gaps, and that a text is cut in one way
only.
-/

namespace LiveTopology.Text

/-- The longest runs of characters that are no gaps, in order. -/
inductive Cut (isGap : Char → Bool) : List Char → List (List Char) → Prop where
  | nil : Cut isGap [] []
  | gap {c : Char} {cs : List Char} {ws : List (List Char)} (hc : isGap c = true)
    (h : Cut isGap cs ws)
    : Cut isGap (c :: cs) ws
  | run {w cs : List Char} {ws : List (List Char)} (hw : w ≠ []) (hrun : ∀ c ∈ w, isGap c = false)
    (hend : ∀ c ∈ cs.head?, isGap c = true) (h : Cut isGap cs ws)
    : Cut isGap (w ++ cs) (w :: ws)

variable {isGap : Char → Bool}

theorem Cut.single {w : List Char} (hw : w ≠ []) (hrun : ∀ c ∈ w, isGap c = false)
    : Cut isGap w [w] := by
  have h := Cut.run hw hrun (by simp) .nil
  rwa [List.append_nil] at h

theorem runs.cut_go (cs : List Char)
    : ∀ (run : List Char) (_hrun : ∀ c ∈ run, isGap c = false),
        Cut isGap (run.reverse ++ cs) (go isGap run cs) := by
  induction cs with
  | nil =>
    intro run hrun
    unfold go close
    cases run with
    | nil => exact .nil
    | cons c run =>
      exact .run (by simp) (fun d hd => hrun d (List.mem_reverse.1 hd)) (by simp) .nil
  | cons c cs ih =>
    intro run hrun
    unfold go
    split
    . next hc =>
      have hrest : Cut isGap (c :: cs) (go isGap [] cs) := .gap hc (ih [] (by simp))
      unfold close
      cases run with
      | nil => exact hrest
      | cons d run =>
        exact .run (by simp) (fun d hd => hrun d (List.mem_reverse.1 hd)) (by simpa using hc) hrest
    . next hc =>
      have hcut := ih (c :: run) (by simpa [hc] using hrun)
      rw [List.reverse_cons, List.append_assoc] at hcut
      exact hcut

theorem runs.go_append {w : List Char} (hw : ∀ c ∈ w, isGap c = false) (run cs : List Char)
    : go isGap run (w ++ cs) = go isGap (w.reverse ++ run) cs := by
  induction w generalizing run with
  | nil => rfl
  | cons c w ih =>
    rw [List.cons_append, go, hw c List.mem_cons_self, if_neg Bool.false_ne_true, ih]
    . simp
    . intro d hd
      exact hw d (List.mem_cons_of_mem c hd)

/-- A run ends where a gap follows. -/
theorem runs.go_of_head {cs : List Char} (hend : ∀ c ∈ cs.head?, isGap c = true) (run : List Char)
    : go isGap run cs = close run (go isGap [] cs) := by
  cases cs with
  | nil => rfl
  | cons c cs =>
    have hc : isGap c = true := hend c rfl
    unfold go
    rw [if_pos hc, if_pos hc]
    rfl

theorem Cut.eq_runs {cs : List Char} {ws : List (List Char)} (h : Cut isGap cs ws)
    : runs isGap cs = ws := by
  unfold runs
  induction h with
  | nil => rfl
  | gap hc h ih =>
    unfold runs.go
    rw [if_pos hc, ih]
    rfl
  | @run w cs ws hw hrun hend h ih =>
    rw [runs.go_append hrun, List.append_nil, runs.go_of_head hend, ih]
    unfold runs.close
    rw [if_neg (by simpa using hw), List.reverse_reverse]

theorem cut_iff (cs : List Char) (ws : List (List Char))
    : Cut isGap cs ws ↔ runs isGap cs = ws := by
  constructor
  . exact Cut.eq_runs
  . rintro rfl
    exact runs.cut_go cs [] (by simp)

theorem cut_map_toList_iff (s : String) (ws : List String)
    : Cut isGap s.toList (ws.map String.toList) ↔ (runs isGap s.toList).map String.ofList = ws := by
  rw [cut_iff]
  constructor
  . intro h
    rw [h]
    simp
  . rintro rfl
    simp

/-- Nothing but gaps is lost. -/
theorem Cut.exists_of_mem {cs : List Char} {ws : List (List Char)} (h : Cut isGap cs ws) {c : Char}
    (hmem : c ∈ cs) (hc : isGap c = false)
    : ∃ w ∈ ws, c ∈ w := by
  induction h with
  | nil => contradiction
  | gap hgap h ih =>
    rcases List.mem_cons.1 hmem with rfl | hmem
    . rw [hc] at hgap
      contradiction
    . exact ih hmem
  | @run w cs ws hw hrun hend h ih =>
    rcases List.mem_append.1 hmem with hmem | hmem
    . exact ⟨w, List.mem_cons_self, hmem⟩
    . obtain ⟨w', hw', hmem⟩ := ih hmem
      exact ⟨w', List.mem_cons_of_mem w hw', hmem⟩

end LiveTopology.Text
