import LiveTopology.Proofs.Viewport.Controller

/-!
This module contains what the owner of a controller is told of: each transform that comes into force,
once and in this order, and nothing else. A gesture that is refused leaves no trace.
-/

namespace LiveTopology

section

variable {α : Type} [Coordinate α]

def Motion.numbers : Motion α → List α
  | .pan dx dy => [dx, dy]
  | .zoom factor anchor => [factor, anchor.x, anchor.y]

def Transform.numbers (t : Transform α) : List α :=
  [t.translateX, t.translateY, t.scale]

theorem Gesture.isFinite_eq_all (g : Gesture α)
    : g.isFinite = g.motion.numbers.all Coordinate.isFinite := by
  unfold Gesture.isFinite
  cases g.motion with
  | pan dx dy => simp [Motion.numbers]
  | zoom factor anchor => simp [Motion.numbers, Bool.and_assoc]

theorem Transform.isFinite_eq_all (t : Transform α)
    : t.isFinite = t.numbers.all Coordinate.isFinite := by
  simp [Transform.isFinite, Transform.numbers, Bool.and_assoc]

end

namespace Controller

variable {α σ : Type} [Coordinate α]

/-- Whether a transform comes into force. A gesture says so itself, and a reset always succeeds. -/
def succeeds (p : Controller α σ × σ) : Op α → Bool
  | .gesture g => (p.1.gesture g p.2).1
  | .reset => true

/-- The transforms that are held right after each reset and each gesture that succeeds. -/
def committed (p : Controller α σ × σ) : List (Op α) → List (Transform α)
  | [] => []
  | op :: ops =>
    (if succeeds p op then [(step p op).1.transform] else []) ++ committed (step p op) ops

/-- The reasons for which a gesture is refused. -/
inductive Refused (c : Controller α σ) (g : Gesture α) : Prop where
  | disabled (h : c.enabled g = false)
  | number (x : α) (hmem : x ∈ g.motion.numbers) (hx : Coordinate.isFinite x = false)
  | overflow (x : α) (hmem : x ∈ (c.transform.compose c.extent g.motion).numbers)
      (hx : Coordinate.isFinite x = false)

theorem target?_eq_none_iff (c : Controller α σ) (g : Gesture α)
    : c.target? g = none ↔ c.Refused g := by
  unfold target?
  simp only [Gesture.isFinite_eq_all, Transform.isFinite_eq_all, ite_eq_right_iff, reduceCtorEq,
    imp_false, Bool.not_eq_true, Bool.and_eq_false_iff, List.all_eq_false]
  constructor
  . rintro ((h | ⟨x, hmem, hx⟩) | ⟨x, hmem, hx⟩)
    . exact .disabled h
    . exact .number x hmem hx
    . exact .overflow x hmem hx
  . rintro (h | ⟨x, hmem, hx⟩ | ⟨x, hmem, hx⟩)
    . exact .inl (.inl h)
    . exact .inl (.inr ⟨x, hmem, hx⟩)
    . exact .inr ⟨x, hmem, hx⟩

/-- What is done either leaves everything as it is, or brings a transform into force. -/
theorem step_cases (p : Controller α σ × σ) (op : Op α)
    : (succeeds p op = false ∧ step p op = p)
        ∨ (succeeds p op = true ∧ step p op = p.1.commit (step p op).1.transform p.2) := by
  cases op with
  | reset => exact .inr ⟨rfl, rfl⟩
  | gesture g =>
    show ((p.1.gesture g p.2).1 = false ∧ (p.1.gesture g p.2).2 = p)
      ∨ ((p.1.gesture g p.2).1 = true ∧ (p.1.gesture g p.2).2 = _)
    cases h : p.1.target? g with
    | none =>
      rw [gesture_of_none h]
      exact .inl ⟨rfl, rfl⟩
    | some t =>
      rw [gesture_of_some h]
      refine .inr ⟨rfl, ?_⟩
      show _ = p.1.commit (p.1.gesture g p.2).2.1.transform p.2
      rw [gesture_of_some h]
      rfl

theorem committed_of_fails {p : Controller α σ × σ} {op : Op α} (h : succeeds p op = false)
    (ops : List (Op α))
    : committed p (op :: ops) = committed (step p op) ops := by
  simp [committed, h]

theorem committed_of_succeeds {p : Controller α σ × σ} {op : Op α} (h : succeeds p op = true)
    (ops : List (Op α))
    : committed p (op :: ops) = (step p op).1.transform :: committed (step p op) ops := by
  simp [committed, h]

theorem run_cons (p : Controller α σ × σ) (op : Op α) (ops : List (Op α))
    : run p (op :: ops) = run (step p op) ops :=
  rfl

/-- Nothing about a controller changes but its transform. -/
theorem fst_step (p : Controller α σ × σ) (op : Op α)
    : (step p op).1 = { p.1 with transform := (step p op).1.transform } := by
  rcases step_cases p op with ⟨-, hstep⟩ | ⟨-, hstep⟩
  . rw [hstep]
  . rw [hstep]
    rfl

theorem fst_run (p : Controller α σ × σ) (ops : List (Op α))
    : (run p ops).1 = { p.1 with transform := (run p ops).1.transform } := by
  induction ops generalizing p with
  | nil => rfl
  | cons op ops ih =>
    rw [run_cons, ih, fst_step]

/-- The owner is told of each transform that comes into force, and of nothing else. -/
theorem snd_run (p : Controller α σ × σ) (ops : List (Op α))
    : (run p ops).2 = (committed p ops).foldl (fun s t => p.1.onChange t s) p.2 := by
  induction ops generalizing p with
  | nil => rfl
  | cons op ops ih =>
    rw [run_cons, ih]
    rcases step_cases p op with ⟨hfails, hstep⟩ | ⟨hsucceeds, hstep⟩
    . rw [committed_of_fails hfails, hstep]
    . rw [committed_of_succeeds hsucceeds, List.foldl_cons]
      have honChange : (step p op).1.onChange = p.1.onChange := by rw [fst_step]
      have howner : (step p op).2 = p.1.onChange (step p op).1.transform p.2 := by
        rw [hstep]
        rfl
      rw [honChange, howner]

theorem transform_run (p : Controller α σ × σ) (ops : List (Op α))
    : (run p ops).1.transform = (committed p ops).getLast?.getD p.1.transform := by
  induction ops generalizing p with
  | nil => rfl
  | cons op ops ih =>
    rw [run_cons, ih]
    rcases step_cases p op with ⟨hfails, hstep⟩ | ⟨hsucceeds, -⟩
    . rw [committed_of_fails hfails, hstep]
    . rw [committed_of_succeeds hsucceeds, List.getLast?_cons]
      rfl

/-- What becomes of a gesture after all that was done before. -/
structure Answered (c : Controller α σ) (g : Gesture α) (s : σ) : Prop where
  refused_iff : (c.gesture g s).1 = false ↔ c.Refused g
  refused : (c.gesture g s).1 = false → (c.gesture g s).2 = (c, s)
  accepted : (c.gesture g s).1 = true →
    (c.gesture g s).2 = c.commit (c.transform.compose c.extent g.motion) s

theorem answered (c : Controller α σ) (g : Gesture α) (s : σ) : c.Answered g s := by
  constructor
  . rw [← target?_eq_none_iff]
    cases h : c.target? g with
    | none => simp [gesture_of_none h]
    | some t => simp [gesture_of_some h]
  . intro hrefused
    cases h : c.target? g with
    | none => rw [gesture_of_none h]
    | some t =>
      rw [gesture_of_some h] at hrefused
      contradiction
  . intro haccepted
    cases h : c.target? g with
    | none =>
      rw [gesture_of_none h] at haccepted
      contradiction
    | some t => rw [gesture_of_some h, (of_target? h).1]

/-- Which transforms come into force has nothing to do with the owner who is told of them. -/
theorem committed_congr {τ : Type} {p : Controller α σ × σ} {q : Controller α τ × τ}
    (htransform : q.1.transform = p.1.transform) (hextent : q.1.extent = p.1.extent)
    (henabled : q.1.enabled = p.1.enabled) (ops : List (Op α))
    : committed q ops = committed p ops := by
  induction ops generalizing p q with
  | nil => rfl
  | cons op ops ih =>
    have hsame : succeeds q op = succeeds p op
        ∧ (step q op).1.transform = (step p op).1.transform := by
      cases op with
      | reset => exact ⟨rfl, rfl⟩
      | gesture g =>
        have htarget : q.1.target? g = p.1.target? g := by
          unfold target?
          rw [htransform, hextent, henabled]
        unfold succeeds step
        cases h : p.1.target? g with
        | none =>
          rw [h] at htarget
          simp only [gesture_of_none h, gesture_of_none htarget]
          exact ⟨trivial, htransform⟩
        | some t =>
          rw [h] at htarget
          simp only [gesture_of_some h, gesture_of_some htarget]
          exact ⟨trivial, rfl⟩
    rw [committed, committed, hsame.1, hsame.2, ih hsame.2]
    . rw [fst_step q, fst_step p]
      exact hextent
    . rw [fst_step q, fst_step p]
      exact henabled

/-- What the owner of a new controller is told of, one after another, are the transforms that come
into force. The last of them is the one that is held, and a gesture that is refused is none of them. -/
theorem reported_run (extent : Extent α) (enabled : Gesture α → Bool)
    (onChange : Transform α → σ → σ) (s : σ) (ops : List (Op α))
    : let p := (start extent enabled onChange, s)
      (run (start extent enabled fun t told => told ++ [t], []) ops).2 = committed p ops
        ∧ (run p ops).2 = (committed p ops).foldl (fun s t => onChange t s) s
        ∧ (run p ops).1 = { start extent enabled onChange with
          transform := (committed p ops).getLast?.getD .identity }
        ∧ ∀ g, (run p ops).1.Answered g (run p ops).2 := by
  intro p
  refine ⟨?_, snd_run p ops, ?_, fun g => answered _ g _⟩
  . rw [← committed_congr (p := p) (q := (start extent enabled fun t told => told ++ [t], []))
      rfl rfl rfl, snd_run]
    show (committed _ ops).foldl (fun told t => told ++ [t]) [] = _
    rw [List.foldl_append_eq_append, ← List.flatMap_def, List.flatMap_singleton', List.nil_append]
  . rw [fst_run, transform_run]
    rfl

end Controller

end LiveTopology
