import LiveTopology.Proofs.Topology.Board

/-!
This module contains what the revision of a topology says: it rises by one with each change, so that
two states with the same revision are the same.
-/

namespace LiveTopology

namespace Model

/-- What is done with a topology. -/
inductive Op where
  | upsert (kind : ElementKind) (payload : Json)
  | update (kind : ElementKind) (payload : Json)
  | remove (kind : ElementKind) (payload : Json)
  | applyBatch (payload : Json)
  | loadSnapshot (payload : Json)
  | setSummary (payload : Json)
  deriving DecidableEq, Repr

def step (m : Model) : Op → Model
  | .upsert kind payload => (m.upsert kind payload).2
  | .update kind payload => (m.update kind payload).2
  | .remove kind payload => (m.remove kind payload).2
  | .applyBatch payload => (m.applyBatch payload).2
  | .loadSnapshot payload => (m.loadSnapshot payload).2
  | .setSummary payload => m.setSummary payload

/-- How far the revision is to rise, by what the operation says that it has done. -/
def rise (m : Model) : Op → Nat
  | .upsert kind payload => (m.upsert kind payload).1.toNat
  | .update kind payload => (m.update kind payload).1.toNat
  | .remove kind payload => (m.remove kind payload).1.toNat
  | .applyBatch payload => (m.applyBatch payload).1
  | .loadSnapshot payload => 1 + (m.loadSnapshot payload).1
  | .setSummary _ => 1

/-- Whether `m'` comes of `m` by `n` changes. -/
structure Rises (m : Model) (n : Nat) (m' : Model) : Prop where
  revision : m'.revision = m.revision + n
  same : n = 0 → m' = m

theorem rises_zero (m : Model) : m.Rises 0 m :=
  ⟨rfl, fun _ => rfl⟩

/-- A change that is counted by itself cannot go unnoticed. -/
theorem rises_one {m m' : Model} (h : m'.revision = m.revision + 1) : m.Rises 1 m' :=
  ⟨h, fun hzero => absurd hzero Nat.one_ne_zero⟩

theorem Rises.trans {m m' m'' : Model} {n n' : Nat} (h : m.Rises n m') (h' : m'.Rises n' m'')
    : m.Rises (n + n') m'' where
  revision := by rw [h'.revision, h.revision, Nat.add_assoc]
  same := by
    intro hzero
    obtain ⟨hn, hn'⟩ := Nat.add_eq_zero_iff.1 hzero
    rw [h'.same hn', h.same hn]

/-- No change is undone by others, as each of them raises the revision. -/
theorem Rises.eq_of_revision_eq {m m' : Model} {n : Nat} (h : m.Rises n m')
    (heq : m'.revision = m.revision)
    : m' = m := by
  apply h.same
  have := h.revision
  omega

section

variable (m : Model) (kind : ElementKind) (id : String) (payload element : Json)

theorem revision_setElements (es : List (String × Json))
    : (m.setElements kind es).revision = m.revision := by
  cases kind <;> rfl

theorem rises_put : m.Rises 1 (m.put kind id element) := by
  apply rises_one
  show (m.setElements kind _).revision + 1 = _
  rw [revision_setElements]

theorem rises_upsert : m.Rises (m.upsert kind payload).1.toNat (m.upsert kind payload).2 := by
  unfold upsert
  split
  . exact m.rises_zero
  . apply rises_put

theorem rises_update : m.Rises (m.update kind payload).1.toNat (m.update kind payload).2 := by
  unfold update
  split
  . exact m.rises_zero
  . next id _ =>
    cases m.get? kind id with
    | none => apply rises_put
    | some old => apply rises_put

theorem rises_remove : m.Rises (m.remove kind payload).1.toNat (m.remove kind payload).2 := by
  unfold remove
  split
  . exact m.rises_zero
  . split
    . apply rises_one
      show (m.setElements kind _).revision + 1 = _
      rw [revision_setElements]
    . exact m.rises_zero

theorem rises_foldl_upsert (items : List (ElementKind × Json)) {m : Model} {n : Nat} {m' : Model}
    (h : m.Rises n m')
    : m.Rises
        (items.foldl (fun (n, m) (kind, item) =>
          let (applied, m) := m.upsert kind item
          (n + applied.toNat, m)) (n, m')).1
        (items.foldl (fun (n, m) (kind, item) =>
          let (applied, m) := m.upsert kind item
          (n + applied.toNat, m)) (n, m')).2 := by
  induction items generalizing n m' with
  | nil => exact h
  | cons item items ih =>
    apply ih
    apply h.trans
    apply rises_upsert

theorem rises_applyBatch : m.Rises (m.applyBatch payload).1 (m.applyBatch payload).2 := by
  unfold applyBatch
  apply rises_foldl_upsert
  apply rises_zero

theorem rises_loadSnapshot
    : m.Rises (1 + (m.loadSnapshot payload).1) (m.loadSnapshot payload).2 := by
  have hcleared : m.Rises 1
      (touch { m with controllers := [], devices := [], links := [], hosts := [] }) :=
    rises_one rfl
  exact hcleared.trans (rises_applyBatch _ payload)

theorem rises_step (op : Op) : m.Rises (m.rise op) (m.step op) := by
  cases op with
  | upsert kind payload => exact m.rises_upsert kind payload
  | update kind payload => exact m.rises_update kind payload
  | remove kind payload => exact m.rises_remove kind payload
  | applyBatch payload => exact m.rises_applyBatch payload
  | loadSnapshot payload => exact m.rises_loadSnapshot payload
  | setSummary payload => exact rises_one rfl

end

end Model

def Reaction.operation? (payload : Json) : Reaction → Option Model.Op
  | .loadSnapshot => some (.loadSnapshot payload)
  | .applyBatch => some (.applyBatch payload)
  | .change .add kind => some (.upsert kind payload)
  | .change .update kind => some (.update kind payload)
  | .change .remove kind => some (.remove kind payload)
  | .showSummary => some (.setSummary payload)
  | .hideSummary => none

/-- What a frame does with the topology that it reaches, if it does anything with it. -/
def Frame.operation? (frame : Frame) : Option Model.Op :=
  (EventKind.ofTag frame.event).reaction?.bind (Reaction.operation? frame.payload)

theorem Board.model_react (b : Board) (reaction : Reaction) (payload : Json)
    : (b.react reaction payload).1.model
        =
      (reaction.operation? payload).elim b.model b.model.step := by
  cases reaction with
  | change change kind => cases change <;> rfl
  | _ => rfl

namespace Desk

/-- What is done with a topology, either directly or by a frame that is received. -/
inductive Deed where
  | directly (op : Model.Op)
  | receive (frame : Frame)
  deriving DecidableEq, Repr

def Deed.operation? : Deed → Option Model.Op
  | .directly op => some op
  | .receive frame => frame.operation?

def perform (d : Desk) : Deed → Desk
  | .directly op => { d with board := { d.board with model := d.board.model.step op } }
  | .receive frame => (d.receive frame).2.1

def performAll (d : Desk) (deeds : List Deed) : Desk :=
  deeds.foldl perform d

/-- How far the revision is to rise in all, one deed after another. -/
def rises (d : Desk) : List Deed → Nat
  | [] => 0
  | deed :: deeds => deed.operation?.elim 0 d.board.model.rise + (d.perform deed).rises deeds

theorem routes_perform (d : Desk) (deed : Deed)
    : (d.perform deed).dispatcher.routes = d.dispatcher.routes := by
  cases deed with
  | directly op => rfl
  | receive frame => apply routes_receive

theorem routes_performAll (d : Desk) (deeds : List Deed)
    : (d.performAll deeds).dispatcher.routes = d.dispatcher.routes := by
  unfold performAll
  induction deeds generalizing d with
  | nil => rfl
  | cons deed deeds ih => rw [List.foldl_cons, ih, routes_perform]

section

variable {d : Desk} (h : d.dispatcher.routes = Board.routes)
include h

theorem model_perform (deed : Deed)
    : (d.perform deed).board.model
        =
      deed.operation?.elim d.board.model d.board.model.step := by
  cases deed with
  | directly op => rfl
  | receive frame =>
    show (d.receive frame).2.1.board.model = frame.operation?.elim _ _
    rw [board_receive, Dispatcher.handler?, h, Board.handler?_routes]
    unfold Frame.operation?
    cases (EventKind.ofTag frame.event).reaction? with
    | none => rfl
    | some reaction => apply Board.model_react

theorem rises_perform (deed : Deed)
    : d.board.model.Rises (deed.operation?.elim 0 d.board.model.rise)
        (d.perform deed).board.model := by
  rw [model_perform h]
  cases deed.operation? with
  | none => apply Model.rises_zero
  | some op => apply Model.rises_step

theorem rises_performAll (deeds : List Deed)
    : d.board.model.Rises (d.rises deeds) (d.performAll deeds).board.model := by
  unfold performAll
  induction deeds generalizing d with
  | nil => apply Model.rises_zero
  | cons deed deeds ih =>
    apply (rises_perform h deed).trans
    apply ih
    rw [routes_perform, h]

end

theorem performAll_append (d : Desk) (deeds more : List Deed)
    : d.performAll (deeds ++ more) = (d.performAll deeds).performAll more := by
  unfold performAll
  apply List.foldl_append

/-- The later of two states of a run comes of the earlier one, and is the same if the revision is. -/
theorem model_take_eq {d : Desk} (h : d.dispatcher.routes = Board.routes) (deeds : List Deed)
    {i j : Nat} (hij : i ≤ j)
    (heq : (d.performAll (deeds.take j)).board.model.revision
      = (d.performAll (deeds.take i)).board.model.revision)
    : (d.performAll (deeds.take j)).board.model = (d.performAll (deeds.take i)).board.model := by
  obtain ⟨k, rfl⟩ := Nat.exists_eq_add_of_le hij
  rw [List.take_add, performAll_append] at heq ⊢
  apply (rises_performAll _ _).eq_of_revision_eq heq
  rw [routes_performAll, h]

/-- The revision rises with each change, by the number of changes that are told of, and two states of
a run that have the same revision hold the same. -/
theorem revision_run (host : PanelHost) (deeds : List Deed)
    : let after (deeds : List Deed) : Model := ((Desk.on host).performAll deeds).board.model
      (∀ i j, (after (deeds.take i)).revision = (after (deeds.take j)).revision →
          (∀ kind, (after (deeds.take i)).elements kind = (after (deeds.take j)).elements kind)
            ∧ (after (deeds.take i)).summary = (after (deeds.take j)).summary)
        ∧ ∀ deed, (after (deeds ++ [deed])).revision
          = (after deeds).revision + deed.operation?.elim 0 (after deeds).rise := by
  intro after
  have hroutes : (Desk.on host).dispatcher.routes = Board.routes := rfl
  constructor
  . intro i j heq
    have hmodel : after (deeds.take i) = after (deeds.take j) := by
      rcases Nat.le_total i j with hij | hij
      . exact (model_take_eq hroutes deeds hij heq.symm).symm
      . exact model_take_eq hroutes deeds hij heq
    rw [hmodel]
    exact ⟨fun _ => rfl, rfl⟩
  . intro deed
    show ((Desk.on host).performAll (deeds ++ [deed])).board.model.revision = _
    rw [performAll_append]
    have hafter : ((Desk.on host).performAll deeds).dispatcher.routes = Board.routes := by
      rw [routes_performAll, hroutes]
    exact (rises_perform hafter deed).revision

/-- A device comes with a snapshot, and two deeds after that change nothing. -/
def idleEnd : List Deed :=
  [.receive ⟨"topo.snapshot", none, .object [("devices", .array [.object [("id", .string "a")]])]⟩,
    .directly (.remove .host (.object [("id", .string "a")])),
    .receive ⟨"updateDevice", none, .object [("id", .null)]⟩]

theorem revision_run_idleEnd
    : ((Desk.on .empty).performAll (idleEnd.take 1)).board.model.revision = 2
        ∧ ((Desk.on .empty).performAll (idleEnd.take 3)).board.model.revision = 2
        ∧ ((Desk.on .empty).performAll (idleEnd.take 1)).board.model.elements .device
          = ((Desk.on .empty).performAll (idleEnd.take 3)).board.model.elements .device := by
  have hfirst : ((Desk.on .empty).performAll (idleEnd.take 1)).board.model.revision = 2 := by
    decide +kernel
  have hlast : ((Desk.on .empty).performAll (idleEnd.take 3)).board.model.revision = 2 := by
    decide +kernel
  refine ⟨hfirst, hlast, ?_⟩
  exact ((revision_run .empty idleEnd).1 1 3 (hfirst.trans hlast.symm)).1 .device

end Desk

end LiveTopology
