import LiveTopology.Proofs.Topology.Revision

/-!
This module contains that every element is kept under its own id, whatever is done with a topology.
An update puts an object over another one of the same id, so that the id stays.
-/

namespace LiveTopology

/-- An object has its members in increasing order of their names. -/
def Json.InOrder : Json → Prop
  | .object members => Keyed.Sorted members
  | _ => True

namespace Model

/-- The id of what is put over an element is the one that counts. -/
theorem idOf?_merge {payload : Json} (hpayload : payload.InOrder) {id : String}
    (h : idOf? payload = some id) (old : Json)
    : idOf? (merge old payload) = some id := by
  obtain ⟨fields, rfl⟩ := object_of_idOf? id payload h
  cases old with
  | object members =>
    rw [idOf?_eq_some_iff] at h ⊢
    rw [member?_merge members fields "id" hpayload, h]
    rfl
  | _ => exact h

def Identified (m : Model) : Prop :=
  ∀ kind id element, m.get? kind id = some element → idOf? element = some id

theorem identified_empty : empty.Identified := by
  intro kind id element h
  cases kind <;> contradiction

section

variable {m : Model} (h : m.Identified) (kind : ElementKind) (payload : Json)
include h

theorem Identified.upsert : (m.upsert kind payload).2.Identified := by
  intro k i element hget
  rw [get?_upsert] at hget
  split at hget
  . next haddressed => exact Option.some.inj hget ▸ haddressed.2
  . exact h k i element hget

theorem Identified.update (hpayload : payload.InOrder) : (m.update kind payload).2.Identified := by
  intro k i element hget
  rw [get?_update] at hget
  split at hget
  . next haddressed =>
    rw [← Option.some.inj hget]
    cases m.get? k i with
    | none => exact haddressed.2
    | some old => exact idOf?_merge hpayload haddressed.2 old
  . exact h k i element hget

theorem Identified.remove : (m.remove kind payload).2.Identified := by
  intro k i element hget
  rw [get?_remove] at hget
  split at hget
  . contradiction
  . exact h k i element hget

theorem Identified.applyBatch : (m.applyBatch payload).2.Identified := by
  intro k i element hget
  rw [get?_applyBatch, Option.or_eq_some_iff] at hget
  rcases hget with hlisted | ⟨-, hkept⟩
  . exact idOf?_of_listed? k i payload hlisted
  . exact h k i element hkept

theorem Identified.setSummary : (m.setSummary payload).Identified := by
  intro k i element hget
  rw [get?_setSummary] at hget
  exact h k i element hget

end

theorem identified_loadSnapshot (m : Model) (payload : Json)
    : (m.loadSnapshot payload).2.Identified := by
  intro k i element hget
  rw [get?_loadSnapshot] at hget
  exact idOf?_of_listed? k i payload hget

/-- Only an update looks at the members of its payload one by one. -/
def Op.InOrder : Op → Prop
  | .update _ payload => payload.InOrder
  | _ => True

theorem Identified.step {m : Model} (h : m.Identified) {op : Op} (hop : op.InOrder)
    : (m.step op).Identified := by
  cases op with
  | upsert kind payload => exact h.upsert kind payload
  | update kind payload => exact h.update kind payload hop
  | remove kind payload => exact h.remove kind payload
  | applyBatch payload => exact h.applyBatch payload
  | loadSnapshot payload => exact identified_loadSnapshot m payload
  | setSummary payload => exact h.setSummary payload

def run (m : Model) (ops : List Op) : Model :=
  ops.foldl step m

theorem Identified.run {m : Model} (h : m.Identified) {ops : List Op}
    (hops : ∀ op ∈ ops, op.InOrder)
    : (m.run ops).Identified := by
  unfold Model.run
  induction ops generalizing m with
  | nil => exact h
  | cons op ops ih =>
    apply ih
    . exact h.step (hops op List.mem_cons_self)
    . exact fun later hlater => hops later (List.mem_cons_of_mem op hlater)

/-- Whatever was done with a topology, each element is an object that has the id under which it is
kept. So an update replaces no element but merges into it and leaves the id, and what comes without
an id changes nothing. -/
theorem identified_run (ops : List Op) (hops : ∀ op ∈ ops, op.InOrder)
    : let m := empty.run ops
      (∀ kind id element, m.get? kind id = some element →
          (∃ members, element = .object members) ∧ element.member? "id" = some (.string id))
        ∧ (∀ kind id payload old, idOf? payload = some id → m.get? kind id = some old →
          ∃ members fields, old = .object members ∧ payload = .object fields
            ∧ (m.update kind payload).2.get? kind id
              = some (merge (.object members) (.object fields)))
        ∧ (∀ kind payload, payload.InOrder → ∀ k id old, m.get? k id = some old →
          ∃ new, (m.update kind payload).2.get? k id = some new
            ∧ new.member? "id" = old.member? "id")
        ∧ ∀ kind payload, idOf? payload = none →
          m.upsert kind payload = (false, m) ∧ m.update kind payload = (false, m)
            ∧ m.remove kind payload = (false, m) := by
  intro m
  have hidentified : m.Identified := identified_empty.run hops
  refine ⟨?own, ?merged, ?kept, ?ignored⟩
  case own =>
    intro kind id element hget
    have hid := hidentified kind id element hget
    exact ⟨object_of_idOf? id element hid, idOf?_eq_some_iff.1 hid⟩
  case merged =>
    intro kind id payload old hid hget
    obtain ⟨members, rfl⟩ := object_of_idOf? id old (hidentified kind id old hget)
    obtain ⟨fields, rfl⟩ := object_of_idOf? id payload hid
    refine ⟨members, fields, rfl, rfl, ?_⟩
    rw [get?_update, if_pos ⟨rfl, hid⟩, hget]
    rfl
  case kept =>
    intro kind payload hpayload k id old hget
    have hsome : ((m.update kind payload).2.get? k id).isSome = true := by
      rw [get?_update, hget]
      split <;> rfl
    obtain ⟨new, hnew⟩ := Option.isSome_iff_exists.1 hsome
    have hupdated := hidentified.update kind payload hpayload
    refine ⟨new, hnew, ?_⟩
    rw [idOf?_eq_some_iff.1 (hupdated k id new hnew),
      idOf?_eq_some_iff.1 (hidentified k id old hget)]
  case ignored =>
    intro kind payload hid
    unfold upsert update remove
    rw [hid]
    exact ⟨rfl, rfl, rfl⟩

/-- A device comes with a snapshot, beside items that have no id, and goes down. -/
def goesDown : List Op :=
  [.loadSnapshot (.object [("devices", .array [.null, .object [("id", .bool true)],
      .object [("id", .string "a"), ("up", .bool true)]])]),
    .update .device (.object [("id", .string "a"), ("up", .bool false)]),
    .update .device (.array [])]

theorem identified_run_goesDown
    : (∀ op ∈ goesDown, op.InOrder)
        ∧ ∃ element, (empty.run goesDown).get? .device "a" = some element
          ∧ element.member? "id" = some (.string "a")
          ∧ element.member? "up" = some (.bool false) := by
  have hops : ∀ op ∈ goesDown, op.InOrder := by
    have hsorted : Keyed.Sorted [("id", Json.string "a"), ("up", .bool false)] :=
      List.pairwise_pair.2 (by decide)
    simpa [goesDown, Op.InOrder, Json.InOrder] using hsorted
  have hget : (empty.run goesDown).get? .device "a"
      = some (.object [("id", .string "a"), ("up", .bool false)]) := by
    decide +kernel
  exact ⟨hops, _, hget, ((identified_run goesDown hops).1 .device "a" _ hget).2, rfl⟩

end Model

end LiveTopology
