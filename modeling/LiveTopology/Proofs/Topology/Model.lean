import LiveTopology.Proofs.Keyed
import LiveTopology.Topology.Model

/-!
This module contains lemmas about what a topology holds under an id after each of its operations,
and that each of them keeps the elements in order.
-/

namespace LiveTopology

namespace Model

variable (m : Model) (kind k : ElementKind) (id i : String) (payload element : Json)

theorem elements_setElements (es : List (String × Json))
    : (m.setElements kind es).elements k = if k = kind then es else m.elements k := by
  cases kind <;> cases k <;> rfl

theorem elements_touch : m.touch.elements k = m.elements k := by
  cases k <;> rfl

theorem elements_setSummary : (m.setSummary payload).elements k = m.elements k := by
  cases k <;> rfl

theorem get?_setElements (es : List (String × Json))
    : (m.setElements kind es).get? k i = if k = kind then Keyed.get? i es else m.get? k i := by
  unfold get?
  rw [elements_setElements]
  split <;> rfl

theorem get?_touch : m.touch.get? k i = m.get? k i := by
  unfold get?
  rw [elements_touch]

theorem get?_setSummary : (m.setSummary payload).get? k i = m.get? k i := by
  unfold get?
  rw [elements_setSummary]

theorem get?_put
    : (m.put kind id element).get? k i = if k = kind ∧ i = id then some element else m.get? k i := by
  unfold put
  rw [get?_touch, get?_setElements]
  by_cases hkind : k = kind
  . by_cases hid : i = id
    . simp [hkind, hid]
    . rw [Keyed.get?_insert_of_ne hid]
      simp [hkind, hid, get?]
  . simp [hkind]

theorem upsert_of_idOf? (h : idOf? payload = some id)
    : (m.upsert kind payload).2 = m.put kind id payload := by
  unfold upsert
  rw [h]

theorem update_of_idOf? (h : idOf? payload = some id)
    : (m.update kind payload).2
        =
      m.put kind id ((m.get? kind id).elim payload (merge · payload)) := by
  unfold update
  rw [h]
  simp only
  cases m.get? kind id <;> rfl

theorem upsert_of_none (h : idOf? payload = none) : (m.upsert kind payload).2 = m := by
  unfold upsert
  rw [h]

theorem update_of_none (h : idOf? payload = none) : (m.update kind payload).2 = m := by
  unfold update
  rw [h]

theorem remove_of_none (h : idOf? payload = none) : (m.remove kind payload).2 = m := by
  unfold remove
  rw [h]

theorem get?_upsert
    : (m.upsert kind payload).2.get? k i
        =
      if k = kind ∧ idOf? payload = some i then some payload else m.get? k i := by
  cases h : idOf? payload with
  | none =>
    rw [upsert_of_none m kind payload h]
    simp
  | some id =>
    rw [upsert_of_idOf? m kind id payload h, get?_put]
    simp only [Option.some.injEq, eq_comm]

theorem get?_update
    : (m.update kind payload).2.get? k i
        =
      if k = kind ∧ idOf? payload = some i then
        some ((m.get? k i).elim payload (merge · payload))
      else
        m.get? k i := by
  cases h : idOf? payload with
  | none =>
    rw [update_of_none m kind payload h]
    simp
  | some id =>
    rw [update_of_idOf? m kind id payload h, get?_put]
    by_cases haddressed : k = kind ∧ i = id
    . obtain ⟨rfl, rfl⟩ := haddressed
      simp
    . have : ¬ (k = kind ∧ some id = some i) := by
        simpa [eq_comm] using haddressed
      rw [if_neg haddressed, if_neg this]

theorem get?_remove
    : (m.remove kind payload).2.get? k i
        =
      if k = kind ∧ idOf? payload = some i then none else m.get? k i := by
  cases h : idOf? payload with
  | none =>
    rw [remove_of_none m kind payload h]
    simp
  | some id =>
    have hsplit : (k = kind ∧ some id = some i) ↔ (k = kind ∧ i = id) := by
      rw [Option.some.injEq, eq_comm (a := id)]
    simp only [hsplit]
    unfold remove
    rw [h]
    simp only
    split
    . rw [get?_touch, get?_setElements]
      by_cases hkind : k = kind
      . subst hkind
        by_cases hid : i = id
        . simp [hid]
        . rw [Keyed.get?_erase_of_ne hid]
          simp [hid, get?]
      . simp [hkind]
    . next habsent =>
      -- Nothing is removed, so the element that is addressed must have been absent.
      split
      . next haddressed =>
        rw [haddressed.1, haddressed.2]
        simpa using habsent
      . rfl

/-- The last element with an id that a batch lists for a kind. -/
def listed? (payload : Json) (kind : ElementKind) (id : String) : Option Json :=
  (batchItems payload kind).findRev? fun item => idOf? item = some id

def upsertAll (m : Model) (items : List (ElementKind × Json)) : Model :=
  items.foldl (fun m (kind, item) => (m.upsert kind item).2) m

theorem applyBatch_eq_upsertAll : (m.applyBatch payload).2 = m.upsertAll (batch payload) := by
  unfold applyBatch upsertAll
  -- The count of what was inserted has no influence on the model.
  generalize 0 = n
  induction batch payload generalizing m n with
  | nil => rfl
  | cons item items ih => apply ih

theorem upsertAll_append (items others : List (ElementKind × Json))
    : m.upsertAll (items ++ others) = (m.upsertAll items).upsertAll others := by
  unfold upsertAll
  apply List.foldl_append

/-- Of several elements with one id, the last one stays. -/
theorem get?_upsertAll (items : List Json)
    : (m.upsertAll (items.map fun item => (kind, item))).get? k i
        =
      if k = kind then
        (items.findRev? fun item => idOf? item = some i).or (m.get? k i)
      else
        m.get? k i := by
  unfold upsertAll
  induction items generalizing m with
  | nil => simp [List.findRev?]
  | cons item items ih =>
    rw [List.map_cons, List.foldl_cons, ih, get?_upsert]
    by_cases hkind : k = kind
    . simp only [hkind, List.findRev?]
      cases items.findRev? (fun item => idOf? item = some i) with
      | some later => rfl
      | none => by_cases haddressed : idOf? item = some i <;> simp [haddressed]
    . simp [hkind]

theorem get?_applyBatch
    : (m.applyBatch payload).2.get? k i = (listed? payload k i).or (m.get? k i) := by
  have hall : ElementKind.all = [.controller, .device, .link, .host] := rfl
  rw [applyBatch_eq_upsertAll]
  unfold batch
  rw [hall]
  simp only [List.flatMap_cons, List.flatMap_nil, List.append_nil, upsertAll_append, get?_upsertAll]
  cases k <;> rfl

theorem get?_loadSnapshot : (m.loadSnapshot payload).2.get? k i = listed? payload k i := by
  unfold loadSnapshot
  rw [get?_applyBatch]
  have : Model.get? (touch { m with controllers := [], devices := [], links := [], hosts := [] }) k i
      = none := by
    cases k <;> rfl
  rw [this, Option.or_none]

theorem object_of_idOf? (h : idOf? payload = some id) : ∃ members, payload = .object members := by
  cases payload with
  | object members => exact ⟨members, rfl⟩
  | _ => contradiction

theorem idOf?_eq_some_iff {payload : Json} {id : String}
    : idOf? payload = some id ↔ payload.member? "id" = some (.string id) := by
  unfold idOf?
  constructor
  . intro h
    obtain ⟨v, hv, hstring⟩ := Option.bind_eq_some_iff.1 h
    cases v with
    | string s => rw [hv, Option.some.inj hstring]
    | _ => contradiction
  . intro h
    rw [h]
    rfl

theorem batchItems_eq
    : batchItems payload kind
        =
      match payload.member? kind.batchKey with
      | some (.array items) => items
      | _ => [] := by
  unfold batchItems
  cases payload.member? kind.batchKey with
  | none => rfl
  | some v => cases v <;> rfl

theorem idOf?_of_listed? {item : Json} (h : listed? payload kind id = some item)
    : idOf? item = some id := by
  unfold listed? at h
  rw [List.findRev?_eq_find?_reverse] at h
  simpa using List.find?_some h

theorem merge_object (old : Json) (fields : List (String × Json))
    : ∃ members, merge old (.object fields) = .object members := by
  cases old <;> exact ⟨_, rfl⟩

theorem member?_foldl_insert (fields members : List (String × Json)) (name : String)
    (hsorted : Keyed.Sorted fields)
    : Keyed.get? name (fields.foldl (fun ms (name, value) => Keyed.insert name value ms) members)
        =
      (Keyed.get? name fields).or (Keyed.get? name members) := by
  induction fields generalizing members with
  | nil => rfl
  | cons field fields ih =>
    obtain ⟨hfirst, hrest⟩ := List.pairwise_cons.1 hsorted
    rw [List.foldl_cons, ih _ hrest]
    by_cases heq : name = field.1
    . -- No later member has the same name, as the names increase.
      subst heq
      rw [Keyed.get?_insert_self, Keyed.get?_eq_none_of_forall_ne]
      . simp [Keyed.get?]
      . intro other hother
        apply String.ne_of_lt
        apply hfirst other hother
    . rw [Keyed.get?_insert_of_ne heq]
      simp [Keyed.get?, heq]

/-- A merged object has the members of the new one, and of the old one those that the new one does
not have. -/
theorem member?_merge (members fields : List (String × Json)) (name : String)
    (hsorted : Keyed.Sorted fields)
    : (merge (.object members) (.object fields)).member? name
        =
      ((Json.object fields).member? name).or ((Json.object members).member? name) := by
  unfold merge Json.member?
  apply member?_foldl_insert
  apply hsorted

theorem summary_put : (m.put kind id element).summary = m.summary := by
  cases kind <;> rfl

theorem summary_upsert : (m.upsert kind payload).2.summary = m.summary := by
  unfold upsert
  split
  . rfl
  . apply summary_put

theorem summary_update : (m.update kind payload).2.summary = m.summary := by
  unfold update
  split
  . rfl
  . split <;> apply summary_put

theorem summary_remove : (m.remove kind payload).2.summary = m.summary := by
  unfold remove
  split
  . rfl
  . split
    . cases kind <;> rfl
    . rfl

theorem summary_upsertAll (items : List (ElementKind × Json))
    : (m.upsertAll items).summary = m.summary := by
  unfold upsertAll
  induction items generalizing m with
  | nil => rfl
  | cons item items ih => rw [List.foldl_cons, ih, summary_upsert]

theorem summary_applyBatch : (m.applyBatch payload).2.summary = m.summary := by
  rw [applyBatch_eq_upsertAll, summary_upsertAll]

theorem summary_loadSnapshot : (m.loadSnapshot payload).2.summary = m.summary := by
  unfold loadSnapshot
  rw [summary_applyBatch]
  rfl

/-- The elements of each kind increase strictly in their ids. -/
def Ordered (m : Model) : Prop :=
  ∀ kind, Keyed.Sorted (m.elements kind)

variable {m}

theorem ordered_empty : empty.Ordered := by
  intro kind
  cases kind <;> exact List.Pairwise.nil

theorem Ordered.setSummary (hm : m.Ordered) : (m.setSummary payload).Ordered := by
  intro kind
  rw [elements_setSummary]
  apply hm

theorem Ordered.setElements (hm : m.Ordered) {es : List (String × Json)} (hes : Keyed.Sorted es)
    : (m.setElements kind es).Ordered := by
  intro k
  rw [elements_setElements]
  split
  . exact hes
  . apply hm

theorem Ordered.touch (hm : m.Ordered) : m.touch.Ordered := by
  intro k
  rw [elements_touch]
  apply hm

theorem Ordered.put (hm : m.Ordered) : (m.put kind id element).Ordered := by
  unfold Model.put
  apply Ordered.touch
  apply hm.setElements
  apply Keyed.sorted_insert
  apply hm

theorem Ordered.upsert (hm : m.Ordered) : (m.upsert kind payload).2.Ordered := by
  cases h : idOf? payload with
  | none =>
    rw [upsert_of_none m kind payload h]
    exact hm
  | some id =>
    rw [upsert_of_idOf? m kind id payload h]
    apply hm.put

theorem Ordered.update (hm : m.Ordered) : (m.update kind payload).2.Ordered := by
  cases h : idOf? payload with
  | none =>
    rw [update_of_none m kind payload h]
    exact hm
  | some id =>
    rw [update_of_idOf? m kind id payload h]
    apply hm.put

theorem Ordered.remove (hm : m.Ordered) : (m.remove kind payload).2.Ordered := by
  unfold Model.remove
  split
  . exact hm
  . split
    . apply Ordered.touch
      apply hm.setElements
      apply Keyed.sorted_erase
      apply hm
    . exact hm

theorem Ordered.upsertAll (hm : m.Ordered) (items : List (ElementKind × Json))
    : (m.upsertAll items).Ordered := by
  unfold Model.upsertAll
  induction items generalizing m with
  | nil => exact hm
  | cons item items ih =>
    apply ih
    apply hm.upsert

theorem Ordered.applyBatch (hm : m.Ordered) : (m.applyBatch payload).2.Ordered := by
  rw [applyBatch_eq_upsertAll]
  apply hm.upsertAll

theorem ordered_loadSnapshot (m : Model) : (m.loadSnapshot payload).2.Ordered := by
  unfold loadSnapshot
  apply Ordered.applyBatch
  apply Ordered.touch
  intro k
  cases k <;> exact List.Pairwise.nil

theorem Ordered.elements_ext {m' : Model} (hm : m.Ordered) (hm' : m'.Ordered)
    (h : ∀ id, m.get? kind id = m'.get? kind id) : m.elements kind = m'.elements kind := by
  apply Keyed.ext_of_sorted
  . apply hm
  . apply hm'
  . exact h

end Model

end LiveTopology
