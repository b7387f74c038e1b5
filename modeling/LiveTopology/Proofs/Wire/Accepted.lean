import LiveTopology.Proofs.Json.Accepted
import LiveTopology.Proofs.Wire.Value

/-!
This module contains what is true of every value that is read from bytes, whoever wrote them: the
members of each struct are in order, and the value nests no deeper than the reader goes.
-/

namespace LiveTopology.Wire

open Json.Read (bind_eq_ok)

section

variable {α : Type} {P : α → Prop} {step : Step α} {step? : Option (Step α)}

theorem of_within {message field : String} {result : Except Fault α} {a : α}
    (h : within message field result = .ok a) : result = .ok a := by
  cases result with
  | ok b => exact h
  | error fault => contradiction

/-- What is true before a field is read is true after it. -/
def Keeps (P : α → Prop) (step : Step α) : Prop :=
  ∀ a bs b rest, P a → step a bs = .ok (b, rest) → P b

theorem Keeps.fields (h : Keeps P step) (left fuel : Nat) : Keeps P (fields step left fuel) := by
  induction fuel with
  | zero =>
    intro a bs b rest _ hread
    contradiction
  | succ fuel ih =>
    intro a bs b rest ha hread
    unfold Wire.fields at hread
    split at hread
    . obtain ⟨⟨c, after⟩, hfield, hrest⟩ := bind_eq_ok hread
      apply ih c after b rest _ hrest
      apply h a bs c after ha hfield
    . split at hread
      . injection hread with heq
        injection heq with hb
        exact hb ▸ ha
      . contradiction

theorem keeps_none : ∀ step ∈ (none : Option (Step α)), Keeps P step :=
  fun _ hstep => absurd hstep (Option.not_mem_none _)

theorem keeps_some (h : Keeps P step) : ∀ step' ∈ some step, Keeps P step' := by
  intro step' hstep
  rwa [← Option.mem_some_iff.1 hstep]

theorem Keeps.block (h : ∀ step ∈ step?, Keeps P step) : Keeps P (block step?) := by
  intro a bs b rest ha hread
  unfold Wire.block at hread
  split at hread
  . contradiction
  . next step =>
    obtain ⟨⟨length, after⟩, -, hfields⟩ := bind_eq_ok hread
    dsimp only at hfields
    split at hfields
    . contradiction
    . apply (h step rfl).fields _ _ a _ b _ ha hfields

theorem Keeps.message (h : ∀ step ∈ step?, Keeps P step) (kind : Kind)
    : Keeps P (message step? kind) := by
  intro a bs b rest ha hread
  obtain ⟨-, -, hblock⟩ := bind_eq_ok hread
  apply Keeps.block h a bs b rest ha hblock

theorem keeps_ignore (P : α → Prop) (depth : Nat) (key : Key) : Keeps P (ignore depth key) := by
  intro a bs b rest ha hread
  obtain ⟨after, -, heq⟩ := bind_eq_ok hread
  injection heq with heq
  injection heq with hb
  exact hb ▸ ha

end

namespace Value

theorem toItems_eq_map (values : List Value) : toItems values = values.map toJson := by
  induction values with
  | nil => rfl
  | cons value values ih =>
    unfold toItems
    rw [ih]
    rfl

theorem toMembers_eq_mapValues (fields : List (String × Value))
    : toMembers fields = Keyed.mapValues toJson fields := by
  induction fields with
  | nil => rfl
  | cons field fields ih =>
    unfold toMembers
    rw [ih]
    rfl

theorem orderedFields_iff {fields : List (String × Value)}
    : OrderedFields fields ↔ ∀ field ∈ fields, field.2.Ordered := by
  induction fields with
  | nil => simp [OrderedFields]
  | cons field fields ih => simp [OrderedFields, ih]

theorem orderedValues_iff {values : List Value}
    : OrderedValues values ↔ ∀ value ∈ values, value.Ordered := by
  induction values with
  | nil => simp [OrderedValues]
  | cons value values ih => simp [OrderedValues, ih]

/-- An array or an object takes at least two of the `n` messages that may stand inside each other. -/
structure Within (n : Nat) (v : Value) : Prop where
  ordered : v.Ordered
  depth_le : 2 * v.toJson.depth ≤ n

structure FieldsWithin (n : Nat) (fields : List (String × Value)) : Prop where
  sorted : Keyed.Sorted fields
  within : ∀ field ∈ fields, Within n field.2

theorem within_scalar {v : Value} (hstruct : ∀ fields, v ≠ .struct fields)
    (hlist : ∀ values, v ≠ .list values) (n : Nat) : Within n v := by
  cases v with
  | struct fields => exact absurd rfl (hstruct fields)
  | list values => exact absurd rfl (hlist values)
  | number x =>
    have hdepth : (Json.ofFloat x).depth = 0 := by
      unfold Json.ofFloat
      split
      . split
        . split <;> rfl
        . rfl
      . rfl
    refine ⟨trivial, ?_⟩
    rw [toJson, hdepth]
    apply Nat.zero_le
  | _ => exact ⟨trivial, Nat.zero_le n⟩

theorem within_unset (n : Nat) : Within n .unset :=
  within_scalar (by simp) (by simp) n

theorem within_struct_iff {n : Nat} {fields : List (String × Value)}
    : Within (n + 2) (.struct fields) ↔ FieldsWithin n fields := by
  have hdepth : 2 * (toJson (.struct fields)).depth ≤ n + 2
      ↔ ∀ field ∈ fields, field.2.toJson.depth ≤ n / 2 := by
    rw [toJson, Json.depth, toMembers_eq_mapValues]
    have hbound (d : Nat) : 2 * (d + 1) ≤ n + 2 ↔ d ≤ n / 2 := by omega
    rw [hbound, Json.depthOfMembers_le_iff]
    exact List.forall_mem_map
  constructor
  . intro h
    refine ⟨h.ordered.1, fun field hfield => ⟨orderedFields_iff.1 h.ordered.2 field hfield, ?_⟩⟩
    have := hdepth.1 h.depth_le field hfield
    omega
  . intro h
    refine ⟨⟨h.sorted, orderedFields_iff.2 fun field hfield => (h.within field hfield).ordered⟩, ?_⟩
    apply hdepth.2
    intro field hfield
    have := (h.within field hfield).depth_le
    omega

theorem within_list_iff {n : Nat} {values : List Value}
    : Within (n + 2) (.list values) ↔ ∀ value ∈ values, Within n value := by
  have hdepth : 2 * (toJson (.list values)).depth ≤ n + 2
      ↔ ∀ value ∈ values, value.toJson.depth ≤ n / 2 := by
    rw [toJson, Json.depth, toItems_eq_map]
    have hbound (d : Nat) : 2 * (d + 1) ≤ n + 2 ↔ d ≤ n / 2 := by omega
    rw [hbound, Json.depthOfItems_le_iff]
    exact List.forall_mem_map
  constructor
  . intro h value hvalue
    refine ⟨orderedValues_iff.1 h.ordered value hvalue, ?_⟩
    have := hdepth.1 h.depth_le value hvalue
    omega
  . intro h
    refine ⟨orderedValues_iff.2 fun value hvalue => (h value hvalue).ordered, ?_⟩
    apply hdepth.2
    intro value hvalue
    have := (h value hvalue).depth_le
    omega

theorem Within.fields? {n : Nat} {v : Value} (h : Within (n + 2) v) : FieldsWithin n v.fields? := by
  cases v with
  | struct fields => exact within_struct_iff.1 h
  | _ => exact ⟨List.Pairwise.nil, fun field hfield => absurd hfield List.not_mem_nil⟩

theorem Within.values? {n : Nat} {v : Value} (h : Within (n + 2) v)
    : ∀ value ∈ v.values?, Within n value := by
  cases v with
  | list values => exact within_list_iff.1 h
  | _ => exact fun value hvalue => absurd hvalue List.not_mem_nil

/-- A struct or a list goes on from what is there already, and all else begins anew. -/
theorem keeps_field {n depth : Nat} {struct? : Option (Step (List (String × Value)))}
    {list? : Option (Step (List Value))} (hstruct : ∀ step ∈ struct?, Keeps (FieldsWithin n) step)
    (hlist : ∀ step ∈ list?, Keeps (fun values => ∀ value ∈ values, Within n value) step)
    : Keeps (Within (n + 2)) (field depth struct? list?) := by
  intro v bs w rest hv hread
  obtain ⟨⟨key, after⟩, -, hkey⟩ := bind_eq_ok hread
  dsimp only at hkey
  split at hkey
  case h_5 =>
    obtain ⟨⟨fields, after'⟩, hfields, heq⟩ := bind_eq_ok (of_within hkey)
    injection heq with heq
    injection heq with hw
    rw [← hw]
    apply within_struct_iff.2
    apply Keeps.message hstruct key.kind _ _ _ _ hv.fields? hfields
  case h_6 =>
    obtain ⟨⟨values, after'⟩, hvalues, heq⟩ := bind_eq_ok (of_within hkey)
    injection heq with heq
    injection heq with hw
    rw [← hw]
    apply within_list_iff.2
    apply Keeps.message hlist key.kind _ _ _ _ hv.values? hvalues
  case h_7 => exact keeps_ignore _ _ _ _ _ _ _ hv hkey
  all_goals
    obtain ⟨-, -, hscalar⟩ := bind_eq_ok (of_within hkey)
    obtain ⟨⟨scalar, after'⟩, -, heq⟩ := bind_eq_ok hscalar
    injection heq with heq
    injection heq with hw
    rw [← hw]
    exact within_scalar (by simp) (by simp) _

theorem keeps_structField {n depth : Nat} {member? : Option (Step (String × Value))}
    (hmember : ∀ step ∈ member?, Keeps (fun member => Within n member.2) step)
    : Keeps (FieldsWithin n) (structField depth member?) := by
  intro fields bs fields' rest hfields hread
  obtain ⟨⟨key, after⟩, -, hkey⟩ := bind_eq_ok hread
  dsimp only at hkey
  split at hkey
  . obtain ⟨⟨⟨name, value⟩, after'⟩, hblock, heq⟩ := bind_eq_ok (of_within hkey)
    injection heq with heq
    injection heq with hinsert
    have hvalue : Within n value :=
      Keeps.block hmember ("", .unset) _ (name, value) _ (within_unset n) hblock
    rw [← hinsert]
    refine ⟨Keyed.sorted_insert hfields.sorted name value, fun field hfield => ?_⟩
    rcases Keyed.mem_insert hfield with rfl | hfield
    . exact hvalue
    . exact hfields.within field hfield
  . exact keeps_ignore _ _ _ _ _ _ _ hfields hkey

theorem keeps_memberField {n depth : Nat} {value? : Option (Step Value)}
    (hvalue : ∀ step ∈ value?, Keeps (Within n) step)
    : Keeps (fun member => Within n member.2) (memberField depth value?) := by
  intro member bs member' rest hmember hread
  obtain ⟨⟨key, after⟩, -, hkey⟩ := bind_eq_ok hread
  dsimp only at hkey
  split at hkey
  . obtain ⟨-, -, hname⟩ := bind_eq_ok hkey
    obtain ⟨⟨name, after'⟩, -, heq⟩ := bind_eq_ok hname
    injection heq with heq
    injection heq with hmember'
    rw [← hmember']
    exact hmember
  . obtain ⟨⟨value, after'⟩, hread, heq⟩ := bind_eq_ok hkey
    injection heq with heq
    injection heq with hmember'
    rw [← hmember']
    exact Keeps.message hvalue key.kind _ _ _ _ hmember hread
  . exact keeps_ignore (fun member => Within n member.2) _ _ _ _ _ _ hmember hkey

theorem keeps_listField {n depth : Nat} {value? : Option (Step Value)}
    (hvalue : ∀ step ∈ value?, Keeps (Within n) step)
    : Keeps (fun values => ∀ value ∈ values, Within n value) (listField depth value?) := by
  intro values bs values' rest hvalues hread
  obtain ⟨⟨key, after⟩, -, hkey⟩ := bind_eq_ok hread
  dsimp only at hkey
  split at hkey
  . obtain ⟨⟨value, after'⟩, hread, heq⟩ := bind_eq_ok (of_within hkey)
    injection heq with heq
    injection heq with happend
    have hlast : Within n value :=
      Keeps.message hvalue key.kind .unset _ value _ (within_unset n) hread
    rw [← happend]
    intro other hother
    rcases List.mem_append.1 hother with hother | hother
    . exact hvalues other hother
    . exact List.mem_singleton.1 hother ▸ hlast
  . exact keeps_ignore (fun values => ∀ value ∈ values, Within n value) _ _ _ _ _ _ hvalues hkey

mutual

/-- The reader goes from a value to those inside it by way of two messages at least. -/
theorem keeps_step {d n : Nat} (h : d ≤ n) : Keeps (Within (n + 2)) (step d) := by
  cases d with
  | zero => exact keeps_field keeps_none keeps_none
  | succ d =>
    apply keeps_field
    . exact keeps_some (keeps_structStep h)
    . exact keeps_some (keeps_listStep h)

theorem keeps_structStep {d n : Nat} (h : d < n) : Keeps (FieldsWithin n) (structStep d) := by
  cases d with
  | zero => exact keeps_structField keeps_none
  | succ d => exact keeps_structField (keeps_some (keeps_memberStep h))

theorem keeps_memberStep {d n : Nat} (h : d + 1 < n)
    : Keeps (fun member => Within n member.2) (memberStep d) := by
  cases d with
  | zero => exact keeps_memberField keeps_none
  | succ d =>
    obtain ⟨n, rfl⟩ := Nat.exists_eq_add_of_le' (show 2 ≤ n by omega)
    exact keeps_memberField (keeps_some (keeps_step (by omega)))

theorem keeps_listStep {d n : Nat} (h : d < n)
    : Keeps (fun values => ∀ value ∈ values, Within n value) (listStep d) := by
  cases d with
  | zero => exact keeps_listField keeps_none
  | succ d =>
    obtain ⟨n, rfl⟩ := Nat.exists_eq_add_of_le' (show 2 ≤ n by omega)
    exact keeps_listField (keeps_some (keeps_step (by omega)))

end

end Value

end LiveTopology.Wire
