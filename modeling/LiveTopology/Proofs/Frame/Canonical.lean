import LiveTopology.Proofs.Frame.Carried
import LiveTopology.Proofs.Wire.Accepted

/-!
This module contains that a frame which is read from any bytes is kept by both of its forms. Bytes
can say the same in many ways, also with fields that repeat or are left out, but what is made of them
needs no rounding any more.
-/

namespace LiveTopology

open Wire

namespace Number

theorem proper_rounded_float {x : Float} (h : x.isFinite = true) : (float x).rounded.Proper := by
  unfold rounded
  dsimp only
  split
  . split
    . unfold Proper
      omega
    . exact h
  . exact h

theorem rounded_rounded_float (x : Float) : (float x).rounded.rounded = (float x).rounded := by
  cases hinteger : Decimal.integer? x with
  | none => simp only [rounded, hinteger]
  | some n =>
    by_cases hsmall : n.natAbs < 2 ^ 53
    . simp only [rounded, hinteger, hsmall, if_true]
    . simp only [rounded, hinteger, hsmall, if_false]

end Number

namespace Json

theorem proper_ofFloat (x : Float) : (ofFloat x).Proper := by
  by_cases hfinite : x.isFinite = true
  . rw [ofFloat_of_finite hfinite]
    exact Number.proper_rounded_float hfinite
  . unfold ofFloat
    rw [if_neg hfinite]
    trivial

theorem rounded_ofFloat (x : Float) : (ofFloat x).rounded = ofFloat x := by
  by_cases hfinite : x.isFinite = true
  . rw [ofFloat_of_finite hfinite, rounded, Number.rounded_rounded_float]
  . unfold ofFloat
    rw [if_neg hfinite]
    rfl

theorem sorted_toMembers {fields : List (String × Value)} (h : Keyed.Sorted fields)
    : Keyed.Sorted (Value.toMembers fields) := by
  rw [Value.toMembers_eq_mapValues]
  exact List.pairwise_map.2 h

mutual

theorem proper_toJson (v : Value) (h : v.Ordered) : v.toJson.Proper := by
  cases v with
  | number x => exact proper_ofFloat x
  | struct fields => exact ⟨sorted_toMembers h.1, proper_toMembers fields h.2⟩
  | list values => exact proper_toItems values h
  | _ => trivial

theorem proper_toMembers (fields : List (String × Value)) (h : Value.OrderedFields fields)
    : ProperMembers (Value.toMembers fields) := by
  cases fields with
  | nil => trivial
  | cons field fields => exact ⟨proper_toJson field.2 h.1, proper_toMembers fields h.2⟩

theorem proper_toItems (values : List Value) (h : Value.OrderedValues values)
    : ProperItems (Value.toItems values) := by
  cases values with
  | nil => trivial
  | cons value values => exact ⟨proper_toJson value h.1, proper_toItems values h.2⟩

end

mutual

/-- Every number has been a double before, so that nothing is left to round. -/
theorem rounded_toJson (v : Value) : v.toJson.rounded = v.toJson := by
  cases v with
  | number x => exact rounded_ofFloat x
  | struct fields =>
    unfold Value.toJson rounded
    rw [rounded_toMembers fields]
  | list values =>
    unfold Value.toJson rounded
    rw [rounded_toItems values]
  | _ => rfl

theorem rounded_toMembers (fields : List (String × Value))
    : roundedMembers (Value.toMembers fields) = Value.toMembers fields := by
  cases fields with
  | nil => rfl
  | cons field fields =>
    unfold Value.toMembers roundedMembers
    rw [rounded_toJson field.2, rounded_toMembers fields]

theorem rounded_toItems (values : List Value)
    : roundedItems (Value.toItems values) = Value.toItems values := by
  cases values with
  | nil => rfl
  | cons value values =>
    unfold Value.toItems roundedItems
    rw [rounded_toJson value, rounded_toItems values]

end

end Json

namespace Frame

theorem keeps_messageStep
    : Keeps (fun m : Message => ∀ v ∈ m.payload, Value.Within (nesting + 1) v) messageStep := by
  intro m bs m' rest hm hread
  obtain ⟨⟨key, after⟩, -, hkey⟩ := Json.Read.bind_eq_ok hread
  dsimp only at hkey
  split at hkey
  case h_3 =>
    obtain ⟨⟨v, after'⟩, hv, heq⟩ := Json.Read.bind_eq_ok (of_within hkey)
    injection heq with heq
    injection heq with hm'
    have hbefore : Value.Within (nesting + 1) (m.payload.getD .unset) := by
      cases hpayload : m.payload with
      | none => exact Value.within_unset _
      | some before => exact hm before hpayload
    have hafter : Value.Within (nesting + 1) v :=
      Keeps.message (keeps_some (Value.keeps_step (Nat.le_refl (nesting - 1)))) key.kind _ _ v _
        hbefore hv
    rw [← hm']
    intro v' hv'
    rwa [← Option.mem_some_iff.1 hv']
  case h_4 => exact keeps_ignore (fun m => ∀ v ∈ m.payload, Value.Within _ v) _ _ _ _ _ _ hm hkey
  all_goals
    obtain ⟨-, -, hscalar⟩ := Json.Read.bind_eq_ok (of_within hkey)
    obtain ⟨⟨scalar, after'⟩, -, heq⟩ := Json.Read.bind_eq_ok hscalar
    injection heq with heq
    injection heq with hm'
    rw [← hm']
    exact hm

/-- A frame that is read from bytes has a payload that stands for a value of the reader's making. -/
theorem of_ofBytes {bs : List UInt8} {frame : Frame} (h : ofBytes bs = .ok frame)
    : frame.event ≠ "" ∧ ∃ v : Value, Value.Within (nesting + 1) v ∧ frame.payload = v.toJson := by
  unfold ofBytes at h
  split at h
  . contradiction
  . next m rest hfields =>
    unfold checked at h
    split at h
    . contradiction
    . next hevent =>
      injection h with heq
      subst heq
      refine ⟨hevent, ?_⟩
      have hwithin := keeps_messageStep.fields _ _ _ _ _ _ (by simp) hfields
      cases hpayload : m.payload with
      | none =>
        refine ⟨.struct [], ⟨⟨List.Pairwise.nil, trivial⟩, by decide⟩, ?_⟩
        rfl
      | some v =>
        refine ⟨v, hwithin v hpayload, ?_⟩
        rfl

/-- A frame that is read from bytes comes back unchanged from its text form if each of its doubles is
read from the text that is written for it. It comes back unchanged from its binary form unless its
payload, written out in full, takes more messages inside each other than may be. No message is longer
than a length can tell. -/
theorem canonical_of_ofBytes (bs : List UInt8) (frame : Frame) (h : ofBytes bs = .ok frame)
    : frame.event ≠ ""
        ∧ frame.payload.depth ≤ 50
        ∧ ((∀ x ∈ frame.payload.floats, Json.Restored x) → ofText frame.toText = .ok frame)
        ∧ ((Value.ofJson frame.payload).depth ≤ nesting → frame.toBytes.length < UInt64.size →
          ofBytes frame.toBytes = .ok frame) := by
  obtain ⟨hevent, v, hwithin, hpayload⟩ := of_ofBytes h
  have hproper : frame.payload.Proper := by
    rw [hpayload]
    exact Json.proper_toJson v hwithin.ordered
  have hrounded : frame.rounded = frame := by
    unfold rounded
    rw [hpayload, Json.rounded_toJson, ← hpayload]
  have hdepth : frame.payload.depth ≤ 50 := by
    have := hwithin.depth_le
    have hnesting : nesting = 100 := rfl
    rw [hpayload]
    omega
  refine ⟨hevent, hdepth, fun hfloats => ?text, fun hnesting hsize => ?binary⟩
  case text =>
    refine ofText_toText_of_fits hevent ⟨hproper, ?_⟩ hfloats
    exact Nat.lt_of_le_of_lt hdepth (by decide)
  case binary =>
    rw [ofBytes_of_depth_le hproper hnesting hsize, hrounded]
    exact if_neg hevent

/-- The tag comes twice, and so does the payload, with a list that goes on the second time. A value
is left out, a member has neither a name nor a value, and one field is unknown. The numbers are a
NaN, a negative zero and `2 ^ 53`. -/
def foreignBytes : List UInt8 :=
  [0x48, 0x05, 0x1a, 0x15, 0x32, 0x13, 0x0a, 0x00, 0x0a, 0x09, 0x11, 0x00, 0x00, 0x00, 0x00, 0x00,
    0x00, 0xf8, 0x7f, 0x0a, 0x04, 0x2a, 0x02, 0x0a, 0x00, 0x0a, 0x01, 0x61, 0x1a, 0x18, 0x32, 0x16,
    0x0a, 0x09, 0x11, 0x00, 0x00, 0x00, 0x00, 0x00, 0x00, 0x00, 0x80, 0x0a, 0x09, 0x11, 0x00, 0x00,
    0x00, 0x00, 0x00, 0x00, 0x40, 0x43, 0x10, 0x80, 0x00, 0x0a, 0x01, 0x62]

def foreign : Frame where
  event := "b"
  sid := some 0
  payload := .array [.null, .null, .object [("", .null)], .number (.int 0),
    .number (.float 9007199254740992.0)]

theorem canonical_of_ofBytes_foreign
    : ofBytes foreignBytes = .ok foreign
        ∧ foreign.toBytes ≠ foreignBytes
        ∧ ofText foreign.toText = .ok foreign
        ∧ ofBytes foreign.toBytes = .ok foreign := by
  have hread : ofBytes foreignBytes = .ok foreign :=
    Json.Read.eq_ok_of_toOption (by decide +kernel)
  have hfloats : ∀ x ∈ foreign.payload.floats, Json.Restored x := by
    intro x hx
    rw [List.eq_of_mem_singleton (show x ∈ [(9007199254740992.0 : Float)] from hx)]
    exact Json.Read.eq_ok_of_toOption (by decide +kernel)
  obtain ⟨-, -, htext, hbinary⟩ := canonical_of_ofBytes foreignBytes foreign hread
  exact ⟨hread, by decide +kernel, htext hfloats, hbinary (by decide) (by decide +kernel)⟩

end Frame

end LiveTopology
