import LiveTopology.Proofs.Frame.Binary
import LiveTopology.Proofs.Frame.Text
import LiveTopology.Proofs.Wire.Nesting

/-!
This module contains which of the frames that are read from texts come back from their binary form.
Texts and binary messages do not bound in the same way how deep a payload nests.
-/

namespace LiveTopology

open Wire

namespace Json

mutual

/-- An array takes two messages, and an object with members takes three. -/
theorem depth_ofJson_bounds (v : Json)
    : 2 * v.depth ≤ (Value.ofJson v).depth ∧ (Value.ofJson v).depth ≤ 3 * v.depth + 1 := by
  cases v with
  | array items =>
    have := depthOfValues_ofItems_bounds items
    unfold Value.ofJson Value.depth depth
    omega
  | object members =>
    have := depthOfFields_ofMembers_bounds members
    unfold Value.ofJson Value.depth depth
    omega
  | _ => exact ⟨Nat.zero_le _, Nat.le_refl _⟩

theorem depthOfValues_ofItems_bounds (items : List Json)
    : 2 * depthOfItems items ≤ Value.depthOfValues (Value.ofItems items)
        ∧ Value.depthOfValues (Value.ofItems items) ≤ 3 * depthOfItems items + 1 := by
  cases items with
  | nil => exact ⟨Nat.le_refl _, Nat.zero_le _⟩
  | cons item items =>
    have := depth_ofJson_bounds item
    have := depthOfValues_ofItems_bounds items
    unfold Value.ofItems Value.depthOfValues depthOfItems
    omega

theorem depthOfFields_ofMembers_bounds (members : List (String × Json))
    : 2 * depthOfMembers members ≤ Value.depthOfFields (Value.ofMembers members)
        ∧ Value.depthOfFields (Value.ofMembers members) ≤ 3 * depthOfMembers members + 2 := by
  cases members with
  | nil => exact ⟨Nat.le_refl _, Nat.zero_le _⟩
  | cons member members =>
    have := depth_ofJson_bounds member.2
    have := depthOfFields_ofMembers_bounds members
    unfold Value.ofMembers Value.depthOfFields depthOfMembers
    omega

end

end Json

namespace Frame

def rounded (frame : Frame) : Frame :=
  { frame with payload := frame.payload.rounded }

theorem ofBytes_of_depth_le {frame : Frame} (hproper : frame.payload.Proper)
    (hdepth : (Value.ofJson frame.payload).depth ≤ nesting)
    (hsize : frame.toBytes.length < UInt64.size)
    : ofBytes frame.toBytes = checked frame.rounded := by
  have hreads := reads_toBytes frame hproper hdepth hsize
  have hfields := fields_of_reads hreads (Nat.lt_succ_self _) []
  rw [List.append_nil, List.length_nil] at hfields
  unfold ofBytes
  rw [hfields]
  simp only [Option.map_some, Option.getD_some]
  rw [Json.toJson_ofJson _ hproper]
  rfl

theorem tooDeep_messageStep (m : Message) (v : Value) (hpayload : m.payload = none)
    (hdepth : nesting < v.depth) (hordered : v.Ordered)
    (hsize : (messageField 3 v.encode).length < UInt64.size) (rest : List UInt8)
    : TooDeep (messageStep m (messageField 3 v.encode ++ rest)) := by
  have hlength := length_lt_length_messageField 3 v.encode
  have hexceeds := Value.exceeds_encode (nesting - 1) v hdepth hordered (by omega)
  unfold messageStep
  unfold messageField
  rw [List.append_assoc, readKey_key .delimited (by decide) (by decide)]
  simp only [ok_bind, hpayload, Option.getD_none]
  apply TooDeep.within
  apply TooDeep.bind
  apply tooDeep_message hexceeds
  omega

/-- The tag and the number are read before the payload is refused. -/
theorem ofBytes_of_lt_depth {frame : Frame} (hproper : frame.payload.Proper)
    (hdepth : nesting < (Value.ofJson frame.payload).depth)
    (hsize : frame.toBytes.length < UInt64.size)
    : ∃ path, ofBytes frame.toBytes = .error (.binary ⟨path, .tooDeep⟩) := by
  rw [toBytes_eq, List.length_append, List.length_append] at hsize
  have hexceeds : Exceeds messageStep ⟨"", none, none⟩ frame.toBytes := by
    rw [toBytes_eq, ← List.append_assoc]
    refine ⟨_, _, [], ⟨frame.event, frame.sid, none⟩, by rw [List.append_nil],
      messageField_ne_nil _ _, ?_, fun rest => ?_⟩
    . apply reads_head frame
      omega
    . apply tooDeep_messageStep _ _ rfl hdepth (Json.ordered_ofJson _ hproper)
      omega
  obtain ⟨path, hfields⟩ := tooDeep_fields hexceeds (Nat.lt_succ_self _) []
  rw [List.append_nil, List.length_nil] at hfields
  refine ⟨path, ?_⟩
  unfold ofBytes
  rw [hfields]

/-- A frame that is read from a text comes back from its binary form, under the same tag and number,
if its payload takes no more messages inside each other than may be. Otherwise it is refused. -/
theorem carried_of_ofText (t : String) (frame : Frame) (h : ofText t = .ok frame)
    (hsize : frame.toBytes.length < UInt64.size)
    : ((Value.ofJson frame.payload).depth ≤ Wire.nesting →
          ∃ frame', ofBytes frame.toBytes = .ok frame' ∧ frame'.event = frame.event
            ∧ frame'.sid = frame.sid)
        ∧ (Wire.nesting < (Value.ofJson frame.payload).depth →
          ∃ path, ofBytes frame.toBytes = .error (.binary ⟨path, .tooDeep⟩))
        ∧ (frame.payload.depth ≤ 33 → (Value.ofJson frame.payload).depth ≤ Wire.nesting)
        ∧ (50 < frame.payload.depth → Wire.nesting < (Value.ofJson frame.payload).depth) := by
  obtain ⟨hevent, hproper, -⟩ := of_ofText h
  have hbounds := Json.depth_ofJson_bounds frame.payload
  have hnesting : Wire.nesting = 100 := rfl
  refine ⟨fun hdepth => ?_, fun hdepth => ?_, fun hdepth => ?_, fun hdepth => ?_⟩
  . refine ⟨frame.rounded, ?_, rfl, rfl⟩
    rw [ofBytes_of_depth_le hproper hdepth hsize]
    exact if_neg hevent
  . apply ofBytes_of_lt_depth hproper hdepth hsize
  . omega
  . omega

theorem ofText_eq_of_toOption {t : String} {frame : Frame} (h : (ofText t).toOption = some frame)
    : ofText t = .ok frame :=
  Json.Read.eq_ok_of_toOption h

theorem carried_of_ofText_host
    : ofText "\x7b\"event\":\"addHost\",\"sid\":7,\"payload\":\x7b\"ips\":[[\"10.0.0.1\"],null],\"id\":\"h\"\x7d\x7d"
          = .ok ⟨"addHost", some 7, .object [("id", .string "h"),
            ("ips", .array [.array [.string "10.0.0.1"], .null])]⟩
        ∧ ∃ frame', ofBytes (toBytes ⟨"addHost", some 7, .object [("id", .string "h"),
            ("ips", .array [.array [.string "10.0.0.1"], .null])]⟩) = .ok frame'
          ∧ frame'.event = "addHost" ∧ frame'.sid = some 7 := by
  refine (and_iff_left_of_imp fun hread => ?_).2 (ofText_eq_of_toOption (by decide +kernel))
  exact (carried_of_ofText _ _ hread (by decide +kernel)).1 (by decide)

/-- An array with `n` arrays around it. -/
def nested : Nat → Json
  | 0 => .array []
  | n + 1 => .array [nested n]

def nestedText (n : Nat) : String :=
  "\x7b\"type\":\"addHost\",\"payload\":"
    ++ String.ofList (List.replicate (n + 1) '[' ++ List.replicate (n + 1) ']') ++ "\x7d"

/-- Fifty-one arrays inside each other are too many for the binary form, but not for a text. -/
theorem not_carried_nested
    : ofText (nestedText 50) = .ok ⟨"addHost", none, nested 50⟩
        ∧ (toBytes ⟨"addHost", none, nested 50⟩).length < UInt64.size
        ∧ ∀ frame', ofBytes (toBytes ⟨"addHost", none, nested 50⟩) ≠ .ok frame' := by
  refine ⟨?_, by decide +kernel, ?_⟩
  . apply ofText_eq_of_toOption
    decide +kernel
  . have hrefused : (ofBytes (toBytes ⟨"addHost", none, nested 50⟩)).toOption = none := by
      decide +kernel
    intro frame' h
    simp [h, Except.toOption] at hrefused

end Frame

end LiveTopology
