import LiveTopology.Frame.Binary
import LiveTopology.Proofs.Decimal.Nearest
import LiveTopology.Proofs.Json.Proper
import LiveTopology.Proofs.Wire.Value

/-!
This module contains the round trip of frames through their binary form. All that it changes is
numbers, since each number becomes a double on the way.
-/

namespace LiveTopology

/-- A number after it has been a double. -/
def Number.rounded : Number → Number
  | .int n => if n.natAbs < 2 ^ 53 then .int n else .float (Decimal.nearest n)
  | .float x =>
    match Decimal.integer? x with
    | some n => if n.natAbs < 2 ^ 53 then .int n else .float x
    | none => .float x

namespace Json

mutual

def rounded : Json → Json
  | .number n => .number n.rounded
  | .array items => .array (roundedItems items)
  | .object members => .object (roundedMembers members)
  | v => v

def roundedItems : List Json → List Json
  | [] => []
  | item :: items => rounded item :: roundedItems items

def roundedMembers : List (String × Json) → List (String × Json)
  | [] => []
  | (name, value) :: members => (name, rounded value) :: roundedMembers members

end

theorem ofFloat_of_finite {x : Float} (h : x.isFinite = true)
    : ofFloat x = .number (Number.float x).rounded := by
  unfold ofFloat
  rw [if_pos h]
  cases hinteger : Decimal.integer? x with
  | none => simp only [Number.rounded, hinteger]
  | some n =>
    simp only [Number.rounded, hinteger]
    rw [apply_ite Json.number]
    rfl

/-- The double for an integer is taken for that integer as long as it is safe from rounding. -/
theorem rounded_nearest {n : Int} (hsize : n.natAbs < UInt64.size)
    : (Number.float (Decimal.nearest n)).rounded = (Number.int n).rounded := by
  by_cases hsmall : n.natAbs < 2 ^ 53
  . simp only [Number.rounded, Decimal.integer?_nearest hsmall]
  . cases hinteger : Decimal.integer? (Decimal.nearest n) with
    | none =>
      simp only [Number.rounded, hinteger]
      rw [if_neg hsmall]
    | some k =>
      have := Decimal.le_natAbs_of_integer?_nearest hsize (by omega) hinteger
      simp only [Number.rounded, hinteger]
      rw [if_neg hsmall, if_neg (by omega)]

theorem ofFloat_toFloat {n : Number} (h : n.Proper) : ofFloat n.toFloat = .number n.rounded := by
  cases n with
  | float x => exact ofFloat_of_finite h
  | int n =>
    have hsize : n.natAbs < UInt64.size := by
      unfold Number.Proper at h
      show n.natAbs < 2 ^ 64
      omega
    have hfinite : (Decimal.nearest n).isFinite = true := by
      rw [Decimal.isFinite_iff]
      obtain ⟨q, hq, -⟩ := Decimal.nearest_closest hsize
      exact ⟨q, hq⟩
    unfold Number.toFloat
    rw [ofFloat_of_finite hfinite, rounded_nearest hsize]

mutual

theorem toJson_ofJson (v : Json) (h : v.Proper) : (Wire.Value.ofJson v).toJson = v.rounded := by
  cases v with
  | null => rfl
  | bool b => rfl
  | string s => rfl
  | number n => exact ofFloat_toFloat h
  | array items =>
    unfold Wire.Value.ofJson Wire.Value.toJson rounded
    rw [toItems_ofItems items h]
  | object members =>
    unfold Wire.Value.ofJson Wire.Value.toJson rounded
    rw [toMembers_ofMembers members h.2]

theorem toItems_ofItems (items : List Json) (h : ProperItems items)
    : Wire.Value.toItems (Wire.Value.ofItems items) = roundedItems items := by
  cases items with
  | nil => rfl
  | cons item items =>
    unfold Wire.Value.ofItems Wire.Value.toItems roundedItems
    rw [toJson_ofJson item h.1, toItems_ofItems items h.2]

theorem toMembers_ofMembers (members : List (String × Json)) (h : ProperMembers members)
    : Wire.Value.toMembers (Wire.Value.ofMembers members) = roundedMembers members := by
  cases members with
  | nil => rfl
  | cons member members =>
    unfold Wire.Value.ofMembers Wire.Value.toMembers roundedMembers
    rw [toJson_ofJson member.2 h.1, toMembers_ofMembers members h.2]

end

theorem mem_ofMembers {members : List (String × Json)} {p : String × Wire.Value}
    (h : p ∈ Wire.Value.ofMembers members) : ∃ member ∈ members, member.1 = p.1 := by
  induction members with
  | nil => contradiction
  | cons member members ih =>
    cases List.mem_cons.1 h with
    | inl heq => exact ⟨member, List.mem_cons_self, by rw [heq]⟩
    | inr hmem =>
      obtain ⟨other, hother, hname⟩ := ih hmem
      exact ⟨other, List.mem_cons_of_mem member hother, hname⟩

theorem sorted_ofMembers {members : List (String × Json)} (h : Keyed.Sorted members)
    : Keyed.Sorted (Wire.Value.ofMembers members) := by
  induction members with
  | nil => exact List.Pairwise.nil
  | cons member members ih =>
    obtain ⟨hfirst, hrest⟩ := List.pairwise_cons.1 h
    apply List.Pairwise.cons
    . intro p hp
      obtain ⟨other, hother, hname⟩ := mem_ofMembers hp
      rw [← hname]
      apply hfirst other hother
    . apply ih hrest

mutual

theorem ordered_ofJson (v : Json) (h : v.Proper) : (Wire.Value.ofJson v).Ordered := by
  cases v with
  | array items => exact ordered_ofItems items h
  | object members => exact ⟨sorted_ofMembers h.1, ordered_ofMembers members h.2⟩
  | _ => trivial

theorem ordered_ofItems (items : List Json) (h : ProperItems items)
    : Wire.Value.OrderedValues (Wire.Value.ofItems items) := by
  cases items with
  | nil => trivial
  | cons item items => exact ⟨ordered_ofJson item h.1, ordered_ofItems items h.2⟩

theorem ordered_ofMembers (members : List (String × Json)) (h : ProperMembers members)
    : Wire.Value.OrderedFields (Wire.Value.ofMembers members) := by
  cases members with
  | nil => trivial
  | cons member members => exact ⟨ordered_ofJson member.2 h.1, ordered_ofMembers members h.2⟩

end

end Json

namespace Frame

open Wire

variable (m : Message) (rest : List UInt8)

theorem messageStep_event (event : String) (hsize : (textField 1 event).length < UInt64.size)
    : messageStep m (textField 1 event ++ rest) = .ok ({ m with event }, rest) := by
  have hlength := length_lt_length_textField 1 event
  unfold messageStep
  unfold textField
  rw [List.append_assoc, readKey_key .delimited (by decide) (by decide)]
  simp only [ok_bind, expect_self]
  rw [readText_text (by omega)]
  rfl

theorem messageStep_sid (sid : UInt64)
    : messageStep m ((key 2 .varint ++ varint sid.toNat) ++ rest)
        =
      .ok ({ m with sid := some sid }, rest) := by
  unfold messageStep
  rw [List.append_assoc, readKey_key .varint (by decide) (by decide)]
  simp only [ok_bind, expect_self]
  rw [readVarint_varint sid.toNat_lt]
  simp only [ok_bind, UInt64.ofNat_toNat, within_ok]

theorem messageStep_payload (v : Value) (hpayload : m.payload = none)
    (hdepth : v.depth ≤ nesting) (hordered : v.Ordered)
    (hsize : (messageField 3 v.encode).length < UInt64.size)
    : messageStep m (messageField 3 v.encode ++ rest) = .ok ({ m with payload := some v }, rest) := by
  have hlength := length_lt_length_messageField 3 v.encode
  have hreads := Value.reads_encode v (nesting - 1) hdepth hordered (by omega)
  unfold messageStep
  unfold messageField
  rw [List.append_assoc, readKey_key .delimited (by decide) (by decide)]
  simp only [ok_bind, hpayload, Option.getD_none]
  rw [message_of_reads hreads (by omega)]
  rfl

def sidField (sid : Option UInt64) : List UInt8 :=
  match sid with
  | none => []
  | some sid => key 2 .varint ++ varint sid.toNat

theorem toBytes_eq (frame : Frame)
    : frame.toBytes
        =
      (if frame.event = "" then [] else textField 1 frame.event)
        ++ (sidField frame.sid ++ messageField 3 (Value.ofJson frame.payload).encode) := by
  unfold toBytes
  rw [List.append_assoc]
  rfl

theorem reads_head (frame : Frame)
    (hsize : (if frame.event = "" then [] else textField 1 frame.event).length < UInt64.size)
    : Reads messageStep ⟨"", none, none⟩
        ((if frame.event = "" then [] else textField 1 frame.event) ++ sidField frame.sid)
        ⟨frame.event, frame.sid, none⟩ := by
  have hevent : Reads messageStep ⟨"", none, none⟩
      (if frame.event = "" then [] else textField 1 frame.event) ⟨frame.event, none, none⟩ := by
    by_cases hempty : frame.event = ""
    . -- An empty tag is left out, and the reader starts with one.
      rw [if_pos hempty, hempty]
      exact Reads.nil _
    . rw [if_neg hempty] at hsize ⊢
      apply Reads.single (messageField_ne_nil _ _)
      intro rest
      apply messageStep_event
      exact hsize
  have hsid : Reads messageStep ⟨frame.event, none, none⟩ (sidField frame.sid)
      ⟨frame.event, frame.sid, none⟩ := by
    cases frame.sid with
    | none => exact Reads.nil _
    | some sid =>
      apply Reads.single
      . apply List.append_ne_nil_of_left_ne_nil
        apply key_ne_nil
      . intro rest
        apply messageStep_sid
  apply hevent.append hsid

theorem reads_toBytes (frame : Frame) (hproper : frame.payload.Proper)
    (hdepth : (Value.ofJson frame.payload).depth ≤ nesting)
    (hsize : frame.toBytes.length < UInt64.size)
    : Reads messageStep ⟨"", none, none⟩ frame.toBytes
        ⟨frame.event, frame.sid, some (Value.ofJson frame.payload)⟩ := by
  rw [toBytes_eq, List.length_append, List.length_append] at hsize
  rw [toBytes_eq, ← List.append_assoc]
  have hpayload : Reads messageStep ⟨frame.event, frame.sid, none⟩
      (messageField 3 (Value.ofJson frame.payload).encode)
      ⟨frame.event, frame.sid, some (Value.ofJson frame.payload)⟩ := by
    apply Reads.single (messageField_ne_nil _ _)
    intro rest
    apply messageStep_payload _ _ _ rfl hdepth (Json.ordered_ofJson _ hproper)
    omega
  apply Reads.append _ hpayload
  apply reads_head frame
  omega

/-- A frame comes back from its binary form with the numbers of its payload rounded, unless it has
no event tag. Integers below `2 ^ 53` are kept, and so are the doubles that are no such integers. -/
theorem ofBytes_toBytes (frame : Frame) (hproper : frame.payload.Proper)
    (hdepth : (Value.ofJson frame.payload).depth ≤ nesting)
    (hsize : frame.toBytes.length < UInt64.size)
    : ofBytes frame.toBytes
          = (if frame.event = "" then .error .noEvent
            else .ok { frame with payload := frame.payload.rounded })
        ∧ (∀ n : Int, n.natAbs < UInt64.size → ∃ q, Decimal.value? (Decimal.nearest n) = some q
            ∧ ∀ x p, Decimal.value? x = some p → |q - n| ≤ |p - n|)
        ∧ (∀ (x : Float) (n : Int), Decimal.integer? x = some n ↔ Decimal.value? x = some (n : Rat)) := by
  refine ⟨?codec, ?nearest, Decimal.integer?_eq_some_iff⟩
  case nearest =>
    intro n hn
    apply Decimal.nearest_closest hn
  case codec =>
    have hreads := reads_toBytes frame hproper hdepth hsize
    have hfields := fields_of_reads hreads (Nat.lt_succ_self _) []
    rw [List.append_nil, List.length_nil] at hfields
    unfold ofBytes
    rw [hfields]
    simp only [checked, Option.map_some, Option.getD_some]
    rw [Json.toJson_ofJson _ hproper]

theorem ofBytes_toBytes_host
    : ofBytes (toBytes ⟨"addHost", some 0, .object [("", .null), ("id", .string ""),
        ("seen", .array [.number (.int 9007199254740993), .number (.float (Float.ofBits 0))])]⟩)
        =
      .ok ⟨"addHost", some 0, .object [("", .null), ("id", .string ""),
        ("seen", .array [.number (.float (Decimal.nearest 9007199254740993)), .number (.int 0)])]⟩ := by
  have hnumber : (Number.int 9007199254740993).Proper := by
    unfold Number.Proper
    decide
  have hzero : (Number.float (Float.ofBits 0)).Proper := by
    rfl
  have hproper : Json.Proper (.object [("", .null), ("id", .string ""),
      ("seen", .array [.number (.int 9007199254740993), .number (.float (Float.ofBits 0))])]) := by
    refine ⟨?_, trivial, trivial, ⟨hnumber, hzero, trivial⟩, trivial⟩
    unfold Keyed.Sorted
    decide
  rw [(ofBytes_toBytes ⟨"addHost", some 0, _⟩ hproper (by decide) (by decide +kernel)).1]
  rfl

end Frame

end LiveTopology
