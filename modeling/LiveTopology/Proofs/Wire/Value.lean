import LiveTopology.Proofs.Keyed
import LiveTopology.Proofs.Wire.Fields

/-!
This module contains the round trip of values through their binary form, for all values that do not
nest deeper than the reader allows.
-/

namespace LiveTopology.Wire.Value

mutual

/-- How many messages stand inside each other in the binary form of a value. -/
def depth : Value → Nat
  | .struct fields => 2 + depthOfFields fields
  | .list values => 2 + depthOfValues values
  | _ => 1

def depthOfFields : List (String × Value) → Nat
  | [] => 0
  | (_, value) :: fields => max (1 + depth value) (depthOfFields fields)

def depthOfValues : List Value → Nat
  | [] => 0
  | value :: values => max (depth value) (depthOfValues values)

end

mutual

def Ordered : Value → Prop
  | .struct fields => Keyed.Sorted fields ∧ OrderedFields fields
  | .list values => OrderedValues values
  | _ => True

def OrderedFields : List (String × Value) → Prop
  | [] => True
  | (_, value) :: fields => Ordered value ∧ OrderedFields fields

def OrderedValues : List Value → Prop
  | [] => True
  | value :: values => Ordered value ∧ OrderedValues values

end

theorem depth_pos (v : Value) : 1 ≤ v.depth := by
  cases v <;> simp [depth] <;> omega

section Field

variable {d : Nat} {struct? : Option (Step (List (String × Value)))} {list? : Option (Step (List Value))}
  (v : Value) (rest : List UInt8)

theorem field_null
    : field d struct? list? v (encode .null ++ rest) = .ok (.null, rest) := by
  unfold field encode
  rw [List.append_assoc, readKey_key .varint (by decide) (by decide)]
  simp only [ok_bind, expect_self]
  rw [readVarint_varint (by decide)]
  rfl

theorem field_number (x : Float)
    : field d struct? list? v (encode (.number x) ++ rest) = .ok (.number x, rest) := by
  unfold field encode
  rw [List.append_assoc, readKey_key .eight (by decide) (by decide)]
  simp only [ok_bind, expect_self]
  rw [readDouble_double]
  rfl

theorem field_string (s : String) (hsize : (encode (.string s)).length < UInt64.size)
    : field d struct? list? v (encode (.string s) ++ rest) = .ok (.string s, rest) := by
  have hlength := length_lt_length_textField 3 s
  unfold encode at hsize
  unfold field encode textField
  rw [List.append_assoc, readKey_key .delimited (by decide) (by decide)]
  simp only [ok_bind, expect_self]
  rw [readText_text (by omega)]
  rfl

theorem field_bool (b : Bool)
    : field d struct? list? v (encode (.bool b) ++ rest) = .ok (.bool b, rest) := by
  unfold field encode
  rw [List.append_assoc, readKey_key .varint (by decide) (by decide)]
  simp only [ok_bind, expect_self]
  rw [readVarint_varint (by cases b <;> decide)]
  cases b <;> rfl

theorem field_struct {step : Step (List (String × Value))} {fields : List (String × Value)}
    (h : Reads step v.fields? (encodeFields fields) fields)
    (hsize : (encode (.struct fields)).length < UInt64.size)
    : field d (some step) list? v (encode (.struct fields) ++ rest) = .ok (.struct fields, rest) := by
  have hlength := length_lt_length_messageField 5 (encodeFields fields)
  unfold encode at hsize
  unfold field encode messageField
  rw [List.append_assoc, readKey_key .delimited (by decide) (by decide)]
  simp only [ok_bind]
  rw [message_of_reads h (by omega)]
  rfl

theorem field_list {step : Step (List Value)} {values : List Value}
    (h : Reads step v.values? (encodeValues values) values)
    (hsize : (encode (.list values)).length < UInt64.size)
    : field d struct? (some step) v (encode (.list values) ++ rest) = .ok (.list values, rest) := by
  have hlength := length_lt_length_messageField 6 (encodeValues values)
  unfold encode at hsize
  unfold field encode messageField
  rw [List.append_assoc, readKey_key .delimited (by decide) (by decide)]
  simp only [ok_bind]
  rw [message_of_reads h (by omega)]
  rfl

end Field

section Member

variable {d : Nat} {step : Step Value} {value : Value} (name : String)
  (h : Reads step .unset (encode value) value)

theorem memberField_name {value? : Option (Step Value)} (old : String)
    (hsize : (textField 1 name).length < UInt64.size) (rest : List UInt8)
    : memberField d value? (old, value) (textField 1 name ++ rest) = .ok ((name, value), rest) := by
  have hlength := length_lt_length_textField 1 name
  unfold memberField
  unfold textField
  rw [List.append_assoc, readKey_key .delimited (by decide) (by decide)]
  simp only [ok_bind, expect_self]
  rw [readText_text (by omega)]
  rfl

include h

theorem memberField_value (hsize : (messageField 2 (encode value)).length < UInt64.size)
    (rest : List UInt8)
    : memberField d (some step) (name, .unset) (messageField 2 (encode value) ++ rest)
        =
      .ok ((name, value), rest) := by
  have hlength := length_lt_length_messageField 2 (encode value)
  unfold memberField
  unfold messageField
  rw [List.append_assoc, readKey_key .delimited (by decide) (by decide)]
  simp only [ok_bind]
  rw [message_of_reads h (by omega)]
  rfl

/-- The bytes of a member, in which an empty name is left out. -/
def encodeMember (name : String) (value : Value) : List UInt8 :=
  (if name = "" then [] else textField 1 name) ++ messageField 2 (encode value)

theorem reads_encodeMember (hsize : (encodeMember name value).length < UInt64.size)
    : Reads (memberField d (some step)) ("", .unset) (encodeMember name value) (name, value) := by
  unfold encodeMember at hsize ⊢
  rw [List.length_append] at hsize
  have hvalue : Reads (memberField d (some step)) (name, .unset) (messageField 2 (encode value))
      (name, value) := by
    apply Reads.single
    . apply messageField_ne_nil
    . apply memberField_value name h
      omega
  by_cases hname : name = ""
  . subst hname
    exact hvalue
  . rw [if_neg hname] at hsize ⊢
    apply Reads.append _ hvalue
    apply Reads.single
    . apply messageField_ne_nil
    . apply memberField_name
      omega

end Member

theorem encodeFields_cons (name : String) (value : Value) (fields : List (String × Value))
    : encodeFields ((name, value) :: fields)
        =
      messageField 1 (encodeMember name value) ++ encodeFields fields :=
  rfl

theorem structField_member {d : Nat} {step : Step (String × Value)} {name : String} {value : Value}
    (h : Reads step ("", .unset) (encodeMember name value) (name, value))
    (fields : List (String × Value))
    (hsize : (messageField 1 (encodeMember name value)).length < UInt64.size) (rest : List UInt8)
    : structField d (some step) fields (messageField 1 (encodeMember name value) ++ rest)
        =
      .ok (Keyed.insert name value fields, rest) := by
  have hlength := length_lt_length_messageField 1 (encodeMember name value)
  unfold structField
  unfold messageField
  rw [List.append_assoc, readKey_key .delimited (by decide) (by decide)]
  simp only [ok_bind]
  rw [block_of_reads h (by omega)]
  rfl

theorem listField_value {d : Nat} {step : Step Value} {value : Value}
    (h : Reads step .unset (encode value) value) (values : List Value)
    (hsize : (messageField 1 (encode value)).length < UInt64.size) (rest : List UInt8)
    : listField d (some step) values (messageField 1 (encode value) ++ rest)
        =
      .ok (values ++ [value], rest) := by
  have hlength := length_lt_length_messageField 1 (encode value)
  unfold listField
  unfold messageField
  rw [List.append_assoc, readKey_key .delimited (by decide) (by decide)]
  simp only [ok_bind]
  rw [message_of_reads h (by omega)]
  rfl

theorem encode_ne_nil {v : Value} (h : v ≠ .unset) : encode v ≠ [] := by
  cases v with
  | unset => contradiction
  | string s => apply messageField_ne_nil
  | struct fields => apply messageField_ne_nil
  | list values => apply messageField_ne_nil
  | null => simp [encode, key_ne_nil]
  | number x => simp [encode, key_ne_nil]
  | bool b => simp [encode, key_ne_nil]

/-- Whether the reader of a value may go on to a message inside it depends on the depth alone. -/
theorem step_eq (d : Nat) : ∃ struct? list?, step d = field d struct? list? := by
  cases d with
  | zero => exact ⟨none, none, rfl⟩
  | succ d => exact ⟨some (structStep d), some (listStep d), rfl⟩

mutual

/-- A value is read back from its binary form if it does not nest too deep. -/
theorem reads_encode (v : Value) (d : Nat) (hdepth : v.depth ≤ d + 1) (hordered : v.Ordered)
    (hsize : (encode v).length < UInt64.size) : Reads (step d) .unset (encode v) v := by
  cases v with
  | unset => exact Reads.nil _
  | null =>
    obtain ⟨struct?, list?, hstep⟩ := step_eq d
    rw [hstep]
    exact Reads.single (encode_ne_nil (by simp)) (field_null _)
  | number x =>
    obtain ⟨struct?, list?, hstep⟩ := step_eq d
    rw [hstep]
    exact Reads.single (encode_ne_nil (by simp)) (fun rest => field_number _ rest x)
  | string s =>
    obtain ⟨struct?, list?, hstep⟩ := step_eq d
    rw [hstep]
    exact Reads.single (encode_ne_nil (by simp)) (fun rest => field_string _ rest s hsize)
  | bool b =>
    obtain ⟨struct?, list?, hstep⟩ := step_eq d
    rw [hstep]
    exact Reads.single (encode_ne_nil (by simp)) (fun rest => field_bool _ rest b)
  | struct fields =>
    unfold depth at hdepth
    unfold Ordered at hordered
    have hlength := length_lt_length_messageField 5 (encodeFields fields)
    cases d with
    | zero => omega
    | succ d =>
      have hfields : Reads (structStep d) [] (encodeFields fields) fields := by
        apply reads_encodeFields fields d (by omega) hordered.2 [] hordered.1
        unfold encode at hsize
        omega
      exact Reads.single (encode_ne_nil (by simp)) (fun rest => field_struct _ rest hfields hsize)
  | list values =>
    unfold depth at hdepth
    unfold Ordered at hordered
    have hlength := length_lt_length_messageField 6 (encodeValues values)
    cases d with
    | zero => omega
    | succ d =>
      have hvalues : Reads (listStep d) [] (encodeValues values) values := by
        apply reads_encodeValues values d (by omega) hordered []
        unfold encode at hsize
        omega
      exact Reads.single (encode_ne_nil (by simp)) (fun rest => field_list _ rest hvalues hsize)

theorem reads_encodeFields (fields : List (String × Value)) (d : Nat)
    (hdepth : depthOfFields fields ≤ d) (hordered : OrderedFields fields)
    (before : List (String × Value)) (hsorted : Keyed.Sorted (before ++ fields))
    (hsize : (encodeFields fields).length < UInt64.size)
    : Reads (structStep d) before (encodeFields fields) (before ++ fields) := by
  cases fields with
  | nil =>
    rw [List.append_nil]
    exact Reads.nil _
  | cons field fields =>
    obtain ⟨name, value⟩ := field
    unfold depthOfFields at hdepth
    unfold OrderedFields at hordered
    have hpos := depth_pos value
    have hmessage := length_lt_length_messageField 1 (encodeMember name value)
    have hcontents : (messageField 2 (encode value)).length ≤ (encodeMember name value).length := by
      unfold encodeMember
      rw [List.length_append]
      omega
    have hencode := length_lt_length_messageField 2 (encode value)
    rw [encodeFields_cons, List.length_append] at hsize
    -- The names increase, so that each member is put behind those that have been read.
    have hlast : Keyed.insert name value before = before ++ [(name, value)] := by
      apply Keyed.insert_of_forall_lt
      intro p hp
      exact (List.pairwise_append.1 hsorted).2.2 p hp (name, value) List.mem_cons_self
    rw [encodeFields_cons, List.append_cons]
    -- A member is a message around the message of its value.
    cases d with
    | zero => omega
    | succ d =>
      cases d with
      | zero => omega
      | succ d =>
        have hvalue := reads_encode value d (by omega) hordered.1 (by omega)
        have hmember : Reads (memberStep (d + 1)) ("", .unset) (encodeMember name value)
            (name, value) := by
          apply reads_encodeMember name hvalue
          omega
        apply Reads.cons (messageField_ne_nil _ _)
        . intro rest
          apply structField_member hmember before
          omega
        . rw [hlast]
          apply reads_encodeFields fields (d + 2) (by omega) hordered.2
          . rw [List.append_assoc]
            exact hsorted
          . omega

theorem reads_encodeValues (values : List Value) (d : Nat) (hdepth : depthOfValues values ≤ d)
    (hordered : OrderedValues values) (before : List Value)
    (hsize : (encodeValues values).length < UInt64.size)
    : Reads (listStep d) before (encodeValues values) (before ++ values) := by
  cases values with
  | nil =>
    rw [List.append_nil]
    exact Reads.nil _
  | cons value values =>
    unfold depthOfValues at hdepth
    unfold OrderedValues at hordered
    have hpos := depth_pos value
    have hmessage := length_lt_length_messageField 1 (encode value)
    unfold encodeValues at hsize ⊢
    rw [List.length_append] at hsize
    rw [List.append_cons]
    cases d with
    | zero => omega
    | succ d =>
      have hvalue := reads_encode value d (by omega) hordered.1 (by omega)
      apply Reads.cons (messageField_ne_nil _ _)
      . intro rest
        apply listField_value hvalue before
        omega
      . apply reads_encodeValues values (d + 1) (by omega) hordered.2
        omega

end

end LiveTopology.Wire.Value
