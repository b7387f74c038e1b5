import LiveTopology.Proofs.Wire.Value

/-!
This module contains that a value which nests deeper than the reader allows is refused for this
reason, wherever in the value it goes too deep.
-/

namespace LiveTopology.Wire

variable {α β : Type}

def TooDeep (result : Except Fault α) : Prop :=
  ∃ path, result = .error ⟨path, .tooDeep⟩

theorem TooDeep.bind {result : Except Fault α} (h : TooDeep result) (f : α → Except Fault β)
    : TooDeep (result >>= f) := by
  obtain ⟨path, rfl⟩ := h
  exact ⟨path, rfl⟩

theorem TooDeep.within {result : Except Fault α} (h : TooDeep result) (message field : String)
    : TooDeep (within message field result) := by
  obtain ⟨path, rfl⟩ := h
  exact ⟨path ++ [(message, field)], rfl⟩

theorem tooDeep_message_none (a : α) (bs : List UInt8)
    : TooDeep (message none .delimited a bs) :=
  ⟨[], rfl⟩

/-- The bytes are fields that are read, up to one with which the reader gives up. -/
def Exceeds (step : Step α) (a : α) (bs : List UInt8) : Prop :=
  ∃ first field last b, bs = first ++ (field ++ last) ∧ field ≠ [] ∧ Reads step a first b
    ∧ ∀ rest, TooDeep (step b (field ++ rest))

theorem Exceeds.single {step : Step α} {a : α} {field : List UInt8} (hne : field ≠ [])
    (h : ∀ rest, TooDeep (step a (field ++ rest)))
    : Exceeds step a field :=
  ⟨[], field, [], a, by simp, hne, .nil a, h⟩

theorem tooDeep_fields {step : Step α} {a : α} {bs : List UInt8} (h : Exceeds step a bs)
    {fuel : Nat} (hfuel : bs.length < fuel) (rest : List UInt8)
    : TooDeep (fields step rest.length fuel a (bs ++ rest)) := by
  obtain ⟨first, field, last, b, rfl, hne, hreads, hfield⟩ := h
  have hpos : 0 < field.length := List.length_pos_iff.2 hne
  simp only [List.length_append] at hfuel
  have hmore : rest.length < (field ++ (last ++ rest)).length := by
    simp only [List.length_append]
    omega
  obtain ⟨fuel', hfuel', hfields⟩ :=
    fields_append hreads (Nat.le_of_lt hmore) (show first.length < fuel by omega)
  rw [List.append_assoc, List.append_assoc, hfields]
  cases fuel' with
  | zero => omega
  | succ fuel' =>
    unfold fields
    rw [if_pos hmore]
    apply TooDeep.bind
    apply hfield

theorem tooDeep_block {step : Step α} {a : α} {bs : List UInt8} (h : Exceeds step a bs)
    (hsize : bs.length < UInt64.size) (rest : List UInt8)
    : TooDeep (block (some step) a (delimited bs ++ rest)) := by
  rw [block_delimited step a hsize]
  apply tooDeep_fields h
  rw [List.length_append]
  omega

theorem tooDeep_message {step : Step α} {a : α} {bs : List UInt8} (h : Exceeds step a bs)
    (hsize : bs.length < UInt64.size) (rest : List UInt8)
    : TooDeep (message (some step) .delimited a (delimited bs ++ rest)) := by
  unfold message
  rw [expect_self]
  apply tooDeep_block h hsize

namespace Value

section Field

variable {d : Nat} {struct? : Option (Step (List (String × Value)))}
  {list? : Option (Step (List Value))}
  (v : Value) (rest : List UInt8)

theorem tooDeep_field_struct {fields : List (String × Value)}
    (h : TooDeep (message struct? .delimited v.fields? (delimited (encodeFields fields) ++ rest)))
    : TooDeep (field d struct? list? v (encode (.struct fields) ++ rest)) := by
  unfold field encode messageField
  rw [List.append_assoc, readKey_key .delimited (by decide) (by decide)]
  apply TooDeep.within
  apply h.bind

theorem tooDeep_field_list {values : List Value}
    (h : TooDeep (message list? .delimited v.values? (delimited (encodeValues values) ++ rest)))
    : TooDeep (field d struct? list? v (encode (.list values) ++ rest)) := by
  unfold field encode messageField
  rw [List.append_assoc, readKey_key .delimited (by decide) (by decide)]
  apply TooDeep.within
  apply h.bind

theorem tooDeep_structField {member? : Option (Step (String × Value))} {bs : List UInt8}
    (fields : List (String × Value))
    (h : TooDeep (block member? ("", .unset) (delimited bs ++ rest)))
    : TooDeep (structField d member? fields (messageField 1 bs ++ rest)) := by
  unfold structField messageField
  rw [List.append_assoc, readKey_key .delimited (by decide) (by decide)]
  apply TooDeep.within
  apply h.bind

theorem tooDeep_memberField {value? : Option (Step Value)} {bs : List UInt8} (name : String)
    (h : TooDeep (message value? .delimited v (delimited bs ++ rest)))
    : TooDeep (memberField d value? (name, v) (messageField 2 bs ++ rest)) := by
  unfold memberField messageField
  rw [List.append_assoc, readKey_key .delimited (by decide) (by decide)]
  apply h.bind

theorem tooDeep_listField {value? : Option (Step Value)} {bs : List UInt8} (values : List Value)
    (h : TooDeep (message value? .delimited .unset (delimited bs ++ rest)))
    : TooDeep (listField d value? values (messageField 1 bs ++ rest)) := by
  unfold listField messageField
  rw [List.append_assoc, readKey_key .delimited (by decide) (by decide)]
  apply TooDeep.within
  apply h.bind

end Field

/-- A struct that is too deep has a first member that is. -/
theorem exists_of_lt_depthOfFields {fields : List (String × Value)} {d : Nat}
    (h : d < depthOfFields fields)
    : ∃ before name value after, fields = before ++ (name, value) :: after
        ∧ depthOfFields before ≤ d ∧ d < 1 + value.depth := by
  induction fields with
  | nil => simp [depthOfFields] at h
  | cons field fields ih =>
    obtain ⟨name, value⟩ := field
    by_cases hvalue : d < 1 + value.depth
    . exact ⟨[], name, value, fields, rfl, Nat.zero_le _, hvalue⟩
    . unfold depthOfFields at h
      obtain ⟨before, name', value', after, rfl, hbefore, hvalue'⟩ := ih (by omega)
      refine ⟨(name, value) :: before, name', value', after, rfl, ?_, hvalue'⟩
      unfold depthOfFields
      omega

theorem exists_of_lt_depthOfValues {values : List Value} {d : Nat} (h : d < depthOfValues values)
    : ∃ before value after, values = before ++ value :: after
        ∧ depthOfValues before ≤ d ∧ d < value.depth := by
  induction values with
  | nil => simp [depthOfValues] at h
  | cons value values ih =>
    by_cases hvalue : d < value.depth
    . exact ⟨[], value, values, rfl, Nat.zero_le _, hvalue⟩
    . unfold depthOfValues at h
      obtain ⟨before, value', after, rfl, hbefore, hvalue'⟩ := ih (by omega)
      refine ⟨value :: before, value', after, rfl, ?_, hvalue'⟩
      unfold depthOfValues
      omega

theorem encodeFields_append (fields more : List (String × Value))
    : encodeFields (fields ++ more) = encodeFields fields ++ encodeFields more := by
  induction fields with
  | nil => rfl
  | cons field fields ih =>
    obtain ⟨name, value⟩ := field
    rw [List.cons_append, encodeFields_cons, encodeFields_cons, ih, List.append_assoc]

theorem encodeValues_cons (value : Value) (values : List Value)
    : encodeValues (value :: values) = messageField 1 (encode value) ++ encodeValues values :=
  rfl

theorem encodeValues_append (values more : List Value)
    : encodeValues (values ++ more) = encodeValues values ++ encodeValues more := by
  induction values with
  | nil => rfl
  | cons value values ih =>
    rw [List.cons_append, encodeValues_cons, encodeValues_cons, ih, List.append_assoc]

theorem orderedFields_append {fields more : List (String × Value)}
    (h : OrderedFields (fields ++ more))
    : OrderedFields fields ∧ OrderedFields more := by
  induction fields with
  | nil => exact ⟨trivial, h⟩
  | cons field fields ih => exact ⟨⟨h.1, (ih h.2).1⟩, (ih h.2).2⟩

theorem orderedValues_append {values more : List Value} (h : OrderedValues (values ++ more))
    : OrderedValues values ∧ OrderedValues more := by
  induction values with
  | nil => exact ⟨trivial, h⟩
  | cons value values ih => exact ⟨⟨h.1, (ih h.2).1⟩, (ih h.2).2⟩

/-- What is known of the values inside one for which the reader has `d` levels left. -/
def Refused (d : Nat) : Prop :=
  ∀ e < d, ∀ value : Value, e + 1 < value.depth → value.Ordered →
    (encode value).length < UInt64.size → Exceeds (step e) .unset (encode value)

/-- The name of a member is read before its value is refused. -/
theorem exceeds_encodeMember {d : Nat} (hrefused : Refused d) (name : String) {value : Value}
    (hdepth : d < value.depth) (hordered : value.Ordered)
    (hsize : (encodeMember name value).length < UInt64.size)
    : Exceeds (memberStep d) ("", .unset) (encodeMember name value) := by
  have hlength := length_lt_length_messageField 2 (encode value)
  unfold encodeMember at hsize ⊢
  rw [List.length_append] at hsize
  have hvalue (rest : List UInt8)
      : TooDeep (memberStep d (name, .unset) (messageField 2 (encode value) ++ rest)) := by
    cases d with
    | zero =>
      apply tooDeep_memberField
      apply tooDeep_message_none
    | succ d =>
      apply tooDeep_memberField
      apply tooDeep_message
      . apply hrefused d (Nat.lt_succ_self d) value hdepth hordered
        omega
      . omega
  refine ⟨_, _, [], (name, .unset), by rw [List.append_nil], messageField_ne_nil _ _, ?_, hvalue⟩
  by_cases hname : name = ""
  . rw [if_pos hname, hname]
    exact .nil _
  . rw [if_neg hname] at hsize ⊢
    apply Reads.single
    . apply messageField_ne_nil
    . obtain ⟨value?, hstep⟩ : ∃ value?, memberStep d = memberField d value? := by
        cases d with
        | zero => exact ⟨none, rfl⟩
        | succ d => exact ⟨some (step d), rfl⟩
      intro rest
      rw [hstep]
      apply memberField_name
      omega

theorem exceeds_encodeFields {d : Nat} (hrefused : Refused d) {fields : List (String × Value)}
    (hdepth : d < depthOfFields fields) (hordered : OrderedFields fields)
    (hsorted : Keyed.Sorted fields) (hsize : (encodeFields fields).length < UInt64.size)
    : Exceeds (structStep d) [] (encodeFields fields) := by
  obtain ⟨before, name, value, after, rfl, hbefore, hvalue⟩ := exists_of_lt_depthOfFields hdepth
  have hlength := length_lt_length_messageField 1 (encodeMember name value)
  obtain ⟨horderedBefore, horderedValue⟩ := orderedFields_append hordered
  rw [encodeFields_append, encodeFields_cons] at hsize ⊢
  simp only [List.length_append] at hsize
  refine ⟨_, _, _, before, rfl, messageField_ne_nil _ _, ?_, fun rest => ?_⟩
  . apply reads_encodeFields before d hbefore horderedBefore []
    . apply (List.pairwise_append.1 hsorted).1
    . omega
  . cases d with
    | zero =>
      apply tooDeep_structField
      exact ⟨[], rfl⟩
    | succ d =>
      apply tooDeep_structField
      apply tooDeep_block
      . apply exceeds_encodeMember _ name (by omega) horderedValue.1 (by omega)
        exact fun e he => hrefused e (Nat.lt_succ_of_lt he)
      . omega

theorem exceeds_encodeValues {d : Nat} (hrefused : Refused d) {values : List Value}
    (hdepth : d < depthOfValues values) (hordered : OrderedValues values)
    (hsize : (encodeValues values).length < UInt64.size)
    : Exceeds (listStep d) [] (encodeValues values) := by
  obtain ⟨before, value, after, rfl, hbefore, hvalue⟩ := exists_of_lt_depthOfValues hdepth
  have hlength := length_lt_length_messageField 1 (encode value)
  obtain ⟨horderedBefore, horderedValue⟩ := orderedValues_append hordered
  rw [encodeValues_append, encodeValues_cons] at hsize ⊢
  simp only [List.length_append] at hsize
  refine ⟨_, _, _, before, rfl, messageField_ne_nil _ _, ?_, fun rest => ?_⟩
  . apply reads_encodeValues before d hbefore horderedBefore []
    omega
  . cases d with
    | zero =>
      apply tooDeep_listField
      apply tooDeep_message_none
    | succ d =>
      apply tooDeep_listField
      apply tooDeep_message
      . apply hrefused d (Nat.lt_succ_self d) value hvalue horderedValue.1
        omega
      . omega

/-- The reader goes into a value that is too deep until it has no level left. -/
theorem exceeds_encode (d : Nat) (v : Value) (hdepth : d + 1 < v.depth) (hordered : v.Ordered)
    (hsize : (encode v).length < UInt64.size)
    : Exceeds (step d) .unset (encode v) := by
  induction d using Nat.strongRecOn generalizing v with
  | ind d ih =>
    cases v with
    | struct fields =>
      have hlength := length_lt_length_messageField 5 (encodeFields fields)
      unfold depth at hdepth
      unfold encode at hsize
      apply Exceeds.single (encode_ne_nil (by simp))
      intro rest
      cases d with
      | zero =>
        apply tooDeep_field_struct
        apply tooDeep_message_none
      | succ d =>
        apply tooDeep_field_struct
        apply tooDeep_message
        . apply exceeds_encodeFields _ (by omega) hordered.2 hordered.1 (by omega)
          exact fun e he => ih e (Nat.lt_succ_of_lt he)
        . omega
    | list values =>
      have hlength := length_lt_length_messageField 6 (encodeValues values)
      unfold depth at hdepth
      unfold encode at hsize
      apply Exceeds.single (encode_ne_nil (by simp))
      intro rest
      cases d with
      | zero =>
        apply tooDeep_field_list
        apply tooDeep_message_none
      | succ d =>
        apply tooDeep_field_list
        apply tooDeep_message
        . apply exceeds_encodeValues _ (by omega) hordered (by omega)
          exact fun e he => ih e (Nat.lt_succ_of_lt he)
        . omega
    | _ =>
      unfold depth at hdepth
      omega

end Value

end LiveTopology.Wire
