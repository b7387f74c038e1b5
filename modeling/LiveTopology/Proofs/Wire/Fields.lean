import LiveTopology.Proofs.Wire.Scalar
import LiveTopology.Wire.Decoder
import LiveTopology.Wire.Encoder

/-!
This module contains the reading of several fields. Fields that are each read whatever follows them
are read one after another, and so is a message that is made of them.
-/

namespace LiveTopology.Wire

variable {α : Type}

@[simp]
theorem ok_bind {β : Type} (a : α) (f : α → Except Fault β) : (Except.ok a >>= f) = f a :=
  rfl

@[simp]
theorem expect_self (kind : Kind) : expect kind kind = .ok () :=
  if_pos rfl

@[simp]
theorem within_ok (message field : String) (a : α) : within message field (.ok a) = .ok a :=
  rfl

/-- The bytes are fields that take an `α` to another one. -/
inductive Reads (step : Step α) : α → List UInt8 → α → Prop where
  | nil (a : α) : Reads step a [] a
  | cons {a b c : α} {field bs : List UInt8} (hne : field ≠ [])
      (hfield : ∀ rest, step a (field ++ rest) = .ok (b, rest)) (hrest : Reads step b bs c)
    : Reads step a (field ++ bs) c

theorem Reads.single {step : Step α} {a b : α} {field : List UInt8} (hne : field ≠ [])
    (hfield : ∀ rest, step a (field ++ rest) = .ok (b, rest)) : Reads step a field b := by
  have := Reads.cons hne hfield (.nil b)
  rwa [List.append_nil] at this

theorem Reads.append {step : Step α} {a b c : α} {bs bs' : List UInt8} (h : Reads step a bs b)
    (h' : Reads step b bs' c) : Reads step a (bs ++ bs') c := by
  induction h with
  | nil a => exact h'
  | cons hne hfield hrest ih =>
    rw [List.append_assoc]
    apply Reads.cons hne hfield
    apply ih h'

/-- Fields that are each read take the reader along to what follows them. -/
theorem fields_append {step : Step α} {a b : α} {first : List UInt8} (h : Reads step a first b)
    {left : Nat} {bs : List UInt8} (hleft : left ≤ bs.length) {fuel : Nat}
    (hfuel : first.length < fuel)
    : ∃ fuel', fuel ≤ fuel' + first.length
        ∧ fields step left fuel a (first ++ bs) = fields step left fuel' b bs := by
  induction h generalizing fuel with
  | nil a => exact ⟨fuel, Nat.le_refl _, rfl⟩
  | @cons a b c field first hne hfield hrest ih =>
    have hpos : 0 < field.length := List.length_pos_iff.2 hne
    rw [List.length_append] at hfuel
    -- Each field has at least one byte, so that the fuel lasts for all of them.
    cases fuel with
    | zero => omega
    | succ fuel =>
      have hmore : left < (field ++ (first ++ bs)).length := by
        simp only [List.length_append]
        omega
      obtain ⟨fuel', hfuel', hfields⟩ := ih (show first.length < fuel by omega)
      refine ⟨fuel', ?_, ?_⟩
      . rw [List.length_append]
        omega
      . rw [List.append_assoc, fields, if_pos hmore, hfield]
        exact hfields

theorem fields_of_reads {step : Step α} {a b : α} {bs : List UInt8} (h : Reads step a bs b)
    {fuel : Nat} (hfuel : bs.length < fuel) (rest : List UInt8)
    : fields step rest.length fuel a (bs ++ rest) = .ok (b, rest) := by
  obtain ⟨fuel', hfuel', hfields⟩ := fields_append h (Nat.le_refl rest.length) hfuel
  rw [hfields]
  cases fuel' with
  | zero => omega
  | succ fuel' =>
    unfold fields
    rw [if_neg (Nat.lt_irrefl _), if_pos rfl]

theorem block_delimited (step : Step α) (a : α) {bs : List UInt8} (hsize : bs.length < UInt64.size)
    (rest : List UInt8)
    : block (some step) a (delimited bs ++ rest)
        =
      fields step rest.length ((bs ++ rest).length + 1) a (bs ++ rest) := by
  unfold block delimited
  rw [List.append_assoc]
  simp only
  rw [readVarint_varint hsize]
  show (if (bs ++ rest).length < bs.length then _ else _) = _
  have hrest : (bs ++ rest).length - bs.length = rest.length := by
    rw [List.length_append]
    omega
  rw [if_neg, hrest]
  rw [List.length_append]
  omega

theorem block_of_reads {step : Step α} {a b : α} {bs : List UInt8} (h : Reads step a bs b)
    (hsize : bs.length < UInt64.size) (rest : List UInt8)
    : block (some step) a (delimited bs ++ rest) = .ok (b, rest) := by
  rw [block_delimited step a hsize]
  apply fields_of_reads h
  rw [List.length_append]
  omega

theorem message_of_reads {step : Step α} {a b : α} {bs : List UInt8} (h : Reads step a bs b)
    (hsize : bs.length < UInt64.size) (rest : List UInt8)
    : message (some step) .delimited a (delimited bs ++ rest) = .ok (b, rest) := by
  unfold message expect
  rw [if_pos rfl]
  apply block_of_reads h hsize

theorem key_ne_nil (tag : Nat) (kind : Kind) : key tag kind ≠ [] := by
  unfold key varint
  split <;> simp

theorem messageField_ne_nil (tag : Nat) (bs : List UInt8) : messageField tag bs ≠ [] := by
  unfold messageField
  apply List.append_ne_nil_of_left_ne_nil
  apply key_ne_nil

theorem length_lt_length_delimited (bs : List UInt8) : bs.length < (delimited bs).length := by
  have : 0 < (varint bs.length).length := by
    unfold varint
    split <;> simp
  unfold delimited
  rw [List.length_append]
  omega

theorem length_lt_length_messageField (tag : Nat) (bs : List UInt8)
    : bs.length < (messageField tag bs).length := by
  have := length_lt_length_delimited bs
  unfold messageField
  rw [List.length_append]
  omega

theorem length_lt_length_textField (tag : Nat) (s : String)
    : (Bytes.ofText s).length < (textField tag s).length :=
  length_lt_length_messageField tag (Bytes.ofText s)

end LiveTopology.Wire
