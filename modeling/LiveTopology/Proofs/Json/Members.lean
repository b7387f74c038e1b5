import LiveTopology.Proofs.Json.Accepted
import LiveTopology.Proofs.Json.Spelled

/-!
This module contains that a record is read from the members of an object one by one: each of its
fields takes a member of its name, at most once, and members that are no fields do not matter.
-/

namespace LiveTopology.Json.Record

open Read Spelling

variable {σ : Type}

def Ending.toOption : Ending σ → Option (σ × List Char)
  | .complete record rest => some (record, rest)
  | _ => none

theorem toOption_finish (close : List Char → Except Fault (List Char)) (ending : Ending σ)
    : (finish close ending).toOption
        =
      ending.toOption.bind fun p => (close p.2).toOption.map (p.1, ·) := by
  cases ending with
  | complete record rest =>
    show (close rest >>= fun cs => Except.ok (record, cs)).toOption
      = (close rest).toOption.map (record, ·)
    cases close rest <;> rfl
  | broken fault => rfl
  | refused cause rest =>
    unfold finish
    simp only
    split <;> rfl

variable (r : Record σ)

/-- The record, if no field that it needs is missing. -/
def completed? (record : σ) : Option σ :=
  match r.fields.find? fun f => f.required && !f.given record with
  | some _ => none
  | none => some record

theorem toOption_complete (record : σ) (cs : List Char)
    : (complete r record cs).toOption = (r.completed? record).map (·, cs) := by
  unfold complete completed?
  cases r.fields.find? fun f => f.required && !f.given record <;> rfl

variable (take : String → σ → Spelling → Option σ)

/-- What becomes of a record by a member, where `take` says what its fields take. -/
def take? (record : σ) (m : Member) : Option σ :=
  m.name?.bind fun name =>
    match r.field? name with
    | some f => if f.given record then none else take f.name record m.2.inner
    | none => some record

variable {r take}

/-- Every field takes just the values that it is said to take, whatever blanks stand around them. -/
structure Takes (r : Record σ) (take : String → σ → Spelling → Option σ) : Prop where
  skips : ∀ f ∈ r.fields, ∀ record, Skips (f.read record)
  reads : ∀ f ∈ r.fields, ∀ record s, Reads (f.read record) s.text (take f.name record s)

theorem length_text_le (m : Member) (after : List Char)
    : m.2.inner.text.length
        ≤ (m.1.after.text ++ ':' :: (m.2.before.text
          ++ (m.2.inner.text ++ (m.2.after.text ++ after)))).length := by
  simp only [List.length_append, List.length_cons]
  omega

variable (h : Takes r take) {first : Bool} {fuel : Nat} {record : σ} {cs : List Char}

include h

theorem readMembers_spelled {m : Member} {after : List Char} (hafter : Stops after)
    (hnext : nextName .kept first cs = .ok (.more (unquoted m after)))
    : (readMembers r (fuel + 1) first record cs).toOption
        =
      (r.take? take record m).bind fun record =>
        (readMembers r fuel false record (m.2.after.text ++ after)).toOption := by
  have hstops := stops_append m.2.after hafter
  have hname := name_pieces m.1.inner (m.1.after.text ++ ':' :: (m.2.before.text
    ++ (m.2.inner.text ++ (m.2.after.text ++ after))))
  change (name (unquoted m after)).toOption = _ at hname
  rw [readMembers, take?, Member.name?]
  simp only [hnext]
  cases hkey : Piece.string? m.1.inner with
  | none =>
    rw [hkey] at hname
    obtain ⟨fault, hfault⟩ := exists_error_of_toOption hname
    rw [hfault]
    rfl
  | some key =>
    rw [hkey] at hname
    rw [eq_ok_of_toOption hname]
    simp only [Option.bind_some, colon_append, ok_bind]
    cases hfield : r.field? key with
    | none =>
      -- The fuel is the length of the text, which is never less than how deep the value nests.
      have hdepth := depth_le_length_text m.2.inner
      have hskip := skip_text m.2.inner _ (hdepth.trans (length_text_le m after)) _ hstops
      rw [← (skips_skip _).append m.2.before] at hskip
      simp only [eq_ok_of_toOption hskip]
      rfl
    | some f =>
      have hf : f ∈ r.fields := List.mem_of_find?_eq_some hfield
      have hread := h.reads f hf record m.2.inner _ hstops
      rw [← (h.skips f hf record).append m.2.before] at hread
      simp only
      split
      . rfl
      . cases htake : take f.name record m.2.inner with
        | none =>
          rw [htake] at hread
          obtain ⟨fault, hfault⟩ := exists_error_of_toOption hread
          simp only [hfault]
          rfl
        | some record' =>
          rw [htake] at hread
          simp only [eq_ok_of_toOption hread]
          rfl

theorem readMembers_membersText {ms : List Member} (hfuel : ms.length < fuel) (b : Blanks)
    (rest : List Char)
    : (readMembers r fuel first record (b.text ++ (membersText first ms ++ rest))).toOption
        =
      ((ms.foldlM (r.take? take) record).bind r.completed?).map (·, '\x7d' :: rest) := by
  induction ms generalizing fuel first record b with
  | nil =>
    obtain ⟨fuel, rfl⟩ := Nat.exists_eq_add_of_lt hfuel
    rw [readMembers]
    simp only [nextName_end]
    exact toOption_complete r record _
  | cons m ms ih =>
    cases fuel with
    | zero => contradiction
    | succ fuel =>
      rw [readMembers_spelled h (stops_membersText ms rest) (nextName_member first b m ms rest),
        List.foldlM_cons]
      cases r.take? take record m with
      | none => rfl
      | some record' => exact ih (Nat.lt_of_succ_lt_succ hfuel) _

/-- A record is read from an object if each member in turn is taken and none is missing. -/
theorem whole_text (before inside after : Blanks) (ms : List Member)
    : (whole r.read (before.text ++ ((Spelling.object inside ms).text ++ after.text))).toOption
        =
      (ms.foldlM (r.take? take) r.start).bind r.completed? := by
  have hafter : blanks after.text = [] := by
    have := blanks_append after []
    rwa [List.append_nil] at this
  have hread : (r.read (before.text ++ ((Spelling.object inside ms).text ++ after.text))).toOption
      = ((ms.foldlM (r.take? take) r.start).bind r.completed?).map (·, after.text) := by
    rw [text_object]
    unfold read
    rw [blanks_append, blanks_cons rfl]
    show (finish endObject (readMembers r _ true r.start _)).toOption = _
    rw [toOption_finish,
      readMembers_membersText h (length_lt_length_membersText inside ms after.text)]
    cases (ms.foldlM (r.take? take) r.start).bind r.completed? <;> rfl
  unfold whole
  rw [toOption_bind, hread]
  cases (ms.foldlM (r.take? take) r.start).bind r.completed? with
  | none => rfl
  | some record =>
    simp only [Option.map_some, Option.bind_some, hafter]
    rfl

end LiveTopology.Json.Record
