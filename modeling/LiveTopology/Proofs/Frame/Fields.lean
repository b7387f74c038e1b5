import LiveTopology.Frame.Text
import LiveTopology.Proofs.Json.Members

/-!
This module contains what each field of a frame takes, in every way in which it can be written, and
what many members make of a frame.
-/

namespace LiveTopology

open Json Json.Read Json.Spelling

namespace Frame

/-- The text of a tag. -/
def tag? (s : Spelling) : Option String :=
  s.value?.bind Json.string?

def word? : Json → Option UInt64
  | .number (.int n) => if 0 ≤ n then some (.ofNat n.toNat) else none
  | _ => none

/-- The number of a frame, or that it has none. -/
def sid? (s : Spelling) : Option (Option UInt64) :=
  s.value?.bind fun v => if v = .null then some none else (word? v).map some

/-- What a field makes of a draft. -/
def take (name : String) (draft : Draft) (s : Spelling) : Option Draft :=
  if name = "type" then (tag? s).map fun event => { draft with event := some event }
  else if name = "sid" then (sid? s).map fun sid => { draft with sid := some sid }
  else (s.within (nesting - 1)).map fun payload => { draft with payload := some payload }

theorem toOption_refuse {α : Type} (wanted : String) (cs : List Char)
    : (refuse wanted cs : Except Fault α).toOption = none := by
  unfold refuse
  rw [toOption_bind]
  cases (found cs).toOption <;> rfl

theorem skips_text : Skips Json.Read.text := by
  intro cs
  unfold Json.Read.text
  rw [blanks_blanks]

theorem text_of_head {c : Char} (hblank : isBlank c = false) (hquote : c ≠ '"') (cs : List Char)
    : (Json.Read.text (c :: cs)).toOption = none := by
  unfold Json.Read.text
  rw [blanks_cons hblank]
  split
  . contradiction
  . next heq => exact absurd (List.cons.inj heq).1 hquote
  . exact toOption_refuse _ _

theorem reads_tag (s : Spelling) : Reads Json.Read.text s.text (tag? s) := by
  intro rest hrest
  cases s with
  | null => exact text_of_head rfl (by decide) _
  | bool b => cases b <;> exact text_of_head rfl (by decide) _
  | number n =>
    obtain ⟨c, cs, hcs, hblank, -, -, -, hquote, -⟩ := head_number n
    have htag : tag? (.number n) = none := by
      unfold tag? value?
      cases n.value? <;> rfl
    rw [htag, Spelling.text, hcs]
    exact text_of_head hblank hquote _
  | string ps =>
    have htag : tag? (.string ps) = Piece.string? ps := by
      unfold tag? value?
      cases Piece.string? ps <;> rfl
    rw [htag, Spelling.text, quoted_append]
    exact name_pieces ps rest
  | array inside items =>
    have htag : tag? (.array inside items) = none := by
      unfold tag? value?
      cases valuesOfItems items <;> rfl
    rw [htag]
    exact text_of_head rfl (by decide) _
  | object inside members =>
    have htag : tag? (.object inside members) = none := by
      unfold tag? value?
      cases valuesOfMembers members <;> rfl
    rw [htag]
    exact text_of_head rfl (by decide) _

/-- What is found where a value stands. -/
def foundOf : Json → Found
  | .null => .null
  | .bool b => .bool b
  | .number n => .number n
  | .string s => .string s
  | .array _ => .sequence
  | .object _ => .map

theorem found_of_head {c : Char} (harray : c ≠ '[') (hobject : c ≠ '\x7b') (cs : List Char)
    : found (c :: cs) = (scalar (c :: cs)).map fun p => (foundOf p.1, p.2) := by
  unfold found
  split
  . next heq => exact absurd (List.cons.inj heq).1 harray
  . next heq => exact absurd (List.cons.inj heq).1 hobject
  . cases scalar (c :: cs) with
    | error fault => rfl
    | ok p =>
      obtain ⟨v, rest⟩ := p
      cases v <;> rfl

theorem word64_of_head {c : Char} (hblank : isBlank c = false) (harray : c ≠ '[')
    (hobject : c ≠ '\x7b') (cs : List Char)
    : (word64 (c :: cs)).toOption
        =
      (scalar (c :: cs)).toOption.bind fun p => (word? p.1).map (·, p.2) := by
  unfold word64
  rw [blanks_cons hblank, found_of_head harray hobject]
  cases scalar (c :: cs) with
  | error fault => rfl
  | ok p =>
    obtain ⟨v, rest⟩ := p
    cases v with
    | number n =>
      cases n with
      | int n =>
        show (if 0 ≤ n then _ else _ : Except Fault (UInt64 × List Char)).toOption
          = (if 0 ≤ n then some (UInt64.ofNat n.toNat) else none).map (·, rest)
        split <;> rfl
      | float x => rfl
    | _ => rfl

theorem option_of_head {α : Type} (reader : Reader α) {c : Char} (hblank : isBlank c = false)
    (hnull : c ≠ 'n') (cs : List Char)
    : (option reader (c :: cs)).toOption
        =
      (reader (c :: cs)).toOption.map fun p => (some p.1, p.2) := by
  unfold option
  rw [blanks_cons hblank]
  split
  . next heq => exact absurd (List.cons.inj heq).1 hnull
  . cases reader (c :: cs) <;> rfl

theorem reads_sid_of_scalar {s : Spelling} (hdepth : s.depth = 0) (hvalue : s.value? ≠ some .null)
    (hhead : ∃ c cs, s.text = c :: cs ∧ isBlank c = false ∧ c ≠ '[' ∧ c ≠ '\x7b' ∧ c ≠ 'n')
    : Reads (option word64) s.text (sid? s) := by
  intro rest hrest
  have hscalar := value_text s 0 rest hrest
  obtain ⟨c, cs, hcs, hblank, harray, hobject, hnull⟩ := hhead
  rw [hcs, List.cons_append] at hscalar ⊢
  rw [value_of_head hblank harray hobject, within, if_pos (Nat.le_of_eq hdepth)] at hscalar
  rw [option_of_head _ hblank hnull, word64_of_head hblank harray hobject, hscalar, sid?]
  cases hv : s.value? with
  | none => rfl
  | some v =>
    have hne : v ≠ .null := fun heq => hvalue (heq ▸ hv)
    simp only [Option.map_some, Option.bind_some, if_neg hne, Option.map_map]
    rfl

theorem reads_sid (s : Spelling) : Reads (option word64) s.text (sid? s) := by
  cases s with
  | null => exact fun _ _ => rfl
  | bool b =>
    apply reads_sid_of_scalar rfl
    . simp [value?]
    . cases b <;> exact ⟨_, _, rfl, by decide⟩
  | number n =>
    apply reads_sid_of_scalar rfl
    . simp [value?]
    . obtain ⟨c, cs, hcs, hblank, -, harray, hobject, -, hnull⟩ := head_number n
      exact ⟨c, cs, hcs, hblank, harray, hobject, hnull⟩
  | string ps =>
    apply reads_sid_of_scalar rfl
    . simp [value?]
    . exact ⟨_, _, rfl, by decide⟩
  | array inside items =>
    intro rest _
    unfold sid? value?
    cases valuesOfItems items <;> rfl
  | object inside members =>
    intro rest _
    unfold sid? value?
    cases valuesOfMembers members <;> rfl

theorem skips_option {α : Type} (reader : Reader α) : Skips (option reader) := by
  intro cs
  unfold option
  rw [blanks_blanks]

section Draft

variable {α : Type} {reader : Reader α} (put : α → Draft)

theorem skips_draft (h : Skips reader)
    : Skips fun cs => reader cs >>= fun p => .ok (put p.1, p.2) := by
  intro cs
  dsimp only
  rw [h]

theorem reads_draft {text : List Char} {a? : Option α} (h : Reads reader text a?)
    : Reads (fun cs => reader cs >>= fun p => .ok (put p.1, p.2)) text (a?.map put) := by
  intro rest hrest
  rw [toOption_bind, h rest hrest]
  cases a? <;> rfl

end Draft

theorem mem_fields {f : Json.Field Draft} (h : f ∈ record.fields)
    : f = record.fields[0] ∨ f = record.fields[1] ∨ f = record.fields[2] := by
  simpa [record] using h

theorem takes_fields : record.Takes take where
  skips f hf draft := by
    rcases mem_fields hf with rfl | rfl | rfl
    . exact skips_draft (fun event => { draft with event := some event }) skips_text
    . exact skips_draft (fun sid => { draft with sid := some sid }) (skips_option word64)
    . exact skips_draft (fun payload => { draft with payload := some payload }) (skips_value _)
  reads f hf draft s := by
    rcases mem_fields hf with rfl | rfl | rfl
    . exact reads_draft (fun event => { draft with event := some event }) (reads_tag s)
    . exact reads_draft (fun sid => { draft with sid := some sid }) (reads_sid s)
    . exact reads_draft (fun payload => { draft with payload := some payload }) (value_text s _)

theorem field?_eq (name : String)
    : record.field? name
        =
      if name = "type" ∨ name = "event" then some record.fields[0]
      else if name = "sid" then some record.fields[1]
      else if name = "payload" then some record.fields[2]
      else none := by
  by_cases htype : name = "type"
  . simp [Json.Record.field?, record, htype]
  by_cases hevent : name = "event"
  . simp [Json.Record.field?, record, hevent]
  by_cases hsid : name = "sid"
  . simp [Json.Record.field?, record, hsid]
  by_cases hpayload : name = "payload"
  . simp [Json.Record.field?, record, hpayload]
  . simp [Json.Record.field?, record, htype, hevent, hsid, hpayload, eq_comm]

/-- The values of the members that go by one of the names. -/
def named (names : List String) (ms : List Member) : List Spelling :=
  (ms.filter fun m => m.name?.any names.contains).map fun m => m.2.inner

theorem named_cons {m : Member} {name : String} (hname : m.name? = some name)
    (names : List String) (ms : List Member)
    : named names (m :: ms)
        =
      if name ∈ names then m.2.inner :: named names ms else named names ms := by
  unfold named
  rw [List.filter_cons, hname]
  simp only [Option.any_some, List.contains_iff_mem]
  split <;> rfl

/-- What a field that has been given `given` gets from the values, each of which is meant for it. -/
def settle {α : Type} (read : Spelling → Option α) : Option α → List Spelling → Option (Option α)
  | given, [] => some given
  | some _, _ :: _ => none
  | none, s :: ss => (read s).bind fun v => settle read (some v) ss

theorem settle_none {α : Type} {read : Spelling → Option α} {ss : List Spelling} {given : Option α}
    : settle read none ss = some given
        ↔
      ss = [] ∧ given = none ∨ ∃ s v, ss = [s] ∧ read s = some v ∧ given = some v := by
  cases ss with
  | nil => simp [settle, eq_comm]
  | cons s ss =>
    cases ss with
    | nil =>
      constructor
      . intro h
        obtain ⟨v, hv, hgiven⟩ := Option.bind_eq_some_iff.1 h
        exact .inr ⟨s, v, rfl, hv, (Option.some.inj hgiven).symm⟩
      . rintro (⟨hs, -⟩ | ⟨s', v, hs, hv, rfl⟩)
        . contradiction
        . obtain rfl := List.head_eq_of_cons_eq hs
          rw [settle, hv]
          rfl
    | cons s' ss => simp [settle]

theorem take?_eq {m : Member} {name : String} (hname : m.name? = some name) (draft : Draft)
    : record.take? take draft m
        =
      if name ∈ ["type", "event"] then
        if draft.event.isSome then none
        else (tag? m.2.inner).map fun event => { draft with event := some event }
      else if name ∈ ["sid"] then
        if draft.sid.isSome then none
        else (sid? m.2.inner).map fun sid => { draft with sid := some sid }
      else if name ∈ ["payload"] then
        if draft.payload.isSome then none
        else (m.2.inner.within (nesting - 1)).map fun payload =>
          { draft with payload := some payload }
      else
        some draft := by
  have htags : name ∈ ["type", "event"] ↔ name = "type" ∨ name = "event" := by simp
  unfold Json.Record.take?
  simp only [hname, Option.bind_some, field?_eq, htags, List.mem_singleton]
  by_cases htype : name = "type" ∨ name = "event"
  . simp only [if_pos htype]
    rfl
  by_cases hsid : name = "sid"
  . simp only [if_neg htype, if_pos hsid]
    rfl
  by_cases hpayload : name = "payload"
  . simp only [if_neg htype, if_neg hsid, if_pos hpayload]
    rfl
  . simp only [if_neg htype, if_neg hsid, if_neg hpayload]

/-- Members leave in each field what it gets from the members of its own name. -/
theorem foldlM_take {ms : List Member} {draft draft' : Draft}
    : ms.foldlM (record.take? take) draft = some draft'
        ↔
      (∀ m ∈ ms, m.name? ≠ none)
        ∧ settle tag? draft.event (named ["type", "event"] ms) = some draft'.event
        ∧ settle sid? draft.sid (named ["sid"] ms) = some draft'.sid
        ∧ settle (within (nesting - 1)) draft.payload (named ["payload"] ms)
            = some draft'.payload := by
  -- A member changes only the field that goes by its name, and is only counted for that one.
  induction ms generalizing draft with
  | nil =>
    cases draft
    cases draft'
    simp [settle, named]
  | cons m ms ih =>
    rw [List.foldlM_cons, List.forall_mem_cons]
    cases hname : m.name? with
    | none => simp [Json.Record.take?, hname]
    | some name =>
      obtain ⟨event, sid, payload⟩ := draft
      rw [take?_eq hname]
      simp only [named_cons hname]
      by_cases htype : name ∈ ["type", "event"]
      . have hsid : name ∉ ["sid"] := by rintro heq; simp_all
        have hpayload : name ∉ ["payload"] := by rintro heq; simp_all
        simp only [if_pos htype, if_neg hsid, if_neg hpayload]
        cases event with
        | some event => simp [settle]
        | none => cases htag : tag? m.2.inner <;> simp [settle, ih, htag]
      by_cases hsid : name ∈ ["sid"]
      . have hpayload : name ∉ ["payload"] := by rintro heq; simp_all
        simp only [if_neg htype, if_pos hsid, if_neg hpayload]
        cases sid with
        | some sid => simp [settle]
        | none => cases hvalue : sid? m.2.inner <;> simp [settle, ih, hvalue]
      by_cases hpayload : name ∈ ["payload"]
      . simp only [if_neg htype, if_neg hsid, if_pos hpayload]
        cases payload with
        | some payload => simp [settle]
        | none => cases hvalue : m.2.inner.within (nesting - 1) <;> simp [settle, ih, hvalue]
      . simp only [if_neg htype, if_neg hsid, if_neg hpayload]
        simp [ih]

end Frame

end LiveTopology
