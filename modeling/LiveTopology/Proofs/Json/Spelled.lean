import LiveTopology.Proofs.Json.Scalars

/-!
This module contains that a value is read, and passed over, in every way in which it can be written,
and that a record is read from its members in every order.
-/

namespace LiveTopology.Json.Read

open Spelling

theorem head_size (n : Spelling.Numeral) : ∃ c cs, n.size = c :: cs ∧ c.isDigit = true := by
  have hdigit := n.isWhole.isDigit
  have hne : n.whole ≠ [] := by
    rcases n.isWhole with h | h
    . simp [h]
    . obtain ⟨c, cs, hcs, -⟩ := h.head
      simp [hcs]
  obtain ⟨c, cs, hcs⟩ := List.exists_cons_of_ne_nil hne
  have hc : c.isDigit = true := by
    apply hdigit
    rw [hcs]
    exact List.mem_cons_self
  unfold Numeral.size
  rw [hcs]
  exact ⟨c, _, rfl, hc⟩

theorem head_number (n : Spelling.Numeral)
    : ∃ c cs, n.text = c :: cs ∧ isBlank c = false ∧ c ≠ ']' ∧ c ≠ '[' ∧ c ≠ '\x7b' ∧ c ≠ '"'
        ∧ c ≠ 'n' := by
  obtain ⟨c, cs, hcs, hc⟩ := head_size n
  unfold Numeral.text
  split
  . exact ⟨_, _, rfl, by decide⟩
  . exact ⟨c, cs, hcs, isBlank_of_isDigit hc, ne_of_isDigit hc rfl, ne_of_isDigit hc rfl,
      ne_of_isDigit hc rfl, ne_of_isDigit hc rfl, ne_of_isDigit hc rfl⟩

theorem opens_text (s : Spelling) : Opens s.text := by
  cases s with
  | number n =>
    obtain ⟨c, cs, hcs, hblank, hclose, -⟩ := head_number n
    exact ⟨c, cs, hcs, hblank, hclose⟩
  | bool b => cases b <;> exact ⟨_, _, rfl, rfl, by decide⟩
  | _ => exact ⟨_, _, rfl, rfl, by decide⟩

section Scalars

variable {c : Char} {cs : List Char}

theorem value_of_head (hblank : isBlank c = false) (harray : c ≠ '[') (hobject : c ≠ '\x7b')
    (d : Nat)
    : value d (c :: cs) = scalar (c :: cs) := by
  unfold value
  rw [blanks_cons hblank]
  split <;> simp_all

theorem skip_of_head (hblank : isBlank c = false) (harray : c ≠ '[') (hobject : c ≠ '\x7b')
    (d : Nat)
    : skip d (c :: cs) = skipScalar (c :: cs) := by
  unfold skip
  rw [blanks_cons hblank]
  split <;> simp_all

theorem skipScalar_of_isDigit (hc : c.isDigit = true)
    : skipScalar (c :: cs) = skipNumber (c :: cs) := by
  unfold skipScalar
  split
  case h_1 heq => contradiction
  case h_7 heq =>
    injection heq with hhead htail
    subst hhead htail
    rw [if_pos hc]
  all_goals
    next heq =>
      injection heq with hhead
      rw [hhead] at hc
      contradiction

theorem value_number (n : Spelling.Numeral) (d : Nat)
    : Reads (value d) n.text (n.value?.map .number) := by
  intro rest hrest
  have hread := number_size n hrest
  obtain ⟨c, cs, hcs, hc⟩ := head_size n
  unfold Numeral.text
  cases hnegative : n.negative with
  | true =>
    rw [hnegative] at hread
    show (value d ('-' :: (n.size ++ rest))).toOption = _
    rw [value_of_head rfl (by decide) (by decide)]
    show (number true (n.size ++ rest) >>= fun p => Except.ok (Json.number p.1, p.2)).toOption = _
    rw [toOption_bind, hread]
    cases n.value? <;> rfl
  | false =>
    rw [hnegative] at hread
    show (value d (n.size ++ rest)).toOption = _
    rw [hcs] at hread ⊢
    rw [List.cons_append] at hread ⊢
    rw [value_of_head (isBlank_of_isDigit hc) (ne_of_isDigit hc rfl) (ne_of_isDigit hc rfl),
      scalar_of_isDigit hc, toOption_bind, hread]
    cases n.value? <;> rfl

theorem skip_number (n : Spelling.Numeral) (d : Nat) : Reads (skip d) n.text (some ()) := by
  intro rest hrest
  have hread := skipNumber_size n hrest
  obtain ⟨c, cs, hcs, hc⟩ := head_size n
  unfold Numeral.text
  cases n.negative with
  | true =>
    show (skip d ('-' :: (n.size ++ rest))).toOption = _
    rw [skip_of_head rfl (by decide) (by decide)]
    show (skipNumber (n.size ++ rest)).toOption = _
    rw [hread]
    rfl
  | false =>
    show (skip d (n.size ++ rest)).toOption = _
    rw [hcs] at hread ⊢
    rw [List.cons_append] at hread ⊢
    rw [skip_of_head (isBlank_of_isDigit hc) (ne_of_isDigit hc rfl) (ne_of_isDigit hc rfl),
      skipScalar_of_isDigit hc, hread]
    rfl

theorem quoted_append (ps : List Piece) (rest : List Char)
    : quoted ps ++ rest = '"' :: (ps.flatMap Piece.text ++ '"' :: rest) := by
  simp [quoted]

theorem value_string (ps : List Piece) (d : Nat)
    : Reads (value d) (quoted ps) ((Piece.string? ps).map .string) := by
  intro rest hrest
  rw [quoted_append, value_of_head rfl (by decide) (by decide)]
  show (name _ >>= fun p => Except.ok (Json.string p.1, p.2)).toOption = _
  rw [toOption_bind, name_pieces]
  cases Piece.string? ps <;> rfl

theorem skip_string (ps : List Piece) (d : Nat) : Reads (skip d) (quoted ps) (some ()) := by
  intro rest hrest
  rw [quoted_append, skip_of_head rfl (by decide) (by decide)]
  show (skipString _).toOption = _
  rw [skipString_pieces]
  rfl

end Scalars

section Between

variable {use : Use} {first : Bool} {cs : List Char}

theorem nextItem_append (b : Blanks) (cs : List Char)
    : nextItem use first (b.text ++ cs) = nextItem use first cs := by
  unfold nextItem
  rw [blanks_append]

theorem nextName_append (b : Blanks) (cs : List Char)
    : nextName use first (b.text ++ cs) = nextName use first cs := by
  unfold nextName
  rw [blanks_append]

theorem nextItem_padded (h : Opens cs) (b : Blanks)
    : nextItem use false (',' :: (b.text ++ cs)) = .ok (.more cs) := by
  have hcomma (cs : List Char) : blanks (',' :: cs) = ',' :: cs := blanks_cons rfl cs
  rw [← nextItem_comma h use]
  unfold nextItem
  simp only [hcomma, blanks_append]

theorem nextName_padded (b : Blanks) (cs : List Char)
    : nextName use false (',' :: (b.text ++ '"' :: cs)) = .ok (.more cs) := by
  have hcomma (cs : List Char) : blanks (',' :: cs) = ',' :: cs := blanks_cons rfl cs
  have hquote : blanks ('"' :: cs) = '"' :: cs := blanks_cons rfl cs
  unfold nextName
  simp only [hcomma, blanks_append, hquote]

theorem colon_append (b : Blanks) (cs : List Char) : colon (b.text ++ ':' :: cs) = .ok cs := by
  have hcolon : blanks (':' :: cs) = ':' :: cs := blanks_cons rfl cs
  unfold colon
  simp only [blanks_append, hcolon]

/-- What follows an item or a member does not go on with its number. -/
theorem stops_listed (close : Char)
    (hclose : close.isDigit = false ∧ close ≠ '.' ∧ close ≠ 'e' ∧ close ≠ 'E')
    (ts : List (List Char)) (rest : List Char) : Stops (listed close false ts ++ rest) := by
  cases ts with
  | nil => exact stops_cons hclose rest
  | cons t ts => exact stops_cons (by decide) _

end Between

section Items

variable {α : Type} {item : Reader α} {value : Spelling → Option α} {use : Use} {fuel : Nat}

def itemsText (first : Bool) (is : List (Padded Spelling)) : List Char :=
  listed ']' first (is.map (Padded.text Spelling.text))

theorem text_array (inside : Blanks) (is : List (Padded Spelling)) (rest : List Char)
    : (Spelling.array inside is).text ++ rest
        =
      '[' :: (inside.text ++ (itemsText true is ++ rest)) := by
  simp [Spelling.text, textsOfItems_eq, itemsText]

theorem nextItem_end (first : Bool) (b : Blanks) (rest : List Char)
    : nextItem use first (b.text ++ (itemsText first [] ++ rest)) = .ok (.done (']' :: rest)) := by
  rw [nextItem_append]
  cases first <;> rfl

theorem nextItem_item (first : Bool) (b : Blanks) (i : Padded Spelling)
    (is : List (Padded Spelling)) (rest : List Char)
    : nextItem use first (b.text ++ (itemsText first (i :: is) ++ rest))
        =
      .ok (.more (i.inner.text ++ (i.after.text ++ (itemsText false is ++ rest)))) := by
  have hopens := (opens_text i.inner).append (i.after.text ++ (itemsText false is ++ rest))
  rw [nextItem_append]
  cases first with
  | true =>
    have htext : itemsText true (i :: is) ++ rest
        = i.before.text ++ (i.inner.text ++ (i.after.text ++ (itemsText false is ++ rest))) := by
      simp [itemsText, listed, Padded.text]
    rw [htext, nextItem_append, nextItem_first hopens]
  | false =>
    have htext : itemsText false (i :: is) ++ rest
        = ',' :: (i.before.text
          ++ (i.inner.text ++ (i.after.text ++ (itemsText false is ++ rest)))) := by
      simp [itemsText, listed, Padded.text]
    rw [htext, nextItem_padded hopens]

theorem items_item {i : Padded Spelling} (h : Reads item i.inner.text (value i.inner))
    {first : Bool} {cs after : List Char} (hafter : Stops after)
    (hnext : nextItem use first cs = .ok (.more (i.inner.text ++ (i.after.text ++ after))))
    : (items use item (fuel + 1) first cs).toOption
        =
      (value i.inner).bind fun v =>
        (items use item fuel false (i.after.text ++ after)).toOption.map fun q =>
          (v :: q.1, q.2) := by
  have hitems : items use item (fuel + 1) first cs
      = item (i.inner.text ++ (i.after.text ++ after)) >>= fun p =>
        items use item fuel false p.2 >>= fun q => .ok (p.1 :: q.1, q.2) := by
    simp only [items, hnext]
    rfl
  rw [hitems, toOption_bind, h _ (stops_append _ hafter)]
  cases value i.inner with
  | none => rfl
  | some v =>
    simp only [Option.map_some, Option.bind_some]
    cases items use item fuel false (i.after.text ++ after) <;> rfl

variable (value) in
/-- The items of an array are read one by one, whatever blanks stand between them. -/
theorem items_itemsText {is : List (Padded Spelling)}
    (h : ∀ i ∈ is, Reads item i.inner.text (value i.inner)) (hfuel : is.length < fuel)
    (first : Bool) (b : Blanks) (rest : List Char)
    : (items use item fuel first (b.text ++ (itemsText first is ++ rest))).toOption
        =
      (is.mapM fun i => value i.inner).map (·, rest) := by
  induction is generalizing fuel first b with
  | nil =>
    obtain ⟨fuel, rfl⟩ := Nat.exists_eq_add_of_lt hfuel
    exact congrArg Except.toOption (items_done (nextItem_end first b rest))
  | cons i is ih =>
    obtain ⟨hitem, hitems⟩ := List.forall_mem_cons.1 h
    have hstops := stops_listed ']' (by decide) (is.map (Padded.text Spelling.text)) rest
    cases fuel with
    | zero => contradiction
    | succ fuel =>
      rw [items_item hitem hstops (nextItem_item first b i is rest)]
      show ((value i.inner).bind fun v => (items use item fuel false
        (i.after.text ++ (itemsText false is ++ rest))).toOption.map _) = _
      rw [ih hitems (Nat.lt_of_succ_lt_succ hfuel), List.mapM_cons]
      cases value i.inner with
      | none => rfl
      | some v => cases is.mapM fun i => value i.inner <;> rfl

theorem length_lt_length_itemsText (b : Blanks) (is : List (Padded Spelling)) (rest : List Char)
    : is.length < (b.text ++ (itemsText true is ++ rest)).length + 1 := by
  have hlength := length_le_length_listed ']' true (is.map (Padded.text Spelling.text))
  rw [List.length_map] at hlength
  simp only [itemsText, List.length_append]
  omega

end Items

section Members

variable {α ν : Type} {name : Reader ν} {key : List Piece → Option ν} {value : Reader α}
  {kept : Spelling → Option α} {use : Use} {fuel : Nat}

def membersText (first : Bool) (ms : List Member) : List Char :=
  listed '\x7d' first (ms.map Member.text)

theorem text_object (inside : Blanks) (ms : List Member) (rest : List Char)
    : (Spelling.object inside ms).text ++ rest
        =
      '\x7b' :: (inside.text ++ (membersText true ms ++ rest)) := by
  simp [Spelling.text, textsOfMembers_eq, membersText]

/-- The text of a member behind the quote that opens its name. -/
def unquoted (m : Member) (after : List Char) : List Char :=
  m.1.inner.flatMap Piece.text ++ '"' :: (m.1.after.text ++ ':' :: (m.2.before.text
    ++ (m.2.inner.text ++ (m.2.after.text ++ after))))

theorem text_append (m : Member) (after : List Char)
    : m.text ++ after = m.1.before.text ++ '"' :: unquoted m after := by
  simp [Member.text, Padded.text, quoted, unquoted]

theorem nextName_end (first : Bool) (b : Blanks) (rest : List Char)
    : nextName use first (b.text ++ (membersText first [] ++ rest))
        =
      .ok (.done ('\x7d' :: rest)) := by
  rw [nextName_append]
  cases first <;> rfl

theorem nextName_member (first : Bool) (b : Blanks) (m : Member) (ms : List Member)
    (rest : List Char)
    : nextName use first (b.text ++ (membersText first (m :: ms) ++ rest))
        =
      .ok (.more (unquoted m (membersText false ms ++ rest))) := by
  rw [nextName_append]
  cases first with
  | true =>
    have htext : membersText true (m :: ms) ++ rest = m.text ++ (membersText false ms ++ rest) := by
      simp [membersText, listed]
    rw [htext, text_append, nextName_append]
    rfl
  | false =>
    have htext : membersText false (m :: ms) ++ rest
        = ',' :: (m.text ++ (membersText false ms ++ rest)) := by
      simp [membersText, listed]
    rw [htext, text_append, nextName_padded]

theorem stops_membersText (ms : List Member) (rest : List Char)
    : Stops (membersText false ms ++ rest) :=
  stops_listed '\x7d' (by decide) (ms.map Member.text) rest

theorem length_lt_length_membersText (b : Blanks) (ms : List Member) (rest : List Char)
    : ms.length < (b.text ++ (membersText true ms ++ rest)).length + 1 := by
  have hlength := length_le_length_listed '\x7d' true (ms.map Member.text)
  rw [List.length_map] at hlength
  simp only [membersText, List.length_append]
  omega

variable
  (hname : ∀ ps rest, (name (ps.flatMap Piece.text ++ '"' :: rest)).toOption = (key ps).map (·, rest))
  (hskips : Skips value)

include hname hskips

theorem members_member {m : Member} (h : Reads value m.2.inner.text (kept m.2.inner))
    {first : Bool} {cs after : List Char} (hafter : Stops after)
    (hnext : nextName use first cs = .ok (.more (unquoted m after)))
    : (members use name value (fuel + 1) first cs).toOption
        =
      (m.read? key kept).bind fun kv =>
        (members use name value fuel false (m.2.after.text ++ after)).toOption.map fun r =>
          (kv :: r.1, r.2) := by
  have hmembers : members use name value (fuel + 1) first cs
      = name (unquoted m after) >>= fun p => colon p.2 >>= fun cs => value cs >>= fun q =>
        members use name value fuel false q.2 >>= fun r => .ok ((p.1, q.1) :: r.1, r.2) := by
    simp only [members, hnext]
    rfl
  rw [hmembers, toOption_bind, unquoted, hname, Member.read?]
  cases key m.1.inner with
  | none => rfl
  | some k =>
    simp only [Option.map_some, Option.bind_some, colon_append, toOption_ok, toOption_bind,
      hskips.append]
    rw [h _ (stops_append _ hafter)]
    cases kept m.2.inner with
    | none => rfl
    | some v =>
      simp only [Option.map_some, Option.bind_some]
      cases members use name value fuel false (m.2.after.text ++ after) <;> rfl

variable (kept) in
theorem members_membersText {ms : List Member}
    (h : ∀ m ∈ ms, Reads value m.2.inner.text (kept m.2.inner)) (hfuel : ms.length < fuel)
    (first : Bool) (b : Blanks) (rest : List Char)
    : (members use name value fuel first (b.text ++ (membersText first ms ++ rest))).toOption
        =
      (ms.mapM (Member.read? key kept)).map (·, rest) := by
  induction ms generalizing fuel first b with
  | nil =>
    obtain ⟨fuel, rfl⟩ := Nat.exists_eq_add_of_lt hfuel
    exact congrArg Except.toOption (members_done (nextName_end first b rest))
  | cons m ms ih =>
    obtain ⟨hmember, hmembers⟩ := List.forall_mem_cons.1 h
    cases fuel with
    | zero => contradiction
    | succ fuel =>
      rw [members_member hname hskips hmember (stops_membersText ms rest)
        (nextName_member first b m ms rest), ih hmembers (Nat.lt_of_succ_lt_succ hfuel),
        List.mapM_cons]
      cases m.read? key kept with
      | none => rfl
      | some kv => cases ms.mapM (Member.read? key kept) <;> rfl

end Members

theorem skips_value (d : Nat) : Skips (value d) := by
  intro cs
  unfold value
  rw [blanks_blanks]

theorem skips_skip (d : Nat) : Skips (skip d) := by
  intro cs
  unfold skip
  rw [blanks_blanks]

/-- A value is read from its text, unless it nests too deep. -/
theorem value_text (s : Spelling) (d : Nat) : Reads (value d) s.text (s.within d) := by
  induction s generalizing d with
  | null =>
    intro rest _
    exact congrArg Except.toOption (value_of_head rfl (by decide) (by decide) d)
  | bool b =>
    intro rest _
    cases b <;> exact congrArg Except.toOption (value_of_head rfl (by decide) (by decide) d)
  | number n => exact value_number n d
  | string ps => exact value_string ps d
  | array inside is ih =>
    intro rest _
    cases d with
    | zero => rfl
    | succ d =>
      rw [text_array, within_array]
      show (items .kept (value d) _ true _
        >>= fun p => Except.ok (Json.array p.1, p.2)).toOption = _
      rw [toOption_bind, items_itemsText (within d) (fun i hi => ih i hi d)
        (length_lt_length_itemsText inside is rest)]
      cases is.mapM fun i => i.inner.within d <;> rfl
  | object inside ms ih =>
    intro rest _
    cases d with
    | zero => rfl
    | succ d =>
      rw [text_object, within_object]
      show (members .kept name (value d) _ true _
        >>= fun p => Except.ok (Json.object (Keyed.ofList p.1), p.2)).toOption = _
      rw [toOption_bind, members_membersText (within d) name_pieces (skips_value d)
        (fun m hm => ih m hm d) (length_lt_length_membersText inside ms rest)]
      cases ms.mapM (Member.read? Piece.string? (within d)) <;> rfl

/-- A value is passed over, whatever its names, strings and numbers stand for. -/
theorem skip_text (s : Spelling) (d : Nat) (hd : s.depth ≤ d)
    : Reads (skip d) s.text (some ()) := by
  induction s generalizing d with
  | null =>
    intro rest _
    exact congrArg Except.toOption (skip_of_head rfl (by decide) (by decide) d)
  | bool b =>
    intro rest _
    cases b <;> exact congrArg Except.toOption (skip_of_head rfl (by decide) (by decide) d)
  | number n => exact skip_number n d
  | string ps => exact skip_string ps d
  | array inside is ih =>
    intro rest _
    cases d with
    | zero => contradiction
    | succ d =>
      have hdepth := Spelling.depthOfItems_le_iff.1 (Nat.le_of_succ_le_succ hd)
      have hall : (is.mapM fun _ => some ()) = some (is.map fun _ => ()) := List.mapM_pure
      rw [text_array]
      show (items .ignored (skip d) _ true _ >>= fun p => Except.ok ((), p.2)).toOption = _
      rw [toOption_bind, items_itemsText (fun _ => some ())
        (fun i hi => ih i hi d (hdepth i hi)) (length_lt_length_itemsText inside is rest), hall]
      rfl
  | object inside ms ih =>
    intro rest _
    cases d with
    | zero => contradiction
    | succ d =>
      have hdepth := Spelling.depthOfMembers_le_iff.1 (Nat.le_of_succ_le_succ hd)
      have hname (ps : List Piece) (rest : List Char)
          : (skipString (ps.flatMap Piece.text ++ '"' :: rest)).toOption
            = (some ()).map (·, rest) := by
        rw [skipString_pieces]
        rfl
      have hall : ms.mapM (Member.read? (fun _ => some ()) fun _ => some ())
          = some (ms.map fun _ => ((), ())) :=
        List.mapM_pure
      rw [text_object]
      show (members .ignored skipString (skip d) _ true _
        >>= fun p => Except.ok ((), p.2)).toOption = _
      rw [toOption_bind, members_membersText (fun _ => some ()) hname (skips_skip d)
        (fun m hm => ih m hm d (hdepth m hm)) (length_lt_length_membersText inside ms rest), hall]
      rfl

end LiveTopology.Json.Read
