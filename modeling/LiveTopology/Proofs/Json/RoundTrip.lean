import LiveTopology.Json.Record
import LiveTopology.Proofs.Json.Number
import LiveTopology.Proofs.Json.Strings
import LiveTopology.Proofs.Keyed

/-!
This module contains that a value is read from its text, if it does not nest too deep, and that the
members of an object are read as the fields of a record.
-/

namespace LiveTopology.Json.Read

/-- What begins neither with a blank nor with the end of an array. -/
def Opens (cs : List Char) : Prop :=
  ∃ c cs', cs = c :: cs' ∧ isBlank c = false ∧ c ≠ ']'

theorem blanks_cons {c : Char} (h : isBlank c = false) (cs : List Char)
    : blanks (c :: cs) = c :: cs := by
  simp [blanks, h]

theorem Opens.append {cs : List Char} (h : Opens cs) (rest : List Char) : Opens (cs ++ rest) := by
  obtain ⟨c, cs', rfl, hc⟩ := h
  exact ⟨c, cs' ++ rest, rfl, hc⟩

theorem nextItem_first {cs : List Char} (h : Opens cs) (use : Use)
    : nextItem use true cs = .ok (.more cs) := by
  obtain ⟨c, cs', rfl, hblank, hclose⟩ := h
  unfold nextItem
  rw [blanks_cons hblank]
  split <;> simp_all

theorem nextItem_comma {cs : List Char} (h : Opens cs) (use : Use)
    : nextItem use false (',' :: cs) = .ok (.more cs) := by
  obtain ⟨c, cs', rfl, hblank, hclose⟩ := h
  have hcomma : isBlank ',' = false := rfl
  unfold nextItem
  rw [blanks_cons hcomma]
  simp only
  rw [blanks_cons hblank]
  split <;> simp_all

section

variable {α ν : Type} {use : Use} {cs inside after rest : List Char} {first : Bool} {fuel : Nat}

theorem items_done {item : Reader α} (hnext : nextItem use first cs = .ok (.done (']' :: rest)))
    : items use item (fuel + 1) first cs = .ok ([], rest) := by
  simp [items, hnext, bind, Except.bind]

theorem items_more {item : Reader α} {v : α} {vs : List α}
    (hnext : nextItem use first cs = .ok (.more inside)) (hitem : item inside = .ok (v, after))
    (hitems : items use item fuel false after = .ok (vs, rest))
    : items use item (fuel + 1) first cs = .ok (v :: vs, rest) := by
  simp [items, hnext, hitem, hitems, bind, Except.bind]

theorem members_done {name : Reader ν} {value : Reader α}
    (hnext : nextName use first cs = .ok (.done ('\x7d' :: rest)))
    : members use name value (fuel + 1) first cs = .ok ([], rest) := by
  simp [members, hnext, bind, Except.bind]

theorem members_more {name : Reader ν} {value : Reader α} {k : ν} {v : α} {kvs : List (ν × α)}
    {cs' : List Char} (hnext : nextName use first cs = .ok (.more inside))
    (hname : name inside = .ok (k, ':' :: cs')) (hvalue : value cs' = .ok (v, after))
    (hmembers : members use name value fuel false after = .ok (kvs, rest))
    : members use name value (fuel + 1) first cs = .ok ((k, v) :: kvs, rest) := by
  have hcolon : colon (':' :: cs') = .ok cs' := rfl
  simp [members, hnext, hname, hcolon, hvalue, hmembers, bind, Except.bind]

end

theorem ne_of_isDigit {c d : Char} (hc : c.isDigit = true) (hd : d.isDigit = false) : c ≠ d := by
  intro heq
  rw [heq, hd] at hc
  contradiction

theorem isBlank_of_isDigit {c : Char} (hc : c.isDigit = true) : isBlank c = false := by
  have hspace := ne_of_isDigit hc (show ' '.isDigit = false from rfl)
  have hline := ne_of_isDigit hc (show '\n'.isDigit = false from rfl)
  have htab := ne_of_isDigit hc (show '\t'.isDigit = false from rfl)
  have hreturn := ne_of_isDigit hc (show '\r'.isDigit = false from rfl)
  simp [isBlank, hspace, hline, htab, hreturn]

theorem head_of_scalar {cs rest : List Char} {v : Json} (h : scalar cs = .ok (v, rest))
    : ∃ c cs', cs = c :: cs' ∧ isBlank c = false ∧ c ≠ ']' ∧ c ≠ '[' ∧ c ≠ '\x7b' := by
  unfold scalar at h
  split at h
  case h_1 => contradiction
  case h_7 c cs' _ _ _ _ _ =>
    split at h
    . next hc =>
      exact ⟨c, cs', rfl, isBlank_of_isDigit hc, ne_of_isDigit hc rfl, ne_of_isDigit hc rfl,
        ne_of_isDigit hc rfl⟩
    . contradiction
  all_goals exact ⟨_, _, rfl, by decide, by decide, by decide, by decide⟩

theorem value_of_scalar {cs rest : List Char} {v : Json} (h : scalar cs = .ok (v, rest))
    (depth : Nat)
    : value depth cs = .ok (v, rest) := by
  obtain ⟨c, cs', rfl, hblank, -, harray, hobject⟩ := head_of_scalar h
  unfold value
  rw [blanks_cons hblank]
  split <;> simp_all

theorem opens_of_scalar {cs rest : List Char} {v : Json} (h : scalar cs = .ok (v, rest))
    : Opens cs := by
  obtain ⟨c, cs', hcs, hblank, hclose, -⟩ := head_of_scalar h
  exact ⟨c, cs', hcs, hblank, hclose⟩

theorem scalar_string (s : String) (rest : List Char)
    : scalar (printString s ++ rest) = .ok (.string s, rest) := by
  obtain ⟨cs, hcs, hname⟩ := name_printString s rest
  rw [hcs]
  show (name cs >>= fun p => Except.ok (Json.string p.1, p.2)) = _
  rw [hname]
  rfl

/-- Whether a double is read from the text that is written for it, whatever follows. -/
structure Reread (x : Float) : Prop where
  opens : Opens (printFloat x)
  value : ∀ d rest, Stops rest →
    Read.value d (printFloat x ++ rest) = .ok (.number (.float x), rest)

theorem opens_print {v : Json} (hv : v.Proper) (hfloats : ∀ x ∈ v.floats, Reread x)
    : Opens v.print := by
  cases v with
  | null => exact ⟨_, _, rfl, rfl, by decide⟩
  | bool b => cases b <;> exact ⟨_, _, rfl, rfl, by decide⟩
  | number n =>
    cases n with
    | int n =>
      have := scalar_int hv stops_nil
      rw [List.append_nil] at this
      exact opens_of_scalar this
    | float x => exact (hfloats x (List.mem_singleton_self x)).opens
  | string s => exact ⟨_, _, rfl, rfl, by decide⟩
  | array items => cases items <;> exact ⟨_, _, rfl, rfl, by decide⟩
  | object members => cases members <;> exact ⟨_, _, rfl, rfl, by decide⟩

theorem stops_printItems (is : List Json) (rest : List Char) : Stops (printItems is ++ rest) := by
  cases is with
  | nil => exact stops_cons (by decide) rest
  | cons i is => exact stops_cons (by decide) _

theorem stops_printMembers (ms : List (String × Json)) (rest : List Char)
    : Stops (printMembers ms ++ rest) := by
  cases ms with
  | nil => exact stops_cons (by decide) rest
  | cons m ms => exact stops_cons (by decide) _

theorem length_lt_length_printItems (is : List Json) : is.length < (printItems is).length := by
  induction is with
  | nil => decide
  | cons i is ih =>
    simp only [printItems, List.length_cons, List.length_append]
    omega

theorem length_lt_length_printMembers (ms : List (String × Json))
    : ms.length < (printMembers ms).length := by
  induction ms with
  | nil => decide
  | cons m ms ih =>
    simp only [printMembers, List.length_cons, List.length_append]
    omega

theorem printMembers_cons (key : String) (v : Json) (ms : List (String × Json)) (rest : List Char)
    : ∃ inside, printMembers ((key, v) :: ms) ++ rest = ',' :: '"' :: inside
        ∧ name inside = .ok (key, ':' :: (v.print ++ (printMembers ms ++ rest))) := by
  obtain ⟨inside, hinside, hname⟩ :=
    name_printString key (':' :: (v.print ++ (printMembers ms ++ rest)))
  refine ⟨inside, ?_, hname⟩
  rw [← hinside]
  simp [printMembers]

theorem print_object_cons (key : String) (v : Json) (ms : List (String × Json)) (rest : List Char)
    : ∃ inside, (Json.object ((key, v) :: ms)).print ++ rest = '\x7b' :: '"' :: inside
        ∧ ms.length < inside.length + 1
        ∧ name inside = .ok (key, ':' :: (v.print ++ (printMembers ms ++ rest))) := by
  obtain ⟨inside, hinside, hname⟩ :=
    name_printString key (':' :: (v.print ++ (printMembers ms ++ rest)))
  refine ⟨inside, ?_, ?_, hname⟩
  . rw [← hinside]
    simp [print]
  . have hlength := length_lt_length_printMembers ms
    rw [← List.length_cons (a := '"'), ← hinside]
    simp only [List.length_append, List.length_cons]
    omega

theorem value_array {d : Nat} {cs rest : List Char} {is : List Json}
    (h : items .kept (value d) (cs.length + 1) true cs = .ok (is, rest))
    : value (d + 1) ('[' :: cs) = .ok (.array is, rest) := by
  show (items .kept (value d) (cs.length + 1) true cs
    >>= fun p => Except.ok (Json.array p.1, p.2)) = _
  rw [h]
  rfl

theorem value_object {d : Nat} {cs rest : List Char} {ms : List (String × Json)}
    (hsorted : Keyed.Sorted ms)
    (h : members .kept name (value d) (cs.length + 1) true cs = .ok (ms, rest))
    : value (d + 1) ('\x7b' :: cs) = .ok (.object ms, rest) := by
  show (members .kept name (value d) (cs.length + 1) true cs
    >>= fun p => Except.ok (Json.object (Keyed.ofList p.1), p.2)) = _
  rw [h]
  show Except.ok (Json.object (Keyed.ofList ms), rest) = _
  rw [Keyed.ofList_eq_self hsorted]

mutual

/-- A value is read back from its text if it does not nest too deep. -/
theorem value_print (v : Json) (hv : v.Proper) (d : Nat) (hdepth : v.depth ≤ d) (rest : List Char)
    (hrest : Stops rest) (hfloats : ∀ x ∈ v.floats, Reread x)
    : value d (v.print ++ rest) = .ok (v, rest) := by
  cases v with
  | null => exact value_of_scalar rfl d
  | bool b => cases b <;> exact value_of_scalar rfl d
  | number n =>
    cases n with
    | int n => exact value_of_scalar (scalar_int hv hrest) d
    | float x => exact (hfloats x (List.mem_singleton_self x)).value d rest hrest
  | string s => exact value_of_scalar (scalar_string s rest) d
  | array is =>
    unfold depth at hdepth
    unfold Proper at hv
    cases d with
    | zero => omega
    | succ d =>
      cases is with
      | nil => exact value_array (items_done rfl)
      | cons i is =>
        unfold ProperItems at hv
        unfold depthOfItems at hdepth
        obtain ⟨hfloat, hfloats⟩ := List.forall_mem_append.1 hfloats
        have hlength := length_lt_length_printItems is
        have hitem := value_print i hv.1 d (by omega) _ (stops_printItems is rest) hfloat
        have hopens := (opens_print hv.1 hfloat).append (printItems is ++ rest)
        rw [print, List.cons_append, List.append_assoc]
        apply value_array
        apply items_more (nextItem_first hopens _) hitem
        apply items_printItems is hv.2 d (by omega) _ _ rest hfloats
        simp only [List.length_append]
        omega
  | object ms =>
    unfold depth at hdepth
    unfold Proper at hv
    cases d with
    | zero => omega
    | succ d =>
      cases ms with
      | nil => exact value_object hv.1 (members_done rfl)
      | cons m ms =>
        obtain ⟨key, v⟩ := m
        obtain ⟨hsorted, hv⟩ := hv
        unfold ProperMembers at hv
        unfold depthOfMembers at hdepth
        obtain ⟨hfloat, hfloats⟩ := List.forall_mem_append.1 hfloats
        have hvalue := value_print v hv.1 d (by omega) _ (stops_printMembers ms rest) hfloat
        obtain ⟨inside, htext, hlength, hname⟩ := print_object_cons key v ms rest
        rw [htext]
        apply value_object hsorted
        apply members_more rfl hname hvalue
        exact members_printMembers ms hv.2 d (by omega) _ hlength rest hfloats

theorem items_printItems (is : List Json) (hv : ProperItems is) (d : Nat)
    (hdepth : depthOfItems is ≤ d) (fuel : Nat) (hfuel : is.length < fuel) (rest : List Char)
    (hfloats : ∀ x ∈ floatsOfItems is, Reread x)
    : items .kept (value d) fuel false (printItems is ++ rest) = .ok (is, rest) := by
  obtain ⟨fuel, rfl⟩ := Nat.exists_eq_add_of_lt (Nat.lt_of_le_of_lt (Nat.zero_le _) hfuel)
  cases is with
  | nil => exact items_done rfl
  | cons i is =>
    unfold ProperItems at hv
    unfold depthOfItems at hdepth
    obtain ⟨hfloat, hfloats⟩ := List.forall_mem_append.1 hfloats
    have hitem := value_print i hv.1 d (by omega) _ (stops_printItems is rest) hfloat
    have hopens := (opens_print hv.1 hfloat).append (printItems is ++ rest)
    rw [printItems, List.cons_append, List.append_assoc]
    apply items_more (nextItem_comma hopens _) hitem
    apply items_printItems is hv.2 d (by omega) _ _ rest hfloats
    simp only [List.length_cons] at hfuel
    omega

theorem members_printMembers (ms : List (String × Json)) (hv : ProperMembers ms) (d : Nat)
    (hdepth : depthOfMembers ms ≤ d) (fuel : Nat) (hfuel : ms.length < fuel) (rest : List Char)
    (hfloats : ∀ x ∈ floatsOfMembers ms, Reread x)
    : members .kept name (value d) fuel false (printMembers ms ++ rest) = .ok (ms, rest) := by
  obtain ⟨fuel, rfl⟩ := Nat.exists_eq_add_of_lt (Nat.lt_of_le_of_lt (Nat.zero_le _) hfuel)
  cases ms with
  | nil => exact members_done rfl
  | cons m ms =>
    obtain ⟨key, v⟩ := m
    unfold ProperMembers at hv
    unfold depthOfMembers at hdepth
    obtain ⟨hfloat, hfloats⟩ := List.forall_mem_append.1 hfloats
    have hvalue := value_print v hv.1 d (by omega) _ (stops_printMembers ms rest) hfloat
    obtain ⟨inside, htext, hname⟩ := printMembers_cons key v ms rest
    rw [htext]
    apply members_more rfl hname hvalue
    apply members_printMembers ms hv.2 d (by omega) _ _ rest hfloats
    simp only [List.length_cons] at hfuel
    omega

end

theorem proper_toNat (sid : UInt64) : (Number.int sid.toNat).Proper := by
  have := sid.toNat_lt
  constructor <;> omega

theorem found_of_scalar {cs rest : List Char} {n : Number}
    (h : scalar cs = .ok (.number n, rest)) : found (blanks cs) = .ok (.number n, rest) := by
  obtain ⟨c, cs', rfl, hblank, -, harray, hobject⟩ := head_of_scalar h
  rw [blanks_cons hblank]
  unfold found
  split
  . next heq => exact absurd (List.cons.inj heq).1 harray
  . next heq => exact absurd (List.cons.inj heq).1 hobject
  . rw [h]
    rfl

theorem option_word64 (sid : UInt64) {after : List Char} (hafter : Stops after)
    : option word64 ((Json.number (.int sid.toNat)).print ++ after) = .ok (some sid, after) := by
  have hproper := proper_toNat sid
  have hscalar : scalar ((Json.number (.int sid.toNat)).print ++ after) = _ :=
    scalar_int hproper hafter
  have hfound := found_of_scalar hscalar
  obtain ⟨c, cs, hcs, hc⟩ := head_of_number (number_toDigits hproper hafter)
  have hprint : (Json.number (.int sid.toNat)).print ++ after = c :: cs := by
    have hsign : ¬ (sid.toNat : Int) < 0 := by omega
    rw [← hcs]
    simp [Json.print, Number.print, Json.printInt, hsign]
  have hword : word64 (c :: cs) = .ok (sid, after) := by
    rw [hprint] at hfound
    have hsign : (0 : Int) ≤ sid.toNat := by omega
    simp only [word64, hfound, bind, Except.bind, hsign, if_true, Int.toNat_natCast,
      UInt64.ofNat_toNat]
  rw [hprint]
  unfold option
  rw [blanks_cons (isBlank_of_isDigit hc)]
  split
  . next heq => exact absurd (List.cons.inj heq).1 (ne_of_isDigit hc rfl)
  . rw [hword]
    rfl

end LiveTopology.Json.Read

namespace LiveTopology.Json.Record

open Read

variable {σ : Type} {r : Record σ} {f : Field σ} {record record' : σ} {key : String} {v : Json}

theorem readMembers_more {cs inside after rest : List Char} {first : Bool} (fuel : Nat)
    (hnext : nextName .kept first cs = .ok (.more inside))
    (hname : name inside = .ok (key, ':' :: after)) (hfield : r.field? key = some f)
    (hgiven : f.given record = false) (hread : f.read record after = .ok (record', rest))
    : readMembers r (fuel + 1) first record cs = readMembers r fuel false record' rest := by
  have hcolon : colon (':' :: after) >>= f.read record = .ok (record', rest) := hread
  simp only [readMembers, hnext, hname, hfield, hgiven, Bool.false_eq_true, if_false, hcolon]

/-- The members of an object are read one by one, as long as they are fields. -/
theorem readMembers_member (fuel : Nat) (ms : List (String × Json)) (rest : List Char)
    (hfield : r.field? key = some f) (hgiven : f.given record = false)
    (hread : ∀ after, Stops after → f.read record (v.print ++ after) = .ok (record', after))
    : readMembers r (fuel + 1) false record (printMembers ((key, v) :: ms) ++ rest)
        =
      readMembers r fuel false record' (printMembers ms ++ rest) := by
  obtain ⟨inside, htext, hname⟩ := printMembers_cons key v ms rest
  rw [htext]
  exact readMembers_more fuel rfl hname hfield hgiven (hread _ (stops_printMembers ms rest))

theorem readMembers_first (ms : List (String × Json)) (rest : List Char)
    (hfield : r.field? key = some f) (hgiven : f.given record = false)
    (hread : ∀ after, Stops after → f.read record (v.print ++ after) = .ok (record', after))
    : ∃ cs, (Json.object ((key, v) :: ms)).print ++ rest = '\x7b' :: cs
        ∧ ms.length < cs.length
        ∧ ∀ fuel, readMembers r (fuel + 1) true record cs
          =
        readMembers r fuel false record' (printMembers ms ++ rest) := by
  obtain ⟨inside, htext, hlength, hname⟩ := print_object_cons key v ms rest
  refine ⟨'"' :: inside, htext, hlength, fun fuel => ?_⟩
  exact readMembers_more fuel rfl hname hfield hgiven (hread _ (stops_printMembers ms rest))

theorem readMembers_done (fuel : Nat) (rest : List Char)
    (h : r.fields.find? (fun f => f.required && !f.given record) = none)
    : readMembers r (fuel + 1) false record (printMembers [] ++ rest)
        =
      .complete record ('\x7d' :: rest) := by
  show complete r record ('\x7d' :: rest) = _
  rw [complete, h]

end LiveTopology.Json.Record
