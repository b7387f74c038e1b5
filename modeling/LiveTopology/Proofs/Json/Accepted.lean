import LiveTopology.Json.Record
import LiveTopology.Proofs.Json.Proper
import LiveTopology.Proofs.Keyed

/-!
This module contains what is true of everything that is read from a text: the values are proper ones
that nest no deeper than was asked for, and a record has what each of its fields gives it.
-/

namespace LiveTopology.Json

theorem properItems_iff {is : List Json} : ProperItems is ↔ ∀ i ∈ is, i.Proper := by
  induction is with
  | nil => simp [ProperItems]
  | cons i is ih => simp [ProperItems, ih]

theorem properMembers_iff {ms : List (String × Json)}
    : ProperMembers ms ↔ ∀ m ∈ ms, m.2.Proper := by
  induction ms with
  | nil => simp [ProperMembers]
  | cons m ms ih => simp [ProperMembers, ih]

theorem depthOfItems_le_iff {is : List Json} {d : Nat}
    : depthOfItems is ≤ d ↔ ∀ i ∈ is, i.depth ≤ d := by
  induction is with
  | nil => simp [depthOfItems]
  | cons i is ih => rw [depthOfItems, Nat.max_le, ih, List.forall_mem_cons]

theorem depthOfMembers_le_iff {ms : List (String × Json)} {d : Nat}
    : depthOfMembers ms ≤ d ↔ ∀ m ∈ ms, m.2.depth ≤ d := by
  induction ms with
  | nil => simp [depthOfMembers]
  | cons m ms ih => rw [depthOfMembers, Nat.max_le, ih, List.forall_mem_cons]

namespace Read

theorem bind_eq_ok {ε α β : Type} {x : Except ε α} {f : α → Except ε β} {b : β}
    (h : (x >>= f) = .ok b) : ∃ a, x = .ok a ∧ f a = .ok b := by
  cases x with
  | error e => contradiction
  | ok a => exact ⟨a, rfl, h⟩

theorem map_eq_ok {ε α β γ : Type} {x : Except ε (α × γ)} {f : α → β} {b : β} {c : γ}
    (h : (x >>= fun p => .ok (f p.1, p.2)) = .ok (b, c))
    : ∃ a, x = .ok (a, c) ∧ f a = b := by
  obtain ⟨⟨a, c'⟩, hx, heq⟩ := bind_eq_ok h
  injection heq with heq
  injection heq with hb hc
  exact ⟨a, hc ▸ hx, hb⟩

theorem eq_ok_of_toOption {ε α : Type} {x : Except ε α} {a : α} (h : x.toOption = some a)
    : x = .ok a := by
  cases x with
  | error e => contradiction
  | ok b => rw [Option.some.inj h]

theorem whole_of_read {α : Type} {reader : Reader α} {cs : List Char} {v : α}
    (h : reader cs = .ok (v, [])) : whole reader cs = .ok v := by
  unfold whole
  rw [h]
  rfl

theorem read_of_whole {α : Type} {reader : Reader α} {cs : List Char} {v : α}
    (h : whole reader cs = .ok v) : ∃ rest, reader cs = .ok (v, rest) := by
  obtain ⟨⟨v', rest⟩, hread, hrest⟩ := bind_eq_ok h
  simp only at hrest
  split at hrest
  . exact ⟨rest, Except.ok.inj hrest ▸ hread⟩
  . contradiction

theorem proper_of_numeral {n : Numeral} {int : Int} (h : n.value = .int int)
    : (Number.int int).Proper := by
  unfold Numeral.value at h
  simp only at h
  generalize (if n.negative = true then -(Decimal.ofDigits n.whole : Int)
    else Decimal.ofDigits n.whole) = i at h
  split at h
  . next hword =>
    injection h with hint
    simp only [Bool.and_eq_true] at hword
    have hword := hword.1.2
    rw [hint] at hword
    unfold isWord at hword
    rwa [Bool.and_eq_true, decide_eq_true_eq, decide_eq_true_eq] at hword
  . contradiction

theorem proper_of_finish {n : Numeral} {cs rest : List Char} {m : Number}
    (h : number.finish n cs = .ok (m, rest)) : m.Proper := by
  unfold number.finish at h
  split at h
  . next int heq =>
    injection h with h
    injection h with hnumber
    rw [← hnumber]
    exact proper_of_numeral heq
  . next x heq =>
    split at h
    . next hfinite =>
      injection h with h
      injection h with hnumber
      rw [← hnumber]
      exact hfinite
    . contradiction

theorem proper_of_exponent {negative : Bool} {whole fraction cs rest : List Char} {m : Number}
    (h : number.exponent negative whole fraction cs = .ok (m, rest)) : m.Proper := by
  unfold number.exponent at h
  split at h
  . exact proper_of_finish h
  . split at h
    . simp only at h
      split at h
      . contradiction
      . contradiction
      . split at h
        . contradiction
        . exact proper_of_finish h
    . exact proper_of_finish h

theorem proper_of_fraction {negative : Bool} {whole cs rest : List Char} {m : Number}
    (h : number.fraction negative whole cs = .ok (m, rest)) : m.Proper := by
  unfold number.fraction at h
  split at h
  . simp only at h
    split at h
    . contradiction
    . contradiction
    . exact proper_of_exponent h
  . exact proper_of_exponent h

theorem proper_of_number {negative : Bool} {cs rest : List Char} {m : Number}
    (h : number negative cs = .ok (m, rest)) : m.Proper := by
  unfold number at h
  split at h
  . contradiction
  . split at h
    . contradiction
    . exact proper_of_fraction h
  . split at h
    . exact proper_of_fraction h
    . contradiction

theorem proper_of_scalar {cs rest : List Char} {v : Json} (h : scalar cs = .ok (v, rest))
    (d : Nat)
    : v.Proper ∧ v.depth ≤ d := by
  have hnumber {negative : Bool} {cs : List Char}
      (h : (number negative cs >>= fun p => .ok (Json.number p.1, p.2)) = Except.ok (v, rest))
      : v.Proper ∧ v.depth ≤ d := by
    obtain ⟨n, hn, rfl⟩ := map_eq_ok (f := Json.number) h
    exact ⟨proper_of_number hn, Nat.zero_le d⟩
  unfold scalar at h
  split at h
  case h_1 => contradiction
  case h_5 =>
    obtain ⟨s, -, rfl⟩ := map_eq_ok (f := Json.string) h
    exact ⟨trivial, Nat.zero_le d⟩
  case h_6 => exact hnumber h
  case h_7 =>
    split at h
    . exact hnumber h
    . contradiction
  all_goals
    obtain ⟨after, -, heq⟩ := bind_eq_ok h
    injection heq with heq
    injection heq with hv
    rw [← hv]
    exact ⟨trivial, Nat.zero_le d⟩

theorem items_forall {α : Type} {P : α → Prop} {item : Reader α} {use : Use}
    (hitem : ∀ cs v rest, item cs = .ok (v, rest) → P v) (fuel : Nat) {first : Bool}
    {cs rest : List Char} {vs : List α} (h : items use item fuel first cs = .ok (vs, rest))
    : ∀ v ∈ vs, P v := by
  induction fuel generalizing first cs vs rest with
  | zero => contradiction
  | succ fuel ih =>
    obtain ⟨step, -, hstep⟩ := bind_eq_ok h
    cases step with
    | done after =>
      injection hstep with heq
      injection heq with hvs
      simp [← hvs]
    | more inside =>
      obtain ⟨⟨v, after⟩, hv, hrest⟩ := bind_eq_ok hstep
      obtain ⟨vs', hvs, rfl⟩ := map_eq_ok (f := (v :: ·)) hrest
      exact List.forall_mem_cons.2 ⟨hitem _ _ _ hv, ih hvs⟩

theorem members_forall {α ν : Type} {P : α → Prop} {name : Reader ν} {value : Reader α}
    {use : Use} (hvalue : ∀ cs v rest, value cs = .ok (v, rest) → P v) (fuel : Nat) {first : Bool}
    {cs rest : List Char} {ms : List (ν × α)}
    (h : members use name value fuel first cs = .ok (ms, rest))
    : ∀ m ∈ ms, P m.2 := by
  induction fuel generalizing first cs ms rest with
  | zero => contradiction
  | succ fuel ih =>
    obtain ⟨step, -, hstep⟩ := bind_eq_ok h
    cases step with
    | done after =>
      injection hstep with heq
      injection heq with hms
      simp [← hms]
    | more inside =>
      obtain ⟨⟨k, after⟩, -, hcolon⟩ := bind_eq_ok hstep
      obtain ⟨after', -, hmember⟩ := bind_eq_ok hcolon
      obtain ⟨⟨v, after''⟩, hv, hrest⟩ := bind_eq_ok hmember
      obtain ⟨ms', hms, rfl⟩ := map_eq_ok (f := ((k, v) :: ·)) hrest
      exact List.forall_mem_cons.2 ⟨hvalue _ _ _ hv, ih hms⟩

/-- A value that is read is a proper one, and nests no deeper than it may. -/
theorem proper_of_value {d : Nat} {cs rest : List Char} {v : Json}
    (h : value d cs = .ok (v, rest)) : v.Proper ∧ v.depth ≤ d := by
  induction d generalizing cs v rest with
  | zero =>
    unfold value at h
    split at h <;> try contradiction
    exact proper_of_scalar h _
  | succ d ih =>
    unfold value at h
    split at h <;> try contradiction
    . next heq _ =>
      injection heq with heq
      subst heq
      obtain ⟨is, his, rfl⟩ := map_eq_ok (f := Json.array) h
      have hall := items_forall (P := fun v => v.Proper ∧ v.depth ≤ d) (fun _ _ _ => ih) _ his
      refine ⟨properItems_iff.2 fun i hi => (hall i hi).1, Nat.succ_le_succ ?_⟩
      exact depthOfItems_le_iff.2 fun i hi => (hall i hi).2
    . next heq _ =>
      injection heq with heq
      subst heq
      obtain ⟨ms, hms, rfl⟩ := map_eq_ok (f := fun ms => Json.object (Keyed.ofList ms)) h
      have hall := members_forall (P := fun v => v.Proper ∧ v.depth ≤ d) (fun _ _ _ => ih) _ hms
      have hmem {m : String × Json} (hm : m ∈ Keyed.ofList ms) :=
        hall m (Keyed.mem_of_mem_ofList hm)
      refine ⟨⟨Keyed.sorted_ofList ms, properMembers_iff.2 fun m hm => (hmem hm).1⟩,
        Nat.succ_le_succ ?_⟩
      exact depthOfMembers_le_iff.2 fun m hm => (hmem hm).2
    . exact proper_of_scalar h _

end Read

namespace Record

variable {σ : Type} {r : Record σ} {P : σ → Prop} {record record' : σ} {cs rest : List Char}

/-- What every field of a record keeps when it is read. -/
def Keeps (P : σ → Prop) (fs : List (Field σ)) : Prop :=
  ∀ f ∈ fs, ∀ record cs record' rest,
    P record → f.read record cs = .ok (record', rest) → P record'

theorem of_readItems {fs : List (Field σ)} (hkeeps : Keeps P fs) {n : Nat} (hrecord : P record)
    (h : readItems r n record fs cs = .complete record' rest) : P record' := by
  induction fs generalizing n record cs with
  | nil =>
    injection h with heq
    exact heq ▸ hrecord
  | cons f fs ih =>
    have hfs : Keeps P fs := fun f hf => hkeeps f (List.mem_cons_of_mem _ hf)
    unfold readItems at h
    split at h
    . contradiction
    . split at h
      . contradiction
      . injection h with heq
        exact heq ▸ hrecord
    . split at h
      . contradiction
      . next heq => exact ih hfs (hkeeps f List.mem_cons_self _ _ _ _ hrecord heq) h

theorem of_complete (hrecord : P record) (h : complete r record cs = .complete record' rest)
    : P record' := by
  unfold complete at h
  split at h
  . contradiction
  . injection h with heq
    exact heq ▸ hrecord

theorem of_readMembers (hkeeps : Keeps P r.fields) {fuel : Nat} {first : Bool} (hrecord : P record)
    (h : readMembers r fuel first record cs = .complete record' rest) : P record' := by
  induction fuel generalizing first record cs with
  | zero => contradiction
  | succ fuel ih =>
    unfold readMembers at h
    split at h
    . contradiction
    . exact of_complete hrecord h
    . split at h
      . contradiction
      . split at h
        . next f hf =>
          split at h
          . contradiction
          . split at h
            . contradiction
            . next heq =>
              obtain ⟨after, -, hread⟩ := Read.bind_eq_ok heq
              have hmem : f ∈ r.fields := List.mem_of_find?_eq_some hf
              exact ih (hkeeps f hmem _ _ _ _ hrecord hread) h
        . split at h
          . contradiction
          . exact ih hrecord h

theorem complete_of_finish {close : List Char → Except Fault (List Char)} {ending : Ending σ}
    (h : finish close ending = .ok (record, rest)) : ∃ cs, ending = .complete record cs := by
  unfold finish at h
  split at h
  . next record' cs =>
    obtain ⟨after, -, heq⟩ := Read.bind_eq_ok h
    injection heq with heq
    injection heq with hrecord
    exact ⟨cs, hrecord ▸ rfl⟩
  . contradiction
  . split at h <;> contradiction

/-- What holds of a record without fields and is kept by each of them holds of what is read. -/
theorem of_read (hstart : P r.start) (hkeeps : Keeps P r.fields)
    (h : r.read cs = .ok (record, rest))
    : P record := by
  unfold read at h
  split at h
  . contradiction
  . obtain ⟨after, hitems⟩ := complete_of_finish h
    exact of_readItems hkeeps hstart hitems
  . obtain ⟨after, hmembers⟩ := complete_of_finish h
    exact of_readMembers hkeeps hstart hmembers
  . obtain ⟨p, -, heq⟩ := Read.bind_eq_ok h
    contradiction

end Record

end LiveTopology.Json
