import LiveTopology.Proofs.Bytes
import LiveTopology.Proofs.Feed.Accounts
import LiveTopology.Proofs.Keyed

/-!
This module contains that frames go to the handlers that were registered for their tags, whatever
tags these are, and that a table tells which tags it has handlers for.
-/

namespace LiveTopology

def Effect.call? {η : Type} : Effect η → Option (η × Json)
  | .call handler payload => some (handler, payload)
  | .log _ => none

theorem Notice.filterMap_call?_effects {η : Type} (notice : Notice η)
    : notice.effects.filterMap Effect.call? = notice.call?.toList := by
  cases notice with
  | called handler payload => rfl
  | connecting generation bound => cases bound <;> rfl
  | _ => rfl

/-- The handler that was registered last for a tag. -/
def registered? {η : Type} (pairs : List (String × η)) (tag : String) : Option η :=
  (pairs.findRev? fun (t, _) => t = tag).map Prod.snd

theorem isSome_registered?_iff {η : Type} (pairs : List (String × η)) (tag : String)
    : (registered? pairs tag).isSome = true ↔ tag ∈ pairs.map Prod.fst := by
  rw [registered?, List.findRev?_eq_find?_reverse, Option.isSome_map, List.find?_isSome]
  simp

namespace Routes

variable {η : Type}

def ofTags (pairs : List (String × η)) : Routes η :=
  .ofList (pairs.map fun (tag, handler) => (.ofTag tag, handler))

/-- The handlers by their tags. -/
def byTag (entries : List (EventKind × η)) : List (String × η) :=
  entries.map fun (kind, handler) => (kind.tag, handler)

/-- Whether every kind is the one that its tag stands for. -/
def IsParsed (entries : List (EventKind × η)) : Prop :=
  ∀ entry ∈ entries, EventKind.ofTag entry.1.tag = entry.1

theorem handler?_ofTags (pairs : List (String × η)) (tag : String)
    : (ofTags pairs).handler? (.ofTag tag) = registered? pairs tag := by
  have hsame (t : String) : decide (EventKind.ofTag t = EventKind.ofTag tag) = decide (t = tag) := by
    congr 1
    exact propext ⟨EventKind.ofTag_injective, congrArg _⟩
  unfold ofTags registered?
  rw [handler?_ofList, List.findRev?_eq_find?_reverse, List.findRev?_eq_find?_reverse,
    ← List.map_reverse, List.find?_map, Option.map_map]
  simp [Function.comp_def, hsame]

theorem contains_kinds (r : Routes η) (kind : EventKind)
    : r.kinds.contains kind = r.contains kind := by
  rw [Bool.eq_iff_iff, contains, handler?, Option.isSome_map, List.find?_isSome]
  simp [kinds]

/-- A table that goes by kinds is one that goes by tags, since no two kinds have the same tag. -/
theorem byTag_insert_go {entries : List (EventKind × η)} (h : IsParsed entries) (tag : String)
    (handler : η)
    : IsParsed (insert.go (.ofTag tag) handler entries)
        ∧ byTag (insert.go (.ofTag tag) handler entries)
          = Keyed.insert tag handler (byTag entries) := by
  induction entries with
  | nil => simp [IsParsed, insert.go, byTag, Keyed.insert]
  | cons entry rest ih =>
    obtain ⟨kind, other⟩ := entry
    obtain ⟨hkind, hrest⟩ := List.forall_mem_cons.1 h
    obtain ⟨hparsed, hmap⟩ := ih hrest
    have hentries : byTag ((kind, other) :: rest) = (kind.tag, other) :: byTag rest := rfl
    unfold insert.go
    rw [hentries, Keyed.insert, EventKind.tag_ofTag]
    by_cases heq : tag = kind.tag
    . have hsame : kind = .ofTag tag := heq ▸ hkind.symm
      rw [if_pos hsame, if_neg (heq ▸ String.lt_irrefl _), if_pos heq]
      refine ⟨List.forall_mem_cons.2 ⟨by simp, hrest⟩, ?_⟩
      simp [byTag]
    . have hother : kind ≠ .ofTag tag := by
        rintro rfl
        exact heq (EventKind.tag_ofTag tag).symm
      rw [if_neg hother, if_neg heq]
      by_cases hlt : tag < kind.tag
      . rw [if_pos hlt, if_pos hlt]
        refine ⟨List.forall_mem_cons.2 ⟨by simp, h⟩, ?_⟩
        simp [byTag]
      . rw [if_neg hlt, if_neg hlt, ← hmap]
        exact ⟨List.forall_mem_cons.2 ⟨hkind, hparsed⟩, rfl⟩

theorem byTag_ofTags (pairs : List (String × η))
    : IsParsed (ofTags pairs).entries ∧ byTag (ofTags pairs).entries = Keyed.ofList pairs := by
  have hfold (pairs : List (String × η)) : ∀ r : Routes η, IsParsed r.entries →
      let filled := (pairs.map fun (tag, handler) => (EventKind.ofTag tag, handler)).foldl
        (fun r (kind, handler) => r.insert kind handler) r
      IsParsed filled.entries
        ∧ byTag filled.entries
          = pairs.foldl (fun m (tag, handler) => Keyed.insert tag handler m) (byTag r.entries) := by
    induction pairs with
    | nil => exact fun r hr => ⟨hr, rfl⟩
    | cons pair pairs ih =>
      intro r hr
      obtain ⟨hparsed, hmap⟩ := byTag_insert_go hr pair.1 pair.2
      obtain ⟨hfilled, hlater⟩ := ih (r.insert (.ofTag pair.1) pair.2) hparsed
      refine ⟨hfilled, hlater.trans ?_⟩
      show pairs.foldl _ (byTag (insert.go _ _ r.entries)) = pairs.foldl _ (Keyed.insert _ _ _)
      rw [hmap]
  exact hfold pairs empty (by simp [IsParsed, empty])

/-- The tags of a table are in the order of their bytes. -/
theorem pairwise_tags (pairs : List (String × η))
    : ((ofTags pairs).kinds.map EventKind.tag).Pairwise
        fun s t => Bytes.ofText s < Bytes.ofText t := by
  have htags : (ofTags pairs).kinds.map EventKind.tag = (Keyed.ofList pairs).map Prod.fst := by
    rw [← (byTag_ofTags pairs).2]
    simp [kinds, byTag]
  rw [htags, List.pairwise_map]
  apply (Keyed.sorted_ofList pairs).imp
  exact Bytes.ofText_lt

theorem mem_tags_iff (pairs : List (String × η)) (tag : String)
    : tag ∈ (ofTags pairs).kinds.map EventKind.tag ↔ tag ∈ pairs.map Prod.fst := by
  have hkind : tag ∈ (ofTags pairs).kinds.map EventKind.tag
      ↔ EventKind.ofTag tag ∈ (ofTags pairs).kinds := by
    constructor
    . intro htag
      obtain ⟨kind, hkind, rfl⟩ := List.mem_map.1 htag
      obtain ⟨entry, hentry, rfl⟩ := List.mem_map.1 hkind
      rwa [(byTag_ofTags pairs).1 entry hentry]
    . intro hkind
      exact List.mem_map.2 ⟨_, hkind, EventKind.tag_ofTag tag⟩
  rw [hkind, ← List.contains_iff_mem, contains_kinds, contains, handler?_ofTags,
    isSome_registered?_iff]

end Routes

namespace Dispatcher

variable {η : Type}

/--
Gives frames to a dispatcher, one after another. Says of each of them whether it was handled, and
which handlers were called with which payloads.
-/
def serve (d : Dispatcher η) : List Frame → Dispatcher η × List (Bool × List (η × Json))
  | [] => (d, [])
  | frame :: frames =>
    let (handled, d, notice) := d.dispatch frame
    let (d, answers) := d.serve frames
    (d, (handled, notice.effects.filterMap Effect.call?) :: answers)

@[simp]
theorem handler?_count (d : Dispatcher η) (frame : Frame)
    : (d.count frame).handler? = d.handler? := by
  funext other
  rw [handler?, handler?, routes_count]

theorem serve_eq (d : Dispatcher η) (frames : List Frame)
    : d.serve frames
        =
      (frames.foldl count d,
        frames.map fun frame => ((d.handler? frame).isSome, (d.call? frame).toList)) := by
  induction frames generalizing d with
  | nil => rfl
  | cons frame frames ih =>
    simp only [serve, dispatch, ih, handler?_count, call?_congr (routes_count d frame),
      Notice.filterMap_call?_effects, call?_notice, List.foldl_cons, List.map_cons]

theorem bump_lt (n : Nat) : Count.bump n < UInt64.size := by
  have : 0 < UInt64.size := by decide
  unfold Count.bump
  omega

theorem min_bump_add (n k : Nat)
    : min (Count.bump n + k) (UInt64.size - 1) = min (n + (k + 1)) (UInt64.size - 1) := by
  unfold Count.bump
  omega

/-- The counters go up by one for each frame, until they have reached their greatest value. -/
theorem foldl_count_eq (d : Dispatcher η) (hdispatched : d.dispatched < UInt64.size)
    (hdropped : d.dropped < UInt64.size) (frames : List Frame)
    : (frames.foldl count d).dispatched
          = min (d.dispatched + frames.countP fun frame => (d.handler? frame).isSome)
            (UInt64.size - 1)
        ∧ (frames.foldl count d).dropped
          = min (d.dropped + frames.countP fun frame => (d.handler? frame).isNone)
            (UInt64.size - 1) := by
  induction frames generalizing d with
  | nil => constructor <;> (rw [List.foldl_nil, List.countP_nil]; omega)
  | cons frame frames ih =>
    have hlater := ih (d.count frame)
    rw [List.foldl_cons, List.countP_cons, List.countP_cons]
    simp only [handler?_count] at hlater
    cases hhandler : d.handler? frame with
    | none =>
      have hcount : d.count frame = { d with dropped := Count.bump d.dropped } := by
        simp only [count, hhandler]
      rw [hcount] at hlater ⊢
      obtain ⟨hfirst, hsecond⟩ := hlater hdispatched (bump_lt _)
      rw [hfirst, hsecond, min_bump_add]
      exact ⟨rfl, rfl⟩
    | some handler =>
      have hcount : d.count frame = { d with dispatched := Count.bump d.dispatched } := by
        simp only [count, hhandler]
      rw [hcount] at hlater ⊢
      obtain ⟨hfirst, hsecond⟩ := hlater (bump_lt _) hdropped
      rw [hfirst, hsecond, min_bump_add]
      exact ⟨rfl, rfl⟩

/-- What a table that was made of these registrations does with these frames, and what it tells. -/
structure Routed (pairs : List (String × η)) (frames : List Frame) (routes : Routes η)
    (d : Dispatcher η) (answers : List (Bool × List (η × Json))) : Prop where
  /-- A frame goes to the handler that was registered last for its tag, and to no other. -/
  answers : answers = frames.map fun frame =>
    ((registered? pairs frame.event).isSome,
      (registered? pairs frame.event).toList.map fun handler => (handler, frame.payload))
  dispatched : d.dispatched
    = min (frames.countP fun frame => (registered? pairs frame.event).isSome) (UInt64.size - 1)
  dropped : d.dropped
    = min (frames.countP fun frame => (registered? pairs frame.event).isNone) (UInt64.size - 1)
  bound : d.routes = routes
  registered : ∀ tag, (registered? pairs tag).isSome = true ↔ tag ∈ pairs.map Prod.fst
  contains : ∀ tag, routes.contains (.ofTag tag) = (registered? pairs tag).isSome
  handles : ∀ tag, routes.kinds.contains (.ofTag tag) = (registered? pairs tag).isSome
  increasing : (routes.kinds.map EventKind.tag).Pairwise fun s t => Bytes.ofText s < Bytes.ofText t
  tags : ∀ tag, tag ∈ routes.kinds.map EventKind.tag ↔ tag ∈ pairs.map Prod.fst
  size : (routes.kinds.map EventKind.tag).length = routes.size
  tag_ofTag : ∀ tag, (EventKind.ofTag tag).tag = tag
  injective : ∀ tag other, EventKind.ofTag tag = EventKind.ofTag other → tag = other

/-- Every frame goes where it belongs, whatever tags there are and how often they are registered. -/
theorem routed_run (pairs : List (String × η)) (frames : List Frame)
    : Routed pairs frames (.ofTags pairs) ((bind (.ofTags pairs)).serve frames).1
        ((bind (.ofTags pairs)).serve frames).2 := by
  have hhandler (frame : Frame)
      : (bind (.ofTags pairs)).handler? frame = registered? pairs frame.event :=
    Routes.handler?_ofTags pairs frame.event
  have hzero : 0 < UInt64.size := by decide
  have hcounters := foldl_count_eq (bind (.ofTags pairs)) hzero hzero frames
  simp only [hhandler] at hcounters
  rw [serve_eq]
  constructor
  case answers =>
    apply List.map_congr_left
    intro frame _
    rw [call?, hhandler]
    cases registered? pairs frame.event <;> rfl
  case dispatched => rw [hcounters.1, bind, Nat.zero_add]
  case dropped => rw [hcounters.2, bind, Nat.zero_add]
  case bound => exact routes_foldl_count _ frames
  case registered => exact isSome_registered?_iff pairs
  case contains =>
    intro tag
    rw [Routes.contains, Routes.handler?_ofTags]
  case handles =>
    intro tag
    rw [Routes.contains_kinds, Routes.contains, Routes.handler?_ofTags]
  case increasing => exact Routes.pairwise_tags pairs
  case tags => exact Routes.mem_tags_iff pairs
  case size => simp [Routes.kinds, Routes.size]
  case tag_ofTag => exact EventKind.tag_ofTag
  case injective => exact fun _ _ => EventKind.ofTag_injective

end Dispatcher

end LiveTopology
