import LiveTopology.Proofs.Topology.Board

/-!
This module contains the replay of a topology for a single element. What the topology holds under an
id after any frames is found by going through those frames that address the element, and nothing
else that it holds has an influence on it.
-/

namespace LiveTopology

/-- What is known of an element after a frame, by what was known of it before. -/
def replay (kind : ElementKind) (id : String) (present : Option Json) (frame : Frame)
    : Option Json :=
  if frame.event = "topo.snapshot" then
    Model.listed? frame.payload kind id
  else if frame.event = "topo.update" then
    (Model.listed? frame.payload kind id).or present
  else if Model.idOf? frame.payload = some id then
    if frame.event = "add" ++ kind.word then
      some frame.payload
    else if frame.event = "update" ++ kind.word then
      some (present.elim frame.payload (Model.merge · frame.payload))
    else if frame.event = "remove" ++ kind.word then
      none
    else
      present
  else
    present

/-- Whether a frame is about an element. -/
def Frame.Addresses (frame : Frame) (kind : ElementKind) (id : String) : Prop :=
  frame.event = "topo.snapshot"
    ∨ frame.event = "topo.update"
        ∧ (∃ item ∈ Model.batchItems frame.payload kind, Model.idOf? item = some id)
    ∨ (∃ change : Change, frame.event = change.word ++ kind.word)
        ∧ Model.idOf? frame.payload = some id

/-- There is no element that both frames are about. -/
def Frame.Apart (frame other : Frame) : Prop :=
  ∀ kind id, ¬ (frame.Addresses kind id ∧ other.Addresses kind id)

namespace EventKind

/-- A replay by the kind of the event, in place of its tag. -/
def replay (kind : ElementKind) (id : String) (present : Option Json) (payload : Json)
    : EventKind → Option Json
  | .snapshot => Model.listed? payload kind id
  | .batch => (Model.listed? payload kind id).or present
  | .element change k =>
    if kind = k ∧ Model.idOf? payload = some id then
      match change with
      | .add => some payload
      | .update => some (present.elim payload (Model.merge · payload))
      | .remove => none
    else
      present
  | _ => present

end EventKind

theorem replay_eq (kind : ElementKind) (id : String) (present : Option Json) (frame : Frame)
    : replay kind id present frame
        =
      (EventKind.ofTag frame.event).replay kind id present frame.payload := by
  have hsnapshot := EventKind.eq_tag_iff .snapshot rfl frame.event
  have hbatch := EventKind.eq_tag_iff .batch rfl frame.event
  have hadd := EventKind.eq_tag_iff (.element .add kind) rfl frame.event
  have hupdate := EventKind.eq_tag_iff (.element .update kind) rfl frame.event
  have hremove := EventKind.eq_tag_iff (.element .remove kind) rfl frame.event
  simp only [EventKind.tag, Change.word] at hsnapshot hbatch hadd hupdate hremove
  unfold replay
  simp only [hsnapshot, hbatch, hadd, hupdate, hremove]
  cases EventKind.ofTag frame.event with
  | element change k =>
    by_cases hkind : kind = k
    . cases change <;> simp [EventKind.replay, hkind]
    . simp [EventKind.replay, hkind, Ne.symm hkind]
  | _ => simp [EventKind.replay]

theorem replay_of_not_addresses {frame : Frame} {kind : ElementKind} {id : String}
    (h : ¬ frame.Addresses kind id) (present : Option Json)
    : replay kind id present frame = present := by
  unfold Frame.Addresses at h
  simp only [not_or, not_and, not_exists] at h
  obtain ⟨hsnapshot, hbatch, hchange⟩ := h
  unfold replay
  rw [if_neg hsnapshot]
  split
  . next hevent =>
    have : Model.listed? frame.payload kind id = none := by
      unfold Model.listed?
      rw [List.findRev?_eq_find?_reverse, List.find?_eq_none]
      intro item hitem
      simpa using hbatch hevent item (List.mem_reverse.1 hitem)
    rw [this, Option.none_or]
  . split
    . next hid =>
      -- Each of the three events would make the frame one about the element.
      have hother : ∀ change : Change, frame.event ≠ change.word ++ kind.word := by
        intro change hevent
        apply hchange ⟨change, hevent⟩ hid
      have hadd : frame.event ≠ "add" ++ kind.word := hother .add
      have hupdate : frame.event ≠ "update" ++ kind.word := hother .update
      have hremove : frame.event ≠ "remove" ++ kind.word := hother .remove
      rw [if_neg hadd, if_neg hupdate, if_neg hremove]
    . rfl

theorem replay_comm {frame other : Frame} {kind : ElementKind} {id : String}
    (h : frame.Apart other) (present : Option Json)
    : replay kind id (replay kind id present frame) other
        =
      replay kind id (replay kind id present other) frame := by
  by_cases hframe : frame.Addresses kind id
  . have hother : ¬ other.Addresses kind id := fun hother => h kind id ⟨hframe, hother⟩
    rw [replay_of_not_addresses hother, replay_of_not_addresses hother]
  . rw [replay_of_not_addresses hframe, replay_of_not_addresses hframe]

theorem replay_snapshot {frame : Frame} (h : frame.event = "topo.snapshot") (kind : ElementKind)
    (id : String) (present present' : Option Json)
    : replay kind id present frame = replay kind id present' frame := by
  unfold replay
  rw [if_pos h, if_pos h]

theorem object_of_replay {kind : ElementKind} {id : String} {present : Option Json} {frame : Frame}
    (hpresent : ∀ element, present = some element → ∃ members, element = .object members)
    (element : Json) (h : replay kind id present frame = some element)
    : ∃ members, element = .object members := by
  have hlisted : ∀ item, Model.listed? frame.payload kind id = some item →
      ∃ members, item = .object members := by
    intro item hitem
    apply Model.object_of_idOf? id item
    apply Model.idOf?_of_listed? kind id frame.payload hitem
  unfold replay at h
  split at h
  . apply hlisted element h
  . split at h
    . rw [Option.or_eq_some_iff] at h
      cases h with
      | inl hitem => apply hlisted element hitem
      | inr hkept => apply hpresent element hkept.2
    . split at h
      . next hid =>
        obtain ⟨fields, hfields⟩ := Model.object_of_idOf? id frame.payload hid
        rw [hfields] at h
        split at h
        . exact ⟨fields, (Option.some.inj h).symm⟩
        . split at h
          . rw [← Option.some.inj h]
            cases present with
            | none => exact ⟨fields, rfl⟩
            | some old => apply Model.merge_object
          . split at h
            . contradiction
            . apply hpresent element h
      . apply hpresent element h

namespace Desk

theorem get?_receive (d : Desk) (hroutes : d.dispatcher.routes = Board.routes) (frame : Frame)
    (kind : ElementKind) (id : String)
    : (d.receive frame).2.1.board.model.get? kind id
        =
      replay kind id (d.board.model.get? kind id) frame := by
  rw [board_receive, replay_eq]
  unfold Dispatcher.handler?
  rw [hroutes, Board.handler?_routes]
  cases EventKind.ofTag frame.event with
  | snapshot => apply Model.get?_loadSnapshot
  | batch => apply Model.get?_applyBatch
  | showSummary => apply Model.get?_setSummary
  | hideSummary => rfl
  | other tag => rfl
  | element change k =>
    cases change with
    | add => apply Model.get?_upsert
    | update => apply Model.get?_update
    | remove => apply Model.get?_remove

theorem get?_receiveAll (d : Desk) (hroutes : d.dispatcher.routes = Board.routes)
    (frames : List Frame) (kind : ElementKind) (id : String)
    : (d.receiveAll frames).board.model.get? kind id
        =
      frames.foldl (replay kind id) (d.board.model.get? kind id) := by
  unfold receiveAll
  induction frames generalizing d with
  | nil => rfl
  | cons frame frames ih =>
    rw [List.foldl_cons, List.foldl_cons, ← get?_receive d hroutes]
    apply ih
    rw [routes_receive, hroutes]

end Desk

/-- The topology of a new board after it has received frames. -/
def shown (host : PanelHost) (frames : List Frame) : Model :=
  ((Desk.on host).receiveAll frames).board.model

theorem get?_shown (host : PanelHost) (frames : List Frame) (kind : ElementKind) (id : String)
    : (shown host frames).get? kind id = frames.foldl (replay kind id) none := by
  unfold shown
  rw [Desk.get?_receiveAll (Desk.on host) rfl]
  cases kind <;> rfl

theorem elements_shown_eq {host : PanelHost} {frames frames' : List Frame} {kind : ElementKind}
    (h : ∀ id, frames.foldl (replay kind id) none = frames'.foldl (replay kind id) none)
    : (shown host frames).elements kind = (shown host frames').elements kind := by
  have hordered : ∀ frames, (shown host frames).Ordered := by
    intro frames
    apply Desk.ordered_receiveAll
    apply Model.ordered_empty
  apply (hordered frames).elements_ext kind (hordered frames')
  intro id
  rw [get?_shown, get?_shown, h]

theorem object_of_get?_shown {host : PanelHost} {frames : List Frame} {kind : ElementKind}
    {id : String} {element : Json} (h : (shown host frames).get? kind id = some element)
    : ∃ members, element = .object members := by
  rw [get?_shown] at h
  have hstep : ∀ frames present,
      (∀ element, present = some element → ∃ members, element = .object members) →
        ∀ element, List.foldl (replay kind id) present frames = some element →
          ∃ members, element = .object members := by
    intro frames
    induction frames with
    | nil => exact fun _ hpresent => hpresent
    | cons frame frames ih =>
      intro present hpresent
      apply ih
      apply object_of_replay hpresent
  apply hstep frames none _ element h
  intro element hnone
  contradiction

/-- The topology is known element by element. An element is found by its member `id`, and those of a
batch in the array for their kind. A new object is put over an old one member by member, frames that
are about different elements may change places, and nothing stays from before a snapshot. -/
theorem shown_replay (host : PanelHost)
    : (∀ frames kind id, (shown host frames).get? kind id = frames.foldl (replay kind id) none)
      ∧ (∀ payload id, Model.idOf? payload = some id ↔ payload.member? "id" = some (.string id))
      ∧ (∀ payload kind, Model.batchItems payload kind =
          match payload.member? kind.batchKey with
          | some (.array items) => items
          | _ => [])
      ∧ (∀ frames kind id element, (shown host frames).get? kind id = some element →
          ∃ members, element = .object members)
      ∧ (∀ members fields name, Keyed.Sorted fields →
          (Model.merge (.object members) (.object fields)).member? name
            = ((Json.object fields).member? name).or ((Json.object members).member? name))
      ∧ (∀ (frame : Frame) kind id present, ¬ frame.Addresses kind id →
          replay kind id present frame = present)
      ∧ (∀ past future (frame other : Frame) kind, frame.Apart other →
          (shown host (past ++ frame :: other :: future)).elements kind
            = (shown host (past ++ other :: frame :: future)).elements kind)
      ∧ (∀ past past' future (frame : Frame) kind, frame.event = "topo.snapshot" →
          (shown host (past ++ frame :: future)).elements kind
            = (shown host (past' ++ frame :: future)).elements kind) := by
  refine ⟨?pointwise, ?id, ?batch, ?object, ?members, ?others, ?apart, ?snapshot⟩
  case pointwise => apply get?_shown
  case id => exact fun _ _ => Model.idOf?_eq_some_iff
  case batch => exact fun payload kind => Model.batchItems_eq kind payload
  case object =>
    intro frames kind id element
    apply object_of_get?_shown
  case members =>
    intro members fields name hsorted
    apply Model.member?_merge members fields name hsorted
  case others =>
    intro frame kind id present hframe
    apply replay_of_not_addresses hframe
  case apart =>
    intro past future frame other kind hapart
    apply elements_shown_eq
    intro id
    simp only [List.foldl_append, List.foldl_cons]
    rw [replay_comm hapart]
  case snapshot =>
    intro past past' future frame kind hsnapshot
    apply elements_shown_eq
    intro id
    simp only [List.foldl_append, List.foldl_cons]
    rw [replay_snapshot hsnapshot]

/-- A device that is listed twice beside an item without an id, and then updated, while there is news
of a link of the same id. Another device is gone with the snapshot. -/
def listedTwice : List Frame :=
  [⟨"addDevice", none, .object [("id", .string "b")]⟩,
    ⟨"topo.snapshot", none, .object [("devices", .array
      [.object [("id", .string "a"), ("up", .bool true)], .null,
        .object [("id", .string "a"), ("port", .number (.int 1)), ("up", .bool false)]])]⟩,
    ⟨"addLink", none, .object [("id", .string "a")]⟩,
    ⟨"updateDevice", some 0, .object [("id", .string "a"), ("up", .null)]⟩]

theorem shown_replay_listedTwice
    : (shown .empty listedTwice).get? .device "a"
          = some (.object [("id", .string "a"), ("port", .number (.int 1)), ("up", .null)])
        ∧ (shown .empty listedTwice).get? .device "b" = none := by
  obtain ⟨hpointwise, -⟩ := shown_replay .empty
  rw [hpointwise, hpointwise]
  exact ⟨by decide +kernel, by decide +kernel⟩

end LiveTopology
