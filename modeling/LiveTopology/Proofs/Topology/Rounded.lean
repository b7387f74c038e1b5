import LiveTopology.Proofs.Frame.Carried
import LiveTopology.Proofs.Topology.Board

/-!
This module contains that a topology is the same whether its frames come in texts or in binary
messages, but for the numbers, which binary messages round.
-/

namespace LiveTopology

namespace Json

theorem roundedItems_eq_map (items : List Json) : roundedItems items = items.map rounded := by
  induction items with
  | nil => rfl
  | cons item items ih =>
    unfold roundedItems
    rw [ih, List.map_cons]

theorem roundedMembers_eq_mapValues (members : List (String × Json))
    : roundedMembers members = Keyed.mapValues rounded members := by
  induction members with
  | nil => rfl
  | cons member members ih =>
    unfold roundedMembers
    rw [ih]
    rfl

variable (v : Json)

theorem member?_rounded (name : String)
    : v.rounded.member? name = (v.member? name).map rounded := by
  cases v with
  | object members =>
    show Keyed.get? name (roundedMembers members) = _
    rw [roundedMembers_eq_mapValues, Keyed.get?_mapValues]
    rfl
  | _ => rfl

theorem string?_rounded : v.rounded.string? = v.string? := by
  cases v <;> rfl

theorem items?_rounded : v.rounded.items? = v.items?.map (·.map rounded) := by
  cases v with
  | array items =>
    show some (roundedItems items) = _
    rw [roundedItems_eq_map]
    rfl
  | _ => rfl

end Json

namespace Model

def rounded (m : Model) : Model where
  controllers := Keyed.mapValues Json.rounded m.controllers
  devices := Keyed.mapValues Json.rounded m.devices
  links := Keyed.mapValues Json.rounded m.links
  hosts := Keyed.mapValues Json.rounded m.hosts
  summary := m.summary.map Json.rounded
  revision := m.revision

variable (m : Model) (kind : ElementKind) (id : String) (payload : Json)

theorem elements_rounded
    : m.rounded.elements kind = Keyed.mapValues Json.rounded (m.elements kind) := by
  cases kind <;> rfl

theorem get?_rounded : m.rounded.get? kind id = (m.get? kind id).map Json.rounded := by
  unfold get?
  rw [elements_rounded, Keyed.get?_mapValues]

theorem setElements_rounded (es : List (String × Json))
    : m.rounded.setElements kind (Keyed.mapValues Json.rounded es)
        =
      (m.setElements kind es).rounded := by
  cases kind <;> rfl

theorem put_rounded (element : Json)
    : m.rounded.put kind id element.rounded = (m.put kind id element).rounded := by
  unfold put
  rw [elements_rounded, Keyed.insert_mapValues, setElements_rounded]
  rfl

/-- An id is a text, which is never rounded. -/
theorem idOf?_rounded : idOf? payload.rounded = idOf? payload := by
  unfold idOf?
  rw [Json.member?_rounded, Option.bind_map]
  congr 1
  funext v
  apply Json.string?_rounded

theorem merge_rounded (old new : Json)
    : merge old.rounded new.rounded = (merge old new).rounded := by
  cases old with
  | object members =>
    cases new with
    | object fields =>
      unfold merge Json.rounded
      simp only [Json.roundedMembers_eq_mapValues]
      induction fields generalizing members with
      | nil => rfl
      | cons field fields ih =>
        show Json.object (List.foldl _ (Keyed.insert field.1 field.2.rounded _)
          (Keyed.mapValues Json.rounded fields)) = _
        rw [Keyed.insert_mapValues, ih, List.foldl_cons]
    | _ => rfl
  | _ => cases new <;> rfl

theorem upsert_rounded
    : m.rounded.upsert kind payload.rounded
        =
      ((m.upsert kind payload).1, (m.upsert kind payload).2.rounded) := by
  unfold upsert
  rw [idOf?_rounded]
  cases idOf? payload with
  | none => rfl
  | some id => simp only [put_rounded]

theorem update_rounded
    : m.rounded.update kind payload.rounded
        =
      ((m.update kind payload).1, (m.update kind payload).2.rounded) := by
  unfold update
  rw [idOf?_rounded]
  cases idOf? payload with
  | none => rfl
  | some id =>
    simp only [get?_rounded]
    cases m.get? kind id with
    | none => simp only [Option.map_none, put_rounded]
    | some old => simp only [Option.map_some, merge_rounded, put_rounded]

theorem remove_rounded
    : m.rounded.remove kind payload.rounded
        =
      ((m.remove kind payload).1, (m.remove kind payload).2.rounded) := by
  unfold remove
  rw [idOf?_rounded]
  cases idOf? payload with
  | none => rfl
  | some id =>
    simp only [get?_rounded, Option.isSome_map, elements_rounded, Keyed.erase_mapValues,
      setElements_rounded]
    split <;> rfl

theorem batch_rounded
    : batch payload.rounded = (batch payload).map fun p => (p.1, p.2.rounded) := by
  have hitems (kind : ElementKind)
      : batchItems payload.rounded kind = (batchItems payload kind).map Json.rounded := by
    unfold batchItems
    rw [Json.member?_rounded]
    cases payload.member? kind.batchKey with
    | none => rfl
    | some v =>
      simp only [Option.map_some, Option.bind_some, Json.items?_rounded]
      cases v.items? <;> rfl
  unfold batch
  simp only [hitems, List.map_flatMap, List.map_map, Function.comp_def]

theorem applyBatch_rounded
    : m.rounded.applyBatch payload.rounded
        =
      ((m.applyBatch payload).1, (m.applyBatch payload).2.rounded) := by
  unfold applyBatch
  rw [batch_rounded]
  generalize 0 = n
  induction batch payload generalizing m n with
  | nil => rfl
  | cons item items ih =>
    simp only [List.map_cons, List.foldl_cons, upsert_rounded]
    apply ih

theorem loadSnapshot_rounded
    : m.rounded.loadSnapshot payload.rounded
        =
      ((m.loadSnapshot payload).1, (m.loadSnapshot payload).2.rounded) := by
  unfold loadSnapshot
  rw [← applyBatch_rounded]
  rfl

end Model

def Panel.rounded (p : Panel) : Panel :=
  { p with content := p.content.rounded }

namespace PanelHost

def rounded (h : PanelHost) : PanelHost :=
  { h with panels := Keyed.mapValues Panel.rounded h.panels }

variable (h : PanelHost) (name : String)

theorem panel?_rounded : h.rounded.panel? name = (h.panel? name).map Panel.rounded := by
  apply Keyed.get?_mapValues

theorem create_rounded : h.rounded.create name = (h.create name).rounded := by
  have hinsert := Keyed.insert_mapValues Panel.rounded name h.panels ⟨false, .null⟩
  unfold create
  rw [rounded, rounded, ← hinsert]
  rfl

theorem setContent_rounded (content : Json)
    : h.rounded.setContent name content.rounded = (h.setContent name content).rounded := by
  unfold setContent rounded
  rw [Keyed.modify_mapValues]
  intro p
  rfl

theorem reveal_rounded : (h.rounded.reveal name).1 = (h.reveal name).1.rounded := by
  unfold reveal rounded
  rw [Keyed.modify_mapValues]
  intro p
  rfl

theorem hide_rounded : h.rounded.hide name = (h.hide name).rounded := by
  unfold hide rounded
  rw [Keyed.modify_mapValues]
  intro p
  rfl

end PanelHost

namespace Panels

def rounded (p : Panels) : Panels :=
  { p with host := p.host.rounded }

theorem ensure_rounded (p : Panels) (name : String)
    : p.rounded.ensure name = ((p.ensure name).1, (p.ensure name).2.rounded) := by
  have howns : p.rounded.owns name = p.owns name := rfl
  unfold ensure
  rw [howns]
  split
  . rfl
  . show (true, (⟨p.host.rounded.create name, _⟩ : Panels)) = _
    rw [PanelHost.create_rounded]
    rfl

/-- What is written to the log may tell the numbers, and is left out. -/
theorem act_rounded (p : Panels) (name : String) {f g : PanelHost → PanelHost × List Log.Record}
    (hfg : ∀ h, (f h.rounded).1 = (g h).1.rounded)
    : (p.rounded.act name f).2.1 = (p.act name g).2.1.rounded := by
  have howns : p.rounded.owns name = p.owns name := rfl
  unfold act
  rw [howns]
  split
  . show (⟨(f p.host.rounded).1, _⟩ : Panels) = _
    rw [hfg]
    rfl
  . rfl

end Panels

namespace Board

def rounded (b : Board) : Board :=
  ⟨b.model.rounded, b.panels.rounded⟩

variable (b : Board) (payload : Json)

theorem change_rounded (change : Change) (kind : ElementKind)
    : b.rounded.change change kind payload.rounded = (b.change change kind payload).rounded := by
  cases change with
  | add =>
    show (⟨(b.model.rounded.upsert kind payload.rounded).2, _⟩ : Board) = _
    rw [Model.upsert_rounded]
    rfl
  | update =>
    show (⟨(b.model.rounded.update kind payload.rounded).2, _⟩ : Board) = _
    rw [Model.update_rounded]
    rfl
  | remove =>
    show (⟨(b.model.rounded.remove kind payload.rounded).2, _⟩ : Board) = _
    rw [Model.remove_rounded]
    rfl

theorem showSummary_rounded
    : (b.rounded.showSummary payload.rounded).1 = (b.showSummary payload).1.rounded := by
  have hensure : (b.panels.rounded.ensure summaryPanel).2
      = (b.panels.ensure summaryPanel).2.rounded := by
    rw [Panels.ensure_rounded]
  have hact := (b.panels.ensure summaryPanel).2.act_rounded summaryPanel
    (f := fun host => (host.setContent summaryPanel payload.rounded).reveal summaryPanel)
    (g := fun host => (host.setContent summaryPanel payload).reveal summaryPanel)
    fun host => by rw [PanelHost.setContent_rounded, PanelHost.reveal_rounded]
  rw [← hensure] at hact
  unfold showSummary
  simp only [rounded]
  rw [hact]
  rfl

theorem hideSummary_rounded : b.rounded.hideSummary = b.hideSummary.rounded := by
  have hact := b.panels.act_rounded summaryPanel
    (f := fun host => (host.hide summaryPanel, [])) (g := fun host => (host.hide summaryPanel, []))
    fun host => PanelHost.hide_rounded host summaryPanel
  unfold hideSummary rounded
  simp only
  rw [hact]

theorem react_rounded (reaction : Reaction)
    : (b.rounded.react reaction payload.rounded).1 = (b.react reaction payload).1.rounded := by
  cases reaction with
  | loadSnapshot =>
    show (⟨(b.model.rounded.loadSnapshot payload.rounded).2, _⟩ : Board) = _
    rw [Model.loadSnapshot_rounded]
    rfl
  | applyBatch =>
    show (⟨(b.model.rounded.applyBatch payload.rounded).2, _⟩ : Board) = _
    rw [Model.applyBatch_rounded]
    rfl
  | change change kind => apply change_rounded
  | showSummary => apply showSummary_rounded
  | hideSummary => apply hideSummary_rounded

end Board

namespace Frame

/-- What is received of a frame that is sent in a binary message. -/
def hop? (frame : Frame) : Option Frame :=
  (ofBytes frame.toBytes).toOption

/-- A frame that binary messages can carry. -/
structure FitsMessage (frame : Frame) : Prop where
  proper : frame.payload.Proper
  depth_le : (Wire.Value.ofJson frame.payload).depth ≤ Wire.nesting
  size : frame.toBytes.length < UInt64.size

theorem FitsMessage.hop?_eq {frame : Frame} (h : frame.FitsMessage)
    : frame.hop? = if frame.event = "" then none else some frame.rounded := by
  unfold hop?
  rw [ofBytes_of_depth_le h.proper h.depth_le h.size]
  show (if frame.event = "" then Except.error Error.noEvent else .ok frame.rounded).toOption = _
  split <;> rfl

end Frame

namespace Desk

theorem routes_receiveAll (d : Desk) (frames : List Frame)
    : (d.receiveAll frames).dispatcher.routes = d.dispatcher.routes := by
  unfold receiveAll
  induction frames generalizing d with
  | nil => rfl
  | cons frame frames ih => rw [List.foldl_cons, ih, routes_receive]

/-- No handler is registered for frames without an event tag. -/
theorem handler?_of_event_eq_empty {d : Desk} (hroutes : d.dispatcher.routes = Board.routes)
    {frame : Frame} (h : frame.event = "")
    : d.dispatcher.handler? frame = none := by
  unfold Dispatcher.handler?
  rw [hroutes, Board.handler?_routes, h]
  decide

section Rounded

variable {d d' : Desk} (hroutes : d'.dispatcher.routes = d.dispatcher.routes)
include hroutes

theorem handler?_rounded (frame : Frame)
    : d'.dispatcher.handler? frame.rounded = d.dispatcher.handler? frame := by
  unfold Dispatcher.handler?
  rw [hroutes]
  rfl

theorem board_receive_rounded (hboard : d'.board = d.board.rounded) (frame : Frame)
    : (d'.receive frame.rounded).2.1.board = (d.receive frame).2.1.board.rounded := by
  rw [board_receive, board_receive, handler?_rounded hroutes, hboard]
  cases d.dispatcher.handler? frame with
  | none => rfl
  | some reaction => apply Board.react_rounded

theorem board_receiveAll_hop? (hboard : d'.board = d.board.rounded)
    (hown : d.dispatcher.routes = Board.routes) {frames : List Frame}
    (hframes : ∀ frame ∈ frames, frame.FitsMessage)
    : (d'.receiveAll (frames.filterMap Frame.hop?)).board
        =
      (d.receiveAll frames).board.rounded := by
  induction frames generalizing d d' with
  | nil => exact hboard
  | cons frame frames ih =>
    obtain ⟨hframe, hrest⟩ := List.forall_mem_cons.1 hframes
    show _ = ((d.receive frame).2.1.receiveAll frames).board.rounded
    have hown' : (d.receive frame).2.1.dispatcher.routes = Board.routes := by
      rw [routes_receive, hown]
    by_cases hevent : frame.event = ""
    . -- The frame does not come, and would have had no effect.
      have hhop : frame.hop? = none := by rw [hframe.hop?_eq, if_pos hevent]
      rw [List.filterMap_cons_none hhop]
      apply ih
      . rw [routes_receive, hroutes]
      . rw [board_receive, handler?_of_event_eq_empty hown hevent, hboard]
      . exact hown'
      . exact hrest
    . have hhop : frame.hop? = some frame.rounded := by rw [hframe.hop?_eq, if_neg hevent]
      rw [List.filterMap_cons_some hhop]
      show ((d'.receive frame.rounded).2.1.receiveAll _).board = _
      apply ih
      . rw [routes_receive, routes_receive, hroutes]
      . apply board_receive_rounded hroutes hboard
      . exact hown'
      . exact hrest

end Rounded

end Desk

/-- What `b'` has in common with `b` if it has received the same frames in binary messages. -/
structure Board.Follows (b b' : Board) : Prop where
  revision : b'.model.revision = b.model.revision
  ids : ∀ kind, (b'.model.elements kind).map Prod.fst = (b.model.elements kind).map Prod.fst
  elements : ∀ kind id, b'.model.get? kind id = (b.model.get? kind id).map Json.rounded
  summary : b'.model.summary = b.model.summary.map Json.rounded
  owned : b'.panels.owned = b.panels.owned
  visible : ∀ name, (b'.panels.host.panel? name).map Panel.visible
    = (b.panels.host.panel? name).map Panel.visible
  content : ∀ name, (b'.panels.host.panel? name).map Panel.content
    = (b.panels.host.panel? name).map fun p => p.content.rounded
  created : b'.panels.host.created = b.panels.host.created

theorem Board.follows_rounded (b : Board) : b.Follows b.rounded where
  revision := rfl
  ids kind := by
    show (b.model.rounded.elements kind).map Prod.fst = _
    rw [Model.elements_rounded, Keyed.keys_mapValues]
  elements kind id := b.model.get?_rounded kind id
  summary := rfl
  owned := rfl
  visible name := by
    show (b.panels.host.rounded.panel? name).map Panel.visible = _
    rw [PanelHost.panel?_rounded, Option.map_map]
    rfl
  content name := by
    show (b.panels.host.rounded.panel? name).map Panel.content = _
    rw [PanelHost.panel?_rounded, Option.map_map]
    rfl
  created := rfl

/-- Frames that come in binary messages have the same results as the frames that were sent, and
build the same topology, but for the numbers. Only those without an event tag do not come, and they
have no effect otherwise. -/
theorem Desk.follows_feed (frames : List Frame)
    (hframes : ∀ frame ∈ frames, frame.FitsMessage)
    : (∀ frame ∈ frames,
          frame.hop? = if frame.event = "" then none else some frame.rounded)
        ∧ ∀ before after, frames = before ++ after →
          ((on .empty).receiveAll before).board.Follows
              ((on .empty).receiveAll (before.filterMap Frame.hop?)).board
            ∧ ∀ frame ∈ after.head?,
              (((on .empty).receiveAll before).receive frame).1
                = frame.hop?.any fun hopped =>
                  (((on .empty).receiveAll (before.filterMap Frame.hop?)).receive hopped).1 := by
  refine ⟨fun frame hframe => (hframes frame hframe).hop?_eq, fun before after hsplit => ⟨?_, ?_⟩⟩
  . have hbefore : ∀ frame ∈ before, frame.FitsMessage := by
      intro frame hframe
      apply hframes
      rw [hsplit]
      exact List.mem_append_left _ hframe
    rw [board_receiveAll_hop? (d := on .empty) rfl rfl rfl hbefore]
    apply Board.follows_rounded
  . intro frame hhead
    have hframe : frame.FitsMessage := by
      apply hframes
      rw [hsplit]
      exact List.mem_append_right _ (List.mem_of_mem_head? hhead)
    have hroutes (frames : List Frame)
        : ((on .empty).receiveAll frames).dispatcher.routes = Board.routes := by
      rw [routes_receiveAll]
      rfl
    rw [hframe.hop?_eq, fst_receive]
    split
    . next hevent =>
      rw [handler?_of_event_eq_empty (hroutes before) hevent]
      rfl
    . rw [Option.any_some, fst_receive, handler?_rounded]
      rw [hroutes, hroutes]

/-- Frames with numbers that change on their way, and one without an event tag. -/
def mixedFeed : List Frame :=
  [⟨"addHost", some 1, .object [("id", .string "h"), ("load", .number (.float (Float.ofBits 0))),
      ("seen", .number (.int 9007199254740993))]⟩,
    ⟨"", none, .null⟩,
    ⟨"showSummary", none, .array [.number (.int 1), .bool true]⟩]

theorem Desk.follows_feed_mixed
    : (∀ frame ∈ mixedFeed, frame.FitsMessage)
        ∧ ((on .empty).receiveAll mixedFeed).board.Follows
          ((on .empty).receiveAll (mixedFeed.filterMap Frame.hop?)).board := by
  have hfits : ∀ frame ∈ mixedFeed, frame.FitsMessage := by
    unfold mixedFeed
    rw [List.forall_mem_cons, List.forall_mem_cons, List.forall_mem_singleton]
    refine ⟨⟨?_, by decide, by decide +kernel⟩, ⟨trivial, by decide, by decide +kernel⟩,
      ⟨⟨?_, trivial, trivial⟩, by decide, by decide +kernel⟩⟩
    . have hfloat : (Number.float (Float.ofBits 0)).Proper := by
        rfl
      have hint : (Number.int 9007199254740993).Proper := by
        unfold Number.Proper
        decide
      refine ⟨?_, trivial, hfloat, hint, trivial⟩
      unfold Keyed.Sorted
      decide
    . show -(2 ^ 63) ≤ (1 : Int) ∧ (1 : Int) < 2 ^ 64
      decide
  exact ⟨hfits, ((follows_feed mixedFeed hfits).2 mixedFeed [] (List.append_nil _).symm).1⟩

end LiveTopology
