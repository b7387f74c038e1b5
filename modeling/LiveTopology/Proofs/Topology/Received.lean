import LiveTopology.Proofs.Feed.Drained
import LiveTopology.Proofs.Topology.Board

/-!
This module contains how the messages that a link receives reach a topology. Those that tell nothing
make no difference, and neither does when the reports of the others are handled.
-/

namespace LiveTopology

namespace Message

/-- Whether a link goes on after a message. -/
def passes : Message → Bool
  | .text _ | .binary _ | .control => true
  | .close | .finished | .error _ => false

def decoded? : Message → Option Frame
  | .text s => (Frame.ofText s).toOption
  | .binary bs => (Frame.ofBytes bs).toOption
  | _ => none

/-- Whether a message ends a link or brings a frame. -/
def tells (message : Message) : Bool :=
  !message.passes || message.decoded?.isSome

end Message

namespace Link

/-- The frames of all messages before one that ends the link. -/
def frames (messages : List Message) : List Frame :=
  (messages.takeWhile Message.passes).filterMap Message.decoded?

/-- The report that ends a link. A link without a message that ends it is closed at last. -/
def ending (messages : List Message) : LinkEvent :=
  match (messages.dropWhile Message.passes).head? with
  | some (.error reason) => .failed (.receive reason)
  | _ => .closed

theorem reports_cons_of_passes {message : Message} (h : message.passes = true)
    (messages : List Message)
    : (reports (message :: messages)).1
        =
      message.decoded?.toList.map .frame ++ (reports messages).1 := by
  cases message with
  | text s =>
    simp only [reports, Message.ending?, Message.frame?, Message.decoded?]
    cases Frame.ofText s <;> rfl
  | binary bs =>
    simp only [reports, Message.ending?, Message.frame?, Message.decoded?]
    cases Frame.ofBytes bs <;> rfl
  | control => rfl
  | close | finished | error => contradiction

theorem reports_cons_of_not_passes {message : Message} (h : message.passes = false)
    (messages : List Message)
    : (reports (message :: messages)).1 = [ending (message :: messages)] := by
  cases message with
  | text | binary | control => contradiction
  | close | finished | error => rfl

theorem reports_finished (messages : List Message)
    : (reports (messages ++ [.finished])).1
        =
      (frames messages).map .frame ++ [ending messages] := by
  induction messages with
  | nil => rfl
  | cons message messages ih =>
    cases h : message.passes with
    | true =>
      have hending : ending (message :: messages) = ending messages := by
        unfold ending
        rw [List.dropWhile_cons_of_pos h]
      rw [List.cons_append, reports_cons_of_passes h, ih, hending]
      unfold frames
      rw [List.takeWhile_cons_of_pos h, List.filterMap_cons]
      cases message.decoded? <;> rfl
    | false =>
      have hnot : ¬ message.passes = true := by simp [h]
      rw [List.cons_append, reports_cons_of_not_passes h]
      unfold frames ending
      rw [List.takeWhile_cons_of_neg hnot, List.dropWhile_cons_of_neg hnot,
        List.dropWhile_cons_of_neg hnot]
      rfl

/-- A message that tells nothing does not bring a frame, nor does it end the link. -/
theorem frames_and_ending_filter_tells (messages : List Message)
    : frames (messages.filter Message.tells) = frames messages
        ∧ ending (messages.filter Message.tells) = ending messages := by
  unfold frames ending
  induction messages with
  | nil => exact ⟨rfl, rfl⟩
  | cons message messages ih =>
    cases h : message.passes with
    | true =>
      cases hdecoded : message.decoded? with
      | none => simpa [Message.tells, h, hdecoded] using ih
      | some frame => simpa [Message.tells, h, hdecoded] using ih
    | false => simp [Message.tells, h]

end Link

namespace Board

/-- The feed of a board, with a link that was asked for. -/
def feed : Subscription Reaction :=
  (Subscription.fresh.bind routes).1.openSock.1

/-- What becomes of a board when a notice comes. -/
def heed : Board → Notice Reaction → Board :=
  Notice.heed fun b reaction payload => (b.react reaction payload).1

end Board

namespace Desk

theorem heed_notice (d : Desk) (frame : Frame)
    : d.board.heed (d.dispatcher.notice frame) = (d.receive frame).2.1.board := by
  rw [board_receive]
  unfold Board.heed Dispatcher.notice
  cases d.dispatcher.handler? frame <;> rfl

end Desk

namespace Subscription

theorem handle_frame {s : Subscription Reaction} {d : Desk} (hphase : s.phase = .opened)
    (htables : s.tables = [d.dispatcher]) (frame : Frame)
    : s.handle ⟨s.generation, .frame frame⟩
        =
      ({ s with tables := [d.dispatcher.count frame] },
        [.released s.generation frame, d.dispatcher.notice frame]) := by
  have hcurrent : s.isCurrent ⟨s.generation, .frame frame⟩ = true := by
    simp [isCurrent, hphase]
  unfold handle
  rw [if_pos hcurrent]
  simp only [accept, hphase, dispatch, htables]
  rfl

theorem handleAll_frames {s : Subscription Reaction} {d : Desk} (hphase : s.phase = .opened)
    (htables : s.tables = [d.dispatcher]) (frames : List Frame)
    : (s.handleAll (frames.map fun frame => ⟨s.generation, .frame frame⟩)).1
          = { s with tables := [(d.receiveAll frames).dispatcher] }
        ∧ (s.handleAll (frames.map fun frame => ⟨s.generation, .frame frame⟩)).2.foldl
            Board.heed d.board
          = (d.receiveAll frames).board := by
  induction frames generalizing s d with
  | nil =>
    refine ⟨?_, rfl⟩
    show s = { s with tables := [d.dispatcher] }
    rw [← htables]
  | cons frame frames ih =>
    obtain ⟨hstate, hboard⟩ := ih (s := { s with tables := [d.dispatcher.count frame] })
      (d := (d.receive frame).2.1) hphase (by rw [Desk.dispatcher_receive])
    rw [← Desk.heed_notice] at hboard
    simp only [List.map_cons, handleAll, handle_frame hphase htables, List.foldl_append,
      List.foldl_cons, List.foldl_nil]
    exact ⟨hstate, hboard⟩

/-- What a link reports last has no influence on the board. -/
theorem handle_ending {s : Subscription Reaction} (hphase : s.phase = .opened)
    (messages : List Message) (b : Board)
    : (s.handle ⟨s.generation, Link.ending messages⟩).1.tables = s.tables
        ∧ (s.handle ⟨s.generation, Link.ending messages⟩).2.foldl Board.heed b = b := by
  have hcurrent : s.isCurrent ⟨s.generation, Link.ending messages⟩ = true := by
    simp [isCurrent, hphase]
  unfold handle
  rw [if_pos hcurrent]
  unfold Link.ending
  split
  . exact ⟨rfl, rfl⟩
  . exact ⟨rfl, rfl⟩

theorem handleAll_reports {s : Subscription Reaction} {d : Desk} (hphase : s.phase = .opened)
    (htables : s.tables = [d.dispatcher]) (messages : List Message)
    : (s.handleAll ((Link.reports (messages ++ [.finished])).1.map (⟨s.generation, ·⟩))).1.tables
          = [(d.receiveAll (Link.frames messages)).dispatcher]
        ∧ (s.handleAll ((Link.reports (messages ++ [.finished])).1.map (⟨s.generation, ·⟩))).2.foldl
            Board.heed d.board
          = (d.receiveAll (Link.frames messages)).board := by
  -- The frames do all that is done to the board, and the link is given up after them.
  obtain ⟨hstate, hboard⟩ := handleAll_frames hphase htables (Link.frames messages)
  obtain ⟨htables, hlast⟩ := handle_ending
    (s := { s with tables := [(d.receiveAll (Link.frames messages)).dispatcher] })
    hphase messages (d.receiveAll (Link.frames messages)).board
  rw [Link.reports_finished, List.map_append, List.map_map]
  simp only [Function.comp_def, handleAll_append, List.foldl_append, hstate, hboard]
  simp only [List.map_cons, List.map_nil, handleAll, List.append_nil]
  exact ⟨htables, hlast⟩

theorem handleAll_run (messages : List Message) (host : PanelHost)
    : (Board.feed.handleAll ((Link.run (messages ++ [.finished])).map (⟨1, ·⟩))).1.tables
          = [((Desk.on host).receiveAll (Link.frames messages)).dispatcher]
        ∧ (Board.feed.handleAll ((Link.run (messages ++ [.finished])).map (⟨1, ·⟩))).2.foldl
            Board.heed (.on host)
          = ((Desk.on host).receiveAll (Link.frames messages)).board := by
  have hconnected : Board.feed.handle ⟨1, .connected⟩
      = ({ Board.feed with phase := .opened }, [.opened 1 0]) := rfl
  unfold Link.run
  simp only [List.map_cons, handleAll, hconnected, List.foldl_append]
  exact handleAll_reports (s := { Board.feed with phase := .opened }) (d := .on host) rfl rfl
    messages

end Subscription

/-- The messages that a link receives make it report their frames up to a message that ends it. The
topology becomes what these frames make of it, whenever the reports are handled, and other messages
make no difference. -/
theorem received_feed (messages : List Message) (host : PanelHost)
    : Link.run (messages ++ [.finished])
          = .connected :: (Link.frames messages).map .frame ++ [Link.ending messages]
        ∧ (∀ ops : List (Subscription.Op Reaction), (∀ op ∈ ops, op.isFeeding = true) →
          ops.filterMap Subscription.Op.sent?
              = (Link.run (messages ++ [.finished])).map (fun event => (0, event)) →
          (Board.feed.run ops).1.queue = [] →
          (Board.feed.run ops).1.tables
              = [((Desk.on host).receiveAll (Link.frames messages)).dispatcher]
            ∧ (Board.feed.run ops).2.foldl Board.heed (.on host)
              = ((Desk.on host).receiveAll (Link.frames messages)).board)
        ∧ ∀ messages', messages'.filter Message.tells = messages.filter Message.tells →
          Link.frames messages' = Link.frames messages
            ∧ Link.run (messages' ++ [.finished]) = Link.run (messages ++ [.finished]) := by
  have hrun (messages : List Message)
      : Link.run (messages ++ [.finished])
        = .connected :: (Link.frames messages).map .frame ++ [Link.ending messages] := by
    unfold Link.run
    rw [Link.reports_finished]
    rfl
  refine ⟨hrun messages, ?drained, ?told⟩
  case drained =>
    intro ops hops hsent hqueue
    obtain ⟨es, q, hes, heq⟩ := Subscription.drained_run (s := Board.feed) rfl hops
    have hempty : q = [] := by
      rw [← hqueue, heq]
      rfl
    -- The only link that was asked for has the first generation.
    have hstamp : Subscription.stamp? Board.feed.generations ∘ (fun event => (0, event))
        = some ∘ (⟨1, ·⟩) := rfl
    have hstamps : es = (Link.run (messages ++ [.finished])).map (⟨1, ·⟩) := by
      rw [hempty, List.append_nil, hsent, List.filterMap_map, hstamp, List.filterMap_eq_map] at hes
      exact hes
    obtain ⟨htables, hboard⟩ := Subscription.handleAll_run messages host
    rw [heq, hstamps]
    exact ⟨htables, hboard⟩
  case told =>
    intro messages' htells
    obtain ⟨hframes, hending⟩ := Link.frames_and_ending_filter_tells messages
    obtain ⟨hframes', hending'⟩ := Link.frames_and_ending_filter_tells messages'
    rw [htells] at hframes' hending'
    have hsame : Link.frames messages' = Link.frames messages := hframes'.symm.trans hframes
    refine ⟨hsame, ?_⟩
    rw [hrun, hrun, hsame, ← hending', hending]

/-- A frame among messages that tell nothing, and a message that comes too late. -/
def noisyMessages : List Message :=
  [.binary [255], .text "\x7b\"type\":\"addHost\",\"payload\":\x7b\"id\":\"h\"\x7d\x7d", .control,
    .text "", .close, .text "\x7b\"type\":\"topo.snapshot\"\x7d"]

/-- The reports about these messages, which are handled before the last one has come and after. -/
def scatteredHandling : List (Subscription.Op Reaction) :=
  [.next, .send 0 .connected, .send 0 (.frame ⟨"addHost", none, .object [("id", .string "h")]⟩),
    .next, .pump, .send 0 .closed, .next]

theorem received_feed_noisy
    : (∀ op ∈ scatteredHandling, op.isFeeding = true)
        ∧ scatteredHandling.filterMap Subscription.Op.sent?
          = (Link.run (noisyMessages ++ [.finished])).map (fun event => (0, event))
        ∧ (Board.feed.run scatteredHandling).1.queue = []
        ∧ (Board.feed.run scatteredHandling).1.tables
          = [((Desk.on .empty).receiveAll (Link.frames noisyMessages)).dispatcher] := by
  have hops : ∀ op ∈ scatteredHandling, op.isFeeding = true := by decide
  have hsent : scatteredHandling.filterMap Subscription.Op.sent?
      = (Link.run (noisyMessages ++ [.finished])).map (fun event => (0, event)) := by
    decide +kernel
  have hqueue : (Board.feed.run scatteredHandling).1.queue = [] := by decide +kernel
  exact ⟨hops, hsent, hqueue,
    ((received_feed noisyMessages .empty).2.1 scatteredHandling hops hsent hqueue).1⟩

end LiveTopology
