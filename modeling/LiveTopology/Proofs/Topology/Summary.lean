import LiveTopology.Proofs.Scene.Panels
import LiveTopology.Proofs.Since
import LiveTopology.Proofs.Topology.Board

/-!
This module contains that the summary, the panel that it is shown on and the panels that are owned
agree, whatever frames are received and whenever the panels are released.
-/

namespace LiveTopology

theorem EventKind.reaction?_injective {kind other : EventKind} {reaction : Reaction}
    (hkind : kind.reaction? = some reaction) (hother : other.reaction? = some reaction)
    : kind = other := by
  cases kind <;> cases other <;> grind [EventKind.reaction?]

namespace Board

/-- The panel for the summary is there if it is owned, and otherwise it is not. -/
def Matched (b : Board) : Prop :=
  b.panels.host.has summaryPanel = b.panels.owns summaryPanel

variable (b : Board) (payload : Json)

theorem panels_showSummary
    : (b.showSummary payload).1.panels
        =
      { (b.panels.ensure summaryPanel).2 with
        host := (((b.panels.ensure summaryPanel).2.host.setContent summaryPanel payload).reveal
          summaryPanel).1 } := by
  show ((b.panels.ensure summaryPanel).2.act summaryPanel fun host =>
    (host.setContent summaryPanel payload).reveal summaryPanel).2.1 = _
  rw [Panels.act_of_owns (b.panels.owns_ensure summaryPanel)]

theorem owns_showSummary : (b.showSummary payload).1.panels.owns summaryPanel = true := by
  rw [panels_showSummary]
  apply Panels.owns_ensure

theorem created_showSummary
    : (b.showSummary payload).1.panels.host.created
        =
      b.panels.host.created + (!b.panels.owns summaryPanel).toNat := by
  rw [panels_showSummary]
  apply Panels.created_ensure

theorem owns_hideSummary : b.hideSummary.panels.owns summaryPanel = b.panels.owns summaryPanel := by
  unfold hideSummary Panels.act
  split <;> rfl

theorem created_hideSummary : b.hideSummary.panels.host.created = b.panels.host.created := by
  unfold hideSummary Panels.act
  split <;> rfl

theorem react_of_ne {reaction : Reaction} (hshow : reaction ≠ .showSummary)
    (hhide : reaction ≠ .hideSummary)
    : (b.react reaction payload).1.panels = b.panels
        ∧ (b.react reaction payload).1.model.summary = b.model.summary := by
  cases reaction with
  | loadSnapshot => exact ⟨rfl, b.model.summary_loadSnapshot payload⟩
  | applyBatch => exact ⟨rfl, b.model.summary_applyBatch payload⟩
  | change change kind =>
    refine ⟨rfl, ?_⟩
    cases change with
    | add => apply Model.summary_upsert
    | update => apply Model.summary_update
    | remove => apply Model.summary_remove
  | showSummary => contradiction
  | hideSummary => contradiction

section Matched

variable {b} (h : b.Matched)
include h

theorem Matched.panel?_eq_none (howns : b.panels.owns summaryPanel = false)
    : b.panels.host.panel? summaryPanel = none := by
  rw [Matched, howns, PanelHost.has_eq] at h
  simpa using h

theorem Matched.panel?_showSummary
    : (b.showSummary payload).1.panels.host.panel? summaryPanel = some ⟨true, payload⟩ := by
  rw [panels_showSummary, PanelHost.panel?_reveal, PanelHost.panel?_setContent,
    Panels.panel?_ensure]
  cases howns : b.panels.owns summaryPanel with
  | true =>
    have hhas : (b.panels.host.panel? summaryPanel).isSome = true := h.trans howns
    obtain ⟨panel, hpanel⟩ := Option.isSome_iff_exists.1 hhas
    rw [hpanel]
    rfl
  | false => rfl

theorem Matched.panel?_hideSummary
    : b.hideSummary.panels.host.panel? summaryPanel
        =
      (b.panels.host.panel? summaryPanel).map fun p => { p with visible := false } := by
  unfold hideSummary
  cases howns : b.panels.owns summaryPanel with
  | true =>
    rw [Panels.act_of_owns howns]
    simp only [PanelHost.panel?_hide, if_true]
  | false =>
    rw [Panels.act_of_not_owns howns, h.panel?_eq_none howns]
    rfl

theorem Matched.react (reaction : Reaction) : (b.react reaction payload).1.Matched := by
  by_cases hshow : reaction = .showSummary
  . subst hshow
    show (b.showSummary payload).1.Matched
    rw [Matched, PanelHost.has_eq, h.panel?_showSummary, owns_showSummary]
    rfl
  . by_cases hhide : reaction = .hideSummary
    . subst hhide
      show b.hideSummary.Matched
      rw [Matched, PanelHost.has_eq, h.panel?_hideSummary, owns_hideSummary, Option.isSome_map]
      exact h
    . rw [Matched, (b.react_of_ne payload hshow hhide).1]
      exact h

theorem Matched.panel?_release : b.panels.release.2.host.panel? summaryPanel = none := by
  rw [Panels.panel?_release]
  split
  . rfl
  . next howns =>
    apply h.panel?_eq_none
    simpa using howns

end Matched

end Board

namespace Desk

/-- What is done with a desk, or directly on its host. -/
inductive Op where
  | receive (frame : Frame)
  | release
  | onHost (op : PanelHost.Op)
  deriving DecidableEq, Repr

namespace Op

/-- The summary that is to be shown. -/
def shown? : Op → Option Json
  | .receive frame => if frame.event = "showSummary" then some frame.payload else none
  | _ => none

def shows (op : Op) : Bool :=
  op.shown?.isSome

def hides : Op → Bool
  | .receive frame => frame.event = "hideSummary"
  | _ => false

/-- Whether a panel is created by others. -/
def creates : Op → Bool
  | .onHost op => op.isCreation
  | _ => false

/-- Whether others leave the panel for the summary alone. -/
def isApart : Op → Bool
  | .onHost op => op.name ≠ summaryPanel
  | _ => true

end Op

def step (d : Desk) : Op → Desk
  | .receive frame => (d.receive frame).2.1
  | .release => d.release.2
  | .onHost op => d.onHost fun host => host.step op

def run (d : Desk) (ops : List Op) : Desk :=
  ops.foldl step d

/-- How many summaries are to be shown while the panel for them is not owned. -/
def firstShows (d : Desk) : List Op → Nat
  | [] => 0
  | op :: ops =>
    (op.shows && !d.board.panels.owns summaryPanel).toNat + (d.step op).firstShows ops

/-- A new desk on `host` after all that was done. -/
def reached (host : PanelHost) (ops : List Op) : Desk :=
  (Desk.on host).run ops

theorem reached_concat (host : PanelHost) (ops : List Op) (op : Op)
    : reached host (ops ++ [op]) = (reached host ops).step op := by
  unfold reached run
  rw [List.foldl_append]
  rfl

theorem countP_creates_concat (ops : List Op) (op : Op)
    : (ops ++ [op]).countP Op.creates = ops.countP Op.creates + op.creates.toNat := by
  rw [List.countP_append]
  cases hcreates : op.creates <;> simp [hcreates]

theorem firstShows_concat (d : Desk) (ops : List Op) (op : Op)
    : d.firstShows (ops ++ [op])
        =
      d.firstShows ops
        + (op.shows && !(d.run ops).board.panels.owns summaryPanel).toNat := by
  induction ops generalizing d with
  | nil => simp [firstShows, run]
  | cons first ops ih =>
    have hrun : d.run (first :: ops) = (d.step first).run ops := rfl
    simp only [List.cons_append, firstShows, ih, hrun, Nat.add_assoc]

theorem routes_reached (host : PanelHost) (ops : List Op)
    : (reached host ops).dispatcher.routes = Board.routes := by
  induction ops using List.reverseRecOn with
  | nil => rfl
  | append_singleton ops op ih =>
    rw [reached_concat, ← ih]
    cases op with
    | receive frame => apply routes_receive
    | release => rfl
    | onHost op => rfl

/-- What is known of the summary in all places where something is known of it. -/
structure InStep (host : PanelHost) (ops : List Op) (d : Desk) : Prop where
  matched : d.board.panels.host.has summaryPanel = d.board.panels.owns summaryPanel
  owned : d.board.panels.owns summaryPanel = true
    ↔ Since (fun _ op => op.shows = true) (fun op => op = .release) ops
  content : ∀ panel, d.board.panels.host.panel? summaryPanel = some panel →
    d.board.model.summary = some panel.content
  /-- A panel is visible if, of all that was to be shown or hidden on it, the last was shown. -/
  visible : ∀ panel, d.board.panels.host.panel? summaryPanel = some panel →
    (panel.visible = true
      ↔ Since (fun _ op => op.shows = true) (fun op => op.hides = true ∨ op = .release) ops)
  without : d.board.model.summary = none → d.board.panels.host.has summaryPanel = false
  created : d.board.panels.host.created
    = host.created + ops.countP Op.creates + (Desk.on host).firstShows ops
  summary : d.board.model.summary = (ops.filterMap Op.shown?).getLast?

section InStep

variable {host : PanelHost} {ops : List Op} (h : InStep host ops (reached host ops))
include h

/-- Nothing changes by what is not about the summary. -/
theorem InStep.idle {op : Op} (hshows : op.shown? = none) (hhides : op.hides = false)
    (hrelease : op ≠ .release) {d : Desk}
    (howns : d.board.panels.owns summaryPanel = (reached host ops).board.panels.owns summaryPanel)
    (hpanel : d.board.panels.host.panel? summaryPanel
      = (reached host ops).board.panels.host.panel? summaryPanel)
    (hsummary : d.board.model.summary = (reached host ops).board.model.summary)
    (hcreated : d.board.panels.host.created
      = (reached host ops).board.panels.host.created + op.creates.toNat)
    : InStep host (ops ++ [op]) d := by
  have hnot : op.shows = false := by simp [Op.shows, hshows]
  constructor
  case matched => rw [PanelHost.has_eq, hpanel, howns, ← h.matched, PanelHost.has_eq]
  case owned =>
    rw [howns, h.owned, since_concat]
    simp [hnot, hrelease]
  case content =>
    rw [hpanel, hsummary]
    exact h.content
  case visible =>
    rw [hpanel]
    intro panel hsome
    rw [h.visible panel hsome, since_concat]
    simp [hnot, hhides, hrelease]
  case without =>
    rw [PanelHost.has_eq, hpanel, hsummary]
    exact h.without
  case created =>
    rw [hcreated, h.created, firstShows_concat, hnot, countP_creates_concat]
    show _ = _ + (_ + 0)
    omega
  case summary =>
    rw [hsummary, h.summary, List.filterMap_append]
    simp [hshows]

theorem InStep.showSummary {frame : Frame} (hframe : frame.event = "showSummary") {d : Desk}
    (hboard : d.board = ((reached host ops).board.showSummary frame.payload).1)
    : InStep host (ops ++ [.receive frame]) d := by
  have hshown : (Op.receive frame).shown? = some frame.payload := if_pos hframe
  have hshows : (Op.receive frame).shows = true := by
    unfold Op.shows
    rw [hshown]
    rfl
  have hmatched : (reached host ops).board.Matched := h.matched
  have hpanel := hmatched.panel?_showSummary frame.payload
  constructor
  case matched =>
    rw [hboard]
    apply hmatched.react frame.payload .showSummary
  case owned =>
    rw [hboard, Board.owns_showSummary, since_concat]
    simp [hshows]
  case content =>
    rw [hboard, hpanel]
    intro panel hsome
    rw [← Option.some.inj hsome]
    rfl
  case visible =>
    rw [hboard, hpanel]
    intro panel hsome
    rw [← Option.some.inj hsome, since_concat]
    simp [hshows]
  case without =>
    rw [hboard]
    intro hnone
    contradiction
  case created =>
    rw [hboard, Board.created_showSummary, h.created, firstShows_concat, countP_creates_concat,
      hshows, Bool.true_and, Nat.add_assoc]
    rfl
  case summary =>
    rw [hboard, List.filterMap_append]
    simp only [List.filterMap_cons, List.filterMap_nil, hshown, List.getLast?_concat]
    rfl

theorem InStep.hideSummary {frame : Frame} (hframe : frame.event = "hideSummary") {d : Desk}
    (hboard : d.board = (reached host ops).board.hideSummary)
    : InStep host (ops ++ [.receive frame]) d := by
  have hnot : frame.event ≠ "showSummary" := by simp [hframe]
  have hshown : (Op.receive frame).shown? = none := if_neg hnot
  have hshows : (Op.receive frame).shows = false := by
    unfold Op.shows
    rw [hshown]
    rfl
  have hhides : (Op.receive frame).hides = true := decide_eq_true hframe
  have hmatched : (reached host ops).board.Matched := h.matched
  constructor
  case matched =>
    rw [hboard]
    apply hmatched.react frame.payload .hideSummary
  case owned =>
    rw [hboard, Board.owns_hideSummary, h.owned, since_concat]
    simp [hshows]
  case content =>
    rw [hboard, hmatched.panel?_hideSummary]
    intro panel hsome
    obtain ⟨shown, hbefore, rfl⟩ := Option.map_eq_some_iff.1 hsome
    exact h.content shown hbefore
  case visible =>
    rw [hboard, hmatched.panel?_hideSummary]
    intro panel hsome
    obtain ⟨shown, -, rfl⟩ := Option.map_eq_some_iff.1 hsome
    rw [since_concat]
    simp [hshows, hhides]
  case without =>
    rw [hboard, PanelHost.has_eq, hmatched.panel?_hideSummary, Option.isSome_map]
    exact h.without
  case created =>
    rw [hboard, Board.created_hideSummary, h.created, firstShows_concat, countP_creates_concat,
      hshows]
    rfl
  case summary =>
    rw [hboard, List.filterMap_append]
    simp only [List.filterMap_cons, List.filterMap_nil, hshown, List.append_nil]
    exact h.summary

theorem InStep.release : InStep host (ops ++ [.release]) ((reached host ops).step .release) := by
  have hmatched : (reached host ops).board.Matched := h.matched
  have hpanel : ((reached host ops).step .release).board.panels.host.panel? summaryPanel = none :=
    hmatched.panel?_release
  have howns : ((reached host ops).step .release).board.panels.owns summaryPanel = false := rfl
  constructor
  case matched =>
    rw [PanelHost.has_eq, hpanel, howns]
    rfl
  case owned =>
    rw [howns, since_concat]
    simp [Op.shows, Op.shown?]
  case content =>
    rw [hpanel]
    intro panel hsome
    contradiction
  case visible =>
    rw [hpanel]
    intro panel hsome
    contradiction
  case without =>
    rw [PanelHost.has_eq, hpanel]
    exact fun _ => rfl
  case created =>
    have hcreated : ((reached host ops).step .release).board.panels.host.created
        = (reached host ops).board.panels.host.created :=
      PanelHost.created_foldl_destroy _ _
    rw [hcreated, h.created, firstShows_concat, countP_creates_concat]
    rfl
  case summary =>
    rw [List.filterMap_append, List.filterMap_cons, List.filterMap_nil]
    simp only [Op.shown?, List.append_nil]
    exact h.summary

theorem InStep.receive (frame : Frame)
    : InStep host (ops ++ [.receive frame]) ((reached host ops).step (.receive frame)) := by
  have hshow := EventKind.eq_tag_iff .showSummary rfl frame.event
  have hhide := EventKind.eq_tag_iff .hideSummary rfl frame.event
  have hboard := board_receive (reached host ops) frame
  rw [Dispatcher.handler?, routes_reached host ops, Board.handler?_routes] at hboard
  change ((reached host ops).step (.receive frame)).board = _ at hboard
  by_cases hshows : EventKind.ofTag frame.event = .showSummary
  . rw [hshows] at hboard
    exact h.showSummary (hshow.2 hshows) hboard
  . by_cases hhides : EventKind.ofTag frame.event = .hideSummary
    . rw [hhides] at hboard
      exact h.hideSummary (hhide.2 hhides) hboard
    . -- The board may change, but not what it tells of the summary.
      have hkept : ((reached host ops).step (.receive frame)).board.panels
            = (reached host ops).board.panels
          ∧ ((reached host ops).step (.receive frame)).board.model.summary
            = (reached host ops).board.model.summary := by
        rw [hboard]
        split
        . next reaction hreaction =>
          apply Board.react_of_ne
          . rintro rfl
            exact hshows (EventKind.reaction?_injective hreaction rfl)
          . rintro rfl
            exact hhides (EventKind.reaction?_injective hreaction rfl)
        . exact ⟨rfl, rfl⟩
      apply h.idle
      . exact if_neg fun hevent => hshows (hshow.1 hevent)
      . exact decide_eq_false fun hevent => hhides (hhide.1 hevent)
      . simp
      . rw [hkept.1]
      . rw [hkept.1]
      . exact hkept.2
      . rw [hkept.1]
        rfl

theorem InStep.onHost {op : PanelHost.Op} (hop : op.name ≠ summaryPanel)
    : InStep host (ops ++ [.onHost op]) ((reached host ops).step (.onHost op)) := by
  apply h.idle
  . rfl
  . rfl
  . simp
  . rfl
  . apply PanelHost.panel?_step_of_ne
    exact hop.symm
  . rfl
  . apply PanelHost.created_step

theorem InStep.step {op : Op} (hop : op.isApart = true)
    : InStep host (ops ++ [op]) ((reached host ops).step op) := by
  cases op with
  | receive frame => exact h.receive frame
  | release => exact h.release
  | onHost op => exact h.onHost (of_decide_eq_true hop)

end InStep

theorem inStep_nil {host : PanelHost} (hhost : host.has summaryPanel = false)
    : InStep host [] (reached host []) := by
  have hnone : host.panel? summaryPanel = none := by simpa [PanelHost.has_eq] using hhost
  have hpanel : (reached host []).board.panels.host.panel? summaryPanel = none := hnone
  constructor
  case matched => exact hhost
  case owned => simp [reached, run, Desk.on, Board.on, Panels.on, Panels.owns, not_since_nil]
  case content => simp [hpanel]
  case visible => simp [hpanel]
  case without => exact fun _ => hhost
  case created => rfl
  case summary => rfl

/-- Whatever is received, whenever the panels are released and whatever else is done on the host, the
summary, its panel and what is owned agree. -/
theorem inStep_run (host : PanelHost) (hhost : host.has summaryPanel = false) (ops : List Op)
    (hops : ∀ op ∈ ops, op.isApart = true)
    : InStep host ops ((Desk.on host).run ops) := by
  show InStep host ops (reached host ops)
  induction ops using List.reverseRecOn with
  | nil => exact inStep_nil hhost
  | append_singleton ops op ih =>
    rw [reached_concat]
    apply InStep.step
    . apply ih
      intro earlier hearlier
      apply hops
      exact List.mem_append_left _ hearlier
    . apply hops
      simp

/-- A summary is shown and hidden, and another one is shown after its panel was released. -/
def shownTwice : List Op :=
  [.onHost (.create "details"), .receive ⟨"showSummary", none, .null⟩,
    .receive ⟨"hideSummary", none, .null⟩, .release, .receive ⟨"showSummary", none, .bool true⟩]

theorem inStep_run_shownTwice
    : InStep .empty shownTwice ((Desk.on .empty).run shownTwice)
        ∧ ((Desk.on .empty).run shownTwice).board.panels.host.panel? summaryPanel
          = some ⟨true, .bool true⟩
        ∧ ((Desk.on .empty).run shownTwice).board.panels.host.created = 3 := by
  have hops : ∀ op ∈ shownTwice, op.isApart = true := by decide
  exact ⟨inStep_run .empty rfl shownTwice hops, by decide +kernel, by decide +kernel⟩

end Desk

end LiveTopology
