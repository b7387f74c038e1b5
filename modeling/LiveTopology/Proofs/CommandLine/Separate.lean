import LiveTopology.Proofs.CommandLine.Reconnect

/-!
This module contains that the console and the feed do not interfere. A session goes on with its feed
as if there were no lines, and it shows the same as if nothing came from the feed.
-/

namespace LiveTopology

def Incident.isLine : Incident → Bool
  | .line _ => true
  | _ => false

/-- Whether an incident comes from a link, or is the end of a waiting time. -/
def Incident.isFeed : Incident → Bool
  | .report .. | .feed | .timer => true
  | _ => false

/-- What the lines of the console act on. -/
structure ConsoleSide where
  scene : Scene
  keymap : Keymap KeyAction
  layers : ViewLayers
  controller : Controller Float Scene
  dropped : Bool

/-- All that the feed acts on, with what a session knows about it. -/
structure FeedSide (η : Type) where
  subscription : Subscription (Handler η)
  board : Board
  tornDown : Bool
  backoff : Backoff
  dice : Dice
  retry : Option Nat
  lastPhase : Phase
  noReconnect : Bool
  outcome : Option Outcome

variable {η : Type}

namespace View

def consoleSide (v : View η) : ConsoleSide :=
  ⟨v.scene, v.keymap, v.layers, v.controller, v.dropped⟩

/-- The view with another scene, other keys and another controller. -/
def withConsole (v : View η) (c : ConsoleSide) : View η :=
  { v with
    scene := c.scene
    keymap := c.keymap
    layers := c.layers
    controller := c.controller
    dropped := c.dropped }

theorem recover_withConsole (v : View η) (c : ConsoleSide)
    : (v.withConsole c).recover = (v.recover.1.withConsole c, v.recover.2) := by
  have htornDown : (v.withConsole c).tornDown = v.tornDown := rfl
  unfold recover
  rw [htornDown]
  split <;> rfl

/-- A line acts on nothing but the scene and the controller. -/
theorem respond_eq (v : View η) (line : String)
    : (v.respond line).1 = v.withConsole (v.respond line).1.consoleSide := by
  unfold respond
  split
  . rfl
  . rfl
  . next command _ =>
    cases command with
    | key key =>
      show (v.press key).2.1 = v.withConsole (v.press key).2.1.consoleSide
      unfold press
      split
      . rfl
      . split <;> rfl
      . rfl
      . rfl
    | gesture g => rfl
    | status => rfl
    | help => rfl

/-- What a line does depends on nothing else either. -/
theorem consoleSide_respond_withConsole (v w : View η) (c : ConsoleSide) (line : String)
    : ((v.withConsole c).respond line).1.consoleSide
        =
      ((w.withConsole c).respond line).1.consoleSide := by
  unfold respond
  cases Command.parse line with
  | error e => rfl
  | ok command? =>
    cases command? with
    | none => rfl
    | some command =>
      cases command with
      | key key =>
        show ((v.withConsole c).press key).2.1.consoleSide
          = ((w.withConsole c).press key).2.1.consoleSide
        have hkeymap : (v.withConsole c).keymap = (w.withConsole c).keymap := rfl
        have hdropped : (v.withConsole c).dropped = (w.withConsole c).dropped := rfl
        unfold press
        rw [hkeymap, hdropped]
        cases (w.withConsole c).keymap.press key with
        | none => rfl
        | some action =>
          cases action with
          | resetZoom =>
            dsimp only
            split <;> rfl
          | logWarning => rfl
          | logError => rfl
      | gesture g => rfl
      | status => rfl
      | help => rfl

/-- The lines that change nothing. -/
inductive Idle (v : View η) (line : String) : Prop where
  | blank (h : Command.parse line = .ok none)
  | bad (e : Command.Error) (h : Command.parse line = .error e)
  | status (h : Command.parse line = .ok (some .status))
  | help (h : Command.parse line = .ok (some .help))
  | unbound (key : String) (h : Command.parse line = .ok (some (.key key)))
      (hkey : v.keymap.press key = none)
  | refused (g : Gesture Float) (h : Command.parse line = .ok (some (.gesture g)))
      (hg : (v.gesture g).1 = false)

theorem gesture_of_refused {v : View η} {g : Gesture Float} (h : (v.gesture g).1 = false)
    : (v.gesture g).2 = v := by
  unfold gesture Controller.gesture at h ⊢
  cases htarget : v.controller.target? g with
  | none => rfl
  | some t =>
    rw [htarget] at h
    contradiction

theorem Idle.respond {v : View η} {line : String} (h : v.Idle line) : (v.respond line).1 = v := by
  unfold View.respond
  cases h with
  | blank h => rw [h]
  | bad e h => rw [h]
  | status h =>
    rw [h]
    rfl
  | help h =>
    rw [h]
    rfl
  | unbound key h hkey =>
    rw [h]
    show (v.press key).2.1 = v
    unfold press
    rw [hkey]
  | refused g h hg =>
    rw [h]
    exact gesture_of_refused hg

end View

namespace Session

def consoleSide (s : Session η) : ConsoleSide :=
  s.view.consoleSide

def feedSide (s : Session η) : FeedSide η :=
  ⟨s.view.subscription, s.view.board, s.view.tornDown, s.backoff, s.dice, s.retry, s.lastPhase,
    s.noReconnect, s.outcome⟩

def withConsole (s : Session η) (c : ConsoleSide) : Session η :=
  { s with view := s.view.withConsole c }

theorem withConsole_of_feedSide_eq {s t : Session η} (h : s.feedSide = t.feedSide)
    : s = t.withConsole s.consoleSide := by
  obtain ⟨⟨⟩⟩ := s
  obtain ⟨⟨⟩⟩ := t
  simp only [feedSide, FeedSide.mk.injEq] at h
  obtain ⟨rfl, rfl, rfl, rfl, rfl, rfl, rfl, rfl, rfl⟩ := h
  rfl

theorem observe_withConsole (s : Session η) (c : ConsoleSide)
    : (s.withConsole c).observe = (s.observe.1.withConsole c, s.observe.2) := by
  have hphase : (s.withConsole c).view.subscription.phase = s.view.subscription.phase := rfl
  have hlast : (s.withConsole c).lastPhase = s.lastPhase := rfl
  unfold observe
  rw [hphase, hlast]
  dsimp only
  split
  . rfl
  . cases s.view.subscription.phase with
    | opened => rfl
    | connecting => rfl
    | closed =>
      have hagain : (s.withConsole c).noReconnect = s.noReconnect := rfl
      dsimp only
      rw [hagain]
      split <;> rfl

section

variable {s : Session η} (h : ¬ s.outcome.isSome = true)
include h

theorem step_line (line : String)
    : (s.step (.line line)).1 = { s with view := (s.view.respond line).1 } := by
  unfold step
  rw [if_neg h]

theorem step_feed
    : s.step .feed
        =
      if s.view.next.1 then
        ({ s with view := s.view.next.2.1 }.observe.1,
          s.view.next.2.2 ++ { s with view := s.view.next.2.1 }.observe.2)
      else
        (s, []) := by
  unfold step
  rw [if_neg h]

theorem step_timer
    : s.step .timer
        =
      if s.retry.isSome then
        ({ s with
            view := s.view.recover.1
            retry := none
            lastPhase := s.view.recover.1.subscription.phase },
          s.view.recover.2)
      else
        (s, []) := by
  unfold step
  rw [if_neg h]

end

/-- What is no line does the same whatever is on the side of the console. -/
theorem step_withConsole (s : Session η) (c : ConsoleSide) {incident : Incident}
    (h : incident.isLine = false)
    : (s.withConsole c).step incident
        =
      ((s.step incident).1.withConsole c, (s.step incident).2) := by
  by_cases houtcome : s.outcome.isSome = true
  . have hended : (s.withConsole c).outcome.isSome = true := houtcome
    rw [step_of_ended houtcome, step_of_ended hended]
  . have hrunning : ¬ (s.withConsole c).outcome.isSome = true := houtcome
    cases incident with
    | line line => contradiction
    | feed =>
      have hobserve := observe_withConsole { s with view := s.view.next.2.1 } c
      rw [step_feed houtcome, step_feed hrunning]
      by_cases hhandled : s.view.next.1 = true
      . have hhandled' : (s.withConsole c).view.next.1 = true := hhandled
        rw [if_pos hhandled, if_pos hhandled']
        exact congrArg (fun r => (r.1, s.view.next.2.2 ++ r.2)) hobserve
      . have hhandled' : ¬ (s.withConsole c).view.next.1 = true := hhandled
        rw [if_neg hhandled, if_neg hhandled']
    | timer =>
      have hrecover := s.view.recover_withConsole c
      rw [step_timer houtcome, step_timer hrunning]
      by_cases hretry : s.retry.isSome = true
      . have hretry' : (s.withConsole c).retry.isSome = true := hretry
        have hview : (s.withConsole c).view.recover
            = (s.view.recover.1.withConsole c, s.view.recover.2) := hrecover
        rw [if_pos hretry, if_pos hretry', hview]
        rfl
      . have hretry' : ¬ (s.withConsole c).retry.isSome = true := hretry
        rw [if_neg hretry, if_neg hretry']
    | _ =>
      unfold step
      rw [if_neg houtcome, if_neg hrunning]
      rfl

theorem fst_run_cons (s : Session η) (incident : Incident) (incidents : List Incident)
    : (s.run (incident :: incidents)).1 = ((s.step incident).1.run incidents).1 :=
  rfl

theorem feedSide_step_line (s : Session η) (line : String)
    : (s.step (.line line)).1.feedSide = s.feedSide := by
  by_cases houtcome : s.outcome.isSome = true
  . rw [step_of_ended houtcome]
  . rw [step_line houtcome, View.respond_eq]
    rfl

theorem feedSide_step_congr {s t : Session η} (h : s.feedSide = t.feedSide) {incident : Incident}
    (hincident : incident.isLine = false)
    : (s.step incident).1.feedSide = (t.step incident).1.feedSide := by
  rw [withConsole_of_feedSide_eq h, step_withConsole t s.consoleSide hincident]
  rfl

theorem feedSide_run {s t : Session η} (h : s.feedSide = t.feedSide) (incidents : List Incident)
    : (s.run incidents).1.feedSide
        =
      (t.run (incidents.filter fun incident => !incident.isLine)).1.feedSide := by
  induction incidents generalizing s t with
  | nil => exact h
  | cons incident incidents ih =>
    cases hincident : incident.isLine with
    | true =>
      obtain ⟨line, rfl⟩ : ∃ line, incident = .line line := by
        cases incident with
        | line line => exact ⟨line, rfl⟩
        | _ => contradiction
      rw [fst_run_cons, List.filter_cons_of_neg (by simp [hincident])]
      apply ih
      rw [feedSide_step_line, h]
    | false =>
      rw [fst_run_cons, List.filter_cons_of_pos (by simp [hincident]), fst_run_cons]
      apply ih
      apply feedSide_step_congr h hincident

theorem observe_cases (s : Session η)
    : s.observe.1.consoleSide = s.consoleSide
        ∧ (s.observe.1.outcome = s.outcome ∨ s.observe.1.outcome = some .feedLost) := by
  unfold observe
  dsimp only
  split
  . exact ⟨rfl, .inl rfl⟩
  . split
    . exact ⟨rfl, .inl rfl⟩
    . exact ⟨rfl, .inl rfl⟩
    . split
      . exact ⟨rfl, .inr rfl⟩
      . exact ⟨rfl, .inl rfl⟩

/-- What comes from the feed is seen at the console only if the session ends by it. -/
theorem step_of_isFeed (s : Session η) {incident : Incident} (h : incident.isFeed = true)
    : (s.step incident).1.consoleSide = s.consoleSide
        ∧ ((s.step incident).1.outcome = s.outcome
          ∨ (s.step incident).1.outcome = some .feedLost) := by
  by_cases houtcome : s.outcome.isSome = true
  . rw [step_of_ended houtcome]
    exact ⟨rfl, .inl rfl⟩
  . cases incident with
    | feed =>
      rw [step_feed houtcome]
      split
      . apply observe_cases
      . exact ⟨rfl, .inl rfl⟩
    | timer =>
      rw [step_timer houtcome]
      split
      . refine ⟨?_, .inl rfl⟩
        show s.view.recover.1.consoleSide = s.view.consoleSide
        unfold View.recover
        split <;> rfl
      . exact ⟨rfl, .inl rfl⟩
    | report link event =>
      unfold step
      rw [if_neg houtcome]
      exact ⟨rfl, .inl rfl⟩
    | _ => contradiction

theorem consoleSide_step_congr {s t : Session η} (h : s.consoleSide = t.consoleSide)
    (houtcome : s.outcome = t.outcome) {incident : Incident} (hincident : incident.isFeed = false)
    : (s.step incident).1.consoleSide = (t.step incident).1.consoleSide
        ∧ (s.step incident).1.outcome = (t.step incident).1.outcome := by
  by_cases hended : s.outcome.isSome = true
  . rw [step_of_ended hended, step_of_ended (s := t) (houtcome ▸ hended)]
    exact ⟨h, houtcome⟩
  . have hrunning : ¬ t.outcome.isSome = true := houtcome ▸ hended
    cases incident with
    | line line =>
      rw [step_line hended, step_line hrunning]
      refine ⟨?_, houtcome⟩
      have hview := View.consoleSide_respond_withConsole s.view t.view s.consoleSide line
      have hs : s.view.withConsole s.consoleSide = s.view := rfl
      have ht : t.view.withConsole s.consoleSide = t.view := by
        rw [h]
        rfl
      rw [hs, ht] at hview
      exact hview
    | endOfInput | unreadable | interrupt =>
      unfold step
      rw [if_neg hended, if_neg hrunning]
      exact ⟨h, rfl⟩
    | _ => contradiction

theorem consoleSide_run {s t : Session η} (h : s.consoleSide = t.consoleSide)
    (houtcome : s.outcome = t.outcome) (incidents : List Incident)
    (hlost : (s.run incidents).1.outcome ≠ some .feedLost)
    : (s.run incidents).1.consoleSide
        =
      (t.run (incidents.filter fun incident => !incident.isFeed)).1.consoleSide := by
  induction incidents generalizing s t with
  | nil => exact h
  | cons incident incidents ih =>
    rw [fst_run_cons] at hlost ⊢
    cases hincident : incident.isFeed with
    | true =>
      obtain ⟨hside, hsame | hends⟩ := s.step_of_isFeed hincident
      . rw [List.filter_cons_of_neg (by simp [hincident])]
        apply ih
        . rw [hside, h]
        . rw [hsame, houtcome]
        . exact hlost
      . -- The session ends by this incident, so it cannot go on to another end.
        rw [run_of_ended (by simp [hends])] at hlost
        exact absurd hends hlost
    | false =>
      obtain ⟨hside, hsame⟩ := consoleSide_step_congr h houtcome hincident
      rw [List.filter_cons_of_pos (by simp [hincident])]
      exact ih hside hsame hlost

/-- Without its lines, a session has the same feed at every moment. Without what comes from the feed,
it shows the same, unless it ends when the feed is lost. And there are lines that change nothing. -/
theorem separate_run (s : Session η) (incidents : List Incident)
    : (s.run incidents).1.feedSide
          = (s.run (incidents.filter fun incident => !incident.isLine)).1.feedSide
        ∧ ((s.run incidents).1.outcome ≠ some .feedLost →
          (s.run incidents).1.consoleSide
            = (s.run (incidents.filter fun incident => !incident.isFeed)).1.consoleSide)
        ∧ ∀ line, (s.run incidents).1.view.Idle line →
          ((s.run incidents).1.step (.line line)).1 = (s.run incidents).1 := by
  refine ⟨feedSide_run rfl incidents, consoleSide_run rfl rfl incidents, fun line hidle => ?_⟩
  by_cases houtcome : (s.run incidents).1.outcome.isSome = true
  . rw [step_of_ended houtcome]
  . rw [step_line houtcome, hidle.respond]

/-- A gesture before the feed is lost, and a key after it is opened again. -/
def crossed : List Incident :=
  [.report 0 .connected, .line "pan 3 4 alt", .feed, .report 0 .closed, .feed, .line "nonsense",
    .timer, .line "r"]

theorem separate_run_crossed
    : let s := (Launch.start ⟨.default, false⟩ ⟨fun _ => 0, 0⟩ : Session Reaction × _).1
      (s.run crossed).1.outcome ≠ some .feedLost
        ∧ (s.run crossed).1.consoleSide
          = (s.run [.line "pan 3 4 alt", .line "nonsense", .line "r"]).1.consoleSide := by
  intro s
  have hlost : (s.run crossed).1.outcome ≠ some .feedLost := by decide +kernel
  exact ⟨hlost, (separate_run s crossed).2.1 hlost⟩

end Session

end LiveTopology
