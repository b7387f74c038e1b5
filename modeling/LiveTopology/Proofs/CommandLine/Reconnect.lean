import LiveTopology.CommandLine.Program
import LiveTopology.Proofs.Backoff
import LiveTopology.Proofs.Settings
import LiveTopology.Proofs.View.Attended

/-!
This module contains how a session opens the feed again: once for each waiting time that ends, after
a delay that depends on how often the feed was lost since it was last open.
-/

namespace LiveTopology

namespace Session

variable {η : Type}

def phase (s : Session η) : Phase :=
  s.view.subscription.phase

/-- How many links were asked for. -/
def linkCount (s : Session η) : Nat :=
  s.view.subscription.links.length

/-- Whether a waiting time ends. -/
def expires (s : Session η) (incident : Incident) : Bool :=
  s.outcome.isNone && s.retry.isSome && incident == .timer

def expiries (s : Session η) : List Incident → Nat
  | [] => 0
  | incident :: incidents =>
    (if s.expires incident then 1 else 0) + (s.step incident).1.expiries incidents

/-- The phase that the subscription comes to, if its phase changes. -/
def changed (s t : Session η) : List Phase :=
  if t.phase = s.phase then [] else [t.phase]

/-- The phases that the subscription comes to, one for each time that its phase changes. -/
def phases (s : Session η) : List Incident → List Phase
  | [] => []
  | incident :: incidents =>
    s.changed (s.step incident).1 ++ (s.step incident).1.phases incidents

/-- How often the feed was lost since it was last open. -/
def losses (phases : List Phase) : Nat :=
  (phases.reverse.takeWhile (· ≠ .opened)).count .closed

def lossNotice (attempt delay : Nat) : Log.Record :=
  .warn "topo event channel down; scheduling reconnect"
    [("attempt", toString attempt), ("delay_ms", toString delay)]

/-- What holds of a session that may open the feed again, and of whatever happens next. -/
structure Reopens (delays : Delays) (s : Session η) (phases : List Phase) (expiries : Nat) : Prop where
  outcome : s.outcome ≠ some .feedLost
  lastPhase : s.lastPhase = s.phase
  retry_iff : s.retry.isSome ↔ s.phase = .closed
  links_eq : s.linkCount = 1 + expiries
  opens : ∀ incident,
    (s.step incident).1.linkCount = s.linkCount + if s.expires incident then 1 else 0
  schedules : ∀ incident, s.phase ≠ .closed → (s.step incident).1.phase = .closed →
    ∃ delay, (s.step incident).1.retry = some delay
      ∧ delays.base (losses phases) - delays.base (losses phases) / 4 ≤ delay
      ∧ delay ≤ delays.base (losses phases)
      ∧ .log (lossNotice (min (losses phases + 1) (UInt32.size - 1)) delay) ∈ (s.step incident).2

/-- What holds of a session that may not open the feed again. -/
structure GivesUp (s : Session η) : Prop where
  links_eq : s.linkCount = 1
  feedLost_iff : s.outcome = some .feedLost ↔ s.phase = .closed
  ends : ∀ incident, s.phase ≠ .closed → (s.step incident).1.phase = .closed →
    (s.step incident).1.outcome = some .feedLost
  final : s.outcome.isSome → ∀ incidents, s.run incidents = (s, [])

/-- The ways in which a session that has not ended may go on after an incident. -/
inductive Turn (s : Session η) : Incident → Session η → List (Effect η) → Prop where
  | stays (incident : Incident) (v : View η) (outcome : Option Outcome) (effects : List (Effect η))
      (hview : v.Attended) (hphase : v.subscription.phase = s.phase)
      (hlinks : v.subscription.links.length = s.linkCount) (houtcome : outcome ≠ some .feedLost)
      (hexpires : s.expires incident = false)
      : Turn s incident { s with view := v, outcome } effects
  | opens (v : View η) (effects : List (Effect η)) (hview : v.Attended)
      (hfrom : s.phase = .connecting) (hto : v.subscription.phase = .opened)
      (hlinks : v.subscription.links.length = s.linkCount)
      : Turn s .feed { s with view := v, backoff := s.backoff.reset, lastPhase := .opened } effects
  | loses (v : View η) (effects : List (Effect η)) (hview : v.Attended)
      (hreopens : s.noReconnect = false) (hfrom : s.phase ≠ .closed)
      (hto : v.subscription.phase = .closed) (hlinks : v.subscription.links.length = s.linkCount)
      : Turn s .feed
          { s with
            view := v
            backoff := s.backoff.advance
            dice := (s.backoff.next s.dice).2.2
            retry := some (s.backoff.next s.dice).1
            lastPhase := .closed }
          (effects ++ [.log (lossNotice s.backoff.advance.attempts (s.backoff.next s.dice).1)])
  | givesUp (v : View η) (effects : List (Effect η)) (hview : v.Attended)
      (hreopens : s.noReconnect = true) (hfrom : s.phase ≠ .closed)
      (hto : v.subscription.phase = .closed) (hlinks : v.subscription.links.length = s.linkCount)
      : Turn s .feed { s with view := v, outcome := some .feedLost } effects
  | reopens (v : View η) (effects : List (Effect η)) (hview : v.Attended)
      (hretry : s.retry.isSome) (hfrom : s.phase = .closed)
      (hto : v.subscription.phase = .connecting)
      (hlinks : v.subscription.links.length = s.linkCount + 1)
      : Turn s .timer { s with view := v, retry := none, lastPhase := .connecting } effects

/-- What a session knows about its subscription as long as the feed is not lost for good. -/
structure Ready (delays : Delays) (s : Session η) (phases : List Phase) : Prop where
  lastPhase : s.lastPhase = s.phase
  retry_iff : s.retry.isSome ↔ s.phase = .closed
  live : s.noReconnect = true → s.phase ≠ .closed
  backoff : s.backoff = .after delays (losses phases)

/-- What every step keeps, whether or not the session may open the feed again. -/
structure Watched (delays : Delays) (s : Session η) (phases : List Phase) : Prop where
  view : s.view.Attended
  lost : s.outcome = some .feedLost → s.noReconnect = true ∧ s.phase = .closed
  ready : s.outcome ≠ some .feedLost → Ready delays s phases

theorem losses_opened (phases : List Phase) : losses (phases ++ [.opened]) = 0 := by
  simp [losses]

theorem losses_closed (phases : List Phase) : losses (phases ++ [.closed]) = losses phases + 1 := by
  simp [losses]

theorem losses_connecting (phases : List Phase)
    : losses (phases ++ [.connecting]) = losses phases := by
  simp [losses]

theorem step_of_ended {s : Session η} (h : s.outcome.isSome = true) (incident : Incident)
    : s.step incident = (s, []) := by
  unfold step
  rw [if_pos h]

theorem run_of_ended {s : Session η} (h : s.outcome.isSome = true) (incidents : List Incident)
    : s.run incidents = (s, []) := by
  induction incidents with
  | nil => rfl
  | cons incident incidents ih => simp [run, step_of_ended h, ih]

theorem turn_observe {s : Session η} (houtcome : s.outcome = none) (hlast : s.lastPhase = s.phase)
    {v : View η} (hview : v.Attended)
    (hstep : s.view.subscription.PhaseStep .next v.subscription) (effects : List (Effect η))
    : Turn s .feed { s with view := v }.observe.1 (effects ++ { s with view := v }.observe.2) := by
  cases hstep with
  | stays hphase hlinks =>
    have hobserve : { s with view := v }.observe = ({ s with view := v }, []) := by
      unfold observe
      rw [if_pos (hphase.trans hlast.symm)]
    rw [hobserve]
    exact .stays .feed v s.outcome _ hview hphase (congrArg List.length hlinks) (by simp [houtcome])
      (by simp [expires])
  | opened hfrom hto hheld hreport hlinks =>
    have hobserve : { s with view := v }.observe
        = ({ s with view := v, backoff := s.backoff.reset, lastPhase := .opened }, []) := by
      have hlast : s.lastPhase = .connecting := hlast.trans hfrom
      simp [observe, hto, hlast]
    rw [hobserve]
    exact .opens v _ hview hfrom hto (congrArg List.length hlinks)
  | closed hfrom hto hlinks =>
    have hcount : v.subscription.links.length = s.view.subscription.links.length := by
      simpa using congrArg List.length hlinks
    have hlast : s.lastPhase ≠ .closed := by
      rw [hlast]
      exact hfrom
    by_cases hreopens : s.noReconnect = true
    . have hobserve : { s with view := v }.observe
          = ({ s with view := v, outcome := some .feedLost }, []) := by
        simp [observe, hto, hlast.symm, hreopens]
      rw [hobserve]
      exact .givesUp v _ hview hreopens hfrom hto hcount
    . rw [Bool.not_eq_true] at hreopens
      have hobserve : { s with view := v }.observe
          = ({ s with
                view := v
                backoff := s.backoff.advance
                dice := (s.backoff.next s.dice).2.2
                retry := some (s.backoff.next s.dice).1
                lastPhase := .closed },
              [.log (lossNotice s.backoff.advance.attempts (s.backoff.next s.dice).1)]) := by
        simp only [observe, hto, hlast.symm, hreopens, if_false]
        rfl
      rw [hobserve]
      exact .loses v effects hview hreopens hfrom hto hcount

theorem Watched.turn {delays : Delays} {s : Session η} {phases : List Phase}
    (h : Watched delays s phases) (houtcome : s.outcome = none) (incident : Incident)
    : Turn s incident (s.step incident).1 (s.step incident).2 := by
  have hready := h.ready (by simp [houtcome])
  have hrunning : ¬ s.outcome.isSome = true := by simp [houtcome]
  unfold step
  rw [if_neg hrunning]
  cases incident with
  | line line =>
    obtain ⟨hsubscription, -⟩ := s.view.subscription_respond line
    exact .stays _ _ s.outcome _ (h.view.respond line) (congrArg Subscription.phase hsubscription)
      (congrArg (fun t => t.links.length) hsubscription) (by simp [houtcome]) (by simp [expires])
  | endOfInput => exact .stays _ s.view (some .done) _ h.view rfl rfl (by simp) (by simp [expires])
  | unreadable =>
    exact .stays _ s.view (some .unreadable) _ h.view rfl rfl (by simp) (by simp [expires])
  | interrupt => exact .stays _ s.view (some .done) _ h.view rfl rfl (by simp) (by simp [expires])
  | report link event =>
    obtain ⟨hview, hphase, hlinks⟩ := h.view.send link event
    exact .stays _ _ s.outcome _ hview hphase (congrArg List.length hlinks) (by simp [houtcome])
      (by simp [expires])
  | feed =>
    obtain ⟨hview, hstep⟩ := h.view.next
    dsimp only
    split
    . exact turn_observe houtcome hready.lastPhase hview hstep _
    . exact .stays _ s.view s.outcome _ h.view rfl rfl (by simp [houtcome]) (by simp [expires])
  | timer =>
    dsimp only
    split
    . next hsome =>
      have hphase := hready.retry_iff.1 hsome
      obtain ⟨hview, hto, hlinks⟩ := h.view.recover hphase
      rw [hto]
      exact .reopens _ _ hview hsome hphase hto hlinks
    . next hnone =>
      exact .stays _ s.view s.outcome _ h.view rfl rfl (by simp [houtcome])
        (by simp [expires, hnone])

theorem Turn.watched {delays : Delays} {s t : Session η} {phases : List Phase}
    {incident : Incident} {effects : List (Effect η)} (hturn : Turn s incident t effects)
    (h : Watched delays s phases) (houtcome : s.outcome = none)
    : Watched delays t (phases ++ s.changed t) := by
  have hready := h.ready (by simp [houtcome])
  have hended : s.outcome ≠ some .feedLost := by simp [houtcome]
  unfold changed
  cases hturn with
  | stays incident v outcome effects hview hphase hlinks hended hexpires =>
    have hphase : ({ s with view := v, outcome } : Session η).phase = s.phase := hphase
    rw [if_pos hphase, List.append_nil]
    refine ⟨hview, fun hlost => absurd hlost hended, fun _ => ⟨?_, ?_, ?_, hready.backoff⟩⟩
    . rw [hphase]
      exact hready.lastPhase
    . rw [hphase]
      exact hready.retry_iff
    . rw [hphase]
      exact hready.live
  | opens v effects hview hfrom hto hlinks =>
    have hnot : ¬ s.retry.isSome = true := by simp [hready.retry_iff, hfrom]
    have hphase : (Session.mk v s.backoff.reset s.dice s.retry .opened s.noReconnect s.outcome).phase
        = .opened := hto
    rw [hphase, if_neg (by simp [hfrom])]
    refine ⟨hview, fun hlost => absurd hlost hended, fun _ => ⟨?_, ?_, ?_, ?_⟩⟩
    . rw [hphase]
    . simp [hphase, hnot]
    . simp [hphase]
    . show s.backoff.reset = _
      rw [hready.backoff, Backoff.reset_after, losses_opened]
  | loses v effects hview hreopens hfrom hto hlinks =>
    have hphase : (Session.mk v s.backoff.advance (s.backoff.next s.dice).2.2
        (some (s.backoff.next s.dice).1) .closed s.noReconnect s.outcome).phase = .closed := hto
    rw [hphase, if_neg (Ne.symm hfrom)]
    refine ⟨hview, fun hlost => absurd hlost hended, fun _ => ⟨?_, ?_, ?_, ?_⟩⟩
    . rw [hphase]
    . simp [hphase]
    . simp [hreopens]
    . show s.backoff.advance = _
      rw [hready.backoff, losses_closed]
      rfl
  | givesUp v effects hview hreopens hfrom hto hlinks =>
    exact ⟨hview, fun _ => ⟨hreopens, hto⟩, fun hlost => absurd rfl hlost⟩
  | reopens v effects hview hretry hfrom hto hlinks =>
    have hreopens : s.noReconnect ≠ true := fun hno => hready.live hno hfrom
    have hphase : (Session.mk v s.backoff s.dice none .connecting s.noReconnect s.outcome).phase
        = .connecting := hto
    rw [hphase, if_neg (by simp [hfrom])]
    refine ⟨hview, fun hlost => absurd hlost hended, fun _ => ⟨?_, ?_, ?_, ?_⟩⟩
    . rw [hphase]
    . simp [hphase]
    . exact fun hno => absurd hno hreopens
    . show s.backoff = _
      rw [hready.backoff, losses_connecting]

theorem Turn.noReconnect {s t : Session η} {incident : Incident} {effects : List (Effect η)}
    (hturn : Turn s incident t effects)
    : t.noReconnect = s.noReconnect := by
  cases hturn <;> rfl

theorem Turn.linkCount {s t : Session η} {incident : Incident} {effects : List (Effect η)}
    (hturn : Turn s incident t effects) (houtcome : s.outcome = none)
    : t.linkCount = s.linkCount + if s.expires incident then 1 else 0 := by
  have hfeed : s.expires .feed = false := by simp [expires]
  cases hturn with
  | stays incident v outcome effects hview hphase hlinks hended hexpires =>
    rw [hexpires]
    exact hlinks
  | opens v effects hview hfrom hto hlinks =>
    rw [hfeed]
    exact hlinks
  | loses v effects hview hreopens hfrom hto hlinks =>
    rw [hfeed]
    exact hlinks
  | givesUp v effects hview hreopens hfrom hto hlinks =>
    rw [hfeed]
    exact hlinks
  | reopens v effects hview hretry hfrom hto hlinks =>
    have hexpires : s.expires .timer = true := by simp [expires, houtcome, hretry]
    rw [hexpires]
    exact hlinks

section Step

variable {delays : Delays} {s : Session η} {phases : List Phase} (h : Watched delays s phases)
  (incident : Incident)
include h

theorem Watched.step
    : Watched delays (s.step incident).1 (phases ++ s.changed (s.step incident).1) := by
  cases houtcome : s.outcome with
  | none => exact (h.turn houtcome incident).watched h houtcome
  | some outcome =>
    have hended : s.outcome.isSome = true := by simp [houtcome]
    unfold changed
    rw [step_of_ended hended, if_pos rfl, List.append_nil]
    exact h

theorem Watched.noReconnect_step : (s.step incident).1.noReconnect = s.noReconnect := by
  cases houtcome : s.outcome with
  | none => exact (h.turn houtcome incident).noReconnect
  | some outcome => rw [step_of_ended (by simp [houtcome])]

theorem Watched.linkCount_step
    : (s.step incident).1.linkCount = s.linkCount + if s.expires incident then 1 else 0 := by
  cases houtcome : s.outcome with
  | none => exact (h.turn houtcome incident).linkCount houtcome
  | some outcome =>
    rw [step_of_ended (by simp [houtcome])]
    simp [expires, houtcome]

end Step

theorem Watched.run {delays : Delays} {s : Session η} {phases : List Phase}
    (h : Watched delays s phases) (incidents : List Incident)
    : Watched delays (s.run incidents).1 (phases ++ s.phases incidents)
        ∧ (s.run incidents).1.noReconnect = s.noReconnect
        ∧ (s.run incidents).1.linkCount = s.linkCount + s.expiries incidents := by
  induction incidents generalizing s phases with
  | nil => simpa [Session.run, Session.phases, expiries] using h
  | cons incident incidents ih =>
    obtain ⟨hwatched, hreopens, hlinks⟩ := ih (h.step incident)
    refine ⟨?_, ?_, ?_⟩
    . rw [Session.phases, ← List.append_assoc]
      exact hwatched
    . rw [← h.noReconnect_step incident]
      exact hreopens
    . show ((s.step incident).1.run incidents).1.linkCount = _
      rw [hlinks, h.linkCount_step, expiries, Nat.add_assoc]

theorem Watched.schedules {delays : Delays} {s : Session η} {phases : List Phase}
    (h : Watched delays s phases) (hvalid : delays.initial.toNat ≤ delays.max.toNat)
    (hreopens : s.noReconnect = false) (incident : Incident) (hfrom : s.phase ≠ .closed)
    (hto : (s.step incident).1.phase = .closed)
    : ∃ delay, (s.step incident).1.retry = some delay
        ∧ delays.base (losses phases) - delays.base (losses phases) / 4 ≤ delay
        ∧ delay ≤ delays.base (losses phases)
        ∧ .log (lossNotice (min (losses phases + 1) (UInt32.size - 1)) delay)
          ∈ (s.step incident).2 := by
  cases houtcome : s.outcome with
  | some outcome =>
    rw [step_of_ended (by simp [houtcome])] at hto
    exact absurd hto hfrom
  | none =>
    have hready := h.ready (by simp [houtcome])
    have hturn := h.turn houtcome incident
    generalize hstep : s.step incident = result at hto hturn
    obtain ⟨t, effects⟩ := result
    cases hturn with
    | stays incident v outcome effects hview hphase hlinks hended hexpires =>
      exact absurd (hphase.symm.trans hto) hfrom
    | opens v effects hview hfrom' hto' hlinks =>
      have := hto'.symm.trans hto
      contradiction
    | givesUp v effects hview hreopens' hfrom' hto' hlinks =>
      rw [hreopens] at hreopens'
      contradiction
    | reopens v effects hview hretry hfrom' hto' hlinks => exact absurd hfrom' hfrom
    | loses v effects hview hreopens' hfrom' hto' hlinks =>
      have hcurrent : s.backoff.current = delays.base (losses phases) := by
        rw [hready.backoff, Backoff.current_after hvalid]
      have hattempts : s.backoff.advance.attempts = min (losses phases + 1) (UInt32.size - 1) := by
        rw [hready.backoff]
        apply Backoff.attempts_after delays (losses phases + 1)
      refine ⟨(s.backoff.next s.dice).1, rfl, ?_, ?_, ?_⟩
      . rw [← hcurrent]
        apply Backoff.le_next
      . rw [← hcurrent]
        apply Backoff.next_le
      . rw [← hattempts]
        simp

theorem watched_start (l : Launch) (dice : Dice)
    : Watched l.settings.delays (l.start dice : Session η × List (Effect η)).1 [] where
  view := View.attended_activate l.settings .empty
  lost := by simp [Launch.start, Session.start]
  ready _ := by
    have hphase : (l.start dice : Session η × List (Effect η)).1.phase = .connecting := rfl
    have hretry : (l.start dice : Session η × List (Effect η)).1.retry = none := rfl
    refine ⟨rfl, ?_, ?_, rfl⟩
    . simp [hphase, hretry]
    . simp [hphase]

theorem initial_le_max {settings : Settings} (h : settings.validate = .ok ())
    : settings.delays.initial.toNat ≤ settings.delays.max.toNat := by
  have hdelays := ((Settings.validate_eq_ok_iff settings).1 h).2.2
  exact ((Settings.Delays.isValid_iff settings.delays).1 hdelays).2

section Final

variable {delays : Delays} {s : Session η} {phases : List Phase} (h : Watched delays s phases)
  (hfinal : s.noReconnect = true)
include h hfinal

theorem Watched.feedLost_iff : s.outcome = some .feedLost ↔ s.phase = .closed := by
  constructor
  . intro hlost
    exact (h.lost hlost).2
  . intro hphase
    apply Decidable.byContradiction
    intro hended
    exact (h.ready hended).live hfinal hphase

theorem Watched.not_expires (incident : Incident) : s.expires incident = false := by
  by_cases hlost : s.outcome = some .feedLost
  . simp [expires, hlost]
  . -- As long as the session goes on, its subscription is live and no waiting time begins.
    have hready := h.ready hlost
    have hretry : ¬ s.retry.isSome = true := fun hsome =>
      hready.live hfinal (hready.retry_iff.1 hsome)
    simp [expires, hretry]

theorem Watched.expiries_eq_zero (incidents : List Incident) : s.expiries incidents = 0 := by
  induction incidents generalizing s phases with
  | nil => rfl
  | cons incident incidents ih =>
    rw [expiries, h.not_expires hfinal, ih (h.step incident)]
    . rfl
    . rw [h.noReconnect_step, hfinal]

theorem Watched.ends (incident : Incident) (hto : (s.step incident).1.phase = .closed)
    : (s.step incident).1.outcome = some .feedLost := by
  apply ((h.step incident).feedLost_iff _).2 hto
  rw [h.noReconnect_step, hfinal]

end Final

/-- The feed is opened again exactly when a waiting time ends, and a waiting time begins exactly when
the feed is lost, unless the session may not open it again and ends. -/
theorem reconnect_run (l : Launch) (dice : Dice) (hvalid : l.settings.validate = .ok ())
    (incidents : List Incident)
    : (l.noReconnect = false →
          Reopens l.settings.delays ((l.start dice : Session η × List (Effect η)).1.run incidents).1
            ((l.start dice : Session η × List (Effect η)).1.phases incidents)
            ((l.start dice : Session η × List (Effect η)).1.expiries incidents))
        ∧ (l.noReconnect = true →
          GivesUp ((l.start dice : Session η × List (Effect η)).1.run incidents).1) := by
  obtain ⟨hwatched, hreopens, hlinks⟩ := (watched_start (η := η) l dice).run incidents
  have hone : (l.start dice : Session η × List (Effect η)).1.linkCount = 1 := rfl
  have hmay : (l.start dice : Session η × List (Effect η)).1.noReconnect = l.noReconnect := rfl
  rw [List.nil_append] at hwatched
  rw [hone] at hlinks
  rw [hmay] at hreopens
  constructor
  . intro hagain
    rw [hagain] at hreopens
    have hended : ((l.start dice : Session η × List (Effect η)).1.run incidents).1.outcome
        ≠ some .feedLost := by
      intro hlost
      rw [(hwatched.lost hlost).1] at hreopens
      contradiction
    have hready := hwatched.ready hended
    exact {
      outcome := hended
      lastPhase := hready.lastPhase
      retry_iff := hready.retry_iff
      links_eq := hlinks
      opens := hwatched.linkCount_step
      schedules := hwatched.schedules (initial_le_max hvalid) hreopens }
  . intro hfinal
    rw [hfinal] at hreopens hmay
    rw [(watched_start l dice).expiries_eq_zero hmay] at hlinks
    exact {
      links_eq := hlinks
      feedLost_iff := hwatched.feedLost_iff hreopens
      ends := fun incident _ hto => hwatched.ends hreopens incident hto
      final := run_of_ended }

theorem reconnect_run_lost
    : Settings.default.validate = .ok ()
        ∧ Reopens Settings.default.delays
          ((Launch.start ⟨.default, false⟩ ⟨fun _ => 0, 0⟩ : Session Reaction × _).1.run
            [.report 0 .closed, .feed]).1
          ((Launch.start ⟨.default, false⟩ ⟨fun _ => 0, 0⟩ : Session Reaction × _).1.phases
            [.report 0 .closed, .feed])
          ((Launch.start ⟨.default, false⟩ ⟨fun _ => 0, 0⟩ : Session Reaction × _).1.expiries
            [.report 0 .closed, .feed]) := by
  have hvalid : Settings.default.validate = .ok () := by rfl
  exact ⟨hvalid, (reconnect_run ⟨.default, false⟩ ⟨fun _ => 0, 0⟩ hvalid _).1 rfl⟩

end Session

end LiveTopology
