import LiveTopology.Proofs.Feed.Moves

/-!
This module contains what holds of a subscription and its links in every state that it reaches: a
link is held until the subscription is closed, and each link is closed exactly once.
-/

namespace LiveTopology

namespace Subscription

variable {η : Type}

/-- The ways in which the phase may change when one thing is done, and what becomes of the links. -/
inductive PhaseStep (s : Subscription η) : Op η → Subscription η → Prop where
  | stays {op : Op η} {t : Subscription η} (hphase : t.phase = s.phase) (hlinks : t.links = s.links)
      : PhaseStep s op t
  | connecting {t : Subscription η} (hfrom : s.phase = .closed) (hto : t.phase = .connecting)
      (hlinks : t.links = s.links ++ [⟨t.generation, 0⟩])
      : PhaseStep s .openSock t
  | opened {t : Subscription η} {generation : Nat} (hfrom : s.phase = .connecting)
      (hto : t.phase = .opened) (hheld : s.heldGeneration? = some generation)
      (hreport : s.queue.head? = some ⟨generation, .connected⟩) (hlinks : t.links = s.links)
      : PhaseStep s .next t
  | closed {op : Op η} {t : Subscription η} (hfrom : s.phase ≠ .closed) (hto : t.phase = .closed)
      (hlinks : t.links.map LinkRecord.generation = s.links.map LinkRecord.generation)
      : PhaseStep s op t

/-- What holds of a subscription with the history `h`. -/
structure Sound (s : Subscription η) (h : List (Moment η)) : Prop where
  held_iff : s.held.isSome ↔ s.phase ≠ .closed
  held_last : ∀ link, s.held = some link → link + 1 = s.links.length
  pending_eq_nil : s.phase ≠ .connecting → s.pending = []
  /-- The error that is kept is that of the report that has ended the last link. -/
  lastError_iff : ∀ error, s.lastError = some error ↔
    s.phase = .closed ∧ ∃ l, s.links.getLast? = some l
      ∧ Moment.handled ⟨l.generation, .failed error⟩ true ∈ h
  generation_live : s.phase ≠ .closed →
    s.links.getLast?.map LinkRecord.generation = some s.generation
  generation_closed : s.phase = .closed → ∀ l ∈ s.links, l.generation ≠ s.generation
  distinct : (s.links.map LinkRecord.generation).Nodup
  closes_eq : ∀ link l, s.links[link]? = some l → l.closes = if s.held = some link then 0 else 1

/-- What a history says about the links that have failed. -/
structure Told (s : Subscription η) (h : List (Moment η)) : Prop where
  bounded : ∀ envelope, Moment.handled envelope true ∈ h → envelope.generation ≤ s.generation
  live : s.phase ≠ .closed → ∀ error, Moment.handled ⟨s.generation, .failed error⟩ true ∉ h
  closed : s.phase = .closed → ∀ error, s.lastError = some error ↔
    ∃ l, s.links.getLast? = some l ∧ Moment.handled ⟨l.generation, .failed error⟩ true ∈ h

/-- Moments at which no link fails, although it may end. -/
def Harmless (s : Subscription η) (ms : List (Moment η)) : Prop :=
  ∀ envelope, Moment.handled envelope true ∈ ms →
    envelope.generation = s.generation ∧ ∀ error, envelope.event ≠ .failed error

theorem Harmless.mem_append_iff {s : Subscription η} {h ms : List (Moment η)} (hms : s.Harmless ms)
    (generation : Nat) (error : LinkError)
    : Moment.handled ⟨generation, .failed error⟩ true ∈ h ++ ms
        ↔
      Moment.handled ⟨generation, .failed error⟩ true ∈ h := by
  constructor
  . intro hmem
    rcases List.mem_append.1 hmem with hmem | hmem
    . exact hmem
    . exact absurd rfl ((hms _ hmem).2 error)
  . exact List.mem_append_left ms

theorem Told.bounded_append {s : Subscription η} {h ms : List (Moment η)} (hs : s.Told h)
    (hms : s.Harmless ms) (envelope : Envelope) (hmem : Moment.handled envelope true ∈ h ++ ms)
    : envelope.generation ≤ s.generation := by
  rcases List.mem_append.1 hmem with hmem | hmem
  . exact hs.bounded envelope hmem
  . exact Nat.le_of_eq (hms envelope hmem).1

theorem Told.keeps {s t : Subscription η} {h ms : List (Moment η)} (hs : s.Told h)
    (hms : s.Harmless ms) (hphase : t.phase = .closed ↔ s.phase = .closed)
    (hgeneration : t.generation = s.generation) (hlinks : t.links = s.links)
    (hlastError : t.lastError = s.lastError)
    : t.Told (h ++ ms) := by
  refine ⟨?_, fun hlive error => ?_, fun hclosed error => ?_⟩
  . rw [hgeneration]
    exact hs.bounded_append hms
  . rw [hgeneration, hms.mem_append_iff]
    exact hs.live (fun hs => hlive (hphase.2 hs)) error
  . rw [hlastError, hlinks, hs.closed (hphase.1 hclosed)]
    simp only [hms.mem_append_iff]

theorem Told.releases {s t : Subscription η} {h ms : List (Moment η)} (hs : s.Told h)
    (hconsistent : s.Consistent) (hms : s.Harmless ms) (hlive : s.phase ≠ .closed)
    (hphase : t.phase = .closed) (hgeneration : t.generation = s.release.generation)
    (hlinks : t.links = s.release.links) (hlastError : t.lastError = s.lastError)
    : t.Told (h ++ ms) := by
  obtain ⟨earlier, -, -, hrelease⟩ := hconsistent.release_eq hlive
  rw [hrelease] at hgeneration hlinks
  refine ⟨fun envelope hmem => ?_, fun h => absurd hphase h, fun _ error => ?_⟩
  . have := hs.bounded_append hms envelope hmem
    dsimp at hgeneration
    omega
  . -- No link fails here, and the one that is given up has not failed before.
    rw [hlastError, hconsistent.lastError hlive, hlinks]
    simp [hms.mem_append_iff, hs.live hlive error]

theorem Told.fails {s : Subscription η} {h : List (Moment η)} (hs : s.Told h)
    (hconsistent : s.Consistent) (hlive : s.phase ≠ .closed) (error : LinkError)
    (q : List Envelope)
    : Told { s.release with lastError := some error, queue := q }
        (h ++ [.handled ⟨s.generation, .failed error⟩ true, .noticed (.failed error s.phase)]) := by
  obtain ⟨earlier, -, -, hrelease⟩ := hconsistent.release_eq hlive
  rw [hrelease]
  refine ⟨fun envelope hmem => ?_, by simp, fun _ error' => ?_⟩
  . have : envelope.generation ≤ s.generation := by
      rcases List.mem_append.1 hmem with hmem | hmem
      . exact hs.bounded envelope hmem
      . obtain rfl : envelope = ⟨s.generation, .failed error⟩ := by simpa using hmem
        exact Nat.le_refl _
    dsimp
    omega
  . simp [hs.live hlive error', eq_comm]

theorem told_fresh : Told (fresh : Subscription η) [] where
  bounded := by simp
  live := by simp
  closed := by simp [fresh]

theorem Told.moves {s t : Subscription η} {op : Op η} {h ms : List (Moment η)}
    (hconsistent : s.Consistent) (hm : Moves s op ms t) (hs : s.Told h)
    : t.Told (h ++ ms) := by
  cases hm with
  | stays => exact hs.keeps (by simp [Harmless]) Iff.rfl rfl rfl rfl
  | binds => exact hs.keeps (by simp [Harmless]) Iff.rfl rfl rfl rfl
  | opens hphase =>
    -- No report of the new link has been handled, as its generation is greater than all others.
    have hnew (error : LinkError) : Moment.handled ⟨s.generation + 1, .failed error⟩ true ∉ h := by
      intro hmem
      have := hs.bounded _ hmem
      dsimp at this
      omega
    refine ⟨fun envelope hmem => ?_, fun _ error => ?_, by simp⟩
    . have := hs.bounded envelope (by simpa using hmem)
      dsimp
      omega
    . simpa using hnew error
  | closes hphase => exact hs.releases hconsistent (by simp [Harmless]) hphase rfl rfl rfl rfl
  | drops => exact hs.keeps (by simp [Harmless]) Iff.rfl rfl rfl rfl
  | dropsLive hphase => exact hs.releases hconsistent (by simp [Harmless]) hphase rfl rfl rfl rfl
  | sends => exact hs.keeps (by simp [Harmless]) Iff.rfl rfl rfl rfl
  | sendsInVain => exact hs.keeps (by simp [Harmless]) Iff.rfl rfl rfl rfl
  | skips => exact hs.keeps (by simp [Harmless]) Iff.rfl rfl rfl rfl
  | connects q hq hphase =>
    exact hs.keeps (by simp [Harmless]) (by simp [hphase]) rfl rfl rfl
  | repeats => exact hs.keeps (by simp [Harmless]) Iff.rfl rfl rfl rfl
  | waits => exact hs.keeps (by simp [Harmless]) Iff.rfl rfl rfl rfl
  | delivers => exact hs.keeps (by simp [Harmless]) Iff.rfl rfl rfl rfl
  | fails error q hq hphase => exact hs.fails hconsistent hphase error q
  | ends q hq hphase => exact hs.releases hconsistent (by simp [Harmless]) hphase rfl rfl rfl rfl

theorem Consistent.distinct {s : Subscription η} (h : s.Consistent)
    : (s.links.map LinkRecord.generation).Nodup := by
  rw [List.Nodup, List.pairwise_map]
  exact h.increasing.imp Nat.ne_of_lt

theorem Consistent.closes_eq {s : Subscription η} (h : s.Consistent) (link : Nat) (l : LinkRecord)
    (hl : s.links[link]? = some l)
    : l.closes = if s.held = some link then 0 else 1 := by
  by_cases hphase : s.phase = .closed
  . obtain ⟨hheld, hclosed⟩ := h.closed hphase
    simp [hheld, (hclosed l (List.mem_of_getElem? hl)).2]
  . obtain ⟨earlier, hlinks, hheld, hearlier⟩ := h.live hphase
    rw [hlinks] at hl
    rw [hheld]
    rcases Nat.lt_trichotomy link earlier.length with hlt | rfl | hgt
    . -- Only the last link is held, and all before it have been closed.
      rw [List.getElem?_append_left hlt] at hl
      simp [(hearlier l (List.mem_of_getElem? hl)).2, Nat.ne_of_gt hlt]
    . simp at hl
      simp [← hl]
    . have : (earlier ++ [(⟨s.generation, 0⟩ : LinkRecord)])[link]? = none := by
        simp
        omega
      simp [this] at hl

theorem Consistent.sound {s : Subscription η} {h : List (Moment η)} (hs : s.Consistent)
    (hh : s.Told h)
    : s.Sound h where
  held_iff := by
    by_cases hphase : s.phase = .closed
    . simp [(hs.closed hphase).1, hphase]
    . obtain ⟨earlier, -, hheld, -⟩ := hs.live hphase
      simp [hheld, hphase]
  held_last := by
    intro link hlink
    by_cases hphase : s.phase = .closed
    . simp [(hs.closed hphase).1] at hlink
    . obtain ⟨earlier, hlinks, hheld, -⟩ := hs.live hphase
      obtain rfl := Option.some.inj (hheld.symm.trans hlink)
      simp [hlinks]
  pending_eq_nil := hs.pending
  lastError_iff := by
    intro error
    by_cases hphase : s.phase = .closed
    . simp [hh.closed hphase, hphase]
    . simp [hs.lastError hphase, hphase]
  generation_live := by
    intro hphase
    obtain ⟨earlier, hlinks, -, -⟩ := hs.live hphase
    simp [hlinks]
  generation_closed hphase l hl := Nat.ne_of_lt ((hs.closed hphase).2 l hl).1
  distinct := hs.distinct
  closes_eq := hs.closes_eq

theorem Moves.phaseStep {s t : Subscription η} {op : Op η} {ms : List (Moment η)}
    (hm : Moves s op ms t) (h : s.Consistent)
    : s.PhaseStep op t := by
  cases hm with
  | stays => exact .stays rfl rfl
  | binds => exact .stays rfl rfl
  | opens hphase => exact .connecting hphase rfl rfl
  | closes hphase => exact .closed hphase rfl s.generations_release
  | drops => exact .stays rfl rfl
  | dropsLive hphase => exact .closed hphase rfl s.generations_release
  | sends => exact .stays rfl rfl
  | sendsInVain => exact .stays rfl rfl
  | skips => exact .stays rfl rfl
  | connects q hq hphase =>
    have hheld : s.heldGeneration? = some s.generation := by
      simp [h.heldGeneration?, hphase]
    exact .opened hphase rfl hheld (by simp [hq]) rfl
  | repeats => exact .stays rfl rfl
  | waits => exact .stays rfl rfl
  | delivers => exact .stays rfl rfl
  | fails error q hq hphase => exact .closed hphase rfl s.generations_release
  | ends q hq hphase => exact .closed hphase rfl s.generations_release

theorem alive_step_drop (s : Subscription η) : (s.step .drop).1.alive = false := by
  unfold step
  split
  . rfl
  . simpa using ‹¬ s.alive = true›

theorem closes_eq_one_of_dropped (ops rest : List (Op η)) (l : LinkRecord)
    (hl : l ∈ (fresh.run (ops ++ .drop :: rest)).1.links)
    : l.closes = 1 := by
  have hconsistent := consistent_run (ops ++ .drop :: rest)
  have hdead : (fresh.run (ops ++ .drop :: rest)).1.alive = false := by
    have := alive_step_drop (fresh.run ops).1
    simp only [run_append, run]
    rw [run_of_dead this, this]
  exact ((hconsistent.closed (hconsistent.dead hdead)).2 l hl).2

/--
In whatever order things are done, a subscription is sound, its phase changes in the known ways
only, and once it has ended every link has been closed exactly once.
-/
theorem lifecycle_run (ops : List (Op η))
    : (fresh.run ops).1.Sound (fresh.history ops)
        ∧ (∀ op, op ≠ .pump → (fresh.run ops).1.PhaseStep op ((fresh.run ops).1.step op).1)
        ∧ (fresh.run ops).1.step .pump
          = (fresh.run ops).1.run (List.replicate (fresh.run ops).1.queue.length .next)
        ∧ ∀ rest, ∀ l ∈ (fresh.run (ops ++ .drop :: rest)).1.links, l.closes = 1 := by
  obtain ⟨hconsistent, htold⟩ := moves_induction told_fresh
    (fun hconsistent hm hs => Told.moves hconsistent hm hs) ops
  refine ⟨hconsistent.sound htold, fun op hop => ?_, step_pump _, closes_eq_one_of_dropped ops⟩
  exact (hconsistent.moves_step hop).phaseStep hconsistent

end Subscription

end LiveTopology
