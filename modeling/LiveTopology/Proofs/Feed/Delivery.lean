import LiveTopology.Proofs.Feed.Moves

/-!
This module contains how the frames of a link reach the table of handlers: in the order in which the
link has sent them, without gaps, and not before the link is known to be connected.
-/

namespace LiveTopology

/-- Whether `P` holds of every element of a list and those before it. -/
def Always {α : Type} (P : List α → α → Prop) (l : List α) : Prop :=
  ∀ past x rest, l = past ++ x :: rest → P past x

section Always

variable {α : Type} {P : List α → α → Prop}

theorem always_nil : Always P [] := by
  intro past x rest h
  simp at h

theorem always_cons {x : α} {l : List α}
    : Always P (x :: l) ↔ P [] x ∧ Always (fun past y => P (x :: past) y) l := by
  constructor
  . intro h
    refine ⟨h [] x l rfl, fun past y rest hl => ?_⟩
    exact h (x :: past) y rest (by simp [hl])
  . rintro ⟨hx, hl⟩ past y rest h
    cases past with
    | nil =>
      obtain ⟨rfl, -⟩ := List.cons.inj h
      exact hx
    | cons z past =>
      obtain ⟨rfl, htail⟩ := List.cons.inj h
      exact hl past y rest htail

theorem always_append {l l' : List α}
    : Always P (l ++ l') ↔ Always P l ∧ Always (fun past y => P (l ++ past) y) l' := by
  induction l generalizing P with
  | nil => simp [always_nil]
  | cons x l ih => simp [always_cons, ih, and_assoc]

theorem always_of_forall {l : List α}
    (h : ∀ past x, (∀ y ∈ past, y ∈ l) → x ∈ l → P past x)
    : Always P l := by
  intro past x rest hl
  apply h past x
  . intro y hy
    simp [hl, hy]
  . simp [hl]

end Always

namespace Moment

variable {η : Type}

def sentBy? (link : Nat) : Moment η → Option Frame
  | .sent l (.frame frame) => if l = link then some frame else none
  | _ => none

/-- The frame that is handled at that moment for the link of that generation, while it is held. -/
def acceptedFrom? (generation : Nat) : Moment η → Option Frame
  | .handled ⟨g, .frame frame⟩ true => if g = generation then some frame else none
  | _ => none

def releasedFrom? (generation : Nat) : Moment η → Option Frame
  | .noticed (.released g frame) => if g = generation then some frame else none
  | _ => none

end Moment

def Envelope.frameOf? (generation : Nat) : Envelope → Option Frame
  | ⟨g, .frame frame⟩ => if g = generation then some frame else none
  | _ => none

namespace Subscription

variable {η : Type}

def sentFrames (link : Nat) (h : List (Moment η)) : List Frame :=
  h.filterMap (Moment.sentBy? link)

def acceptedFrames (generation : Nat) (h : List (Moment η)) : List Frame :=
  h.filterMap (Moment.acceptedFrom? generation)

def releasedFrames (generation : Nat) (h : List (Moment η)) : List Frame :=
  h.filterMap (Moment.releasedFrom? generation)

def queuedFrames (generation : Nat) (q : List Envelope) : List Frame :=
  q.filterMap (Envelope.frameOf? generation)

/-- How the frames of all links have left a subscription with the history `h`. -/
structure Delivered (s : Subscription η) (h : List (Moment η)) : Prop where
  /-- The generation of a report tells which link it comes from. -/
  increasing : s.links.Pairwise fun a b => a.generation < b.generation
  /-- What has left of a link's frames is what the link has sent first. -/
  prefix_sent : ∀ link l, s.links[link]? = some l →
    releasedFrames l.generation h <+: sentFrames link h
  /-- No frame leaves without a link. -/
  of_link : ∀ generation frame, .noticed (.released generation frame) ∈ h →
    ∃ l ∈ s.links, l.generation = generation
  /-- A frame leaves only after its link, while it was held, has said that it is connected. -/
  connected_first : ∀ past rest generation frame,
    h = past ++ .noticed (.released generation frame) :: rest →
      Moment.handled ⟨generation, .connected⟩ true ∈ past
  /--
  Before a link has said so nothing of it leaves, and whenever another frame of it is handled
  afterwards, all that were handled before have left.
  -/
  waiting_first : ∀ past rest generation frame,
    h = past ++ .handled ⟨generation, .frame frame⟩ true :: rest →
      (Moment.handled ⟨generation, .connected⟩ true ∉ past → releasedFrames generation past = [])
        ∧ (Moment.handled ⟨generation, .connected⟩ true ∈ past →
          releasedFrames generation past = acceptedFrames generation past)
  /-- After a frame of a later link, none of an earlier one leaves. -/
  links_in_order : ∀ (i j : Nat) (a b : LinkRecord), i < j → s.links[i]? = some a → s.links[j]? = some b →
    ∀ past rest frame, h = past ++ .noticed (.released b.generation frame) :: rest →
      releasedFrames a.generation rest = []

section Frames

variable (link generation : Nat) (h h' : List (Moment η)) (notices : List (Notice η))

theorem sentFrames_append
    : sentFrames link (h ++ h') = sentFrames link h ++ sentFrames link h' := by
  simp [sentFrames]

theorem acceptedFrames_append
    : acceptedFrames generation (h ++ h')
        =
      acceptedFrames generation h ++ acceptedFrames generation h' := by
  simp [acceptedFrames]

theorem releasedFrames_append
    : releasedFrames generation (h ++ h')
        =
      releasedFrames generation h ++ releasedFrames generation h' := by
  simp [releasedFrames]

theorem sentFrames_handled (envelope : Envelope) (held : Bool)
    : sentFrames link (.handled envelope held :: h) = sentFrames link h :=
  rfl

theorem releasedFrames_handled (envelope : Envelope) (held : Bool)
    : releasedFrames generation (.handled envelope held :: h) = releasedFrames generation h :=
  rfl

theorem sentFrames_notices : sentFrames link (notices.map (.noticed (η := η))) = [] := by
  simp [sentFrames, Moment.sentBy?]

theorem acceptedFrames_notices
    : acceptedFrames generation (notices.map (.noticed (η := η))) = [] := by
  simp [acceptedFrames, Moment.acceptedFrom?]

theorem releasedFrames_notices {frames : List Frame} {g : Nat}
    (hnotices : notices.filterMap Notice.released? = frames.map fun f => (g, f))
    : releasedFrames generation (notices.map .noticed) = if g = generation then frames else [] := by
  have hcomp : Moment.releasedFrom? generation ∘ Moment.noticed (η := η)
      = fun notice => (notice.released?).bind fun (g, f) =>
          if g = generation then some f else none := by
    funext notice
    cases notice <;> rfl
  rw [releasedFrames, List.filterMap_map, hcomp, ← List.filterMap_filterMap, hnotices,
    List.filterMap_map]
  split
  . next heq =>
    simp only [Function.comp_def, heq, if_true, List.filterMap_some]
  . next hne =>
    simp only [Function.comp_def, hne, if_false]
    rw [List.filterMap_eq_nil_iff]
    intros
    rfl

theorem releasedFrames_of_none (hnotices : notices.filterMap Notice.released? = [])
    : releasedFrames generation (notices.map .noticed) = [] := by
  have hnone : notices.filterMap Notice.released? = ([] : List Frame).map fun f => (0, f) := hnotices
  rw [releasedFrames_notices generation notices hnone, ite_self]

theorem generation_of_released {frames : List Frame} {g : Nat}
    (hnotices : notices.filterMap Notice.released? = frames.map fun f => (g, f)) (frame : Frame)
    (hmem : Moment.noticed (.released generation frame) ∈ notices.map (.noticed (η := η)))
    : generation = g := by
  have : (generation, frame) ∈ notices.filterMap Notice.released? := by
    simp only [List.mem_map, Moment.noticed.injEq, exists_eq_right] at hmem
    exact List.mem_filterMap.2 ⟨_, hmem, rfl⟩
  rw [hnotices] at this
  obtain ⟨f, -, heq⟩ := List.mem_map.1 this
  exact (Prod.mk.inj heq).1.symm

end Frames

/-- What a history says about the frames of all links. -/
structure Flow (s : Subscription η) (h : List (Moment η)) : Prop where
  queued_le : ∀ envelope ∈ s.queue, envelope.generation ≤ s.generation
  handled_le : ∀ envelope held, .handled envelope held ∈ h → envelope.generation ≤ s.generation
  sender_lt : ∀ link event, .sent link event ∈ h → link < s.links.length
  of_link : ∀ generation frame, .noticed (.released generation frame) ∈ h →
    generation ∈ s.links.map LinkRecord.generation
  prefix_sent : ∀ link generation, (s.links.map LinkRecord.generation)[link]? = some generation →
    releasedFrames generation h <+: sentFrames link h

/-- What a history says about the frames of the link that is held. -/
structure Current (s : Subscription η) (h : List (Moment η)) : Prop where
  /-- Each frame that the link has sent has left or waits, or its report does. -/
  sent_eq : sentFrames (s.links.length - 1) h
    = releasedFrames s.generation h ++ s.pending ++ queuedFrames s.generation s.queue
  accepted_eq : acceptedFrames s.generation h = releasedFrames s.generation h ++ s.pending
  released_eq_nil : s.phase = .connecting → releasedFrames s.generation h = []
  connected_iff : Moment.handled ⟨s.generation, .connected⟩ true ∈ h ↔ s.phase = .opened

/-- What has come before a frame leaves, and before one is handled. -/
def Orderly (past : List (Moment η)) (moment : Moment η) : Prop :=
  (∀ generation frame, moment = .noticed (.released generation frame) →
    Moment.handled ⟨generation, .connected⟩ true ∈ past
      ∧ ∀ g f, .noticed (.released g f) ∈ past → g ≤ generation)
  ∧ ∀ generation frame, moment = .handled ⟨generation, .frame frame⟩ true →
    (Moment.handled ⟨generation, .connected⟩ true ∉ past → releasedFrames generation past = [])
      ∧ (Moment.handled ⟨generation, .connected⟩ true ∈ past →
        releasedFrames generation past = acceptedFrames generation past)

structure Traced (s : Subscription η) (h : List (Moment η)) : Prop where
  flow : s.Flow h
  current : s.phase ≠ .closed → s.Current h
  orderly : Always Orderly h

theorem Flow.released_le {s : Subscription η} {h : List (Moment η)} (hs : s.Flow h)
    (hconsistent : s.Consistent) {generation : Nat} {frame : Frame}
    (hmem : .noticed (.released generation frame) ∈ h)
    : generation ≤ s.generation := by
  obtain ⟨l, hl, rfl⟩ := List.mem_map.1 (hs.of_link generation frame hmem)
  exact hconsistent.generation_le l hl

theorem Flow.quiet {s t : Subscription η} {h ms : List (Moment η)} (hs : s.Flow h)
    (hlinks : t.links.map LinkRecord.generation = s.links.map LinkRecord.generation)
    (hgeneration : s.generation ≤ t.generation)
    (hqueue : ∀ envelope ∈ t.queue, envelope ∈ s.queue ∨ envelope.generation ≤ s.generation)
    (hhandled : ∀ envelope held, .handled envelope held ∈ ms → envelope ∈ s.queue)
    (hsent : ∀ link event, .sent link event ∈ ms → link < s.links.length)
    (hreleased : ∀ generation frame, .noticed (.released generation frame) ∉ ms)
    : t.Flow (h ++ ms) := by
  have hlength : t.links.length = s.links.length := by
    simpa using congrArg List.length hlinks
  have hnone (generation : Nat) : releasedFrames generation ms = [] := by
    rw [releasedFrames, List.filterMap_eq_nil_iff]
    intro moment hmem
    unfold Moment.releasedFrom?
    split
    . exact absurd hmem (hreleased _ _)
    . rfl
  refine ⟨fun envelope hmem => ?_, fun envelope held hmem => ?_, fun link event hmem => ?_,
    fun generation frame hmem => ?_, fun link generation hlink => ?_⟩
  . rcases hqueue envelope hmem with hmem | hle
    . exact Nat.le_trans (hs.queued_le envelope hmem) hgeneration
    . exact Nat.le_trans hle hgeneration
  . rcases List.mem_append.1 hmem with hmem | hmem
    . exact Nat.le_trans (hs.handled_le envelope held hmem) hgeneration
    . exact Nat.le_trans (hs.queued_le envelope (hhandled envelope held hmem)) hgeneration
  . rw [hlength]
    rcases List.mem_append.1 hmem with hmem | hmem
    . exact hs.sender_lt link event hmem
    . exact hsent link event hmem
  . rw [hlinks]
    rcases List.mem_append.1 hmem with hmem | hmem
    . exact hs.of_link generation frame hmem
    . exact absurd hmem (hreleased generation frame)
  . -- What has left stays the same, and what has been sent can only grow.
    rw [hlinks] at hlink
    rw [releasedFrames_append, sentFrames_append, hnone, List.append_nil]
    exact (hs.prefix_sent link generation hlink).trans (List.prefix_append _ _)

section Unseen

variable {s : Subscription η} {h : List (Moment η)} (hs : s.Flow h) {generation : Nat}
include hs

theorem Flow.sentFrames_eq_nil {link : Nat} (hlink : s.links.length ≤ link)
    : sentFrames link h = [] := by
  rw [sentFrames, List.filterMap_eq_nil_iff]
  intro moment hmem
  unfold Moment.sentBy?
  split
  . next l frame =>
    have := hs.sender_lt l _ hmem
    rw [if_neg (by omega)]
  . rfl

theorem Flow.acceptedFrames_eq_nil (hlt : s.generation < generation)
    : acceptedFrames generation h = [] := by
  rw [acceptedFrames, List.filterMap_eq_nil_iff]
  intro moment hmem
  unfold Moment.acceptedFrom?
  split
  . next g frame =>
    have : g ≤ s.generation := hs.handled_le _ _ hmem
    rw [if_neg (by omega)]
  . rfl

theorem Flow.queuedFrames_eq_nil (hlt : s.generation < generation)
    : queuedFrames generation s.queue = [] := by
  rw [queuedFrames, List.filterMap_eq_nil_iff]
  intro envelope hmem
  unfold Envelope.frameOf?
  split
  . next g frame =>
    have : g ≤ s.generation := hs.queued_le _ hmem
    rw [if_neg (by omega)]
  . rfl

theorem Flow.releasedFrames_eq_nil (hconsistent : s.Consistent) (hlt : s.generation < generation)
    : releasedFrames generation h = [] := by
  rw [releasedFrames, List.filterMap_eq_nil_iff]
  intro moment hmem
  unfold Moment.releasedFrom?
  split
  . next g frame =>
    have := hs.released_le hconsistent hmem
    rw [if_neg (by omega)]
  . rfl

end Unseen

theorem Flow.opens {s : Subscription η} {h : List (Moment η)} (hs : s.Flow h)
    (hconsistent : s.Consistent) {t : Subscription η} {notice : Notice η}
    (hlinks : t.links = s.links ++ [⟨s.generation + 1, 0⟩])
    (hgeneration : t.generation = s.generation + 1) (hqueue : t.queue = s.queue)
    (hnotice : notice.released? = none)
    : t.Flow (h ++ [.noticed notice]) := by
  have hreleased (generation : Nat) (frame : Frame)
      (hmem : Moment.noticed (.released generation frame) ∈ h ++ [.noticed notice])
      : Moment.noticed (.released generation frame) ∈ h := by
    rcases List.mem_append.1 hmem with hmem | hmem
    . exact hmem
    . have : Notice.released generation frame = notice := by simpa using hmem
      rw [← this] at hnotice
      contradiction
  refine ⟨fun envelope hmem => ?_, fun envelope held hmem => ?_, fun link event hmem => ?_,
    fun generation frame hmem => ?_, fun link generation hlink => ?_⟩
  . rw [hqueue] at hmem
    have := hs.queued_le envelope hmem
    omega
  . have := hs.handled_le envelope held (by simpa using hmem)
    omega
  . have := hs.sender_lt link event (by simpa using hmem)
    simp [hlinks]
    omega
  . have := hs.of_link generation frame (hreleased generation frame hmem)
    simp [hlinks] at this ⊢
    exact Or.inl this
  . have hnone (generation : Nat) : releasedFrames generation [Moment.noticed notice] = [] := by
      have := releasedFrames_of_none generation [notice] (by simp [hnotice])
      simpa using this
    rw [releasedFrames_append, sentFrames_append, hnone, List.append_nil]
    rw [hlinks, List.map_append] at hlink
    by_cases hlt : link < s.links.length
    . rw [List.getElem?_append_left (by simpa using hlt)] at hlink
      exact (hs.prefix_sent link generation hlink).trans (List.prefix_append _ _)
    . -- Nothing of the new link has left, as its generation is greater than all others.
      have hnew : generation = s.generation + 1 := by
        have hmem := List.mem_of_getElem? hlink
        rw [List.getElem?_append_right (by simpa using hlt)] at hlink
        have := List.mem_of_getElem? hlink
        simpa using this
      rw [hs.releasedFrames_eq_nil hconsistent (by omega)]
      exact List.nil_prefix

theorem Consistent.link_of_generation {s : Subscription η} (h : s.Consistent)
    (hlive : s.phase ≠ .closed) {link : Nat}
    (hlink : (s.links.map LinkRecord.generation)[link]? = some s.generation)
    : link = s.links.length - 1 := by
  obtain ⟨earlier, hlinks, -, hearlier⟩ := h.live hlive
  rw [hlinks] at hlink ⊢
  by_cases hlt : link < earlier.length
  . -- An earlier link has a lesser generation.
    rw [List.map_append, List.getElem?_append_left (by simpa using hlt)] at hlink
    obtain ⟨l, hl, heq⟩ := List.mem_map.1 (List.mem_of_getElem? hlink)
    have := (hearlier l hl).1
    omega
  . have := (List.getElem?_eq_some_iff.1 hlink).1
    simp at this ⊢
    omega

/-- Frames leave that are the next ones of the link that is held. -/
theorem Flow.releases {s t : Subscription η} {h : List (Moment η)} (hs : s.Flow h)
    (hconsistent : s.Consistent) (hlive : s.phase ≠ .closed) (hcurrent : s.Current h)
    {envelope : Envelope} {q : List Envelope} (hq : s.queue = envelope :: q)
    {notices : List (Notice η)} {frames : List Frame}
    (hnotices : notices.filterMap Notice.released? = frames.map fun f => (s.generation, f))
    (hframes : frames <+: s.pending ++ queuedFrames s.generation s.queue)
    (hlinks : t.links = s.links) (hgeneration : t.generation = s.generation) (hqueue : t.queue = q)
    : t.Flow (h ++ .handled envelope true :: notices.map .noticed) := by
  have hlast : s.generation ∈ s.links.map LinkRecord.generation := by
    obtain ⟨earlier, hlinks, -, -⟩ := hconsistent.live hlive
    simp [hlinks]
  have hsent (link : Nat)
      : sentFrames link (h ++ .handled envelope true :: notices.map .noticed)
        = sentFrames link h := by
    rw [sentFrames_append, sentFrames_handled, sentFrames_notices, List.append_nil]
  have hreleased (generation : Nat)
      : releasedFrames generation (h ++ .handled envelope true :: notices.map .noticed)
        = releasedFrames generation h ++ if s.generation = generation then frames else [] := by
    rw [releasedFrames_append, releasedFrames_handled, releasedFrames_notices _ _ hnotices]
  refine ⟨fun e hmem => ?_, fun e held hmem => ?_, fun link event hmem => ?_,
    fun generation frame hmem => ?_, fun link generation hlink => ?_⟩
  . rw [hqueue] at hmem
    rw [hgeneration]
    exact hs.queued_le e (by simp [hq, hmem])
  . rw [hgeneration]
    rcases List.mem_append.1 hmem with hmem | hmem
    . exact hs.handled_le e held hmem
    . obtain ⟨rfl, -⟩ : e = envelope ∧ held = true := by simpa using hmem
      exact hs.queued_le e (by simp [hq])
  . rw [hlinks]
    exact hs.sender_lt link event (by simpa using hmem)
  . rw [hlinks]
    rcases List.mem_append.1 hmem with hmem | hmem
    . exact hs.of_link generation frame hmem
    . have hmem : Moment.noticed (.released generation frame) ∈ notices.map .noticed := by
        simpa using hmem
      rw [generation_of_released generation notices hnotices frame hmem]
      exact hlast
  . rw [hlinks] at hlink
    rw [hsent, hreleased]
    split
    . next heq =>
      -- The link that is held has sent the frames right behind those that have left.
      subst heq
      rw [hconsistent.link_of_generation hlive hlink, hcurrent.sent_eq, List.append_assoc]
      exact (List.prefix_append_right_inj _).2 hframes
    . rw [List.append_nil]
      exact hs.prefix_sent link generation hlink

theorem current_opens {s t : Subscription η} {h : List (Moment η)} (hs : s.Flow h)
    (hconsistent : s.Consistent) {notice : Notice η}
    (hlinks : t.links = s.links ++ [⟨s.generation + 1, 0⟩])
    (hgeneration : t.generation = s.generation + 1) (hqueue : t.queue = s.queue)
    (hphase : t.phase = .connecting) (hpending : t.pending = [])
    (hnotice : notice.released? = none)
    : t.Current (h ++ [.noticed notice]) := by
  have hreleased : releasedFrames t.generation (h ++ [.noticed notice]) = [] := by
    have := releasedFrames_of_none t.generation [notice] (by simp [hnotice])
    rw [releasedFrames_append, hs.releasedFrames_eq_nil hconsistent (by omega)]
    simpa using this
  refine ⟨?_, ?_, fun _ => hreleased, ?_⟩
  . have hsent := hs.sentFrames_eq_nil (Nat.le_refl s.links.length)
    have hnotices := sentFrames_notices s.links.length [notice]
    rw [hreleased, hpending, hqueue, hs.queuedFrames_eq_nil (by omega), sentFrames_append]
    simpa [hlinks, hsent] using hnotices
  . have hnotices := acceptedFrames_notices t.generation [notice]
    rw [hreleased, hpending, acceptedFrames_append, hs.acceptedFrames_eq_nil (by omega)]
    simpa using hnotices
  . -- The generation is new, so that no report of it has been handled.
    rw [hphase]
    simp only [List.mem_append, List.mem_singleton, reduceCtorEq, or_false, iff_false]
    intro hmem
    have := hs.handled_le _ _ hmem
    dsimp at this
    omega

theorem Current.sends {s : Subscription η} {h : List (Moment η)} (hs : s.Current h)
    (hconsistent : s.Consistent) (hlive : s.phase ≠ .closed) {link : Nat} {l : LinkRecord}
    (hl : s.links[link]? = some l) (event : LinkEvent)
    : (s.withQueue (s.queue ++ [⟨l.generation, event⟩])).Current (h ++ [.sent link event]) := by
  have hiff : link = s.links.length - 1 ↔ l.generation = s.generation := by
    constructor
    . rintro rfl
      obtain ⟨earlier, hlinks, -, -⟩ := hconsistent.live hlive
      rw [hlinks] at hl
      simp at hl
      simp [← hl]
    . intro heq
      apply hconsistent.link_of_generation hlive
      simp [hl, heq]
  have hframes : sentFrames (s.links.length - 1) [Moment.sent (η := η) link event]
      = queuedFrames s.generation [⟨l.generation, event⟩] := by
    cases event with
    | frame frame =>
      simp only [sentFrames, queuedFrames, List.filterMap_cons, List.filterMap_nil, Moment.sentBy?,
        Envelope.frameOf?, hiff]
    | _ => rfl
  have hreleased : releasedFrames s.generation (h ++ [.sent link event])
      = releasedFrames s.generation h := by
    simp [releasedFrames, Moment.releasedFrom?]
  refine ⟨?_, ?_, ?_, ?_⟩
  . show sentFrames (s.links.length - 1) (h ++ [.sent link event])
      = releasedFrames s.generation (h ++ [.sent link event]) ++ s.pending
        ++ queuedFrames s.generation (s.queue ++ [⟨l.generation, event⟩])
    rw [sentFrames_append, hs.sent_eq, hframes, hreleased]
    simp [queuedFrames]
  . show acceptedFrames s.generation (h ++ [.sent link event])
      = releasedFrames s.generation (h ++ [.sent link event]) ++ s.pending
    rw [hreleased, ← hs.accepted_eq]
    simp [acceptedFrames, Moment.acceptedFrom?]
  . intro hphase
    exact hreleased.trans (hs.released_eq_nil hphase)
  . show Moment.handled ⟨s.generation, .connected⟩ true ∈ h ++ [.sent link event]
      ↔ s.phase = .opened
    rw [← hs.connected_iff]
    simp

theorem Current.skips {s : Subscription η} {h : List (Moment η)} (hs : s.Current h)
    {envelope : Envelope} {q : List Envelope} (hq : s.queue = envelope :: q)
    (hne : envelope.generation ≠ s.generation)
    : (s.withQueue q).Current (h ++ [.handled envelope false]) := by
  have hqueued : queuedFrames s.generation s.queue = queuedFrames s.generation q := by
    have : envelope.frameOf? s.generation = none := by
      unfold Envelope.frameOf?
      split
      . exact if_neg hne
      . rfl
    rw [hq, queuedFrames, List.filterMap_cons_none this, queuedFrames]
  have hreleased : releasedFrames s.generation (h ++ [.handled envelope false])
      = releasedFrames s.generation h := by
    simp [releasedFrames, Moment.releasedFrom?]
  refine ⟨?_, ?_, ?_, ?_⟩
  . show sentFrames (s.links.length - 1) (h ++ [.handled envelope false])
      = releasedFrames s.generation (h ++ [.handled envelope false]) ++ s.pending
        ++ queuedFrames s.generation q
    rw [hreleased, ← hqueued, ← hs.sent_eq]
    simp [sentFrames, Moment.sentBy?]
  . show acceptedFrames s.generation (h ++ [.handled envelope false])
      = releasedFrames s.generation (h ++ [.handled envelope false]) ++ s.pending
    rw [hreleased, ← hs.accepted_eq]
    simp [acceptedFrames, Moment.acceptedFrom?]
  . intro hphase
    exact hreleased.trans (hs.released_eq_nil hphase)
  . show Moment.handled ⟨s.generation, .connected⟩ true ∈ h ++ [.handled envelope false]
      ↔ s.phase = .opened
    rw [← hs.connected_iff]
    simp

/-- A report of the link that is held is handled. Then `frames` leave, and others wait. -/
theorem Current.handles {s t : Subscription η} {h : List (Moment η)} (hs : s.Current h)
    {event : LinkEvent} {q : List Envelope} (hq : s.queue = ⟨s.generation, event⟩ :: q)
    {notices : List (Notice η)} {frames : List Frame}
    (hnotices : notices.filterMap Notice.released? = frames.map fun f => (s.generation, f))
    (hlinks : t.links = s.links) (hgeneration : t.generation = s.generation) (hqueue : t.queue = q)
    (hsplit : s.pending ++ queuedFrames s.generation [⟨s.generation, event⟩]
      = frames ++ t.pending)
    (hconnecting : t.phase = .connecting → s.phase = .connecting ∧ frames = [])
    (hopened : t.phase = .opened ↔ event = .connected ∨ s.phase = .opened)
    : t.Current (h ++ .handled ⟨s.generation, event⟩ true :: notices.map .noticed) := by
  have hreleased : releasedFrames s.generation
        (h ++ .handled ⟨s.generation, event⟩ true :: notices.map .noticed)
      = releasedFrames s.generation h ++ frames := by
    rw [releasedFrames_append, releasedFrames_handled, releasedFrames_notices _ _ hnotices,
      if_pos rfl]
  have haccepted : acceptedFrames s.generation
        (.handled ⟨s.generation, event⟩ true :: notices.map .noticed)
      = queuedFrames s.generation [⟨s.generation, event⟩] := by
    have hnone := acceptedFrames_notices s.generation notices
    cases event with
    | frame frame =>
      simp [acceptedFrames, queuedFrames, Moment.acceptedFrom?, Envelope.frameOf?]
    | _ => exact hnone
  refine ⟨?_, ?_, fun hphase => ?_, ?_⟩
  . rw [hlinks, hgeneration, hqueue, hreleased, sentFrames_append, sentFrames_handled,
      sentFrames_notices, List.append_nil, hs.sent_eq, hq, List.append_assoc _ frames,
      ← hsplit]
    simp [queuedFrames, List.filterMap_cons]
    split <;> simp
  . rw [hgeneration, hreleased, acceptedFrames_append, haccepted, hs.accepted_eq,
      List.append_assoc, hsplit, List.append_assoc]
  . obtain ⟨hfrom, rfl⟩ := hconnecting hphase
    rw [hgeneration, hreleased, hs.released_eq_nil hfrom, List.append_nil]
  . rw [hgeneration, hopened, ← hs.connected_iff]
    simp [or_comm, eq_comm]

theorem orderly_quiet {h ms : List (Moment η)}
    (hreleased : ∀ generation frame, .noticed (.released generation frame) ∉ ms)
    (hhandled : ∀ generation frame, .handled ⟨generation, .frame frame⟩ true ∉ ms)
    : Always (fun past moment => Orderly (h ++ past) moment) ms := by
  apply always_of_forall
  intro past moment _ hmem
  refine ⟨fun generation frame heq => ?_, fun generation frame heq => ?_⟩
  . exact absurd (heq ▸ hmem) (hreleased generation frame)
  . exact absurd (heq ▸ hmem) (hhandled generation frame)

theorem Current.orderly_handled {s : Subscription η} {h : List (Moment η)} (hs : s.Current h)
    (hconsistent : s.Consistent) (hlive : s.phase ≠ .closed) (event : LinkEvent)
    : Orderly h (.handled ⟨s.generation, event⟩ true) := by
  refine ⟨by simp, fun generation frame heq => ?_⟩
  obtain ⟨⟨rfl, -⟩, -⟩ : (s.generation = generation ∧ event = .frame frame) ∧ True := by
    simpa using heq
  rw [hs.connected_iff]
  constructor
  . intro hphase
    apply hs.released_eq_nil
    cases h : s.phase <;> simp_all
  . intro hphase
    simp [hs.accepted_eq, hconsistent.pending (by simp [hphase])]

theorem orderly_releases {s : Subscription η} {h : List (Moment η)} (hs : s.Flow h)
    (hconsistent : s.Consistent) {event : LinkEvent} {notices : List (Notice η)}
    {frames : List Frame}
    (hnotices : notices.filterMap Notice.released? = frames.map fun f => (s.generation, f))
    (hhandled : Orderly h (.handled ⟨s.generation, event⟩ true))
    (hconnected : event = .connected ∨ Moment.handled ⟨s.generation, .connected⟩ true ∈ h)
    : Always (fun past moment => Orderly (h ++ past) moment)
        (.handled ⟨s.generation, event⟩ true :: notices.map .noticed) := by
  rw [always_cons, List.append_nil]
  refine ⟨hhandled, always_of_forall fun past moment hpast hmem => ?_⟩
  refine ⟨fun generation frame heq => ?_, fun generation frame heq => ?_⟩
  . rw [heq] at hmem
    obtain rfl := generation_of_released generation notices hnotices frame hmem
    refine ⟨?_, fun g f hg => ?_⟩
    . rcases hconnected with rfl | hconnected
      . simp
      . simp [hconnected]
    . rcases List.mem_append.1 hg with hg | hg
      . exact hs.released_le hconsistent hg
      . have hg : .noticed (.released g f) ∈ past := by simpa using hg
        exact Nat.le_of_eq (generation_of_released g notices hnotices f (hpast _ hg))
  . simp [heq] at hmem

theorem not_released_of_notices {notices : List (Notice η)}
    (hnotices : notices.filterMap Notice.released? = []) (generation : Nat) (frame : Frame)
    : Moment.noticed (.released generation frame) ∉ notices.map .noticed := by
  intro hmem
  have : (generation, frame) ∈ notices.filterMap Notice.released? :=
    List.mem_filterMap.2 ⟨_, by simpa using hmem, rfl⟩
  simp [hnotices] at this

theorem Current.binds {s : Subscription η} {h : List (Moment η)} (hs : s.Current h)
    (tables : List (Dispatcher η)) {notices : List (Notice η)}
    (hnotices : notices.filterMap Notice.released? = [])
    : Current { s with tables } (h ++ notices.map .noticed) := by
  have hreleased (generation : Nat)
      : releasedFrames generation (h ++ notices.map .noticed) = releasedFrames generation h := by
    rw [releasedFrames_append, releasedFrames_of_none _ _ hnotices, List.append_nil]
  have hsent (link : Nat) : sentFrames link (h ++ notices.map .noticed) = sentFrames link h := by
    rw [sentFrames_append, sentFrames_notices, List.append_nil]
  have haccepted (generation : Nat)
      : acceptedFrames generation (h ++ notices.map .noticed) = acceptedFrames generation h := by
    rw [acceptedFrames_append, acceptedFrames_notices, List.append_nil]
  refine ⟨?_, ?_, fun hphase => ?_, ?_⟩
  . simpa only [hreleased, hsent] using hs.sent_eq
  . simpa only [hreleased, haccepted] using hs.accepted_eq
  . rw [hreleased]
    exact hs.released_eq_nil hphase
  . simpa using hs.connected_iff

section Traced

variable {s t : Subscription η} {h : List (Moment η)} (hs : s.Traced h)
include hs

/-- A move that lets no frame leave and lets none wait. -/
theorem Traced.quiet {ms : List (Moment η)}
    (hlinks : t.links.map LinkRecord.generation = s.links.map LinkRecord.generation)
    (hgeneration : s.generation ≤ t.generation)
    (hqueue : ∀ envelope ∈ t.queue, envelope ∈ s.queue ∨ envelope.generation ≤ s.generation)
    (hhandled : ∀ envelope held, .handled envelope held ∈ ms → envelope ∈ s.queue)
    (hsent : ∀ link event, .sent link event ∈ ms → link < s.links.length)
    (hreleased : ∀ generation frame, .noticed (.released generation frame) ∉ ms)
    (hframes : ∀ generation frame, .handled ⟨generation, .frame frame⟩ true ∉ ms)
    (hcurrent : t.phase ≠ .closed → t.Current (h ++ ms))
    : t.Traced (h ++ ms) where
  flow := hs.flow.quiet hlinks hgeneration hqueue hhandled hsent hreleased
  current := hcurrent
  orderly := always_append.2 ⟨hs.orderly, orderly_quiet hreleased hframes⟩

/-- A move that gives up the link that is held. -/
theorem Traced.gives_up {ms : List (Moment η)} (hlinks : t.links = s.release.links)
    (hgeneration : t.generation = s.release.generation) (hphase : t.phase = .closed)
    (hqueue : ∀ envelope ∈ t.queue, envelope ∈ s.queue)
    (hhandled : ∀ envelope held, .handled envelope held ∈ ms → envelope ∈ s.queue)
    (hsent : ∀ link event, .sent link event ∉ ms)
    (hreleased : ∀ generation frame, .noticed (.released generation frame) ∉ ms)
    (hframes : ∀ generation frame, .handled ⟨generation, .frame frame⟩ true ∉ ms)
    : t.Traced (h ++ ms) := by
  apply hs.quiet
  . rw [hlinks, generations_release]
  . rw [hgeneration]
    exact Nat.le_succ _
  . intro envelope hmem
    exact Or.inl (hqueue envelope hmem)
  . exact hhandled
  . intro link event hmem
    exact absurd hmem (hsent link event)
  . exact hreleased
  . exact hframes
  . intro hopen
    exact absurd hphase hopen

/-- A move that opens the link that is held, or finds it opened, and lets frames of it leave. -/
theorem Traced.releases (hconsistent : s.Consistent) (hlive : s.phase ≠ .closed)
    {event : LinkEvent} {q : List Envelope} (hq : s.queue = ⟨s.generation, event⟩ :: q)
    {notices : List (Notice η)} {frames : List Frame}
    (hnotices : notices.filterMap Notice.released? = frames.map fun f => (s.generation, f))
    (hlinks : t.links = s.links) (hgeneration : t.generation = s.generation) (hqueue : t.queue = q)
    (hphase : t.phase = .opened) (hopened : event = .connected ∨ s.phase = .opened)
    (hsplit : s.pending ++ queuedFrames s.generation [⟨s.generation, event⟩]
      = frames ++ t.pending)
    : t.Traced (h ++ .handled ⟨s.generation, event⟩ true :: notices.map .noticed) := by
  have hcurrent := hs.current hlive
  have hhandled := hcurrent.orderly_handled hconsistent hlive event
  have hqueued : queuedFrames s.generation s.queue
      = queuedFrames s.generation [⟨s.generation, event⟩] ++ queuedFrames s.generation q := by
    rw [hq, queuedFrames, queuedFrames, queuedFrames, ← List.filterMap_append]
    rfl
  have hframes : frames <+: s.pending ++ queuedFrames s.generation s.queue := by
    rw [hqueued, ← List.append_assoc, hsplit, List.append_assoc]
    apply List.prefix_append
  have hconnected : event = .connected ∨ Moment.handled ⟨s.generation, .connected⟩ true ∈ h := by
    rw [hcurrent.connected_iff]
    exact hopened
  constructor
  . exact hs.flow.releases hconsistent hlive hcurrent hq hnotices hframes hlinks hgeneration hqueue
  . intro _
    exact hcurrent.handles hq hnotices hlinks hgeneration hqueue hsplit (by simp [hphase])
      (by simp [hphase, hopened])
  . exact always_append.2 ⟨hs.orderly,
      orderly_releases hs.flow hconsistent hnotices hhandled hconnected⟩

end Traced

theorem Traced.moves {s t : Subscription η} {op : Op η} {h ms : List (Moment η)}
    (hconsistent : s.Consistent) (hm : Moves s op ms t) (hs : s.Traced h)
    : t.Traced (h ++ ms) := by
  have hnone : ([] : List (Notice η)).filterMap Notice.released?
      = ([] : List Frame).map fun f => (s.generation, f) := rfl
  have hkept (envelope : Envelope) (hmem : envelope ∈ s.queue)
      : envelope ∈ s.queue ∨ envelope.generation ≤ s.generation := Or.inl hmem
  cases hm with
  | stays => simpa using hs
  | binds routes tables notices hnotices =>
    exact hs.quiet rfl (Nat.le_refl _) hkept (by simp) (by simp) (not_released_of_notices hnotices)
      (by simp) fun hlive => (hs.current hlive).binds tables hnotices
  | opens hphase halive =>
    constructor
    . exact hs.flow.opens hconsistent rfl rfl rfl rfl
    . intro _
      exact current_opens hs.flow hconsistent rfl rfl rfl rfl rfl rfl
    . exact always_append.2 ⟨hs.orderly, orderly_quiet (by simp) (by simp)⟩
  | closes hphase =>
    exact hs.gives_up rfl rfl rfl (by simp [release]) (by simp) (by simp)
      (by simp) (by simp)
  | drops hphase =>
    exact hs.quiet rfl (Nat.le_refl _) (by simp) (by simp) (by simp) (by simp) (by simp)
      fun hlive => absurd hphase hlive
  | dropsLive hphase =>
    exact hs.gives_up rfl rfl rfl (by simp) (by simp) (by simp) (by simp)
      (by simp)
  | sends link l event hl =>
    obtain ⟨hlink, -⟩ := List.getElem?_eq_some_iff.1 hl
    have hle := hconsistent.generation_le l (List.mem_of_getElem? hl)
    have hqueue : ∀ envelope ∈ s.queue ++ [⟨l.generation, event⟩],
        envelope ∈ s.queue ∨ envelope.generation ≤ s.generation := by
      intro envelope hmem
      rcases List.mem_append.1 hmem with hmem | hmem
      . exact Or.inl hmem
      . rw [List.mem_singleton.1 hmem]
        exact Or.inr hle
    exact hs.quiet rfl (Nat.le_refl _) hqueue (by simp) (by simp [hlink]) (by simp) (by simp)
      fun hlive => (hs.current hlive).sends hconsistent hlive hl event
  | sendsInVain link event hlink halive =>
    exact hs.quiet rfl (Nat.le_refl _) hkept (by simp) (by simp [hlink]) (by simp) (by simp)
      fun hlive => absurd (hconsistent.dead halive) hlive
  | skips envelope q hq hheld =>
    have hne (hlive : s.phase ≠ .closed) : envelope.generation ≠ s.generation := by
      rw [hconsistent.heldGeneration?, if_neg hlive] at hheld
      exact fun heq => hheld (congrArg some heq.symm)
    exact hs.quiet rfl (Nat.le_refl _) (by simp +contextual [withQueue, hq]) (by simp [hq])
      (by simp) (by simp) (by simp) fun hlive => (hs.current hlive).skips hq (hne hlive)
  | connects q hq hphase tables notices hnotices =>
    have hlive : s.phase ≠ .closed := by simp [hphase]
    exact hs.releases hconsistent hlive hq hnotices rfl rfl rfl rfl (Or.inl rfl) rfl
  | repeats q hq hphase =>
    have hlive : s.phase ≠ .closed := by simp [hphase]
    exact hs.quiet rfl (Nat.le_refl _) (by simp +contextual [withQueue, hq]) (by simp [hq])
      (by simp) (by simp) (by simp) fun _ =>
        (hs.current hlive).handles hq hnone rfl rfl rfl
          (by simp [queuedFrames, Envelope.frameOf?, withQueue]) (by simp [withQueue, hphase])
          (by simp [withQueue, hphase])
  | waits frame q hq hphase =>
    have hlive : s.phase ≠ .closed := by simp [hphase]
    have hhandled := (hs.current hlive).orderly_handled hconsistent hlive (.frame frame)
    constructor
    . exact hs.flow.quiet rfl (Nat.le_refl _) (by simp +contextual [hq]) (by simp [hq]) (by simp)
        (by simp)
    . intro _
      exact (hs.current hlive).handles hq hnone rfl rfl rfl
        (by simp [queuedFrames, Envelope.frameOf?]) (by simp [hphase]) (by simp [hphase])
    . -- The frame is handled before its link has said that it is connected.
      exact always_append.2 ⟨hs.orderly, always_cons.2 ⟨by simpa using hhandled, always_nil⟩⟩
  | delivers frame q hq hphase tables notices hnotices =>
    have hlive : s.phase ≠ .closed := by simp [hphase]
    have hpending := hconsistent.pending (by simp [hphase])
    have hnotices : notices.filterMap Notice.released? = [frame].map fun f => (s.generation, f) :=
      hnotices
    exact hs.releases hconsistent hlive hq hnotices rfl rfl rfl hphase (Or.inr hphase)
      (by simp [hpending, queuedFrames, Envelope.frameOf?])
  | fails error q hq hphase =>
    exact hs.gives_up rfl rfl rfl (by simp +contextual [hq]) (by simp [hq])
      (by simp) (by simp) (by simp)
  | ends q hq hphase =>
    exact hs.gives_up rfl rfl rfl (by simp +contextual [withQueue, hq])
      (by simp [hq]) (by simp) (by simp) (by simp)

theorem traced_fresh : Traced (fresh : Subscription η) [] where
  flow := ⟨by simp [fresh], by simp, by simp, by simp, by simp [fresh]⟩
  current := by simp [fresh]
  orderly := always_nil

theorem Traced.delivered {s : Subscription η} {h : List (Moment η)} (hs : s.Traced h)
    (hconsistent : s.Consistent)
    : s.Delivered h where
  increasing := hconsistent.increasing
  prefix_sent link l hl := hs.flow.prefix_sent link l.generation (by simp [hl])
  of_link generation frame hmem := by simpa using hs.flow.of_link generation frame hmem
  connected_first past rest generation frame heq :=
    ((hs.orderly past _ rest heq).1 generation frame rfl).1
  waiting_first past rest generation frame heq :=
    (hs.orderly past _ rest heq).2 generation frame rfl
  links_in_order i j a b hij ha hb past rest frame heq := by
    have hlt : a.generation < b.generation := by
      obtain ⟨hi, rfl⟩ := List.getElem?_eq_some_iff.1 ha
      obtain ⟨hj, rfl⟩ := List.getElem?_eq_some_iff.1 hb
      exact List.pairwise_iff_getElem.1 hconsistent.increasing i j hi hj hij
    rw [releasedFrames, List.filterMap_eq_nil_iff]
    intro moment hmem
    unfold Moment.releasedFrom?
    split
    . next g f =>
      -- This frame leaves after one of the later link, so its own generation is no lesser one.
      obtain ⟨between, after, rfl⟩ := List.append_of_mem hmem
      have hrest : h = (past ++ .noticed (.released b.generation frame) :: between)
          ++ .noticed (.released g f) :: after := by
        simp [heq]
      have := ((hs.orderly _ _ after hrest).1 g f rfl).2 b.generation frame (by simp)
      rw [if_neg (by omega)]
    . rfl

/--
In whatever order things are done, the frames of a link leave in the order in which the link has
sent them, without gaps, and only once the link is known to be connected.
-/
theorem delivery_run (ops : List (Op η))
    : (fresh.history ops).filterMap Moment.notice? = (fresh.run ops).2
        ∧ (fresh.run ops).1.Delivered (fresh.history ops) := by
  obtain ⟨hconsistent, htraced⟩ := moves_induction traced_fresh
    (fun hconsistent hm hs => Traced.moves hconsistent hm hs) ops
  exact ⟨filterMap_notice?_history fresh ops, htraced.delivered hconsistent⟩

end Subscription

end LiveTopology
