import LiveTopology.CommandLine.Respond
import LiveTopology.Proofs.Feed.Lifecycle

/-!
This module contains what becomes of the subscription of a view as long as the view has an owner, who
gives it lines, lets it handle reports and recovers it.
-/

namespace LiveTopology

namespace Subscription

variable {η : Type}

theorem alive_next (s : Subscription η) : s.next.2.1.alive = s.alive := by
  unfold next
  split
  . rfl
  . apply alive_handle

end Subscription

namespace View

variable {η : Type}

/-- A view whose owner is there, with a subscription as it can become. -/
structure Attended (v : View η) : Prop where
  consistent : v.subscription.Consistent
  alive : v.subscription.alive = true
  tornDown : v.tornDown = false

theorem subscription_respond (v : View η) (line : String)
    : (v.respond line).1.subscription = v.subscription
        ∧ (v.respond line).1.tornDown = v.tornDown := by
  unfold respond
  split
  . exact ⟨rfl, rfl⟩
  . exact ⟨rfl, rfl⟩
  . next command _ =>
    cases command with
    | key key =>
      show (v.press key).2.1.subscription = _ ∧ (v.press key).2.1.tornDown = _
      unfold press
      split
      . exact ⟨rfl, rfl⟩
      . split <;> exact ⟨rfl, rfl⟩
      . exact ⟨rfl, rfl⟩
      . exact ⟨rfl, rfl⟩
    | gesture g => exact ⟨rfl, rfl⟩
    | status => exact ⟨rfl, rfl⟩
    | help => exact ⟨rfl, rfl⟩

theorem attended_activate (settings : Settings) (host : PanelHost)
    : Attended (activate settings host : View η × List (Effect η)).1 where
  consistent := Subscription.consistent_run [.bind routes, .openSock]
  alive := rfl
  tornDown := rfl

section Attended

variable {v : View η} (h : v.Attended)
include h

theorem Attended.respond (line : String) : (v.respond line).1.Attended := by
  obtain ⟨hsubscription, htornDown⟩ := v.subscription_respond line
  constructor
  . rw [hsubscription]
    exact h.consistent
  . rw [hsubscription]
    exact h.alive
  . rw [htornDown]
    exact h.tornDown

theorem Attended.send (link : Nat) (event : LinkEvent)
    : (v.send link event).2.Attended
        ∧ (v.send link event).2.subscription.phase = v.subscription.phase
        ∧ (v.send link event).2.subscription.links = v.subscription.links := by
  have hconsistent : ((v.subscription.send link event).2).Consistent := by
    have := h.consistent.step (.send link event)
    simpa [Subscription.step, h.alive] using this
  have hfields : (v.subscription.send link event).2.alive = v.subscription.alive
      ∧ (v.subscription.send link event).2.phase = v.subscription.phase
      ∧ (v.subscription.send link event).2.links = v.subscription.links := by
    unfold Subscription.send
    split
    . split <;> exact ⟨rfl, rfl, rfl⟩
    . exact ⟨rfl, rfl, rfl⟩
  exact ⟨⟨hconsistent, hfields.1.trans h.alive, h.tornDown⟩, hfields.2⟩

theorem Attended.next
    : v.next.2.1.Attended ∧ v.subscription.PhaseStep .next v.next.2.1.subscription := by
  have hstep : (v.subscription.step .next).1 = v.subscription.next.2.1 := by
    simp [Subscription.step, h.alive]
  have hconsistent := h.consistent.step .next
  have hphase := (h.consistent.moves_step (show Subscription.Op.next ≠ .pump by simp)).phaseStep
    h.consistent
  rw [hstep] at hconsistent hphase
  exact ⟨⟨hconsistent, (v.subscription.alive_next).trans h.alive, h.tornDown⟩, hphase⟩

theorem Attended.recover (hphase : v.subscription.phase = .closed)
    : v.recover.1.Attended ∧ v.recover.1.subscription.phase = .connecting
        ∧ v.recover.1.subscription.links.length = v.subscription.links.length + 1 := by
  have hrecover : v.recover.1 = (v.withSubscription v.subscription.openSock).1 := by
    unfold View.recover
    rw [h.tornDown]
    rfl
  have hopens : v.subscription.openSock.1 = (v.subscription.step .openSock).1 := by
    simp [Subscription.step, h.alive]
  have hconsistent := h.consistent.step .openSock
  rw [← hopens] at hconsistent
  rw [hrecover]
  refine ⟨⟨hconsistent, ?alive, h.tornDown⟩, ?phase, ?links⟩
  case alive =>
    show v.subscription.openSock.1.alive = true
    simp [Subscription.openSock, hphase, h.alive]
  case phase =>
    show v.subscription.openSock.1.phase = .connecting
    simp [Subscription.openSock, hphase]
  case links =>
    show v.subscription.openSock.1.links.length = _
    simp [Subscription.openSock, hphase]

end Attended

end View

end LiveTopology
