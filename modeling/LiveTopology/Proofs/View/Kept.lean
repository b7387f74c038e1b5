import LiveTopology.Proofs.Feed.Drained
import LiveTopology.Proofs.View.Life

/-!
This module contains what holds of a view over its whole life, whoever its owner is: what is done
with its subscription, and that only its end tears it down.
-/

namespace LiveTopology

namespace Subscription

variable {η : Type}

theorem Consistent.run {s : Subscription η} (h : s.Consistent) (ops : List (Op η))
    : (s.run ops).1.Consistent := by
  induction ops generalizing s with
  | nil => exact h
  | cons op ops ih =>
    apply ih
    apply h.step

theorem alive_closeSock (s : Subscription η) : s.closeSock.1.alive = s.alive := by
  unfold closeSock
  split <;> rfl

theorem alive_step (s : Subscription η) {op : Op η} (hop : op ≠ .drop)
    : (s.step op).1.alive = s.alive := by
  cases h : s.alive with
  | false => rw [step_of_dead h, h]
  | true =>
    have hfeeding (hop : op.isFeeding = true) : (s.step op).1.alive = true := by
      obtain ⟨es, q, -, hstep⟩ := drained_step h hop
      rw [hstep, ← h]
      exact (kept_handleAll s es).1
    cases op with
    | pump | next | send => exact hfeeding rfl
    | drop => contradiction
    | bind routes =>
      rw [step, if_pos h]
      exact h
    | openSock =>
      rw [step, if_pos h, ← h]
      show s.openSock.1.alive = _
      unfold openSock
      split <;> rfl
    | closeSock =>
      rw [step, if_pos h, ← h]
      apply alive_closeSock

theorem alive_run (s : Subscription η) {ops : List (Op η)} (hops : ∀ op ∈ ops, op ≠ .drop)
    : (s.run ops).1.alive = s.alive := by
  induction ops generalizing s with
  | nil => rfl
  | cons op ops ih =>
    obtain ⟨hop, hrest⟩ := List.forall_mem_cons.1 hops
    rw [← alive_step s hop]
    apply ih
    exact hrest

end Subscription

namespace View

variable {η : Type}

/-- What is done with the subscription of a view. -/
def asks (v : View η) : Op η → List (Subscription.Op (Handler η))
  | .recover => if v.tornDown then [] else [.openSock]
  | .teardown => if v.tornDown then [] else [.closeSock]
  | .bind routes => [.bind ⟨routes.entries.map fun (kind, handler) => (kind, .foreign handler)⟩]
  | .openSock => [.openSock]
  | .closeSock => [.closeSock]
  | .pump => [.pump]
  | .next => [.next]
  | .drop => if v.tornDown then [.drop] else [.closeSock, .drop]
  | .send link event => [.send link event]
  | .gesture _ | .resetZoom | .press _ | .onHost _ => []

theorem press_eq (v : View η) (key : String)
    : (v.press key).2.1.subscription = v.subscription
        ∧ (v.press key).2.1.board = v.board
        ∧ (v.press key).2.1.tornDown = v.tornDown
        ∧ (v.press key).2.1.dropped = v.dropped := by
  unfold press
  split
  . exact ⟨rfl, rfl, rfl, rfl⟩
  . split <;> exact ⟨rfl, rfl, rfl, rfl⟩
  . exact ⟨rfl, rfl, rfl, rfl⟩
  . exact ⟨rfl, rfl, rfl, rfl⟩

theorem subscription_step {v : View η} (h : v.subscription.alive = !v.dropped) (op : Op η)
    : (v.step op).1.subscription = (v.subscription.run (v.asks op)).1 := by
  cases hdropped : v.dropped with
  | true =>
    -- The subscription has ended with the view, and does nothing that it is asked for.
    have hdead : v.subscription.alive = false := by rw [h, hdropped]; rfl
    rw [Subscription.run_of_dead hdead]
    cases op with
    | press key => exact (v.press_eq key).1
    | send link event =>
      show (v.subscription.send link event).2 = _
      unfold Subscription.send
      rw [hdead]
      split <;> rfl
    | onHost change => rfl
    | _ => exact congrArg (·.1.subscription) (owned_of_dropped hdropped _)
  | false =>
    have halive : v.subscription.alive = true := by rw [h, hdropped]; rfl
    have howned (result : View η × List (Effect η)) : v.owned result = result :=
      owned_of_not_dropped hdropped result
    have hsingle (op : Subscription.Op (Handler η))
        : (v.subscription.run [op]).1 = (v.subscription.step op).1 := rfl
    cases op with
    | recover =>
      simp only [step, howned, recover, asks]
      split
      . rfl
      . rw [hsingle, Subscription.step, if_pos halive]
        rfl
    | teardown =>
      simp only [step, howned, teardown, asks]
      split
      . rfl
      . rw [hsingle, Subscription.step, if_pos halive]
        rfl
    | drop =>
      simp only [step, howned, drop, teardown, asks]
      split
      . rw [hsingle, Subscription.step, if_pos halive]
        rfl
      . have halive' : v.subscription.closeSock.1.alive = true := by
          rw [Subscription.alive_closeSock, halive]
        simp only [Subscription.run, Subscription.step, if_pos halive, if_pos halive']
        rfl
    | press key => exact (v.press_eq key).1
    | gesture | resetZoom => exact congrArg (·.1.subscription) (howned _)
    | onHost change => rfl
    | send link event =>
      simp only [asks, hsingle, Subscription.step, if_pos halive]
      rfl
    | _ =>
      simp only [step, howned, asks, hsingle, Subscription.step, if_pos halive]
      rfl

/-- What holds of a view whatever is done with it. -/
structure Kept (v : View η) : Prop where
  consistent : v.subscription.Consistent
  alive : v.subscription.alive = !v.dropped
  tornDown : v.dropped = true → v.tornDown = true

theorem kept_activate (settings : Settings) (host : PanelHost)
    : Kept (activate settings host : View η × List (Effect η)).1 where
  consistent := Subscription.consistent_run [.bind routes, .openSock]
  alive := rfl
  tornDown := by
    intro h
    contradiction

theorem Kept.dropped_eq_false {v : View η} (h : v.Kept) (htornDown : v.tornDown = false)
    : v.dropped = false := by
  cases hdropped : v.dropped with
  | false => rfl
  | true => rw [← htornDown, h.tornDown hdropped]

/-- Only an end changes whether a view is torn down or gone. -/
theorem marks_step (v : View η) {op : Op η} (hteardown : op ≠ .teardown) (hdrop : op ≠ .drop)
    : (v.step op).1.tornDown = v.tornDown ∧ (v.step op).1.dropped = v.dropped := by
  have howned {result : View η × List (Effect η)}
      (h : result.1.tornDown = v.tornDown ∧ result.1.dropped = v.dropped)
      : (v.owned result).1.tornDown = v.tornDown ∧ (v.owned result).1.dropped = v.dropped :=
    owned_cases (P := fun r => r.1.tornDown = v.tornDown ∧ r.1.dropped = v.dropped) ⟨rfl, rfl⟩ h
  cases op with
  | teardown | drop => contradiction
  | press key => exact (v.press_eq key).2.2
  | send | onHost => exact ⟨rfl, rfl⟩
  | recover =>
    apply howned
    unfold recover
    split <;> exact ⟨rfl, rfl⟩
  | _ => exact howned ⟨rfl, rfl⟩

theorem teardown_of_tornDown {v : View η} (h : v.tornDown = true) : v.teardown = (v, []) := by
  unfold teardown
  rw [if_pos h]

theorem marks_teardown (v : View η)
    : v.teardown.1.tornDown = true ∧ v.teardown.1.dropped = v.dropped := by
  unfold teardown
  split
  . next h => exact ⟨h, rfl⟩
  . exact ⟨rfl, rfl⟩

theorem dropped_step_of_ne_drop (v : View η) {op : Op η} (hop : op ≠ .drop)
    : (v.step op).1.dropped = v.dropped := by
  by_cases hteardown : op = .teardown
  . subst hteardown
    exact owned_cases (P := fun r => r.1.dropped = v.dropped) rfl v.marks_teardown.2
  . apply (v.marks_step hteardown hop).2

theorem tornDown_step {v : View η} (h : v.tornDown = true) (op : Op η)
    : (v.step op).1.tornDown = true := by
  by_cases hteardown : op = .teardown
  . subst hteardown
    exact owned_cases (P := fun r => r.1.tornDown = true) h v.marks_teardown.1
  . by_cases hdrop : op = .drop
    . subst hdrop
      exact owned_cases (P := fun r => r.1.tornDown = true) h v.marks_teardown.1
    . rw [(v.marks_step hteardown hdrop).1, h]

theorem ne_drop_of_mem_asks {v : View η} {op : Op η} (hop : op ≠ .drop)
    : ∀ asked ∈ v.asks op, asked ≠ .drop := by
  intro asked hasked
  cases op with
  | drop => contradiction
  | recover | teardown =>
    simp only [asks] at hasked
    split at hasked
    . contradiction
    . simp [List.mem_singleton.1 hasked]
  | gesture | resetZoom | press | onHost => contradiction
  | _ => simp [List.mem_singleton.1 hasked]

theorem Kept.step {v : View η} (h : v.Kept) (op : Op η) : (v.step op).1.Kept := by
  have hsubscription := subscription_step h.alive op
  have hconsistent : (v.step op).1.subscription.Consistent := by
    rw [hsubscription]
    apply h.consistent.run
  by_cases hdrop : op = .drop
  . subst hdrop
    cases hdropped : v.dropped with
    | true =>
      have hstep : v.step .drop = (v, []) := owned_of_dropped hdropped _
      rw [hstep]
      exact h
    | false =>
      rw [step_drop hdropped] at hconsistent ⊢
      exact ⟨hconsistent, rfl, fun _ => v.marks_teardown.1⟩
  . have halive : (v.step op).1.subscription.alive = v.subscription.alive := by
      rw [hsubscription]
      apply Subscription.alive_run
      apply ne_drop_of_mem_asks hdrop
    have hdropped := v.dropped_step_of_ne_drop hdrop
    refine ⟨hconsistent, ?_, fun htrue => ?_⟩
    . rw [halive, hdropped, h.alive]
    . rw [hdropped] at htrue
      apply tornDown_step (h.tornDown htrue)

theorem Kept.run {v : View η} (h : v.Kept) (ops : List (Op η)) : (v.run ops).1.Kept := by
  induction ops generalizing v with
  | nil => exact h
  | cons op ops ih =>
    apply ih
    apply h.step

theorem tornDown_run {v : View η} (h : v.tornDown = true) (ops : List (Op η))
    : (v.run ops).1.tornDown = true := by
  induction ops generalizing v with
  | nil => exact h
  | cons op ops ih =>
    apply ih
    apply tornDown_step h

theorem Kept.tornDown_ending {v : View η} (h : v.Kept) {ending : Op η}
    (hending : ending = .teardown ∨ ending = .drop)
    : (v.step ending).1.tornDown = true := by
  cases hdropped : v.dropped with
  | true => exact tornDown_step (h.tornDown hdropped) ending
  | false =>
    rcases hending with rfl | rfl
    . rw [step_teardown hdropped]
      exact v.marks_teardown.1
    . rw [step_drop hdropped]
      exact v.marks_teardown.1

/-- A view stays torn down once it has come to an end. -/
theorem Kept.tornDown_run_of_mem {v : View η} (h : v.Kept) {ops : List (Op η)} {ending : Op η}
    (hending : ending = .teardown ∨ ending = .drop) (hmem : ending ∈ ops)
    : (v.run ops).1.tornDown = true := by
  obtain ⟨first, second, rfl⟩ := List.append_of_mem hmem
  rw [run_append]
  exact tornDown_run ((h.run first).tornDown_ending hending) second

end View

end LiveTopology
