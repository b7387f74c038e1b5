import LiveTopology.View

/-!
This module contains the life of a view: whatever its owner, its links, its keys and the other users
of its host do, one thing after another.
-/

namespace LiveTopology.View

variable {η : Type}

inductive Op (η : Type) where
  | gesture (g : Gesture Float)
  | resetZoom
  | recover
  | teardown
  | bind (routes : Routes η)
  | openSock
  | closeSock
  | pump
  | next
  | drop
  | press (key : String)
  | send (link : Nat) (event : LinkEvent)
  /-- Somebody else changes the panels of the host. -/
  | onHost (change : PanelHost → PanelHost)

/-- What the owner of a view can do. There is no owner of a view that is gone. -/
def owned (v : View η) (result : View η × List (Effect η)) : View η × List (Effect η) :=
  if v.dropped then (v, []) else result

def step (v : View η) : Op η → View η × List (Effect η)
  | .gesture g => v.owned ((v.gesture g).2, [])
  | .resetZoom => v.owned (v.resetZoom, [])
  | .recover => v.owned v.recover
  | .teardown => v.owned v.teardown
  | .bind routes => v.owned (v.bind routes)
  | .openSock => v.owned v.openSock
  | .closeSock => v.owned v.closeSock
  | .pump => v.owned v.pump.2
  | .next => v.owned v.next.2
  | .drop => v.owned v.drop
  | .press key => ((v.press key).2.1, (v.press key).2.2.map .log)
  | .send link event => ((v.send link event).2, [])
  | .onHost change => (v.onHost change, [])

def run (v : View η) : List (Op η) → View η × List (Effect η)
  | [] => (v, [])
  | op :: ops =>
    let (v, first) := v.step op
    let (v, rest) := v.run ops
    (v, first ++ rest)

theorem owned_of_dropped {v : View η} (h : v.dropped = true) (result : View η × List (Effect η))
    : v.owned result = (v, []) := by
  unfold owned
  rw [if_pos h]

theorem owned_of_not_dropped {v : View η} (h : v.dropped = false)
    (result : View η × List (Effect η))
    : v.owned result = result := by
  unfold owned
  rw [h]
  rfl

theorem step_teardown {v : View η} (h : v.dropped = false) : v.step .teardown = v.teardown :=
  owned_of_not_dropped h v.teardown

theorem step_drop {v : View η} (h : v.dropped = false) : v.step .drop = v.drop :=
  owned_of_not_dropped h v.drop

theorem owned_cases {P : View η × List (Effect η) → Prop} {v : View η}
    {result : View η × List (Effect η)} (hgone : P (v, [])) (hresult : P result)
    : P (v.owned result) := by
  unfold owned
  split
  . exact hgone
  . exact hresult

theorem run_append (v : View η) (ops ops' : List (Op η))
    : v.run (ops ++ ops')
        =
      (((v.run ops).1.run ops').1, (v.run ops).2 ++ ((v.run ops).1.run ops').2) := by
  induction ops generalizing v with
  | nil => simp [run]
  | cons op ops ih => simp [run, ih]

theorem dropped_step_drop (v : View η) : (v.step .drop).1.dropped = true := by
  cases h : v.dropped with
  | true =>
    show (v.owned v.drop).1.dropped = true
    rw [owned_of_dropped h, h]
  | false =>
    rw [step_drop h]
    rfl

end LiveTopology.View
