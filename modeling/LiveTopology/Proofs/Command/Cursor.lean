import LiveTopology.Command

/-!
This module contains that the words of a gesture can be read in place, by their positions, and that
no position is ever past their end.
-/

namespace LiveTopology.Command

/-- Words, and how many of them were read. -/
structure Cursor where
  words : List String
  pos : Nat

/-- What reading in place gives, which is nothing if it leaves the words. -/
abbrev InPlace (α : Type) : Type := ExceptT Error Option α

namespace Cursor

def rest? (c : Cursor) : Option (List String) :=
  if c.pos ≤ c.words.length then some (c.words.drop c.pos) else none

def number (c : Cursor) (command argument : String) : Except Error (Float × Cursor) :=
  match c.words[c.pos]? with
  | none => .error (.missingArgument command argument)
  | some word =>
    match Decimal.parseFloat? word with
    | none => .error (.invalidNumber argument word)
    | some x => .ok (x, { c with pos := c.pos + 1 })

def anchor (c : Cursor) (command : String) : Except Error (Point Float × Cursor) :=
  match c.words[c.pos]?.bind Decimal.parseFloat? with
  | none => .ok (⟨0.0, 0.0⟩, c)
  | some _ => do
    let (x, c) ← c.number command "x"
    let (y, c) ← c.number command "y"
    .ok (⟨x, y⟩, c)

def modifiers (c : Cursor) : InPlace Modifiers :=
  .mk (c.rest?.map Command.modifiers)

def pan (c : Cursor) : InPlace (Gesture Float) := do
  let (dx, c) ← c.number "pan" "dx"
  let (dy, c) ← c.number "pan" "dy"
  return .pan dx dy (← c.modifiers)

def zoom (c : Cursor) : InPlace (Gesture Float) := do
  let (factor, c) ← c.number "zoom" "factor"
  let (point, c) ← c.anchor "zoom"
  return .zoom factor point (← c.modifiers)

def wheel (c : Cursor) : InPlace (Gesture Float) := do
  let (dy, c) ← c.number "wheel" "dy"
  let (point, c) ← c.anchor "wheel"
  return .wheel dy point (← c.modifiers)

/-- One thing is read in place as it is from the words that are left, and leaves the same words. -/
inductive Agrees {α : Type}
    : Except Error (α × Cursor) → Except Error (α × List String) → Prop where
  | error (e : Error) : Agrees (.error e) (.error e)
  | ok {c : Cursor} {words : List String} (a : α) (h : c.rest? = some words)
    : Agrees (.ok (a, c)) (.ok (a, words))

section

variable {α β : Type} {x : Except Error (α × Cursor)} {y : Except Error (α × List String)}

theorem Agrees.bind {f : α × Cursor → Except Error (β × Cursor)}
    {g : α × List String → Except Error (β × List String)} (h : Agrees x y)
    (hnext : ∀ a c words, c.rest? = some words → Agrees (f (a, c)) (g (a, words)))
    : Agrees (x >>= f) (y >>= g) := by
  cases h with
  | error e => exact .error e
  | ok a hrest => exact hnext a _ _ hrest

theorem Agrees.finish {f : α × Cursor → InPlace β} {g : α × List String → Except Error β}
    (h : Agrees x y)
    (hnext : ∀ a c words, c.rest? = some words → f (a, c) = some (g (a, words)))
    : (liftM x >>= f : InPlace β) = some (y >>= g) := by
  cases h with
  | error e => rfl
  | ok a hrest => exact hnext a _ _ hrest

end

variable {c : Cursor} {words : List String}

theorem rest?_eq_some_iff
    : c.rest? = some words ↔ c.pos ≤ c.words.length ∧ c.words.drop c.pos = words := by
  simp [rest?]

theorem getElem?_of_rest (h : c.rest? = some words) : c.words[c.pos]? = words.head? := by
  rw [← (rest?_eq_some_iff.1 h).2, List.head?_drop]

/-- Only a word that is there is ever passed. -/
theorem rest?_next {word : String} (h : c.rest? = some (word :: words))
    : { c with pos := c.pos + 1 : Cursor }.rest? = some words := by
  obtain ⟨-, hdrop⟩ := rest?_eq_some_iff.1 h
  refine rest?_eq_some_iff.2 ⟨?_, ?_⟩
  . apply Nat.lt_of_not_le
    intro hend
    rw [List.drop_eq_nil_iff.2 hend] at hdrop
    contradiction
  . show c.words.drop (c.pos + 1) = words
    rw [← List.tail_drop, hdrop, List.tail_cons]

theorem agrees_number (h : c.rest? = some words) (command argument : String)
    : Agrees (c.number command argument) (Command.number command argument words) := by
  unfold number
  rw [getElem?_of_rest h]
  cases words with
  | nil => exact .error _
  | cons word words =>
    unfold Command.number
    dsimp only [List.head?_cons]
    cases Decimal.parseFloat? word with
    | none => exact .error _
    | some x => exact .ok x (rest?_next h)

theorem agrees_anchor (h : c.rest? = some words) (command : String)
    : Agrees (c.anchor command) (Command.anchor command words) := by
  unfold anchor Command.anchor
  rw [getElem?_of_rest h]
  cases words.head?.bind Decimal.parseFloat? with
  | none => exact .ok _ h
  | some _ =>
    apply (agrees_number h command "x").bind
    intro x c words h
    apply (agrees_number h command "y").bind
    intro y c words h
    exact .ok _ h

theorem finish_modifiers (h : c.rest? = some words) (f : Modifiers → Gesture Float)
    : (do return f (← c.modifiers) : InPlace (Gesture Float))
        = some (do .ok (f (← Command.modifiers words))) := by
  unfold modifiers
  rw [h, Option.map_some]
  cases Command.modifiers words <;> rfl

theorem pan_eq (words : List String) : pan ⟨words, 0⟩ = some (Command.pan words) := by
  have hrest : Cursor.rest? ⟨words, 0⟩ = some words := rfl
  unfold pan Command.pan
  apply (agrees_number hrest "pan" "dx").finish
  intro dx c words h
  apply (agrees_number h "pan" "dy").finish
  intro dy c words h
  exact finish_modifiers h (Gesture.pan dx dy)

theorem scaling_eq (command argument : String)
    (f : Float → Point Float → Modifiers → Gesture Float) (words : List String)
    : (do
          let (x, c) ← number ⟨words, 0⟩ command argument
          let (p, c) ← c.anchor command
          return f x p (← c.modifiers) : InPlace (Gesture Float))
        = some (do
          let (x, words) ← Command.number command argument words
          let (p, words) ← Command.anchor command words
          .ok (f x p (← Command.modifiers words))) := by
  have hrest : Cursor.rest? ⟨words, 0⟩ = some words := rfl
  apply (agrees_number hrest command argument).finish
  intro x c words h
  apply (agrees_anchor h command).finish
  intro p c words h
  exact finish_modifiers h (f x p)

theorem zoom_eq (words : List String) : zoom ⟨words, 0⟩ = some (Command.zoom words) :=
  scaling_eq "zoom" "factor" Gesture.zoom words

theorem wheel_eq (words : List String) : wheel ⟨words, 0⟩ = some (Command.wheel words) :=
  scaling_eq "wheel" "dy" Gesture.wheel words

end Cursor

end LiveTopology.Command
