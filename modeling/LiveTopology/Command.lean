import LiveTopology.Decimal.Numeral
import LiveTopology.Text.Blank
import LiveTopology.Viewport.Gesture

/-!
This module contains the commands of the console, one on a line: a key, a gesture with its numbers
and modifier keys, or a question.
-/

namespace LiveTopology

inductive Command where
  | key (key : String)
  | gesture (gesture : Gesture Float)
  | status
  | help
  deriving DecidableEq, Repr

namespace Command

inductive Error where
  | missingArgument (command argument : String)
  | invalidNumber (argument value : String)
  | unknownModifier (name : String)
  | unknownCommand (line : String)
  deriving DecidableEq, Repr

def Error.message : Error → String
  | .missingArgument command argument => s!"{command}: missing {argument}"
  | .invalidNumber argument value => s!"{argument}: '{value}' is not a number"
  | .unknownModifier name => s!"unknown modifier '{name}'"
  | .unknownCommand line => s!"unknown command '{line}'"

def lower (s : String) : String :=
  String.ofList (s.toList.map Char.toLower)

def upper (s : String) : String :=
  String.ofList (s.toList.map Char.toUpper)

def number (command argument : String) : List String → Except Error (Float × List String)
  | [] => .error (.missingArgument command argument)
  | word :: words =>
    match Decimal.parseFloat? word with
    | none => .error (.invalidNumber argument word)
    | some x => .ok (x, words)

/-- Reads a point. It is the origin unless the next argument is a number. -/
def anchor (command : String) (words : List String) : Except Error (Point Float × List String) :=
  match words.head?.bind Decimal.parseFloat? with
  | none => .ok (⟨0.0, 0.0⟩, words)
  | some _ => do
    let (x, words) ← number command "x" words
    let (y, words) ← number command "y" words
    .ok (⟨x, y⟩, words)

def addModifier (m : Modifiers) (name : String) : Except Error Modifiers :=
  match lower name with
  | "alt" | "option" => .ok { m with alt := true }
  | "meta" | "cmd" => .ok { m with command := true }
  | "ctrl" => .ok { m with ctrl := true }
  | "shift" => .ok { m with shift := true }
  | _ => .error (.unknownModifier name)

def modifierNames (word : String) : List String :=
  (Text.runs (· == '+') word.toList).map String.ofList

def modifiers (words : List String) : Except Error Modifiers :=
  (words.flatMap modifierNames).foldlM addModifier .none

def pan (words : List String) : Except Error (Gesture Float) := do
  let (dx, words) ← number "pan" "dx" words
  let (dy, words) ← number "pan" "dy" words
  .ok (.pan dx dy (← modifiers words))

def zoom (words : List String) : Except Error (Gesture Float) := do
  let (factor, words) ← number "zoom" "factor" words
  let (point, words) ← anchor "zoom" words
  .ok (.zoom factor point (← modifiers words))

def wheel (words : List String) : Except Error (Gesture Float) := do
  let (dy, words) ← number "wheel" "dy" words
  let (point, words) ← anchor "wheel" words
  .ok (.wheel dy point (← modifiers words))

def parse (line : String) : Except Error (Option Command) :=
  match Text.words line with
  | [] => .ok none
  | name :: words =>
    match lower name, words with
    | "status", [] => .ok (some .status)
    | "help", [] => .ok (some .help)
    | "pan", words => do .ok (some (.gesture (← pan words)))
    | "zoom", words => do .ok (some (.gesture (← zoom words)))
    | "wheel", words => do .ok (some (.gesture (← wheel words)))
    | _, [] =>
      if name.toList.length = 1 then .ok (some (.key (upper name)))
      else .error (.unknownCommand (Text.trim line))
    | _, _ => .error (.unknownCommand (Text.trim line))

end Command

end LiveTopology
