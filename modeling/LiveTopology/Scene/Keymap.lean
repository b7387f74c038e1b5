import LiveTopology.Text.Quoted

/-!
This module contains the keys that are bound to actions.
-/

namespace LiveTopology

structure Binding (κ : Type) where
  key : String
  description : String
  action : κ
  deriving DecidableEq, Repr

abbrev Keymap (κ : Type) := List (Binding κ)

namespace Keymap

variable {κ : Type}

/-- Whether two keys are the same, where the case of ASCII letters does not count. -/
def sameKey (a b : String) : Bool :=
  a.toList.map Char.toLower = b.toList.map Char.toLower

def press (m : Keymap κ) (key : String) : Option κ :=
  (m.find? fun b => sameKey b.key key).map Binding.action

def describe (m : Keymap κ) : List (String × String) :=
  m.map fun b => (b.key, b.description)

end Keymap

def Keymap.text {κ : Type} (m : Keymap κ) : String :=
  "[" ++ ", ".intercalate (m.map fun b =>
    "KeyBinding \x7b key: " ++ Text.quote b.key ++ ", description: " ++ Text.quote b.description
      ++ ", .. \x7d") ++ "]"

end LiveTopology
