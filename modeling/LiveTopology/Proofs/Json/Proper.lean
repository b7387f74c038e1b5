import LiveTopology.Json.Basic
import Mathlib.Algebra.Group.Int.Defs

/-!
This module contains what the values that frames carry have in common: the numbers are within the
range of machine words or finite, and the members of an object are in order. It also contains how
deep a value nests and which doubles are in it.
-/

namespace LiveTopology

def Number.Proper : Number → Prop
  | .int n => -(2 ^ 63) ≤ n ∧ n < 2 ^ 64
  | .float x => x.isFinite = true

namespace Json

mutual

def Proper : Json → Prop
  | .number n => n.Proper
  | .array items => ProperItems items
  | .object members => Keyed.Sorted members ∧ ProperMembers members
  | _ => True

def ProperItems : List Json → Prop
  | [] => True
  | item :: items => Proper item ∧ ProperItems items

def ProperMembers : List (String × Json) → Prop
  | [] => True
  | (_, value) :: members => Proper value ∧ ProperMembers members

end

mutual

/-- How many arrays and objects stand inside each other. -/
def depth : Json → Nat
  | .array items => depthOfItems items + 1
  | .object members => depthOfMembers members + 1
  | _ => 0

def depthOfItems : List Json → Nat
  | [] => 0
  | item :: items => max (depth item) (depthOfItems items)

def depthOfMembers : List (String × Json) → Nat
  | [] => 0
  | (_, value) :: members => max (depth value) (depthOfMembers members)

end

mutual

/-- The doubles among the numbers of a value, which are no integers. -/
def floats : Json → List Float
  | .number (.float x) => [x]
  | .array items => floatsOfItems items
  | .object members => floatsOfMembers members
  | _ => []

def floatsOfItems : List Json → List Float
  | [] => []
  | item :: items => floats item ++ floatsOfItems items

def floatsOfMembers : List (String × Json) → List Float
  | [] => []
  | (_, value) :: members => floats value ++ floatsOfMembers members

end

end Json

end LiveTopology
