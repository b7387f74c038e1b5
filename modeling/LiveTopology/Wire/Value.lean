import LiveTopology.Decimal.Basic
import LiveTopology.Json.Basic

/-!
This module contains the values of binary messages, and their relation to the values of texts: there
is only one kind of number, the double.
-/

namespace LiveTopology

namespace Wire

inductive Value where
  /-- A value of which nothing is known. -/
  | unset
  | null
  | number (x : Float)
  | string (s : String)
  | bool (b : Bool)
  | struct (fields : List (String × Value))
  | list (values : List Value)
  deriving Repr

instance : Inhabited Value := ⟨.unset⟩

end Wire

def Number.toFloat : Number → Float
  | .int n => Decimal.nearest n
  | .float x => x

/--
The value that a double from a message stands for. Whole numbers that are safe from rounding come
back as integers, and there is no number for an infinity or a NaN.
-/
def Json.ofFloat (x : Float) : Json :=
  if x.isFinite then
    match Decimal.integer? x with
    | some n => if n.natAbs < 0x20000000000000 then .number (.int n) else .number (.float x)
    | none => .number (.float x)
  else
    .null

namespace Wire.Value

mutual

def ofJson : Json → Value
  | .null => .null
  | .bool b => .bool b
  | .number n => .number n.toFloat
  | .string s => .string s
  | .array items => .list (ofItems items)
  | .object members => .struct (ofMembers members)

def ofItems : List Json → List Value
  | [] => []
  | item :: items => ofJson item :: ofItems items

def ofMembers : List (String × Json) → List (String × Value)
  | [] => []
  | (name, value) :: members => (name, ofJson value) :: ofMembers members

end

mutual

def toJson : Value → Json
  | .unset => .null
  | .null => .null
  | .number x => .ofFloat x
  | .string s => .string s
  | .bool b => .bool b
  | .struct fields => .object (toMembers fields)
  | .list values => .array (toItems values)

def toItems : List Value → List Json
  | [] => []
  | value :: values => toJson value :: toItems values

def toMembers : List (String × Value) → List (String × Json)
  | [] => []
  | (name, value) :: fields => (name, toJson value) :: toMembers fields

end

end Wire.Value

end LiveTopology
