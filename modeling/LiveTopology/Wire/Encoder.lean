import LiveTopology.Wire.Scalar
import LiveTopology.Wire.Value

/-!
This module contains the binary form of values.
-/

namespace LiveTopology.Wire

def messageField (tag : Nat) (contents : List UInt8) : List UInt8 :=
  key tag .delimited ++ delimited contents

def textField (tag : Nat) (s : String) : List UInt8 :=
  key tag .delimited ++ text s

namespace Value

mutual

def encode : Value → List UInt8
  | .unset => []
  | .null => key 1 .varint ++ varint 0
  | .number x => key 2 .eight ++ double x
  | .string s => textField 3 s
  | .bool b => key 4 .varint ++ varint b.toNat
  | .struct fields => messageField 5 (encodeFields fields)
  | .list values => messageField 6 (encodeValues values)

/-- The members of a struct, each a message of a name, if it is not empty, and a value. -/
def encodeFields : List (String × Value) → List UInt8
  | [] => []
  | (name, value) :: fields =>
    messageField 1 ((if name = "" then [] else textField 1 name) ++ messageField 2 (encode value))
      ++ encodeFields fields

def encodeValues : List Value → List UInt8
  | [] => []
  | value :: values => messageField 1 (encode value) ++ encodeValues values

end

end Value

end LiveTopology.Wire
