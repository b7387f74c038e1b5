/-!
This module contains the kinds of fields that a binary message is made of, and the reasons for which
one is not read.
-/

namespace LiveTopology.Wire

/-- How the end of a field's contents is found. -/
inductive Kind where
  | varint
  | eight
  | delimited
  | startGroup
  | endGroup
  | four
  deriving DecidableEq, Repr

def Kind.code : Kind → Nat
  | .varint => 0
  | .eight => 1
  | .delimited => 2
  | .startGroup => 3
  | .endGroup => 4
  | .four => 5

def Kind.ofCode? : Nat → Option Kind
  | 0 => some .varint
  | 1 => some .eight
  | 2 => some .delimited
  | 3 => some .startGroup
  | 4 => some .endGroup
  | 5 => some .four
  | _ => none

def Kind.title : Kind → String
  | .varint => "Varint"
  | .eight => "SixtyFourBit"
  | .delimited => "LengthDelimited"
  | .startGroup => "StartGroup"
  | .endGroup => "EndGroup"
  | .four => "ThirtyTwoBit"

inductive Cause where
  | badVarint
  | badKey (key : Nat)
  | badKind (code : Nat)
  | badTag
  | wrongKind (found wanted : Kind)
  | tooShort
  | tooLong
  | notText
  | tooDeep
  | wrongGroupEnd
  deriving DecidableEq, Repr

def Cause.message : Cause → String
  | .badVarint => "invalid varint"
  | .badKey key => s!"invalid key value: {key}"
  | .badKind code => s!"invalid wire type value: {code}"
  | .badTag => "invalid tag value: 0"
  | .wrongKind found wanted => s!"invalid wire type: {found.title} (expected {wanted.title})"
  | .tooShort => "buffer underflow"
  | .tooLong => "delimited length exceeded"
  | .notText => "invalid string value: data is not UTF-8 encoded"
  | .tooDeep => "recursion limit reached"
  | .wrongGroupEnd => "unexpected end group tag"

/-- Why a message is not read, and in which field of which message, the innermost first. -/
structure Fault where
  path : List (String × String)
  cause : Cause
  deriving DecidableEq, Repr

namespace Fault

def of (cause : Cause) : Fault :=
  ⟨[], cause⟩

def message (fault : Fault) : String :=
  "failed to decode Protobuf message: "
    ++ String.join (fault.path.map fun (message, field) => s!"{message}.{field}: ")
    ++ fault.cause.message

end Fault

/-- Names the field in which a fault lies. -/
def within (message field : String) : Except Fault α → Except Fault α
  | .ok a => .ok a
  | .error fault => .error { fault with path := fault.path ++ [(message, field)] }

end LiveTopology.Wire
