import LiveTopology.Wire.Scalar
import LiveTopology.Wire.Value

/-!
This module contains the reading of binary messages. The fields of a message may come in any order
and repeat: a later one replaces or extends what an earlier one gave.
-/

namespace LiveTopology.Wire

/-- Reads one field off the front of the bytes and adds what it says to an `α`. -/
abbrev Step (α : Type) := α → List UInt8 → Except Fault (α × List UInt8)

/--
Reads fields until `left` bytes are left or fewer. It is a fault if a field goes on past that point.
-/
def fields (step : Step α) (left : Nat) : Nat → Step α
  | 0, _, _ => .error (.of .tooLong)
  | fuel + 1, a, bs =>
    if left < bs.length then do
      let (a, bs) ← step a bs
      fields step left fuel a bs
    else if bs.length = left then
      .ok (a, bs)
    else
      .error (.of .tooLong)

/-- Reads the number of bytes of a message and then its fields, if messages may nest so deep. -/
def block (step? : Option (Step α)) : Step α := fun a bs =>
  match step? with
  | none => .error (.of .tooDeep)
  | some step => do
    let (length, bs) ← readVarint bs
    if bs.length < length then .error (.of .tooShort)
    else fields step (bs.length - length) (bs.length + 1) a bs

def expect (wanted found : Kind) : Except Fault Unit :=
  if found = wanted then .ok () else .error (.of (.wrongKind found wanted))

def message (step? : Option (Step α)) (kind : Kind) : Step α := fun a bs => do
  expect .delimited kind
  block step? a bs

def advance (n : Nat) (bs : List UInt8) : Except Fault (List UInt8) :=
  if bs.length < n then .error (.of .tooShort) else .ok (bs.drop n)

def skipGroup (skip : Key → List UInt8 → Except Fault (List UInt8)) (tag : Nat)
    : Nat → List UInt8 → Except Fault (List UInt8)
  | 0, _ => .error (.of .tooShort)
  | fuel + 1, bs => do
    let (key, bs) ← readKey bs
    if key.kind = .endGroup then
      if key.tag = tag then .ok bs else .error (.of .wrongGroupEnd)
    else
      skipGroup skip tag fuel (← skip key bs)

/-- Passes over the contents of a field of no interest. Groups may nest `depth` deep. -/
def skip : Nat → Key → List UInt8 → Except Fault (List UInt8)
  | 0, _, _ => .error (.of .tooDeep)
  | depth + 1, key, bs =>
    match key.kind with
    | .varint => do
      let (_, bs) ← readVarint bs
      .ok bs
    | .four => advance 4 bs
    | .eight => advance 8 bs
    | .delimited => do
      let (length, bs) ← readVarint bs
      advance length bs
    | .startGroup => skipGroup (skip depth) key.tag (bs.length + 1) bs
    | .endGroup => .error (.of .wrongGroupEnd)

def ignore (depth : Nat) (key : Key) : Step α := fun a bs => do
  .ok (a, ← skip depth key bs)

namespace Value

def fields? : Value → List (String × Value)
  | .struct fields => fields
  | _ => []

def values? : Value → List Value
  | .list values => values
  | _ => []

/--
Reads a field of a value. A struct or a list extends one that is there already; all else replaces
what is there.
-/
def field (depth : Nat) (struct? : Option (Step (List (String × Value))))
    (list? : Option (Step (List Value))) : Step Value := fun v bs => do
  let (key, bs) ← readKey bs
  match key.tag with
  | 1 => within "Value" "kind" do
    expect .varint key.kind
    let (_, bs) ← readVarint bs
    .ok (.null, bs)
  | 2 => within "Value" "kind" do
    expect .eight key.kind
    let (x, bs) ← readDouble bs
    .ok (.number x, bs)
  | 3 => within "Value" "kind" do
    expect .delimited key.kind
    let (s, bs) ← readText bs
    .ok (.string s, bs)
  | 4 => within "Value" "kind" do
    expect .varint key.kind
    let (n, bs) ← readVarint bs
    .ok (.bool (n != 0), bs)
  | 5 => within "Value" "kind" do
    let (fields, bs) ← message struct? key.kind v.fields? bs
    .ok (.struct fields, bs)
  | 6 => within "Value" "kind" do
    let (values, bs) ← message list? key.kind v.values? bs
    .ok (.list values, bs)
  | _ => ignore depth key v bs

def structField (depth : Nat) (member? : Option (Step (String × Value)))
    : Step (List (String × Value)) := fun fields bs => do
  let (key, bs) ← readKey bs
  match key.tag with
  | 1 => within "Struct" "fields" do
    let ((name, value), bs) ← block member? ("", .unset) bs
    .ok (Keyed.insert name value fields, bs)
  | _ => ignore depth key fields bs

def memberField (depth : Nat) (value? : Option (Step Value)) : Step (String × Value) :=
  fun (name, value) bs => do
    let (key, bs) ← readKey bs
    match key.tag with
    | 1 =>
      expect .delimited key.kind
      let (name, bs) ← readText bs
      .ok ((name, value), bs)
    | 2 =>
      let (value, bs) ← message value? key.kind value bs
      .ok ((name, value), bs)
    | _ => ignore depth key (name, value) bs

def listField (depth : Nat) (value? : Option (Step Value)) : Step (List Value) :=
  fun values bs => do
    let (key, bs) ← readKey bs
    match key.tag with
    | 1 => within "ListValue" "values" do
      let (value, bs) ← message value? key.kind .unset bs
      .ok (values ++ [value], bs)
    | _ => ignore depth key values bs

mutual

/-- Reads a field of a value in which messages may nest `depth` deep. -/
def step : Nat → Step Value
  | 0 => field 0 none none
  | depth + 1 => field (depth + 1) (some (structStep depth)) (some (listStep depth))

def structStep : Nat → Step (List (String × Value))
  | 0 => structField 0 none
  | depth + 1 => structField (depth + 1) (some (memberStep depth))

def memberStep : Nat → Step (String × Value)
  | 0 => memberField 0 none
  | depth + 1 => memberField (depth + 1) (some (step depth))

def listStep : Nat → Step (List Value)
  | 0 => listField 0 none
  | depth + 1 => listField (depth + 1) (some (step depth))

end

end Value

/-- How many messages may stand inside each other in a message. -/
def nesting : Nat := 100

end LiveTopology.Wire
