import LiveTopology.Json.Reader

/-!
This module contains the reading of records: values with a fixed set of fields, which a text gives
either as an object, in any order, or as an array, in the order in which they are declared.
-/

namespace LiveTopology.Json

/-- A field of a record of which the fields read so far are kept in a `σ`. -/
structure Field (σ : Type) where
  /-- What the field is called, and the other names it goes by. -/
  name : String
  aliases : List String
  /-- Whether a record without it is refused. -/
  required : Bool
  given : σ → Bool
  read : σ → Reader σ

structure Record (σ : Type) where
  title : String
  fields : List (Field σ)
  start : σ

namespace Record

variable {σ : Type}

/-- What an array of the wrong length was asked to be. -/
def sized (r : Record σ) : String :=
  s!"{r.title} with {r.fields.length} elements"

def field? (r : Record σ) (name : String) : Option (Field σ) :=
  r.fields.find? fun f => f.name = name || f.aliases.contains name

inductive Ending (σ : Type) where
  | complete (record : σ) (rest : List Char)
  | broken (fault : Fault)
  /-- The record is refused as such. The fault lies where the record ends, if it does. -/
  | refused (cause : Cause) (rest : List Char)

def readItems (r : Record σ) (n : Nat) (record : σ) : List (Field σ) → List Char → Ending σ
  | [], cs => .complete record cs
  | f :: fs, cs =>
    match Read.nextItem .kept (n == 0) cs with
    | .error fault => .broken fault
    | .ok (.done cs) =>
      if f.required then .refused (.wrongLength n r.sized) cs else .complete record cs
    | .ok (.more cs) =>
      match f.read record cs with
      | .error fault => .broken fault
      | .ok (record, cs) => readItems r (n + 1) record fs cs

def complete (r : Record σ) (record : σ) (cs : List Char) : Ending σ :=
  match r.fields.find? fun f => f.required && !f.given record with
  | some f => .refused (.missing f.name) cs
  | none => .complete record cs

/-- Reads at most `fuel` members of an object. Members that are no fields are passed over. -/
def readMembers (r : Record σ) : Nat → Bool → σ → List Char → Ending σ
  | 0, _, _, cs => .broken (.next .endInObject cs)
  | fuel + 1, first, record, cs =>
    match Read.nextName .kept first cs with
    | .error fault => .broken fault
    | .ok (.done cs) => complete r record cs
    | .ok (.more cs) =>
      match Read.name cs with
      | .error fault => .broken fault
      | .ok (name, cs) =>
        match r.field? name with
        | some f =>
          if f.given record then .refused (.repeated f.name) cs
          else
            match Read.colon cs >>= f.read record with
            | .error fault => .broken fault
            | .ok (record, cs) => readMembers r fuel false record cs
        | none =>
          match Read.colon cs >>= Read.skip cs.length with
          | .error fault => .broken fault
          | .ok (_, cs) => readMembers r fuel false record cs

def endArray (cs : List Char) : Except Fault (List Char) :=
  match Read.blanks cs with
  | [] => .error (.next .endInArray [])
  | ']' :: cs => .ok cs
  | ',' :: cs =>
    match Read.blanks cs with
    | ']' :: cs => .error (.next .trailingComma (']' :: cs))
    | cs => .error (.next .trailingText cs)
  | cs => .error (.next .trailingText cs)

def endObject (cs : List Char) : Except Fault (List Char) :=
  match Read.blanks cs with
  | [] => .error (.next .endInObject [])
  | '\x7d' :: cs => .ok cs
  | ',' :: cs => .error (.next .trailingComma (',' :: cs))
  | cs => .error (.next .trailingText cs)

def finish (close : List Char → Except Fault (List Char)) : Ending σ → Except Fault (σ × List Char)
  | .complete record cs => do .ok (record, ← close cs)
  | .broken fault => .error fault
  | .refused cause cs =>
    match close cs with
    | .ok cs => .error (.here cause cs)
    | .error fault => .error (.here cause fault.rest)

def read (r : Record σ) : Reader σ := fun cs =>
  match Read.blanks cs with
  | [] => .error (.next .endInValue [])
  | '[' :: cs => finish endArray (readItems r 0 r.start r.fields cs)
  | '\x7b' :: cs => finish endObject (readMembers r (cs.length + 1) true r.start cs)
  | cs => Read.refuse r.title cs

/-- The record whose fields, all of them required, are doubles. -/
def floats (title : String) (names : List String) : Record (List (String × Float)) where
  title := title
  fields := names.map fun name =>
    { name := name
      aliases := []
      required := true
      given := Keyed.contains name
      read := fun record cs => do
        let (x, cs) ← Read.float cs
        .ok (Keyed.insert name x record, cs) }
  start := []

end Record

end LiveTopology.Json
