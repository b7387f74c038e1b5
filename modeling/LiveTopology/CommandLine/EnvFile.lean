import LiveTopology.Settings
import LiveTopology.Text.Alphanumeric
import LiveTopology.Text.Blank

/-!
This module contains the file that may stand in for variables of the environment: how it is cut into
statements, how a statement is read, and which variables follow from it.
-/

namespace LiveTopology.EnvFile

/-- A statement that is not read, or a value in it, and how far it was read. -/
structure Fault where
  text : String
  index : Nat
  deriving DecidableEq, Repr

def Fault.message (f : Fault) : String :=
  s!"Error parsing line: '{f.text}', error at line index: {f.index}"

/-! A statement ends with a line, unless a quote or a backslash is open there. -/

/-- What the end of a line would stand in. -/
inductive Inside where
  | plain
  | blank
  | escape
  | weak
  | weakEscape
  | strong
  | strongEscape
  deriving DecidableEq, Repr

/-- What stands behind one more character. Nothing does once a comment starts. -/
def Inside.step (inside : Inside) (c : Char) : Option Inside :=
  match inside with
  | .blank => if c = '#' then none else some (opening c .plain)
  | .plain =>
    if Text.isBlank c && c ≠ '\n' && c ≠ '\r' then some .blank else some (opening c .plain)
  | .escape => some .plain
  | .weak => some (if c = '\\' then .weakEscape else if c = '"' then .plain else .weak)
  | .weakEscape => some .weak
  | .strong => some (if c = '\\' then .strongEscape else if c = '\'' then .plain else .strong)
  | .strongEscape => some .strong
where
  opening (c : Char) (otherwise : Inside) : Inside :=
    if c = '\\' then .escape else if c = '"' then .weak else if c = '\'' then .strong
    else otherwise

/-- A line up to a comment, and what its end stands in if there is no comment. -/
def Inside.line (inside : Inside) : List Char → List Char × Option Inside
  | [] => ([], some inside)
  | c :: cs =>
    match inside.step c with
    | none => ([], none)
    | some inside =>
      let (before, last) := inside.line cs
      (c :: before, last)

def chomp (cs : List Char) : List Char :=
  match cs.reverse with
  | '\n' :: '\r' :: rest => rest.reverse
  | '\n' :: rest => rest.reverse
  | _ => cs

def isComment (cs : List Char) : Bool :=
  (cs.dropWhile Text.isBlank).head? = some '#'

/-- The statements that lines make, up to the first one that does not end. -/
def statements (lines : List (List Char)) : List (Except Fault (List Char)) :=
  go [] .plain lines
where
  go (before : List Char) (inside : Inside) : List (List Char) → List (Except Fault (List Char))
    | [] =>
      if inside = .plain then []
      else
        let s := String.ofList before
        [.error ⟨s, s.utf8ByteSize⟩]
    | line :: lines =>
      let (kept, last) := inside.line line
      if isComment (before ++ line) then .ok [] :: go [] .plain lines
      else
        match last with
        | none => .ok (before ++ kept) :: go [] .plain lines
        | some .plain => .ok (chomp (before ++ line)) :: go [] .plain lines
        | some inside => go (before ++ line) inside lines

/-! A value may have quotes, escapes and the values of other variables in it. -/

inductive Quote where
  | off
  | weak
  | strong
  deriving DecidableEq, Repr

/-- The name of a variable, as far as it is read. -/
inductive Reference where
  | none
  | bare (name : List Char)
  | braced (name : List Char)
  deriving DecidableEq, Repr

structure Value where
  output : List Char
  quote : Quote
  escaped : Bool
  /-- Whether the value has ended, and only a comment may follow. -/
  ended : Bool
  reference : Reference
  deriving DecidableEq, Repr

namespace Value

def start : Value :=
  ⟨[], .off, false, false, .none⟩

def push (v : Value) (c : Char) : Value :=
  { v with output := v.output ++ [c] }

/-- Puts in the value of a variable. One that is not set has none. -/
def resolve (v : Value) (lookup : Settings.Lookup) (name : List Char) : Value :=
  { v with
    output := v.output ++ ((lookup (String.ofList name)).getD "").toList
    reference := .none }

def refer (v : Value) (lookup : Settings.Lookup) (c : Char) : Reference → Value
  | .none => v
  | .bare name =>
    if Text.isAlphanumeric c then { v with reference := .bare (name ++ [c]) }
    else if c = '{' && name.isEmpty then { v with reference := .braced [] }
    else
      let v := v.resolve lookup name
      if c = '$' then { v with reference := .bare [] } else v.push c
  | .braced name =>
    if c = '}' then v.resolve lookup name else { v with reference := .braced (name ++ [c]) }

def step (v : Value) (lookup : Settings.Lookup) (c : Char) : Option Value :=
  if v.ended then
    if c = ' ' || c = '\t' then some v else none
  else if v.escaped then
    if "\\'\"$ ".contains c then some { v.push c with escaped := false }
    else if c = 'n' then some { v.push '\n' with escaped := false }
    else none
  else if v.quote = .strong then
    some (if c = '\'' then { v with quote := .off } else v.push c)
  else if v.reference ≠ .none then some (v.refer lookup c v.reference)
  else
    match c, v.quote with
    | '$', _ => some { v with reference := .bare [] }
    | '\\', _ => some { v with escaped := true }
    | '"', .weak => some { v with quote := .off }
    | '"', _ => some { v with quote := .weak }
    | c, .weak => some (v.push c)
    | '\'', _ => some { v with quote := .strong }
    | ' ', _ | '\t', _ => some { v with ended := true }
    | c, _ => some (v.push c)

def finish (v : Value) (lookup : Settings.Lookup) : Option (List Char) :=
  match v.quote, v.reference with
  | .off, .none => some v.output
  | .off, .bare name => some (v.resolve lookup name).output
  | _, _ => none

def read (lookup : Settings.Lookup) (cs : List Char) : Except Fault (List Char) :=
  go 0 start cs
where
  go (index : Nat) (v : Value) : List Char → Except Fault (List Char)
    | [] =>
      match v.finish lookup with
      | some output => .ok output
      | none => .error ⟨String.ofList cs, (String.ofList cs).utf8ByteSize - 1⟩
    | c :: rest =>
      if v.ended && c = '#' then .ok v.output
      else
        match v.step lookup c with
        | some v => go (index + 1) v rest
        | none => .error ⟨String.ofList cs, index⟩

end Value

/-! A statement is a name, an equals sign and a value. -/

def faultAt (statement rest : List Char) : Fault :=
  let whole := (Text.trimEnd statement)
  ⟨String.ofList statement,
    (String.ofList whole).utf8ByteSize - (String.ofList rest).utf8ByteSize⟩

def cutName (cs : List Char) : Option (List Char × List Char) :=
  let isInner (c : Char) : Bool := c.isAlphanum || c = '_' || c = '.'
  match cs with
  | c :: _ =>
    if c.isAlpha || c = '_' then
      some (cs.takeWhile isInner, (cs.dropWhile isInner).dropWhile Text.isBlank)
    else none
  | [] => none

def cutSetting (statement : List Char) : Except Fault (List Char × List Char) := do
  let cs := (Text.trimEnd statement).dropWhile Text.isBlank
  match cutName cs with
  | none => .error (faultAt statement cs)
  | some (name, '=' :: rest) => .ok (name, rest)
  | some (name, rest) =>
    if name = "export".toList then
      match cutName rest with
      | none => .error (faultAt statement rest)
      | some (name, '=' :: rest) => .ok (name, rest)
      | some (_, rest) => .error (faultAt statement rest)
    else .error (faultAt statement rest)

def readStatement (lookup : Settings.Lookup) (statement : List Char)
    : Except Fault (Option (String × String)) :=
  let cs := (Text.trimEnd statement).dropWhile Text.isBlank
  if cs.isEmpty || isComment cs then .ok none
  else do
    let (name, rest) ← cutSetting statement
    let rest := rest.dropWhile Text.isBlank
    if rest.isEmpty || isComment rest then .ok (some (String.ofList name, ""))
    else
      let value ← Value.read lookup rest
      .ok (some (String.ofList name, String.ofList value))

/-- Sets a variable, unless it is set. -/
def extend (lookup : Settings.Lookup) (name value : String) : Settings.Lookup :=
  fun n => lookup n <|> if n = name then some value else none

/-- The variables after those of a file were set, up to the first fault in it. -/
def load (lookup : Settings.Lookup) (text : String) : Settings.Lookup × Option Fault :=
  let cs := match text.toList with
    | '\uFEFF' :: cs => cs
    | cs => cs
  go lookup (statements (cs.splitBy fun c _ => c ≠ '\n'))
where
  go (lookup : Settings.Lookup) : List (Except Fault (List Char)) → Settings.Lookup × Option Fault
    | [] => (lookup, none)
    | .error fault :: _ => (lookup, some fault)
    | .ok statement :: rest =>
      match readStatement lookup statement with
      | .error fault => (lookup, some fault)
      | .ok none => go lookup rest
      | .ok (some (name, value)) => go (extend lookup name value) rest

end LiveTopology.EnvFile
