import LiveTopology.Json.Scan

/-!
This module contains the reading of whole values, both of those that are kept and of those that are
only passed over, and of the simple values that a record asks for.
-/

namespace LiveTopology.Json.Read

/-- Whether a value is wanted, or read only to find its end. -/
inductive Use where
  | kept
  | ignored
  deriving DecidableEq, Repr

/-- Where the inside of an array or an object goes on. -/
inductive Step where
  /-- The text goes on with the closing bracket. -/
  | done (rest : List Char)
  /-- The text goes on with the next item, or behind the opening quote of the next name. -/
  | more (rest : List Char)

def nextItem (use : Use) (first : Bool) (cs : List Char) : Except Fault Step :=
  match blanks cs, first with
  | [], _ => .error (.next .endInArray [])
  | ']' :: cs, _ => .ok (.done (']' :: cs))
  | cs, true => .ok (.more cs)
  | ',' :: cs, false =>
    match blanks cs with
    | ']' :: cs =>
      .error (.next (match use with | .kept => .trailingComma | .ignored => .noValue) (']' :: cs))
    | cs => .ok (.more cs)
  | cs, false => .error (.next .noArrayComma cs)

def nextName (use : Use) (first : Bool) (cs : List Char) : Except Fault Step :=
  match blanks cs, first with
  | [], _ => .error (.next .endInObject [])
  | '\x7d' :: cs, _ => .ok (.done ('\x7d' :: cs))
  | '"' :: cs, true => .ok (.more cs)
  | cs, true => .error (.next .nameNotString cs)
  | ',' :: cs, false =>
    match blanks cs, use with
    | '"' :: cs, _ => .ok (.more cs)
    | [], .kept => .error (.next .endInValue [])
    | [], .ignored => .error (.next .endInObject [])
    | '\x7d' :: cs, .kept => .error (.next .trailingComma ('\x7d' :: cs))
    | cs, _ => .error (.next .nameNotString cs)
  | cs, false => .error (.next .noObjectComma cs)

def colon (cs : List Char) : Except Fault (List Char) :=
  match blanks cs with
  | [] => .error (.next .endInObject [])
  | ':' :: cs => .ok cs
  | cs => .error (.next .noColon cs)

/-- Reads the items of an array and its end, at most `fuel` of them. -/
def items (use : Use) (item : Reader α) : Nat → Bool → Reader (List α)
  | 0, _, cs => .error (.next .endInArray cs)
  | fuel + 1, first, cs => do
    match ← nextItem use first cs with
    | .done cs => .ok ([], cs.drop 1)
    | .more cs =>
      let (v, cs) ← item cs
      let (vs, cs) ← items use item fuel false cs
      .ok (v :: vs, cs)

def members (use : Use) (name : Reader ν) (value : Reader α) : Nat → Bool → Reader (List (ν × α))
  | 0, _, cs => .error (.next .endInObject cs)
  | fuel + 1, first, cs => do
    match ← nextName use first cs with
    | .done cs => .ok ([], cs.drop 1)
    | .more cs =>
      let (k, cs) ← name cs
      let cs ← colon cs
      let (v, cs) ← value cs
      let (kvs, cs) ← members use name value fuel false cs
      .ok ((k, v) :: kvs, cs)

/-- Reads a string whose opening quote has been read. -/
def name : Reader String := fun cs => do
  let (s, cs) ← string cs
  .ok (String.ofList s, cs)

/-- Reads a value that is neither an array nor an object. -/
def scalar : Reader Json := fun cs =>
  match cs with
  | [] => .error (.next .endInValue [])
  | 'n' :: cs => do .ok (.null, ← word ['u', 'l', 'l'] cs)
  | 't' :: cs => do .ok (.bool true, ← word ['r', 'u', 'e'] cs)
  | 'f' :: cs => do .ok (.bool false, ← word ['a', 'l', 's', 'e'] cs)
  | '"' :: cs => do
    let (s, cs) ← name cs
    .ok (.string s, cs)
  | '-' :: cs => do
    let (n, cs) ← number true cs
    .ok (.number n, cs)
  | c :: cs =>
    if c.isDigit then do
      let (n, cs) ← number false (c :: cs)
      .ok (.number n, cs)
    else
      .error (.next .noValue (c :: cs))

/-- Reads a value in which at most `depth` arrays and objects stand inside each other. -/
def value (depth : Nat) : Reader Json := fun cs =>
  match depth, blanks cs with
  | 0, '[' :: cs => .error (.next .tooDeep ('[' :: cs))
  | 0, '\x7b' :: cs => .error (.next .tooDeep ('\x7b' :: cs))
  | depth + 1, '[' :: cs => do
    let (vs, cs) ← items .kept (value depth) (cs.length + 1) true cs
    .ok (.array vs, cs)
  | depth + 1, '\x7b' :: cs => do
    let (kvs, cs) ← members .kept name (value depth) (cs.length + 1) true cs
    .ok (.object (Keyed.ofList kvs), cs)
  | _, cs => scalar cs

/-- How many arrays and objects may stand inside each other in a text. -/
def nesting : Nat := 127

/-- Passes over a string whose opening quote has been read, without pairing its surrogates. -/
def skipString (cs : List Char) : Except Fault (Unit × List Char) :=
  match cs with
  | [] => .error (.here .endInString [])
  | '"' :: rest => .ok ((), rest)
  | '\\' :: 'u' :: rest =>
    match _h : unit rest with
    | .error fault => .error fault
    | .ok (_, rest) => skipString rest
  | '\\' :: [] => .error (.here .endInString [])
  | '\\' :: c :: rest =>
    if c ∈ ['"', '\\', '/', 'b', 'f', 'n', 'r', 't'] then skipString rest
    else .error (.next .badEscape (c :: rest))
  | c :: rest =>
    if c.toNat < 0x20 then .error (.here .control (c :: rest)) else skipString rest
termination_by cs.length
decreasing_by
  . have := unit_length _h
    simp only [List.length_cons]
    omega
  . simp only [List.length_cons]
    omega
  . simp only [List.length_cons]
    omega

def skipNumber (cs : List Char) : Except Fault (Unit × List Char) :=
  match cs with
  | [] => .error (.here .badNumber [])
  | '0' :: rest =>
    if number.startsWithDigit rest then .error (.next .badNumber rest) else fraction rest
  | c :: _ => if c.isDigit then fraction (cs.dropWhile Char.isDigit) else .error (.next .badNumber cs)
where
  fraction (cs : List Char) : Except Fault (Unit × List Char) :=
    match cs with
    | '.' :: rest =>
      if number.startsWithDigit rest then exponent (rest.dropWhile Char.isDigit)
      else .error (.next .badNumber rest)
    | cs => exponent cs
  exponent (cs : List Char) : Except Fault (Unit × List Char) :=
    match cs with
    | [] => .ok ((), [])
    | c :: rest =>
      if c == 'e' || c == 'E' then
        let rest := (Decimal.takeSign rest).2
        if number.startsWithDigit rest then .ok ((), rest.dropWhile Char.isDigit)
        else .error (.next .badNumber rest)
      else
        .ok ((), cs)

def skipScalar : Reader Unit := fun cs =>
  match cs with
  | [] => .error (.next .endInValue [])
  | 'n' :: cs => do .ok ((), ← word ['u', 'l', 'l'] cs)
  | 't' :: cs => do .ok ((), ← word ['r', 'u', 'e'] cs)
  | 'f' :: cs => do .ok ((), ← word ['a', 'l', 's', 'e'] cs)
  | '"' :: cs => skipString cs
  | '-' :: cs => skipNumber cs
  | c :: cs => if c.isDigit then skipNumber (c :: cs) else .error (.next .noValue (c :: cs))

def skip (depth : Nat) : Reader Unit := fun cs =>
  match depth, blanks cs with
  | depth + 1, '[' :: cs => do
    let (_, cs) ← items .ignored (skip depth) (cs.length + 1) true cs
    .ok ((), cs)
  | depth + 1, '\x7b' :: cs => do
    let (_, cs) ← members .ignored skipString (skip depth) (cs.length + 1) true cs
    .ok ((), cs)
  | _, cs => skipScalar cs

/-- Reads enough of the next value to say what it is. -/
def found : Reader Found := fun cs =>
  match cs with
  | '[' :: _ => .ok (.sequence, cs)
  | '\x7b' :: _ => .ok (.map, cs)
  | cs => do
    match ← scalar cs with
    | (.null, cs) => .ok (.null, cs)
    | (.bool b, cs) => .ok (.bool b, cs)
    | (.number n, cs) => .ok (.number n, cs)
    | (.string s, cs) => .ok (.string s, cs)
    | (.array _, cs) => .ok (.sequence, cs)
    | (.object _, cs) => .ok (.map, cs)

def refuse (wanted : String) (cs : List Char) : Except Fault β := do
  let (found, cs) ← found cs
  .error (.here (.wrongType found wanted) cs)

def text : Reader String := fun cs =>
  match blanks cs with
  | [] => .error (.next .endInValue [])
  | '"' :: cs => name cs
  | cs => refuse "a string" cs

def word64 : Reader UInt64 := fun cs => do
  match ← found (blanks cs) with
  | (.number (.int n), cs) =>
    if 0 ≤ n then .ok (UInt64.ofNat n.toNat, cs)
    else .error (.here (.wrongValue (.number (.int n)) "u64") cs)
  | (found, cs) => .error (.here (.wrongType found "u64") cs)

def float : Reader Float := fun cs => do
  match ← found (blanks cs) with
  | (.number (.int n), cs) => .ok (Decimal.nearest n, cs)
  | (.number (.float x), cs) => .ok (x, cs)
  | (found, cs) => .error (.here (.wrongType found "f64") cs)

def option (reader : Reader α) : Reader (Option α) := fun cs =>
  match blanks cs with
  | 'n' :: cs => do .ok (none, ← word ['u', 'l', 'l'] cs)
  | cs => do
    let (v, cs) ← reader cs
    .ok (some v, cs)

def whole (reader : Reader α) (cs : List Char) : Except Fault α := do
  let (v, cs) ← reader cs
  match blanks cs with
  | [] => .ok v
  | cs => .error (.next .trailingText cs)

end LiveTopology.Json.Read
