import LiveTopology.Json.Fault
import LiveTopology.Json.Numeral

/-!
This module contains the reading of the parts of a text that hold no other values: blanks, words,
strings and numbers.
-/

namespace LiveTopology.Json.Read

def isBlank (c : Char) : Bool :=
  c == ' ' || c == '\n' || c == '\t' || c == '\r'

def blanks (cs : List Char) : List Char :=
  cs.dropWhile isBlank

/-- What is left after a word of which one letter has been read already. -/
def word : List Char → List Char → Except Fault (List Char)
  | [], cs => .ok cs
  | _ :: _, [] => .error (.here .endInValue [])
  | w :: ws, c :: cs => if c = w then word ws cs else .error (.next .noWord (c :: cs))

def hexDigit? (c : Char) : Option Nat :=
  if '0' ≤ c ∧ c ≤ '9' then some (c.toNat - '0'.toNat)
  else if 'a' ≤ c ∧ c ≤ 'f' then some (c.toNat - 'a'.toNat + 10)
  else if 'A' ≤ c ∧ c ≤ 'F' then some (c.toNat - 'A'.toNat + 10)
  else none

/-- Reads the four digits after `\u`, which are four bytes whatever characters they belong to. -/
def unit : Reader Nat := fun cs =>
  match cs with
  | a :: b :: c :: d :: rest =>
    match hexDigit? a, hexDigit? b, hexDigit? c, hexDigit? d with
    | some a, some b, some c, some d => .ok (((a * 16 + b) * 16 + c) * 16 + d, rest)
    | _, _, _, _ => .error (bad cs)
  | _ => .error (bad cs)
where
  bad (cs : List Char) : Fault :=
    if (bytes cs).length < 4 then .here .endInString [] else ⟨.badEscape, cs, 4⟩

def isLeading (unit : Nat) : Bool :=
  0xD800 ≤ unit && unit < 0xDC00

def isTrailing (unit : Nat) : Bool :=
  0xDC00 ≤ unit && unit < 0xE000

/-- Reads the second half of a character that takes two units. -/
def trailing (leading : Nat) : Reader Char := fun cs =>
  match cs with
  | [] => .error (.here .endInString [])
  | '\\' :: [] => .error (.here .endInString [])
  | '\\' :: 'u' :: cs => do
    let (n, rest) ← unit cs
    if isTrailing n then
      .ok (Char.ofNat (0x10000 + (leading - 0xD800) * 0x400 + (n - 0xDC00)), rest)
    else
      .error (.here .loneSurrogate rest)
  | '\\' :: cs => .error (.next .cutSurrogate cs)
  | cs => .error (.next .cutSurrogate cs)

def escape : Reader Char := fun cs =>
  match cs with
  | [] => .error (.here .endInString [])
  | '"' :: rest => .ok ('"', rest)
  | '\\' :: rest => .ok ('\\', rest)
  | '/' :: rest => .ok ('/', rest)
  | 'b' :: rest => .ok ('\x08', rest)
  | 'f' :: rest => .ok ('\x0c', rest)
  | 'n' :: rest => .ok ('\n', rest)
  | 'r' :: rest => .ok ('\r', rest)
  | 't' :: rest => .ok ('\t', rest)
  | 'u' :: rest => do
    let (n, rest) ← unit rest
    if isTrailing n then .error (.here .loneSurrogate rest)
    else if isLeading n then trailing n rest
    else .ok (Char.ofNat n, rest)
  | cs => .error (.next .badEscape cs)

theorem unit_length {cs rest : List Char} {n : Nat} (h : unit cs = .ok (n, rest))
    : rest.length < cs.length := by
  unfold unit at h
  split at h
  . split at h <;> simp_all
    omega
  . simp at h

theorem trailing_length {leading : Nat} {cs rest : List Char} {c : Char}
    (h : trailing leading cs = .ok (c, rest)) : rest.length < cs.length := by
  unfold trailing at h
  split at h
  . simp at h
  . simp at h
  . rename_i cs
    match hu : unit cs with
    | .error e => simp [hu, bind, Except.bind] at h
    | .ok (n, rest') =>
      have := unit_length hu
      simp only [hu, bind, Except.bind] at h
      split at h <;> simp_all
      omega
  . simp at h
  . simp at h

theorem escape_length {cs rest : List Char} {c : Char} (h : escape cs = .ok (c, rest))
    : rest.length < cs.length := by
  unfold escape at h
  split at h <;> try (simp at h; done)
  case h_10 cs =>
    match hu : unit cs with
    | .error e => simp [hu, bind, Except.bind] at h
    | .ok (n, rest') =>
      have := unit_length hu
      simp only [hu, bind, Except.bind] at h
      split at h
      . simp at h
      . split at h
        . have := trailing_length h
          simp
          omega
        . simp_all
          omega
  all_goals simp_all

def string (cs : List Char) : Except Fault (List Char × List Char) :=
  match cs with
  | [] => .error (.here .endInString [])
  | '"' :: rest => .ok ([], rest)
  | '\\' :: rest =>
    match _h : escape rest with
    | .error fault => .error fault
    | .ok (c, rest) => (string rest).map fun (cs, rest) => (c :: cs, rest)
  | c :: rest =>
    if c.toNat < 0x20 then .error (.here .control rest)
    else (string rest).map fun (cs, rest) => (c :: cs, rest)
termination_by cs.length
decreasing_by
  . have := escape_length _h
    simp only [List.length_cons]
    omega
  . simp only [List.length_cons]
    omega

def greatestExponent : Nat := 0x7FFFFFFF

/-- What is left of `ds ++ rest` after the digit that takes an exponent over its greatest size. -/
def afterOverflow (ds rest : List Char) : List Char :=
  let kept := (List.range (ds.length + 1)).find? fun n =>
    greatestExponent < Decimal.ofDigits (ds.take n)
  ds.drop (kept.getD ds.length) ++ rest

/-- Reads a number whose sign, if it has one, has been read. -/
def number (negative : Bool) : Reader Number := fun cs =>
  match cs with
  | [] => .error (.here .endInValue [])
  | '0' :: rest =>
    if startsWithDigit rest then .error (.next .badNumber rest) else fraction ['0'] rest
  | c :: _ =>
    if c.isDigit then fraction (cs.takeWhile Char.isDigit) (cs.dropWhile Char.isDigit)
    else .error (.next .badNumber cs)
where
  startsWithDigit : List Char → Bool
    | [] => false
    | c :: _ => c.isDigit
  fraction (whole : List Char) : Reader Number := fun cs =>
    match cs with
    | '.' :: rest =>
      let ds := rest.takeWhile Char.isDigit
      match ds, rest.dropWhile Char.isDigit with
      | [], [] => .error (.next .endInValue [])
      | [], rest => .error (.next .badNumber rest)
      | ds, rest => exponent whole ds rest
    | cs => exponent whole [] cs
  exponent (whole fraction : List Char) : Reader Number := fun cs =>
    match cs with
    | [] => finish ⟨negative, whole, fraction, none⟩ []
    | c :: rest =>
      if c == 'e' || c == 'E' then
        let (below, rest) := Decimal.takeSign rest
        let ds := rest.takeWhile Char.isDigit
        let after := rest.dropWhile Char.isDigit
        match ds, after with
        | [], [] => .error (.here .endInValue [])
        | [], after => .error (.next .badNumber after)
        | ds, after =>
          let size := Decimal.ofDigits ds
          if greatestExponent < size && !below && Decimal.ofDigits (whole ++ fraction) != 0 then
            .error (.here .hugeNumber (afterOverflow ds after))
          else
            finish ⟨negative, whole, fraction, some (if below then -size else size)⟩ after
      else
        finish ⟨negative, whole, fraction, none⟩ cs
  finish (n : Numeral) : Reader Number := fun rest =>
    match n.value with
    | .int int => .ok (.int int, rest)
    | .float x => if x.isFinite then .ok (.float x, rest) else .error (.here .hugeNumber rest)

end LiveTopology.Json.Read
