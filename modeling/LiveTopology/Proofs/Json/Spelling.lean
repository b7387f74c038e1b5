import LiveTopology.Json.Reader
import LiveTopology.Proofs.Decimal.Digits

/-!
This module contains the ways in which a value can be written: with any blanks, with any characters
escaped, with numbers in any form and with names in any order. A spelling is the syntax tree of such
a text. It also contains what a spelling stands for, if it stands for a value at all.
-/

namespace LiveTopology.Json

open Decimal

namespace Spelling

structure Blanks where
  text : List Char
  isBlank : ∀ c ∈ text, Read.isBlank c = true

def Blanks.none : Blanks :=
  ⟨[], List.forall_mem_nil _⟩

/-- What has blanks around it. -/
structure Padded (α : Type) where
  before : Blanks
  inner : α
  after : Blanks

def Padded.text {α : Type} (text : α → List Char) (p : Padded α) : List Char :=
  p.before.text ++ (text p.inner ++ p.after.text)

/-- What has no blanks around it. -/
def Padded.bare {α : Type} (inner : α) : Padded α :=
  ⟨.none, inner, .none⟩

/-- The letters that stand for a character behind a backslash. -/
inductive Escape where
  | quote
  | backslash
  | slash
  | backspace
  | formFeed
  | newline
  | carriageReturn
  | tab

def Escape.letter : Escape → Char
  | .quote => '"'
  | .backslash => '\\'
  | .slash => '/'
  | .backspace => 'b'
  | .formFeed => 'f'
  | .newline => 'n'
  | .carriageReturn => 'r'
  | .tab => 't'

def Escape.char : Escape → Char
  | .quote => '"'
  | .backslash => '\\'
  | .slash => '/'
  | .backspace => '\x08'
  | .formFeed => '\x0c'
  | .newline => '\n'
  | .carriageReturn => '\r'
  | .tab => '\t'

structure HexDigit where
  value : Fin 16
  /-- Whether a letter is written as a capital. -/
  capital : Bool

def HexDigit.char (d : HexDigit) : Char :=
  if d.capital then (Nat.digitChar d.value).toUpper else Nat.digitChar d.value

/-- The four digits behind `\u`. -/
structure CodeUnit where
  first : HexDigit
  second : HexDigit
  third : HexDigit
  fourth : HexDigit

namespace CodeUnit

def text (u : CodeUnit) : List Char :=
  [u.first.char, u.second.char, u.third.char, u.fourth.char]

def value (u : CodeUnit) : Nat :=
  ((u.first.value * 16 + u.second.value) * 16 + u.third.value) * 16 + u.fourth.value

def ofNat (n : Nat) : CodeUnit :=
  ⟨⟨.ofNat 16 (n / 4096), false⟩, ⟨.ofNat 16 (n / 256), false⟩, ⟨.ofNat 16 (n / 16), false⟩,
    ⟨.ofNat 16 n, false⟩⟩

theorem value_ofNat {n : Nat} (h : n < 0x10000) : (ofNat n).value = n := by
  show ((n / 4096 % 16 * 16 + n / 256 % 16) * 16 + n / 16 % 16) * 16 + n % 16 = n
  omega

/-- The character that takes two units. -/
def pair (u v : CodeUnit) : Char :=
  .ofNat (0x10000 + (u.value - 0xD800) * 0x400 + (v.value - 0xDC00))

end CodeUnit

/-- A piece of a string. -/
inductive Piece where
  /-- A character that stands for itself. -/
  | plain (c : Char) (control : 0x20 ≤ c.toNat) (quote : c ≠ '"') (backslash : c ≠ '\\')
  | escaped (e : Escape)
  | unit (u : CodeUnit)

def Piece.text : Piece → List Char
  | .plain c _ _ _ => [c]
  | .escaped e => ['\\', e.letter]
  | .unit u => '\\' :: 'u' :: u.text

def quoted (ps : List Piece) : List Char :=
  '"' :: (ps.flatMap Piece.text ++ ['"'])

/-- The characters that a string stands for. There are none if half of a character stands alone. -/
def Piece.decode : List Piece → Option (List Char)
  | [] => some []
  | .plain c _ _ _ :: ps => (decode ps).map (c :: ·)
  | .escaped e :: ps => (decode ps).map (e.char :: ·)
  | .unit u :: ps =>
    if Read.isTrailing u.value then
      none
    else if Read.isLeading u.value then
      match ps with
      | .unit v :: ps =>
        if Read.isTrailing v.value then (decode ps).map (u.pair v :: ·) else none
      | _ => none
    else
      (decode ps).map (.ofNat u.value :: ·)

def Piece.string? (ps : List Piece) : Option String :=
  (Piece.decode ps).map String.ofList

/-- A character as it is, or escaped where it has to be. -/
def Piece.ofChar (c : Char) : Piece :=
  if h : 0x20 ≤ c.toNat ∧ c ≠ '"' ∧ c ≠ '\\' then .plain c h.1 h.2.1 h.2.2
  else if c = '"' then .escaped .quote
  else if c = '\\' then .escaped .backslash
  else .unit (.ofNat c.toNat)

def Piece.ofText (s : String) : List Piece :=
  s.toList.map ofChar

theorem decode_unit_cons {u : CodeUnit} (htrailing : Read.isTrailing u.value = false)
    (hleading : Read.isLeading u.value = false) (ps : List Piece)
    : Piece.decode (.unit u :: ps) = (Piece.decode ps).map (.ofNat u.value :: ·) := by
  rw [Piece.decode.eq_def]
  simp [htrailing, hleading]

theorem decode_ofChar_cons (c : Char) (ps : List Piece)
    : Piece.decode (Piece.ofChar c :: ps) = (Piece.decode ps).map (c :: ·) := by
  unfold Piece.ofChar
  split
  . rfl
  split
  . next hquote =>
    rw [hquote]
    rfl
  split
  . next hbackslash =>
    rw [hbackslash]
    rfl
  . next hplain hquote hbackslash =>
    have hcontrol : c.toNat < 0x20 := by
      by_contra hnot
      exact hplain ⟨Nat.le_of_not_lt hnot, hquote, hbackslash⟩
    have hvalue : (CodeUnit.ofNat c.toNat).value = c.toNat := CodeUnit.value_ofNat (by omega)
    rw [decode_unit_cons, hvalue, Char.ofNat_toNat]
    . rw [hvalue]
      simp [Read.isTrailing]
      omega
    . rw [hvalue]
      simp [Read.isLeading]
      omega

/-- Every text can be written. -/
theorem string?_ofText (s : String) : Piece.string? (Piece.ofText s) = some s := by
  have hdecode (cs : List Char) : Piece.decode (cs.map Piece.ofChar) = some cs := by
    induction cs with
    | nil => rfl
    | cons c cs ih =>
      rw [List.map_cons, decode_ofChar_cons, ih]
      rfl
  unfold Piece.string? Piece.ofText
  rw [hdecode]
  exact congrArg some String.ofList_toList

structure Digits where
  text : List Char
  isDigit : ∀ c ∈ text, c.isDigit = true
  ne_nil : text ≠ []

inductive Sign where
  | none
  | plus
  | minus
  deriving DecidableEq

def Sign.text : Sign → List Char
  | .none => []
  | .plus => ['+']
  | .minus => ['-']

structure Exponent where
  capital : Bool
  sign : Sign
  digits : Digits

namespace Exponent

def text (e : Exponent) : List Char :=
  (if e.capital then 'E' else 'e') :: (e.sign.text ++ e.digits.text)

def value (e : Exponent) : Int :=
  if e.sign = .minus then -ofDigits e.digits.text else ofDigits e.digits.text

def isExcessive (e : Exponent) : Bool :=
  Read.greatestExponent < ofDigits e.digits.text && e.sign != .minus

end Exponent

structure Numeral where
  negative : Bool
  whole : List Char
  isWhole : IsWhole whole
  fraction : Option Digits
  exponent : Option Exponent

def inRange? : Number → Option Number
  | .int int => some (.int int)
  | .float x => if x.isFinite then some (.float x) else none

namespace Numeral

variable (n : Numeral)

def size : List Char :=
  n.whole ++ (n.fraction.elim [] (fun ds => '.' :: ds.text) ++ n.exponent.elim [] Exponent.text)

def text : List Char :=
  (if n.negative then ['-'] else []) ++ n.size

def parts : Read.Numeral :=
  ⟨n.negative, n.whole, n.fraction.elim [] Digits.text, n.exponent.map Exponent.value⟩

/-- The number that is read, if what is written is in the range of the numbers. -/
def value? : Option Number :=
  if n.exponent.any Exponent.isExcessive && ofDigits (n.parts.whole ++ n.parts.fraction) != 0 then
    none
  else
    inRange? n.parts.value

end Numeral

end Spelling

inductive Spelling where
  | null
  | bool (b : Bool)
  | number (n : Spelling.Numeral)
  | string (ps : List Spelling.Piece)
  | array (inside : Spelling.Blanks) (items : List (Spelling.Padded Spelling))
  | object (inside : Spelling.Blanks)
      (members : List (Spelling.Padded (List Spelling.Piece) × Spelling.Padded Spelling))

namespace Spelling

abbrev Member := Padded (List Piece) × Padded Spelling

/-- Texts and the end of their list, with a comma in front of each but the first one of all. -/
def listed (close : Char) : Bool → List (List Char) → List Char
  | _, [] => [close]
  | true, t :: ts => t ++ listed close false ts
  | false, t :: ts => ',' :: (t ++ listed close false ts)

mutual

def text : Spelling → List Char
  | .null => ['n', 'u', 'l', 'l']
  | .bool true => ['t', 'r', 'u', 'e']
  | .bool false => ['f', 'a', 'l', 's', 'e']
  | .number n => n.text
  | .string ps => quoted ps
  | .array inside items => '[' :: (inside.text ++ listed ']' true (textsOfItems items))
  | .object inside members =>
    '\x7b' :: (inside.text ++ listed '\x7d' true (textsOfMembers members))

def textsOfItems : List (Padded Spelling) → List (List Char)
  | [] => []
  | ⟨before, item, after⟩ :: items =>
    (before.text ++ (item.text ++ after.text)) :: textsOfItems items

def textsOfMembers : List Member → List (List Char)
  | [] => []
  | (name, ⟨before, value, after⟩) :: members =>
    (name.text quoted ++ ':' :: (before.text ++ (value.text ++ after.text)))
      :: textsOfMembers members

end

mutual

/-- How many arrays and objects stand inside each other. -/
def depth : Spelling → Nat
  | .array _ items => depthOfItems items + 1
  | .object _ members => depthOfMembers members + 1
  | _ => 0

def depthOfItems : List (Padded Spelling) → Nat
  | [] => 0
  | ⟨_, item, _⟩ :: items => max (depth item) (depthOfItems items)

def depthOfMembers : List Member → Nat
  | [] => 0
  | (_, ⟨_, value, _⟩) :: members => max (depth value) (depthOfMembers members)

end

mutual

/--
The value that is written. Of two members of one name, the last one counts. There is no value for
half of a character and for a number that is out of range.
-/
def value? : Spelling → Option Json
  | .null => some .null
  | .bool b => some (.bool b)
  | .number n => n.value?.map .number
  | .string ps => (Piece.string? ps).map .string
  | .array _ items => (valuesOfItems items).map .array
  | .object _ members => (valuesOfMembers members).map fun members => .object (Keyed.ofList members)

def valuesOfItems : List (Padded Spelling) → Option (List Json)
  | [] => some []
  | ⟨_, item, _⟩ :: items => do
    let value ← value? item
    let values ← valuesOfItems items
    some (value :: values)

def valuesOfMembers : List Member → Option (List (String × Json))
  | [] => some []
  | (name, ⟨_, value, _⟩) :: members => do
    let name ← Piece.string? name.inner
    let value ← value? value
    let members ← valuesOfMembers members
    some ((name, value) :: members)

end

/-- What is true of a spelling if it is true of the spellings inside it is true of every one. -/
@[induction_eliminator]
theorem induct {P : Spelling → Prop} (null : P .null) (bool : ∀ b, P (.bool b))
    (number : ∀ n, P (.number n)) (string : ∀ ps, P (.string ps))
    (array : ∀ inside items, (∀ i ∈ items, P i.inner) → P (.array inside items))
    (object : ∀ inside members, (∀ m ∈ members, P m.2.inner) → P (.object inside members))
    (s : Spelling)
    : P s := by
  apply @Spelling.rec P (fun items => ∀ i ∈ items, P i.inner) (fun ms => ∀ m ∈ ms, P m.2.inner)
    (fun i => P i.inner) (fun m => P m.2.inner) null bool number string array object
  . exact List.forall_mem_nil _
  . exact fun _ _ hitem hitems => List.forall_mem_cons.2 ⟨hitem, hitems⟩
  . exact List.forall_mem_nil _
  . exact fun _ _ hmember hmembers => List.forall_mem_cons.2 ⟨hmember, hmembers⟩
  . exact fun _ _ _ hinner => hinner
  . exact fun _ _ hvalue => hvalue

def Member.text (m : Member) : List Char :=
  m.1.text quoted ++ ':' :: m.2.text Spelling.text

/-- The name that is written, if it has no half of a character. -/
def Member.name? (m : Member) : Option String :=
  Piece.string? m.1.inner

theorem textsOfItems_eq (items : List (Padded Spelling))
    : textsOfItems items = items.map (Padded.text text) := by
  induction items with
  | nil => rfl
  | cons i items ih => rw [textsOfItems, ih]; rfl

theorem textsOfMembers_eq (members : List Member)
    : textsOfMembers members = members.map Member.text := by
  induction members with
  | nil => rfl
  | cons m members ih => rw [textsOfMembers, ih]; rfl

theorem depthOfItems_le_iff {items : List (Padded Spelling)} {d : Nat}
    : depthOfItems items ≤ d ↔ ∀ i ∈ items, i.inner.depth ≤ d := by
  induction items with
  | nil => simp [depthOfItems]
  | cons i items ih => rw [depthOfItems, Nat.max_le, ih, List.forall_mem_cons]

theorem depthOfMembers_le_iff {members : List Member} {d : Nat}
    : depthOfMembers members ≤ d ↔ ∀ m ∈ members, m.2.inner.depth ≤ d := by
  induction members with
  | nil => simp [depthOfMembers]
  | cons m members ih => rw [depthOfMembers, Nat.max_le, ih, List.forall_mem_cons]

theorem length_lt_length_listed (close : Char) (ts : List (List Char))
    : ts.length < (listed close false ts).length := by
  induction ts with
  | nil => simp [listed]
  | cons t ts ih =>
    simp only [listed, List.length_cons, List.length_append]
    omega

theorem length_le_length_listed (close : Char) (first : Bool) (ts : List (List Char))
    : ts.length ≤ (listed close first ts).length := by
  cases first with
  | false => exact Nat.le_of_lt (length_lt_length_listed close ts)
  | true =>
    cases ts with
    | nil => exact Nat.zero_le _
    | cons t ts =>
      have := length_lt_length_listed close ts
      simp only [listed, List.length_cons, List.length_append]
      omega

theorem length_le_of_mem_listed (close : Char) (first : Bool) {t : List Char}
    {ts : List (List Char)} (h : t ∈ ts) : t.length ≤ (listed close first ts).length := by
  induction ts generalizing first with
  | nil => contradiction
  | cons u ts ih =>
    rcases List.mem_cons.1 h with rfl | h
    . cases first <;> simp only [listed, List.length_cons, List.length_append] <;> omega
    . have := ih false h
      cases first <;> simp only [listed, List.length_cons, List.length_append] <;> omega

/-- A text is as long as its arrays and objects nest deep. -/
theorem depth_le_length_text (s : Spelling) : s.depth ≤ s.text.length := by
  induction s with
  | array inside items ih =>
    have hitems : depthOfItems items ≤ (listed ']' true (textsOfItems items)).length := by
      rw [depthOfItems_le_iff, textsOfItems_eq]
      intro i hi
      have htext :=
        length_le_of_mem_listed ']' true (List.mem_map_of_mem (f := Padded.text text) hi)
      have hinner := ih i hi
      simp only [Padded.text, List.length_append] at htext
      omega
    simp only [depth, text, List.length_cons, List.length_append]
    omega
  | object inside members ih =>
    have hmembers : depthOfMembers members
        ≤ (listed '\x7d' true (textsOfMembers members)).length := by
      rw [depthOfMembers_le_iff, textsOfMembers_eq]
      intro m hm
      have htext := length_le_of_mem_listed '\x7d' true (List.mem_map_of_mem (f := Member.text) hm)
      have hinner := ih m hm
      simp only [Member.text, Padded.text, List.length_append, List.length_cons] at htext
      omega
    simp only [depth, text, List.length_cons, List.length_append]
    omega
  | _ => exact Nat.zero_le _

/-- The value, if it nests no deeper than `d`. -/
def within (d : Nat) (s : Spelling) : Option Json :=
  if s.depth ≤ d then s.value? else none

/-- What a member stands for, if its name and its value stand for something. -/
def Member.read? {ν α : Type} (name : List Piece → Option ν) (value : Spelling → Option α)
    (m : Member) : Option (ν × α) := do
  let k ← name m.1.inner
  let v ← value m.2.inner
  some (k, v)

theorem mapM_within_items (d : Nat) (items : List (Padded Spelling))
    : items.mapM (fun i => i.inner.within d)
        =
      if depthOfItems items ≤ d then valuesOfItems items else none := by
  induction items with
  | nil => simp [depthOfItems, valuesOfItems]
  | cons i items ih =>
    rw [List.mapM_cons, ih, depthOfItems, valuesOfItems, within]
    by_cases hitem : i.inner.depth ≤ d
    . by_cases hitems : depthOfItems items ≤ d <;> simp [hitem, hitems]
    . simp [hitem]

theorem mapM_within_members (d : Nat) (members : List Member)
    : members.mapM (Member.read? Piece.string? (within d))
        =
      if depthOfMembers members ≤ d then valuesOfMembers members else none := by
  induction members with
  | nil => simp [depthOfMembers, valuesOfMembers]
  | cons m members ih =>
    rw [List.mapM_cons, ih, depthOfMembers, valuesOfMembers, Member.read?, within]
    by_cases hvalue : m.2.inner.depth ≤ d
    . by_cases hmembers : depthOfMembers members ≤ d <;>
        simp [hvalue, hmembers, Option.bind_assoc]
    . simp [hvalue]

theorem within_array (d : Nat) (inside : Blanks) (items : List (Padded Spelling))
    : within (d + 1) (.array inside items)
        =
      (items.mapM fun i : Padded Spelling => i.inner.within d).map .array := by
  rw [mapM_within_items, within]
  simp only [depth, value?, Nat.add_le_add_iff_right]
  split <;> rfl

theorem within_object (d : Nat) (inside : Blanks) (members : List Member)
    : within (d + 1) (.object inside members)
        =
      (members.mapM (Member.read? Piece.string? (within d))).map fun members => .object (Keyed.ofList members) := by
  rw [mapM_within_members, within]
  simp only [depth, value?, Nat.add_le_add_iff_right]
  split <;> rfl

end Spelling

end LiveTopology.Json
