import LiveTopology.Decimal.Layout
import LiveTopology.Json.Basic

/-!
This module contains the compact text of a value: no blanks, members in their order, and every
character but quotes, backslashes and controls as it is.
-/

namespace LiveTopology

/-- Doubles are marked as fractions, and have a signed exponent from `1e+16` and below `1e-5` on. -/
def Json.layout : Decimal.Layout where
  tie := .even
  plain := some (-5, 15)
  pointZero := true
  plus := true

def Json.printInt (n : Int) : List Char :=
  if n < 0 then '-' :: Nat.toDigits 10 n.natAbs else Nat.toDigits 10 n.natAbs

/-- There is no text for an infinity or a NaN, so that `null` stands for them. -/
def Json.printFloat (x : Float) : List Char :=
  if x.isFinite then (Json.layout.write x).toList else ['n', 'u', 'l', 'l']

def Number.print : Number → List Char
  | .int n => Json.printInt n
  | .float x => Json.printFloat x

namespace Json

def printChar (c : Char) : List Char :=
  match c with
  | '"' => ['\\', '"']
  | '\\' => ['\\', '\\']
  | '\x08' => ['\\', 'b']
  | '\x0c' => ['\\', 'f']
  | '\n' => ['\\', 'n']
  | '\r' => ['\\', 'r']
  | '\t' => ['\\', 't']
  | c =>
    if c.toNat < 0x20 then
      ['\\', 'u', '0', '0', Nat.digitChar (c.toNat / 16), Nat.digitChar (c.toNat % 16)]
    else
      [c]

def printString (s : String) : List Char :=
  '"' :: (s.toList.flatMap printChar ++ ['"'])

mutual

def print : Json → List Char
  | .null => ['n', 'u', 'l', 'l']
  | .bool true => ['t', 'r', 'u', 'e']
  | .bool false => ['f', 'a', 'l', 's', 'e']
  | .number n => n.print
  | .string s => printString s
  | .array [] => ['[', ']']
  | .array (item :: items) => '[' :: (print item ++ printItems items)
  | .object [] => ['\x7b', '\x7d']
  | .object ((name, value) :: members) =>
    '\x7b' :: (printString name ++ ':' :: (print value ++ printMembers members))

def printItems : List Json → List Char
  | [] => [']']
  | item :: items => ',' :: (print item ++ printItems items)

def printMembers : List (String × Json) → List Char
  | [] => ['\x7d']
  | (name, value) :: members =>
    ',' :: (printString name ++ ':' :: (print value ++ printMembers members))

end

def text (v : Json) : String :=
  String.ofList (print v)

end Json

end LiveTopology
