/-!
This module contains the characters that count as blank space, and the ways a text is cut at them:
its ends are trimmed, or the words between them are taken out.
-/

namespace LiveTopology.Text

/-- Whether `c` has the Unicode property `White_Space`. -/
def isBlank (c : Char) : Bool :=
  let n := c.toNat
  (9 ≤ n && n ≤ 13) || n == 0x20 || n == 0x85 || n == 0xA0 || n == 0x1680
    || (0x2000 ≤ n && n ≤ 0x200A) || n == 0x2028 || n == 0x2029 || n == 0x202F || n == 0x205F
    || n == 0x3000

def trimEnd (cs : List Char) : List Char :=
  (cs.reverse.dropWhile isBlank).reverse

def trim (s : String) : String :=
  String.ofList (trimEnd (s.toList.dropWhile isBlank))

/-- The longest runs of characters in `cs` that are no gaps, in order. -/
def runs (isGap : Char → Bool) (cs : List Char) : List (List Char) :=
  go [] cs
where
  /-- `run` holds the characters of the run being read, the last one first. -/
  go (run : List Char) : List Char → List (List Char)
    | [] => close run []
    | c :: cs => if isGap c then close run (go [] cs) else go (c :: run) cs
  close (run : List Char) (rest : List (List Char)) : List (List Char) :=
    if run.isEmpty then rest else run.reverse :: rest

def words (line : String) : List String :=
  (runs isBlank line.toList).map String.ofList

end LiveTopology.Text
