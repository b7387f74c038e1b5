import LiveTopology.Bytes
import LiveTopology.Json.Printer
import LiveTopology.Text.Quoted

/-!
This module contains the reasons for which a text is not read, their wording, and the line and
column that a message names.
-/

namespace LiveTopology.Json

inductive Found where
  | null
  | bool (b : Bool)
  | number (n : Number)
  | string (s : String)
  | sequence
  | map
  deriving DecidableEq, Repr

def Found.phrase : Found → String
  | .null => "null"
  | .bool b => "boolean `" ++ (if b then "true" else "false") ++ "`"
  | .number (.int n) => "integer `" ++ String.ofList (printInt n) ++ "`"
  | .number (.float x) => "floating point `" ++ layout.write x ++ "`"
  | .string s => "string " ++ Text.quote s
  | .sequence => "sequence"
  | .map => "map"

inductive Cause where
  | endInValue
  | endInString
  | endInArray
  | endInObject
  | noColon
  | noArrayComma
  | noObjectComma
  | noWord
  | noValue
  | badEscape
  | badNumber
  | hugeNumber
  | loneSurrogate
  | cutSurrogate
  | control
  | nameNotString
  | tooDeep
  | trailingComma
  | trailingText
  | wrongType (found : Found) (wanted : String)
  | wrongValue (found : Found) (wanted : String)
  | wrongLength (length : Nat) (wanted : String)
  | missing (name : String)
  | repeated (name : String)
  deriving DecidableEq, Repr

def Cause.message : Cause → String
  | .endInValue => "EOF while parsing a value"
  | .endInString => "EOF while parsing a string"
  | .endInArray => "EOF while parsing a list"
  | .endInObject => "EOF while parsing an object"
  | .noColon => "expected `:`"
  | .noArrayComma => "expected `,` or `]`"
  | .noObjectComma => "expected `,` or `\x7d`"
  | .noWord => "expected ident"
  | .noValue => "expected value"
  | .badEscape => "invalid escape"
  | .badNumber => "invalid number"
  | .hugeNumber => "number out of range"
  | .loneSurrogate => "lone leading surrogate in hex escape"
  | .cutSurrogate => "unexpected end of hex escape"
  | .control => "control character (\\u0000-\\u001F) found while parsing a string"
  | .nameNotString => "key must be a string"
  | .tooDeep => "recursion limit exceeded"
  | .trailingComma => "trailing comma"
  | .trailingText => "trailing characters"
  | .wrongType found wanted => "invalid type: " ++ found.phrase ++ ", expected " ++ wanted
  | .wrongValue found wanted => "invalid value: " ++ found.phrase ++ ", expected " ++ wanted
  | .wrongLength length wanted => "invalid length " ++ toString length ++ ", expected " ++ wanted
  | .missing name => "missing field `" ++ name ++ "`"
  | .repeated name => "duplicate field `" ++ name ++ "`"

/--
Why and where a text is not read: at the byte that lies `ahead` bytes behind the point from which
`rest` is still to be read, but not behind the end of the text.
-/
structure Fault where
  cause : Cause
  rest : List Char
  ahead : Nat
  deriving DecidableEq, Repr

namespace Fault

def here (cause : Cause) (rest : List Char) : Fault :=
  ⟨cause, rest, 0⟩

def next (cause : Cause) (rest : List Char) : Fault :=
  ⟨cause, rest, 1⟩

end Fault

def bytes (cs : List Char) : List UInt8 :=
  Bytes.ofText (String.ofList cs)

/-- A line, counted from one, and the number of bytes from its start. -/
structure Position where
  line : Nat
  column : Nat
  deriving DecidableEq, Repr

def Position.after (read : List UInt8) : Position where
  line := read.count '\n'.toUInt8 + 1
  column := (read.reverse.takeWhile (· != '\n'.toUInt8)).length

def Fault.position (fault : Fault) (text : List Char) : Position :=
  let whole := bytes text
  .after (whole.take (whole.length - (bytes fault.rest).length + fault.ahead))

def Fault.message (fault : Fault) (text : List Char) : String :=
  let position := fault.position text
  s!"{fault.cause.message} at line {position.line} column {position.column}"

abbrev Reader (α : Type) := List Char → Except Fault (α × List Char)

end LiveTopology.Json
