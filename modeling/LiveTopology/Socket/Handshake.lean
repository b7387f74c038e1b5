import LiveTopology.Socket.Address
import LiveTopology.Socket.Digest
import LiveTopology.Text.Blank

/-!
This module contains how a socket is opened: the request that is sent to the server, and the answer
that shows that the server agrees.
-/

namespace LiveTopology.Socket

/-- The name of the protocol, as it is appended to a key before the digest is taken. -/
def protocolId : String := "258EAFA5-E914-47DA-95CA-C5AB0DC85B11"

/-- What the server has to answer to a key. -/
def acceptance (key : String) : String :=
  String.ofList (base64 (digest (Bytes.ofText (key ++ protocolId))))

def lineEnd : List Char := ['\r', '\n']

def request (a : Address) (key : String) : List UInt8 :=
  let lines := [s!"GET {a.path} HTTP/1.1", s!"Host: {String.ofList a.server}",
    "Connection: Upgrade", "Upgrade: websocket", "Sec-WebSocket-Version: 13",
    s!"Sec-WebSocket-Key: {key}", ""]
  Bytes.ofText (String.ofList (lines.flatMap fun line => line.toList ++ lineEnd))

/-- An answer: its status, and what stands in its lines by their names in lower case. -/
structure Answer where
  status : Nat
  headers : List (String × String)
  deriving DecidableEq, Repr

namespace Answer

def header? (a : Answer) (name : String) : Option String :=
  (a.headers.find? fun h => h.1 = name).map Prod.snd

/-- Whether the value of a header is a word, in upper or lower case. -/
def hasWord (a : Answer) (name word : String) : Bool :=
  (a.header? name).map String.toLower = some word

/-- Refuses an answer that does not open a socket, naming the first reason. -/
def check (a : Answer) (key : String) : Except Fault Unit :=
  if a.status ≠ 101 then .error (.refused a.status)
  else if !a.hasWord "upgrade" "websocket" then .error (.protocol .noUpgrade)
  else if !a.hasWord "connection" "upgrade" then .error (.protocol .noConnection)
  else if a.header? "sec-websocket-accept" ≠ some (acceptance key) then
    .error (.protocol .wrongKey)
  else .ok ()

def cutHead : List UInt8 → Option (List UInt8 × List UInt8)
  | 13 :: 10 :: 13 :: 10 :: rest => some ([], rest)
  | b :: bs => (cutHead bs).map fun (head, rest) => (b :: head, rest)
  | [] => none

def lines (head : List UInt8) : List (List Char) :=
  (head.map fun b => Char.ofNat b.toNat).splitBy (fun _ c => c ≠ '\n')
    |>.map fun line => line.filter fun c => c ≠ '\r' ∧ c ≠ '\n'

def readStatus (line : List Char) : Except ProtocolFault Nat :=
  match line with
  | 'H' :: 'T' :: 'T' :: 'P' :: '/' :: '1' :: '.' :: minor :: ' ' :: a :: b :: c :: rest =>
    if minor ≠ '0' ∧ minor ≠ '1' then .error (.badAnswer .version)
    else if !([a, b, c].all Char.isDigit) || !(rest.isEmpty || rest.head? = some ' ') then
      .error (.badAnswer .status)
    else if minor = '0' then .error .oldVersion
    else .ok ([a, b, c].foldl (fun n c => 10 * n + (c.toNat - '0'.toNat)) 0)
  | _ => .error (.badAnswer .version)

def readHeader (line : List Char) : Except ProtocolFault (String × String) :=
  let name := line.takeWhile (· ≠ ':')
  match line.dropWhile (· ≠ ':') with
  | _ :: value =>
    if name.isEmpty || name.any Text.isBlank then .error (.badAnswer .headerName)
    else .ok ((String.ofList name).toLower, Text.trim (String.ofList value))
  | [] => .error (.badAnswer .headerName)

def read (bs : List UInt8) : Except ProtocolFault (Option (Answer × List UInt8)) :=
  match cutHead bs with
  | none => .ok none
  | some (head, rest) => do
    match lines head with
    | [] => .error (.badAnswer .version)
    | first :: more =>
      let status ← readStatus first
      .ok (some (⟨status, ← more.mapM readHeader⟩, rest))

end Answer

end LiveTopology.Socket
