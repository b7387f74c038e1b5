import LiveTopology.Decimal.Numeral
import LiveTopology.Socket.Fault

/-!
This module contains the addresses of servers: how one is read, and where it leads.
-/

namespace LiveTopology.Socket

structure Address where
  /-- What stands in front of the two slashes, if anything does. -/
  scheme : Option String
  /-- The host, and what is written around it. -/
  authority : String
  path : String
  deriving DecidableEq, Repr

structure Target where
  host : String
  service : UInt16
  deriving DecidableEq, Repr

namespace Address

/-- Whether `c` may stand in a host. -/
def isPlain (c : Char) : Bool :=
  c.isAlphanum || "!$&'()*+,-.;=_~".contains c

def isScheme (c : Char) : Bool :=
  c.isAlphanum || "+-.~".contains c

def isPath (c : Char) : Bool :=
  0x7F < c.toNat || (0x20 < c.toNat && c.toNat < 0x7F && !"#<>?`".contains c)

def isQuery (c : Char) : Bool :=
  0x7F < c.toNat || (0x20 < c.toNat && c.toNat < 0x7F && !"\"#<>".contains c)

def cutScheme (cs : List Char) : Except AddressFault (Option (List Char) × List Char) :=
  match cs.dropWhile isScheme with
  | ':' :: '/' :: '/' :: rest =>
    let scheme := cs.takeWhile isScheme
    if cs.length ≤ 3 then .ok (none, cs)
    else if 64 < scheme.length then .error .schemeTooLong
    else .ok (some scheme, rest)
  | _ => .ok (none, cs)

structure Seen where
  colons : Nat
  opened : Bool
  closed : Bool
  percent : Bool
  /-- Whether the character that was read last ends the name of a user. -/
  user : Bool

def Seen.step (s : Seen) (c : Char) : Except AddressFault Seen :=
  let s := { s with user := false }
  match c with
  | ':' => if 8 ≤ s.colons then .error .badAuthority else .ok { s with colons := s.colons + 1 }
  | '[' => if s.percent || s.opened then .error .badAuthority else .ok { s with opened := true }
  | ']' =>
    if !s.opened || s.closed then .error .badAuthority
    else .ok { s with closed := true, colons := 0, percent := false }
  | '@' => .ok { s with colons := 0, percent := false, user := true }
  | '%' => .ok { s with percent := true }
  | c => if isPlain c then .ok s else .error .badCharacter

def cutAuthority (cs : List Char) : Except AddressFault (List Char × List Char) := do
  let inside (c : Char) : Bool := !"/?#".contains c
  let authority := cs.takeWhile inside
  let s ← authority.foldlM Seen.step ⟨0, false, false, false, false⟩
  if s.opened != s.closed || 1 < s.colons || s.user || s.percent then .error .badAuthority
  else .ok (authority, cs.dropWhile inside)

/-- A path and a query. What stands behind them is not sent to a server. -/
def cutPath (cs : List Char) : Except AddressFault (List Char) :=
  let path := cs.takeWhile isPath
  match cs.dropWhile isPath with
  | [] | '#' :: _ => .ok path
  | '?' :: rest =>
    match rest.dropWhile isQuery with
    | [] | '#' :: _ => .ok (path ++ '?' :: rest.takeWhile isQuery)
    | _ => .error .badCharacter
  | _ => .error .badCharacter

/-- Reads an address. One that has no scheme is a path, or an authority and nothing else. -/
def read (cs : List Char) : Except AddressFault Address :=
  match cs with
  | [] => .error .empty
  | ['*'] => .ok ⟨none, "", "*"⟩
  | '/' :: _ => do .ok ⟨none, "", String.ofList (← cutPath cs)⟩
  | cs => do
    let (scheme, rest) ← cutScheme cs
    if rest.isEmpty then .error .empty
    else
      let (authority, rest) ← cutAuthority rest
      match scheme with
      | none =>
        if rest.isEmpty then .ok ⟨none, String.ofList authority, ""⟩
        else .error (if cs.length = 1 then .badCharacter else .badFormat)
      | some scheme =>
        if authority.isEmpty then .error .badFormat
        else
          let path ← cutPath rest
          .ok ⟨some (String.ofList scheme), String.ofList authority,
            if path.isEmpty then "/" else String.ofList path⟩

/-- The authority without the name of a user. -/
def server (a : Address) : List Char :=
  (a.authority.toList.reverse.takeWhile (· ≠ '@')).reverse

def host (a : Address) : List Char :=
  match a.server with
  | '[' :: cs => cs.takeWhile (· ≠ ']')
  | cs => cs.takeWhile (· ≠ ':')

/-- The number of the service behind the last colon, if one stands there. -/
def service? (a : Address) : Option UInt16 :=
  let digits := (a.server.reverse.takeWhile (· ≠ ':')).reverse
  if digits.length = a.server.length then none
  else
    match Decimal.parseWord? (String.ofList digits) with
    | some n => if n.toNat < UInt16.size then some (UInt16.ofNat n.toNat) else none
    | none => none

def target (a : Address) : Except Fault Target :=
  if a.authority.isEmpty then .error (.target .noHost)
  else
    match a.service?, a.scheme with
    | some service, _ => .ok ⟨String.ofList a.host, service⟩
    | none, some "ws" => .ok ⟨String.ofList a.host, 80⟩
    | none, some "wss" => .ok ⟨String.ofList a.host, 443⟩
    | none, _ => .error (.target .unknownScheme)

/-- Refuses an address whose scheme is not that of a plain socket. -/
def checkScheme (a : Address) : Except Fault Unit :=
  match a.scheme with
  | some "ws" => .ok ()
  | some "wss" => .error (.target .noEncryption)
  | _ => .error (.target .unknownScheme)

def parse (s : String) : Except Fault Address :=
  if 65534 < s.utf8ByteSize then .error (.address .tooLong)
  else (read s.toList).mapError .address

end Address

end LiveTopology.Socket
