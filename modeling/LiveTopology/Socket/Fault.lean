import LiveTopology.Socket.Status

/-!
This module contains the reasons for which a socket is not opened, or breaks while it is read.
-/

namespace LiveTopology.Socket

inductive AddressFault where
  | empty
  | tooLong
  | badCharacter
  | badAuthority
  | badFormat
  | schemeTooLong
  deriving DecidableEq, Repr

def AddressFault.message : AddressFault → String
  | .empty => "empty string"
  | .tooLong => "uri too long"
  | .badCharacter => "invalid uri character"
  | .badAuthority => "invalid authority"
  | .badFormat => "invalid format"
  | .schemeTooLong => "scheme too long"

inductive TargetFault where
  | noHost
  | unknownScheme
  | noEncryption
  deriving DecidableEq, Repr

def TargetFault.message : TargetFault → String
  | .noHost => "No host name in the URL"
  | .unknownScheme => "URL scheme not supported"
  | .noEncryption => "TLS support not compiled in"

inductive AnswerFault where
  | version
  | status
  | headerName
  deriving DecidableEq, Repr

def AnswerFault.message : AnswerFault → String
  | .version => "invalid HTTP version"
  | .status => "invalid response status"
  | .headerName => "invalid header name"

inductive ProtocolFault where
  | noAnswer
  | badAnswer (fault : AnswerFault)
  | oldVersion
  | noUpgrade
  | noConnection
  | wrongKey
  /-- The connection ends without a closing packet. -/
  | reset
  | reservedBits
  | masked
  | unknownOpcode (code : Nat)
  | fragmentedControl
  | longControl
  | badClose
  | nothingToContinue
  /-- A message starts inside another one. -/
  | interrupted (kind : String)
  deriving DecidableEq, Repr

def ProtocolFault.message : ProtocolFault → String
  | .noAnswer => "Handshake not finished"
  | .badAnswer fault => s!"httparse error: {fault.message}"
  | .oldVersion => "HTTP version must be 1.1 or higher"
  | .noUpgrade => "No \"Upgrade: websocket\" header"
  | .noConnection => "No \"Connection: upgrade\" header"
  | .wrongKey => "Key mismatch in \"Sec-WebSocket-Accept\" header"
  | .reset => "Connection reset without closing handshake"
  | .reservedBits => "Reserved bits are non-zero"
  | .masked => "Received a masked frame from server"
  | .unknownOpcode code => s!"Encountered invalid opcode: {code}"
  | .fragmentedControl => "Fragmented control frame"
  | .longControl => "Control frame too big (payload must be 125 bytes or less)"
  | .badClose => "Invalid close sequence"
  | .nothingToContinue => "Continue frame but nothing to continue"
  | .interrupted kind => s!"While waiting for more fragments received: {kind}"

inductive Fault where
  | system (reason : String)
  | address (fault : AddressFault)
  | target (fault : TargetFault)
  /-- The server answers with a status other than the one that opens a socket. -/
  | refused (status : Nat)
  | protocol (fault : ProtocolFault)
  | notText
  | tooLong (size max : Nat)
  deriving DecidableEq, Repr

def Fault.message : Fault → String
  | .system reason => s!"IO error: {reason}"
  | .address fault => s!"HTTP format error: {fault.message}"
  | .target fault => s!"URL error: {fault.message}"
  | .refused status => s!"HTTP error: {status} {phrase status}"
  | .protocol fault => s!"WebSocket protocol error: {fault.message}"
  | .notText => "UTF-8 encoding error"
  | .tooLong size max => s!"Space limit exceeded: Message too long: {size} > {max}"

def Fault.ofSystem (code : Nat) (words : String) : Fault :=
  .system s!"{words.capitalize} (os error {code})"

end LiveTopology.Socket
