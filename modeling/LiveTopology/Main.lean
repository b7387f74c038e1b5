import LiveTopology.CommandLine.Console
import LiveTopology.CommandLine.Program
import LiveTopology.Socket.Handshake
import LiveTopology.Socket.Receiver
import Std.Async.DNS
import Std.Async.Signal
import Std.Async.TCP
import Std.Async.Timer
import Std.Sync.Channel

/-!
This module contains the program: it reads lines from the console and keeps the links that its
session asks for.
-/

open Std.Async

namespace LiveTopology.Main

/-- What the parts of the program that wait for something tell the one that keeps the session. -/
inductive Arrival where
  | incident (incident : Incident)
  | log (record : Log.Record)

instance : Inhabited Arrival := ⟨.incident .endOfInput⟩

abbrev Inbox := Std.Channel Arrival

def Inbox.put (inbox : Inbox) (arrival : Arrival) : IO Unit := do
  let _ ← inbox.send arrival

def print (effects : List (Effect Empty)) : IO Unit := do
  for record in effects.filterMap Effect.record? do
    IO.println record.line
  (← IO.getStdout).flush

def faultOf : IO.Error → Socket.Fault
  | .alreadyExists _ code words | .otherError code words | .resourceBusy code words
  | .resourceVanished code words | .unsupportedOperation code words | .hardwareFault code words
  | .unsatisfiedConstraints code words | .illegalOperation code words | .protocolError code words
  | .timeExpired code words | .interrupted _ code words | .noFileOrDirectory _ code words
  | .invalidArgument _ code words | .permissionDenied _ code words
  | .resourceExhausted _ code words | .inappropriateType _ code words
  | .noSuchThing _ code words => .ofSystem (UInt32.size - code.toNat) words
  | .unexpectedEof => .system "unexpected end of file"
  | .userError words => .system words

partial def readLines (inbox : Inbox) (input : IO.FS.Stream) : IO Unit := do
  let incident :=
    match ← (input.getLine).toBaseIO with
    | .ok line => Console.incident (Bytes.ofText line)
    | .error _ => .unreadable
  inbox.put (.incident incident)
  match incident with
  | .line _ => readLines inbox input
  | _ => return

def random (n : Nat) : IO (List UInt8) := do
  return (← IO.getRandomBytes n.toUSize).data.toList

structure Connection where
  number : Nat
  inbox : Inbox
  socket : TCP.Socket.Client
  /-- Whether the session has given the link up. -/
  given : IO.Ref Bool

namespace Connection

def put (c : Connection) (arrival : Arrival) : IO Unit := do
  unless ← c.given.get do c.inbox.put arrival

def report (c : Connection) (event : LinkEvent) : IO Unit :=
  c.put (.incident (.report c.number event))

def send (c : Connection) (bs : List UInt8) : Async Unit :=
  c.socket.send ⟨bs.toArray⟩

def receive (c : Connection) : Async (Option (List UInt8)) := do
  return (← c.socket.recv? 65536).map fun bs => bs.data.toList

def settle (c : Connection) (receipt : Socket.Receipt) : Async Unit := do
  for message in receipt.messages do
    let (events, log) := Link.reports [message]
    for record in log do c.put (.log record)
    for event in events do c.report event
  for reply in receipt.replies do
    c.send (Socket.Packet.write (← random 4) reply.opcode reply.payload)

partial def follow (c : Connection) (receiver : Socket.Receiver) : Async Unit := do
  if receiver.ended || (← c.given.get) then return
  let receipt ←
    try
      match ← c.receive with
      | some bs => pure (receiver.take bs)
      | none => pure receiver.hangUp
    catch error => pure (receiver.fail (faultOf error))
  c.settle receipt
  c.follow receipt.receiver

partial def awaitAnswer (c : Connection) (key : String) (bs : List UInt8)
    : Async (Except Socket.Fault (List UInt8)) := do
  match Socket.Answer.read bs with
  | .error fault => return .error (.protocol fault)
  | .ok (some (answer, rest)) => return (answer.check key).map fun _ => rest
  | .ok none =>
    match ← c.receive with
    | some more => c.awaitAnswer key (bs ++ more)
    | none => return .error (.protocol .noAnswer)

def resolve (target : Socket.Target) : Async (List Std.Net.SocketAddress) := do
  let found ← DNS.getAddrInfo target.host (toString target.service)
  return found.toList.map fun
    | .v4 ip => .v4 ⟨ip, target.service⟩
    | .v6 ip => .v6 ⟨ip, target.service⟩

/-- Opens the socket. Gives the bytes that came behind the answer of the server. -/
def open? (c : Connection) (url : String) : Async (Except Socket.Fault (List UInt8)) := do
  let dialled : Except Socket.Fault (Socket.Address × Socket.Target) := do
    let address ← Socket.Address.parse url
    .ok (address, ← address.target)
  match dialled with
  | .error fault => return .error fault
  | .ok (address, target) =>
    let some server := (← resolve target).head? | return .error (.system "no address found")
    c.socket.connect server
    match address.checkScheme with
    | .error fault => return .error fault
    | .ok () =>
      let key := String.ofList (Socket.base64 (← random 16))
      c.send (Socket.request address key)
      c.awaitAnswer key []

def run (c : Connection) (url : String) : Async Unit := do
  let opened ← try c.open? url catch error => pure (.error (faultOf error))
  match opened with
  | .error fault => c.report (.failed (.connect fault.message))
  | .ok bs =>
    c.put (.log (.info "websocket connected" [("url", url)]))
    c.report .connected
    let receipt := (Socket.Receiver.start bs).drain
    c.settle receipt
    c.follow receipt.receiver

def close (c : Connection) : IO Unit := do
  c.given.set true
  let _ ← c.socket.shutdown.toIO

end Connection

structure Keeper where
  inbox : Inbox
  url : String
  session : Session Empty
  connections : List Connection

namespace Keeper

def wait (inbox : Inbox) (delay : Nat) : Async Unit := do
  sleep (.ofNat delay)
  inbox.put (.incident .timer)

def follow (k : Keeper) (before : Session Empty) : IO Keeper := do
  let records := k.session.view.subscription.links
  for (record, connection) in records.zip k.connections do
    if record.closes ≠ 0 && !(← connection.given.get) then connection.close
  if before.retry ≠ k.session.retry then
    if let some delay := k.session.retry then
      let _ ← (wait k.inbox delay).toIO
  let mut connections := k.connections
  for number in List.range records.length do
    if connections.length ≤ number then
      let c : Connection := ⟨number, k.inbox, ← TCP.Socket.Client.mk, ← IO.mkRef false⟩
      let _ ← (c.run k.url).toIO
      connections := connections ++ [c]
  return { k with connections }

def step (k : Keeper) (incident : Incident) : IO Keeper := do
  let (session, effects) := k.session.step incident
  print effects
  { k with session }.follow k.session

partial def run (k : Keeper) : IO (Session Empty × Outcome) := do
  match k.session.outcome with
  | some outcome => return (k.session, outcome)
  | none =>
    match ← k.inbox.sync.recv with
    | .log record =>
      print [.log record]
      k.run
    | .incident incident@(.report ..) =>
      let k ← k.step incident
      let k ← k.step .feed
      k.run
    | .incident incident =>
      let k ← k.step incident
      k.run

end Keeper

def awaitInterrupt (inbox : Inbox) : IO Unit := do
  let waiter ← Signal.Waiter.mk .sigint false
  let signal ← waiter.wait
  let _ ← IO.mapTask (fun _ => inbox.put (.incident .interrupt)) signal

/-- The file of variables in the current folder, or in the nearest one around it that has one. -/
def envFile : IO (Option String) := do
  for depth in List.range 64 do
    match ← (IO.FS.readFile (String.join (List.replicate depth "../") ++ ".env")).toBaseIO with
    | .ok text => return some text
    | .error _ => pure ()
  return none

/-- Dice whose words are the digits of a seed multiplied and mixed. -/
def dice : IO Dice := do
  let seed := UInt64.ofNat (Bytes.ofLittleEndian (← random 8))
  let word (n : Nat) : UInt64 :=
    let z := seed + 0x9E3779B97F4A7C15 * UInt64.ofNat (n + 1)
    let z := (z ^^^ z >>> 30) * 0xBF58476D1CE4E5B9
    let z := (z ^^^ z >>> 27) * 0x94D049BB133111EB
    z ^^^ z >>> 31
  return ⟨word, 0⟩

def finish (ending : Ending) : IO UInt32 := do
  match ending with
  | .done => pure ()
  | .usage .help => IO.println usage
  | .usage _ => IO.eprintln usage
  | .failed failure => IO.eprintln failure.report
  return ending.code.toUInt32
where
  usage := "Options: --url URL, --map MAP, --zoom-min MIN, --zoom-max MAX, --no-reconnect, --help"

def program (args : List String) : IO UInt32 := do
  let environment := (← Std.Internal.UV.System.osEnviron).toList
  let (log, prepared) := Launch.prepare args (fun name => environment.lookup name) (← envFile)
  print (log.map .log)
  match prepared with
  | .error ending => finish ending
  | .ok launch =>
    let (session, effects) := launch.start (← dice)
    print effects
    let inbox ← Std.Channel.new
    awaitInterrupt inbox
    let input ← IO.getStdin
    let _ ← IO.asTask (readLines inbox input) Task.Priority.dedicated
    let keeper : Keeper := ⟨inbox, launch.settings.serverUrl, session, []⟩
    let (session, outcome) ← (← keeper.follow session).run
    print (Launch.finish session).2
    finish outcome.ending

end LiveTopology.Main

def main (args : List String) : IO UInt32 :=
  LiveTopology.Main.program args
