import SessionInventory.Run
import SessionInventory.Wire
import Std.Async.DNS
import Std.Async.TCP
import Std.Async.Timer

/-!
# The program

Hands the arguments, the environment and the bytes of the service's answer to the library, and its
outcome to the two output streams. Addresses are asked over plain connections only: a request to one
that takes encrypted connections ends as if there were no connecting to it.
-/

namespace SessionInventory.Program

open Std.Async

/-- The number of the user that a process runs as, from the lines that the system gives of it. -/
def userNumber? (status : String) : Option String :=
  (status.splitOn "\n").findSome? fun line =>
    match line.splitOn "\t" with
    | "Uid:" :: user :: _ => some user
    | _ => none

/-- The home directory of a user, from the lines that the system keeps of its users. -/
def homeOf? (user : String) (records : String) : Option String :=
  (records.splitOn "\n").findSome? fun line =>
    match line.splitOn ":" with
    | _ :: _ :: number :: _ :: _ :: home :: _ => if number = user then some home else none
    | _ => none

/-- The home directory on record for the user, if there are records. -/
def readRecordedHome : IO (Option String) := do
  try
    let status ← IO.FS.readFile "/proc/self/status"
    let records ← IO.FS.readFile "/etc/passwd"
    pure ((userNumber? status).bind (homeOf? · records))
  catch _ => pure none

/-- The variables that a run looks at, and the home directory on record. -/
def readEnvironment : IO Environment := do
  let names := ["GPU_SHOPPER_URL", "SSH_KEY_PATH", "SSH_USER", "HOME", "RUST_LOG"]
  let values ← names.mapM fun name => do
    pure (name, (← IO.getEnv name).map Utf8.encode)
  pure ⟨fun name => (values.lookup name).join, (← readRecordedHome).map Utf8.encode⟩

/-- What the system says of an error, with its number if there is one. -/
def systemText : IO.Error → String
  | .otherError code text | .resourceBusy code text | .resourceVanished code text
  | .unsupportedOperation code text | .hardwareFault code text
  | .unsatisfiedConstraints code text | .illegalOperation code text | .protocolError code text
  | .timeExpired code text | .interrupted _ code text | .noFileOrDirectory _ code text
  | .alreadyExists _ code text | .invalidArgument _ code text | .permissionDenied _ code text
  | .resourceExhausted _ code text | .inappropriateType _ code text | .noSuchThing _ code text =>
    text.capitalize ++ " (os error " ++ toString (-code.toInt32.toInt) ++ ")"
  | e => toString e

/-- The socket addresses of a host. -/
def socketAddresses (host : String) (port : UInt16) : Async (Array Std.Net.SocketAddress) := do
  let name := String.ofList (host.toList.filter fun c => c ≠ '[' && c ≠ ']')
  let found ← DNS.getAddrInfo name (toString port)
  pure (found.map fun
    | .v4 a => .v4 ⟨a, port⟩
    | .v6 a => .v6 ⟨a, port⟩)

/-- All bytes that come until the connection is closed. -/
partial def receiveAll (socket : TCP.Socket.Client) (received : ByteArray) : Async ByteArray := do
  match ← socket.recv? 65536 with
  | none => pure received
  | some bytes => receiveAll socket (received ++ bytes)

/-- Connects to an address, or says why that is not possible. -/
def connectTo (address : Address) : Async (Except (List String) TCP.Socket.Client) := do
  let socket ← TCP.Socket.Client.mk
  try
    let port := ((address.authority.bind (·.port)).getD 80).toUInt16
    match (← socketAddresses (address.host?.getD "") port)[0]? with
    | none => pure (.error ["client error (Connect)", "dns error"])
    | some target =>
      socket.connect target
      pure (.ok socket)
  catch e =>
    pure (.error ["client error (Connect)", "tcp connect error", systemText e])

/-- Sends a request and collects the answer. -/
def exchangeWith (trail : Trail) : Async Reply := do
  match ← connectTo trail.destination.address with
  | .error causes => pure ⟨.broken causes, none⟩
  | .ok socket =>
    try
      socket.sendAll #[trail.requestText.toByteArray]
      let answer ← receiveAll socket ByteArray.empty
      pure (.ofBytes answer.data.toList)
    catch e =>
      pure ⟨.broken ["client error (SendRequest)", "connection error", systemText e], none⟩

/-- What comes of one request. There are no encrypted connections. -/
def ask (trail : Trail) : Async Reply :=
  if trail.destination.address.scheme ≠ "http" then
    pure ⟨.broken ["client error (Connect)", "encrypted connections are not supported"], none⟩
  else exchangeWith trail

/-- What comes of the request to a destination in the time that there is, wherever it is sent on
to. -/
def perform (destination : Destination) : IO Exchange := do
  let late : Async Exchange := do
    sleep (.ofNat Service.defaultTimeout)
    pure (.broken ["operation timed out"])
  let answer ← Async.toIO ((Trail.start destination).follow ask)
  let alarm ← Async.toIO late
  match ← IO.waitAny [answer, alarm] with
  | .ok exchange => pure exchange
  | .error e => pure (.broken ["client error (Connect)", systemText e])

/-- Runs the program. -/
def start (arguments : List (List UInt8)) : IO UInt32 := do
  let environment ← readEnvironment
  let exchange ← match destination? arguments environment with
    | some destination => perform destination
    | none => pure (.broken [])
  let outcome := run arguments environment exchange
  outcome.reports.forM fun line => IO.eprintln line
  IO.print outcome.output
  pure outcome.exitCode.toUInt32

end SessionInventory.Program

def main (arguments : List String) : IO UInt32 :=
  SessionInventory.Program.start (arguments.map SessionInventory.Utf8.encode)
