import Livecast.Command.LiveSession
import Livecast.WebSocket.Acceptance
import Livecast.WebSocket.Upgrade
import Std.Async.DNS
import Std.Async.TCP

/-!
# The command line

Only what happens outside is here: the files are looked at and changes are put back, bytes go to and
come from the network and the standard streams, and the clock is read.  What they mean is decided
elsewhere.
-/

namespace Livecast.Program

open Std.Async Std.Net

/-! ## The world before and after -/

/-- The variables that a command line looks at. -/
def variableNames : List String :=
  ["VSTREAM_CONFIG", "VSTREAM_SERVER", "VSTREAM_LOG_LEVEL", "VSTREAM_KEY", "RUST_LOG",
    "XDG_CONFIG_HOME", "HOME"]

/-- The variables that are set. -/
def environment : IO Environment :=
  variableNames.filterMapM fun name => do return (← IO.getEnv name).map (name, ·)

/-- The path of a place. -/
def pathOf (place : Place) : String := "/" ++ "/".intercalate place

/-- Takes in what stands at a place. -/
def look (v : Volume) (place : Place) : IO Volume := do
  let path := (← IO.currentDir) / pathOf place
  if ← path.isDir then return v.put place .folder
  try
    return v.put place (.file (← IO.FS.readBinFile path).toList)
  catch _ => return v

/-- What stands on the way to some paths and at their ends. -/
def snapshot (paths : List Path) : IO Volume := do
  let folder := (← IO.currentDir).toString
  let v : Volume := ⟨[], (folder.splitOn "/").filter (· ≠ "")⟩
  (((⟨folder⟩ :: paths).flatMap v.passed).eraseDups).foldlM look v

/-- Puts changes back. -/
def putBack (changes : List (Place × Content)) : IO Unit :=
  changes.forM fun
    | (place, .folder) => IO.FS.createDir (pathOf place)
    | (place, .file bytes) => IO.FS.writeBinFile (pathOf place) ⟨bytes.toArray⟩

/-! ## The network -/

/-- A refusal with its number, which the network gives below zero. -/
def numbered (code : UInt32) (details : String) : String :=
  let number := if 0 ≤ code.toInt32 then code.toNat else (-code).toNat
  details.capitalize ++ " (os error " ++ Text.natText number ++ ")"

/-- Why the system refuses something, as users know it. -/
def reasonOf : IO.Error → String
  | .noSuchThing _ code details | .permissionDenied _ code details
  | .resourceExhausted _ code details | .invalidArgument _ code details => numbered code details
  | .otherError code details | .resourceVanished code details | .resourceBusy code details
  | .timeExpired code details => numbered code details
  | e => toString e

/-- Some random bytes. -/
def randomBytes (n : Nat) : IO Bytes := do return (← IO.getRandomBytes (USize.ofNat n)).toList

/-- Connects to a service at the first address of its host that can be reached. -/
def reach (host : String) (service : Nat) : IO TCP.Socket.Client := do
  let places ← (DNS.getAddrInfo host (toString service)).block
  let mut failure : IO.Error := .userError "failed to lookup address information"
  for place in places do
    try
      let client ← TCP.Socket.Client.mk
      let address : SocketAddress := match place with
        | .v4 a => .v4 ⟨a, UInt16.ofNat service⟩
        | .v6 a => .v6 ⟨a, UInt16.ofNat service⟩
      (client.connect address).block
      return client
    catch e => failure := e
  throw failure

/-- Receives the head of a reply. -/
partial def receiveHead (client : TCP.Socket.Client) (got : List Char) : IO (List Char) := do
  if (Upgrade.head? [] got).isSome then return got
  match ← (client.recv? 4096).block with
  | none => return got
  | some more => receiveHead client (got ++ more.toList.map fun b => Char.ofNat b.toNat)

/-- Connects and asks for a stream: the connection, and what has already arrived on it. -/
def dial (url : String) : IO (Except SessionFailure (TCP.Socket.Client × Bytes)) := do
  let refused (message : String) := return .error (SessionFailure.handshake message)
  match WebSocketAddress.parse url with
  | .error e => refused e.message
  | .ok address =>
    match address.serviceToUse with
    | .error e => refused e.message
    | .ok service =>
      try
        let client ← reach address.host service
        match address.checkScheme with
        | .error e => refused e.message
        | .ok () =>
          let key := String.ofList (Text.base64 (← randomBytes 16))
          (client.send (Upgrade.request address key).toUTF8).block
          match Upgrade.check (Upgrade.accept key) (← receiveHead client []) with
          | .error e => refused e.message
          | .ok rest => return .ok (client, rest.map fun c => UInt8.ofNat c.toNat)
      catch e => refused ("IO error: " ++ reasonOf e)

/-! ## Sessions -/

/-- What is under way between a session and the world. -/
structure Exchange where
  /-- The session. -/
  live : LiveSession
  /-- What will arrive from the server. -/
  network : Option (AsyncTask (Option ByteArray))
  /-- What has arrived on the standard input, and whether nothing more will. -/
  input : IO.Ref (ByteArray × Bool)
  /-- When the session was last told the time, in milliseconds. -/
  clock : Nat

/-- Shows, writes and sends what is new. -/
def emit (client : Option TCP.Socket.Client) (output : ByteArray → IO Unit)
    (old new : LiveSession) : IO Unit := do
  for line in Ending.logLines new.setup.filter (new.log.drop old.log.length) do
    IO.eprintln line
  let bytes := new.written.drop old.written.length
  unless bytes.isEmpty do output ⟨bytes.toArray⟩
  if let some client := client then
    for data in new.connection.pings.drop old.connection.pings.length do
      (client.send ⟨(WireFrame.bytes 10 (some (← randomBytes 4)) data).toArray⟩).block
    for item in new.connection.written.drop old.connection.written.length do
      let bytes := item.bytes (← randomBytes 4) new.connection.closingCode
      (client.send ⟨bytes.toArray⟩).block

/-- Takes in what has arrived. -/
def receive (client : TCP.Socket.Client) (x : Exchange) : IO Exchange := do
  match x.network with
  | none => return x
  | some task =>
    unless ← IO.hasFinished task do return x
    match task.get with
    | .ok (some bytes) =>
      return { x with live := x.live.arrive bytes.toList,
                      network := some (← (client.recv? 65536).asTask) }
    | _ => return { x with live := x.live.hangUp, network := none }

/-- Reads the standard input to its end.  A read waits until it has all of its bytes, so that it
asks for few. -/
partial def collect (stdin : IO.FS.Stream) (input : IO.Ref (ByteArray × Bool)) : IO Unit := do
  let bytes ← stdin.read 256
  input.modify fun (arrived, _) => (arrived ++ bytes, bytes.isEmpty)
  unless bytes.isEmpty do collect stdin input

/-- Takes in what has been read. -/
def read (x : Exchange) : IO Exchange := do
  let (bytes, ended) ← x.input.modifyGet fun (arrived, ended) => ((arrived, ended), (.empty, ended))
  let live := if bytes.isEmpty then x.live else x.live.feed (Pipe.write · (.data bytes.toList))
  return { x with live := if ended then live.feed Pipe.finish else live }

/-- Runs a session until it has ended. -/
partial def run (client : TCP.Socket.Client) (output : ByteArray → IO Unit) (x : Exchange) :
    IO Exchange := do
  if x.live.isFinished then return x
  let now ← IO.monoMsNow
  let next ← receive client x
  let next ← read next
  let next := { next with live := next.live.elapse (now - x.clock), clock := now }
  emit client output x.live next.live
  IO.sleep 2
  run client output next

/-- Leaves the server without waiting for anything more from it. -/
def leave (client : TCP.Socket.Client) (x : Exchange) : IO Unit := do
  if let some task := x.network then
    (client.recvSelector 1).unregisterFn.block
    discard <| IO.wait task

/-- Where a session writes what it receives. -/
def outputOf (setup : Setup) : IO (ByteArray → IO Unit) := do
  match setup.media with
  | .input _ => return fun _ => pure ()
  | .output path _ =>
    if path.isStandardStream then
      let stdout ← IO.getStdout
      return fun bytes => do
        stdout.write bytes
        stdout.flush
    else
      let handle ← IO.FS.Handle.mk path.text .write
      return fun bytes => do
        handle.write bytes
        handle.flush

/-- Whether a session reads the standard input. -/
def readsStdin (setup : Setup) : Bool :=
  match setup.media with
  | .input source => source.pipe.writing
  | .output _ _ => false

/-- Runs a session that has been set up. -/
def perform (setup : Setup) : IO Ending := do
  let output ← outputOf setup
  let first := LiveSession.start setup
  emit none output { first with log := [] } first
  let last ← match ← dial setup.url with
    | .error e =>
      let last := first.conclude (.error e)
      emit none output first last
      pure last
    | .ok (client, bytes) =>
      let live := (first.conclude (.ok setup.url)).arrive bytes
      emit (some client) output first live
      let network ← (client.recv? 65536).asTask
      let input ← IO.mkRef (ByteArray.empty, false)
      if readsStdin setup then
        let _ ← IO.asTask (collect (← IO.getStdin) input) .dedicated
      let last ← run client output ⟨live, some network, input, ← IO.monoMsNow⟩
      leave client last
      pure last.live
  let shown := (Ending.logLines setup.filter last.log).length
  let ending := last.ending?.getD ⟨0, [], []⟩
  return { ending with output := [], lines := ending.lines.drop shown }

end Livecast.Program

open Livecast Livecast.Program in
/-- Runs the command that the arguments name. -/
def main (words : List String) : IO UInt32 := do
  let env ← environment
  let before ← snapshot (CommandLine.paths env words)
  let (after, plan) := CommandLine.plan ⟨before, env⟩ words
  putBack (after.changes before)
  let ending ← match plan with
    | .ended ending => pure ending
    | .session setup => perform setup
  (← IO.getStdout).write ⟨ending.output.toArray⟩
  ending.lines.forM IO.eprintln
  return UInt32.ofNat ending.exit
