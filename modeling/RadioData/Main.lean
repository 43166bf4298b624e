import RadioData.Broadcast
import RadioData.Server
import RadioData.Session
import Std.Async.Select
import Std.Async.Signal
import Std.Async.TCP
import Std.Async.Timer
/-!
# The server program

The outer layer: it hands the command line and the settings file to `plan`, listens for clients, and
passes what arrives from clients, from their broadcasts and from the clock on to `Session.handle`.
All clients share one simulated band; each has a broadcast of its own.
-/

namespace RadioData.Program

open Std.Async

/-- The number of the system's error behind a failure. Some calls report it with a minus sign. -/
def errorNumber : IO.Error → Nat
  | .alreadyExists _ code _ | .otherError code _ | .resourceBusy code _ | .resourceVanished code _
  | .unsupportedOperation code _ | .hardwareFault code _ | .unsatisfiedConstraints code _
  | .illegalOperation code _ | .protocolError code _ | .timeExpired code _
  | .interrupted _ code _ | .noFileOrDirectory _ code _ | .invalidArgument _ code _
  | .permissionDenied _ code _ | .resourceExhausted _ code _ | .inappropriateType _ code _
  | .noSuchThing _ code _ => code.toInt32.toInt.natAbs
  | .unexpectedEof | .userError _ => 0

/-- The address in the form that the system takes it. It has no place for a scope. -/
def systemAddress : SocketAddress → Std.Net.SocketAddress
  | .v4 h port => .v4 ⟨⟨#v[h.a, h.b, h.c, h.d]⟩, port⟩
  | .v6 groups _ port => .v6 ⟨⟨groups⟩, port⟩

/-- Tells the operator something at once. -/
def announce (line : String) : IO Unit := do
  IO.println line
  (← IO.getStdout).flush

/-- What a client's session waits for. -/
inductive Arrival where
  | fromClient (data : Option ByteArray)
  | wake

/-- The session of one client. -/
def serveClient (s : Settings) (tuner : IO.Ref SimulatedBand) (client : TCP.Socket.Client) :
    Async Unit := do
  let some started := Broadcast.start? (1000 * s.groupMs) s.simulation.damageEvery | return
  let epoch ← IO.monoMsNow
  let mut broadcast := started
  let mut session : Session := {}
  let mut lapse := s.pollMs
  repeat
    let now := (← IO.monoMsNow) - epoch
    broadcast := (broadcast.runUntil (← tuner.get).station? now now).1
    let mut event? : Option SessionEvent := none
    match broadcast.read? Session.readSize with
    | some (data, rest) =>
      broadcast := rest
      event? := some (.device data)
    | none =>
      let pause := min lapse (broadcast.ready?.getD lapse) - now
      let sleep ← Selector.sleep (.ofNat (max 1 pause))
      let arrival ← Selectable.one #[
        .case (client.recvSelector Session.readSize.toUInt64) fun data => pure (.fromClient data),
        .case sleep fun _ => pure Arrival.wake]
      match arrival with
      | .fromClient data => event? := some (.client ((data.getD .empty).toList))
      | .wake => if lapse ≤ (← IO.monoMsNow) - epoch then event? := some .timeout
    if let some event := event? then
      let before := session
      let reaction ← tuner.modifyGet fun v =>
        let reaction := before.handle SimulatedBand.tuner event v
        (reaction, reaction.tuner)
      session := reaction.session
      lapse := (← IO.monoMsNow) - epoch + s.pollMs
      let text := String.join (reaction.output.map Output.line)
      unless text.isEmpty do client.send text.toUTF8
      if let some ending := reaction.ended then
        announce s!"Disconnected ({ending.message})"
        client.shutdown
        return

/-- Accepts clients until the program is interrupted. -/
def acceptClients (s : Settings) (server : TCP.Socket.Server) : Async Unit := do
  let tuner ← IO.mkRef s.tuner
  let interrupt ← Signal.Waiter.mk .sigint false
  let mut going := true
  while going do
    let accepted ← Selectable.one #[
      .case server.acceptSelector fun client => pure (some client),
      .case interrupt.selector fun _ => pure none]
    match accepted with
    | none => going := false
    | some client =>
      client.noDelay
      announce "Connected"
      background (try serveClient s tuner client catch e => announce s!"Disconnected: {e}")

/-- Serves clients of the simulated device. -/
def serve (s : Settings) : IO UInt32 := do
  let server ← TCP.Socket.Server.mk
  try
    server.bind (systemAddress s.listen)
    server.listen 128
  catch e =>
    IO.eprintln (s.cannotBind (.code (errorNumber e)))
    return 1
  announce s!"Server listening on {s.listen.text} ({s.describe})"
  (acceptClients s server).block
  announce "Server stopped"
  return 0

/-- What the named settings file holds. -/
def fileContent (path : String) : IO (Except SystemError ByteArray) := do
  try
    return .ok (← IO.FS.readBinFile path)
  catch e =>
    return .error (.code (errorNumber e))

/-- Does what is to be done. -/
def carryOut : Plan → IO UInt32
  | .usage => do
    IO.eprintln "error: invalid arguments\n\nFor more information, try '--help'."
    return 2
  | .print text => do
    IO.print text
    return 0
  | .fail report => do
    IO.eprintln report
    return 1
  | .serve s => do
    if s.simulate then serve s
    else
      IO.eprintln s.cannotServeDevice
      return 1

end RadioData.Program

open RadioData in
/-- The server program. -/
def main (arguments : List String) : IO UInt32 := do
  match CommandLine.parse arguments with
  | none => Program.carryOut .usage
  | some i =>
    let content ←
      match i.config? with
      | some path => Program.fileContent path
      | none => pure (.ok .empty)
    Program.carryOut (i.plan fun _ => content)
