import RadioData.Dialogue
import RadioData.Group
import RadioData.Line
/-!
# Sessions

A session stands between one client and one device. Groups that the device delivers go to the client
as lines; lines from the client are carried out on the tuner and answered. Everything that happens
to a session is one of three events: bytes from the device, bytes from the client, or a wait that
has lapsed with nothing to do. No bytes from either side mean that this side is closed.

`Session.handle` is the whole of it. Each event is dealt with before the next, and what is written
consists of whole lines, so that lines of the two kinds never mix. When a session has ended nothing
more is interpreted and nothing more is written.
-/

namespace RadioData

/-- One line for the client. -/
inductive Output where
  | group (g : Group)
  | reply (r : Reply)
  deriving DecidableEq, Repr

/-- The line as the client receives it. -/
def Output.line : Output → String
  | .group g => g.line
  | .reply r => r.line

/-- Something that happens to a session. -/
inductive SessionEvent where
  /-- Bytes from the device, or its end. -/
  | device (data : List UInt8)
  /-- Bytes from the client, or its end. -/
  | client (data : List UInt8)
  /-- A wait has lapsed. -/
  | timeout
  deriving DecidableEq, Repr

/-- How a session ends. -/
inductive SessionEnd where
  | clientClosed
  | quit
  | deviceClosed
  | tunerFailed (e : TunerError)
  deriving DecidableEq, Repr

/-- The wording of an end. -/
def SessionEnd.message : SessionEnd → String
  | .clientClosed => "client closed"
  | .quit => "quit"
  | .deviceClosed => "device closed"
  | .tunerFailed e => s!"tuner error: {e.message}"

/-- A session between two events. -/
structure Session where
  /-- The bytes from the device that make up no block yet. -/
  blocks : BlockFramer := {}
  assembler : GroupAssembler := {}
  /-- The bytes from the client that make up no line yet. -/
  lines : LineFramer := {}
  /-- The lines received from the client. This and the next count have no bound: below 2⁶⁴ they are
  those of counters of 64 bits. -/
  commands : Nat := 0
  /-- The waits that lapsed, counted likewise. -/
  lapses : Nat := 0
  deriving DecidableEq, Repr

/-- What an event leads to. -/
structure Reaction (σ : Type) where
  session : Session
  /-- The tuner afterwards. -/
  tuner : σ
  /-- What the client is sent, in order. -/
  output : List Output := []
  /-- Whether this was the last event, and why. -/
  ended : Option SessionEnd := none

namespace Session

/-- The most bytes that a session takes from one side at a time. -/
def readSize : Nat := 1024

/-- Carries out lines one after the other until they are done or one of them ends the session. -/
def obey {σ : Type} (t : Tuner σ) : List String → Session → σ → Reaction σ
  | [], session, s => { session, tuner := s }
  | line :: rest, session, s =>
    let session := { session with commands := session.commands + 1 }
    match answerLine t line s with
    | (.error e, s) => { session, tuner := s, ended := some (.tunerFailed e) }
    | (.ok .farewell, s) => { session, tuner := s, ended := some .quit }
    | (.ok .silence, s) => obey t rest session s
    | (.ok (.reply r), s) =>
      let later := obey t rest session s
      { later with output := .reply r :: later.output }

/-- Deals with bytes from the device. -/
def receiveBlocks {σ : Type} (session : Session) (data : List UInt8) (s : σ) : Reaction σ :=
  if data = [] then { session, tuner := s, ended := some .deviceClosed }
  else
    let (received, blocks) := (session.blocks.push data).drain
    let (assembler, groups) := session.assembler.addAll received
    { session := { session with blocks, assembler }, tuner := s, output := groups.map .group }

/-- Deals with bytes from the client. -/
def receiveLines {σ : Type} (t : Tuner σ) (session : Session) (data : List UInt8) (s : σ) :
    Reaction σ :=
  if data = [] then { session, tuner := s, ended := some .clientClosed }
  else
    let (received, lines) := (session.lines.push data).drain
    obey t received { session with lines } s

/-- Counts waits that lapsed one after the other. -/
def idle (session : Session) (count : Nat) : Session :=
  { session with lapses := session.lapses + count }

/-- Deals with one event. -/
def handle {σ : Type} (t : Tuner σ) (session : Session) : SessionEvent → σ → Reaction σ
  | .device data, s => session.receiveBlocks data s
  | .client data, s => session.receiveLines t data s
  | .timeout, s => { session := session.idle 1, tuner := s }

/-- Deals with events in order, up to the one that ends the session. -/
def run {σ : Type} (t : Tuner σ) : List SessionEvent → Session → σ → Reaction σ
  | [], session, s => { session, tuner := s }
  | event :: rest, session, s =>
    let first := session.handle t event s
    match first.ended with
    | some _ => first
    | none =>
      let later := run t rest first.session first.tuner
      { later with output := first.output ++ later.output }

end Session

end RadioData
