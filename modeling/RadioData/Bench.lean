import RadioData.Broadcast
import RadioData.Session
import RadioData.Tuner.Simulated
/-!
# A session on the bench

A `Bench` holds a session with a simulated band, a client and a device, and a clock that moves only
when it is told to. The device is a broadcast or is fed by hand. After whatever is done to the bench
the session has dealt with all that there was to deal with, reading at most `Session.readSize` bytes
at a time; a wait lapses when the poll interval has passed since the last read or lapse. What
arrives at the moment at which a wait would lapse comes first.

What is sent goes through pipes that hold `pipeSize` bytes. A sender keeps what does not fit and
fills the pipe up whenever the session gives way, which it does after `turnSize` reads and writes.
Once the session has ended the pipe takes nothing more, and a sender who has bytes left has failed.
-/

namespace RadioData

/-- Cuts a list into pieces of the given size; the last may be shorter. -/
def pieces {α : Type} (size : Nat) (xs : List α) : List (List α) :=
  if _h : 0 < size ∧ xs ≠ [] then xs.take size :: pieces size (xs.drop size) else []
termination_by xs.length
decreasing_by
  have := List.length_pos_iff.2 _h.2
  simp only [List.length_drop]
  omega

/-- How many bytes a pipe holds. -/
def pipeSize : Nat := 1048576

/-- How many reads and writes a session makes before it gives way to those who send. -/
def turnSize : Nat := 128

/-- One end of a connection on the bench. -/
inductive BenchEnd where
  /-- Bytes can be sent from it. -/
  | sending
  /-- It receives, and has said that it will send nothing more. -/
  | receiving
  /-- It is gone, or never was there. -/
  | gone
  deriving DecidableEq, Repr

/-- A session with all that surrounds it. -/
structure Bench where
  session : Session := {}
  tuner : SimulatedBand
  /-- The time in milliseconds. -/
  now : Nat := 0
  /-- How long a wait may take, in milliseconds. -/
  poll : Nat
  /-- When the present wait lapses. -/
  lapse : Nat
  client : BenchEnd := .sending
  /-- The device that is fed by hand. -/
  device : BenchEnd := .sending
  /-- The device that sends by itself. -/
  broadcast : Option Broadcast := none
  ended : Option SessionEnd := none

/-- The bench after something was done to it, with what the client was sent meanwhile. -/
structure BenchStep where
  bench : Bench
  output : List Output := []

namespace Bench

/-- Puts the session through events until it ends; each of them starts a new wait. -/
def react (b : Bench) (events : List SessionEvent) : BenchStep :=
  match b.ended with
  | some _ => ⟨b, []⟩
  | none =>
    let r := b.session.run SimulatedBand.tuner events b.tuner
    let lapse := if events = [] then b.lapse else b.now + b.poll
    ⟨{ b with session := r.session, tuner := r.tuner, ended := r.ended, lapse }, r.output⟩

/-- Counts the waits that lapse up to and including `horizon`. -/
def lapseUntil (b : Bench) (horizon : Nat) : Bench :=
  if b.ended = none ∧ b.lapse ≤ horizon then
    let count := (horizon - b.lapse) / b.poll + 1
    { b with session := b.session.idle count, lapse := b.lapse + count * b.poll }
  else b

/-- Moves the clock to `now`, counting only the waits that lapse before. -/
def moveTo (b : Bench) (now : Nat) : Bench := { b.lapseUntil (now - 1) with now }

/-- Lets a broadcast send up to and including `horizon`. At each of its ticks the session reads what
is in the pipe. -/
def listen (b : Bench) (c : Broadcast) (horizon : Nat) : BenchStep :=
  if b.ended = none ∧ c.unwritten = [] ∧ wholeMs c.due ≤ horizon then
    let handled := max b.now (wholeMs c.due)
    let taken := (c.tick b.tuner.station? handled).1.take Session.readSize
    let events := if taken.1 = [] then [] else [SessionEvent.device taken.1]
    let first := (b.moveTo handled).react events
    let later := listen first.bench taken.2 horizon
    ⟨later.bench, first.output ++ later.output⟩
  else ⟨{ b with broadcast := some c }, []⟩
termination_by 1000 * horizon + 1 - c.due
decreasing_by
  rename_i h
  have late := le_of_wholeMs_le h.2.2
  have rising := c.lt_due_tick b.tuner.station? (max b.now (wholeMs c.due))
  simp only [Broadcast.due_take]
  omega

/-- Lets time pass. -/
def advance (b : Bench) (ms : Nat) : BenchStep :=
  let horizon := b.now + ms
  let heard :=
    match b.broadcast with
    | some c => b.listen c horizon
    | none => ⟨b, []⟩
  ⟨{ heard.bench.lapseUntil horizon with now := horizon }, heard.output⟩

/-- A bench at time zero with a device that is fed by hand. -/
def wired (tuner : SimulatedBand) (poll : Nat) : Bench := { tuner, poll, lapse := poll }

/-- A bench at time zero with a broadcast, whose first tick has been dealt with. A broadcast that
cannot start is a device that has closed. -/
def broadcasting (tuner : SimulatedBand) (poll : Nat) (c : Option Broadcast) : BenchStep :=
  let b : Bench := { tuner, poll, lapse := poll, device := .gone, broadcast := c }
  match c with
  | some _ => b.advance 0
  | none => b.react [.device []]

/-- Whether bytes that are sent from an end get to the session. Sending none at all succeeds as long
as the end is there. -/
def accepts (b : Bench) (e : BenchEnd) (data : List UInt8) : Bool :=
  match e with
  | .gone => false
  | .receiving => data = []
  | .sending => data = [] || b.ended = none

/-- Sends bytes from one end; `event` says what a piece of them is to the session. -/
def send (b : Bench) (e : BenchEnd) (event : List UInt8 → SessionEvent) (data : List UInt8) :
    BenchStep :=
  if b.accepts e data then b.react ((pieces Session.readSize data).map event) else ⟨b, []⟩

/-- Whether the pipe takes `total` bytes that are sent at once, of which the session reads the given
pieces before it ends or waits. So far it has made `made` reads and writes and read `read` bytes,
and the pipe could have taken `room` bytes. -/
def takesAll (event : List UInt8 → SessionEvent) (total : Nat) :
    List (List UInt8) → Bench → Nat → Nat → Nat → Bool
  | [], _, _, _, _ => true
  | piece :: rest, b, made, read, room =>
    let step := b.react [event piece]
    let last := made + step.output.length
    let room := if made % turnSize = 0 then pipeSize + read else room
    let read := read + piece.length
    let room := if made / turnSize < last / turnSize then pipeSize + read else room
    match step.bench.ended with
    | some _ => total ≤ room
    | none => takesAll event total rest step.bench (last + 1) read room

/-- Whether a sender gets rid of all the bytes that it sends at once. What the pipe holds is sent as
soon as it is in the pipe. -/
def delivers (b : Bench) (e : BenchEnd) (event : List UInt8 → SessionEvent)
    (data : List UInt8) : Bool :=
  b.accepts e data &&
    (data.length ≤ pipeSize ||
      takesAll event data.length (pieces Session.readSize data) b 0 0 pipeSize)

/-- The client sends bytes. -/
def clientSends (b : Bench) (data : List UInt8) : BenchStep := b.send b.client .client data

/-- The device sends bytes. -/
def deviceSends (b : Bench) (data : List UInt8) : BenchStep := b.send b.device .device data

/-- The client says that it will send nothing more. -/
def stopClient (b : Bench) : BenchStep :=
  match b.client with
  | .sending => { b with client := .receiving }.react [.client []]
  | .receiving | .gone => ⟨b, []⟩

/-- The client goes away. -/
def closeClient (b : Bench) : BenchStep := { b with client := .gone }.react [.client []]

/-- The device goes away. -/
def closeDevice (b : Bench) : BenchStep :=
  match b.device with
  | .sending => { b with device := .gone }.react [.device []]
  | .receiving | .gone => ⟨b, []⟩

end Bench

end RadioData
