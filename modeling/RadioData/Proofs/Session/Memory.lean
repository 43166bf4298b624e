import RadioData.Proofs.Block.Framing
import RadioData.Proofs.Line.Retention
import RadioData.Proofs.Session.Run
import RadioData.Tuner.Simulated
/-!
# What a session holds in memory

Between two events a session holds an unfinished line within the limit and less than a block
(`Settled`), whatever its two sides have sent. A single read from the client adds no more than its
own bytes to that, and no line that is carried out is longer. So a client cannot make a session grow
by what it sends, or by how it cuts what it sends into reads (`client_cannot_grow_session`).
-/

namespace RadioData

variable {σ : Type}

namespace Session

/-- Neither side has left more behind than an unfinished line and an unfinished block. -/
structure Settled (session : Session) : Prop where
  lines : session.lines.Settled
  blocks : session.blocks.buffer.length < Block.size

/-- Events that do not end a new session leave it settled. -/
theorem settled_after (events : List SessionEvent) : (after {} events).Settled where
  lines := LineFramer.settled_new.takeReads (SessionEvent.clientReads events)
  blocks := by
    have hreads : (receiver {}).receiveAll (SessionEvent.deviceReads events) =
        ({} : Receiver).receive (SessionEvent.deviceReads events).flatten :=
      Receiver.receive_reads _
    rw [after, hreads]
    exact BlockFramer.length_split _

theorem Settled.of_run {t : Tuner σ} {events : List SessionEvent} {s : σ}
    (h : (run t events {} s).ended = none) : (run t events {} s).session.Settled := by
  obtain ⟨hopen, hlines⟩ := run_ended_eq_none_iff.1 h
  rw [(multiplexed_run hopen hlines).state]
  exact settled_after events

/-- **A client cannot make a session grow.** After events that have not ended it, whatever reads
they brought in whatever order, a session holds of the client's bytes an unfinished line of at most
256, and nothing while it skips a line, and of the device's bytes at most 2. While it deals with a
read of at most 1024 bytes from the client, it never holds more than 256 + 1024: not when the read
has been added to what it held, of which the push leaves the front when it has looked at the
unfinished line, nor when any number of lines have been taken. The lines that it carries out then
have at most 256 + 1023 bytes each. It takes lines and blocks by draining, which takes the oldest
one until there is none. -/
theorem client_cannot_grow_session (t : Tuner σ) (s : σ) (events : List SessionEvent)
    (h : (run t events {} s).ended = none) :
    let session := (run t events {} s).session
    (lineFeed ∉ session.lines.buffer ∧ session.lines.buffer.length ≤ 256 ∧
      (session.lines.skipping = true → session.lines.buffer = []) ∧
      session.blocks.buffer.length ≤ 2) ∧
    (∀ data : List UInt8, data ≠ [] → data.length ≤ 1024 →
      let pushed := session.lines.push data
      let lines := (splitLines pushed.buffer).1
      (session.lines.filled data).length ≤ 256 + 1024 ∧
      pushed.buffer <+: session.lines.filled data ∧
      (∀ count, (pushed.useAll (.replicate count .next)).2.buffer.length ≤ 256 + 1024) ∧
      (∀ s, session.handle t (.client data) s =
        obey t (lines.map lineText) { session with lines := pushed.drain.2 } s) ∧
      ∀ line ∈ lines, line.length ≤ 256 + 1023) ∧
    (∀ f : LineFramer, f.drain =
      match f.next? with
      | none => ([], f)
      | some (text, g) => (text :: g.drain.1, g.drain.2)) ∧
    ∀ f : BlockFramer, f.drain =
      match f.next? with
      | none => ([], f)
      | some (b, g) => (b :: g.drain.1, g.drain.2) := by
  intro session
  have hsettled : session.Settled := .of_run h
  refine ⟨⟨hsettled.lines.noFeed, hsettled.lines.short, hsettled.lines.skipped,
    Nat.le_of_lt_succ hsettled.blocks⟩, fun data hdata hsize => ?_,
    LineFramer.drain_eq_next?, BlockFramer.drain_eq_next?⟩
  intro pushed lines
  have hfilled : (session.lines.filled data).length ≤ 256 + 1024 :=
    Nat.le_trans (hsettled.lines.length_filled_le data) (Nat.add_le_add_left hsize 256)
  have hfront : pushed.buffer <+: session.lines.filled data :=
    session.lines.buffer_push_isPrefix data
  have hpushed : pushed.buffer.length ≤ 256 + 1024 := Nat.le_trans hfront.length_le hfilled
  refine ⟨hfilled, hfront, fun count => Nat.le_trans (pushed.length_takings_le count) hpushed,
    fun s => handle_client t session hdata s, fun line hline => ?_⟩
  have hshorter : line.length < pushed.buffer.length := LineFramer.length_lt_of_mem_finished hline
  omega

/-- A line that fills the buffer is finished by a read that is as long as a read can be. -/
theorem client_cannot_grow_session_full_read :
    let events : List SessionEvent := [.client (.replicate 256 65)]
    let data : List UInt8 := .replicate 1023 65 ++ [10]
    let session := (run SimulatedBand.tuner events {} (.ofConfig .standard)).session
    let lines := (splitLines (session.lines.push data).buffer).1
    session.lines.buffer.length ≤ 256 ∧ (session.lines.filled data).length ≤ 256 + 1024 ∧
      (∀ line ∈ lines, line.length ≤ 256 + 1023) ∧
      lines.map List.length = [256 + 1023] := by
  intro events data
  have hgrow := client_cannot_grow_session SimulatedBand.tuner (.ofConfig .standard) events
    (by decide +kernel)
  obtain ⟨⟨-, hshort, -⟩, hreads, -⟩ := hgrow
  obtain ⟨hfilled, -, -, -, hlines⟩ := hreads data (by decide +kernel) (by decide +kernel)
  exact ⟨hshort, hfilled, hlines, by decide +kernel⟩

end Session

end RadioData
