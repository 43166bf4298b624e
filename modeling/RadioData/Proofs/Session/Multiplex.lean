import RadioData.Proofs.Session.Run
import RadioData.Tuner.Simulated
/-!
# Two streams to one client

The client of a session sees groups and replies in one stream, in an order that depends on when the
reads happen. `session_multiplexes` says that nothing else does: what is written consists of whole
lines, the group lines among them are those of the device's bytes alone, the reply lines those of
the client's reads alone, and the counters agree. Runs in which the same reads happen in another
order differ in nothing but the order of the two kinds of lines.
-/

namespace RadioData

open SessionEvent (deviceReads clientReads)

variable {σ : Type}

/-- A line as the bytes that are written. -/
def Output.bytes (o : Output) : List UInt8 := o.line.toUTF8.toList

/-- The bytes that are written to the client. -/
def Reaction.written (r : Reaction σ) : List UInt8 := r.output.flatMap Output.bytes

/-- What is sent is a group or a reply, and stands among those of its kind. -/
theorem Output.mem_kinds {output : List Output} {o : Output} (h : o ∈ output) :
    (∃ g ∈ output.filterMap Output.group?, o = .group g) ∨
      ∃ p ∈ output.filterMap Output.reply?, o = .reply p := by
  cases o with
  | group g => exact .inl ⟨g, List.mem_filterMap.2 ⟨_, h, rfl⟩, rfl⟩
  | reply p => exact .inr ⟨p, List.mem_filterMap.2 ⟨_, h, rfl⟩, rfl⟩

namespace Session

/-- The groups that a new session receives are those of the device's bytes in a single read. -/
theorem receiveAll_deviceReads (events : List SessionEvent) :
    (receiver {}).receiveAll (deviceReads events) =
      (receiver {}).receive (deviceReads events).flatten :=
  Receiver.receive_reads (deviceReads events)

/-- The same reads from either side bring nothing to an end if they do so in another order. -/
theorem open_of_same_reads {events others : List SessionEvent}
    (hdevice : deviceReads others = deviceReads events)
    (hclient : clientReads others = clientReads events) (h : SessionEvent.Open events) :
    SessionEvent.Open others := by
  intro event hevent
  cases event with
  | device data =>
    have hmem : data ∈ deviceReads events :=
      hdevice ▸ List.mem_filterMap.2 ⟨_, hevent, rfl⟩
    obtain ⟨event, hin, hread⟩ := List.mem_filterMap.1 hmem
    cases event with
    | device read => cases hread; exact h _ hin
    | client read => cases hread
    | timeout => cases hread
  | client data =>
    have hmem : data ∈ clientReads events :=
      hclient ▸ List.mem_filterMap.2 ⟨_, hevent, rfl⟩
    obtain ⟨event, hin, hread⟩ := List.mem_filterMap.1 hmem
    cases event with
    | client read => cases hread; exact h _ hin
    | device read => cases hread
    | timeout => cases hread
  | timeout => rfl

/-- **A session multiplexes two streams.** As long as nothing ends the session, the bytes written
are whole group lines and reply lines; the groups are those that a new framer and assembler make of
all the device's bytes, the replies those to the lines that a new framer makes of the client's
reads, carried out in order on the tuner; and the counters count these lines, these blocks and the
waits that lapsed. Events in any other order in which the reads of either side are the same give the
same groups, the same replies and the same tuner. -/
theorem session_multiplexes (t : Tuner σ) (s : σ) (events : List SessionEvent)
    (h : (run t events {} s).ended = none) :
    let r := run t events {} s
    let received := ({} : GroupAssembler).addAll
      (({} : BlockFramer).push (deviceReads events).flatten).drain.1
    let lines := LineFramer.framesOf (clientReads events)
    let answers := answerLines t lines s
    (∃ writes : List (List UInt8), r.written = writes.flatten ∧ ∀ w ∈ writes,
      (∃ g ∈ received.2, w = (Output.group g).bytes) ∨
        ∃ p ∈ answers.1.filterMap replyOf, w = (Output.reply p).bytes) ∧
    r.output.filterMap Output.group? = received.2 ∧
    r.output.filterMap Output.reply? = answers.1.filterMap replyOf ∧
    r.tuner = answers.2 ∧
    r.session.commands = lines.length ∧
    r.session.assembler.counts = received.1.counts ∧
    r.session.lapses = events.count .timeout ∧
    ∀ others, deviceReads others = deviceReads events → clientReads others = clientReads events →
      (run t others {} s).ended = none ∧
      (run t others {} s).output.filterMap Output.group? = r.output.filterMap Output.group? ∧
      (run t others {} s).output.filterMap Output.reply? = r.output.filterMap Output.reply? ∧
      (run t others {} s).tuner = r.tuner := by
  intro r received lines answers
  obtain ⟨hopen, hlines⟩ := run_ended_eq_none_iff.1 h
  have hrun := multiplexed_run hopen hlines
  have hgroups : r.output.filterMap Output.group? = received.2 := by
    rw [hrun.groups, receiveAll_deviceReads]
    rfl
  have hreplies : r.output.filterMap Output.reply? = answers.1.filterMap replyOf := by
    rw [hrun.replies, linesOf_new]
    rfl
  refine ⟨⟨r.output.map Output.bytes, List.flatMap_def, fun w hw => ?_⟩, hgroups, hreplies, ?_, ?_,
    ?_, ?_, fun others hdevice hclient => ?_⟩
  · obtain ⟨o, ho, rfl⟩ := List.mem_map.1 hw
    rcases Output.mem_kinds ho with ⟨g, hg, rfl⟩ | ⟨p, hp, rfl⟩
    · exact .inl ⟨g, hgroups ▸ hg, rfl⟩
    · exact .inr ⟨p, hreplies ▸ hp, rfl⟩
  · rw [hrun.tuner, linesOf_new]
  · rw [hrun.state, after, linesOf_new]
    exact Nat.zero_add _
  · rw [hrun.state, after, receiveAll_deviceReads]
    rfl
  · rw [hrun.state, after]
    exact Nat.zero_add _
  · have hsame : linesOf {} others = linesOf {} events := by rw [linesOf, hclient, linesOf]
    have hother : Multiplexed t {} s others (run t others {} s) :=
      multiplexed_run (open_of_same_reads hdevice hclient hopen) (hsame ▸ hlines)
    refine ⟨hother.goesOn, ?_, ?_, ?_⟩
    · rw [hother.groups, hdevice, hrun.groups]
    · rw [hother.replies, hsame, hrun.replies]
    · rw [hother.tuner, hsame, hrun.tuner]

/-- A command and a group, each cut in two by the other, and a wait that lapsed. -/
theorem session_multiplexes_cut_reads :
    let events : List SessionEvent :=
      [.client [73], .device [1, 242, 0, 8, 4, 1, 205], .timeout, .client [68, 10, 85],
        .device [171, 2, 65, 66, 3]]
    (run SimulatedBand.tuner events {} (.ofConfig .standard)).ended = none ∧
      (run SimulatedBand.tuner events {} (.ofConfig .standard)).output.filterMap Output.group? =
        [⟨.word 0xF201, .word 0x0408, .word 0xABCD, .word 0x4241⟩] ∧
      (run SimulatedBand.tuner events {} (.ofConfig .standard)).session.commands =
        (LineFramer.framesOf [[73], [68, 10, 85]]).length := by
  intro events
  have h : (run SimulatedBand.tuner events {} (.ofConfig .standard)).ended = none := by
    decide +kernel
  have hrun := session_multiplexes SimulatedBand.tuner (.ofConfig .standard) events h
  exact ⟨h, hrun.2.1.trans (by decide +kernel), hrun.2.2.2.2.1⟩

end Session

end RadioData
