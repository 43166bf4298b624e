import Mathlib.Data.List.Induction
import RadioData.Proofs.Broadcast.Transmission
import RadioData.Proofs.Group.OnAir
import RadioData.Proofs.Tuner.Exchange
/-!
# A broadcast keeps its framing

What is read of a broadcast are the bytes of its groups, whatever retunes come between and wherever
the reads are cut. The record of a `Transmission` says which groups have been generated and which
bytes have been read, so it says what is still to be read: `backlog`. `Conveys` is the invariant:
the pipe holds the beginning of the backlog, as much as there is room for, and what waits is the
rest. A group is generated only when nothing waits, so the backlog is never more than a pipe and a
group (`length_sent_le`). `broadcast_keeps_framing` is the main statement.
-/

namespace RadioData

/-- What is written to a pipe goes behind what it holds, up to its capacity. -/
theorem Broadcast.write_eq {b : Broadcast} (h : b.pipe.length ≤ capacity) (bytes : List UInt8) :
    (b.write bytes).pipe = (b.pipe ++ bytes).take capacity ∧
      (b.write bytes).unwritten = (b.pipe ++ bytes).drop capacity := by
  rw [List.take_append, List.drop_append, List.take_of_length_le h, List.drop_eq_nil_of_le h]
  exact ⟨rfl, rfl⟩

namespace Transmission

/-! ## What is to be read -/

/-- The bytes that were read, if any. -/
def Entry.data? : Entry → Option (List UInt8)
  | .read data => some data
  | .ticked .. | .called _ | .failure _ => none

/-- What has been read, read by read. -/
def reads (record : List Entry) : List (List UInt8) := record.filterMap Entry.data?

/-- The bytes of the groups that have been generated. -/
def sent (record : List Entry) : List UInt8 := (groups record).flatMap blocksBytes

/-- The bytes that have been read. -/
def received (record : List Entry) : List UInt8 := (reads record).flatten

/-- The bytes that have been generated and not been read. -/
def backlog (record : List Entry) : List UInt8 := (sent record).drop (received record).length

/-- A group is generated only when all that is still to be read is in the pipe. -/
def Timely (earlier : List Entry) : Entry → Prop
  | .ticked _ t => t.group ≠ none → (backlog earlier).drop Broadcast.capacity = []
  | .read _ | .called _ | .failure _ => True

variable {record : List Entry} {e : Entry}

theorem received_concat (record : List Entry) (e : Entry) :
    received (record ++ [e]) = received record ++ e.data?.getD [] := by
  rw [received, reads, List.filterMap_append, List.flatten_append]
  cases h : e.data? <;> simp [received, reads, h]

theorem sent_concat (record : List Entry) (e : Entry) :
    sent (record ++ [e]) = sent record ++ e.group?.toList.flatMap blocksBytes := by
  rw [sent, groups_concat, List.flatMap_append]
  rfl

/-! ## The invariant -/

/-- What holds of a broadcast and the record of its transmission. -/
structure Conveys (b : Broadcast) (record : List Entry) : Prop where
  /-- What has been read is the beginning of what has been generated. -/
  conserved : received record ++ backlog record = sent record
  /-- The pipe holds as much of the rest as it can. -/
  pipe : b.pipe = (backlog record).take Broadcast.capacity
  /-- What the pipe does not hold waits. -/
  unwritten : b.unwritten = (backlog record).drop Broadcast.capacity
  /-- The blocks of each group are in turn. -/
  aligned : ∃ gs : List AlignedGroup, groups record = gs.map AlignedGroup.blocks
  timely : Throughout Timely record

variable {b : Broadcast}

/-- The backlog is what the pipe holds and what waits. -/
theorem Conveys.backlog_eq (h : Conveys b record) : backlog record = b.pipe ++ b.unwritten := by
  rw [h.pipe, h.unwritten, List.take_append_drop]

/-- The pipe holds no more than it can. -/
theorem Conveys.length_pipe (h : Conveys b record) : b.pipe.length ≤ Broadcast.capacity := by
  rw [h.pipe]
  exact List.length_take_le ..

/-- The invariant for a record of which it is known what is still to be read. -/
theorem Conveys.of_rest (rest : List UInt8) (hrest : received record ++ rest = sent record)
    (hpipe : b.pipe = rest.take Broadcast.capacity)
    (hunwritten : b.unwritten = rest.drop Broadcast.capacity)
    (haligned : ∃ gs : List AlignedGroup, groups record = gs.map AlignedGroup.blocks)
    (htimely : Throughout Timely record) : Conveys b record := by
  obtain rfl : backlog record = rest := by rw [backlog, ← hrest, List.drop_left]
  exact ⟨hrest, hpipe, hunwritten, haligned, htimely⟩

/-- An entry without a group and without bytes changes nothing. -/
theorem Conveys.silent (h : Conveys b record) (hgroup : e.group? = none) (hdata : e.data? = none)
    {next : Broadcast} (hpipe : next.pipe = b.pipe) (hunwritten : next.unwritten = b.unwritten) :
    Conveys next (record ++ [e]) := by
  have hgroups : groups (record ++ [e]) = groups record := by
    rw [groups_concat, hgroup, Option.toList_none, List.append_nil]
  have hreceived : received (record ++ [e]) = received record := by
    rw [received_concat, hdata, Option.getD_none, List.append_nil]
  have htimely : Timely record e := by
    cases e with
    | ticked station t => exact fun hsome => absurd hgroup hsome
    | read data => cases hdata
    | called call => trivial
    | failure reason => trivial
  refine .of_rest (backlog record) ?_ ?_ ?_ ?_ (h.timely.concat htimely)
  · rw [hreceived, h.conserved, sent, sent, hgroups]
  · rw [hpipe, h.pipe]
  · rw [hunwritten, h.unwritten]
  · rw [hgroups]
    exact h.aligned

/-- A group that is generated goes behind all the others. -/
theorem Conveys.send (h : Conveys b record) (hfree : b.unwritten = []) (g : AlignedGroup)
    {station : Option Station} {t : Tick} (hgroup : t.group = some g.blocks) {next : Broadcast}
    (hpipe : next.pipe = b.pipe) :
    Conveys (next.write (blocksBytes g.blocks)) (record ++ [.ticked station t]) := by
  obtain ⟨hwritten, hleft⟩ := Broadcast.write_eq (hpipe ▸ h.length_pipe) (blocksBytes g.blocks)
  rw [hpipe] at hwritten hleft
  refine .of_rest (b.pipe ++ blocksBytes g.blocks) ?_ hwritten hleft ?_ (h.timely.concat ?_)
  · have hall : backlog record = b.pipe := by rw [h.backlog_eq, hfree, List.append_nil]
    rw [received_concat, sent_concat, ← h.conserved, hall, Entry.group?, hgroup,
      Option.toList_some, List.flatMap_singleton, ← List.append_assoc]
    exact congrArg (· ++ _ ++ _) (List.append_nil _)
  · obtain ⟨gs, hgs⟩ := h.aligned
    exact ⟨gs ++ [g], by rw [groups_concat, hgs, Entry.group?, hgroup, List.map_append]; rfl⟩
  · intro _
    rw [← h.unwritten, hfree]

/-- At a tick a group is generated if a station is tuned, else nothing. -/
theorem Conveys.tick (h : Conveys b record) (hfree : b.unwritten = []) (station : Option Station)
    (now : Nat) :
    Conveys (b.tick station now).1 (record ++ [.ticked station (b.tick station now).2]) := by
  rw [Broadcast.tick]
  split
  · exact h.silent rfl rfl rfl rfl
  · next c _ => exact h.send hfree c.nextGroup rfl rfl

/-- What is read is taken from the beginning of the backlog. -/
theorem Conveys.take (h : Conveys b record) (count : Nat) :
    Conveys (b.take count).2 (record ++ [.read (b.take count).1]) := by
  have hroom : (b.pipe.drop count).length ≤ Broadcast.capacity := by
    rw [List.length_drop]
    exact Nat.le_trans (Nat.sub_le ..) h.length_pipe
  obtain ⟨hwritten, hleft⟩ :=
    Broadcast.write_eq (b := { b with pipe := b.pipe.drop count }) hroom b.unwritten
  refine .of_rest (b.pipe.drop count ++ b.unwritten) ?_ hwritten hleft ?_ (h.timely.concat trivial)
  · rw [received_concat, sent_concat, ← h.conserved, h.backlog_eq]
    show received record ++ b.pipe.take count ++ (b.pipe.drop count ++ b.unwritten) =
      received record ++ (b.pipe ++ b.unwritten) ++ []
    rw [List.append_nil, List.append_assoc, ← List.append_assoc (b.pipe.take count),
      List.take_append_drop]
  · obtain ⟨gs, hgs⟩ := h.aligned
    exact ⟨gs, (groups_concat ..).trans ((List.append_nil _).trans hgs)⟩

/-- The invariant lasts, whatever happens. -/
theorem lasting_conveys : Lasting fun a => Conveys a.broadcast a.history where
  wait _ h := h
  tick h hfree _ := h.tick hfree ..
  read count h := h.take count
  call _ h := h.silent rfl rfl rfl rfl
  failure _ h := h.silent rfl rfl rfl rfl

/-! ## What follows from it -/

/-- Groups have twelve bytes each. -/
theorem Conveys.length_group (h : Conveys b record) :
    ∀ g ∈ groups record, (blocksBytes g).length = 12 := by
  intro g hg
  obtain ⟨gs, hgs⟩ := h.aligned
  rw [hgs] at hg
  obtain ⟨g, -, rfl⟩ := List.mem_map.1 hg
  rfl

theorem length_sent (hsize : ∀ g ∈ groups record, (blocksBytes g).length = 12) :
    (sent record).length = 12 * (groups record).length := by
  rw [sent, List.length_flatMap, List.map_congr_left hsize]
  simp [Nat.mul_comm]

/-- What has been generated is ahead of what has been read by a full pipe and a group at most. -/
theorem length_sent_le (htimely : Throughout Timely record)
    (hsize : ∀ g ∈ groups record, (blocksBytes g).length = 12) :
    (sent record).length ≤ (received record).length + Broadcast.capacity + 12 := by
  induction record using List.reverseRecOn with
  | nil => exact Nat.zero_le _
  | append_singleton record e ih =>
    have hearlier := ih htimely.of_append fun g hg =>
      hsize g (by rw [groups_append]; exact List.mem_append_left _ hg)
    rw [sent_concat, received_concat, List.length_append, List.length_append]
    cases hgroup : e.group? with
    | none =>
      rw [Option.toList_none, List.flatMap_nil, List.length_nil]
      omega
    | some g =>
      have hg : (blocksBytes g).length = 12 := hsize g (by simp [groups_concat, hgroup])
      have hfits : (backlog record).length ≤ Broadcast.capacity := by
        cases e with
        | ticked station t =>
          refine List.drop_eq_nil_iff.1 (htimely record _ [] rfl fun hnone => ?_)
          exact Option.some_ne_none g (hgroup.symm.trans hnone)
        | read data | called call | failure reason => cases hgroup
      rw [backlog, List.length_drop] at hfits
      rw [Option.toList_some, List.flatMap_singleton, hg]
      omega

/-- At any time no more than 65 groups have been generated and not been read whole. -/
theorem Conveys.length_groups_le (h : Conveys b record) {earlier later : List Entry}
    (e : record = earlier ++ later) :
    (groups earlier).length ≤ (received earlier).length / 12 + 65 := by
  subst e
  have hsize : ∀ g ∈ groups earlier, (blocksBytes g).length = 12 := fun g hg =>
    h.length_group g (by rw [groups_append]; exact List.mem_append_left _ hg)
  have hahead := length_sent_le h.timely.of_append hsize
  rw [length_sent hsize, Broadcast.capacity] at hahead
  omega

/-- A new receiver makes of what has been read the groups that have been read whole. -/
theorem Conveys.reception (h : Conveys b record) :
    let whole := (received record).length / 12
    let reception := ({} : Receiver).receiveAll (reads record)
    reception.1.assembler.counts.resyncs = 0 ∧ reception.2.length = whole ∧
      reception.2.map Group.slots = ((groups record).take whole).map (List.map Block.content) := by
  intro whole reception
  obtain ⟨gs, hgs⟩ := h.aligned
  have hsent : sent record = AlignedGroup.bytes gs := by
    rw [sent, hgs, List.flatMap_map, AlignedGroup.bytes]
  have hreceived : (reads record).flatten =
      (AlignedGroup.bytes gs).take (received record).length := by
    rw [← hsent, ← h.conserved, List.take_left, received]
  have hlength : (received record).length ≤ 12 * gs.length := by
    rw [← AlignedGroup.length_bytes, ← hsent, ← h.conserved, List.length_append]
    exact Nat.le_add_right ..
  obtain ⟨r, -, -, hresyncs, hreceive⟩ := Receiver.receive_take gs hlength
  have hrun : reception = (r, (gs.take whole).map AlignedGroup.group) := by
    show ({} : Receiver).receiveAll (reads record) = _
    rw [Receiver.receive_reads, hreceived, hreceive]
  rw [hrun]
  refine ⟨hresyncs, ?_, ?_⟩
  · rw [List.length_map, List.length_take]
    exact Nat.min_eq_left (by omega)
  · rw [hgs, ← List.map_take, List.map_map, List.map_map]
    rfl

/-- A transmission that begins has nothing to convey. -/
theorem conveys_start {b : Broadcast} (hpipe : b.pipe = []) (hunwritten : b.unwritten = []) :
    Conveys b [] where
  conserved := rfl
  pipe := hpipe
  unwritten := hunwritten
  aligned := ⟨[], rfl⟩
  timely := throughout_nil

/-- Every run of a new broadcast conveys what it generates. -/
theorem conveys_run {c : SimulatedBand.Config} {interval : Nat} {damageEvery : Option UInt32}
    {b : Broadcast} (hb : Broadcast.start? interval damageEvery = some b) (deeds : List Deed) :
    Conveys ((start c b).run deeds).broadcast ((start c b).run deeds).history := by
  obtain ⟨-, rfl⟩ : ∃ _ : 0 < interval, _ = b := by simpa [Broadcast.start?] using hb
  exact lasting_conveys.run (conveys_start rfl rfl) deeds

/-- **A broadcast keeps its framing.** Whatever is done to a transmission, the bytes that have been
read, those in the pipe and those that wait are the bytes of the groups that have been generated, in
order. The pipe holds as much as it can; a group is generated only when nothing waits, so at any
time, and at a retune, no more than 65 groups are on their way. A new receiver makes of what has
been read the groups that have been read whole, without a block out of turn. -/
theorem broadcast_keeps_framing (c : SimulatedBand.Config) {interval : Nat}
    {damageEvery : Option UInt32} {b : Broadcast}
    (hb : Broadcast.start? interval damageEvery = some b) (deeds : List Deed) :
    let a := (start c b).run deeds
    let whole := (received a.history).length / 12
    let reception := ({} : Receiver).receiveAll (reads a.history)
    received a.history ++ a.broadcast.pipe ++ a.broadcast.unwritten = sent a.history ∧
      (∀ g ∈ groups a.history, (blocksBytes g).length = 12) ∧
      a.broadcast.pipe.length ≤ 768 ∧
      a.broadcast.pipe = (backlog a.history).take 768 ∧
      a.broadcast.unwritten = (backlog a.history).drop 768 ∧
      (∀ earlier station t later, a.history = earlier ++ .ticked station t :: later →
        t.group ≠ none → (backlog earlier).drop 768 = []) ∧
      (∀ earlier later, a.history = earlier ++ later →
        (groups earlier).length ≤ (received earlier).length / 12 + 65) ∧
      reception.1.assembler.counts.resyncs = 0 ∧ reception.2.length = whole ∧
      reception.2.map Group.slots =
        ((groups a.history).take whole).map (List.map Block.content) := by
  intro a whole reception
  have hstart : Conveys (start c b).broadcast (start c b).history := by
    obtain ⟨-, rfl⟩ : ∃ _ : 0 < interval, _ = b := by simpa [Broadcast.start?] using hb
    exact conveys_start rfl rfl
  have h : Conveys a.broadcast a.history := lasting_conveys.run hstart deeds
  refine ⟨?_, h.length_group, h.length_pipe, h.pipe, h.unwritten,
    fun earlier station t later e => h.timely earlier _ later e,
    fun earlier later e => h.length_groups_le e, h.reception⟩
  rw [List.append_assoc, ← h.backlog_eq, h.conserved]

/-- A station is tuned and sends a group, then another one sends; of seventeen bytes that are read
the first group is made, damaged as it was sent. -/
theorem broadcast_keeps_framing_retuned :
    ∃ b : Broadcast, ∃ deeds : List Deed,
      let a := (start .standard b).run deeds
      (groups a.history).length = 2 ∧ a.broadcast.pipe.length = 7 ∧
        (({} : Receiver).receiveAll (reads a.history)).2.map Group.slots =
          [[.word 0xF211, .word (5 * 32 + 8), .damaged, .word 0x4652]] := by
  let b : Broadcast := { interval := 87579, interval_pos := by decide, damageEvery := some 3 }
  let deeds : List Deed :=
    [.call (.seek .up), .tick, .call (.seek .up), .wait 88, .read 5, .tick, .read 12]
  obtain ⟨-, -, -, -, -, -, -, -, -, hslots⟩ :=
    broadcast_keeps_framing .standard
      (show Broadcast.start? 87579 (some 3) = some b from rfl) deeds
  refine ⟨b, deeds, ?_, ?_, hslots.trans ?_⟩
  · decide +kernel
  · decide +kernel
  · decide +kernel

end Transmission

end RadioData
