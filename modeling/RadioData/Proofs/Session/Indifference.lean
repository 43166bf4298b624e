import RadioData.Proofs.Group.Indifference
import RadioData.Proofs.Session.Run
import RadioData.Tuner.Simulated
/-!
# What a client never gets to see

A session hands on what the radio sends in one way only, by the groups of its assembler. So two
sessions whose devices send blocks that are alike, in reads of the same lengths, write the same to
their clients and treat their tuners the same, whatever the clients ask for in between
(`run_alike`). Of all that makes no difference to the groups, the client sees nothing
(`unusable_data_never_shows`).
-/

namespace RadioData

variable {σ : Type}

/-- The same but for what the radio sends: as many bytes from the device, the same bytes from the
client. -/
inductive SessionEvent.SameShape : SessionEvent → SessionEvent → Prop where
  | device {data data' : List UInt8} (length : data.length = data'.length) :
    SameShape (.device data) (.device data')
  | client (data : List UInt8) : SameShape (.client data) (.client data)
  | timeout : SameShape .timeout .timeout

open SessionEvent (SameShape deviceReads)

namespace Session

/-- The session with other bytes in its block framer. -/
def holding (session : Session) (f : BlockFramer) : Session := { session with blocks := f }

theorem receiver_holding (session : Session) (f : BlockFramer) :
    (session.holding f).receiver = ⟨f, session.receiver.assembler⟩ := rfl

end Session

/-- The reaction that leaves other bytes in the block framer. -/
def Reaction.holding (r : Reaction σ) (f : BlockFramer) : Reaction σ :=
  { r with session := r.session.holding f }

namespace Session

variable {t : Tuner σ} {session : Session} {f : BlockFramer} {s : σ}

/-! ## One event -/

/-- Lines are carried out without regard to the device's side. -/
theorem obey_holding (lines : List String) (session : Session) (s : σ) :
    obey t lines (session.holding f) s = (obey t lines session s).holding f ∧
      (obey t lines session s).session.receiver = session.receiver := by
  induction lines generalizing session s with
  | nil => exact ⟨rfl, rfl⟩
  | cons line lines ih =>
    cases h : endingOf (answerLine t line s).1 with
    | some e =>
      rw [obey_of_ending h, obey_of_ending h]
      exact ⟨rfl, rfl⟩
    | none =>
      obtain ⟨hholding, hreceiver⟩ := ih (session.counting 1) (answerLine t line s).2
      have hcounting : (session.holding f).counting 1 = (session.counting 1).holding f := rfl
      rw [obey_cons h, obey_cons h, hcounting, hholding]
      exact ⟨rfl, hreceiver⟩

/-- So is whatever the client sends. -/
theorem handle_client_holding (data : List UInt8) (session : Session) (s : σ) :
    (session.holding f).handle t (.client data) s =
        (session.handle t (.client data) s).holding f ∧
      (session.handle t (.client data) s).session.receiver = session.receiver := by
  by_cases hdata : data = []
  · rw [hdata]
    exact ⟨rfl, rfl⟩
  · rw [handle_client t _ hdata, handle_client t _ hdata]
    exact obey_holding _ { session with lines := (session.lines.push data).drain.2 } s

/-- Reads of the same length that bring alike blocks are handled the same, but for the bytes that
are left over. -/
theorem handle_device_alike {data data' coming coming' : List UInt8}
    (hlength : data.length = data'.length)
    (h : session.receiver.Alike (session.holding f).receiver (data ++ coming) (data' ++ coming')) :
    ∃ g, (session.holding f).handle t (.device data') s =
        (session.handle t (.device data) s).holding g ∧
      (session.handle t (.device data) s).session.receiver.Alike
        ((session.handle t (.device data) s).session.holding g).receiver coming coming' := by
  by_cases hdata : data = []
  · have hdata' : data' = [] := by
      rw [← List.length_eq_zero_iff, ← hlength, hdata]
      rfl
    subst hdata hdata'
    exact ⟨f, rfl, h⟩
  · have hdata' : data' ≠ [] := by
      rwa [← List.length_pos_iff, ← hlength, List.length_pos_iff]
    obtain ⟨hgroups, hnext⟩ := h.receive hlength
    rw [handle_device t _ hdata, handle_device t _ hdata', hgroups]
    refine ⟨((session.holding f).receiver.receive data').1.framer, ?_, rfl, hnext.length,
      hnext.blocks⟩
    rw [← hnext.assembler]
    rfl

/-- **Events of the same shape are handled the same, but for the bytes that are left over.** -/
theorem handle_alike {event event' : SessionEvent} {xs ys : List SessionEvent}
    (hshape : SameShape event event')
    (h : session.receiver.Alike (session.holding f).receiver (deviceReads (event :: xs)).flatten
      (deviceReads (event' :: ys)).flatten) :
    ∃ g, (session.holding f).handle t event' s = (session.handle t event s).holding g ∧
      (session.handle t event s).session.receiver.Alike
        ((session.handle t event s).session.holding g).receiver (deviceReads xs).flatten
        (deviceReads ys).flatten := by
  cases hshape with
  | device hlength => exact handle_device_alike hlength h
  | timeout => exact ⟨f, rfl, h⟩
  | client data =>
    obtain ⟨hhandle, hreceiver⟩ := handle_client_holding (t := t) (f := f) data session s
    refine ⟨f, hhandle, ?_⟩
    rw [receiver_holding, hreceiver]
    exact h

/-! ## Runs -/

/-- **Sessions with alike blocks to come differ in the bytes that are left over, and in nothing
else.** -/
theorem run_alike {xs ys : List SessionEvent} (hshape : List.Forall₂ SameShape xs ys)
    (h : session.receiver.Alike (session.holding f).receiver (deviceReads xs).flatten
      (deviceReads ys).flatten) :
    ∃ last, run t ys (session.holding f) s = (run t xs session s).holding last := by
  -- What carries the induction is `h`: it speaks of the bytes that are still to come.
  induction hshape generalizing session f s with
  | nil => exact ⟨f, rfl⟩
  | @cons event event' xs ys hevent _ ih =>
    obtain ⟨g, hhandle, hnext⟩ := handle_alike (t := t) (s := s) hevent h
    have hended : ((session.holding f).handle t event' s).ended =
        (session.handle t event s).ended := by
      rw [hhandle]
      rfl
    cases hend : (session.handle t event s).ended with
    | some e =>
      refine ⟨g, ?_⟩
      rw [run_cons_of_some hend, run_cons_of_some (hended.trans hend), hhandle]
    | none =>
      obtain ⟨last, hlast⟩ := ih (s := (session.handle t event s).tuner) hnext
      refine ⟨last, ?_⟩
      rw [run_cons_of_none hend, run_cons_of_none (hended.trans hend), hhandle]
      dsimp only [Reaction.holding] at hlast ⊢
      rw [hlast]

end Session

/-- **Unusable data never shows.** If two streams are alike block by block, an assembler in any
state answers every block of one as it answers that of the other, and has then collected the same
slots and counted the same. Two new sessions that get them in reads of the same lengths send their
clients the same, end for the same reason and leave the same tuner. Blocks are alike if both have
invalid codes; if they differ in the payload only, and have not been received cleanly; in the
reserved bits of the status only; at the same position in anything but the upper error bit, which
is set in both; or in the alternative for the third position. -/
theorem unusable_data_never_shows (t : Tuner σ) (s : σ) :
    (∀ xs ys : List Block, List.Forall₂ Block.Alike xs ys → ∀ (a : GroupAssembler) (n : Nat),
      a.handleAll ((xs.take n).map .block) = a.handleAll ((ys.take n).map .block)) ∧
    (∀ xs ys : List SessionEvent, List.Forall₂ SameShape xs ys →
      List.Forall₂ Block.Alike (BlockFramer.split (deviceReads xs).flatten).1
        (BlockFramer.split (deviceReads ys).flatten).1 →
      let r := Session.run t xs {} s
      let r' := Session.run t ys {} s
      r'.output = r.output ∧ r'.ended = r.ended ∧ r'.tuner = r.tuner ∧
        r'.session.assembler = r.session.assembler) ∧
    ∀ b c : Block,
      (5 ≤ b.status &&& 7 → 5 ≤ c.status &&& 7 → b.Alike c) ∧
      (b.status = c.status → b.quality ≠ .clean → b.Alike c) ∧
      (b.status &&& 0xC7 = c.status &&& 0xC7 → b.low = c.low → b.high = c.high → b.Alike c) ∧
      (b.status &&& 7 = c.status &&& 7 → b.status &&& 0x80 ≠ 0 → c.status &&& 0x80 ≠ 0 →
        b.Alike c) ∧
      (b.status &&& 7 = 2 → c.status &&& 7 = 4 → b.status &&& 0xC0 = c.status &&& 0xC0 →
        b.low = c.low → b.high = c.high → b.Alike c) := by
  refine ⟨?_, ?_, ?_⟩
  · intro xs ys h a n
    exact GroupAssembler.handleAll_alike (List.forall₂_take n h) a
  · intro xs ys hshape hblocks r r'
    have halike : (Session.receiver {}).Alike (Session.holding {} {}).receiver
        (deviceReads xs).flatten (deviceReads ys).flatten := ⟨rfl, rfl, hblocks⟩
    obtain ⟨last, hlast⟩ := Session.run_alike (t := t) (s := s) hshape halike
    have hrun : r' = r.holding last := hlast
    rw [hrun]
    exact ⟨rfl, rfl, rfl, rfl⟩
  · intro b c
    exact ⟨Block.alike_of_invalid, Block.alike_of_not_clean, Block.alike_of_reserved,
      Block.alike_of_topBit, Block.alike_of_alternative⟩

/-- Two radios differ in the reserved bits of the first block, in the payloads of the second and the
fourth, in the lower error bit of the fourth, and in the alternative for the third. A client that
asks for the name in between receives the same from both. -/
theorem unusable_data_never_shows_of_four_blocks :
    let xs : List Block :=
      [⟨0x34, 0x12, 0x00⟩, ⟨0x99, 0x99, 0x41⟩, ⟨0xCD, 0xAB, 0x02⟩, ⟨0x01, 0x02, 0x83⟩]
    let ys : List Block :=
      [⟨0x34, 0x12, 0x38⟩, ⟨0x00, 0x00, 0x41⟩, ⟨0xCD, 0xAB, 0x04⟩, ⟨0x09, 0x09, 0xC3⟩]
    let events (bs : List Block) : List SessionEvent :=
      [.device ((bs.flatMap Block.bytes).take 5), .client [73, 68, 10],
        .device ((bs.flatMap Block.bytes).drop 5)]
    let band : SimulatedBand := .ofConfig ⟨"FM", .lowest, []⟩
    List.Forall₂ Block.Alike xs ys ∧
      GroupAssembler.handleAll {} (xs.map .block) = GroupAssembler.handleAll {} (ys.map .block) ∧
      (Session.run SimulatedBand.tuner (events ys) {} band).output =
        (Session.run SimulatedBand.tuner (events xs) {} band).output ∧
      (Session.run SimulatedBand.tuner (events xs) {} band).output =
        [.reply (.identity "FM"), .group ⟨.word 0x1234, .damaged, .word 0xABCD, .damaged⟩] := by
  intro xs ys events band
  obtain ⟨hanswers, hclient, halike⟩ := unusable_data_never_shows SimulatedBand.tuner band
  have hblocks : List.Forall₂ Block.Alike xs ys :=
    .cons ((halike _ _).2.2.1 rfl rfl rfl)
      (.cons ((halike _ _).2.1 rfl (by decide))
        (.cons ((halike _ _).2.2.2.2 rfl rfl rfl rfl rfl)
          (.cons ((halike _ _).2.2.2.1 rfl (by decide) (by decide)) .nil)))
  have hshape : List.Forall₂ SameShape (events xs) (events ys) :=
    .cons (.device rfl) (.cons (.client _) (.cons (.device rfl) .nil))
  obtain ⟨houtput, -, -, -⟩ := hclient (events xs) (events ys) hshape hblocks
  exact ⟨hblocks, hanswers xs ys hblocks {} 4, houtput, by decide +kernel⟩

end RadioData
