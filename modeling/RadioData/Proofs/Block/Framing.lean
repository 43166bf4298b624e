import RadioData.Proofs.Group.Reception
/-!
# Framing blocks

A `BlockFramer` is used in three ways: bytes are pushed, the oldest whole block is taken, or all of
them are. Each use keeps the bytes together (`bytes_use`): those of the blocks that it takes and
those that stay in the buffer are those that were there and those that it brings. Taking all blocks
is taking the oldest one until there is none (`drain_eq_next?`). So a run of uses loses no byte and
makes none up, and what is behind the framer sees the same blocks however the stream was cut
(`framing_loses_nothing`).
-/

namespace RadioData

namespace BlockFramer

/-- The oldest block is taken from the front of the buffer. -/
theorem buffer_of_next? {f g : BlockFramer} {b : Block} (h : f.next? = some (b, g)) :
    f.buffer = b.bytes ++ g.buffer := by
  obtain ⟨buffer⟩ := f
  match buffer, h with
  | low :: high :: status :: rest, h => cases h; rfl
  | [], h | [_], h | [_, _], h => cases h

/-- Draining takes blocks from the front of the buffer. -/
theorem buffer_of_drain (f : BlockFramer) :
    f.drain.1.flatMap Block.bytes ++ f.drain.2.buffer = f.buffer :=
  bytes_split f.buffer

/-- Draining is taking the oldest block until there is none. -/
theorem drain_eq_next? (f : BlockFramer) :
    f.drain =
      match f.next? with
      | none => ([], f)
      | some (b, g) => (b :: g.drain.1, g.drain.2) := by
  obtain ⟨buffer⟩ := f
  match buffer with
  | low :: high :: status :: rest => rfl
  | [] | [_] | [_, _] => rfl

/-! ## Runs -/

/-- One use of a framer. -/
inductive Use where
  /-- Bytes arrive. -/
  | push (data : List UInt8)
  /-- The oldest whole block is taken, if there is one. -/
  | next
  /-- All whole blocks are taken. -/
  | drain
  deriving DecidableEq, Repr

/-- The bytes that a use brings. -/
def Use.pushed : Use → List UInt8
  | .push data => data
  | .next | .drain => []

/-- The blocks that a use takes, and the framer afterwards. -/
def use (f : BlockFramer) : Use → List Block × BlockFramer
  | .push data => ([], f.push data)
  | .next =>
    match f.next? with
    | some (b, g) => ([b], g)
    | none => ([], f)
  | .drain => f.drain

/-- The blocks that uses take one after the other, and the framer afterwards. -/
def useAll : BlockFramer → List Use → List Block × BlockFramer
  | f, [] => ([], f)
  | f, u :: uses =>
    let (blocks, g) := f.use u
    let (later, last) := g.useAll uses
    (blocks ++ later, last)

theorem useAll_cons (f : BlockFramer) (u : Use) (uses : List Use) :
    f.useAll (u :: uses) =
      ((f.use u).1 ++ ((f.use u).2.useAll uses).1, ((f.use u).2.useAll uses).2) := rfl

theorem useAll_append (f : BlockFramer) (xs ys : List Use) :
    f.useAll (xs ++ ys) =
      ((f.useAll xs).1 ++ ((f.useAll xs).2.useAll ys).1, ((f.useAll xs).2.useAll ys).2) := by
  induction xs generalizing f with
  | nil => rfl
  | cons u xs ih => rw [List.cons_append, useAll_cons, useAll_cons, ih, List.append_assoc]

/-- **A use keeps the bytes together.** -/
theorem bytes_use (f : BlockFramer) (u : Use) :
    (f.use u).1.flatMap Block.bytes ++ (f.use u).2.buffer = f.buffer ++ u.pushed := by
  cases u with
  | push data => rfl
  | next =>
    rw [Use.pushed, List.append_nil, use]
    cases h : f.next? with
    | none => rfl
    | some taken => rw [buffer_of_next? h, List.flatMap_singleton]
  | drain =>
    rw [Use.pushed, List.append_nil]
    exact f.buffer_of_drain

/-- **A run keeps the bytes together.** -/
theorem bytes_useAll (f : BlockFramer) (uses : List Use) :
    (f.useAll uses).1.flatMap Block.bytes ++ (f.useAll uses).2.buffer =
      f.buffer ++ uses.flatMap Use.pushed := by
  induction uses generalizing f with
  | nil => exact (List.append_nil _).symm
  | cons u uses ih =>
    rw [useAll_cons, List.flatMap_append, List.append_assoc, ih, ← List.append_assoc, bytes_use,
      List.append_assoc, List.flatMap_cons]

/-- **Framing loses nothing and makes nothing up.** Whatever pushes and takings come, in any order,
the bytes of the blocks that a new framer has given so far, followed by those in its buffer, are the
bytes pushed so far; after a draining fewer bytes than a block are in the buffer. So two ways of
cutting a stream into reads, each read followed by a draining, lead to the same groups in the same
order, the same bytes in the buffer, the same part of a group and the same counts. A draining takes
the oldest block until there is none. -/
theorem framing_loses_nothing (uses : List Use) :
    (useAll {} uses).1.flatMap Block.bytes ++ (useAll {} uses).2.buffer =
        uses.flatMap Use.pushed ∧
      (useAll {} (uses ++ [.drain])).2.buffer.length < 3 ∧
      (∀ (a : GroupAssembler) (reads others : List (List UInt8)),
        others.flatten = reads.flatten →
        Receiver.receiveAll ⟨{}, a⟩ others = Receiver.receiveAll ⟨{}, a⟩ reads) ∧
      ∀ f : BlockFramer, f.drain =
        match f.next? with
        | none => ([], f)
        | some (b, g) => (b :: g.drain.1, g.drain.2) := by
  refine ⟨bytes_useAll {} uses, ?_, fun a reads others h => ?_, drain_eq_next?⟩
  · rw [useAll_append]
    exact length_split _
  · rw [Receiver.receiveAll_of_drained rfl, Receiver.receiveAll_of_drained rfl, h]

/-- Four blocks and a byte, cut inside the first block, the third and the fourth, give the group
that they give in one piece. -/
theorem framing_loses_nothing_inside_blocks :
    Receiver.receiveAll ⟨{}, {}⟩
          [[0x34], [0x12, 0x00, 0x00, 0x00, 0x41, 0xCD], [0xAB, 0x04, 0x00], [0x00, 0x83, 0x56]] =
        Receiver.receiveAll ⟨{}, {}⟩
          [[0x34, 0x12, 0x00, 0x00, 0x00, 0x41, 0xCD, 0xAB, 0x04, 0x00, 0x00, 0x83, 0x56]] ∧
      (Receiver.receiveAll ⟨{}, {}⟩
          [[0x34, 0x12, 0x00, 0x00, 0x00, 0x41, 0xCD, 0xAB, 0x04, 0x00, 0x00, 0x83, 0x56]]).2 =
        [⟨.word 0x1234, .damaged, .word 0xABCD, .damaged⟩] := by
  obtain ⟨-, -, hcuts, -⟩ := framing_loses_nothing []
  exact ⟨hcuts {} _ _ (by decide), by decide +kernel⟩

end BlockFramer

end RadioData
