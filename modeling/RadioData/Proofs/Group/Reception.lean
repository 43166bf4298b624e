import RadioData.Proofs.Group.Assembly
/-!
# Receiving a byte stream from the radio

A `BlockFramer` with a `GroupAssembler` behind it is a `Receiver`. It takes reads of any size and
gives the groups that they complete. `receive_reads` is the main statement: the reads may be cut
anywhere, inside a block or inside a group, and the groups, the counts and the bytes left over are
those of the whole stream in a single read.
-/

namespace RadioData

namespace BlockFramer

/-- Fewer bytes than a block are left over. -/
theorem length_split (bytes : List UInt8) : (split bytes).2.length < Block.size := by
  fun_induction split bytes with
  | case1 low high status rest blocks left hrest ih => simpa [hrest] using ih
  | case2 left hshort =>
    match left, hshort with
    | [], _ | [_], _ | [_, _], _ => simp [Block.size]
    | _ :: _ :: _ :: _, hshort => exact absurd rfl (hshort _ _ _ _)

/-- The blocks and what is left over are all the bytes. -/
theorem bytes_split (bytes : List UInt8) :
    (split bytes).1.flatMap Block.bytes ++ (split bytes).2 = bytes := by
  fun_induction split bytes with
  | case1 low high status rest blocks left hrest ih =>
    rw [hrest] at ih
    simpa [Block.bytes] using ih
  | case2 left hshort => rfl

/-- Bytes that arrive later go on with what is left over. -/
theorem split_append (xs ys : List UInt8) :
    split (xs ++ ys) =
      ((split xs).1 ++ (split ((split xs).2 ++ ys)).1, (split ((split xs).2 ++ ys)).2) := by
  fun_induction split xs with
  | case1 low high status rest blocks left hrest ih =>
    rw [hrest] at ih
    simp only [List.cons_append, split, ih]
  | case2 left hshort => rfl

/-- What is left over holds no block. -/
theorem split_left (bytes : List UInt8) : split (split bytes).2 = ([], (split bytes).2) := by
  have h := split_append bytes []
  rw [List.append_nil, List.append_nil] at h
  have hblocks := congrArg Prod.fst h
  have hleft := congrArg Prod.snd h
  rw [List.self_eq_append_right] at hblocks
  exact Prod.ext hblocks hleft.symm

end BlockFramer

/-- What stands between the radio and the groups. -/
structure Receiver where
  framer : BlockFramer := {}
  assembler : GroupAssembler := {}
  deriving DecidableEq, Repr

namespace Receiver

/-- Takes the bytes of one read. -/
def receive (r : Receiver) (data : List UInt8) : Receiver × List Group :=
  let (blocks, framer) := (r.framer.push data).drain
  let (assembler, groups) := r.assembler.addAll blocks
  (⟨framer, assembler⟩, groups)

/-- Takes reads one after the other. -/
def receiveAll : Receiver → List (List UInt8) → Receiver × List Group
  | r, [] => (r, [])
  | r, data :: reads =>
    let (next, groups) := r.receive data
    let (last, later) := next.receiveAll reads
    (last, groups ++ later)

theorem receiveAll_cons (r : Receiver) (data : List UInt8) (reads : List (List UInt8)) :
    r.receiveAll (data :: reads) =
      (((r.receive data).1.receiveAll reads).1,
        (r.receive data).2 ++ ((r.receive data).1.receiveAll reads).2) := rfl

/-- A second read goes on where the first one ended. -/
theorem receive_append (r : Receiver) (xs ys : List UInt8) :
    r.receive (xs ++ ys) =
      (((r.receive xs).1.receive ys).1,
        (r.receive xs).2 ++ ((r.receive xs).1.receive ys).2) := by
  have hsplit : BlockFramer.split (r.framer.buffer ++ (xs ++ ys)) =
      ((BlockFramer.split (r.framer.buffer ++ xs)).1 ++
          (BlockFramer.split ((BlockFramer.split (r.framer.buffer ++ xs)).2 ++ ys)).1,
        (BlockFramer.split ((BlockFramer.split (r.framer.buffer ++ xs)).2 ++ ys)).2) := by
    rw [← List.append_assoc, BlockFramer.split_append]
  simp only [receive, BlockFramer.push, BlockFramer.drain, hsplit, GroupAssembler.addAll_append]

/-- A read of nothing changes nothing once the blocks have been taken out. -/
theorem receive_nil (r : Receiver) (data : List UInt8) :
    (r.receive data).1.receive [] = ((r.receive data).1, []) := by
  simp only [receive, BlockFramer.push, BlockFramer.drain, List.append_nil,
    BlockFramer.split_left, GroupAssembler.addAll]

/-- A receiver whose blocks have been taken out takes several reads as it takes them in one. -/
theorem receiveAll_of_drained {r : Receiver} (h : r.receive [] = (r, []))
    (reads : List (List UInt8)) : r.receiveAll reads = r.receive reads.flatten := by
  induction reads generalizing r with
  | nil => exact h.symm
  | cons data reads ih =>
    rw [receiveAll_cons, List.flatten_cons, receive_append, ih (r.receive_nil data)]

/-- **The cuts of a stream make no difference to its groups.** -/
theorem receive_reads (reads : List (List UInt8)) :
    ({} : Receiver).receiveAll reads = ({} : Receiver).receive reads.flatten :=
  receiveAll_of_drained rfl reads

end Receiver

end RadioData
