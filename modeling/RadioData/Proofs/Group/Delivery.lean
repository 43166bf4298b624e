import RadioData.Group.Carousel
import RadioData.Proofs.Group.Reception
import RadioData.Proofs.Group.Recovery
/-!
# What has arrived of a stream of groups

The bytes of aligned groups arrive one after the other, and at any time any number of them has
arrived. `receive_take` says what a new `Receiver` has made of them by then: the groups that have
arrived whole, and no block was out of turn. What it keeps are the blocks of the next group and the
bytes of the next block.
-/

namespace RadioData

namespace BlockFramer

/-- A part of the bytes of some blocks is split into the first ones of them. -/
theorem split_take (bs : List Block) {n : Nat} (h : n ≤ Block.size * bs.length) :
    ∃ left : List UInt8, left.length = n % Block.size ∧
      split ((blocksBytes bs).take n) = (bs.take (n / Block.size), left) := by
  induction bs generalizing n with
  | nil =>
    obtain rfl : n = 0 := by simpa using h
    exact ⟨[], rfl, rfl⟩
  | cons b bs ih =>
    rw [Block.size, List.length_cons] at h
    have hbytes : blocksBytes (b :: bs) = b.low :: b.high :: b.status :: blocksBytes bs := rfl
    obtain _ | _ | _ | m := n
    · exact ⟨[], rfl, rfl⟩
    · exact ⟨[b.low], rfl, rfl⟩
    · exact ⟨[b.low, b.high], rfl, rfl⟩
    · obtain ⟨left, hleft, hsplit⟩ := ih (n := m) (by rw [Block.size]; omega)
      refine ⟨left, hleft.trans (Nat.add_mod_right ..).symm, ?_⟩
      have hdiv : (m + 1 + 1 + 1) / Block.size = m / Block.size + 1 :=
        Nat.add_div_right m (show 0 < Block.size by decide)
      simp only [hbytes, List.take_succ_cons, split, hsplit, hdiv]

end BlockFramer

/-- The first blocks of blocks in turn are in turn. -/
theorem InTurn.take {place : Nat} {bs : List Block} (h : InTurn place bs) (m : Nat) :
    InTurn place (bs.take m) := by
  induction bs generalizing place m with
  | nil => rwa [List.take_nil]
  | cons b bs ih =>
    cases m with
    | zero => trivial
    | succ m => exact ⟨h.1, ih h.2 m⟩

namespace GroupAssembler

/-- From a start, the first ones of the blocks of aligned groups give the groups that are whole. -/
theorem addAll_take {a : GroupAssembler} (hstart : a.expected = 0) (gs : List AlignedGroup)
    {m : Nat} (h : m ≤ 4 * gs.length) :
    ∃ next : GroupAssembler, next.expected = m % 4 ∧ next.counts.resyncs = a.counts.resyncs ∧
      a.addAll ((gs.flatMap AlignedGroup.blocks).take m) =
        (next, (gs.take (m / 4)).map AlignedGroup.group) := by
  induction gs generalizing a m with
  | nil =>
    obtain rfl : m = 0 := by simpa using h
    exact ⟨a, hstart, rfl, rfl⟩
  | cons g gs ih =>
    rw [List.length_cons] at h
    rw [List.flatMap_cons]
    by_cases hm : m < 4
    · -- the group has not arrived whole
      have hblocks : (g.blocks ++ gs.flatMap AlignedGroup.blocks).take m = g.blocks.take m :=
        List.take_append_of_le_length (Nat.le_of_lt hm)
      have hlength : (g.blocks.take m).length = m := List.length_take_of_le (Nat.le_of_lt hm)
      have hturn : InTurn a.expected (g.blocks.take m) := hstart ▸ g.inTurn.take m
      obtain ⟨next, hslots, hresyncs, hrun⟩ := handleAll_inTurn hturn (by omega)
      rw [slots_of_start hstart, List.nil_append] at hslots
      refine ⟨next, ?_, hresyncs, ?_⟩
      · rw [expected_of_slots hslots, List.length_map, hlength, Nat.mod_eq_of_lt hm]
      · rw [hblocks, addAll_eq_handleAll, hrun, Nat.div_eq_of_lt hm]
        simp [List.reduceOption]
    · have hblocks : (g.blocks ++ gs.flatMap AlignedGroup.blocks).take m =
          g.blocks ++ (gs.flatMap AlignedGroup.blocks).take (m - 4) := by
        rw [List.take_append, List.take_of_length_le (Nat.le_of_not_lt hm)]
        rfl
      obtain ⟨a₁, hstart₁, hresyncs₁, hadd₁⟩ := addAll_aligned hstart g
      obtain ⟨next, hnext, hresyncs, hadd⟩ := ih hstart₁ (m := m - 4) (by omega)
      have hdiv : m / 4 = (m - 4) / 4 + 1 := by omega
      refine ⟨next, by omega, hresyncs.trans hresyncs₁, ?_⟩
      rw [hblocks, addAll_append, hadd₁, hadd, hdiv]
      rfl

end GroupAssembler

namespace AlignedGroup

/-- The bytes of groups, one group after the other. -/
def bytes (gs : List AlignedGroup) : List UInt8 := gs.flatMap fun g => blocksBytes g.blocks

theorem length_bytes (gs : List AlignedGroup) : (bytes gs).length = 12 * gs.length := by
  induction gs with
  | nil => rfl
  | cons g gs ih =>
    rw [bytes, List.flatMap_cons, List.length_append, ← bytes, ih, List.length_cons]
    have : (blocksBytes g.blocks).length = 12 := rfl
    omega

theorem bytes_eq (gs : List AlignedGroup) :
    bytes gs = blocksBytes (gs.flatMap AlignedGroup.blocks) :=
  List.flatMap_assoc.symm

end AlignedGroup

namespace Receiver

/-- **What has arrived whole is received, and nothing is out of turn.** After any number of the
bytes of aligned groups, a new receiver has given the groups that they complete. It holds the bytes
of the block and the blocks of the group that have begun. -/
theorem receive_take (gs : List AlignedGroup) {n : Nat} (h : n ≤ 12 * gs.length) :
    ∃ r : Receiver, r.framer.buffer.length = n % 3 ∧ r.assembler.expected = n / 3 % 4 ∧
      r.assembler.counts.resyncs = 0 ∧
      ({} : Receiver).receive ((AlignedGroup.bytes gs).take n) =
        (r, (gs.take (n / 12)).map AlignedGroup.group) := by
  have hlength : (gs.flatMap AlignedGroup.blocks).length = 4 * gs.length := by
    rw [List.length_flatMap, List.map_congr_left fun g _ => (rfl : g.blocks.length = 4)]
    simp [Nat.mul_comm]
  obtain ⟨left, hleft, hsplit⟩ :=
    BlockFramer.split_take (gs.flatMap AlignedGroup.blocks) (n := n)
      (by rw [hlength, Block.size]; omega)
  obtain ⟨a, hexpected, hresyncs, hadd⟩ :=
    GroupAssembler.addAll_take (a := {}) rfl gs (m := n / Block.size)
      (by rw [Block.size]; omega)
  refine ⟨⟨⟨left⟩, a⟩, hleft, hexpected, hresyncs, ?_⟩
  rw [Nat.div_div_eq_div_mul] at hadd
  simp only [receive, BlockFramer.push, BlockFramer.drain, List.nil_append, AlignedGroup.bytes_eq,
    hsplit, hadd]
  rfl

end Receiver

end RadioData
