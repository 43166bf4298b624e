import Mathlib.Data.List.Forall2
import RadioData.Proofs.Group.Reception
/-!
# What makes no difference to the groups

Most of what the radio sends beside clean payloads has no bearing on the groups. Two blocks are
`Alike` if neither has a place in a group, or if both fill the same slot with the same quality and,
if they are clean, with the same payload. An assembler treats them the same, whatever it has
collected (`add_alike`), so it cannot tell two streams apart that are alike block by block
(`handleAll_alike`), nor can a receiver that gets them in reads of the same lengths
(`Receiver.Alike.receive`).

The status byte says where blocks are alike for sure: payloads make no difference unless no error
bit is set, the reserved bits never make one, the lower error bit makes none beside the upper one,
and neither does the alternative for the third position.
-/

namespace RadioData

/-! ## The bits of the status byte -/

/-- Only the low three bits say anything of the position. -/
theorem BlockPosition.ofStatus_congr {s t : UInt8} (h : s &&& 7 = t &&& 7) :
    ofStatus s = ofStatus t := by
  rw [ofStatus, ofStatus, h]

/-- The codes from 5 on have no place in a group. -/
theorem BlockPosition.slot_ofStatus_of_le {s : UInt8} (h : 5 ≤ s &&& 7) :
    (ofStatus s).slot = none := by
  rw [ofStatus]
  split
  case h_6 => rfl
  all_goals
    rename_i hcode
    rw [hcode] at h
    exact absurd h (by decide)

/-- The top bit is one of the two error bits. -/
theorem topBit_and_errorBits (s : UInt8) : s &&& 0x80 = (s &&& 0xC0) &&& 0x80 := by
  rw [UInt8.and_assoc]
  rfl

/-- Only the two error bits say anything of the quality. -/
theorem BlockQuality.ofStatus_congr {s t : UInt8} (h : s &&& 0xC0 = t &&& 0xC0) :
    ofStatus s = ofStatus t := by
  rw [ofStatus, ofStatus, topBit_and_errorBits s, topBit_and_errorBits t, h]

/-- With the top bit set, the bit below it does not count. -/
theorem BlockQuality.ofStatus_of_topBit {s : UInt8} (h : s &&& 0x80 ≠ 0) :
    ofStatus s = .uncorrectable := by
  have herror : s &&& 0xC0 ≠ 0 := by
    intro hzero
    rw [topBit_and_errorBits, hzero] at h
    exact h rfl
  rw [ofStatus, if_neg herror, if_pos h]

/-! ## Blocks that are alike -/

/-- Two blocks that an assembler has no reason to tell apart. -/
inductive Block.Alike (b c : Block) : Prop where
  /-- Neither has a place in a group. -/
  | nowhere (left : b.position.slot = none) (right : c.position.slot = none)
  /-- They fill the same slot and have the same quality, and the same payload if they are clean. -/
  | placed (slot : b.position.slot = c.position.slot) (quality : b.quality = c.quality)
      (payload : b.quality = .clean → b.payload = c.payload)

namespace Block

variable {b c : Block}

/-- Blocks whose codes are 5 or more are alike. -/
theorem alike_of_invalid (hb : 5 ≤ b.status &&& 7) (hc : 5 ≤ c.status &&& 7) : b.Alike c :=
  .nowhere (BlockPosition.slot_ofStatus_of_le hb) (BlockPosition.slot_ofStatus_of_le hc)

/-- The payload of a block that is not clean makes no difference. -/
theorem alike_of_not_clean (hstatus : b.status = c.status) (h : b.quality ≠ .clean) :
    b.Alike c := by
  refine .placed ?_ ?_ fun hclean => absurd hclean h
  · rw [position, position, hstatus]
  · rw [quality, quality, hstatus]

/-- Blocks with the same error bits have the same quality, and with the same bytes of payload the
same payload. -/
theorem Alike.of_slot (hslot : b.position.slot = c.position.slot)
    (herror : b.status &&& 0xC0 = c.status &&& 0xC0) (hlow : b.low = c.low)
    (hhigh : b.high = c.high) : b.Alike c := by
  refine .placed hslot (BlockQuality.ofStatus_congr herror) fun _ => ?_
  rw [payload, payload, hlow, hhigh]

/-- The reserved bits of the status make no difference. -/
theorem alike_of_reserved (hstatus : b.status &&& 0xC7 = c.status &&& 0xC7) (hlow : b.low = c.low)
    (hhigh : b.high = c.high) : b.Alike c := by
  have hmask : ∀ mask : UInt8, 0xC7 &&& mask = mask → b.status &&& mask = c.status &&& mask := by
    intro mask hmask
    rw [← hmask, ← UInt8.and_assoc, hstatus, UInt8.and_assoc]
  have hposition : b.position = c.position := BlockPosition.ofStatus_congr (hmask 7 rfl)
  exact .of_slot (congrArg _ hposition) (hmask 0xC0 rfl) hlow hhigh

/-- With the top bit set in both, it makes no difference whether the other error bit is, nor what
the payloads are. -/
theorem alike_of_topBit (hposition : b.status &&& 7 = c.status &&& 7) (hb : b.status &&& 0x80 ≠ 0)
    (hc : c.status &&& 0x80 ≠ 0) : b.Alike c := by
  have hquality : b.quality = .uncorrectable := BlockQuality.ofStatus_of_topBit hb
  refine .placed (congrArg _ (BlockPosition.ofStatus_congr hposition)) ?_ ?_
  · rw [hquality]
    exact (BlockQuality.ofStatus_of_topBit hc).symm
  · intro hclean
    rw [hquality] at hclean
    cases hclean

/-- The two alternatives for the third position make no difference. -/
theorem alike_of_alternative (hb : b.status &&& 7 = 2) (hc : c.status &&& 7 = 4)
    (herror : b.status &&& 0xC0 = c.status &&& 0xC0) (hlow : b.low = c.low)
    (hhigh : b.high = c.high) : b.Alike c := by
  refine .of_slot ?_ herror hlow hhigh
  rw [position, position, BlockPosition.ofStatus, BlockPosition.ofStatus, hb, hc]
  rfl

end Block

/-! ## What an assembler makes of them -/

namespace GroupAssembler

/-- **Blocks that are alike do the same to an assembler.** -/
theorem add_alike {b c : Block} (h : b.Alike c) (a : GroupAssembler) : a.add b = a.add c := by
  cases h with
  | nowhere hb hc =>
    rw [add_of_outOfTurn (hb ▸ nofun), add_of_outOfTurn (hc ▸ nofun)]
  | placed hslot hquality hpayload =>
    refine add_congr hslot hquality ?_
    rw [Block.content, Block.content, ← hquality]
    cases hclean : b.quality with
    | clean => exact congrArg _ (hpayload hclean)
    | corrected | uncorrectable => rfl

variable {xs ys : List Block}

/-- **Streams that are alike block by block lead to the same assembler by the same answers.** -/
theorem handleAll_alike (h : List.Forall₂ Block.Alike xs ys) (a : GroupAssembler) :
    a.handleAll (xs.map .block) = a.handleAll (ys.map .block) := by
  induction h generalizing a with
  | nil => rfl
  | cons hfirst _ ih =>
    rw [List.map_cons, List.map_cons, handleAll_cons, handleAll_cons, handle, handle,
      add_alike hfirst, ih]

/-- Streams that are alike have the same groups. -/
theorem addAll_alike (h : List.Forall₂ Block.Alike xs ys) (a : GroupAssembler) :
    a.addAll xs = a.addAll ys := by
  rw [addAll_eq_handleAll, addAll_eq_handleAll, handleAll_alike h]

end GroupAssembler

/-! ## What a receiver makes of them -/

namespace BlockFramer

/-- The blocks take three bytes each. -/
theorem length_blocks_split (bytes : List UInt8) :
    3 * (split bytes).1.length + (split bytes).2.length = bytes.length := by
  fun_induction split bytes with
  | case1 low high status rest blocks left hrest ih =>
    rw [hrest] at ih
    simp only [List.length_cons] at ih ⊢
    omega
  | case2 left hshort => simp

/-- As many bytes are cut into as many blocks, with as many bytes left over. -/
theorem length_split_congr {xs ys : List UInt8} (h : xs.length = ys.length) :
    (split xs).1.length = (split ys).1.length ∧ (split xs).2.length = (split ys).2.length := by
  have hxs := length_blocks_split xs
  have hys := length_blocks_split ys
  have hleft : (split xs).2.length < 3 := length_split xs
  have hright : (split ys).2.length < 3 := length_split ys
  omega

end BlockFramer

/-- Two receivers that have collected the same, and hold as many bytes, each with bytes to come:
all the blocks that these lead to are alike. -/
structure Receiver.Alike (r q : Receiver) (coming coming' : List UInt8) : Prop where
  assembler : r.assembler = q.assembler
  length : r.framer.buffer.length = q.framer.buffer.length
  blocks : List.Forall₂ Block.Alike (BlockFramer.split (r.framer.buffer ++ coming)).1
    (BlockFramer.split (q.framer.buffer ++ coming')).1

/-- **Reads of the same length lead to the same groups, and leave the receivers alike.** -/
theorem Receiver.Alike.receive {r q : Receiver} {data data' coming coming' : List UInt8}
    (h : r.Alike q (data ++ coming) (data' ++ coming')) (hlength : data.length = data'.length) :
    (r.receive data).2 = (q.receive data').2 ∧
      (r.receive data).1.Alike (q.receive data').1 coming coming' := by
  have htotal : (r.framer.buffer ++ data).length = (q.framer.buffer ++ data').length := by
    rw [List.length_append, List.length_append, h.length, hlength]
  obtain ⟨hblocks, hleft⟩ := BlockFramer.length_split_congr htotal
  have hall := h.blocks
  rw [← List.append_assoc, ← List.append_assoc, BlockFramer.split_append,
    BlockFramer.split_append (q.framer.buffer ++ data')] at hall
  have hnow := List.forall₂_take_append _ _ _ hall
  have hlater := List.forall₂_drop_append _ _ _ hall
  rw [List.take_left' hblocks] at hnow
  rw [List.drop_left' hblocks] at hlater
  have hadd : r.assembler.addAll (BlockFramer.split (r.framer.buffer ++ data)).1 =
      q.assembler.addAll (BlockFramer.split (q.framer.buffer ++ data')).1 := by
    rw [GroupAssembler.addAll_alike hnow, h.assembler]
  have hassembler : (r.receive data).1.assembler = (q.receive data').1.assembler :=
    congrArg (·.1) hadd
  have hgroups : (r.receive data).2 = (q.receive data').2 := congrArg (·.2) hadd
  exact ⟨hgroups, hassembler, hleft, hlater⟩

end RadioData
