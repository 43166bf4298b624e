import RadioData.Proofs.Block.Parts
import RadioData.Proofs.Group.Delivery
/-!
# A station on the air

What a station's carousel sends, and what is received of it. `Station.words` says, for the number of
a group, which four numbers it carries; `words_after` proves it of a carousel that has sent so many
groups. The blocks of a group are in turn whatever they carry (`nextGroup`), so a `Receiver` finds
every group, and of each group the words whose blocks are not marked as damaged. That is
`station_is_received`; it also says that without damage any four groups in a row spell the name.
-/

namespace RadioData

/-! ## What a station has to send -/

namespace Station

/-- The characters of a station's name that go on the air: its first eight ASCII characters, with
spaces behind a shorter name. -/
def nameOnAir (s : Station) : List Char :=
  ((s.ps.toList.filter fun c => c.toNat < 128) ++ List.replicate 8 ' ').take 8

/-- The code of a character of the name on the air. -/
def letter (s : Station) (i : Nat) : Nat := (s.nameOnAir.getD i ' ').toNat

/-- The words of a station's group with the given number, counted from zero. -/
def words (s : Station) (k : Nat) : List Nat :=
  [s.pi.toNat, s.pty.toNat % 32 * 32 + 8 + k % 4, 0xE0CD,
    256 * s.letter (2 * (k % 4)) + s.letter (2 * (k % 4) + 1)]

/-- The two characters in a segment of the name. -/
def segment (s : Station) (i : Nat) : List Nat := [s.letter (2 * i), s.letter (2 * i + 1)]

/-- Eight characters go on the air. -/
theorem length_nameOnAir (s : Station) : s.nameOnAir.length = 8 := by
  rw [nameOnAir, List.length_take, List.length_append, List.length_replicate]
  omega

/-- The name on the air is its four segments. -/
theorem segments_name (s : Station) :
    (List.range 4).flatMap s.segment = s.nameOnAir.map Char.toNat := by
  have hletters : (List.range 8).map s.letter = s.nameOnAir.map Char.toNat := by
    refine List.ext_getElem (by simp [length_nameOnAir]) fun i _ hi => ?_
    rw [List.length_map] at hi
    simp [letter, hi]
  exact hletters

end Station

/-! ## What a carousel sends -/

namespace GroupCarousel

/-- The second word of the next group. -/
def secondWord (c : GroupCarousel) : UInt16 :=
  (c.pty.toUInt16 <<< 5) ||| musicBit ||| c.segment.val.toUInt16

/-- The fourth word of the next group. -/
def fourthWord (c : GroupCarousel) : UInt16 :=
  ((c.character (2 * c.segment.val)).toUInt16 <<< 8) |||
    (c.character (2 * c.segment.val + 1)).toUInt16

/-- The blocks of the next group, as blocks in turn. -/
def nextGroup (c : GroupCarousel) : AlignedGroup where
  a := .ofParts c.pi .a (c.quality (c.sent + 1))
  b := .ofParts c.secondWord .b (c.quality (c.sent + 1 + 1))
  c := .ofParts noAlternatives .c (c.quality (c.sent + 1 + 1 + 1))
  d := .ofParts c.fourthWord .d (c.quality (c.sent + 1 + 1 + 1 + 1))
  inTurn := by
    refine ⟨?_, ?_, ?_, ?_, trivial⟩ <;> rw [Block.position_ofParts _ _ rfl] <;> rfl

/-- They are the blocks that are sent. -/
theorem blocks_nextGroup (c : GroupCarousel) : c.nextGroup.blocks = c.sendBlocks.1 := rfl

/-- The carousel after so many groups. -/
def after (c : GroupCarousel) : Nat → GroupCarousel
  | 0 => c
  | k + 1 => c.sendBlocks.2.after k

/-- The blocks of so many groups, group by group. -/
def sendAll (c : GroupCarousel) : Nat → List (List Block)
  | 0 => []
  | count + 1 => c.sendBlocks.1 :: c.sendBlocks.2.sendAll count

/-- The groups that are sent, by their numbers. -/
theorem sendAll_eq (c : GroupCarousel) (count : Nat) :
    c.sendAll count = (List.range count).map fun k => (c.after k).sendBlocks.1 := by
  induction count generalizing c with
  | zero => rfl
  | succ count ih =>
    rw [sendAll, ih, List.range_succ_eq_map, List.map_cons, List.map_map]
    rfl

/-- Only the place in the name and the count of blocks change, and both wrap. -/
theorem after_eq (c : GroupCarousel) (k : Nat) :
    c.after k =
      { c with segment := c.segment + Fin.ofNat 4 k, sent := c.sent + UInt32.ofNat (4 * k) } := by
  induction k generalizing c with
  | zero => simp [after]
  | succ k ih =>
    have hsegment : c.segment + 1 + Fin.ofNat 4 k = c.segment + Fin.ofNat 4 (k + 1) := by
      refine Fin.ext ?_
      simp [Fin.val_add]
      omega
    have hsent : c.sent + 4 + UInt32.ofNat (4 * k) = c.sent + UInt32.ofNat (4 * (k + 1)) := by
      rw [UInt32.add_assoc, Nat.mul_add, UInt32.ofNat_add, UInt32.add_comm (UInt32.ofNat (4 * k))]
      rfl
    rw [after, ih]
    simp only [sendBlocks, hsegment, hsent]

/-- The bits of the second word do not overlap. -/
theorem toNat_secondWord (c : GroupCarousel) :
    c.secondWord.toNat = c.pty.toNat * 32 + 8 + c.segment.val := by
  have hsegment := c.segment.isLt
  have hshift : (c.pty.toUInt16 <<< 5).toNat = c.pty.toNat <<< 5 :=
    toNat_byte_shiftLeft c.pty (by decide)
  have hlow : musicBit.toNat ||| c.segment.val.toUInt16.toNat = 8 + c.segment.val := by
    generalize c.segment = i
    revert i
    decide
  rw [secondWord, UInt16.toNat_or, UInt16.toNat_or, hshift, Nat.or_assoc, hlow,
    ← Nat.shiftLeft_add_eq_or_of_lt (by omega), Nat.shiftLeft_eq, Nat.add_assoc]

/-- The words of the next group as numbers. -/
theorem toNat_words (c : GroupCarousel) :
    c.words.map UInt16.toNat =
      [c.pi.toNat, c.pty.toNat * 32 + 8 + c.segment.val, 0xE0CD,
        256 * (c.character (2 * c.segment.val)).toNat +
          (c.character (2 * c.segment.val + 1)).toNat] := by
  show [_, c.secondWord.toNat, _, c.fourthWord.toNat] = _
  rw [toNat_secondWord, fourthWord, toNat_bytes_word]
  rfl

variable (s : Station) (damageEvery : Option UInt32)

/-- A station's carousel has the characters that go on the air. -/
theorem toNat_character {i : Nat} (h : i < 8) :
    ((ofStation s damageEvery).character i).toNat = s.letter i := by
  let ascii := s.ps.toList.filter fun c => c.toNat < 128
  have hletter : s.letter i = (ascii[i]?.getD ' ').toNat := by
    show (((ascii ++ List.replicate 8 ' ').take 8).getD i ' ').toNat = _
    rw [List.getD_eq_getElem?_getD, List.getElem?_take_of_lt h, List.getElem?_append]
    split
    · rfl
    · rw [List.getElem?_replicate_of_lt (by omega), List.getElem?_eq_none (by omega)]
      rfl
  have hcharacter : (ofStation s damageEvery).character i =
      (ascii[i]?.map fun c => c.toNat.toUInt8).getD 0x20 := by
    rw [character, List.getD_eq_getElem?_getD, ofStation, List.getElem?_map]
  rw [hletter, hcharacter]
  cases hi : ascii[i]? with
  | none => rfl
  | some c =>
    have hlow : c.toNat < 128 := by simpa using List.of_mem_filter (List.mem_of_getElem? hi)
    exact Nat.mod_eq_of_lt (by omega)

/-- The words of a station's groups. -/
theorem words_after (k : Nat) :
    ((ofStation s damageEvery).after k).words.map UInt16.toNat = s.words k := by
  have hafter : (ofStation s damageEvery).after k =
      { ofStation s damageEvery with
        segment := Fin.ofNat 4 k, sent := UInt32.ofNat (4 * k) } := by
    rw [after_eq]
    simp [ofStation]
  have hpty : (ofStation s damageEvery).pty.toNat = s.pty.toNat % 32 :=
    Nat.and_two_pow_sub_one_eq_mod s.pty.toNat 5
  have hfour : k % 4 < 4 := Nat.mod_lt k (by decide)
  rw [hafter, toNat_words]
  show [s.pi.toNat, (ofStation s damageEvery).pty.toNat * 32 + 8 + k % 4, 0xE0CD,
    256 * ((ofStation s damageEvery).character (2 * (k % 4))).toNat +
      ((ofStation s damageEvery).character (2 * (k % 4) + 1)).toNat] = _
  rw [hpty, toNat_character s damageEvery (by omega), toNat_character s damageEvery (by omega)]
  rfl

end GroupCarousel

/-! ## What is received -/

/-- The number that a slot carries, unless it is damaged. -/
def Slot.number? (s : Slot) : Option Nat := s.word?.map UInt16.toNat

/-- What a receiver gets of a word: nothing if its block is marked as damaged. -/
def Block.legible? (b : Block) (word : Nat) : Option Nat :=
  if b.quality = .uncorrectable then none else some word

/-- The segment of the name that a group brings, with its number, as far as it can be read. -/
def Group.segment? (g : Group) : Option (Nat × List Nat) :=
  match g.b.number?, g.d.number? with
  | some b, some d => some (b % 4, [d / 256, d % 256])
  | _, _ => none

/-- The name that groups spell: the segments that they bring, in the order of their numbers. -/
def spelled (gs : List Group) : List Nat :=
  (List.range 4).flatMap fun i =>
    (gs.filterMap Group.segment?).flatMap fun segment => if segment.1 = i then segment.2 else []

/-- Four groups with the four segments, from any of them on, spell the name that these make. -/
theorem spelled_of_segments {gs : List Group} {segment : Nat → List Nat} {k : Nat}
    (h : gs.filterMap Group.segment? =
      [(k % 4, segment (k % 4)), ((k + 1) % 4, segment ((k + 1) % 4)),
        ((k + 2) % 4, segment ((k + 2) % 4)), ((k + 3) % 4, segment ((k + 3) % 4))]) :
    spelled gs = (List.range 4).flatMap segment := by
  rw [spelled, h]
  have hfour : k % 4 < 4 := Nat.mod_lt k (by decide)
  rw [Nat.add_mod k 1, Nat.add_mod k 2, Nat.add_mod k 3]
  generalize k % 4 = first at hfour ⊢
  match first, hfour with
  | 0, _ | 1, _ | 2, _ | 3, _ => simp [List.range_succ]

namespace GroupCarousel

/-- Blocks are marked as clean or as beyond correction. -/
theorem quality_cases (c : GroupCarousel) (number : UInt32) :
    c.quality number = .clean ∨ c.quality number = .uncorrectable := by
  unfold quality
  split
  · exact .inl rfl
  · split
    · exact .inr rfl
    · exact .inl rfl

/-- What a receiver gets of words that are sent as blocks. -/
theorem numbers_blocksOf (c : GroupCarousel) {sent : UInt32}
    (ps : List (UInt16 × BlockPosition)) (h : ∀ p ∈ ps, p.2.slot.isSome) :
    ((c.blocksOf sent ps).map fun b => b.content.number?) =
      List.zipWith Block.legible? (c.blocksOf sent ps) (ps.map fun p => p.1.toNat) := by
  induction ps generalizing sent with
  | nil => rfl
  | cons p ps ih =>
    obtain ⟨hp, hps⟩ := List.forall_mem_cons.1 h
    rw [blocksOf, List.map_cons, List.map_cons, List.zipWith_cons_cons, ih hps,
      Block.content_ofParts _ _ hp, Block.legible?, Block.quality_ofParts _ _ hp]
    rcases c.quality_cases (sent + 1) with hq | hq <;> rw [hq] <;> rfl

/-- What a receiver gets of the group that comes next. -/
theorem numbers_nextGroup (c : GroupCarousel) :
    c.nextGroup.group.slots.map Slot.number? =
      List.zipWith Block.legible? c.sendBlocks.1 (c.words.map UInt16.toNat) :=
  c.numbers_blocksOf (c.words.zip [.a, .b, .c, .d]) (by simp [words, BlockPosition.slot])

/-- Without damage a receiver gets the words of the next group. -/
theorem group_nextGroup {c : GroupCarousel} (h : c.damageEvery = none ∨ c.damageEvery = some 0) :
    c.nextGroup.group =
      ⟨.word c.pi, .word c.secondWord, .word noAlternatives, .word c.fourthWord⟩ := by
  have hclean (number : UInt32) : c.quality number = .clean := by
    unfold quality
    rcases h with h | h <;> rw [h]
    exact if_neg fun hzero => hzero.1 rfl
  have hcontent (word : UInt16) {position : BlockPosition} (hp : position.slot.isSome)
      (number : UInt32) :
      (Block.ofParts word position (c.quality number)).content = .word word := by
    rw [Block.content_ofParts _ _ hp, hclean, if_pos rfl]
  rw [AlignedGroup.group, nextGroup, hcontent, hcontent, hcontent, hcontent] <;> rfl

/-- Of the groups that a carousel sends, a new receiver gives every one. -/
theorem receiveAll_sendAll (c : GroupCarousel) (count : Nat) {reads : List (List UInt8)}
    (hreads : reads.flatten = (c.sendAll count).flatMap blocksBytes) :
    ∃ r : Receiver, r.framer.buffer = [] ∧ r.assembler.expected = 0 ∧
      r.assembler.counts.resyncs = 0 ∧
      ({} : Receiver).receiveAll reads =
        (r, (List.range count).map fun k => (c.after k).nextGroup.group) := by
  let groups : List AlignedGroup := (List.range count).map fun k => (c.after k).nextGroup
  have hlength : groups.length = count := by rw [List.length_map, List.length_range]
  have hsent : c.sendAll count = groups.map AlignedGroup.blocks := by
    rw [sendAll_eq, List.map_map]
    exact List.map_congr_left fun k _ => (c.after k).blocks_nextGroup.symm
  have hbytes : reads.flatten = (AlignedGroup.bytes groups).take (12 * count) := by
    rw [hreads, hsent, List.flatMap_map, ← hlength, ← AlignedGroup.length_bytes, List.take_length]
    rfl
  obtain ⟨r, hbuffer, hexpected, hresyncs, hreceive⟩ :=
    Receiver.receive_take groups (n := 12 * count) (Nat.le_of_eq (by rw [hlength]))
  refine ⟨r, List.length_eq_zero_iff.1 (by omega), by omega, hresyncs, ?_⟩
  rw [Receiver.receive_reads, hbytes, hreceive, Nat.mul_div_cancel_left _ (by decide),
    List.take_of_length_le (Nat.le_of_eq hlength), List.map_map]
  rfl

variable (s : Station) (damageEvery : Option UInt32)

/-- Without damage a group brings the segment whose turn it is. -/
theorem segment?_after (h : damageEvery = none ∨ damageEvery = some 0) (k : Nat) :
    ((ofStation s damageEvery).after k).nextGroup.group.segment? =
      some (k % 4, s.segment (k % 4)) := by
  have hwords := words_after s damageEvery k
  simp only [words, Station.words, List.map_cons, List.cons.injEq] at hwords
  obtain ⟨-, hsecond, -, hfourth, -⟩ := hwords
  have hfour := Nat.mod_lt k (show 0 < 4 by decide)
  have hlow : s.letter (2 * (k % 4) + 1) < 256 := by
    rw [← toNat_character s none (by omega)]
    exact UInt8.toNat_lt _
  rw [group_nextGroup (by rw [after_eq]; exact h), Group.segment?]
  show some (UInt16.toNat _ % 4, [UInt16.toNat _ / 256, UInt16.toNat _ % 256]) = _
  rw [secondWord, fourthWord, hsecond, hfourth, Station.segment]
  have hnumber (x : Nat) : (x * 32 + 8 + k % 4) % 4 = k % 4 := by omega
  have hbytes (x y : Nat) (hy : y < 256) : (256 * x + y) / 256 = x ∧ (256 * x + y) % 256 = y := by
    omega
  rw [hnumber, (hbytes _ _ hlow).1, (hbytes _ _ hlow).2]

/-- Four numbers in a row. -/
theorem take_drop_range {count k : Nat} (h : k + 4 ≤ count) :
    ((List.range count).drop k).take 4 = [k, k + 1, k + 2, k + 3] := by
  have hlength : count - k = count - k - 4 + 1 + 1 + 1 + 1 := by omega
  rw [List.range_eq_range', List.drop_range', hlength]
  simp [List.range'_succ]

/-- **What a station sends is received.** Of so many groups of a station's carousel, whose bytes
arrive in reads of any sizes, a new receiver gives every one, without a block out of turn, and keeps
nothing. In the group with a given number each slot carries its word, except that it is damaged if
its block is marked. Without damage any four groups in a row spell the name. -/
theorem station_is_received (count : Nat) (reads : List (List UInt8))
    (hreads : reads.flatten = ((ofStation s damageEvery).sendAll count).flatMap blocksBytes) :
    let sent := (ofStation s damageEvery).sendAll count
    let run := ({} : Receiver).receiveAll reads
    run.2.length = count ∧ run.1.assembler.counts.resyncs = 0 ∧
      run.1.framer.buffer = [] ∧ run.1.assembler.hasPart = false ∧
      (∀ k blocks, sent[k]? = some blocks → ∃ g, run.2[k]? = some g ∧
        g.slots.map Slot.number? = List.zipWith Block.legible? blocks (s.words k)) ∧
      (damageEvery = none ∨ damageEvery = some 0 → ∀ k, k + 4 ≤ count →
        spelled ((run.2.drop k).take 4) = s.nameOnAir.map Char.toNat) := by
  intro sent run
  obtain ⟨r, hbuffer, hexpected, hresyncs, hreceive⟩ :=
    (ofStation s damageEvery).receiveAll_sendAll count hreads
  have hrun : run = (r, _) := hreceive
  rw [hrun]
  refine ⟨by rw [List.length_map, List.length_range], hresyncs, hbuffer,
    GroupAssembler.hasPart_eq_false.2 hexpected, fun k blocks hk => ?_,
    fun hnone k hk => (spelled_of_segments (k := k) ?_).trans s.segments_name⟩
  · have hsent : sent = (List.range count).map _ := sendAll_eq ..
    rw [hsent, List.getElem?_map] at hk
    obtain ⟨i, hi, rfl⟩ := Option.map_eq_some_iff.1 hk
    obtain ⟨hcount, rfl⟩ := List.getElem?_eq_some_iff.1 hi
    rw [List.getElem?_map, hi, List.getElem_range]
    refine ⟨_, rfl, ?_⟩
    rw [← words_after s damageEvery]
    exact numbers_nextGroup _
  · rw [← List.map_drop, ← List.map_take, take_drop_range hk]
    simp only [List.map_cons, List.map_nil, List.filterMap_cons,
      segment?_after s damageEvery hnone, List.filterMap_nil]

/-- A name of three ASCII characters among others goes on the air with spaces behind it; the third
block of the first group is lost, and the cut inside the second block does no harm. -/
theorem station_is_received_cut_reads :
    ∃ s : Station, s.nameOnAir = ['F', 'I', 'P', ' ', ' ', ' ', ' ', ' '] ∧
      ∃ reads : List (List UInt8), reads.length = 2 ∧
        ∃ g, ((({} : Receiver).receiveAll reads).2)[0]? = some g ∧
          g.slots.map Slot.number? = [some 0xF205, some (15 * 32 + 8), none, some 0x4649] := by
  let s : Station := ⟨.lowest, 0xF205, "éFI中P", 15, 0⟩
  let sent := (ofStation s (some 3)).sendAll 1
  let reads : List (List UInt8) :=
    [(sent.flatMap blocksBytes).take 4, (sent.flatMap blocksBytes).drop 4]
  obtain ⟨-, -, -, -, hgroups, -⟩ := station_is_received s (some 3) 1 reads
    (by rw [List.flatten_cons, List.flatten_singleton, List.take_append_drop])
  obtain ⟨g, hg, hnumbers⟩ := hgroups 0 _ rfl
  exact ⟨s, by decide +kernel, reads, rfl, g, hg, hnumbers.trans (by decide +kernel)⟩

end GroupCarousel

end RadioData
