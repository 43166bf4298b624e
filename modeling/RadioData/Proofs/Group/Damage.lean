import RadioData.Proofs.Group.Accounts
import RadioData.Proofs.Group.OnAir
/-!
# Which blocks a carousel damages

A carousel that damages every n-th block numbers its blocks in 32 bits, so after 2³² blocks it is
back at number 0, which is a multiple of everything. `qualities_ofStation` says which of its blocks
are damaged, by their true numbers, and `damage_received` how many damaged slots a receiver gets of
so many groups. Up to the first wrap every n-th block is damaged and no other. Beyond it the damage
keeps its period exactly when n divides 2³² (`damage_keeps_period_iff`).
-/

namespace RadioData

/-! ## Multiples among remainders -/

/-- How many of the first numbers leave a remainder that is a multiple: some in each full round, and
some in the round under way. -/
theorem countP_dvd_mod {round : Nat} (hround : 0 < round) (n count : Nat) :
    (List.range' 1 count).countP (fun k => n ∣ k % round) =
      count / round * ((round - 1) / n + 1) + count % round / n := by
  induction count with
  | zero => simp
  | succ count ih =>
    have hbefore := Nat.div_add_mod count round
    have hafter := Nat.div_add_mod (count + 1) round
    rw [List.range'_1_concat, List.countP_append, ih, List.countP_singleton, Nat.add_comm 1 count]
    by_cases hfull : round ∣ count + 1
    · -- the last number ends a round, and its remainder 0 is a multiple of everything
      have hzero : (count + 1) % round = 0 := Nat.mod_eq_zero_of_dvd hfull
      rw [Nat.succ_div_of_dvd hfull, Nat.mul_add, hzero] at hafter
      have hend : count % round = round - 1 := by omega
      rw [Nat.succ_div_of_dvd hfull, hzero, hend, Nat.add_mul]
      simp
      omega
    · rw [Nat.succ_div_of_not_dvd hfull] at hafter ⊢
      have hnext : (count + 1) % round = count % round + 1 := by omega
      rw [hnext, Nat.succ_div, Nat.add_assoc]
      simp

/-- Where the rounds themselves are multiples, so are the numbers with such remainders. -/
theorem rounds_eq_div {round n : Nat} (hround : 0 < round) (hdvd : n ∣ round) (count : Nat) :
    count / round * ((round - 1) / n + 1) + count % round / n = count / n := by
  obtain ⟨m, rfl⟩ := hdvd
  have hn : 0 < n := Nat.pos_of_mul_pos_right hround
  have hround : (n * m - 1) / n + 1 = m := by
    have hlast := Nat.succ_div (a := n * m - 1) (b := n)
    rw [Nat.sub_add_cancel hround, Nat.mul_div_cancel_left _ hn,
      if_pos (Nat.dvd_mul_right n m)] at hlast
    exact hlast.symm
  have hcount : count = n * (m * (count / (n * m))) + count % (n * m) := by
    rw [← Nat.mul_assoc, Nat.div_add_mod]
  rw [hround, Nat.mul_comm]
  conv => rhs; rw [hcount, Nat.mul_add_div hn]

/-- A full round that holds as many such numbers as multiples is a multiple itself. -/
theorem dvd_of_rounds_eq_div {round n : Nat} (hround : 0 < round)
    (h : round / round * ((round - 1) / n + 1) + round % round / n = round / n) : n ∣ round := by
  obtain ⟨last, rfl⟩ := Nat.exists_eq_add_one.2 hround
  rw [Nat.div_self hround, Nat.mod_self, Nat.zero_div, Nat.add_sub_cancel, Nat.succ_div] at h
  by_contra hdvd
  rw [if_neg hdvd] at h
  omega

namespace GroupCarousel

/-! ## The blocks of a carousel -/

/-- The qualities of the blocks of so many groups. -/
def qualities (c : GroupCarousel) (count : Nat) : List BlockQuality :=
  (c.sendAll count).flatten.map Block.quality

/-- The four blocks of a group have the next four numbers. -/
theorem map_quality_sendBlocks (c : GroupCarousel) :
    c.sendBlocks.1.map Block.quality =
      [c.quality (c.sent + 1), c.quality (c.sent + 1 + 1), c.quality (c.sent + 1 + 1 + 1),
        c.quality (c.sent + 1 + 1 + 1 + 1)] := by
  simp only [sendBlocks, words, List.zip_cons_cons, List.zip_nil_right, blocksOf, List.map_cons,
    List.map_nil]
  rw [Block.quality_ofParts _ _ rfl, Block.quality_ofParts _ _ rfl, Block.quality_ofParts _ _ rfl,
    Block.quality_ofParts _ _ rfl]

/-- Every block has the quality of its number. -/
theorem qualities_eq (c : GroupCarousel) (count : Nat) :
    c.qualities count =
      (List.range' 1 (4 * count)).map fun k => c.quality (c.sent + UInt32.ofNat k) := by
  induction count generalizing c with
  | zero => rfl
  | succ count ih =>
    have hnumber (k : Nat) :
        c.sendBlocks.2.sent + UInt32.ofNat k = c.sent + UInt32.ofNat (4 + k) := by
      rw [UInt32.ofNat_add, ← UInt32.add_assoc]
      rfl
    have hlater : c.sendBlocks.2.qualities count =
        (List.range' 5 (4 * count)).map fun k => c.quality (c.sent + UInt32.ofNat k) := by
      have hrange : List.range' 5 (4 * count) = (List.range' 1 (4 * count)).map (4 + ·) :=
        (List.map_add_range' 1 (4 * count) 1).symm
      rw [ih, hrange, List.map_map]
      exact List.map_congr_left fun k _ => congrArg c.quality (hnumber k)
    have hfirst : c.qualities (count + 1) =
        c.sendBlocks.1.map Block.quality ++ c.sendBlocks.2.qualities count := by
      rw [qualities, sendAll, List.flatten_cons, List.map_append, qualities]
    have hrange : List.range' 1 (4 * (count + 1)) = [1, 2, 3, 4] ++ List.range' 5 (4 * count) := by
      rw [Nat.mul_add, Nat.add_comm, ← List.range'_append_1]
      rfl
    rw [hfirst, hlater, map_quality_sendBlocks, hrange, List.map_append]
    simp only [UInt32.add_assoc]
    rfl

variable (s : Station) {every : UInt32}

/-- The quality of a station's block, by its true number. -/
theorem quality_ofNat (h : every ≠ 0) (k : Nat) :
    (ofStation s (some every)).quality (UInt32.ofNat k) =
      if every.toNat ∣ k % 2 ^ 32 then .uncorrectable else .clean := by
  have hzero : UInt32.ofNat k % every = 0 ↔ every.toNat ∣ k % 2 ^ 32 := by
    rw [← UInt32.toNat_inj, UInt32.toNat_mod, UInt32.toNat_ofNat']
    exact Nat.dvd_iff_mod_eq_zero.symm
  rw [quality, ofStation]
  simp only [h, hzero, ne_eq, not_false_eq_true, true_and]

/-- Which of a station's blocks are damaged, by their true numbers. -/
theorem qualities_ofStation (h : every ≠ 0) (count : Nat) :
    (ofStation s (some every)).qualities count = (List.range' 1 (4 * count)).map fun k =>
      if every.toNat ∣ k % 2 ^ 32 then .uncorrectable else .clean := by
  rw [qualities_eq]
  refine List.map_congr_left fun k _ => ?_
  rw [← quality_ofNat s h]
  exact congrArg _ (UInt32.zero_add _)

/-! ## What a receiver gets of them -/

/-- The damaged slots of a received group are the blocks of the group that were not sent clean. -/
theorem damagedCount_nextGroup (c : GroupCarousel) :
    c.nextGroup.group.damagedCount = (c.sendBlocks.1.map Block.quality).countP (· ≠ .clean) := by
  rw [List.countP_map, ← blocks_nextGroup]
  exact Block.count_map_content c.nextGroup.blocks

/-- The damaged slots of all received groups are the blocks that were not sent clean. -/
theorem sum_damagedCount (c : GroupCarousel) (count : Nat) {reads : List (List UInt8)}
    (hreads : reads.flatten = (c.sendAll count).flatMap blocksBytes) :
    ((({} : Receiver).receiveAll reads).2.map Group.damagedCount).sum =
      (c.qualities count).countP (· ≠ .clean) := by
  obtain ⟨r, -, -, -, hreceive⟩ := c.receiveAll_sendAll count hreads
  rw [hreceive, qualities, sendAll_eq, List.map_map, List.map_flatten, List.countP_flatten,
    List.map_map, List.map_map]
  exact congrArg List.sum (List.map_congr_left fun k _ => damagedCount_nextGroup _)

/-- How many damaged slots a receiver gets of a station's groups. -/
theorem damage_received (h : every ≠ 0) (count : Nat) {reads : List (List UInt8)}
    (hreads : reads.flatten =
      ((ofStation s (some every)).sendAll count).flatMap blocksBytes) :
    ((({} : Receiver).receiveAll reads).2.map Group.damagedCount).sum =
      4 * count / 2 ^ 32 * ((2 ^ 32 - 1) / every.toNat + 1) +
        4 * count % 2 ^ 32 / every.toNat := by
  rw [sum_damagedCount _ _ hreads, qualities_ofStation s h, List.countP_map,
    ← countP_dvd_mod (by decide)]
  refine List.countP_congr fun k _ => ?_
  by_cases hk : every.toNat ∣ k % 2 ^ 32 <;> simp

/-- Multiples are told by their remainders if the round is a multiple itself. -/
theorem qualities_of_dvd (h : every ≠ 0) (hdvd : every.toNat ∣ 2 ^ 32) (count : Nat) :
    (ofStation s (some every)).qualities count = (List.range' 1 (4 * count)).map fun k =>
      if every.toNat ∣ k then .uncorrectable else .clean := by
  rw [qualities_ofStation s h]
  exact List.map_congr_left fun k _ => by simp only [Nat.dvd_mod_iff hdvd]

/-- The block with which the count is back at 0 is damaged. -/
theorem quality_at_wrap (h : every ≠ 0) :
    ((ofStation s (some every)).qualities (2 ^ 30))[2 ^ 32 - 1]? = some .uncorrectable := by
  rw [qualities_ofStation s h, List.getElem?_map, List.getElem?_range' (by decide)]
  exact congrArg some (if_pos (Nat.dvd_zero _))

/-- The block at which the count wraps is damaged in its turn only if n divides 2³². -/
theorem dvd_of_qualities (h : every ≠ 0)
    (hperiod : (ofStation s (some every)).qualities (2 ^ 30) =
      (List.range' 1 (4 * 2 ^ 30)).map fun k =>
        if every.toNat ∣ k then .uncorrectable else .clean) : every.toNat ∣ 2 ^ 32 := by
  have hwrap := quality_at_wrap s h
  rw [hperiod, List.getElem?_map, List.getElem?_range' (by decide)] at hwrap
  by_contra hdvd
  have hclean : BlockQuality.clean = .uncorrectable :=
    (if_neg hdvd).symm.trans (Option.some.inj hwrap)
  cases hclean

/-- **Damage keeps its period exactly when n divides 2³².** The block with number k, counted from 1
over all groups, is damaged if and only if n divides the remainder of k by 2³². A receiver gets all
groups, and the damaged slots in them are as many as there are such numbers; as long as there are
less than 2³² blocks, these are every n-th. So that every n-th block is damaged, and no other,
however long the carousel runs, is to say that n divides 2³², and so is that the first groups hold a
damaged slot for every n blocks. -/
theorem damage_keeps_period_iff (s : Station) {every : UInt32} (h : every ≠ 0) :
    let c := ofStation s (some every)
    let n := every.toNat
    let damaged (reads : List (List UInt8)) : Nat :=
      ((({} : Receiver).receiveAll reads).2.map Group.damagedCount).sum
    (∀ count, c.qualities count = (List.range' 1 (4 * count)).map fun k =>
      if n ∣ k % 2 ^ 32 then .uncorrectable else .clean) ∧
    (∀ count reads, reads.flatten = (c.sendAll count).flatMap blocksBytes →
      damaged reads =
        4 * count / 2 ^ 32 * ((2 ^ 32 - 1) / n + 1) + 4 * count % 2 ^ 32 / n) ∧
    ((∀ count, c.qualities count = (List.range' 1 (4 * count)).map fun k =>
      if n ∣ k then .uncorrectable else .clean) ↔ n ∣ 2 ^ 32) ∧
    ((∀ count reads, reads.flatten = (c.sendAll count).flatMap blocksBytes →
      damaged reads = 4 * count / n) ↔ n ∣ 2 ^ 32) := by
  intro c n damaged
  have hdamaged : ∀ count reads, reads.flatten = (c.sendAll count).flatMap blocksBytes →
      damaged reads = 4 * count / 2 ^ 32 * ((2 ^ 32 - 1) / n + 1) + 4 * count % 2 ^ 32 / n :=
    fun count reads hreads => damage_received s h count hreads
  refine ⟨qualities_ofStation s h, hdamaged, ⟨fun hperiod => dvd_of_qualities s h (hperiod _),
    qualities_of_dvd s h⟩, fun htotal => ?_, fun hdvd count reads hreads => ?_⟩
  · have hread : [(c.sendAll (2 ^ 30)).flatMap blocksBytes].flatten =
        (c.sendAll (2 ^ 30)).flatMap blocksBytes := List.flatten_singleton
    refine dvd_of_rounds_eq_div (by decide) ?_
    exact (hdamaged _ _ hread).symm.trans (htotal _ _ hread)
  · rw [hdamaged count reads hreads, rounds_eq_div (by decide) hdvd]

/-- Two groups of which every third block is damaged, in two reads. -/
theorem damage_keeps_period_iff_third :
    let c := ofStation ⟨.lowest, 0xF205, "FIP", 15, 0⟩ (some 3)
    let bytes := (c.sendAll 2).flatMap blocksBytes
    (3 : UInt32) ≠ 0 ∧ [bytes.take 7, bytes.drop 7].flatten = bytes ∧
      ((({} : Receiver).receiveAll [bytes.take 7, bytes.drop 7]).2.map Group.damagedCount).sum =
        2 := by
  intro c bytes
  have hbytes : [bytes.take 7, bytes.drop 7].flatten = bytes := by
    rw [List.flatten_cons, List.flatten_singleton, List.take_append_drop]
  exact ⟨by decide, hbytes,
    (damage_keeps_period_iff ⟨.lowest, 0xF205, "FIP", 15, 0⟩ (by decide)).2.1 2 _ hbytes⟩

/-- Every third block is damaged until the count wraps, and the block after that is damaged too
early. -/
theorem damage_loses_period :
    ¬ ∀ (s : Station) (every : UInt32), every ≠ 0 → ∀ count,
      (ofStation s (some every)).qualities count = (List.range' 1 (4 * count)).map fun k =>
        if every.toNat ∣ k then .uncorrectable else .clean := by
  intro h
  have hdvd : (3 : UInt32).toNat ∣ 2 ^ 32 :=
    dvd_of_qualities ⟨.lowest, 0xF205, "FIP", 15, 0⟩ (by decide) (h _ 3 (by decide) _)
  revert hdvd
  decide

end GroupCarousel

end RadioData
