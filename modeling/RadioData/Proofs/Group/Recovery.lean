import RadioData.Proofs.Group.Assembly
/-!
# Getting back in step

A `GroupAssembler` that has lost its place does not take the first block of a group as a new start,
so it throws all four blocks of that group away (`addAll_aligned_of_part`). Then it stands at a
start, and from there it loses nothing (`addAll_aligned_groups`). `loses_at_most_one_group` puts the
two together: whatever came before, aligned groups are all given back except for the first one, and
that one only if part of another group had been collected.
-/

namespace RadioData

namespace GroupAssembler

/-- After a block out of turn the assembler stands at a start, and has counted it. -/
theorem add_start {a : GroupAssembler} {b : Block} (h : b.position.slot ≠ some a.expected) :
    ∃ next : GroupAssembler, next.expected = 0 ∧
      next.counts.resyncs = a.counts.resyncs + 1 ∧ a.add b = (next, none) :=
  ⟨_, rfl, rfl, add_of_outOfTurn h⟩

/-- A block that fills one slot does not fill another. -/
theorem slot_ne {b : Block} {place expected : Nat} (h : b.position.slot = some place)
    (hne : place ≠ expected) : b.position.slot ≠ some expected := by
  rw [h]
  exact fun e => hne (Option.some.inj e)

/-- An assembler that has part of a group throws a whole aligned group away: its first block does
not go on with the part, and the others start none. -/
theorem addAll_aligned_of_part {a : GroupAssembler} (hpart : a.expected ≠ 0) (g : AlignedGroup) :
    ∃ next : GroupAssembler, next.expected = 0 ∧
      next.counts.resyncs = a.counts.resyncs + 4 ∧ a.addAll g.blocks = (next, []) := by
  obtain ⟨hA, hB, hC, hD, -⟩ := g.inTurn
  obtain ⟨a₁, hstart₁, hcount₁, hadd₁⟩ := add_start (slot_ne hA hpart.symm)
  obtain ⟨a₂, hstart₂, hcount₂, hadd₂⟩ := add_start (a := a₁) (slot_ne hB (by omega))
  obtain ⟨a₃, hstart₃, hcount₃, hadd₃⟩ := add_start (a := a₂) (slot_ne hC (by omega))
  obtain ⟨a₄, hstart₄, hcount₄, hadd₄⟩ := add_start (a := a₃) (slot_ne hD (by omega))
  refine ⟨a₄, hstart₄, by omega, ?_⟩
  simp only [AlignedGroup.blocks, addAll, hadd₁, hadd₂, hadd₃, hadd₄]
  rfl

/-- From a start, an aligned group is given back. -/
theorem addAll_aligned {a : GroupAssembler} (hstart : a.expected = 0) (g : AlignedGroup) :
    ∃ next : GroupAssembler, next.expected = 0 ∧ next.counts.resyncs = a.counts.resyncs ∧
      a.addAll g.blocks = (next, [g.group]) := by
  obtain ⟨next, hempty, hcount, hrun⟩ := handleAll_aligned hstart g
  refine ⟨next, PartialGroup.expected_eq_zero.2 hempty, hcount, ?_⟩
  rw [addAll_eq_handleAll, hrun]
  rfl

/-- **From a start, aligned groups are all given back**, and none of their blocks is out of turn. -/
theorem addAll_aligned_groups {a : GroupAssembler} (hstart : a.expected = 0)
    (gs : List AlignedGroup) :
    ∃ next : GroupAssembler, next.expected = 0 ∧ next.counts.resyncs = a.counts.resyncs ∧
      a.addAll (gs.flatMap AlignedGroup.blocks) = (next, gs.map AlignedGroup.group) := by
  induction gs generalizing a with
  | nil => exact ⟨a, hstart, rfl, rfl⟩
  | cons g gs ih =>
    obtain ⟨a₁, hstart₁, hcount₁, hadd₁⟩ := addAll_aligned hstart g
    obtain ⟨a₂, hstart₂, hcount₂, hadd₂⟩ := ih hstart₁
    refine ⟨a₂, hstart₂, hcount₂.trans hcount₁, ?_⟩
    rw [List.flatMap_cons, addAll_append, hadd₁, hadd₂]
    rfl

/-- **At most one group is lost.** After any history of blocks and resets, one or more aligned
groups are all given back if the assembler stood at a start, without a block out of turn; otherwise
the first of them is lost, with four blocks out of turn, and all the others are given back. Either
way the assembler stands at a start again and has collected nothing. -/
theorem loses_at_most_one_group (history : List Event) (g : AlignedGroup)
    (gs : List AlignedGroup) :
    let before := (handleAll {} history).1
    let run := before.addAll ((g :: gs).flatMap AlignedGroup.blocks)
    run.2 = (if before.expected = 0 then g :: gs else gs).map AlignedGroup.group ∧
      run.1.counts.resyncs =
        before.counts.resyncs + (if before.expected = 0 then 0 else 4) ∧
      run.1.expected = 0 ∧ run.1.hasPart = false := by
  intro before run
  by_cases hstart : before.expected = 0
  · obtain ⟨next, hnext, hcount, hadd⟩ := addAll_aligned_groups hstart (g :: gs)
    have hrun : run = (next, (g :: gs).map AlignedGroup.group) := hadd
    rw [hrun, if_pos hstart, if_pos hstart]
    exact ⟨rfl, hcount, hnext, hasPart_eq_false.2 hnext⟩
  · obtain ⟨a₁, hstart₁, hcount₁, hadd₁⟩ := addAll_aligned_of_part hstart g
    obtain ⟨next, hnext, hcount, hadd⟩ := addAll_aligned_groups hstart₁ gs
    have hrun : run = (next, gs.map AlignedGroup.group) := by
      show before.addAll ((g :: gs).flatMap AlignedGroup.blocks) = _
      rw [List.flatMap_cons, addAll_append, hadd₁, hadd]
      rfl
    rw [hrun, if_neg hstart, if_neg hstart]
    exact ⟨rfl, hcount.trans hcount₁, hnext, hasPart_eq_false.2 hnext⟩

/-- After a lone first block, of two aligned groups with damaged slots the second is given back. -/
theorem loses_at_most_one_group_after_lone_block :
    ∃ g : AlignedGroup, g.group = ⟨.word 0x1234, .damaged, .word 0xABCD, .damaged⟩ ∧
      ((handleAll {} [.block ⟨0, 0, 0⟩]).1.addAll
        ([g, g].flatMap AlignedGroup.blocks)).2 = [g.group] ∧
      ((handleAll {} [.block ⟨0, 0, 0⟩]).1.addAll
        ([g, g].flatMap AlignedGroup.blocks)).1.counts.resyncs = 4 := by
  let g : AlignedGroup :=
    ⟨⟨0x34, 0x12, 0x00⟩, ⟨0, 0, 0x41⟩, ⟨0xCD, 0xAB, 0x04⟩, ⟨0, 0, 0x83⟩,
      by decide, by decide, by decide, by decide, trivial⟩
  have hpart : (handleAll {} [.block ⟨0, 0, 0⟩]).1.expected ≠ 0 := by decide +kernel
  have hcount : (handleAll {} [.block ⟨0, 0, 0⟩]).1.counts.resyncs = 0 := by decide +kernel
  obtain ⟨hgroups, hresyncs, -⟩ := loses_at_most_one_group [.block ⟨0, 0, 0⟩] g [g]
  refine ⟨g, by decide +kernel, hgroups.trans ?_, hresyncs.trans ?_⟩
  · rw [if_neg hpart, List.map_singleton]
  · rw [if_neg hpart, hcount]

end GroupAssembler

end RadioData
