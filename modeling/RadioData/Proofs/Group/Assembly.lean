import Mathlib.Data.List.ReduceOption
import RadioData.Group
/-!
# Assembling blocks

What a `GroupAssembler` does with one block depends on whether the block is in turn and whether it
is the fourth: a block out of turn throws away what has been collected (`add_of_outOfTurn`), one of
the first three adds its slot (`add_of_inTurn`), the fourth completes the group (`add_of_fourth`),
and there is nothing else that it can do (`add_cases`). No other module needs to look into
`GroupAssembler.add`.

`handleAll` is a run over blocks and resets that keeps the answer to each of them. From a start,
blocks in turn are collected without an answer (`handleAll_inTurn`), and an aligned group is given
back by its fourth block (`handleAll_aligned`).
-/

namespace RadioData

/-- A group has four slots. -/
theorem BlockPosition.slot_lt {p : BlockPosition} {place : Nat} (h : p.slot = some place) :
    place < 4 := by
  cases p with
  | invalid code => cases h
  | a | b | c | cPrime | d => cases h; decide

/-- A group is its slots. -/
theorem Group.slots_injective {g h : Group} (e : g.slots = h.slots) : g = h := by
  cases g
  cases h
  simpa [Group.slots] using e

namespace PartialGroup

/-- Nothing is collected exactly when the first slot is waited for. -/
theorem expected_eq_zero {p : PartialGroup} : p.expected = 0 ↔ p = .empty := by
  cases p <;> simp [expected, slots]

/-- At most three slots are collected. -/
theorem expected_le (p : PartialGroup) : p.expected ≤ 3 := by
  cases p <;> simp [expected, slots]

/-- One of the first three slots makes the part longer. -/
theorem add_of_lt {p : PartialGroup} (h : p.expected < 3) (s : Slot) :
    ∃ q : PartialGroup, q.slots = p.slots ++ [s] ∧ p.add s = (q, none) := by
  cases p with
  | empty => exact ⟨_, rfl, rfl⟩
  | one a => exact ⟨_, rfl, rfl⟩
  | two a b => exact ⟨_, rfl, rfl⟩
  | three a b c => exact absurd h (Nat.lt_irrefl 3)

/-- The fourth slot makes a group. -/
theorem add_of_three {p : PartialGroup} (h : p.expected = 3) (s : Slot) :
    ∃ g : Group, g.slots = p.slots ++ [s] ∧ p.add s = (.empty, some g) := by
  cases p with
  | three a b c => exact ⟨_, rfl, rfl⟩
  | empty | one a | two a b => cases h

end PartialGroup

namespace ReceptionCounts

@[simp] theorem taken_blocks (n : ReceptionCounts) (q : BlockQuality) :
    (n.taken q).blocks = n.blocks := by cases q <;> rfl

@[simp] theorem taken_groups (n : ReceptionCounts) (q : BlockQuality) :
    (n.taken q).groups = n.groups := by cases q <;> rfl

@[simp] theorem taken_resyncs (n : ReceptionCounts) (q : BlockQuality) :
    (n.taken q).resyncs = n.resyncs := by cases q <;> rfl

/-- The counts after one more block of any kind. -/
def seen (n : ReceptionCounts) : ReceptionCounts := { n with blocks := n.blocks + 1 }

@[simp] theorem seen_resyncs (n : ReceptionCounts) : n.seen.resyncs = n.resyncs := rfl

end ReceptionCounts

namespace GroupAssembler

variable {a : GroupAssembler} {b : Block}

/-! ## One block -/

/-- A block out of turn throws away what has been collected, itself included. -/
theorem add_of_outOfTurn (h : b.position.slot ≠ some a.expected) :
    a.add b =
      (⟨.empty, { a.counts.seen with resyncs := a.counts.resyncs + 1 }⟩, none) := by
  rw [add, if_neg h]
  rfl

/-- One of the first three blocks in turn adds its slot to those collected. -/
theorem add_of_inTurn (h : b.position.slot = some a.expected) (hlt : a.expected < 3) :
    ∃ p : PartialGroup, p.slots = a.collected.slots ++ [b.content] ∧
      a.add b = (⟨p, a.counts.seen.taken b.quality⟩, none) := by
  obtain ⟨p, hp, hadd⟩ := PartialGroup.add_of_lt hlt b.content
  refine ⟨p, hp, ?_⟩
  rw [add, if_pos h, hadd]
  rfl

/-- The fourth block in turn completes the group. -/
theorem add_of_fourth (h : b.position.slot = some a.expected) (hthree : a.expected = 3) :
    ∃ g : Group, g.slots = a.collected.slots ++ [b.content] ∧
      a.add b =
        (⟨.empty, { a.counts.seen.taken b.quality with groups := a.counts.groups + 1 }⟩,
          some g) := by
  obtain ⟨g, hg, hadd⟩ := PartialGroup.add_of_three hthree b.content
  refine ⟨g, hg, ?_⟩
  rw [add, if_pos h, hadd]
  simp [ReceptionCounts.seen]

/-- These are all the things that a block can do. -/
theorem add_cases (a : GroupAssembler) (b : Block) :
    (b.position.slot ≠ some a.expected ∧
      a.add b =
        (⟨.empty, { a.counts.seen with resyncs := a.counts.resyncs + 1 }⟩, none)) ∨
    (b.position.slot = some a.expected ∧ a.expected < 3 ∧
      ∃ p : PartialGroup, p.slots = a.collected.slots ++ [b.content] ∧
        a.add b = (⟨p, a.counts.seen.taken b.quality⟩, none)) ∨
    (b.position.slot = some a.expected ∧ a.expected = 3 ∧
      ∃ g : Group, g.slots = a.collected.slots ++ [b.content] ∧
        a.add b =
          (⟨.empty, { a.counts.seen.taken b.quality with groups := a.counts.groups + 1 }⟩,
            some g)) := by
  by_cases h : b.position.slot = some a.expected
  · have hle : a.expected ≤ 3 := a.collected.expected_le
    rcases Nat.lt_or_eq_of_le hle with hlt | hthree
    · exact .inr (.inl ⟨h, hlt, add_of_inTurn h hlt⟩)
    · exact .inr (.inr ⟨h, hthree, add_of_fourth h hthree⟩)
  · exact .inl ⟨h, add_of_outOfTurn h⟩

/-- Of a block nothing but its slot, its quality and what it brings is looked at. -/
theorem add_congr {c : Block} (hslot : b.position.slot = c.position.slot)
    (hquality : b.quality = c.quality) (hcontent : b.content = c.content) :
    a.add b = a.add c := by
  rw [add, add, hslot, hquality, hcontent]

/-- Part of a group has been collected exactly when another slot than the first is waited for. -/
theorem hasPart_eq_false : a.hasPart = false ↔ a.expected = 0 := by
  rw [expected, PartialGroup.expected_eq_zero, hasPart]
  exact decide_eq_false_iff_not.trans Decidable.not_not

/-! ## Runs -/

theorem addAll_cons (a : GroupAssembler) (b : Block) (bs : List Block) :
    a.addAll (b :: bs) =
      (((a.add b).1.addAll bs).1, (a.add b).2.toList ++ ((a.add b).1.addAll bs).2) := rfl

theorem addAll_append (a : GroupAssembler) (xs ys : List Block) :
    a.addAll (xs ++ ys) =
      (((a.addAll xs).1.addAll ys).1, (a.addAll xs).2 ++ ((a.addAll xs).1.addAll ys).2) := by
  induction xs generalizing a with
  | nil => rfl
  | cons b xs ih =>
    rw [List.cons_append, addAll_cons, addAll_cons, ih, List.append_assoc]

/-- Takes events in order, and keeps the answer to each. -/
def handleAll : GroupAssembler → List Event → GroupAssembler × List (Option Group)
  | a, [] => (a, [])
  | a, e :: events =>
    let (next, answer) := a.handle e
    let (last, answers) := handleAll next events
    (last, answer :: answers)

theorem handleAll_cons (a : GroupAssembler) (e : Event) (events : List Event) :
    a.handleAll (e :: events) =
      (((a.handle e).1.handleAll events).1,
        (a.handle e).2 :: ((a.handle e).1.handleAll events).2) := rfl

theorem handleAll_append (a : GroupAssembler) (xs ys : List Event) :
    a.handleAll (xs ++ ys) =
      (((a.handleAll xs).1.handleAll ys).1,
        (a.handleAll xs).2 ++ ((a.handleAll xs).1.handleAll ys).2) := by
  induction xs generalizing a with
  | nil => rfl
  | cons e xs ih => rw [List.cons_append, handleAll_cons, handleAll_cons, ih]; rfl

/-- The groups of a run over blocks are the answers that hold one. -/
theorem addAll_eq_handleAll (a : GroupAssembler) (bs : List Block) :
    a.addAll bs =
      ((a.handleAll (bs.map .block)).1, (a.handleAll (bs.map .block)).2.reduceOption) := by
  induction bs generalizing a with
  | nil => rfl
  | cons b bs ih =>
    rw [addAll_cons, ih, List.map_cons, handleAll_cons]
    dsimp only [handle]
    cases (a.add b).2 <;> rfl

end GroupAssembler

/-! ## Blocks in turn -/

/-- Blocks that fill the slots from a place on, one after the other. -/
def InTurn : Nat → List Block → Prop
  | _, [] => True
  | place, b :: bs => b.position.slot = some place ∧ InTurn (place + 1) bs

/-- Blocks in turn are no more than the slots that are left. -/
theorem InTurn.length_le {place : Nat} {bs : List Block} (h : InTurn place bs)
    (hplace : place ≤ 4) : place + bs.length ≤ 4 := by
  induction bs generalizing place with
  | nil => exact hplace
  | cons b bs ih =>
    have hlt := BlockPosition.slot_lt h.1
    have := ih h.2 hlt
    rw [List.length_cons]
    omega

/-- Four blocks that fill the four slots of a group in order. -/
structure AlignedGroup where
  a : Block
  b : Block
  c : Block
  d : Block
  inTurn : InTurn 0 [a, b, c, d]

namespace AlignedGroup

/-- The blocks in order. -/
def blocks (g : AlignedGroup) : List Block := [g.a, g.b, g.c, g.d]

/-- What the blocks bring to their slots. -/
def group (g : AlignedGroup) : Group := ⟨g.a.content, g.b.content, g.c.content, g.d.content⟩

end AlignedGroup

namespace GroupAssembler

/-- Blocks in turn that leave the group unfinished are collected without an answer. -/
theorem handleAll_inTurn {a : GroupAssembler} {bs : List Block} (h : InTurn a.expected bs)
    (hlen : a.expected + bs.length ≤ 3) :
    ∃ next : GroupAssembler, next.collected.slots = a.collected.slots ++ bs.map Block.content ∧
      next.counts.resyncs = a.counts.resyncs ∧
      a.handleAll (bs.map .block) = (next, bs.map fun _ => none) := by
  induction bs generalizing a with
  | nil => exact ⟨a, (List.append_nil _).symm, rfl, rfl⟩
  | cons b bs ih =>
    obtain ⟨hb, hbs⟩ := h
    rw [List.length_cons] at hlen
    obtain ⟨p, hp, hadd⟩ := add_of_inTurn hb (by omega)
    have hexpected : expected ⟨p, a.counts.seen.taken b.quality⟩ = a.expected + 1 := by
      rw [expected, PartialGroup.expected, hp, List.length_append]
      rfl
    obtain ⟨next, hslots, hresyncs, hrun⟩ := ih (hexpected ▸ hbs) (by omega)
    refine ⟨next, ?_, ?_, ?_⟩
    · rw [hslots, hp, List.map_cons, List.append_assoc, List.singleton_append]
    · rw [hresyncs, ReceptionCounts.taken_resyncs, ReceptionCounts.seen_resyncs]
    · rw [List.map_cons, handleAll_cons, handle, hadd, hrun, List.map_cons]

/-- An assembler waits for the slot behind those that it has collected. -/
theorem expected_of_slots {a : GroupAssembler} {slots : List Slot} (h : a.collected.slots = slots) :
    a.expected = slots.length := by
  rw [expected, PartialGroup.expected, h]

/-- An assembler at a start has collected nothing. -/
theorem slots_of_start {a : GroupAssembler} (hstart : a.expected = 0) : a.collected.slots = [] :=
  List.length_eq_zero_iff.1 hstart

/-- From a start an aligned group is given back by its fourth block. -/
theorem handleAll_aligned {a : GroupAssembler} (hstart : a.expected = 0) (g : AlignedGroup) :
    ∃ next : GroupAssembler, next.collected = .empty ∧
      next.counts.resyncs = a.counts.resyncs ∧
      a.handleAll (g.blocks.map .block) = (next, [none, none, none, some g.group]) := by
  obtain ⟨hA, hB, hC, hD, -⟩ := g.inTurn
  have hfirst : InTurn a.expected [g.a, g.b, g.c] := hstart ▸ ⟨hA, hB, hC, trivial⟩
  obtain ⟨next, hslots, hresyncs, hrun⟩ := handleAll_inTurn hfirst (by simp [hstart])
  rw [slots_of_start hstart, List.nil_append] at hslots
  have hthree : next.expected = 3 := expected_of_slots hslots
  obtain ⟨h, hh, hadd⟩ := add_of_fourth (hD.trans (congrArg some hthree.symm)) hthree
  have hgroup : h = g.group := Group.slots_injective (by rw [hh, hslots]; rfl)
  have hblocks : g.blocks.map Event.block = [g.a, g.b, g.c].map .block ++ [.block g.d] := rfl
  refine ⟨⟨.empty, { next.counts.seen.taken g.d.quality with
    groups := next.counts.groups + 1 }⟩, rfl, ?_, ?_⟩
  · rw [← hresyncs]
    exact ReceptionCounts.taken_resyncs _ _
  · rw [hblocks, handleAll_append, hrun, handleAll_cons, handle, hadd, hgroup]
    rfl

end GroupAssembler

end RadioData
