import RadioData.Proofs.Group.Assembly
/-!
# Groups in memory

A `GroupAssembler` knows its place by what it has collected. A `GroupBuffer` is an assembler as it
is laid out in memory: the number of the slot that comes next is kept apart from the slots that are
stored, and a whole group is copied over four slots that hold something else. Nothing in its type
makes the number and the slots agree, and the copy is refused if the lengths differ.

`Holds` says that a buffer holds what an assembler has collected, and every event keeps to that
(`Holds.handle`). So the number and the slots agree after any run, and no copy is refused. What an
assembler has collected comes from the latest blocks (`Supplied`), so a group holds nothing that its
own four blocks have not brought. `buffer_keeps_its_place` puts these together.
-/

namespace RadioData

open GroupAssembler (Event)

/-- Copies slots over those of a group, each over the one in its place. The copy is refused unless
there are as many. -/
def Group.overwrite (g : Group) (slots : List Slot) : Option Group :=
  if slots.length = g.slots.length then
    some ⟨slots.getD 0 g.a, slots.getD 1 g.b, slots.getD 2 g.c, slots.getD 3 g.d⟩
  else none

/-- Nothing is left of what was there before. -/
theorem Group.overwrite_slots (filler g : Group) : filler.overwrite g.slots = some g := rfl

/-- An assembler in memory. -/
structure GroupBuffer where
  /-- The number of the slot that comes next. -/
  next : Nat := 0
  /-- The slots that have been stored. -/
  stored : List Slot := []
  counts : ReceptionCounts := {}
  deriving DecidableEq, Repr

namespace GroupBuffer

/-- Whether part of a group has been stored. -/
def hasPart (r : GroupBuffer) : Bool := !r.stored.isEmpty

/-- Waits for the first slot again, with nothing stored. -/
def reset (r : GroupBuffer) : GroupBuffer := { r with next := 0, stored := [] }

/-- Takes one block, and gives nothing if a copy is refused. A whole group is copied over
`filler`. -/
def add (filler : Group) (r : GroupBuffer) (b : Block) : Option (GroupBuffer × Option Group) :=
  let seen := r.counts.seen
  if b.position.slot = some r.next then
    let taken := seen.taken b.quality
    let stored := r.stored ++ [b.content]
    if r.next = 3 then
      (filler.overwrite stored).map fun g =>
        ({ r.reset with counts := { taken with groups := taken.groups + 1 } }, some g)
    else some (⟨r.next + 1, stored, taken⟩, none)
  else some ({ r.reset with counts := { seen with resyncs := seen.resyncs + 1 } }, none)

/-- The buffer after one event, and the group that the event completed. -/
def handle (filler : Group) (r : GroupBuffer) : Event → Option (GroupBuffer × Option Group)
  | .block b => r.add filler b
  | .reset => some (r.reset, none)

/-- Takes events in order, and keeps the answer to each. -/
def handleAll (filler : Group) :
    GroupBuffer → List Event → Option (GroupBuffer × List (Option Group))
  | r, [] => some (r, [])
  | r, e :: events =>
    match r.handle filler e with
    | none => none
    | some (next, answer) =>
      (handleAll filler next events).map fun (last, answers) => (last, answer :: answers)

end GroupBuffer

/-! ## The buffer holds what is collected -/

/-- The buffer holds what the assembler has collected, and has counted the same. -/
structure GroupBuffer.Holds (r : GroupBuffer) (a : GroupAssembler) : Prop where
  next : r.next = a.expected
  stored : r.stored = a.collected.slots
  counts : r.counts = a.counts

namespace GroupBuffer.Holds

variable {r : GroupBuffer} {a : GroupAssembler}

/-- The number of the next slot is the number of the slots that are stored, and these are less than
a group. -/
theorem inStep (h : r.Holds a) : r.stored.length = r.next ∧ r.next ≤ 3 := by
  rw [h.next, h.stored]
  exact ⟨rfl, a.collected.expected_le⟩

theorem hasPart_eq (h : r.Holds a) : r.hasPart = a.hasPart := by
  rw [GroupBuffer.hasPart, h.stored, GroupAssembler.hasPart]
  cases a.collected <;> rfl

theorem reset (h : r.Holds a) : r.reset.Holds a.reset := ⟨rfl, rfl, h.counts⟩

/-- **A block is taken as the assembler takes it, and no copy is refused.** -/
theorem add (h : r.Holds a) (filler : Group) (b : Block) :
    ∃ next : GroupBuffer, r.add filler b = some (next, (a.add b).2) ∧ next.Holds (a.add b).1 := by
  rw [GroupBuffer.add, h.next, h.stored, h.counts]
  rcases GroupAssembler.add_cases a b with
    ⟨hslot, hadd⟩ | ⟨hslot, hlt, p, hp, hadd⟩ | ⟨hslot, hthree, g, hg, hadd⟩
  · rw [if_neg hslot, hadd]
    exact ⟨_, rfl, rfl, rfl, rfl⟩
  · rw [if_pos hslot, if_neg (Nat.ne_of_lt hlt), hadd, ← hp]
    have hexpected : a.expected + 1 = p.expected := by
      rw [PartialGroup.expected, hp, List.length_append]
      rfl
    exact ⟨_, rfl, hexpected, rfl, rfl⟩
  · have hcopy : filler.overwrite (a.collected.slots ++ [b.content]) = some g := by
      rw [← hg]
      exact filler.overwrite_slots g
    have hgroups : (a.counts.seen.taken b.quality).groups = a.counts.groups :=
      ReceptionCounts.taken_groups _ _
    rw [if_pos hslot, if_pos hthree, hadd, hcopy, hgroups]
    exact ⟨_, rfl, rfl, rfl, rfl⟩

/-- **So is every event.** -/
theorem handle (h : r.Holds a) (filler : Group) (e : Event) :
    ∃ next : GroupBuffer, r.handle filler e = some (next, (a.handle e).2) ∧
      next.Holds (a.handle e).1 := by
  cases e with
  | block b => exact h.add filler b
  | reset => exact ⟨r.reset, rfl, h.reset⟩

/-- **And every run.** -/
theorem handleAll (h : r.Holds a) (filler : Group) (events : List Event) :
    ∃ last : GroupBuffer, r.handleAll filler events = some (last, (a.handleAll events).2) ∧
      last.Holds (a.handleAll events).1 := by
  induction events generalizing r a with
  | nil => exact ⟨r, rfl, h⟩
  | cons e events ih =>
    obtain ⟨next, hnext, hholds⟩ := h.handle filler e
    obtain ⟨last, hlast, hlastHolds⟩ := ih hholds
    refine ⟨last, ?_, hlastHolds⟩
    rw [GroupBuffer.handleAll, hnext]
    dsimp only
    rw [hlast, GroupAssembler.handleAll_cons]
    rfl

end GroupBuffer.Holds

/-! ## What is collected comes from the latest blocks -/

/-- One more block that fills the slot behind blocks in turn. -/
theorem InTurn.concat {place : Nat} {bs : List Block} {b : Block} (h : InTurn place bs)
    (hb : b.position.slot = some (place + bs.length)) : InTurn place (bs ++ [b]) := by
  induction bs generalizing place with
  | nil => exact ⟨hb, trivial⟩
  | cons c bs ih =>
    refine ⟨h.1, ih h.2 ?_⟩
    rw [hb, List.length_cons, Nat.add_right_comm, Nat.add_assoc]

namespace GroupAssembler

/-- The slots that have been collected are those that the latest blocks of a history bring, one for
each of them and in turn. -/
def Supplied (a : GroupAssembler) (history : List Event) : Prop :=
  ∃ (before : List Event) (latest : List Block), history = before ++ latest.map .block ∧
    InTurn 0 latest ∧ a.collected.slots = latest.map Block.content

/-- The latest four blocks of a history have brought the slots of a group. -/
def Brought (g : Group) (history : List Event) : Prop :=
  ∃ (before : List Event) (latest : AlignedGroup),
    history = before ++ latest.blocks.map .block ∧ g = latest.group

variable {a : GroupAssembler} {history : List Event}

/-- An assembler that has collected nothing has nothing to show for. -/
theorem supplied_of_empty (h : a.collected = .empty) : a.Supplied history := by
  refine ⟨history, [], (List.append_nil _).symm, trivial, ?_⟩
  rw [h]
  rfl

/-- A block is added to the latest ones, or starts them anew; if it completes a group, the latest
four blocks have brought it. -/
theorem Supplied.add (h : a.Supplied history) (b : Block) :
    (a.add b).1.Supplied (history ++ [.block b]) ∧
      ∀ g, (a.add b).2 = some g → Brought g (history ++ [.block b]) := by
  obtain ⟨before, latest, rfl, hturn, hslots⟩ := h
  have hconcat : before ++ latest.map .block ++ [.block b] =
      before ++ (latest ++ [b]).map .block := by
    rw [List.map_append, List.append_assoc]
    rfl
  have hlength : a.expected = latest.length := by
    rw [expected_of_slots hslots, List.length_map]
  -- In turn means behind the latest blocks, as these are as many as the slots collected.
  have hlatest : b.position.slot = some a.expected → InTurn 0 (latest ++ [b]) := by
    intro hslot
    refine hturn.concat ?_
    rw [hslot, hlength, Nat.zero_add]
  rcases add_cases a b with
    ⟨-, hadd⟩ | ⟨hslot, -, p, hp, hadd⟩ | ⟨hslot, hthree, g, hg, hadd⟩
  · rw [hadd]
    exact ⟨supplied_of_empty rfl, nofun⟩
  · rw [hadd]
    refine ⟨⟨before, latest ++ [b], hconcat, hlatest hslot, ?_⟩, nofun⟩
    rw [hp, hslots, List.map_append]
    rfl
  · rw [hadd]
    refine ⟨supplied_of_empty rfl, ?_⟩
    intro g' hg'
    cases hg'
    obtain ⟨b₀, b₁, b₂, rfl⟩ := List.length_eq_three.1 (hlength.symm.trans hthree)
    refine ⟨before, ⟨b₀, b₁, b₂, b, hlatest hslot⟩, hconcat, Group.slots_injective ?_⟩
    rw [hg, hslots]
    rfl

/-- The same for any event. -/
theorem Supplied.handle (h : a.Supplied history) (e : Event) :
    (a.handle e).1.Supplied (history ++ [e]) ∧
      ∀ g, (a.handle e).2 = some g → Brought g (history ++ [e]) := by
  cases e with
  | block b => exact h.add b
  | reset => exact ⟨supplied_of_empty rfl, nofun⟩

/-- **Every group of a run has been brought by the four blocks up to its answer.** -/
theorem Supplied.brought (h : a.Supplied history) (events : List Event) {k : Nat} {g : Group}
    (hanswer : (a.handleAll events).2[k]? = some (some g)) :
    Brought g (history ++ events.take (k + 1)) := by
  induction events generalizing a history k with
  | nil => cases hanswer
  | cons e events ih =>
    obtain ⟨hnext, hfirst⟩ := h.handle e
    rw [handleAll_cons] at hanswer
    cases k with
    | zero => exact hfirst g (Option.some.inj hanswer)
    | succ k =>
      rw [List.take_succ_cons, List.append_cons]
      exact ih hnext hanswer

end GroupAssembler

namespace GroupBuffer

/-- **A buffer keeps its place.** Whatever blocks and resets come, a new buffer takes them without a
copy being refused, and answers as a new assembler does. The number of the next slot is then the
number of the slots that are stored, which is three at most, and part of a group is stored exactly
if the first slot is not the next one; both, and all that has been counted, are what they are for
the assembler. Whatever the slots of a group held before the copy, they are those that its own four
blocks have brought, the latest of which it answers. -/
theorem buffer_keeps_its_place (filler : Group) (events : List Event) :
    let run := GroupAssembler.handleAll {} events
    ∃ last : GroupBuffer, handleAll filler {} events = some (last, run.2) ∧
      last.stored.length = last.next ∧ last.next ≤ 3 ∧
      (last.hasPart = true ↔ last.next ≠ 0) ∧
      (last.next = run.1.expected ∧ last.stored = run.1.collected.slots ∧
        last.hasPart = run.1.hasPart ∧ last.counts = run.1.counts) ∧
      ∀ k g, run.2[k]? = some (some g) → GroupAssembler.Brought g (events.take (k + 1)) := by
  intro run
  have hstart : Holds {} {} := ⟨rfl, rfl, rfl⟩
  obtain ⟨last, hrun, hlast⟩ := hstart.handleAll filler events
  obtain ⟨hlength, hle⟩ := hlast.inStep
  refine ⟨last, hrun, hlength, hle, ?_, ⟨hlast.next, hlast.stored, hlast.hasPart_eq, hlast.counts⟩,
    ?_⟩
  · rw [← hlength, hasPart]
    simp
  · intro k g hanswer
    have hnew : GroupAssembler.Supplied {} [] := GroupAssembler.supplied_of_empty rfl
    exact hnew.brought events hanswer

/-- An early first block and a reset in the middle of a group, then a group with two damaged slots,
copied over a group of words. -/
theorem buffer_keeps_its_place_after_reset :
    let events : List Event :=
      [.block ⟨0, 0, 0x00⟩, .block ⟨0, 0, 0x00⟩, .block ⟨0, 0, 0x00⟩, .block ⟨0, 0, 0x01⟩, .reset,
        .block ⟨0x34, 0x12, 0x00⟩, .block ⟨0, 0, 0x41⟩, .block ⟨0xCD, 0xAB, 0x04⟩,
        .block ⟨0, 0, 0x83⟩]
    let g : Group := ⟨.word 0x1234, .damaged, .word 0xABCD, .damaged⟩
    (GroupAssembler.handleAll {} events).2[8]? = some (some g) ∧
      GroupAssembler.Brought g (events.take 9) ∧
      ∃ last, handleAll ⟨.word 1, .word 2, .word 3, .word 4⟩ {} events =
        some (last, (GroupAssembler.handleAll {} events).2) := by
  intro events g
  obtain ⟨last, hrun, -, -, -, -, hbrought⟩ :=
    buffer_keeps_its_place ⟨.word 1, .word 2, .word 3, .word 4⟩ events
  have hanswer : (GroupAssembler.handleAll {} events).2[8]? = some (some g) := by decide +kernel
  exact ⟨hanswer, hbrought 8 g hanswer, last, hrun⟩

end GroupBuffer

end RadioData
