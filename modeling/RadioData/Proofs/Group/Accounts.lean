import Mathlib.Algebra.GroupWithZero.Nat
import RadioData.Proofs.Group.Assembly
/-!
# What the counts account for

A block that comes in turn brings a slot, and every slot ends up in one of three places: in a group,
among the slots that a block out of turn or a reset throws away, or among those that are still
collected. `Accounted` says this of a run, together with what is counted; a single event has one
case for each thing that it can be (`accounted_single`), and runs are put together from events
(`Accounted.cons`). `counts_account_for_blocks` draws the balance: the counts tell the number of
blocks up to those that were thrown away, and they tell the damage in the groups up to the damaged
slots that were thrown away or are still collected.
-/

namespace RadioData

namespace GroupAssembler

/-! ## What events do to blocks and slots -/

/-- Whether an event is a block. -/
def Event.isBlock : Event → Bool
  | .block _ => true
  | .reset => false

/-- The block that an event brings, if it is in turn. -/
def taken (a : GroupAssembler) : Event → List Block
  | .block b => if b.position.slot = some a.expected then [b] else []
  | .reset => []

/-- The slots that an event throws away: all that have been collected, if it is a block out of turn
or a reset. -/
def discarded (a : GroupAssembler) : Event → List Slot
  | .block b => if b.position.slot = some a.expected then [] else a.collected.slots
  | .reset => a.collected.slots

/-- What the events of a run contribute, each at the assembler that it finds. -/
def along {α : Type} (part : GroupAssembler → Event → List α) :
    GroupAssembler → List Event → List α
  | _, [] => []
  | a, e :: events => part a e ++ along part (a.handle e).1 events

/-- The blocks of a run that are in turn. -/
def takenIn (a : GroupAssembler) (events : List Event) : List Block := along taken a events

/-- The slots that are thrown away in a run. -/
def discardedIn (a : GroupAssembler) (events : List Event) : List Slot := along discarded a events

/-- The groups that are completed in a run. -/
def groupsIn (a : GroupAssembler) (events : List Event) : List Group :=
  (a.handleAll events).2.reduceOption

/-- The assembler after a run. -/
def afterAll (a : GroupAssembler) (events : List Event) : GroupAssembler := (a.handleAll events).1

section run

variable (a : GroupAssembler) (e : Event) (events : List Event)

theorem afterAll_cons : a.afterAll (e :: events) = (a.handle e).1.afterAll events := rfl

theorem takenIn_cons :
    a.takenIn (e :: events) = a.taken e ++ (a.handle e).1.takenIn events := rfl

theorem discardedIn_cons :
    a.discardedIn (e :: events) = a.discarded e ++ (a.handle e).1.discardedIn events := rfl

theorem groupsIn_cons :
    a.groupsIn (e :: events) = (a.handle e).2.toList ++ (a.handle e).1.groupsIn events := by
  rw [groupsIn, handleAll_cons]
  cases (a.handle e).2 <;> rfl

end run

/-! ## The account of a run -/

/-- How the counts and the slots at the end of a run come about. -/
structure Accounted (a : GroupAssembler) (events : List Event) : Prop where
  /-- Every block is counted. -/
  blocks : (a.afterAll events).counts.blocks = a.counts.blocks + events.countP Event.isBlock
  /-- So is every group. -/
  groups : (a.afterAll events).counts.groups = a.counts.groups + (a.groupsIn events).length
  /-- The blocks that are not in turn are those counted as such. -/
  resyncs : (a.afterAll events).counts.resyncs + (a.takenIn events).length =
    a.counts.resyncs + events.countP Event.isBlock
  /-- The others are counted if error correction had changed them. -/
  corrected : (a.afterAll events).counts.corrected =
    a.counts.corrected + (a.takenIn events).countP (·.quality = .corrected)
  /-- They are counted as well if they were beyond correction. -/
  uncorrectable : (a.afterAll events).counts.uncorrectable =
    a.counts.uncorrectable + (a.takenIn events).countP (·.quality = .uncorrectable)
  /-- The slots that were collected and those that are brought are in the groups, thrown away or
  still collected. -/
  slots : (a.collected.slots ++ (a.takenIn events).map Block.content).Perm
    ((a.groupsIn events).flatMap Group.slots ++ a.discardedIn events ++
      (a.afterAll events).collected.slots)
  /-- A block out of turn throws three slots away at most, and so does a reset. -/
  bounded : (a.discardedIn events).length + 3 * a.counts.resyncs ≤
    3 * ((a.afterAll events).counts.resyncs + events.count .reset)

/-! ## One event -/

variable {a : GroupAssembler} {b : Block}

theorem accounted_nil (a : GroupAssembler) : Accounted a [] where
  blocks := rfl
  groups := rfl
  resyncs := rfl
  corrected := rfl
  uncorrectable := rfl
  slots := by
    show (a.collected.slots ++ []).Perm a.collected.slots
    rw [List.append_nil]
  bounded := by
    show 0 + 3 * a.counts.resyncs ≤ 3 * (a.counts.resyncs + 0)
    omega

/-- A block out of turn throws away what has been collected. -/
theorem accounted_of_outOfTurn (h : b.position.slot ≠ some a.expected) :
    Accounted a [.block b] := by
  have htaken : a.takenIn [.block b] = [] := by
    rw [takenIn_cons, taken, if_neg h]
    rfl
  have hdiscarded : a.discardedIn [.block b] = a.collected.slots := by
    rw [discardedIn_cons, discarded, if_neg h]
    exact List.append_nil _
  have hgroups : a.groupsIn [.block b] = [] := by
    rw [groupsIn_cons, handle, add_of_outOfTurn h]
    rfl
  have hafter : a.afterAll [.block b] =
      ⟨.empty, { a.counts.seen with resyncs := a.counts.resyncs + 1 }⟩ := by
    rw [afterAll_cons, handle, add_of_outOfTurn h]
    rfl
  have hlength : a.collected.slots.length ≤ 3 := a.collected.expected_le
  constructor <;> simp only [hafter, htaken, hgroups, hdiscarded]
  case bounded =>
    show a.collected.slots.length + 3 * a.counts.resyncs ≤ 3 * (a.counts.resyncs + 1 + 0)
    omega
  all_goals rfl

/-- A block in turn brings its slot to those that are collected. If they are a whole group then,
they leave as one. -/
theorem exists_add_of_inTurn (h : b.position.slot = some a.expected) :
    ∃ (p : PartialGroup) (answer : Option Group),
      a.collected.slots ++ [b.content] = answer.toList.flatMap Group.slots ++ p.slots ∧
        a.add b =
          (⟨p, { a.counts.seen.taken b.quality with
            groups := a.counts.groups + answer.toList.length }⟩, answer) := by
  rcases add_cases a b with ⟨hslot, -⟩ | ⟨-, -, p, hp, hadd⟩ | ⟨-, -, g, hg, hadd⟩
  · exact absurd h hslot
  · refine ⟨p, none, hp.symm, ?_⟩
    have hgroups : (a.counts.seen.taken b.quality).groups = a.counts.groups :=
      ReceptionCounts.taken_groups _ _
    rw [hadd, Option.toList_none, List.length_nil, Nat.add_zero, ← hgroups]
  · refine ⟨.empty, some g, ?_, hadd⟩
    rw [← hg]
    exact (List.append_nil _).symm

/-- A block in turn throws nothing away, and is counted by its quality. -/
theorem accounted_of_inTurn (h : b.position.slot = some a.expected) :
    Accounted a [.block b] := by
  obtain ⟨p, answer, hslots, hadd⟩ := exists_add_of_inTurn h
  have htaken : a.takenIn [.block b] = [b] := by
    rw [takenIn_cons, taken, if_pos h]
    rfl
  have hdiscarded : a.discardedIn [.block b] = [] := by
    rw [discardedIn_cons, discarded, if_pos h]
    rfl
  have hgroups : a.groupsIn [.block b] = answer.toList := by
    rw [groupsIn_cons, handle, hadd]
    exact List.append_nil _
  have hafter : a.afterAll [.block b] =
      ⟨p, { a.counts.seen.taken b.quality with
        groups := a.counts.groups + answer.toList.length }⟩ := by
    rw [afterAll_cons, handle, hadd]
    rfl
  constructor <;> simp only [hafter, htaken, hgroups, hdiscarded]
  case blocks => exact ReceptionCounts.taken_blocks _ _
  case resyncs =>
    rw [ReceptionCounts.taken_resyncs]
    rfl
  case corrected => cases hquality : b.quality <;> simp [hquality] <;> rfl
  case uncorrectable => cases hquality : b.quality <;> simp [hquality] <;> rfl
  case slots =>
    rw [List.append_nil, ← hslots]
    rfl
  case bounded =>
    rw [ReceptionCounts.taken_resyncs]
    show 0 + 3 * a.counts.resyncs ≤ 3 * (a.counts.resyncs + 0)
    omega

/-- A reset throws away what has been collected, and counts nothing. -/
theorem accounted_reset (a : GroupAssembler) : Accounted a [.reset] where
  blocks := rfl
  groups := rfl
  resyncs := rfl
  corrected := rfl
  uncorrectable := rfl
  slots := by
    have hdiscarded : a.discardedIn [.reset] = a.collected.slots := List.append_nil _
    rw [hdiscarded]
    rfl
  bounded := by
    have hdiscarded : a.discardedIn [.reset] = a.collected.slots := List.append_nil _
    have hlength : a.collected.slots.length ≤ 3 := a.collected.expected_le
    rw [hdiscarded]
    show a.collected.slots.length + 3 * a.counts.resyncs ≤ 3 * (a.counts.resyncs + 1)
    omega

/-- **Every single event is accounted for.** -/
theorem accounted_single (a : GroupAssembler) (e : Event) : Accounted a [e] := by
  cases e with
  | block b =>
    by_cases h : b.position.slot = some a.expected
    · exact accounted_of_inTurn h
    · exact accounted_of_outOfTurn h
  | reset => exact accounted_reset a

/-! ## Runs -/

/-- Events that come behind an event go on with its account. -/
theorem Accounted.cons {e : Event} {events : List Event} (he : Accounted a [e])
    (hevents : Accounted (a.handle e).1 events) : Accounted a (e :: events) := by
  have hfirst : a.afterAll [e] = (a.handle e).1 := rfl
  have htaken : a.takenIn (e :: events) = a.takenIn [e] ++ (a.handle e).1.takenIn events := by
    simp only [takenIn, along, List.append_nil]
  have hdiscarded :
      a.discardedIn (e :: events) = a.discardedIn [e] ++ (a.handle e).1.discardedIn events := by
    simp only [discardedIn, along, List.append_nil]
  have hgroups :
      a.groupsIn (e :: events) = a.groupsIn [e] ++ (a.handle e).1.groupsIn events := by
    rw [groupsIn_cons, groupsIn_cons]
    exact congrArg (· ++ _) (List.append_nil _).symm
  have hsplit : e :: events = [e] ++ events := rfl
  constructor <;> simp only [afterAll_cons, htaken, hdiscarded, hgroups]
  case blocks =>
    rw [hevents.blocks, ← hfirst, he.blocks, hsplit, List.countP_append, Nat.add_assoc]
  case groups =>
    rw [hevents.groups, ← hfirst, he.groups, List.length_append, Nat.add_assoc]
  case resyncs =>
    have hlater := hevents.resyncs
    have hnow := he.resyncs
    rw [hfirst] at hnow
    rw [hsplit, List.countP_append, List.length_append]
    omega
  case corrected =>
    rw [hevents.corrected, ← hfirst, he.corrected, List.countP_append, Nat.add_assoc]
  case uncorrectable =>
    rw [hevents.uncorrectable, ← hfirst, he.uncorrectable, List.countP_append, Nat.add_assoc]
  case slots =>
    -- Both permutations are read as an equation for each slot, so that they add up.
    rw [List.perm_iff_count]
    intro s
    have hnow := he.slots.count_eq s
    have hlater := hevents.slots.count_eq s
    rw [hfirst] at hnow
    simp only [List.map_append, List.flatMap_append, List.count_append] at hnow hlater ⊢
    omega
  case bounded =>
    have hnow := he.bounded
    have hlater := hevents.bounded
    rw [hfirst] at hnow
    rw [hsplit, List.count_append, List.length_append]
    omega

/-- **Every run is accounted for.** -/
theorem accounted (a : GroupAssembler) (events : List Event) : Accounted a events := by
  induction events generalizing a with
  | nil => exact accounted_nil a
  | cons e events ih => exact (accounted_single a e).cons (ih (a.handle e).1)

end GroupAssembler

/-! ## The balance -/

/-- The slots of groups are four for each. -/
theorem Group.length_flatMap_slots (groups : List Group) :
    (groups.flatMap Group.slots).length = 4 * groups.length := by
  induction groups with
  | nil => rfl
  | cons g groups ih =>
    rw [List.flatMap_cons, List.length_append, ih, List.length_cons]
    show 4 + 4 * groups.length = 4 * (groups.length + 1)
    omega

/-- The damaged slots of groups are those of each of them. -/
theorem Group.count_flatMap_slots (groups : List Group) :
    (groups.flatMap Group.slots).count .damaged = (groups.map Group.damagedCount).sum :=
  List.count_flatMap

/-- A block brings damage unless it is clean. -/
theorem Block.content_eq_damaged {b : Block} : b.content = .damaged ↔ b.quality ≠ .clean := by
  rw [Block.content]
  cases b.quality <;> simp

/-- The damage that blocks bring. -/
theorem Block.count_map_content (bs : List Block) :
    (bs.map Block.content).count .damaged = bs.countP (·.quality ≠ .clean) := by
  rw [List.count, List.countP_map]
  refine List.countP_congr fun b _ => ?_
  simp [Block.content_eq_damaged]

/-- Blocks that are not clean are either corrected or beyond correction. -/
theorem Block.countP_not_clean (bs : List Block) :
    bs.countP (·.quality ≠ .clean) =
      bs.countP (·.quality = .corrected) + bs.countP (·.quality = .uncorrectable) := by
  induction bs with
  | nil => rfl
  | cons b bs ih =>
    rw [List.countP_cons, List.countP_cons, List.countP_cons, ih]
    cases b.quality <;> simp <;> omega

namespace GroupAssembler

/-- **The counts account for every block.** After any blocks and resets a new assembler has counted
all blocks, all groups, and as resyncs the blocks that were not in turn. A block makes up a quarter
of a group, or is out of turn, or is still collected, or was thrown away, of which there are three
for each block out of turn and each reset at most. The blocks counted as corrected or uncorrectable
are those in turn that were not clean: no more than the blocks in turn, and no less than the damaged
slots of all groups. They are as many as these if and only if no damaged slot was thrown away and
none is still collected. -/
theorem counts_account_for_blocks (events : List Event) :
    let n := (afterAll {} events).counts
    let expected := (afterAll {} events).expected
    let groups := groupsIn {} events
    let taken := takenIn {} events
    n.blocks = events.countP Event.isBlock ∧
      n.groups = groups.length ∧
      n.blocks = taken.length + n.resyncs ∧
      4 * n.groups + n.resyncs + expected ≤ n.blocks ∧
      n.blocks ≤ 4 * n.groups + 4 * n.resyncs + 3 * events.count .reset + expected ∧
      n.corrected + n.uncorrectable = taken.countP (·.quality ≠ .clean) ∧
      n.corrected + n.uncorrectable ≤ n.blocks - n.resyncs ∧
      (groups.map Group.damagedCount).sum ≤ n.corrected + n.uncorrectable ∧
      (n.corrected + n.uncorrectable = (groups.map Group.damagedCount).sum ↔
        .damaged ∉ discardedIn {} events ∧ .damaged ∉ (afterAll {} events).collected.slots) := by
  intro n expected groups taken
  have h := accounted {} events
  have hblocks : n.blocks = events.countP Event.isBlock := h.blocks.trans (Nat.zero_add _)
  have hgroups : n.groups = groups.length := h.groups.trans (Nat.zero_add _)
  have hresyncs : n.resyncs + taken.length = events.countP Event.isBlock :=
    h.resyncs.trans (Nat.zero_add _)
  have hbounded : (discardedIn {} events).length ≤ 3 * (n.resyncs + events.count .reset) :=
    h.bounded
  have hcorrected : n.corrected = taken.countP (·.quality = .corrected) :=
    h.corrected.trans (Nat.zero_add _)
  have huncorrectable : n.uncorrectable = taken.countP (·.quality = .uncorrectable) :=
    h.uncorrectable.trans (Nat.zero_add _)
  have hflawed : n.corrected + n.uncorrectable = taken.countP (·.quality ≠ .clean) := by
    rw [hcorrected, huncorrectable, Block.countP_not_clean]
  have hslots : (taken.map Block.content).Perm (groups.flatMap Group.slots ++
      discardedIn {} events ++ (afterAll {} events).collected.slots) := h.slots
  have hlength : taken.length = 4 * groups.length + (discardedIn {} events).length + expected := by
    have := hslots.length_eq
    rwa [List.length_map, List.length_append, List.length_append,
      Group.length_flatMap_slots] at this
  have hdamage : n.corrected + n.uncorrectable = (groups.map Group.damagedCount).sum +
      (discardedIn {} events).count .damaged +
        (afterAll {} events).collected.slots.count .damaged := by
    have := hslots.count_eq .damaged
    rwa [Block.count_map_content, List.count_append, List.count_append,
      Group.count_flatMap_slots, ← hflawed] at this
  have hle : taken.countP (·.quality ≠ .clean) ≤ taken.length := List.countP_le_length
  refine ⟨hblocks, hgroups, by omega, by omega, by omega, hflawed, by omega, by omega, ?_⟩
  rw [← List.count_eq_zero, ← List.count_eq_zero]
  omega

end GroupAssembler

end RadioData
