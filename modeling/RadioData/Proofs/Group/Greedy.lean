import RadioData.Proofs.Group.Assembly
/-!
# Reading groups with a look ahead

`Greedy.read` is a second way to find the groups in a stretch of blocks, which has all of the
stretch before it: at a start it counts how many of the next blocks fill the slots 0, 1, 2, 3. Four
of them are a group, and the next start is behind them. If fewer do, they are lost together with the
block after them, and the next start is behind that block.

`assembles_greedily` is the main statement: a `GroupAssembler`, which sees one block at a time and
keeps no block back, gives exactly the groups that the reader finds between two resets, each of them
in answer to its fourth block.
-/

namespace RadioData

open GroupAssembler (Event)

namespace Greedy

/-- How many blocks, from the first on, fill the slots from a place on one after the other. -/
def matched : Nat → List Block → Nat
  | _, [] => 0
  | place, b :: bs => if b.position.slot = some place then matched (place + 1) bs + 1 else 0

/-- What a block brings to a group: its payload if it is clean, nothing otherwise. -/
def slotOf (b : Block) : Slot := if b.quality = .clean then .word b.payload else .damaged

/-- What the reader does with the blocks from one start to the next. -/
inductive Stride where
  /-- Four blocks fill the slots of a group. -/
  | whole (a b c d : Block)
  /-- Fewer blocks do, and the one behind them does not go on. -/
  | broken (inTurn : List Block) (out : Block)
  deriving DecidableEq, Repr

namespace Stride

/-- The blocks of a stride, in order. -/
def blocks : Stride → List Block
  | .whole a b c d => [a, b, c, d]
  | .broken inTurn out => inTurn ++ [out]

/-- The group of a stride, if it has one. -/
def group? : Stride → Option Group
  | .whole a b c d => some ⟨slotOf a, slotOf b, slotOf c, slotOf d⟩
  | .broken _ _ => none

/-- What is to be answered to each block of a stride: the group to its fourth block, and nothing
else. -/
def answers (s : Stride) : List (Option Group) :=
  match s.group? with
  | some g => [none, none, none, some g]
  | none => s.blocks.map fun _ => none

end Stride

/-- What the reader makes of a stretch of blocks. -/
structure Reading where
  strides : List Stride
  /-- The blocks at the last start that fill the first slots, with none behind them so far. -/
  pending : List Block
  deriving DecidableEq, Repr

namespace Reading

/-- The groups that have been found. -/
def groups (r : Reading) : List Group := r.strides.filterMap Stride.group?

/-- What is to be answered to each block of the stretch. -/
def answers (r : Reading) : List (Option Group) :=
  r.strides.flatMap Stride.answers ++ r.pending.map fun _ => none

/-- The reading of a stretch that starts with one more stride. -/
def behind (r : Reading) (s : Stride) : Reading := { r with strides := s :: r.strides }

theorem answers_behind (r : Reading) (s : Stride) :
    (r.behind s).answers = s.answers ++ r.answers := by
  rw [answers, behind, List.flatMap_cons, List.append_assoc]
  rfl

end Reading

theorem eq_append_of_splitAt {count : Nat} {stretch front rest : List Block}
    (h : stretch.splitAt count = (front, rest)) : stretch = front ++ rest := by
  rw [List.splitAt_eq] at h
  cases h
  exact (List.take_append_drop count stretch).symm

/-- Reads a stretch of blocks from a start on. -/
def read (stretch : List Block) : Reading :=
  match _h : stretch.splitAt (matched 0 stretch) with
  | ([a, b, c, d], rest) => (read rest).behind (.whole a b c d)
  | (inTurn, []) => { strides := [], pending := inTurn }
  | (inTurn, out :: rest) => (read rest).behind (.broken inTurn out)
termination_by stretch.length
decreasing_by
  all_goals
    rw [eq_append_of_splitAt _h, List.length_append, List.length_cons]
    omega

/-! ## The strides of a stretch -/

/-- The blocks that are matched are in turn. -/
theorem inTurn_take_matched (place : Nat) (stretch : List Block) :
    InTurn place (stretch.take (matched place stretch)) := by
  fun_induction matched place stretch with
  | case1 place => trivial
  | case2 place b bs hb ih => exact ⟨hb, ih⟩
  | case3 place b bs hb => trivial

/-- The block behind those that are matched does not go on. -/
theorem slot_ne_of_drop_matched {place : Nat} {stretch rest : List Block} {out : Block}
    (h : stretch.drop (matched place stretch) = out :: rest) :
    out.position.slot ≠ some (place + matched place stretch) := by
  fun_induction matched place stretch with
  | case1 place => cases h
  | case2 place b bs hb ih =>
    rw [List.drop_succ_cons] at h
    have := ih h
    rwa [Nat.add_right_comm, Nat.add_assoc] at this
  | case3 place b bs hb =>
    cases h
    exact hb

/-- What the reader knows about the blocks that it has matched: they are in turn, and if there are
fewer than four and a block behind them, then that one does not go on. -/
theorem of_splitAt_matched {stretch inTurn rest : List Block}
    (h : stretch.splitAt (matched 0 stretch) = (inTurn, rest)) :
    InTurn 0 inTurn ∧ ∀ out later, rest = out :: later →
      out.position.slot ≠ some inTurn.length := by
  have hsplit := h
  rw [List.splitAt_eq] at hsplit
  obtain ⟨hfront, hrest⟩ := Prod.mk.inj hsplit
  refine ⟨hfront ▸ inTurn_take_matched 0 stretch, ?_⟩
  rintro out later rfl
  have hne := slot_ne_of_drop_matched hrest
  have hlen : inTurn.length = matched 0 stretch := by
    have := congrArg List.length hrest
    rw [List.length_drop, List.length_cons] at this
    rw [← hfront, List.length_take]
    omega
  rwa [hlen, ← Nat.zero_add (matched 0 stretch)]

/-- Blocks in turn that are no whole group are fewer than four. -/
theorem length_le_of_inTurn {bs : List Block} (h : InTurn 0 bs)
    (hfour : ∀ a b c d, bs ≠ [a, b, c, d]) : bs.length ≤ 3 := by
  have hle := h.length_le (Nat.zero_le 4)
  rw [Nat.zero_add] at hle
  refine Nat.le_of_lt_succ (Nat.lt_of_le_of_ne hle fun heq => ?_)
  obtain ⟨a, b, c, d, rfl⟩ := List.length_eq_four.1 heq
  exact hfour a b c d rfl

/-- The reader takes each block of the stretch once, and in order. -/
theorem blocks_read (stretch : List Block) :
    (read stretch).strides.flatMap Stride.blocks ++ (read stretch).pending = stretch := by
  fun_induction read stretch with
  | case1 stretch a b c d rest h ih =>
    rw [eq_append_of_splitAt h, Reading.behind, List.flatMap_cons, List.append_assoc, ih]
    rfl
  | case2 stretch inTurn hfour h =>
    rw [eq_append_of_splitAt h, List.append_nil]
    rfl
  | case3 stretch inTurn out rest hfour h ih =>
    rw [eq_append_of_splitAt h, Reading.behind, List.flatMap_cons, List.append_assoc, ih,
      Stride.blocks, List.append_assoc, List.singleton_append]

/-- The groups that are found are the answers that hold one. -/
theorem reduceOption_answers (r : Reading) : r.answers.reduceOption = r.groups := by
  obtain ⟨strides, pending⟩ := r
  have hpending : (pending.map fun _ => (none : Option Group)).reduceOption = [] := by
    rw [List.map_const', List.reduceOption_replicate_none]
  induction strides with
  | nil => exact hpending
  | cons s strides ih =>
    have hbehind : Reading.mk (s :: strides) pending = (Reading.mk strides pending).behind s := rfl
    rw [hbehind, Reading.answers_behind, List.reduceOption_append, ih]
    cases s with
    | whole a b c d => rfl
    | broken inTurn out =>
      rw [Stride.answers, Stride.group?, List.map_const', List.reduceOption_replicate_none]
      rfl

/-! ## The assembler reads greedily -/

theorem slotOf_eq_content (b : Block) : slotOf b = b.content := by
  rw [slotOf, Block.content]
  cases b.quality <;> rfl

end Greedy

namespace GroupAssembler

open Greedy

/-- From a start, fewer than four blocks in turn are kept without an answer. -/
theorem handleAll_pending {a : GroupAssembler} (hstart : a.expected = 0) {bs : List Block}
    (h : InTurn 0 bs) (hlen : bs.length ≤ 3) :
    ∃ next : GroupAssembler, next.expected = bs.length ∧
      a.handleAll (bs.map .block) = (next, bs.map fun _ => none) := by
  obtain ⟨next, hslots, -, hrun⟩ := handleAll_inTurn (hstart ▸ h) (by omega)
  rw [slots_of_start hstart, List.nil_append] at hslots
  exact ⟨next, (expected_of_slots hslots).trans (List.length_map _), hrun⟩

/-- **From a start, an assembler answers to a stretch of blocks as the reader says**, and waits for
the slot behind the blocks that are pending. -/
theorem handleAll_read {a : GroupAssembler} (hstart : a.expected = 0) (stretch : List Block) :
    (a.handleAll (stretch.map .block)).2 = (read stretch).answers ∧
      (a.handleAll (stretch.map .block)).1.expected = (read stretch).pending.length := by
  fun_induction read stretch generalizing a with
  | case1 stretch b₀ b₁ b₂ b₃ rest h ih =>
    let g : AlignedGroup := ⟨b₀, b₁, b₂, b₃, (of_splitAt_matched h).1⟩
    obtain ⟨next, hempty, -, hrun⟩ := handleAll_aligned hstart g
    obtain ⟨hanswers, hexpected⟩ := ih (PartialGroup.expected_eq_zero.2 hempty)
    have hblocks : stretch.map Event.block = g.blocks.map .block ++ rest.map .block := by
      rw [eq_append_of_splitAt h, List.map_append]
      rfl
    have hgroup : Stride.group? (.whole b₀ b₁ b₂ b₃) = some g.group := by
      simp only [Stride.group?, slotOf_eq_content]
      rfl
    rw [hblocks, handleAll_append, hrun, Reading.answers_behind, Stride.answers, hgroup, hanswers]
    exact ⟨rfl, hexpected⟩
  | case2 stretch inTurn hfour h =>
    have hinTurn := (of_splitAt_matched h).1
    obtain ⟨next, hexpected, hrun⟩ :=
      handleAll_pending hstart hinTurn (length_le_of_inTurn hinTurn hfour)
    rw [eq_append_of_splitAt h, List.append_nil, hrun]
    exact ⟨rfl, hexpected⟩
  | case3 stretch inTurn out rest hfour h ih =>
    obtain ⟨hinTurn, hout⟩ := of_splitAt_matched h
    obtain ⟨next, hexpected, hrun⟩ :=
      handleAll_pending hstart hinTurn (length_le_of_inTurn hinTurn hfour)
    have hadd := add_of_outOfTurn (hexpected ▸ hout out rest rfl)
    obtain ⟨hanswers, hlast⟩ := ih (a := (next.add out).1) (by rw [hadd]; rfl)
    rw [eq_append_of_splitAt h, List.map_append, handleAll_append, hrun, List.map_cons,
      handleAll_cons, handle, hanswers, hadd, Reading.answers_behind]
    refine ⟨?_, hadd ▸ hlast⟩
    simp [Stride.answers, Stride.group?, Stride.blocks]

/-! ## Resets -/

/-- The stretches of blocks that resets leave: the one before the first reset, and one behind each
of them. -/
def stretches : List Event → List (List Block)
  | [] => [[]]
  | .block b :: events => (stretches events).modifyHead (b :: ·)
  | .reset :: events => [] :: stretches events

/-- Events are their stretches with a reset between any two. -/
theorem exists_stretches (events : List Event) :
    ∃ first others, stretches events = first :: others ∧
      events = first.map .block ++ others.flatMap fun s => .reset :: s.map .block := by
  induction events with
  | nil => exact ⟨[], [], rfl, rfl⟩
  | cons e events ih =>
    obtain ⟨first, others, hstretches, hevents⟩ := ih
    cases e with
    | block b =>
      refine ⟨b :: first, others, ?_, ?_⟩
      · rw [stretches, hstretches]
        rfl
      · conv => lhs; rw [hevents]
        rfl
    | reset =>
      refine ⟨[], first :: others, ?_, ?_⟩
      · rw [stretches, hstretches]
      · conv => lhs; rw [hevents]
        rfl

/-- From a start, an assembler answers to each stretch as the reader says. -/
theorem handleAll_stretches {a : GroupAssembler} (hstart : a.expected = 0) (first : List Block)
    (others : List (List Block)) :
    let run := a.handleAll (first.map .block ++ others.flatMap fun s => .reset :: s.map .block)
    run.2 = (read first).answers ++ others.flatMap (fun s => none :: (read s).answers) ∧
      run.1.expected = (read ((first :: others).getLastD [])).pending.length := by
  dsimp only
  induction others generalizing a first with
  | nil =>
    rw [List.flatMap_nil, List.flatMap_nil, List.append_nil, List.append_nil]
    exact handleAll_read hstart first
  | cons s others ih =>
    obtain ⟨hanswers, -⟩ := handleAll_read hstart first
    obtain ⟨hothers, hlast⟩ := ih (a := (a.handleAll (first.map .block)).1.reset) rfl s
    rw [List.flatMap_cons, handleAll_append, List.cons_append, handleAll_cons, handle, hanswers,
      hothers]
    exact ⟨rfl, hlast⟩

/-- The groups of the stretches behind resets are the answers to them that hold one. -/
theorem reduceOption_flatMap_answers (others : List (List Block)) :
    (others.flatMap fun s => none :: (read s).answers).reduceOption =
      others.flatMap fun s => (read s).groups := by
  induction others with
  | nil => rfl
  | cons s others ih =>
    rw [List.flatMap_cons, List.reduceOption_append, List.reduceOption_cons_of_none,
      reduceOption_answers, ih, List.flatMap_cons]

theorem intercalate_cons {α : Type} (sep first : List α) (others : List (List α)) :
    sep.intercalate (first :: others) = first ++ others.flatMap (sep ++ ·) := by
  induction others generalizing first with
  | nil => simp
  | cons other others ih => simp [ih]

/-- **An assembler reads greedily.** Whatever blocks and resets come, the groups that a new
assembler gives are, in order, those that the reader finds in each stretch of blocks between two
resets. Each of them is the answer to its fourth block, and no other block and no reset is answered
with a group. At the end the assembler waits for the slot behind the blocks that are pending in the
last stretch. The reader takes the blocks of each stretch one after the other and leaves none
out. -/
theorem assembles_greedily (events : List Event) :
    let run := handleAll {} events
    run.2.reduceOption = (stretches events).flatMap (fun s => (read s).groups) ∧
      run.2 = [none].intercalate ((stretches events).map fun s => (read s).answers) ∧
      run.1.expected = (read ((stretches events).getLastD [])).pending.length ∧
      ∀ s ∈ stretches events, (read s).strides.flatMap Stride.blocks ++ (read s).pending = s := by
  intro run
  obtain ⟨first, others, hstretches, hevents⟩ := exists_stretches events
  have hrun := handleAll_stretches (a := {}) rfl first others
  rw [← hevents] at hrun
  obtain ⟨hanswers, hexpected⟩ := hrun
  rw [hstretches]
  refine ⟨?_, ?_, hexpected, fun s _ => blocks_read s⟩
  · rw [hanswers, List.reduceOption_append, reduceOption_answers, reduceOption_flatMap_answers]
    rfl
  · rw [hanswers, List.map_cons, intercalate_cons, List.flatMap_map]
    rfl

/-- A first block that comes too early is no new start: with it the whole group that it begins is
lost, and only the group behind the reset is found. -/
theorem assembles_greedily_after_early_start :
    ∃ lost ∈ stretches
        ([⟨0, 0, 0x00⟩, ⟨0, 0, 0x00⟩, ⟨0, 0, 0x01⟩, ⟨0, 0, 0x02⟩, ⟨0, 0, 0x03⟩].map .block ++
          .reset :: [⟨0x34, 0x12, 0x00⟩, ⟨0, 0, 0x41⟩, ⟨0xCD, 0xAB, 0x04⟩,
            ⟨0, 0, 0x83⟩].map .block),
      (read lost).strides.flatMap Stride.blocks ++ (read lost).pending = lost ∧
        (read lost).groups = [] ∧
        (handleAll {}
          ([⟨0, 0, 0x00⟩, ⟨0, 0, 0x00⟩, ⟨0, 0, 0x01⟩, ⟨0, 0, 0x02⟩, ⟨0, 0, 0x03⟩].map .block ++
            .reset :: [⟨0x34, 0x12, 0x00⟩, ⟨0, 0, 0x41⟩, ⟨0xCD, 0xAB, 0x04⟩,
              ⟨0, 0, 0x83⟩].map .block)).2.reduceOption =
          [⟨.word 0x1234, .damaged, .word 0xABCD, .damaged⟩] := by
  let early : List Block :=
    [⟨0, 0, 0x00⟩, ⟨0, 0, 0x00⟩, ⟨0, 0, 0x01⟩, ⟨0, 0, 0x02⟩, ⟨0, 0, 0x03⟩]
  let behind : List Block :=
    [⟨0x34, 0x12, 0x00⟩, ⟨0, 0, 0x41⟩, ⟨0xCD, 0xAB, 0x04⟩, ⟨0, 0, 0x83⟩]
  have hearly : early ∈ stretches (early.map .block ++ .reset :: behind.map .block) := by decide
  obtain ⟨hgroups, -, -, hblocks⟩ :=
    assembles_greedily (early.map .block ++ .reset :: behind.map .block)
  refine ⟨early, hearly, hblocks early hearly, by decide +kernel, hgroups.trans ?_⟩
  decide +kernel

end GroupAssembler

end RadioData
