import RadioData.Block
import RadioData.Text
/-!
# Groups, and how blocks make them up

A group is four slots, each a 16-bit word or the mark of a block that could not be received cleanly.
Clients see a group as one line of four tokens: four upper-case hexadecimal digits, or four dashes
for a damaged slot, each token followed by a space, the last one too.

`GroupAssembler` collects blocks until it has one for each of the four slots in order. A block that
is out of turn is thrown away together with what had been collected, and collecting starts over with
the block after it: a first block that comes too early is not taken as a new start. The slots
collected so far are all that the assembler remembers of the stream, so their number is the slot
that it waits for.
-/

namespace RadioData

/-! ## Groups as text -/

/-- One slot of a group: a word, or nothing where the block was damaged. -/
inductive Slot where
  | word (w : UInt16)
  | damaged
  deriving DecidableEq, Repr

namespace Slot

/-- The word, if there is one. -/
def word? : Slot → Option UInt16
  | .word w => some w
  | .damaged => none

/-- The four characters that stand for the slot in a group line. -/
def token : Slot → List Char
  | .word w =>
    [Text.upperHexDigit (w.toNat / 4096), Text.upperHexDigit (w.toNat / 256 % 16),
      Text.upperHexDigit (w.toNat / 16 % 16), Text.upperHexDigit (w.toNat % 16)]
  | .damaged => ['-', '-', '-', '-']

end Slot

/-- A group: its four slots in order. -/
structure Group where
  a : Slot
  b : Slot
  c : Slot
  d : Slot
  deriving DecidableEq, Repr

namespace Group

/-- The slots from first to last. -/
def slots (g : Group) : List Slot := [g.a, g.b, g.c, g.d]

/-- How many slots are damaged. -/
def damagedCount (g : Group) : Nat := g.slots.count .damaged

/-- The group as text: each token with a space behind it. -/
def text (g : Group) : String := String.ofList (g.slots.flatMap fun s => s.token ++ [' '])

/-- The line that clients receive for the group. -/
def line (g : Group) : String := g.text ++ "\n"

end Group

/-! ## From blocks to groups -/

/-- What an assembler has counted since it was made. The numbers have no bound: as long as each of
them is below 2⁶⁴ they are those of counters of 64 bits. -/
structure ReceptionCounts where
  /-- Blocks seen. -/
  blocks : Nat := 0
  /-- Groups completed. -/
  groups : Nat := 0
  /-- Blocks that came out of turn. -/
  resyncs : Nat := 0
  /-- Blocks taken in turn that error correction had changed. -/
  corrected : Nat := 0
  /-- Blocks taken in turn that were beyond correction. -/
  uncorrectable : Nat := 0
  deriving DecidableEq, Repr

/-- The counts after one more block of the given quality has been taken in turn. -/
def ReceptionCounts.taken (n : ReceptionCounts) : BlockQuality → ReceptionCounts
  | .clean => n
  | .corrected => { n with corrected := n.corrected + 1 }
  | .uncorrectable => { n with uncorrectable := n.uncorrectable + 1 }

/-- The part of a group that has been collected: at most three slots. -/
inductive PartialGroup where
  | empty
  | one (a : Slot)
  | two (a b : Slot)
  | three (a b c : Slot)
  deriving DecidableEq, Repr

namespace PartialGroup

/-- The slots collected so far. -/
def slots : PartialGroup → List Slot
  | .empty => []
  | .one a => [a]
  | .two a b => [a, b]
  | .three a b c => [a, b, c]

/-- The slot that is filled next. -/
def expected (p : PartialGroup) : Nat := p.slots.length

/-- One more slot: either a longer part, or a whole group and a new start. -/
def add : PartialGroup → Slot → PartialGroup × Option Group
  | .empty, s => (.one s, none)
  | .one a, s => (.two a s, none)
  | .two a b, s => (.three a b s, none)
  | .three a b c, s => (.empty, some ⟨a, b, c, s⟩)

end PartialGroup

/-- An assembler between two blocks. -/
structure GroupAssembler where
  collected : PartialGroup := .empty
  counts : ReceptionCounts := {}
  deriving DecidableEq, Repr

/-- What a block brings to the slot that it fills: its payload if it is clean, and nothing
otherwise. -/
def Block.content (b : Block) : Slot :=
  match b.quality with
  | .clean => .word b.payload
  | .corrected | .uncorrectable => .damaged

namespace GroupAssembler

/-- The slot that the next block has to fill. -/
def expected (a : GroupAssembler) : Nat := a.collected.expected

/-- Whether part of a group has been collected. -/
def hasPart (a : GroupAssembler) : Bool := a.collected ≠ .empty

/-- Throws away what has been collected and keeps the counts. -/
def reset (a : GroupAssembler) : GroupAssembler := { a with collected := .empty }

/-- Takes one block. The group that it completes, if any, comes back at once. -/
def add (a : GroupAssembler) (b : Block) : GroupAssembler × Option Group :=
  let seen := { a.counts with blocks := a.counts.blocks + 1 }
  if b.position.slot = some a.expected then
    let taken := seen.taken b.quality
    match a.collected.add b.content with
    | (collected, none) => (⟨collected, taken⟩, none)
    | (collected, some g) => (⟨collected, { taken with groups := taken.groups + 1 }⟩, some g)
  else (⟨.empty, { seen with resyncs := seen.resyncs + 1 }⟩, none)

/-- One thing that happens to an assembler: a block arrives, or its owner makes it start over. -/
inductive Event where
  | block (b : Block)
  | reset
  deriving DecidableEq, Repr

/-- The assembler after one event, and the group that the event completed. -/
def handle (a : GroupAssembler) : Event → GroupAssembler × Option Group
  | .block b => a.add b
  | .reset => (a.reset, none)

/-- Takes blocks in order and gives the groups that they complete. -/
def addAll (a : GroupAssembler) : List Block → GroupAssembler × List Group
  | [] => (a, [])
  | b :: bs =>
    let (a₁, g?) := a.add b
    let (a₂, gs) := addAll a₁ bs
    (a₂, g?.toList ++ gs)

end GroupAssembler

end RadioData
