import RadioData.Block
import RadioData.Station
/-!
# The groups that a station sends

A station repeats its identification, its programme type and two characters of its name in each
group, so that four groups spell the name. A `GroupCarousel` gives the groups one by one, over and
over. For trials of what happens with damaged blocks it can mark every n-th block as beyond
correction; the blocks are counted in 32 bits.
-/

namespace RadioData

/-- What a station sends next. -/
structure GroupCarousel where
  /-- The programme identification. -/
  pi : UInt16
  /-- The programme type. -/
  pty : UInt8
  /-- The ASCII characters of the name. -/
  ps : List UInt8
  /-- Which two of the first eight characters come next. -/
  segment : Fin 4 := 0
  /-- How often a block is damaged. Nothing and zero both mean never. -/
  damageEvery : Option UInt32 := none
  /-- The blocks sent so far. -/
  sent : UInt32 := 0
  deriving DecidableEq, Repr

namespace GroupCarousel

/-- The word for the third block: no alternative frequencies, and a filler. -/
def noAlternatives : UInt16 := 0xE0CD

/-- The bit of the second word that says that music is on. -/
def musicBit : UInt16 := 8

/-- A carousel at the start of a station's name. -/
def ofStation (s : Station) (damageEvery : Option UInt32) : GroupCarousel where
  pi := s.pi
  pty := s.pty &&& 0x1F
  ps := (s.ps.toList.filter fun c => c.toNat < 128).map fun c => c.toNat.toUInt8
  damageEvery := damageEvery

/-- A character of the name as it is sent. Short names are followed by spaces. -/
def character (c : GroupCarousel) (i : Nat) : UInt8 := c.ps.getD i 0x20

/-- The four words of the group that comes next. -/
def words (c : GroupCarousel) : List UInt16 :=
  let i := 2 * c.segment.val
  [ c.pi,
    (c.pty.toUInt16 <<< 5) ||| musicBit ||| c.segment.val.toUInt16,
    noAlternatives,
    ((c.character i).toUInt16 <<< 8) ||| (c.character (i + 1)).toUInt16 ]

/-- The words of the next group. No blocks are made of them, so none are counted. -/
def sendWords (c : GroupCarousel) : List UInt16 × GroupCarousel :=
  (c.words, { c with segment := c.segment + 1 })

/-- The quality that the block with the given number is marked with. -/
def quality (c : GroupCarousel) (number : UInt32) : BlockQuality :=
  match c.damageEvery with
  | none => .clean
  | some every => if every ≠ 0 ∧ number % every = 0 then .uncorrectable else .clean

/-- Words as blocks, numbered from the one after `sent`. -/
def blocksOf (c : GroupCarousel) : UInt32 → List (UInt16 × BlockPosition) → List Block
  | _, [] => []
  | sent, (word, position) :: rest =>
    .ofParts word position (c.quality (sent + 1)) :: blocksOf c (sent + 1) rest

/-- The blocks of the next group. -/
def sendBlocks (c : GroupCarousel) : List Block × GroupCarousel :=
  (c.blocksOf c.sent (c.words.zip [.a, .b, .c, .d]),
    { c with segment := c.segment + 1, sent := c.sent + 4 })

end GroupCarousel

/-- Blocks as the bytes that the radio sends. -/
def blocksBytes (blocks : List Block) : List UInt8 := blocks.flatMap Block.bytes

end RadioData
