/-!
# Blocks as the radio delivers them

An RDS group is sent as four blocks of 16 bits. The radio hands each one over as three bytes: the
payload, low byte first, and a status byte. Bits 0 to 2 of the status say at which position of its
group the block was received, bits 6 and 7 whether its error correction had work to do; bits 3 to 5
are reserved and never looked at. The two alternatives C and C′ for the third position fill the same
slot.
-/

namespace RadioData

/-- The position of a block in its group. Codes that name no position are kept as `invalid`. -/
inductive BlockPosition where
  | a
  | b
  | c
  | cPrime
  | d
  | invalid (code : UInt8)
  deriving DecidableEq, Repr

namespace BlockPosition

/-- The position that a status byte names. -/
def ofStatus (status : UInt8) : BlockPosition :=
  match status &&& 7 with
  | 0 => .a
  | 1 => .b
  | 2 => .c
  | 3 => .d
  | 4 => .cPrime
  | code => .invalid code

/-- The slot of the group that a block at this position fills. -/
def slot : BlockPosition → Option Nat
  | .a => some 0
  | .b => some 1
  | .c | .cPrime => some 2
  | .d => some 3
  | .invalid _ => none

/-- The position as status bits. Of an invalid code only the three low bits fit. -/
def statusBits : BlockPosition → UInt8
  | .a => 0
  | .b => 1
  | .c => 2
  | .d => 3
  | .cPrime => 4
  | .invalid code => code &&& 7

end BlockPosition

/-- What error correction did to a block. -/
inductive BlockQuality where
  | clean
  | corrected
  | uncorrectable
  deriving DecidableEq, Repr

namespace BlockQuality

/-- The quality that a status byte names. The top bit outweighs the one below it. -/
def ofStatus (status : UInt8) : BlockQuality :=
  if status &&& 0xC0 = 0 then .clean
  else if status &&& 0x80 ≠ 0 then .uncorrectable
  else .corrected

/-- The quality as status bits. -/
def statusBits : BlockQuality → UInt8
  | .clean => 0
  | .corrected => 0x40
  | .uncorrectable => 0x80

end BlockQuality

/-- One block as it comes from the radio. -/
structure Block where
  /-- The low byte of the payload. -/
  low : UInt8
  /-- The high byte of the payload. -/
  high : UInt8
  status : UInt8
  deriving DecidableEq, Repr

namespace Block

/-- The number of bytes in a block. -/
def size : Nat := 3

/-- A block with the given payload, position and quality, its reserved bits zero. -/
def ofParts (payload : UInt16) (position : BlockPosition) (quality : BlockQuality) : Block where
  low := payload.toUInt8
  high := (payload >>> 8).toUInt8
  status := position.statusBits ||| quality.statusBits

/-- The 16 bits of information. -/
def payload (b : Block) : UInt16 := b.low.toUInt16 ||| (b.high.toUInt16 <<< 8)

/-- Where in its group the block was received. -/
def position (b : Block) : BlockPosition := .ofStatus b.status

/-- What error correction did to the block. -/
def quality (b : Block) : BlockQuality := .ofStatus b.status

/-- The block as the bytes that the radio sends. -/
def bytes (b : Block) : List UInt8 := [b.low, b.high, b.status]

end Block

/-- Cuts a byte stream into blocks: the bytes that have arrived and belong to no block taken so
far. -/
structure BlockFramer where
  buffer : List UInt8 := []
  deriving DecidableEq, Repr

namespace BlockFramer

/-- Takes in bytes as they arrive. -/
def push (f : BlockFramer) (data : List UInt8) : BlockFramer := ⟨f.buffer ++ data⟩

/-- The oldest whole block, if one has arrived. -/
def next? (f : BlockFramer) : Option (Block × BlockFramer) :=
  match f.buffer with
  | low :: high :: status :: rest => some (⟨low, high, status⟩, ⟨rest⟩)
  | _ => none

/-- The whole blocks of a list of bytes, and the bytes after the last of them. -/
def split : List UInt8 → List Block × List UInt8
  | low :: high :: status :: rest =>
    let (blocks, left) := split rest
    (⟨low, high, status⟩ :: blocks, left)
  | left => ([], left)

/-- Takes every whole block out. -/
def drain (f : BlockFramer) : List Block × BlockFramer :=
  let (blocks, left) := split f.buffer
  (blocks, ⟨left⟩)

/-- Forgets what has arrived. -/
def clear (_ : BlockFramer) : BlockFramer := {}

end BlockFramer

end RadioData
