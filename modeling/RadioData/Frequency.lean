/-!
# Frequencies on the FM band

The band runs from 87.5 MHz to 108 MHz in channels of 100 kHz. A `Frequency` is a channel: its
proofs say that it lies in the band and on the grid, so whatever holds one needs no further check.
`Frequency.ofKhz` makes one from a number or says why it cannot. Radio devices count in units of
62.5 Hz, sixteen to the kilohertz; `Frequency.units` and `khzOfUnits` convert, the latter rounding
down. `stepChannel` moves any kilohertz value by one channel and wraps at the ends of the band.
-/

namespace RadioData

/-- The way in which a seek or a step moves on the band. -/
inductive Direction where
  | up
  | down
  deriving DecidableEq, Repr

/-- The lowest channel, in kHz. -/
def lowestKhz : UInt32 := 87500

/-- The highest channel, in kHz. -/
def highestKhz : UInt32 := 108000

/-- The distance between neighbouring channels, in kHz. -/
def channelKhz : UInt32 := 100

/-- The device units in one kilohertz. -/
def unitsPerKhz : UInt32 := 16

/-- A channel of the band: a frequency in kHz with the proofs that it is in band and on the grid. -/
structure Frequency where
  /-- The carrier in kHz. -/
  khz : UInt32
  inBand : lowestKhz ≤ khz ∧ khz ≤ highestKhz
  onGrid : khz % channelKhz = 0
  deriving DecidableEq, Repr

/-- Why a number of kilohertz is no channel. -/
inductive FrequencyError where
  | outOfRange (khz : UInt32)
  | offGrid (khz : UInt32)
  deriving DecidableEq, Repr

/-- The wording of a refusal. -/
def FrequencyError.message : FrequencyError → String
  | .outOfRange khz => s!"frequency {khz} outside {lowestKhz}..={highestKhz}"
  | .offGrid khz => s!"frequency {khz} is not a multiple of {channelKhz}"

namespace Frequency

/-- The channel at `khz`. A value outside the band is refused as such even when it is off the grid
too. -/
def ofKhz (khz : UInt32) : Except FrequencyError Frequency :=
  if band : lowestKhz ≤ khz ∧ khz ≤ highestKhz then
    if grid : khz % channelKhz = 0 then .ok ⟨khz, band, grid⟩ else .error (.offGrid khz)
  else .error (.outOfRange khz)

/-- The frequency of a channel is that channel. -/
theorem ofKhz_khz (f : Frequency) : ofKhz f.khz = .ok f := by
  rw [ofKhz, dif_pos f.inBand, dif_pos f.onGrid]

/-- The lowest channel. -/
def lowest : Frequency := ⟨lowestKhz, by decide, by decide⟩

/-- The highest channel. -/
def highest : Frequency := ⟨highestKhz, by decide, by decide⟩

/-- The carrier in device units. No channel is large enough for the product to wrap. -/
def units (f : Frequency) : UInt32 := f.khz * unitsPerKhz

end Frequency

/-- The whole kilohertz in a number of device units. -/
def khzOfUnits (units : UInt32) : UInt32 := units / unitsPerKhz

/-- One channel away from `khz`, stopping at the ends of the 32-bit range. -/
def shiftChannel : Direction → UInt32 → UInt32
  | .up, khz => if khz ≤ 4294967295 - channelKhz then khz + channelKhz else 4294967295
  | .down, khz => if channelKhz ≤ khz then khz - channelKhz else 0

/-- One channel away from `khz`. A result above the band becomes the lowest channel and one below it
the highest; a result inside the band stays as it is, on the grid or off it. -/
def stepChannel (d : Direction) (khz : UInt32) : UInt32 :=
  let next := shiftChannel d khz
  if highestKhz < next then lowestKhz else if next < lowestKhz then highestKhz else next

/-- The first `count` values of repeated steps from `khz`. -/
def stepPath (d : Direction) : Nat → UInt32 → List UInt32
  | 0, _ => []
  | count + 1, khz => stepChannel d khz :: stepPath d count (stepChannel d khz)

end RadioData
