import Mathlib.Data.Fin.Basic
import Mathlib.Logic.Function.Iterate
import RadioData.Frequency
/-!
# Channels by number

The band has 206 channels. Counted from 0 at the lowest, channel `i` is at `87500 + 100 * i` kHz,
and arithmetic modulo 206 is what moving on the band comes down to: `stepChannel` is adding or
taking away 1 (`stepChannel_khz`), and no conversion between kilohertz and device units loses
anything on a channel (`khzOfUnits_units`).
-/

namespace RadioData

/-- Upwards a shift stops at the largest number. -/
theorem toNat_shiftChannel_up (khz : UInt32) :
    (shiftChannel .up khz).toNat = min (khz.toNat + 100) 4294967295 := by
  have hlimit : (4294967295 - channelKhz).toNat = 4294967195 := rfl
  rw [shiftChannel]
  split
  · next h =>
    rw [UInt32.le_iff_toNat_le, hlimit] at h
    rw [UInt32.toNat_add]
    change (khz.toNat + 100) % 4294967296 = _
    omega
  · next h =>
    rw [UInt32.le_iff_toNat_le, hlimit] at h
    change 4294967295 = _
    omega

/-- Downwards a shift stops at zero. -/
theorem toNat_shiftChannel_down (khz : UInt32) :
    (shiftChannel .down khz).toNat = khz.toNat - 100 := by
  have hchannel : channelKhz.toNat = 100 := rfl
  rw [shiftChannel]
  split
  · next h => rw [UInt32.toNat_sub_of_le khz channelKhz h, hchannel]
  · next h =>
    rw [UInt32.le_iff_toNat_le, hchannel] at h
    change 0 = _
    omega

/-- A step is a shift that starts over at the other end when it leaves the band. -/
theorem toNat_stepChannel (d : Direction) (khz : UInt32) :
    (stepChannel d khz).toNat =
      if 108000 < (shiftChannel d khz).toNat then 87500
      else if (shiftChannel d khz).toNat < 87500 then 108000
      else (shiftChannel d khz).toNat := by
  have hlowest : lowestKhz.toNat = 87500 := rfl
  have hhighest : highestKhz.toNat = 108000 := rfl
  simp only [stepChannel, UInt32.lt_iff_toNat_lt, hlowest, hhighest, apply_ite UInt32.toNat]

/-- A step ends in the band, wherever it started. -/
theorem stepChannel_inBand (d : Direction) (khz : UInt32) :
    87500 ≤ (stepChannel d khz).toNat ∧ (stepChannel d khz).toNat ≤ 108000 := by
  rw [toNat_stepChannel]
  split
  · exact ⟨Nat.le_refl _, by decide⟩
  · split
    · exact ⟨by decide, Nat.le_refl _⟩
    · omega

/-- In the band the conversion to device units does not wrap. -/
theorem toNat_mul_unitsPerKhz {khz : UInt32} (h : khz.toNat ≤ 108000) :
    (khz * unitsPerKhz).toNat = 16 * khz.toNat := by
  rw [UInt32.toNat_mul, Nat.mul_comm]
  exact Nat.mod_eq_of_lt (show 16 * _ < _ by omega)

/-- A channel by its number, counted from the lowest. -/
abbrev Channel : Type := Fin 206

namespace Channel

/-- The carrier in kHz. -/
def khz (i : Channel) : UInt32 := .ofNat (87500 + 100 * i.val)

/-- The carrier in device units. -/
def units (i : Channel) : UInt32 := .ofNat (16 * (87500 + 100 * i.val))

/-- The next channel in a direction, starting over at the other end of the band. -/
def next : Direction → Channel → Channel
  | .up, i => i + 1
  | .down, i => i - 1

theorem toNat_khz (i : Channel) : i.khz.toNat = 87500 + 100 * i.val := by
  rw [khz, UInt32.toNat_ofNat_of_lt']
  have := i.isLt
  rw [UInt32.size]
  omega

theorem toNat_units (i : Channel) : i.units.toNat = 16 * (87500 + 100 * i.val) := by
  rw [units, UInt32.toNat_ofNat_of_lt']
  have := i.isLt
  rw [UInt32.size]
  omega

/-- A number of kilohertz is a channel's if it is in the band and on the grid. -/
theorem exists_khz_iff {v : Nat} :
    (∃ i : Channel, i.khz.toNat = v) ↔ 87500 ≤ v ∧ v ≤ 108000 ∧ v % 100 = 0 := by
  constructor
  · rintro ⟨i, rfl⟩
    have := i.isLt
    rw [toNat_khz]
    omega
  · rintro ⟨hlow, hhigh, hgrid⟩
    refine ⟨⟨(v - 87500) / 100, by omega⟩, ?_⟩
    rw [toNat_khz]
    dsimp only
    omega

/-- Channels are in the order of their frequencies. -/
theorem khz_lt_khz {i j : Channel} : i.khz < j.khz ↔ i < j := by
  rw [UInt32.lt_iff_toNat_lt, toNat_khz, toNat_khz, Fin.lt_def]
  omega

/-- Different channels have different frequencies. -/
theorem khz_injective {i j : Channel} (h : i.khz = j.khz) : i = j := by
  have := congrArg UInt32.toNat h
  rw [toNat_khz, toNat_khz] at this
  exact Fin.ext (by omega)

/-- Whole channels survive the conversion from device units. -/
theorem khzOfUnits_units (i : Channel) : khzOfUnits i.units = i.khz := by
  apply UInt32.toNat_inj.1
  rw [khzOfUnits, UInt32.toNat_div, toNat_units, toNat_khz]
  exact Nat.mul_div_cancel_left _ (by decide)

/-- The conversion to device units does not wrap. -/
theorem khz_mul_unitsPerKhz (i : Channel) : i.khz * unitsPerKhz = i.units := by
  have := i.isLt
  apply UInt32.toNat_inj.1
  rw [toNat_mul_unitsPerKhz (by rw [toNat_khz]; omega), toNat_khz, toNat_units]

theorem val_next_up (i : Channel) : (next .up i).val = (i.val + 1) % 206 := Fin.val_add i 1

/-- Downwards by one is upwards by all but one. -/
theorem val_next_down (i : Channel) : (next .down i).val = (i.val + 205) % 206 := by
  rw [next, Fin.sub_def, Nat.add_comm]
  rfl

/-- A channel down undoes a channel up. -/
theorem next_down_next_up (i : Channel) : next .down (next .up i) = i := by
  have := i.isLt
  apply Fin.ext
  rw [val_next_down, val_next_up]
  omega

/-- **A step moves to the next channel.** -/
theorem stepChannel_khz (d : Direction) (i : Channel) : stepChannel d i.khz = (next d i).khz := by
  have hlt := i.isLt
  apply UInt32.toNat_inj.1
  rw [toNat_stepChannel, toNat_khz (next d i)]
  cases d with
  | up =>
    rw [toNat_shiftChannel_up, toNat_khz, val_next_up]
    split
    · omega
    · split <;> omega
  | down =>
    rw [toNat_shiftChannel_down, toNat_khz, val_next_down]
    split
    · omega
    · split <;> omega

/-- So a step from a channel, in device units, leads to the next one. -/
theorem stepChannel_units (d : Direction) (i : Channel) :
    stepChannel d (khzOfUnits i.units) * unitsPerKhz = (next d i).units := by
  rw [khzOfUnits_units, stepChannel_khz, khz_mul_unitsPerKhz]

/-! ## Around the band -/

/-- How far a channel is from the end of the band at which a direction starts. -/
def rank : Direction → Channel → Nat
  | .up, i => i.val
  | .down, i => 205 - i.val

/-- How many channels one has to go in a direction to come from a channel to another, or around the
band to where one was. -/
def away (d : Direction) (i j : Channel) : Nat :=
  if rank d i < rank d j then rank d j - rank d i else rank d j + 206 - rank d i

theorem rank_lt (d : Direction) (i : Channel) : rank d i < 206 := by
  have := i.isLt
  cases d <;> simp only [rank] <;> omega

/-- Every channel lies ahead, the one that the dial stands on by a full round. -/
theorem away_pos (d : Direction) (i j : Channel) : 0 < away d i j := by
  have := rank_lt d i
  rw [away]
  split <;> omega

/-- No channel lies more than a full round ahead. -/
theorem away_le (d : Direction) (i j : Channel) : away d i j ≤ 206 := by
  have := rank_lt d j
  rw [away]
  split <;> omega

/-- Different channels come at different places of the order. -/
theorem rank_injective {d : Direction} {i j : Channel} (h : rank d i = rank d j) : i = j := by
  have := i.isLt
  have := j.isLt
  cases d <;> simp only [rank] at h <;> exact Fin.ext (by omega)

/-- The next channel has the next place, and the last one is followed by the first. -/
theorem rank_next (d : Direction) (i : Channel) : rank d (next d i) = (rank d i + 1) % 206 := by
  have := i.isLt
  cases d with
  | up => exact val_next_up i
  | down =>
    simp only [rank, val_next_down]
    omega

/-- So a number of steps adds to the place, modulo the number of channels. -/
theorem rank_iterate_next (d : Direction) (count : Nat) (i : Channel) :
    rank d ((next d)^[count] i) = (rank d i + count) % 206 := by
  induction count with
  | zero => exact (Nat.mod_eq_of_lt (rank_lt d i)).symm
  | succ count ih =>
    rw [Function.iterate_succ_apply', rank_next, ih, Nat.mod_add_mod, Nat.add_assoc]

/-- Ranks tell which channel is met after a number of channels. -/
theorem iterate_next_eq_iff_rank {d : Direction} {i j : Channel} {count : Nat} :
    (next d)^[count] i = j ↔ (rank d i + count) % 206 = rank d j := by
  rw [← rank_iterate_next]
  exact ⟨congrArg (rank d), rank_injective⟩

/-- Going around the band once, every channel is met when one has gone as far as it is away. -/
theorem iterate_next_eq_iff {d : Direction} {i j : Channel} {count : Nat} (h : count < 206) :
    (next d)^[count + 1] i = j ↔ count + 1 = away d i j := by
  have hi := rank_lt d i
  have hj := rank_lt d j
  rw [iterate_next_eq_iff_rank, away]
  split <;> omega

end Channel

namespace Frequency

/-- The number of a channel of the band. -/
def channel (f : Frequency) : Channel :=
  ⟨(f.khz.toNat - 87500) / 100, by
    have := UInt32.le_iff_toNat_le.1 f.inBand.2
    rw [show highestKhz.toNat = 108000 from rfl] at this
    omega⟩

/-- A frequency is that of its channel. -/
theorem khz_eq (f : Frequency) : f.khz = f.channel.khz := by
  have hlow := UInt32.le_iff_toNat_le.1 f.inBand.1
  have hgrid := congrArg UInt32.toNat f.onGrid
  rw [UInt32.toNat_mod] at hgrid
  apply UInt32.toNat_inj.1
  rw [Channel.toNat_khz, channel]
  change 87500 ≤ _ at hlow
  change _ % 100 = 0 at hgrid
  dsimp only
  omega

/-- A frequency and its channel are the same in device units. -/
theorem units_eq (f : Frequency) : f.units = f.channel.units := by
  rw [units, khz_eq, Channel.khz_mul_unitsPerKhz]

/-- Every channel by its number is a channel of the band. -/
theorem exists_khz_eq (i : Channel) : ∃ f : Frequency, f.khz = i.khz := by
  obtain ⟨hlow, hhigh, hgrid⟩ := Channel.exists_khz_iff.1 ⟨i, rfl⟩
  exact ⟨⟨i.khz, ⟨UInt32.le_iff_toNat_le.2 hlow, UInt32.le_iff_toNat_le.2 hhigh⟩,
    UInt32.toNat_inj.1 ((UInt32.toNat_mod ..).trans hgrid)⟩, rfl⟩

end Frequency

end RadioData
