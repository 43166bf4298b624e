import Mathlib.Logic.Function.Iterate
import RadioData.Proofs.Tuner.Channel
/-!
# Steps from any frequency

A device may stand anywhere, so a step has to make sense from every 32-bit number of kilohertz. No
step is spoiled by the size of words (`toNat_stepChannel_eq`), every step ends in the band, and a
channel once reached leads to channels only. In one direction a channel is always reached: a number
in the band and off the grid keeps its distance to the grid until the band ends, and there starts
the next round from a channel (`isChannel_iterate_iff`). `steps_reach_every_channel` puts this
together.
-/

namespace RadioData

/-- A number of kilohertz that is in the band and on the grid. -/
def IsChannel (khz : UInt32) : Prop :=
  87500 ≤ khz.toNat ∧ khz.toNat ≤ 108000 ∧ khz.toNat % 100 = 0

/-- A shift by one channel in whole numbers of any size. -/
def exactShift : Direction → Int → Int
  | .up, khz => khz + 100
  | .down, khz => khz - 100

/-- A step in whole numbers of any size. -/
def exactStep (d : Direction) (khz : Int) : Int :=
  if 108000 < exactShift d khz then 87500
  else if exactShift d khz < 87500 then 108000
  else exactShift d khz

/-- The values of steps in the given directions, one after the other. -/
def stepValues {α : Type} (step : Direction → α → α) : List Direction → α → List α
  | [], _ => []
  | d :: ds, khz => step d khz :: stepValues step ds (step d khz)

/-! ## Sequences of steps -/

/-- **No step overflows**: it gives what it would give in numbers of any size. -/
theorem toNat_stepChannel_eq (d : Direction) (khz : UInt32) :
    ((stepChannel d khz).toNat : Int) = exactStep d khz.toNat := by
  rw [toNat_stepChannel, exactStep]
  cases d with
  | up =>
    rw [toNat_shiftChannel_up, exactShift]
    split_ifs <;> omega
  | down =>
    rw [toNat_shiftChannel_down, exactShift]
    split_ifs <;> omega

theorem map_toNat_stepValues (ds : List Direction) (khz : UInt32) :
    (stepValues stepChannel ds khz).map (fun v => (v.toNat : Int)) =
      stepValues exactStep ds khz.toNat := by
  induction ds generalizing khz with
  | nil => rfl
  | cons d ds ih => rw [stepValues, stepValues, List.map_cons, ih, toNat_stepChannel_eq]

theorem inBand_of_mem_stepValues {ds : List Direction} {khz v : UInt32}
    (h : v ∈ stepValues stepChannel ds khz) : 87500 ≤ v.toNat ∧ v.toNat ≤ 108000 := by
  induction ds generalizing khz with
  | nil => cases h
  | cons d ds ih =>
    rcases List.mem_cons.1 h with rfl | h
    · exact stepChannel_inBand d khz
    · exact ih h

/-- The channels are where they are counted. -/
theorem isChannel_iff {khz : UInt32} : IsChannel khz ↔ ∃ i : Channel, khz = i.khz := by
  rw [IsChannel, ← Channel.exists_khz_iff]
  exact exists_congr fun i => UInt32.toNat_inj.trans eq_comm

/-- A step from a channel leads to a channel. -/
theorem IsChannel.step {khz : UInt32} (h : IsChannel khz) (d : Direction) :
    IsChannel (stepChannel d khz) := by
  obtain ⟨i, rfl⟩ := isChannel_iff.1 h
  exact isChannel_iff.2 ⟨Channel.next d i, Channel.stepChannel_khz d i⟩

theorem IsChannel.of_mem_stepValues {ds : List Direction} {khz v : UInt32} (h : IsChannel khz)
    (hv : v ∈ stepValues stepChannel ds khz) : IsChannel v := by
  induction ds generalizing khz with
  | nil => cases hv
  | cons d ds ih =>
    rcases List.mem_cons.1 hv with rfl | hv
    · exact h.step d
    · exact ih (h.step d) hv

/-- All that comes behind a channel is a channel. -/
theorem pairwise_stepValues (ds : List Direction) (khz : UInt32) :
    (khz :: stepValues stepChannel ds khz).Pairwise fun v w => IsChannel v → IsChannel w := by
  induction ds generalizing khz with
  | nil => exact List.pairwise_singleton _ khz
  | cons d ds ih =>
    exact List.pairwise_cons.2 ⟨fun w hw hkhz => hkhz.of_mem_stepValues hw, ih (stepChannel d khz)⟩

/-! ## One direction -/

theorem IsChannel.iterate {khz : UInt32} (h : IsChannel khz) (d : Direction) (count : Nat) :
    IsChannel ((stepChannel d)^[count] khz) := by
  induction count with
  | zero => exact h
  | succ count ih =>
    rw [Function.iterate_succ_apply']
    exact ih.step d

/-- How many steps in a direction stay in the band. -/
def room : Direction → UInt32 → Nat
  | .up, khz => (108000 - khz.toNat) / 100
  | .down, khz => (khz.toNat - 87500) / 100

section
variable {d : Direction} {khz : UInt32} (hband : 87500 ≤ khz.toNat ∧ khz.toNat ≤ 108000)
include hband

/-- A step for which there is room keeps the distance to the grid. -/
theorem step_of_room (hroom : 0 < room d khz) :
    room d (stepChannel d khz) + 1 = room d khz ∧
      (stepChannel d khz).toNat % 100 = khz.toNat % 100 := by
  cases d with
  | up =>
    simp only [room, toNat_stepChannel, toNat_shiftChannel_up] at *
    split_ifs <;> omega
  | down =>
    simp only [room, toNat_stepChannel, toNat_shiftChannel_down] at *
    split_ifs <;> omega

/-- A step for which there is no room leads to an end of the band, or to a channel next to it. -/
theorem step_of_no_room (hroom : room d khz = 0) : IsChannel (stepChannel d khz) := by
  rw [IsChannel, toNat_stepChannel]
  cases d with
  | up =>
    rw [room] at hroom
    rw [toNat_shiftChannel_up]
    split_ifs <;> omega
  | down =>
    rw [room] at hroom
    rw [toNat_shiftChannel_down]
    split_ifs <;> omega

/-- Off the grid there is never room for the whole band. -/
theorem room_le (hgrid : khz.toNat % 100 ≠ 0) : room d khz ≤ 204 := by
  cases d <;> rw [room] <;> omega

/-- **A number off the grid leaves the band before it comes to a channel**, and then it does. -/
theorem isChannel_iterate_iff (hgrid : khz.toNat % 100 ≠ 0) (count : Nat) :
    IsChannel ((stepChannel d)^[count] khz) ↔ room d khz < count := by
  induction count generalizing khz with
  | zero => exact iff_of_false (fun h => hgrid h.2.2) (Nat.not_lt_zero _)
  | succ count ih =>
    rw [Function.iterate_succ_apply]
    rcases Nat.eq_zero_or_pos (room d khz) with hnone | hsome
    · exact iff_of_true ((step_of_no_room hband hnone).iterate d count) (by omega)
    · obtain ⟨hless, hsame⟩ := step_of_room hband hsome
      rw [ih (stepChannel_inBand d khz) (hsame ▸ hgrid)]
      omega

end

/-- After 206 steps in one direction a channel has been reached. -/
theorem isChannel_iterate (d : Direction) (khz : UInt32) {count : Nat} (hcount : 206 ≤ count) :
    IsChannel ((stepChannel d)^[count] khz) := by
  obtain ⟨count, rfl⟩ := Nat.exists_eq_add_of_le' (Nat.le_trans (by decide : 1 ≤ 206) hcount)
  have hband := stepChannel_inBand d khz
  rw [Function.iterate_succ_apply]
  by_cases hgrid : (stepChannel d khz).toNat % 100 = 0
  · exact IsChannel.iterate ⟨hband.1, hband.2, hgrid⟩ d count
  · have := room_le (d := d) hband hgrid
    exact (isChannel_iterate_iff hband hgrid count).2 (by omega)

/-! ## Around the band -/

namespace Channel

/-- Steps from a channel count channels. -/
theorem iterate_stepChannel_khz (d : Direction) (count : Nat) (i : Channel) :
    (stepChannel d)^[count] i.khz = ((next d)^[count] i).khz := by
  have hsteps : Function.Semiconj khz (next d) (stepChannel d) := fun i =>
    (stepChannel_khz d i).symm
  exact (hsteps.iterate_right count i).symm

/-- Once around the band is where one was. -/
theorem iterate_next_period (d : Direction) (i : Channel) : (next d)^[206] i = i := by
  rw [iterate_next_eq_iff_rank, Nat.add_mod_right, Nat.mod_eq_of_lt (rank_lt d i)]

/-- On the way around, every channel is met once. -/
theorem existsUnique_iterate_next (d : Direction) (i j : Channel) :
    ∃! count, count < 206 ∧ (next d)^[count] i = j := by
  have hi := rank_lt d i
  have hj := rank_lt d j
  simp only [iterate_next_eq_iff_rank]
  refine ⟨(rank d j + 206 - rank d i) % 206, ⟨Nat.mod_lt _ (by decide), ?_⟩, ?_⟩
  · omega
  · rintro count ⟨hcount, hmet⟩
    omega

end Channel

/-- **Steps make sense from every frequency.** Whatever the number of kilohertz and the directions,
the values of the steps are those of exact arithmetic, they lie in the band, and behind a channel
come channels. In one direction, from the 206th step on every value is a channel, the values repeat
after 206 steps, and among any 206 of them is every channel, once. -/
theorem steps_reach_every_channel (start : UInt32) :
    (∀ ds : List Direction,
      (stepValues stepChannel ds start).map (fun v => (v.toNat : Int)) =
        stepValues exactStep ds start.toNat ∧
      (∀ v ∈ stepValues stepChannel ds start, 87500 ≤ v.toNat ∧ v.toNat ≤ 108000) ∧
      (start :: stepValues stepChannel ds start).Pairwise fun v w => IsChannel v → IsChannel w) ∧
    ∀ (d : Direction) (count : Nat), 206 ≤ count →
      IsChannel ((stepChannel d)^[count] start) ∧
      (stepChannel d)^[count + 206] start = (stepChannel d)^[count] start ∧
      ∀ khz, IsChannel khz → ∃! further, further < 206 ∧
        (stepChannel d)^[count + further] start = khz := by
  refine ⟨fun ds => ⟨map_toNat_stepValues ds start, fun v => inBand_of_mem_stepValues,
    pairwise_stepValues ds start⟩, fun d count hcount => ?_⟩
  have hchannel := isChannel_iterate d start hcount
  obtain ⟨i, hi⟩ := isChannel_iff.1 hchannel
  have hfurther (further : Nat) : (stepChannel d)^[count + further] start =
      ((Channel.next d)^[further] i).khz := by
    rw [Nat.add_comm, Function.iterate_add_apply, hi, Channel.iterate_stepChannel_khz]
  refine ⟨hchannel, ?_, fun khz hkhz => ?_⟩
  · rw [hfurther, Channel.iterate_next_period, hi]
  · obtain ⟨j, rfl⟩ := isChannel_iff.1 hkhz
    obtain ⟨further, ⟨hlt, hmet⟩, hunique⟩ := Channel.existsUnique_iterate_next d i j
    refine ⟨further, ⟨hlt, by rw [hfurther, hmet]⟩, fun other ⟨hother, hmeets⟩ => ?_⟩
    rw [hfurther] at hmeets
    exact hunique other ⟨hother, Channel.khz_injective hmeets⟩

/-- Some numbers beside the band take all of the 206 steps, in either direction. -/
theorem steps_reach_every_channel_late :
    (¬ IsChannel ((stepChannel .up)^[205] 87401) ∧ IsChannel ((stepChannel .up)^[206] 87401)) ∧
      ¬ IsChannel ((stepChannel .down)^[205] 108099) ∧
        IsChannel ((stepChannel .down)^[206] 108099) := by
  have hup : ¬ IsChannel ((stepChannel .up)^[205] 87401) := by
    rw [Function.iterate_succ_apply, show stepChannel .up 87401 = 87501 by decide,
      isChannel_iterate_iff (by decide) (by decide)]
    decide
  have hdown : ¬ IsChannel ((stepChannel .down)^[205] 108099) := by
    rw [Function.iterate_succ_apply, show stepChannel .down 108099 = 107999 by decide,
      isChannel_iterate_iff (by decide) (by decide)]
    decide
  exact ⟨⟨hup, ((steps_reach_every_channel 87401).2 .up 206 (Nat.le_refl _)).1⟩,
    hdown, ((steps_reach_every_channel 108099).2 .down 206 (Nat.le_refl _)).1⟩

end RadioData
