import Mathlib.Data.List.Dedup
import Mathlib.Data.List.Rotate
import Mathlib.Order.Bounds.Defs
import RadioData.Proofs.Tuner.Stations
import RadioData.Tuner.Simulated
/-!
# Seeking around the band

Where a seek leads, wherever the dial stands, on a channel or not. A direction puts the frequencies
of the stations in an order (`StationTable.order`), and from each of them a seek leads to the next
one in that order, from the last one to the first (`StationTable.seek?_order`). So seeking on and on
walks through the order around and around, and a seek back undoes a seek. `seek_walks_around` is the
main statement, about the band made from any configuration.
-/

namespace RadioData

namespace Direction

/-- The other direction. -/
def opposite : Direction → Direction
  | .up => .down
  | .down => .up

theorem before_irrefl (d : Direction) (a : UInt32) : ¬ d.Before a a := by
  cases d <;> exact UInt32.lt_irrefl a

theorem Before.asymm {d : Direction} {a b : UInt32} (h : d.Before a b) : ¬ d.Before b a := by
  cases d <;> exact UInt32.lt_asymm h

end Direction

/-- The frequency among some that comes next from `khz`, on the band or beside it: upwards the
lowest one above, or the lowest one of all if none is above; downwards likewise. -/
def NextAmong (frequencies : List UInt32) : Direction → UInt32 → UInt32 → Prop
  | .up, khz, next =>
    IsLeast {k | k ∈ frequencies ∧ khz < k} next ∨
      (∀ k ∈ frequencies, ¬ khz < k) ∧ IsLeast {k | k ∈ frequencies} next
  | .down, khz, next =>
    IsGreatest {k | k ∈ frequencies ∧ k < khz} next ∨
      (∀ k ∈ frequencies, ¬ k < khz) ∧ IsGreatest {k | k ∈ frequencies} next

/-- What comes next from `khz` is met behind it and before the others behind it; if nothing is
behind it, it is met before all others. -/
theorem NextAmong.of_before {frequencies : List UInt32} {d : Direction} {khz next : UInt32}
    (hmem : next ∈ frequencies)
    (h : (d.Before khz next ∧
        ∀ k ∈ frequencies, d.Before khz k → k = next ∨ d.Before next k) ∨
      (∀ k ∈ frequencies, ¬ d.Before khz k) ∧ ∀ k ∈ frequencies, k = next ∨ d.Before next k) :
    NextAmong frequencies d khz next := by
  cases d with
  | up =>
    have hle {k : UInt32} (h : k = next ∨ next < k) : next ≤ k :=
      h.elim (fun heq => heq ▸ UInt32.le_refl k) UInt32.le_of_lt
    refine h.imp (fun ⟨hbehind, hfirst⟩ => ?_) fun ⟨hnone, hfirst⟩ => ?_
    · exact ⟨⟨hmem, hbehind⟩, fun k hk => hle (hfirst k hk.1 hk.2)⟩
    · exact ⟨hnone, hmem, fun k hk => hle (hfirst k hk)⟩
  | down =>
    have hle {k : UInt32} (h : k = next ∨ k < next) : k ≤ next :=
      h.elim (fun heq => heq ▸ UInt32.le_refl k) UInt32.le_of_lt
    refine h.imp (fun ⟨hbehind, hfirst⟩ => ?_) fun ⟨hnone, hfirst⟩ => ?_
    · exact ⟨⟨hmem, hbehind⟩, fun k hk => hle (hfirst k hk.1 hk.2)⟩
    · exact ⟨hnone, hmem, fun k hk => hle (hfirst k hk)⟩

/-- Only which frequencies there are matters. -/
theorem NextAmong.congr {fs gs : List UInt32} (h : ∀ k, k ∈ fs ↔ k ∈ gs) {d : Direction}
    {khz next : UInt32} (hnext : NextAmong fs d khz next) : NextAmong gs d khz next := by
  cases d <;> simpa only [NextAmong, h] using hnext

namespace StationTable

/-- The frequencies of the stations in the order in which a direction meets them. -/
def order (t : StationTable) (d : Direction) : List UInt32 := (t.along d).map Station.khz

variable {t : StationTable} {d : Direction} {khz : UInt32}

theorem mem_order {k : UInt32} : k ∈ t.order d ↔ k ∈ t.stations.map Station.khz := by
  simp only [order, List.mem_map, mem_along]

theorem order_opposite (t : StationTable) (d : Direction) :
    t.order d.opposite = (t.order d).reverse := by
  have hreverse : t.along d.opposite = (t.along d).reverse := by
    cases d with
    | up => rfl
    | down => exact (List.reverse_reverse t.stations).symm
  rw [order, hreverse, List.map_reverse]
  rfl

/-- Which of two frequencies comes first is told by their places. -/
theorem before_iff {i j : Nat} {a b : UInt32} (hi : (t.order d)[i]? = some a)
    (hj : (t.order d)[j]? = some b) : d.Before a b ↔ i < j := by
  have hordered {i j : Nat} {a b : UInt32} (hi : (t.order d)[i]? = some a)
      (hj : (t.order d)[j]? = some b) (hlt : i < j) : d.Before a b := by
    obtain ⟨hilt, rfl⟩ := List.getElem?_eq_some_iff.1 hi
    obtain ⟨hjlt, rfl⟩ := List.getElem?_eq_some_iff.1 hj
    have hpairs : (t.order d).Pairwise d.Before := List.pairwise_map.2 (t.pairwise_along d)
    exact List.pairwise_iff_getElem.1 hpairs i j hilt hjlt hlt
  refine ⟨fun h => ?_, hordered hi hj⟩
  rcases Nat.lt_trichotomy i j with hlt | rfl | hgt
  · exact hlt
  · rw [Option.some.inj (hi.symm.trans hj)] at h
    exact absurd h (d.before_irrefl b)
  · exact absurd h (hordered hj hi hgt).asymm

/-! ## Where a seek leads -/

/-- **A seek leads to the next station**, from any frequency, where there is a station at all. -/
theorem seek?_next (hstations : t.stations ≠ []) (d : Direction) (khz : UInt32) :
    ∃ s ∈ t.stations, t.seek? d khz = some s ∧
      NextAmong (t.stations.map Station.khz) d khz s.khz := by
  rcases t.seek?_cases d khz with ⟨-, hnone⟩ | ⟨s, hs, hseek, hplace⟩
  · exact absurd hnone hstations
  have hkhz {u : Station} (h : u = s ∨ d.Before s.khz u.khz) :
      u.khz = s.khz ∨ d.Before s.khz u.khz :=
    h.imp_left (congrArg Station.khz)
  refine ⟨s, hs, hseek, .of_before (List.mem_map_of_mem hs) ?_⟩
  simp only [List.forall_mem_map]
  exact hplace.imp (fun ⟨hbehind, hfirst⟩ => ⟨hbehind, fun u hu hu' => hkhz (hfirst u hu hu')⟩)
    fun ⟨hnone, hfirst⟩ => ⟨hnone, fun u hu => hkhz (hfirst u hu)⟩

theorem getElem?_order {j : Nat} {u : Station} (h : (t.along d)[j]? = some u) :
    (t.order d)[j]? = some u.khz := by
  rw [order, List.getElem?_map, h, Option.map_some]

/-- **From a station a seek leads to the next one in the order**, and from the last one to the
first. -/
theorem seek?_order {i : Nat} (hi : (t.order d)[i]? = some khz) :
    ∃ s, t.seek? d khz = some s ∧ (t.order d)[(i + 1) % (t.order d).length]? = some s.khz := by
  have hlt : i < (t.order d).length := (List.getElem?_eq_some_iff.1 hi).1
  have hlength : (t.order d).length = (t.along d).length := List.length_map _
  rw [seek?_eq_find?]
  cases hnext : (t.along d)[i + 1]? with
  | some s =>
    have hnextlt : i + 1 < (t.along d).length := (List.getElem?_eq_some_iff.1 hnext).1
    have hfind : (t.along d).find? (fun s => d.Before khz s.khz) = some s := by
      refine List.find?_eq_some_iff_getElem.2 ⟨?_, i + 1, hnextlt, ?_, fun j hj => ?_⟩
      · exact decide_eq_true ((before_iff hi (getElem?_order hnext)).2 (Nat.lt_succ_self i))
      · exact (List.getElem?_eq_some_iff.1 hnext).2
      · have hjth := getElem?_order (List.getElem?_eq_getElem (Nat.lt_trans hj hnextlt))
        simpa [before_iff hi hjth] using Nat.le_of_lt_succ hj
    rw [hfind, Nat.mod_eq_of_lt (by omega)]
    exact ⟨s, rfl, getElem?_order hnext⟩
  | none =>
    have hlast : (t.order d).length = i + 1 := by
      have := List.getElem?_eq_none_iff.1 hnext
      omega
    have hfind : (t.along d).find? (fun s => d.Before khz s.khz) = none := by
      refine List.find?_eq_none.2 fun u hu => ?_
      obtain ⟨j, hj, rfl⟩ := List.getElem_of_mem hu
      have hjth := getElem?_order (List.getElem?_eq_getElem hj)
      simp only [decide_eq_true_eq, before_iff hi hjth]
      omega
    have hfirst : (t.along d)[0]? = some (t.along d)[0] := List.getElem?_eq_getElem (by omega)
    rw [hfind, hlast, Nat.mod_self, Option.none_or, List.head?_eq_getElem?, hfirst]
    exact ⟨_, rfl, getElem?_order hfirst⟩

/-! ## The stations of a list -/

/-- There is a station on the frequencies of the list and on no other. -/
theorem isSome_at?_ofList {stations : List Station} :
    ((ofList stations).at? khz).isSome ↔ khz ∈ stations.map Station.khz := by
  rw [at?_ofList, List.find?_isSome, List.mem_map]
  simp only [decide_eq_true_eq]

theorem mem_khz_ofList {stations : List Station} :
    khz ∈ (ofList stations).stations.map Station.khz ↔ khz ∈ stations.map Station.khz := by
  have hfound : ((ofList stations).at? khz).isSome ↔
      khz ∈ (ofList stations).stations.map Station.khz := by
    rw [at?, List.find?_isSome, List.mem_map]
    simp only [decide_eq_true_eq]
  exact hfound.symm.trans isSome_at?_ofList

theorem nodup_order (t : StationTable) (d : Direction) : (t.order d).Nodup := by
  change (t.order d).Pairwise fun a b => a ≠ b
  refine (List.pairwise_map.2 (t.pairwise_along d)).imp fun {a b} hbefore heq => ?_
  exact d.before_irrefl b (heq ▸ hbefore)

/-- The frequencies of the stations are those of the list, each of them once. -/
theorem order_perm (stations : List Station) (d : Direction) :
    ((ofList stations).order d).Perm (stations.map Station.khz).dedup := by
  refine (List.perm_ext_iff_of_nodup (nodup_order _ d) (List.nodup_dedup _)).2 fun k => ?_
  rw [mem_order, List.mem_dedup]
  exact mem_khz_ofList

end StationTable

namespace SimulatedBand

open StationTable (ofList)

/-- The band made from a configuration, with the dial anywhere. -/
def atUnits (c : Config) (units : UInt32) : SimulatedBand := { ofConfig c with units }

/-- The band after a seek. -/
def afterSeek (d : Direction) (b : SimulatedBand) : SimulatedBand := (tuner (.seek d) b).2

variable {c : Config} {units : UInt32} {d : Direction}

/-- A frequency survives the conversion to device units and back. -/
theorem khz_atUnits (c : Config) (f : Frequency) : (atUnits c f.units).khz = f.khz := by
  rw [f.units_eq, f.khz_eq]
  exact f.channel.khzOfUnits_units

/-- A seek that finds a station tunes to it. -/
theorem tuner_seek {s : Station}
    (h : (ofList c.stations).seek? d (atUnits c units).khz = some s) :
    tuner (.seek d) (atUnits c units) = (.ok (), atUnits c s.frequency.units) := by
  have hafter : (atUnits c units).after (.seek d) = atUnits c s.frequency.units := by
    rw [after, show (atUnits c units).table = ofList c.stations from rfl, h]
    rfl
  rw [← hafter]
  rfl

/-- **Seeks in one direction follow the order of the stations**, starting over at its end. -/
theorem iterate_afterSeek {i : Nat}
    (hi : ((ofList c.stations).order d)[i]? = some (atUnits c units).khz) (count : Nat) :
    ∃ later, (afterSeek d)^[count] (atUnits c units) = atUnits c later ∧
      ((ofList c.stations).order d)[(i + count) % ((ofList c.stations).order d).length]? =
        some (atUnits c later).khz := by
  induction count with
  | zero =>
    refine ⟨units, rfl, ?_⟩
    rwa [Nat.add_zero, Nat.mod_eq_of_lt (List.getElem?_eq_some_iff.1 hi).1]
  | succ count ih =>
    obtain ⟨later, hlater, hplace⟩ := ih
    obtain ⟨s, hseek, hnext⟩ := StationTable.seek?_order hplace
    refine ⟨s.frequency.units, ?_, ?_⟩
    · rw [Function.iterate_succ_apply', hlater, afterSeek, tuner_seek hseek]
    · rw [khz_atUnits, ← Nat.add_assoc, ← Nat.mod_add_mod]
      exact hnext

/-- On a circle, one step back from the next place is where one was, counted from the other end. -/
theorem place_back {i n : Nat} (hi : i < n) : (n - 1 - (i + 1) % n + 1) % n = n - 1 - i := by
  rcases Nat.lt_or_ge (i + 1) n with hlt | hge
  · rw [Nat.mod_eq_of_lt hlt, Nat.mod_eq_of_lt (by omega)]
    omega
  · have hlast : i + 1 = n := by omega
    have hwhole : n - 1 - 0 + 1 = n := by omega
    rw [hlast, Nat.mod_self, hwhole, Nat.mod_self]
    omega

/-- The station that is tuned is told by the tuned frequency. -/
theorem station?_eq_of_khz_eq {v w : UInt32} (h : (atUnits c v).khz = (atUnits c w).khz) :
    (atUnits c v).station? = (atUnits c w).station? :=
  congrArg (ofList c.stations).at? h

/-- A seek back undoes a seek from a station. -/
theorem station?_afterSeek_opposite {i : Nat}
    (hi : ((ofList c.stations).order d)[i]? = some (atUnits c units).khz) :
    (afterSeek d.opposite (afterSeek d (atUnits c units))).station? =
      (atUnits c units).station? := by
  have hlt := (List.getElem?_eq_some_iff.1 hi).1
  -- from the other end the places are counted backwards
  have hbackwards {j : Nat} (hj : j < ((ofList c.stations).order d).length) :
      ((ofList c.stations).order d.opposite)[((ofList c.stations).order d).length - 1 - j]? =
        ((ofList c.stations).order d)[j]? := by
    rw [StationTable.order_opposite, List.getElem?_reverse (by omega)]
    congr 1
    omega
  have hlength : ((ofList c.stations).order d.opposite).length =
      ((ofList c.stations).order d).length := by
    rw [StationTable.order_opposite, List.length_reverse]
  obtain ⟨there, hthere, hplace⟩ := iterate_afterSeek hi 1
  obtain ⟨back, hback, hreturn⟩ :=
    iterate_afterSeek ((hbackwards (Nat.mod_lt _ (Nat.zero_lt_of_lt hlt))).trans hplace) 1
  rw [hlength, place_back hlt, hbackwards hlt, hi] at hreturn
  change afterSeek d (atUnits c units) = _ at hthere
  change afterSeek d.opposite (atUnits c there) = _ at hback
  rw [hthere, hback]
  exact station?_eq_of_khz_eq (Option.some.inj hreturn).symm

/-- Once around, every station has been visited once. -/
theorem visits_eq_rotate {i : Nat}
    (hi : ((ofList c.stations).order d)[i]? = some (atUnits c units).khz) :
    (List.range ((ofList c.stations).order d).length).map
        (fun count => ((afterSeek d)^[count + 1] (atUnits c units)).khz) =
      ((ofList c.stations).order d).rotate (i + 1) := by
  apply List.ext_getElem
  · rw [List.length_map, List.length_range, List.length_rotate]
  · intro count hcount _
    rw [List.length_map, List.length_range] at hcount
    obtain ⟨later, hlater, hplace⟩ := iterate_afterSeek hi (count + 1)
    rw [List.getElem_map, List.getElem_range, hlater, List.getElem_rotate]
    refine ((List.getElem_eq_iff _).2 ?_).symm
    rw [Nat.add_left_comm]
    exact hplace

/-- A station is tuned if the dial stands on one of the frequencies of the configuration. -/
theorem isSome_station?_atUnits :
    (atUnits c units).station?.isSome ↔ (atUnits c units).khz ∈ c.stations.map Station.khz :=
  StationTable.isSome_at?_ofList

/-- **Seeking is a walk around the stations.** On the band made from a configuration with stations,
with the dial anywhere, a seek tunes to the station that comes next. From a station, as many seeks
in one direction as there are frequencies with a station visit each of these once and end where they
began, and a seek in one direction and one in the other lead back. -/
theorem seek_walks_around (c : Config) (hstations : c.stations ≠ []) (units : UInt32) :
    let frequencies := (c.stations.map Station.khz).dedup
    let b := atUnits c units
    (∀ d, ∃ f : Frequency, tuner (.seek d) b = (.ok (), atUnits c f.units) ∧
      NextAmong frequencies d b.khz f.khz ∧ (atUnits c f.units).khz = f.khz ∧
      (atUnits c f.units).station?.isSome) ∧
    (b.station?.isSome → ∀ d,
      ((List.range frequencies.length).map fun count => ((afterSeek d)^[count + 1] b).khz).Perm
        frequencies ∧
      ((afterSeek d)^[frequencies.length] b).station? = b.station? ∧
      (afterSeek d.opposite (afterSeek d b)).station? = b.station?) := by
  intro frequencies b
  have hperm (d : Direction) : ((ofList c.stations).order d).Perm frequencies :=
    StationTable.order_perm c.stations d
  constructor
  · intro d
    have htable : (ofList c.stations).stations ≠ [] := by
      obtain ⟨s, hs⟩ := List.exists_mem_of_ne_nil _ hstations
      have hmem := StationTable.mem_khz_ofList.2 (List.mem_map_of_mem (f := Station.khz) hs)
      exact fun hnil => List.not_mem_nil (by rwa [hnil] at hmem)
    obtain ⟨s, hs, hseek, hnext⟩ := StationTable.seek?_next htable d b.khz
    have htuned := khz_atUnits c s.frequency
    refine ⟨s.frequency, tuner_seek hseek, hnext.congr fun k => ?_, htuned, ?_⟩
    · rw [← StationTable.mem_order (d := d), (hperm d).mem_iff]
    · rw [isSome_station?_atUnits, htuned]
      exact StationTable.mem_khz_ofList.1 (List.mem_map_of_mem hs)
  · intro hstation d
    have hmem : b.khz ∈ (ofList c.stations).order d :=
      (hperm d).mem_iff.2 (List.mem_dedup.2 (isSome_station?_atUnits.1 hstation))
    obtain ⟨i, hi⟩ := List.mem_iff_getElem?.1 hmem
    rw [← (hperm d).length_eq]
    refine ⟨?_, ?_, station?_afterSeek_opposite hi⟩
    · rw [visits_eq_rotate hi]
      exact (List.rotate_perm _ _).trans (hperm d)
    · obtain ⟨later, hlater, hplace⟩ := iterate_afterSeek hi ((ofList c.stations).order d).length
      rw [Nat.add_mod_right, Nat.mod_eq_of_lt (List.getElem?_eq_some_iff.1 hi).1, hi] at hplace
      rw [hlater]
      exact station?_eq_of_khz_eq (Option.some.inj hplace).symm

/-- Listed twice and out of order, four stations are visited in four seeks from the lowest one, with
the dial a little beside it; and from beyond the band a seek downwards finds the highest one. -/
theorem seek_walks_around_listed_twice :
    let stations := Config.standard.stations.reverse ++ Config.standard.stations
    let c := { Config.standard with stations }
    stations ≠ [] ∧ (atUnits c 1425605).station?.isSome ∧
      ((List.range 4).map fun count => ((afterSeek .up)^[count + 1] (atUnits c 1425605)).khz).Perm
        [89100, 93500, 97400, 105100] ∧
      ((afterSeek .up)^[4] (atUnits c 1425605)).station? = (atUnits c 1425605).station? ∧
      ∃ f : Frequency, tuner (.seek .down) (atUnits c 4294967295) = (.ok (), atUnits c f.units) ∧
        NextAmong [89100, 93500, 97400, 105100] .down 268435455 f.khz := by
  intro stations c
  have hstations : stations ≠ [] := by decide
  have hfrequencies : (c.stations.map Station.khz).dedup = [89100, 93500, 97400, 105100] := by
    decide +kernel
  have hstation : (atUnits c 1425605).station?.isSome := by decide +kernel
  obtain ⟨hvisits, hreturn, -⟩ := (seek_walks_around c hstations 1425605).2 hstation .up
  obtain ⟨f, hseek, hnext, -⟩ := (seek_walks_around c hstations 4294967295).1 .down
  have hkhz : (atUnits c 4294967295).khz = 268435455 := by decide +kernel
  rw [hfrequencies] at hvisits hreturn hnext
  rw [hkhz] at hnext
  exact ⟨hstations, hstation, hvisits, hreturn, f, hseek, hnext⟩

end SimulatedBand

end RadioData
