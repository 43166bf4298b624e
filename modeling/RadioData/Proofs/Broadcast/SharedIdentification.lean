import RadioData.Proofs.Broadcast.Framing
import RadioData.Proofs.Broadcast.Programme
import RadioData.Proofs.Tuner.Stations
/-!
# Stations that share an identification

A broadcast takes up another station's programme only when the identification changes. So a group
belongs to the station with which its programme was begun: a station that has the identification of
the tuned one, but not necessarily its programme type and its name. `own_programmes_iff` is the main
statement: what is sent is always the programme of the tuned station if and only if stations of the
band with the same identification have the same programme. For one direction every station whose
programme is on the air was tuned at some tick (`programme_of_tick`); for the other, any few
stations of the band can be tuned at one tick after the other (`exists_run`).
-/

namespace RadioData

namespace SimulatedBand

variable {b : SimulatedBand}

/-- Where a call to tune to a station leaves the dial. -/
theorem station?_tune (hfailure : b.failure = none) {s : Station} (hs : s ∈ b.table.stations) :
    (tuner (.tune s.frequency.units) b).2.station? = some s := by
  have hkhz : khzOfUnits s.frequency.units = s.khz := by
    rw [s.frequency.units_eq, Channel.khzOfUnits_units, ← s.frequency.khz_eq]
    rfl
  rw [tuner, hfailure]
  show b.table.at? (khzOfUnits s.frequency.units) = some s
  rw [hkhz, StationTable.at?_of_mem hs]

end SimulatedBand

namespace Programme

/-- A programme on the air was begun with a station that was tuned. -/
theorem station_mem {stations : List (Option Station)} {p : Programme}
    (h : after stations = some p) : some p.station ∈ stations := by
  induction stations using List.reverseRecOn generalizing p with
  | nil => cases h
  | append_singleton stations station ih =>
    rw [after_concat] at h
    cases station with
    | none => cases h
    | some s =>
      cases hlatest : after stations with
      | none =>
        rw [hlatest] at h
        cases h
        exact List.mem_append_right _ (List.mem_singleton.2 rfl)
      | some latest =>
        rw [hlatest, next] at h
        split at h
        · cases h
          exact List.mem_append_left _ (ih (p := latest) hlatest)
        · cases h
          exact List.mem_append_right _ (List.mem_singleton.2 rfl)

/-- A programme outlasts ticks of a station with the same identification. -/
theorem after_shared {s u : Station} (h : s.pi = u.pi) (n : Nat) :
    after (some s :: List.replicate n (some u)) = some ⟨s, n⟩ := by
  induction n with
  | zero => rfl
  | succ n ih =>
    rw [List.replicate_succ', ← List.cons_append, after_concat, ih]
    exact if_pos h

end Programme

namespace Transmission

variable {c : SimulatedBand.Config} {damageEvery : Option UInt32} {record : List Entry}

/-! ## Any stations can be tuned one after the other -/

/-- The stations of the band are those that it was made of. -/
theorem table_bandAfter (c : SimulatedBand.Config) (record : List Entry) :
    (bandAfter c record).table = .ofList c.stations := by
  induction record using List.reverseRecOn with
  | nil => rfl
  | append_singleton record e ih =>
    rw [bandAfter_concat, ← ih]
    cases e with
    | called call =>
      obtain ⟨units, hcall⟩ := SimulatedBand.exists_tuner_eq call (bandAfter c record)
      rw [Entry.onBand, hcall]
    | ticked station t | read data | failure reason => rfl

/-- There are no more groups than ticks. -/
theorem length_groups_le_ticks (record : List Entry) :
    (groups record).length ≤ (ticks record).length :=
  groups_eq record ▸ List.length_filterMap_le ..

/-- Nothing waits until there have been more groups than the pipe holds. -/
theorem Conveys.unwritten_eq_nil {b : Broadcast} (h : Conveys b record)
    (hcount : (groups record).length ≤ 64) : b.unwritten = [] := by
  have hsent := length_sent h.length_group
  rw [h.unwritten]
  refine List.drop_eq_nil_of_le ?_
  rw [backlog, List.length_drop, Broadcast.capacity]
  omega

/-- In time the next tick is handled, if nothing waits. -/
theorem run_tick {a : Transmission} (hfree : a.broadcast.unwritten = []) :
    ∃ ms, a.run [.wait ms, .tick] = { a with now := a.now + ms }.handleTick := by
  refine ⟨wholeMs a.broadcast.due, ?_⟩
  have hready : a.broadcast.ready? = some (wholeMs a.broadcast.due) := if_pos hfree
  simp only [run_cons, act, hready, if_pos (Nat.le_add_left ..)]
  rfl

/-- Any few stations of the band can be tuned at one tick after the other. -/
theorem exists_run {interval : Nat} {b : Broadcast}
    (hb : Broadcast.start? interval damageEvery = some b) (stations : List Station)
    (hmem : ∀ s ∈ stations, s ∈ (StationTable.ofList c.stations).stations)
    (hcount : stations.length ≤ 64) :
    ∃ deeds, tuned ((start c b).run deeds).history = stations.map some ∧
      ((start c b).run deeds).band.failure = none := by
  induction stations using List.reverseRecOn with
  | nil => exact ⟨[], rfl, rfl⟩
  | append_singleton stations s ih =>
    rw [List.length_append, List.length_singleton] at hcount
    obtain ⟨deeds, htuned, hfailure⟩ :=
      ih (fun s hs => hmem s (List.mem_append_left _ hs)) (by omega)
    let a : Transmission := (start c b).run deeds
    let retuned : Transmission := a.handleCall (.tune s.frequency.units)
    have hfree : retuned.broadcast.unwritten = [] := by
      have hticks : (tuned a.history).length = stations.length := by rw [htuned, List.length_map]
      rw [tuned, List.length_map] at hticks
      refine (conveys_run hb deeds).unwritten_eq_nil ?_
      exact Nat.le_trans (length_groups_le_ticks a.history) (by omega)
    have hstation : retuned.band.station? = some s := by
      refine SimulatedBand.station?_tune hfailure ?_
      rw [(onAir_run (c := c) hb deeds).band, table_bandAfter]
      exact hmem s (List.mem_append_right _ (List.mem_singleton.2 rfl))
    obtain ⟨ms, hrun⟩ := run_tick hfree
    let later : Transmission := { retuned with now := retuned.now + ms }
    have hlast : (start c b).run (deeds ++ [.call (.tune s.frequency.units), .wait ms, .tick]) =
        later.handleTick := by
      rw [run, List.foldl_append]
      exact hrun
    refine ⟨deeds ++ [.call (.tune s.frequency.units), .wait ms, .tick], ?_, ?_⟩
    · rw [hlast]
      show tuned (a.history ++ [_] ++ [.ticked retuned.band.station? _]) = _
      rw [tuned_concat, tuned_concat, hstation, htuned, List.map_append]
      exact congrArg (· ++ _) (List.append_nil _)
    · rw [hlast]
      show (SimulatedBand.tuner _ a.band).2.failure = none
      rw [SimulatedBand.tuner, hfailure]
      exact hfailure

/-! ## Whose programme is sent -/

/-- Two stations send the same of themselves, except perhaps for the identification. -/
def SameProgramme (s u : Station) : Prop :=
  s.pty.toNat % 32 = u.pty.toNat % 32 ∧ s.nameOnAir = u.nameOnAir

instance (s u : Station) : Decidable (SameProgramme s u) := inferInstanceAs (Decidable (_ ∧ _))

/-- A group carries the programme type of a station and the two characters of its name that belong
to the group's segment. -/
def CarriesProgramme (s : Station) (g : List Block) : Prop :=
  programmeTypeOf g = s.pty.toNat % 32 ∧ lettersOf g = s.segment (segmentOf g)

instance (s : Station) (g : List Block) : Decidable (CarriesProgramme s g) :=
  inferInstanceAs (Decidable (_ ∧ _))

/-- Each group in a record carries the programme of the station that was tuned. -/
def OwnProgrammes (record : List Entry) : Prop :=
  ∀ s t g, .ticked (some s) t ∈ record → t.group = some g → CarriesProgramme s g

theorem carriesProgramme_group (damageEvery : Option UInt32) (p : Programme) :
    CarriesProgramme p.station (p.carousel damageEvery).sendBlocks.1 :=
  ⟨programmeTypeOf_group p, by rw [lettersOf_group, segmentOf_group]⟩

/-- A name is made of its segments. -/
theorem nameOnAir_eq {s u : Station} (h : ∀ i < 4, s.segment i = u.segment i) :
    s.nameOnAir = u.nameOnAir := by
  refine List.map_injective_iff.2 (fun _ _ => Char.toNat_inj.1) ?_
  rw [← s.segments_name, ← u.segments_name]
  exact List.flatMap_congr fun i hi => h i (List.mem_range.1 hi)

theorem segment_eq {s u : Station} (h : s.nameOnAir = u.nameOnAir) (i : Nat) :
    s.segment i = u.segment i := by
  simp only [Station.segment, Station.letter, h]

theorem mem_ticks {station : Option Station} {t : Tick} :
    (station, t) ∈ ticks record ↔ .ticked station t ∈ record := by
  refine ⟨fun h => ?_, fun h => List.mem_filterMap.2 ⟨_, h, rfl⟩⟩
  obtain ⟨e, he, hentry⟩ := List.mem_filterMap.1 h
  cases e with
  | read data | called call | failure reason => cases hentry
  | ticked station t =>
    cases hentry
    exact he

/-- A station that is tuned at a tick is one of the band's. -/
theorem mem_of_tuned (h : Throughout (Told c damageEvery) record) {s : Station}
    (hs : some s ∈ tuned record) : s ∈ (StationTable.ofList c.stations).stations := by
  obtain ⟨⟨_, t⟩, htick, rfl⟩ := List.mem_map.1 hs
  obtain ⟨earlier, later, rfl⟩ := List.append_of_mem (mem_ticks.1 htick)
  obtain ⟨htuned, -⟩ := h earlier _ later rfl
  rw [← table_bandAfter c earlier]
  exact StationTable.mem_of_at? htuned.symm

/-- The group of a tick belongs to a station of the band with the identification of the tuned
one. -/
theorem programme_of_tick (h : Throughout (Told c damageEvery) record) {earlier later : List Entry}
    {s : Station} {t : Tick} (hrecord : record = earlier ++ .ticked (some s) t :: later) :
    ∃ p, Programme.after (tuned earlier ++ [some s]) = some p ∧
      t.group = some (p.carousel damageEvery).sendBlocks.1 ∧ p.station.pi = s.pi ∧
      p.station ∈ (StationTable.ofList c.stations).stations := by
  obtain ⟨hstation, hgroup⟩ := h earlier _ later hrecord
  obtain ⟨p, hp⟩ : ∃ p, Programme.next (Programme.after (tuned earlier)) (some s) = some p :=
    Option.isSome_iff_exists.1 (Programme.isSome_next ..)
  have hafter : Programme.after (tuned earlier ++ [some s]) = some p :=
    (Programme.after_concat ..).trans hp
  have htuned : some p.station ∈ tuned (earlier ++ [.ticked (some s) t]) := by
    rw [tuned_concat]
    exact Programme.station_mem hafter
  have hwithin : Throughout (Told c damageEvery) (earlier ++ [.ticked (some s) t] ++ later) := by
    rwa [List.append_assoc, List.singleton_append, ← hrecord]
  exact ⟨p, hafter, by rw [hgroup, hafter]; rfl, Programme.pi_of_next hp,
    mem_of_tuned hwithin.of_append htuned⟩

/-- **What is sent is the tuned station's programme if and only if no other station has its
identification.** A group always carries the programme of the station with which the name on the
air was begun, a station with the identification of the tuned one. This is the tuned station's own
programme, whatever is done to a transmission, if and only if any two stations of the band that
share an identification have the same programme type and the same name on the air. -/
theorem own_programmes_iff (c : SimulatedBand.Config) {interval : Nat}
    {damageEvery : Option UInt32} {b : Broadcast}
    (hb : Broadcast.start? interval damageEvery = some b) :
    let stations := (StationTable.ofList c.stations).stations
    (∀ deeds earlier s t later,
      ((start c b).run deeds).history = earlier ++ .ticked (some s) t :: later →
      ∃ p g, Programme.after (tuned earlier ++ [some s]) = some p ∧ p.station.pi = s.pi ∧
        p.station ∈ stations ∧ t.group = some g ∧ CarriesProgramme p.station g) ∧
    ((∀ deeds, OwnProgrammes ((start c b).run deeds).history) ↔
      ∀ s ∈ stations, ∀ u ∈ stations, s.pi = u.pi → SameProgramme s u) := by
  intro stations
  have hbegun (deeds : List Deed) {earlier later : List Entry} {s : Station} {t : Tick}
      (hhistory : ((start c b).run deeds).history = earlier ++ .ticked (some s) t :: later) :=
    programme_of_tick (onAir_run (c := c) hb deeds).told hhistory
  refine ⟨fun deeds earlier s t later hhistory => ?_, fun hown s hs u hu hpi => ?_,
    fun hshared deeds s t g hentry hg => ?_⟩
  · obtain ⟨p, hp, hgroup, hpi, hmem⟩ := hbegun deeds hhistory
    exact ⟨p, _, hp, hpi, hmem, hgroup, carriesProgramme_group damageEvery p⟩
  · -- after one tick of `s` four ticks of `u` send all of the name of `s`
    obtain ⟨deeds, htuned, -⟩ := exists_run hb (s :: List.replicate 4 u)
      (by simpa using ⟨hs, hu⟩) (by simp)
    have hcarries (i : Nat) (hi : i < 4) :
        s.pty.toNat % 32 = u.pty.toNat % 32 ∧
          s.segment ((i + 1) % 4) = u.segment ((i + 1) % 4) := by
      have hstation : (tuned ((start c b).run deeds).history)[i + 1]? = some (some u) := by
        rw [htuned, List.map_cons, List.map_replicate, List.getElem?_cons_succ,
          List.getElem?_replicate_of_lt hi]
      rw [tuned, List.getElem?_map] at hstation
      obtain ⟨⟨_, t⟩, htick, rfl⟩ := Option.map_eq_some_iff.1 hstation
      have hgroup := group_of_tick (onAir_run (c := c) hb deeds).told htick
      rw [htuned, List.map_cons, List.map_replicate, List.take_succ_cons, List.take_replicate,
        Nat.min_eq_left hi, Programme.after_shared hpi] at hgroup
      have hentry := mem_ticks.1 (List.mem_of_getElem? htick)
      obtain ⟨htype, hletters⟩ := hown deeds u t _ hentry hgroup
      rw [programmeTypeOf_group] at htype
      rw [lettersOf_group, segmentOf_group] at hletters
      exact ⟨htype, hletters⟩
    refine ⟨(hcarries 0 (by decide)).1, nameOnAir_eq fun i hi => ?_⟩
    obtain rfl | rfl | rfl | rfl : i = 0 ∨ i = 1 ∨ i = 2 ∨ i = 3 := by omega
    · exact (hcarries 3 (by decide)).2
    · exact (hcarries 0 (by decide)).2
    · exact (hcarries 1 (by decide)).2
    · exact (hcarries 2 (by decide)).2
  · obtain ⟨earlier, later, hhistory⟩ := List.append_of_mem hentry
    obtain ⟨p, -, hgroup, hpi, hmem⟩ := hbegun deeds hhistory
    have hstation : s ∈ stations := mem_of_tuned (onAir_run (c := c) hb deeds).told
      (List.mem_map.2 ⟨_, mem_ticks.2 hentry, rfl⟩)
    obtain rfl : (p.carousel damageEvery).sendBlocks.1 = g := Option.some.inj (hgroup.symm.trans hg)
    obtain ⟨htype, hname⟩ := hshared p.station hmem s hstation hpi
    obtain ⟨hcarried, hletters⟩ := carriesProgramme_group damageEvery p
    exact ⟨hcarried.trans htype, hletters.trans (segment_eq hname _)⟩

/-- The standard band's stations have four identifications, so each sends its own programme. -/
theorem own_programmes_iff_standard :
    ∃ b, Broadcast.start? 87579 (some 3) = some b ∧
      ∀ deeds, OwnProgrammes ((start .standard b).run deeds).history := by
  have hb : Broadcast.start? 87579 (some 3) =
      some ⟨87579, by decide, some 3, none, 0, [], []⟩ := rfl
  exact ⟨_, hb, (own_programmes_iff .standard hb).2.2 (by decide +kernel)⟩

/-- Two stations share an identification: after a retune from one to the other, the programme type
and the characters of the former go on being sent. -/
theorem programme_outlasts_retune :
    let first : Station := ⟨⟨89100, by decide, by decide⟩, 0x1234, "AAAAAAAA", 5, 0xC000⟩
    let second : Station := ⟨⟨93500, by decide, by decide⟩, 0x1234, "BBBBBBBB", 10, 0xC000⟩
    let c : SimulatedBand.Config := ⟨"Bench", .lowest, [first, second]⟩
    ∃ b, Broadcast.start? 87579 none = some b ∧
      ¬ ∀ deeds, OwnProgrammes ((start c b).run deeds).history := by
  intro first second c
  refine ⟨_, rfl, fun hown => ?_⟩
  let deeds : List Deed :=
    [.call (.tune first.frequency.units), .tick, .call (.tune second.frequency.units), .wait 88,
      .tick]
  let g : List Block := [⟨0x34, 0x12, 0⟩, ⟨169, 0, 1⟩, ⟨0xCD, 0xE0, 2⟩, ⟨65, 65, 3⟩]
  have hcarries : CarriesProgramme second g :=
    hown deeds second ⟨87579, 88, some g⟩ g (by decide +kernel) rfl
  exact absurd hcarries (by decide +kernel)

end Transmission

end RadioData
