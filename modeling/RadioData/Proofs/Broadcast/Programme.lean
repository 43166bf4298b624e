import Mathlib.Data.List.Induction
import RadioData.Proofs.Broadcast.Transmission
import RadioData.Proofs.Group.OnAir
import RadioData.Proofs.Tuner.Exchange
/-!
# What is on the air

What a broadcast sends at a tick depends on the stations that were tuned at this tick and at those
before it, and on nothing else: not on when they were handled, nor on the reads and calls in
between. A `Programme` is a station whose name is being sent, with the number of its latest group,
and `Programme.next` says what a tick makes of it. `OnAir` is the invariant: the carousel of a
broadcast is that of the programme on the air, so each group that the record holds carries the words
of the programme of its tick (`group_of_tick`).

`broadcast_identifies_station` is the main statement: a tick sends a group if and only if a station
is tuned, under the identification of this station, and the segment of its name is the one after
that of the tick before, if that tick sent a group under the same identification, and otherwise the
first one.
-/

namespace RadioData

/-! ## Programmes -/

/-- A station whose name is being sent. -/
structure Programme where
  station : Station
  /-- The number of the latest group, counted from zero. -/
  number : Nat
  deriving DecidableEq, Repr

namespace Programme

/-- What is on the air after a tick at which this station is tuned: nothing without a station, its
own name from the beginning if the identification is another one, else the next group. -/
def next (p : Option Programme) : Option Station → Option Programme
  | none => none
  | some s =>
    match p with
    | some p => if p.station.pi = s.pi then some ⟨p.station, p.number + 1⟩ else some ⟨s, 0⟩
    | none => some ⟨s, 0⟩

/-- What is on the air after ticks at which these stations were tuned. -/
def after (stations : List (Option Station)) : Option Programme := stations.foldl next none

/-- The carousel that sends the latest group. -/
def carousel (damageEvery : Option UInt32) (p : Programme) : GroupCarousel :=
  (GroupCarousel.ofStation p.station damageEvery).after p.number

theorem after_concat (stations : List (Option Station)) (station : Option Station) :
    after (stations ++ [station]) = next (after stations) station := by
  rw [after, List.foldl_append]
  rfl

/-- Nothing is on the air after a tick without a station. -/
theorem after_of_getLast? {stations : List (Option Station)}
    (h : stations.getLast? = some none) : after stations = none := by
  obtain ⟨earlier, rfl⟩ := List.getLast?_eq_some_iff.1 h
  rw [after_concat]
  rfl

/-- A programme is on the air if and only if a station is tuned. -/
theorem isSome_next (p : Option Programme) (station : Option Station) :
    (next p station).isSome = station.isSome := by
  cases station with
  | none => rfl
  | some s =>
    cases p with
    | none => rfl
    | some p =>
      rw [next]
      split <;> rfl

/-- It has the identification of the station that is tuned. -/
theorem pi_of_next {p : Option Programme} {s : Station} {q : Programme}
    (h : next p (some s) = some q) : q.station.pi = s.pi := by
  cases p with
  | none =>
    cases h
    rfl
  | some p =>
    rw [next] at h
    split at h
    · next hpi =>
      cases h
      exact hpi
    · cases h
      rfl

end Programme

namespace GroupCarousel

/-- Another group is sent. -/
theorem after_succ (c : GroupCarousel) (k : Nat) : c.after (k + 1) = (c.after k).sendBlocks.2 := by
  induction k generalizing c with
  | zero => rfl
  | succ k ih => exact ih c.sendBlocks.2

theorem pi_after (c : GroupCarousel) (k : Nat) : (c.after k).pi = c.pi := by
  rw [after_eq]

/-- The blocks of a group carry its words. -/
theorem payloads_sendBlocks (c : GroupCarousel) : c.sendBlocks.1.map Block.payload = c.words := by
  simp only [sendBlocks, words, List.zip_cons_cons, List.zip_nil_right, blocksOf, List.map_cons,
    List.map_nil, Block.payload_ofParts]

/-- The blocks of a group stand at the four positions. -/
theorem positions_sendBlocks (c : GroupCarousel) :
    c.sendBlocks.1.map Block.position = [.a, .b, .c, .d] := by
  simp only [sendBlocks, words, List.zip_cons_cons, List.zip_nil_right, blocksOf, List.map_cons,
    List.map_nil]
  rw [Block.position_ofParts _ _ rfl, Block.position_ofParts _ _ rfl,
    Block.position_ofParts _ _ rfl, Block.position_ofParts _ _ rfl]

end GroupCarousel

/-! ## One tick -/

namespace Broadcast

variable {b : Broadcast} {p : Option Programme}

/-- At a tick the carousel of the programme that is then on the air sends. -/
theorem carouselFor_eq
    (h : b.carousel = p.map fun p => (p.carousel b.damageEvery).sendBlocks.2)
    (station : Option Station) :
    b.carouselFor station = (Programme.next p station).map (Programme.carousel b.damageEvery) := by
  cases station with
  | none => rfl
  | some s =>
    cases p with
    | none =>
      rw [carouselFor, h]
      rfl
    | some p =>
      have hpi : (p.carousel b.damageEvery).sendBlocks.2.pi = p.station.pi :=
        GroupCarousel.pi_after ..
      simp only [carouselFor, h, Option.map_some, hpi, Programme.next]
      split
      · exact congrArg some (GroupCarousel.after_succ ..).symm
      · rfl

/-- A tick sends the next group of the programme that is then on the air. -/
theorem tick_eq (h : b.carousel = p.map fun p => (p.carousel b.damageEvery).sendBlocks.2)
    (station : Option Station) (now : Nat) :
    let q := Programme.next p station
    (b.tick station now).1.damageEvery = b.damageEvery ∧
      (b.tick station now).1.carousel = q.map (fun p => (p.carousel b.damageEvery).sendBlocks.2) ∧
      (b.tick station now).2.group = q.map fun p => (p.carousel b.damageEvery).sendBlocks.1 := by
  intro q
  have hcarousel : b.carouselFor station = q.map (Programme.carousel b.damageEvery) :=
    carouselFor_eq h station
  rw [tick, hcarousel]
  cases q with
  | none => exact ⟨rfl, rfl, rfl⟩
  | some q => exact ⟨rfl, rfl, rfl⟩

end Broadcast

namespace Transmission

/-! ## What the record says -/

/-- What an entry does to the band. -/
def Entry.onBand (b : SimulatedBand) : Entry → SimulatedBand
  | .called call => (SimulatedBand.tuner call b).2
  | .failure reason => b.withFailure reason
  | .ticked .. | .read _ => b

/-- The band that a record leaves. -/
def bandAfter (c : SimulatedBand.Config) (record : List Entry) : SimulatedBand :=
  record.foldl Entry.onBand (.ofConfig c)

/-- The station that is tuned by the calls in a record. -/
def tunedAfter (c : SimulatedBand.Config) (record : List Entry) : Option Station :=
  (bandAfter c record).station?

/-- The stations that were tuned at the ticks. -/
def tuned (record : List Entry) : List (Option Station) := (ticks record).map Prod.fst

/-- A tick takes the station that is tuned, and sends the group of the programme. -/
def Told (c : SimulatedBand.Config) (damageEvery : Option UInt32) (earlier : List Entry) :
    Entry → Prop
  | .ticked station t =>
    station = tunedAfter c earlier ∧
      t.group = (Programme.after (tuned earlier ++ [station])).map fun p =>
        (p.carousel damageEvery).sendBlocks.1
  | .read _ | .called _ | .failure _ => True

theorem bandAfter_concat (c : SimulatedBand.Config) (record : List Entry) (e : Entry) :
    bandAfter c (record ++ [e]) = e.onBand (bandAfter c record) := by
  rw [bandAfter, List.foldl_append]
  rfl

theorem tuned_concat (record : List Entry) (e : Entry) :
    tuned (record ++ [e]) = tuned record ++ (e.tick?.map Prod.fst).toList := by
  rw [tuned, ticks_concat, List.map_append]
  cases e.tick? <;> rfl

/-! ## The invariant -/

/-- What holds of a transmission and its record. -/
structure OnAir (c : SimulatedBand.Config) (damageEvery : Option UInt32) (a : Transmission) :
    Prop where
  /-- The band is the one that the record leaves. -/
  band : a.band = bandAfter c a.history
  damage : a.broadcast.damageEvery = damageEvery
  /-- The carousel is that of the programme on the air. -/
  carousel : a.broadcast.carousel =
    (Programme.after (tuned a.history)).map fun p => (p.carousel damageEvery).sendBlocks.2
  told : Throughout (Told c damageEvery) a.history

variable {c : SimulatedBand.Config} {damageEvery : Option UInt32} {a next : Transmission}
  {record : List Entry}

/-- What is no tick leaves the programme as it is. -/
theorem OnAir.quiet (h : OnAir c damageEvery a) {e : Entry} (htick : e.tick? = none)
    (hband : next.band = e.onBand a.band) (hdamage : next.broadcast.damageEvery = damageEvery)
    (hcarousel : next.broadcast.carousel = a.broadcast.carousel)
    (hhistory : next.history = a.history ++ [e]) : OnAir c damageEvery next where
  band := by rw [hband, h.band, hhistory, bandAfter_concat]
  damage := hdamage
  carousel := by
    rw [hcarousel, h.carousel, hhistory, tuned_concat, htick, Option.map_none, Option.toList_none,
      List.append_nil]
  told := by
    rw [hhistory]
    refine h.told.concat ?_
    cases e with
    | ticked station t => cases htick
    | read data | called call | failure reason => trivial

/-- A tick goes on with the programme or begins another one. -/
theorem OnAir.tick (h : OnAir c damageEvery a) : OnAir c damageEvery a.handleTick := by
  have hstation : a.band.station? = tunedAfter c a.history := congrArg _ h.band
  have hcarousel := h.carousel
  rw [← h.damage] at hcarousel
  obtain ⟨hdamage, hnext, hgroup⟩ := Broadcast.tick_eq hcarousel a.band.station? a.now
  rw [h.damage] at hdamage hnext hgroup
  rw [← Programme.after_concat] at hnext hgroup
  let e : Entry := .ticked a.band.station? (a.broadcast.tick a.band.station? a.now).2
  have htuned : tuned (a.history ++ [e]) = tuned a.history ++ [a.band.station?] :=
    tuned_concat a.history e
  rw [← htuned] at hnext
  exact ⟨h.band.trans (bandAfter_concat c a.history e).symm, hdamage, hnext,
    h.told.concat (x := e) ⟨hstation, hgroup⟩⟩

/-- The invariant lasts, whatever happens. -/
theorem lasting_onAir : Lasting (OnAir c damageEvery) where
  wait _ h := ⟨h.band, h.damage, h.carousel, h.told⟩
  tick h _ _ := h.tick
  read _ h := h.quiet rfl rfl h.damage rfl rfl
  call _ h := h.quiet rfl rfl h.damage rfl rfl
  failure _ h := h.quiet rfl rfl h.damage rfl rfl

/-- Every run of a new broadcast keeps to what is on the air. -/
theorem onAir_run {interval : Nat} {b : Broadcast}
    (hb : Broadcast.start? interval damageEvery = some b) (deeds : List Deed) :
    OnAir c damageEvery ((start c b).run deeds) := by
  obtain ⟨hinterval, rfl⟩ : ∃ _ : 0 < interval, _ = b := by simpa [Broadcast.start?] using hb
  refine lasting_onAir.run ?_ deeds
  exact ⟨rfl, rfl, rfl, throughout_nil⟩

/-- The group of a tick is that of the programme which the stations up to this tick put on the
air. -/
theorem group_of_tick (h : Throughout (Told c damageEvery) record) {i : Nat}
    {station : Option Station} {t : Tick} (hi : (ticks record)[i]? = some (station, t)) :
    t.group = (Programme.after ((tuned record).take (i + 1))).map fun p =>
      (p.carousel damageEvery).sendBlocks.1 := by
  induction record using List.reverseRecOn with
  | nil => cases hi
  | append_singleton record e ih =>
    rw [ticks_concat] at hi
    rw [tuned_concat]
    have hlength : (tuned record).length = (ticks record).length := List.length_map ..
    rcases Nat.lt_or_ge i (ticks record).length with hlt | hge
    · rw [List.getElem?_append_left hlt] at hi
      rw [List.take_append_of_le_length (by omega)]
      exact ih h.of_append hi
    · rw [List.getElem?_append_right hge] at hi
      cases e with
      | read data | called call | failure reason => cases hi
      | ticked station' t' =>
        obtain ⟨hzero, hentry⟩ : i - (ticks record).length = 0 ∧ (station', t') = (station, t) := by
          simpa [Entry.tick?, List.getElem?_singleton] using hi
        cases hentry
        rw [List.take_of_length_le (by simp [Entry.tick?]; omega)]
        exact (h record _ [] rfl).2

/-- The tick before, if any, sent the group of the programme that is on the air. -/
theorem group_of_latest (h : Throughout (Told c damageEvery) record) :
    (ticks record).getLast?.bind (fun x => x.2.group) =
      (Programme.after (tuned record)).map fun p => (p.carousel damageEvery).sendBlocks.1 := by
  have hlength : (tuned record).length = (ticks record).length := List.length_map ..
  cases hlatest : (ticks record).getLast? with
  | none =>
    rw [tuned, List.getLast?_eq_none_iff.1 hlatest]
    rfl
  | some x =>
    have hpos : 0 < (ticks record).length := List.length_pos_of_mem (List.mem_of_getLast? hlatest)
    rw [List.getLast?_eq_getElem?] at hlatest
    rw [Option.bind_some, group_of_tick h hlatest, List.take_of_length_le (by omega)]

/-! ## What a group says -/

/-- The number that a group carries in one of its blocks, whatever the block is marked with. -/
def wordOf (g : List Block) (i : Nat) : Nat := (g.map fun b => b.payload.toNat).getD i 0

/-- The programme identification: the whole first word. -/
def identificationOf (g : List Block) : Nat := wordOf g 0

/-- The number of the segment of the name: the two lowest bits of the second word. -/
def segmentOf (g : List Block) : Nat := wordOf g 1 % 4

/-- The programme type: the five bits of the second word from bit 5 on. -/
def programmeTypeOf (g : List Block) : Nat := wordOf g 1 / 32 % 32

/-- The two characters of the name: the high and the low byte of the fourth word. -/
def lettersOf (g : List Block) : List Nat := [wordOf g 3 / 256, wordOf g 3 % 256]

/-- The characters of a name are bytes. -/
theorem letter_lt (s : Station) {i : Nat} (hi : i < 8) : s.letter i < 256 := by
  rw [← GroupCarousel.toNat_character s none hi]
  exact UInt8.toNat_lt _

variable (p : Programme)

/-- A group of a programme carries the words of this programme. -/
theorem words_group : ((p.carousel damageEvery).sendBlocks.1.map fun b => b.payload.toNat) =
    p.station.words p.number := by
  rw [← GroupCarousel.words_after p.station damageEvery p.number,
    ← GroupCarousel.payloads_sendBlocks, List.map_map]
  rfl

theorem identificationOf_group :
    identificationOf (p.carousel damageEvery).sendBlocks.1 = p.station.pi.toNat := by
  rw [identificationOf, wordOf, words_group]
  rfl

theorem segmentOf_group : segmentOf (p.carousel damageEvery).sendBlocks.1 = p.number % 4 := by
  rw [segmentOf, wordOf, words_group]
  show (p.station.pty.toNat % 32 * 32 + 8 + p.number % 4) % 4 = p.number % 4
  omega

theorem programmeTypeOf_group :
    programmeTypeOf (p.carousel damageEvery).sendBlocks.1 = p.station.pty.toNat % 32 := by
  rw [programmeTypeOf, wordOf, words_group]
  show (p.station.pty.toNat % 32 * 32 + 8 + p.number % 4) / 32 % 32 = p.station.pty.toNat % 32
  omega

theorem lettersOf_group :
    lettersOf (p.carousel damageEvery).sendBlocks.1 = p.station.segment (p.number % 4) := by
  have hlow : p.station.letter (2 * (p.number % 4) + 1) < 256 := letter_lt _ (by omega)
  rw [lettersOf, wordOf, words_group]
  show [(256 * p.station.letter (2 * (p.number % 4)) + _) / 256, (256 * _ + _) % 256] = _
  rw [Station.segment, Nat.mul_add_div (by decide), Nat.div_eq_of_lt hlow, Nat.mul_add_mod,
    Nat.mod_eq_of_lt hlow, Nat.add_zero]

/-! ## The identification and the segments -/

/-- The segment that a group has to bring which is sent after what is in a record: the first one if
there was no tick before, if at the tick before no station was tuned, or if the group sent there has
another identification, and otherwise the one after that of this group. -/
def segmentDue (earlier : List Entry) (identification : Nat) : Nat :=
  match (ticks earlier).getLast? with
  | none | some (none, _) => 0
  | some (some _, t) =>
    match t.group with
    | none => 0
    | some g => if identificationOf g = identification then (segmentOf g + 1) % 4 else 0

/-- Without a programme on the air a name begins with its first segment. -/
theorem segmentDue_of_none (h : Throughout (Told c damageEvery) record)
    (hp : Programme.after (tuned record) = none) (identification : Nat) :
    segmentDue record identification = 0 := by
  have hlatest := group_of_latest h
  rw [hp] at hlatest
  rw [segmentDue]
  split
  · rfl
  · rfl
  · next s t hlast =>
    rw [hlast] at hlatest
    rw [show t.group = none from hlatest]

/-- A programme on the air goes on under the same identification, and only then. -/
theorem segmentDue_of_some (h : Throughout (Told c damageEvery) record)
    (hp : Programme.after (tuned record) = some p) (s : Station) :
    segmentDue record s.pi.toNat = if p.station.pi = s.pi then (p.number + 1) % 4 else 0 := by
  have hlatest := group_of_latest h
  rw [hp] at hlatest
  obtain ⟨⟨station, t⟩, hlast, hgroup⟩ := Option.bind_eq_some_iff.1 hlatest
  have htuned : (tuned record).getLast? = some station := by
    rw [tuned, List.getLast?_map, hlast]
    rfl
  cases station with
  | none =>
    rw [Programme.after_of_getLast? htuned] at hp
    cases hp
  | some _ =>
    have hpi : p.station.pi.toNat = s.pi.toNat ↔ p.station.pi = s.pi := UInt16.toNat_inj
    simp only [segmentDue, hlast, show t.group = some _ from hgroup, identificationOf_group,
      segmentOf_group, hpi, Nat.mod_add_mod]

/-- The segment that is due is that of the programme which a tick puts on the air. -/
theorem segmentDue_of_next (h : Throughout (Told c damageEvery) record) {s : Station}
    (hp : Programme.next (Programme.after (tuned record)) (some s) = some p) :
    segmentDue record s.pi.toNat = p.number % 4 := by
  cases hlatest : Programme.after (tuned record) with
  | none =>
    rw [hlatest] at hp
    cases hp
    exact segmentDue_of_none h hlatest _
  | some latest =>
    rw [segmentDue_of_some latest h hlatest]
    rw [hlatest, Programme.next] at hp
    split at hp
    · next hpi =>
      cases hp
      exact if_pos hpi
    · next hpi =>
      cases hp
      exact if_neg hpi

/-- **A broadcast identifies its station.** Whatever is done to a transmission, a tick takes the
station that is tuned at that moment, and sends a group if and only if there is one. The four blocks
of the group stand at their positions; the first word is the identification of the station, and the
segment of the name is the first one if there was no tick before, if no station was tuned at the
tick before or if the group sent there has another identification, and otherwise the next one. -/
theorem broadcast_identifies_station (c : SimulatedBand.Config) {interval : Nat}
    {damageEvery : Option UInt32} {b : Broadcast}
    (hb : Broadcast.start? interval damageEvery = some b) (deeds : List Deed) :
    ∀ earlier station t later,
      ((start c b).run deeds).history = earlier ++ .ticked station t :: later →
      station = tunedAfter c earlier ∧ t.group.isSome = station.isSome ∧
        ∀ s g, station = some s → t.group = some g →
          g.map Block.position = [.a, .b, .c, .d] ∧ identificationOf g = s.pi.toNat ∧
            segmentOf g = segmentDue earlier s.pi.toNat := by
  intro earlier station t later hhistory
  have htold := (onAir_run (c := c) hb deeds).told
  obtain ⟨hstation, hgroup⟩ := htold earlier _ later hhistory
  rw [Programme.after_concat] at hgroup
  rw [hhistory] at htold
  refine ⟨hstation, ?_, fun s g hs hg => ?_⟩
  · rw [hgroup, Option.isSome_map, Programme.isSome_next]
  subst hs
  rw [hg] at hgroup
  obtain ⟨q, hq, rfl⟩ := Option.map_eq_some_iff.1 hgroup.symm
  refine ⟨GroupCarousel.positions_sendBlocks _, ?_, ?_⟩
  · rw [identificationOf_group, Programme.pi_of_next hq]
  rw [segmentOf_group, segmentDue_of_next q htold.of_append hq]

/-- A station sends its first group, then a call that fails leaves it tuned: the next group brings
the second segment. -/
theorem broadcast_identifies_station_after_failure :
    ∃ b : Broadcast, ∃ deeds : List Deed,
      let history := ((start .standard b).run deeds).history
      ∃ g,
        history[4]? =
          some (.ticked (tunedAfter .standard (history.take 4)) ⟨87579, 88, some g⟩) ∧
        identificationOf g = 0xF211 ∧ segmentOf g = 1 := by
  let b : Broadcast := { interval := 87579, interval_pos := by decide, damageEvery := some 3 }
  let deeds : List Deed :=
    [.call (.seek .up), .tick, .fail (some "broken"), .call (.seek .up), .wait 88, .tick]
  let history := ((start .standard b).run deeds).history
  let s : Station := ⟨⟨89100, by decide, by decide⟩, 0xF211, "FRANCE I", 5, 0xB000⟩
  let g : List Block := [⟨17, 242, 0⟩, ⟨169, 0, 129⟩, ⟨205, 224, 2⟩, ⟨78, 65, 3⟩]
  have hhistory : history = history.take 4 ++ .ticked (some s) ⟨87579, 88, some g⟩ :: [] := by
    decide +kernel
  obtain ⟨hstation, -, hgroup⟩ :=
    broadcast_identifies_station .standard (show Broadcast.start? 87579 (some 3) = some b from rfl)
      deeds _ _ _ _ hhistory
  obtain ⟨-, hidentification, hsegment⟩ := hgroup s g rfl rfl
  refine ⟨b, deeds, g, ?_, hidentification, hsegment.trans (by decide +kernel)⟩
  rw [← hstation]
  show history[4]? = _
  decide +kernel

end Transmission

end RadioData
