import Mathlib.Data.List.Destutter
import Mathlib.Data.List.Sort
import RadioData.Proofs.Tuner.Failing
import RadioData.Proofs.Tuner.Seeking
/-!
# The stations of a band

A table of stations is told by its look-ups (`StationTable.ext_at?`), and the look-ups in the table
made from a list are those in the list. So it makes no difference whether the stations are put into
their places one by one or the list is sorted first, without moving stations on one channel past
each other, and then freed of every station that follows another on its channel
(`StationTable.stations_ofList`). No deed changes the table of a band. `first_station_counts` is the
main statement: wherever the dial of a band stands, what is said about the station there is said
about the one that comes first in the configuration.
-/

namespace RadioData

/-! ## Lists with a key -/

section keyed

variable {α : Type} (key : α → UInt32)

theorem decide_key_trans (a b c : α) (hab : decide (key a ≤ key b) = true)
    (hbc : decide (key b ≤ key c) = true) : decide (key a ≤ key c) = true :=
  decide_eq_true (UInt32.le_trans (of_decide_eq_true hab) (of_decide_eq_true hbc))

theorem decide_key_total (a b : α) : (decide (key a ≤ key b) || decide (key b ≤ key a)) = true := by
  simpa using UInt32.le_total (key a) (key b)

theorem pairwise_mergeSort_key (l : List α) :
    (l.mergeSort fun a b => key a ≤ key b).Pairwise fun a b => key a ≤ key b :=
  (List.pairwise_mergeSort (decide_key_trans key) (decide_key_total key) l).imp of_decide_eq_true

/-- Sorting by a key does not move elements with one key past each other. -/
theorem filter_mergeSort (l : List α) (k : UInt32) :
    (l.mergeSort fun a b => key a ≤ key b).filter (fun a => key a = k) =
      l.filter fun a => key a = k := by
  have hsorted : (l.filter fun a => key a = k).Pairwise fun a b => decide (key a ≤ key b) := by
    refine List.pairwise_of_forall_mem_list fun a ha b hb => ?_
    have hka : key a = k := of_decide_eq_true (List.mem_filter.1 ha).2
    have hkb : key b = k := of_decide_eq_true (List.mem_filter.1 hb).2
    rw [hka, hkb]
    exact decide_eq_true (UInt32.le_refl k)
  have hsub : (l.filter fun a => key a = k).Sublist (l.mergeSort fun a b => key a ≤ key b) :=
    List.sublist_mergeSort (decide_key_trans key) (decide_key_total key) hsorted
      List.filter_sublist
  have hfilter := hsub.filter fun a => decide (key a = k)
  rw [List.filter_filter] at hfilter
  simp only [Bool.and_self] at hfilter
  have hperm := (List.mergeSort_perm l fun a b => key a ≤ key b).filter fun a => key a = k
  exact (hfilter.eq_of_length hperm.length_eq.symm).symm

/-- Nor does it change which of them is found. -/
theorem find?_mergeSort (l : List α) (k : UInt32) :
    (l.mergeSort fun a b => key a ≤ key b).find? (fun a => key a = k) =
      l.find? fun a => key a = k := by
  rw [← List.head?_filter, filter_mergeSort, List.head?_filter]

theorem find?_destutter' (a : α) (l : List α) (k : UInt32) :
    (l.destutter' (fun a b => key a ≠ key b) a).find? (fun a => key a = k) =
      (a :: l).find? fun a => key a = k := by
  induction l generalizing a with
  | nil => rfl
  | cons b l ih =>
    by_cases hab : key a = key b
    · rw [List.destutter'_cons_neg _ (not_not.2 hab), ih]
      by_cases ha : key a = k
      · rw [List.find?_cons_of_pos (by simpa using ha), List.find?_cons_of_pos (by simpa using ha)]
      · rw [List.find?_cons_of_neg (by simpa using ha), List.find?_cons_of_neg (by simpa using ha),
          List.find?_cons_of_neg (by simpa using hab ▸ ha)]
    · rw [List.destutter'_cons_pos _ hab, List.find?_cons, List.find?_cons, ih]

/-- An element that is dropped because it follows another one with its key would not have been
found. -/
theorem find?_destutter (l : List α) (k : UInt32) :
    (l.destutter fun a b => key a ≠ key b).find? (fun a => key a = k) =
      l.find? fun a => key a = k := by
  cases l with
  | nil => rfl
  | cons a l => exact find?_destutter' key a l k

/-- Without such elements the keys of a sorted list rise. -/
theorem pairwise_destutter' {a : α} {l : List α}
    (h : (a :: l).Pairwise fun a b => key a ≤ key b) :
    (l.destutter' (fun a b => key a ≠ key b) a).Pairwise fun a b => key a < key b := by
  induction l generalizing a with
  | nil => exact List.pairwise_singleton _ a
  | cons b l ih =>
    obtain ⟨hfirst, hrest⟩ := List.pairwise_cons.1 h
    have hab := hfirst b List.mem_cons_self
    by_cases heq : key a = key b
    · rw [List.destutter'_cons_neg _ (not_not.2 heq)]
      exact ih (h.sublist ((List.sublist_cons_self b l).cons_cons a))
    · rw [List.destutter'_cons_pos _ heq]
      refine List.pairwise_cons.2 ⟨fun x hx => ?_, ih hrest⟩
      have hlt := UInt32.lt_of_le_of_ne hab heq
      rcases List.mem_cons.1 ((l.destutter'_sublist _ b).subset hx) with rfl | hx
      · exact hlt
      · exact UInt32.lt_of_lt_of_le hlt ((List.pairwise_cons.1 hrest).1 x hx)

theorem pairwise_destutter {l : List α} (h : l.Pairwise fun a b => key a ≤ key b) :
    (l.destutter fun a b => key a ≠ key b).Pairwise fun a b => key a < key b := by
  cases l with
  | nil => exact .nil
  | cons a l => exact pairwise_destutter' key h

end keyed

namespace StationTable

variable {t u : StationTable} {s : Station}

theorem nodup (t : StationTable) : t.stations.Nodup :=
  t.rising.imp fun {s u} hlt (heq : s = u) => UInt32.lt_irrefl _ (heq ▸ hlt)

/-- **A table is told by its look-ups.** -/
theorem ext_at? (h : ∀ khz, t.at? khz = u.at? khz) : t = u := by
  have hmem (s : Station) : s ∈ t.stations ↔ s ∈ u.stations :=
    ⟨fun hs => mem_of_at? ((h s.khz).symm.trans (at?_of_mem hs)),
      fun hs => mem_of_at? ((h s.khz).trans (at?_of_mem hs))⟩
  have hperm := (List.perm_ext_iff_of_nodup t.nodup u.nodup).2 hmem
  have hstations : t.stations = u.stations :=
    hperm.eq_of_pairwise (fun a b _ _ hab hba => absurd hba (UInt32.lt_asymm hab)) t.rising u.rising
  cases t
  cases u
  cases hstations
  rfl

/-- **A table has the first one of the stations on each channel**, as if they had been sorted and
all that follow another on its channel dropped. -/
theorem stations_ofList (stations : List Station) :
    (ofList stations).stations =
      (stations.mergeSort fun s u => s.khz ≤ u.khz).destutter fun s u => s.khz ≠ u.khz := by
  let sorted : StationTable :=
    ⟨_, pairwise_destutter Station.khz (pairwise_mergeSort_key Station.khz stations)⟩
  have hsorted : ofList stations = sorted := by
    refine ext_at? fun khz => ?_
    rw [at?_ofList, at?, find?_destutter, find?_mergeSort]
  exact congrArg StationTable.stations hsorted

/-- Stations on different channels may change places. -/
theorem ofList_congr {stations others : List Station}
    (h : ∀ khz, others.filter (fun s => s.khz = khz) = stations.filter fun s => s.khz = khz) :
    ofList others = ofList stations := by
  refine ext_at? fun khz => ?_
  rw [at?_ofList, at?_ofList, ← List.head?_filter, h, List.head?_filter]

end StationTable

namespace SimulatedBand

open StationTable (ofList)

/-! ## Bands made from a configuration -/

/-- No script moves more than the dial. -/
theorem exists_run_eq {α : Type} (script : Script α) (b : SimulatedBand) :
    ∃ units, (script.run tuner b).2 = { b with units } := by
  refine script.run_keeps (P := fun later => ∃ units, later = { b with units }) ?_ ⟨b.units, rfl⟩
  rintro c later ⟨units, rfl⟩
  exact exists_tuner_eq c { b with units }

/-- No deed changes more than where the dial stands and why calls fail. -/
theorem exists_perform_eq (d : Deed) (b : SimulatedBand) :
    ∃ units failure, (perform d b).2 = { b with units, failure } := by
  cases d with
  | call c =>
    obtain ⟨units, hcall⟩ := exists_tuner_eq c b
    exact ⟨units, b.failure, hcall⟩
  | execute command =>
    obtain ⟨units, hrun⟩ := exists_run_eq command.script b
    exact ⟨units, b.failure, hrun⟩
  | interpret line =>
    obtain ⟨units, hrun⟩ := exists_run_eq (lineScript line) b
    exact ⟨units, b.failure, hrun⟩
  | fail reason => exact ⟨b.units, reason, rfl⟩

/-- Nor do any deeds done one after the other. -/
theorem exists_afterAll_eq (deeds : List Deed) (b : SimulatedBand) :
    ∃ units failure, afterAll deeds b = { b with units, failure } := by
  induction deeds generalizing b with
  | nil => exact ⟨b.units, b.failure, rfl⟩
  | cons d deeds ih =>
    obtain ⟨units, failure, hd⟩ := exists_perform_eq d b
    rw [afterAll_cons, hd]
    exact ih { b with units, failure }

/-- What a client is told who asks for the signal. -/
theorem answerLine_getSignal {b : SimulatedBand} {line : String}
    (hline : Command.parse line = .ok .getSignal) :
    answerLine tuner line b = (match b.failure with
      | none => .ok (.reply (.signal (b.station?.elim 0 Station.signal)))
      | some reason => .error (.unavailable reason), b) := by
  cases hfailure : b.failure with
  | some reason => exact answerLine_failing hfailure hline (by decide)
  | none =>
    have hanswer : b.answer .signal = b.station?.elim 0 Station.signal := by
      rw [answer]
      cases b.station? <;> rfl
    have hcall : tuner .signal b = (.ok (b.station?.elim 0 Station.signal), b) := by
      rw [tuner, hfailure, ← hanswer]
      rfl
    rw [answerLine, lineScript, hline]
    exact Script.run_call_ok hcall

/-- **Of the stations on one channel the first one in the configuration counts.** The band made from
a configuration has its stations in the order of their frequencies, one on each frequency of the
configuration, the one that comes first in it; they are what is left of the sorted configuration if
every station is dropped that follows another one on its channel. Whatever is done to the band, only
the place of the dial and the failure change. Wherever the dial stands, the station that is tuned is
the first one of the configuration there, and a client who asks for the signal is told the signal of
this station, or 0 if there is none, unless a failure is set. Stations on different channels may
change their places in the configuration: the band made from it is the same. -/
theorem first_station_counts (c : Config) :
    let stations := (ofList c.stations).stations
    let first (khz : UInt32) : Option Station := c.stations.find? fun s => s.khz = khz
    (stations.Pairwise fun s u => s.khz < u.khz) ∧
    (∀ khz, khz ∈ stations.map Station.khz ↔ khz ∈ c.stations.map Station.khz) ∧
    (∀ s ∈ stations, first s.khz = some s) ∧
    (stations = (c.stations.mergeSort fun s u => s.khz ≤ u.khz).destutter
      fun s u => s.khz ≠ u.khz) ∧
    (∀ deeds, ∃ units failure, afterAll deeds (ofConfig c) = { ofConfig c with units, failure }) ∧
    (∀ units failure,
      let b : SimulatedBand := { ofConfig c with units, failure }
      b.station? = first (khzOfUnits units) ∧
      ∀ line, Command.parse line = .ok .getSignal →
        answerLine tuner line b = (match failure with
          | none => .ok (.reply (.signal ((first (khzOfUnits units)).elim 0 Station.signal)))
          | some reason => .error (.unavailable reason), b)) ∧
    ∀ others, (∀ khz, (others.filter fun s => s.khz = khz) =
        c.stations.filter fun s => s.khz = khz) →
      ofConfig { c with stations := others } = ofConfig c := by
  intro stations first
  refine ⟨(ofList c.stations).rising, fun khz => StationTable.mem_khz_ofList, fun s hs => ?_,
    StationTable.stations_ofList c.stations, fun deeds => exists_afterAll_eq deeds (ofConfig c),
    fun units failure => ?_, fun others hothers => ?_⟩
  · exact (StationTable.at?_ofList c.stations s.khz).symm.trans (StationTable.at?_of_mem hs)
  · intro b
    have hstation : b.station? = first (khzOfUnits units) :=
      StationTable.at?_ofList c.stations (khzOfUnits units)
    refine ⟨hstation, fun line hline => ?_⟩
    rw [answerLine_getSignal hline, hstation]
  · rw [ofConfig, StationTable.ofList_congr hothers]
    rfl

/-- Three stations on two channels, in two orders: the same band, whose dial is put between two
channels and stands on the first station of the lower one. -/
theorem first_station_counts_shared_channel :
    let low : Frequency := ⟨89100, by decide, by decide⟩
    let high : Frequency := ⟨93500, by decide, by decide⟩
    let c : Config := ⟨"Bench", .lowest,
      [⟨high, 1, "HIGH", 0, 30⟩, ⟨low, 2, "FIRST", 0, 20⟩, ⟨low, 3, "SECOND", 0, 10⟩]⟩
    let others : List Station :=
      [⟨low, 2, "FIRST", 0, 20⟩, ⟨low, 3, "SECOND", 0, 10⟩, ⟨high, 1, "HIGH", 0, 30⟩]
    let b : SimulatedBand := { ofConfig c with units := low.units + 15, failure := none }
    Command.parse " get_signal " = .ok .getSignal ∧
      answerLine tuner " get_signal " b = (.ok (.reply (.signal 20)), b) ∧
      (∀ khz, (others.filter fun s => s.khz = khz) = c.stations.filter fun s => s.khz = khz) ∧
      ofConfig { c with stations := others } = ofConfig c := by
  intro low high c others b
  have hparse : Command.parse " get_signal " = .ok .getSignal := by decide +kernel
  have hfirst : (c.stations.find? fun s => s.khz = khzOfUnits (low.units + 15)) =
      some ⟨low, 2, "FIRST", 0, 20⟩ := by decide +kernel
  have hfilter : ∀ khz, (others.filter fun s => s.khz = khz) =
      c.stations.filter fun s => s.khz = khz := by
    intro khz
    by_cases hlow : low.khz = khz
    · subst hlow
      decide
    · by_cases hhigh : high.khz = khz <;> simp [c, others, Station.khz, hlow, hhigh]
  obtain ⟨-, -, -, -, -, hstates, hothers⟩ := first_station_counts c
  refine ⟨hparse, ((hstates (low.units + 15) none).2 _ hparse).trans ?_, hfilter,
    hothers others hfilter⟩
  dsimp only
  rw [hfirst]
  rfl

end SimulatedBand

end RadioData
