import RadioData.Frequency
/-!
# Stations

A station sends on one channel; what it sends about itself is its programme identification, its name
and its kind of programme. A `StationTable` holds at most one station for each channel, in the order
of their frequencies. `StationTable.ofList` keeps the first of several stations on one channel.
-/

namespace RadioData

/-- A station on the band. -/
structure Station where
  frequency : Frequency
  /-- The programme identification. -/
  pi : UInt16
  /-- The programme service name; eight characters of it go on the air. -/
  ps : String
  /-- The programme type; its five low bits go on the air. -/
  pty : UInt8 := 0
  /-- The signal strength that a tuner reports on this channel. -/
  signal : Int32 := 0xC000
  deriving DecidableEq, Repr

/-- The carrier in kHz. -/
def Station.khz (s : Station) : UInt32 := s.frequency.khz

/-- Stations with rising frequencies. -/
structure StationTable where
  stations : List Station
  rising : stations.Pairwise fun s t => s.khz < t.khz
  deriving Repr

namespace StationTable

/-- Puts a station in its place among others, unless its channel is taken. -/
def place (s : Station) : List Station → List Station
  | [] => [s]
  | t :: ts =>
    if s.khz < t.khz then s :: t :: ts
    else if s.khz = t.khz then t :: ts
    else t :: place s ts

theorem mem_of_mem_place {x s : Station} {l : List Station} (h : x ∈ place s l) :
    x = s ∨ x ∈ l := by
  induction l with
  | nil => simpa [place] using h
  | cons t ts ih =>
    unfold place at h
    split at h
    · simpa using h
    · split at h
      · exact .inr h
      · rcases List.mem_cons.1 h with rfl | h
        · exact .inr (List.mem_cons_self ..)
        · exact (ih h).imp id (List.mem_cons_of_mem _)

/-- Placing keeps frequencies rising. -/
theorem pairwise_place {s : Station} {l : List Station}
    (h : l.Pairwise fun s t => s.khz < t.khz) :
    (place s l).Pairwise fun s t => s.khz < t.khz := by
  induction l with
  | nil => simp [place]
  | cons t ts ih =>
    have ⟨first, rest⟩ := List.pairwise_cons.1 h
    unfold place
    split
    · rename_i lt
      refine List.pairwise_cons.2 ⟨fun x hx => ?_, h⟩
      rcases List.mem_cons.1 hx with rfl | hx
      · exact lt
      · exact UInt32.lt_trans lt (first x hx)
    · split
      · exact h
      · rename_i notLt ne
        refine List.pairwise_cons.2 ⟨fun x hx => ?_, ih rest⟩
        rcases mem_of_mem_place hx with rfl | hx
        · exact UInt32.lt_of_le_of_ne (UInt32.not_lt.1 notLt) fun e => ne e.symm
        · exact first x hx

/-- The table without stations. -/
def empty : StationTable := ⟨[], .nil⟩

/-- Adds a station, unless its channel is taken. -/
def insert (t : StationTable) (s : Station) : StationTable :=
  ⟨place s t.stations, pairwise_place t.rising⟩

/-- The stations of a list. Of several on one channel the first counts. -/
def ofList (stations : List Station) : StationTable := stations.foldl insert empty

/-- The station at a frequency. -/
def at? (t : StationTable) (khz : UInt32) : Option Station :=
  t.stations.find? fun s => s.khz = khz

/-- The first station found from `khz` in the given direction, starting over at the other end of the
band; nothing only if there are no stations. -/
def seek? (t : StationTable) : Direction → UInt32 → Option Station
  | .up, khz => (t.stations.find? fun s => khz < s.khz) <|> t.stations.head?
  | .down, khz => (t.stations.reverse.find? fun s => s.khz < khz) <|> t.stations.getLast?

end StationTable

end RadioData
