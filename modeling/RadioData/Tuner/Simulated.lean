import RadioData.Station
import RadioData.Tuner
/-!
# A tuner made of a list of stations

A `SimulatedBand` is a band with known stations and a dial that stands somewhere on it. Seeking goes
to the next station from where the dial stands, starting over at the other end of the band. The band
can be made to fail: while a failure is set, every call gives its reason and changes nothing.
-/

namespace RadioData

/-- What a simulated band is made from. -/
structure SimulatedBand.Config where
  /-- The name that the tuner gives. -/
  name : String
  /-- The frequency that the dial stands on at first. -/
  initialFrequency : Frequency
  /-- The stations on the band, in any order. -/
  stations : List Station
  deriving DecidableEq, Repr

/-- A simulated band between two calls. -/
structure SimulatedBand where
  name : String
  /-- Where the dial stands, in device units. -/
  units : UInt32
  table : StationTable
  /-- Why calls fail, while they do. -/
  failure : Option String := none
  deriving Repr

namespace SimulatedBand

/-- A band with four stations. -/
def Config.standard : Config where
  name := "Virtual FM Tuner"
  initialFrequency := .lowest
  stations :=
    [ ⟨⟨89100, by decide, by decide⟩, 0xF211, "FRANCE I", 5, 0xB000⟩,
      ⟨⟨93500, by decide, by decide⟩, 0xF202, "INTER", 1, 0xD000⟩,
      ⟨⟨97400, by decide, by decide⟩, 0xF205, "FIP", 15, 0x9000⟩,
      ⟨⟨105100, by decide, by decide⟩, 0xF204, "MOUV", 10, 0xE000⟩ ]

/-- The band that a configuration describes. -/
def ofConfig (c : Config) : SimulatedBand :=
  { name := c.name, units := c.initialFrequency.units, table := .ofList c.stations }

/-- Where the dial stands, in whole kilohertz. -/
def khz (b : SimulatedBand) : UInt32 := khzOfUnits b.units

/-- The station that the dial stands on. -/
def station? (b : SimulatedBand) : Option Station := b.table.at? b.khz

/-- How the tuner is named to operators. -/
def describe (b : SimulatedBand) : String :=
  s!"simulated tuner with {b.table.stations.length} stations"

/-- Makes all calls fail for a reason, or lets them succeed again. -/
def withFailure (b : SimulatedBand) (reason : Option String) : SimulatedBand :=
  { b with failure := reason }

/-- The band after a call that succeeds. A seek without any stations leaves the dial where it is. -/
def after (b : SimulatedBand) : Call → SimulatedBand
  | .tune units => { b with units }
  | .seek d =>
    match b.table.seek? d b.khz with
    | some s => { b with units := s.frequency.units }
    | none => b
  | .frequency | .signal | .name => b

/-- The answer of a call that succeeds. Where there is no station there is no signal. -/
def answer (b : SimulatedBand) : (c : Call) → c.Answer
  | .frequency => b.units
  | .tune _ => ()
  | .seek _ => ()
  | .signal =>
    match b.station? with
    | some s => s.signal
    | none => 0
  | .name => b.name

/-- How a simulated band answers calls. -/
def tuner : Tuner SimulatedBand := fun c b =>
  match b.failure with
  | some reason => (.error (.unavailable reason), b)
  | none => (.ok (b.answer c), b.after c)

/-- A call moves nothing but the dial. -/
theorem exists_tuner_eq (c : Call) (b : SimulatedBand) :
    ∃ units, (tuner c b).2 = { b with units } := by
  rw [tuner]
  split
  · exact ⟨b.units, rfl⟩
  · cases c with
    | tune units => exact ⟨units, rfl⟩
    | seek d =>
      simp only [after]
      split
      · next s hs => exact ⟨s.frequency.units, rfl⟩
      · exact ⟨b.units, rfl⟩
    | frequency | signal | name => exact ⟨b.units, rfl⟩

end SimulatedBand

end RadioData
