import RadioData.Broadcast
import RadioData.Json.Printer
import RadioData.Json.Shape
import RadioData.Net.Address
import RadioData.SystemError
import RadioData.Tuner.RadioDevice
import RadioData.Tuner.Simulated
/-!
# Settings of the server

Where to listen, which device to serve, how long a session waits at most, and what to simulate in
place of a device. Both intervals may be given as zero but are never used as such: a wait or a
broadcast without any time in between would never come to rest.

Stations, bands and settings are written as JSON records and read from them. All fields of the
settings may be left out; of a station, its programme type and its signal. A frequency is a number
of kilohertz that has to be a channel, an address is its text.

`Settings.ofFile` says what a settings file holds once the system has handed over its bytes, or
refused to. A file has to be well-formed UTF-8 throughout; nothing is replaced.
`SettingsError.report` is what an operator is told: what could not be done, and below it the cause.
-/

namespace RadioData

/-- Settings of the simulated device. -/
structure Settings.Simulation where
  /-- The time between two groups, in milliseconds. -/
  groupIntervalMs : UInt64 := 88
  /-- How often a block is damaged. -/
  damageEvery : Option UInt32 := none
  tuner : SimulatedBand.Config := .standard
  deriving DecidableEq, Repr

/-- Settings of the server. -/
structure Settings where
  /-- Where clients are accepted: by default on every interface. -/
  listen : SocketAddress := .v4 ⟨0, 0, 0, 0⟩ 8750
  /-- The file of the radio device. -/
  device : String := "/dev/radio0"
  /-- How long a session waits at most, in milliseconds. -/
  pollIntervalMs : UInt64 := 1000
  /-- Whether the simulated device is served. -/
  simulate : Bool := false
  simulation : Settings.Simulation := {}
  deriving DecidableEq, Repr

namespace Settings

/-- The poll interval that sessions use, in milliseconds. -/
def pollMs (s : Settings) : Nat := max 1 s.pollIntervalMs.toNat

/-- The time between two groups that the broadcast uses, in milliseconds. -/
def groupMs (s : Settings) : Nat := max 1 s.simulation.groupIntervalMs.toNat

/-- The tuner of the simulated device. -/
def tuner (s : Settings) : SimulatedBand := .ofConfig s.simulation.tuner

/-- How the device that is served is named to operators. -/
def describe (s : Settings) : String :=
  if s.simulate then s.tuner.describe else RadioDevice.describe s.device

end Settings

/-! ## Settings as JSON -/

open Json

namespace Json.Read

/-- A channel of the band, given in kHz. -/
def frequency : Read Frequency := fun d =>
  match uint32 d with
  | .error f => .error f
  | .ok khz =>
    match Frequency.ofKhz khz with
    | .ok f => .ok f
    | .error e => .error (.rejected e.message)

/-- The address of a socket, given as text. -/
def address : Read SocketAddress := fun d =>
  match text "socket address" d with
  | .error f => .error f
  | .ok s =>
    match SocketAddress.ofText? s with
    | some a => .ok a
    | none => .error (.rejected "invalid socket address syntax")

end Json.Read

namespace Json.Value

/-- A number without sign. -/
def nat (n : Nat) : Value := .number (.natural n)

/-- A number that may be below zero. -/
def int (n : Int) : Value :=
  .number (if 0 ≤ n then .natural n.toNat else .negative n.natAbs)

/-- A value that may be missing. -/
def ofOption {α : Type} (value : α → Value) : Option α → Value
  | some a => value a
  | none => .null

end Json.Value

/-- How a station is read. -/
def Station.shape : Shape Station where
  label := "struct VirtualStation"
  fields :=
    [ .mandatory "frequency" Read.frequency fun frequency s => { s with frequency },
      .mandatory "pi" Read.uint16 fun pi s => { s with pi },
      .mandatory "ps" (Read.text "a string") fun ps s => { s with ps },
      .omissible "pty" Read.uint8 fun pty s => { s with pty },
      .omissible "signal" Read.int32 fun signal s => { s with signal } ]
  blank := { frequency := .lowest, pi := 0, ps := "" }

/-- A station as JSON. -/
def Station.json (s : Station) : Value :=
  .object
    [ ("frequency", .nat s.khz.toNat),
      ("pi", .nat s.pi.toNat),
      ("ps", .string s.ps),
      ("pty", .nat s.pty.toNat),
      ("signal", .int s.signal.toInt) ]

namespace SimulatedBand.Config

/-- How a simulated band is read. -/
def shape : Shape Config where
  label := "struct VirtualTunerConfig"
  fields :=
    [ .mandatory "name" (Read.text "a string") fun name c => { c with name },
      .mandatory "initial_frequency" Read.frequency fun initialFrequency c =>
        { c with initialFrequency },
      .mandatory "stations" (Read.list Station.shape.read) fun stations c => { c with stations } ]
  blank := { name := "", initialFrequency := .lowest, stations := [] }

/-- A simulated band as JSON. -/
def json (c : Config) : Value :=
  .object
    [ ("name", .string c.name),
      ("initial_frequency", .nat c.initialFrequency.khz.toNat),
      ("stations", .array (c.stations.map Station.json)) ]

end SimulatedBand.Config

namespace Settings.Simulation

/-- How the settings of the simulated device are read. -/
def shape : Shape Settings.Simulation where
  label := "struct SimulationSettings"
  fields :=
    [ .omissible "group_interval_ms" Read.uint64 fun groupIntervalMs s =>
        { s with groupIntervalMs },
      .omissible "corrupt_every" (Read.optional Read.uint32) fun damageEvery s =>
        { s with damageEvery },
      .omissible "tuner" SimulatedBand.Config.shape.read fun tuner s => { s with tuner } ]
  blank := {}

/-- The settings of the simulated device as JSON. -/
def json (s : Settings.Simulation) : Value :=
  .object
    [ ("group_interval_ms", .nat s.groupIntervalMs.toNat),
      ("corrupt_every", .ofOption (fun n => .nat n.toNat) s.damageEvery),
      ("tuner", s.tuner.json) ]

end Settings.Simulation

namespace Settings

/-- How settings are read. -/
def shape : Shape Settings where
  label := "struct ServerSettings"
  fields :=
    [ .omissible "listen_addr" Read.address fun listen s => { s with listen },
      .omissible "device" (Read.text "path string") fun device s => { s with device },
      .omissible "poll_interval_ms" Read.uint64 fun pollIntervalMs s => { s with pollIntervalMs },
      .omissible "simulate" Read.boolean fun simulate s => { s with simulate },
      .omissible "simulation" Settings.Simulation.shape.read fun simulation s =>
        { s with simulation } ]
  blank := {}

/-- Settings as JSON. -/
def json (s : Settings) : Value :=
  .object
    [ ("listen_addr", .string s.listen.text),
      ("device", .string s.device),
      ("poll_interval_ms", .nat s.pollIntervalMs.toNat),
      ("simulate", .boolean s.simulate),
      ("simulation", s.simulation.json) ]

/-- Settings as text, over several lines. -/
def text (s : Settings) : String := s.json.pretty

/-- Reads settings. -/
def ofText (s : String) : Except Fault Settings :=
  let (d, rest) := Document.ofText s
  readText shape.read d (Document.trailing rest)

end Settings

/-! ## Settings files -/

/-- Why settings could not be had from a file. -/
inductive SettingsError where
  /-- The system refused to hand over the file. -/
  | cannotOpen (path : String) (cause : SystemError)
  /-- The file is not well-formed UTF-8. -/
  | notText (path : String)
  /-- The file does not hold settings. -/
  | cannotRead (path : String) (fault : Json.Fault)
  deriving DecidableEq, Repr

namespace SettingsError

/-- What could not be done. -/
def message : SettingsError → String
  | .cannotOpen path _ | .notText path => s!"Failed to read settings from {path}"
  | .cannotRead path _ => s!"Failed to parse settings in {path}"

/-- Why it could not be done. -/
def cause : SettingsError → String
  | .cannotOpen _ cause => cause.message
  | .notText _ => "stream did not contain valid UTF-8"
  | .cannotRead _ fault => fault.message

/-- What an operator is told. -/
def report (e : SettingsError) : String := s!"Error: {e.message}\n\nCaused by:\n    {e.cause}"

end SettingsError

/-- The settings in a file. -/
def Settings.ofFile (path : String) (content : Except SystemError ByteArray) :
    Except SettingsError Settings :=
  match content with
  | .error cause => .error (.cannotOpen path cause)
  | .ok bytes =>
    match String.fromUTF8? bytes with
    | none => .error (.notText path)
    | some text =>
      match Settings.ofText text with
      | .error fault => .error (.cannotRead path fault)
      | .ok s => .ok s

end RadioData
