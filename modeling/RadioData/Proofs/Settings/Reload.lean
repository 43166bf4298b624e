import RadioData.Proofs.Json.Record
import RadioData.Proofs.Net.Address
import RadioData.Settings
/-!
# Settings survive a reload

Settings that are written as text and read again are the same settings (`settings_survive_reload`).
Each record is written as an object of all its fields, so it is read field by field; what is left to
say of a record is that its fields have different names and that each is read as it was written
(`Station.read_json`, `SimulatedBand.Config.read_json`, `Settings.Simulation.read_json` and
`Settings.read_json`). All numbers in settings are integers of at most 64 bits (`Settings.exact`).
-/

namespace RadioData

open Json

/-! ## Leaves -/

namespace Json.Read

/-- A frequency is read as it was written, for it is a channel of the band. -/
theorem frequency_printed (f : Frequency) : frequency (Value.nat f.khz.toNat).printed = .ok f := by
  rw [Value.nat, Value.printed, frequency, uint32_natural]
  dsimp only
  rw [f.ofKhz_khz]

/-- An address is read as it was written. -/
theorem address_printed (a : SocketAddress) : address (Value.string a.text).printed = .ok a := by
  rw [Value.printed, address, text_printed]
  dsimp only
  rw [a.ofText?_text]

/-- A number with a sign is read as it was written, on either side of zero. -/
theorem int32_printed (n : Int32) : int32 (Value.int n.toInt).printed = .ok n := by
  rw [Value.int]
  split
  · next h => exact int32_natural h
  · next h => exact int32_negative (by omega)

/-- A number that may be missing is read as it was written, and a missing one as `null`. -/
theorem optional_uint32_printed (n : Option UInt32) :
    optional uint32 (Value.ofOption (fun n => .nat n.toNat) n).printed = .ok n := by
  cases n with
  | none => rfl
  | some n => exact congrArg (some <$> ·) (uint32_natural n)

end Json.Read

namespace Json.Value

/-- A number of 64 bits is printed as it is. -/
theorem exact_nat {n : Nat} (h : n < 18446744073709551616) : (nat n).Exact := h

/-- So is a number of 32 bits with a sign. -/
theorem exact_int (n : Int32) : (int n.toInt).Exact := by
  have hlow : -2147483648 ≤ n.toInt := n.le_toInt
  have hhigh : n.toInt < 2147483648 := n.toInt_lt
  rw [int]
  split
  · show n.toInt.toNat < 2 ^ 64
    omega
  · show 0 < n.toInt.natAbs ∧ n.toInt.natAbs ≤ 2 ^ 63
    omega

/-- Items are exact if each of them is. -/
theorem exactItems_map {α : Type} {json : α → Value} (h : ∀ a, (json a).Exact) (as : List α) :
    ExactItems (as.map json) := by
  induction as with
  | nil => trivial
  | cons a as ih => exact ⟨h a, ih⟩

end Json.Value

/-! ## Records -/

/-- A station is read as it was written. -/
theorem Station.read_json (s : Station) : shape.read s.json.printed = .ok s := by
  rw [json, Shape.read_printed (by decide) rfl]
  refine fillAll_mandatory (Read.frequency_printed s.frequency) ?_
  refine fillAll_mandatory (Read.uint16_natural s.pi) ?_
  refine fillAll_mandatory (Read.text_printed _ s.ps) ?_
  refine fillAll_omissible (Read.uint8_natural s.pty) ?_
  refine fillAll_omissible (Read.int32_printed s.signal) ?_
  rfl

/-- A simulated band is read as it was written. -/
theorem SimulatedBand.Config.read_json (c : Config) : shape.read c.json.printed = .ok c := by
  rw [json, Shape.read_printed (by decide) rfl]
  refine fillAll_mandatory (Read.text_printed _ c.name) ?_
  refine fillAll_mandatory (Read.frequency_printed c.initialFrequency) ?_
  refine fillAll_mandatory (Read.list_printed Station.read_json c.stations) ?_
  rfl

/-- The settings of the simulated device are read as they were written. -/
theorem Settings.Simulation.read_json (s : Settings.Simulation) :
    shape.read s.json.printed = .ok s := by
  rw [json, Shape.read_printed (by decide) rfl]
  refine fillAll_omissible (Read.uint64_natural s.groupIntervalMs) ?_
  refine fillAll_omissible (Read.optional_uint32_printed s.damageEvery) ?_
  refine fillAll_omissible s.tuner.read_json ?_
  rfl

/-- Settings are read as they were written. -/
theorem Settings.read_json (s : Settings) : shape.read s.json.printed = .ok s := by
  rw [json, Shape.read_printed (by decide) rfl]
  refine fillAll_omissible (Read.address_printed s.listen) ?_
  refine fillAll_omissible (Read.text_printed _ s.device) ?_
  refine fillAll_omissible (Read.uint64_natural s.pollIntervalMs) ?_
  refine fillAll_omissible (a := s.simulate) rfl ?_
  refine fillAll_omissible s.simulation.read_json ?_
  rfl

/-! ## Numbers in settings -/

/-- All numbers of a station are printed as they are. -/
theorem Station.exact (s : Station) : s.json.Exact := by
  have hkhz : s.khz.toNat < 4294967296 := s.khz.toNat_lt
  have hpi : s.pi.toNat < 65536 := s.pi.toNat_lt
  have hpty : s.pty.toNat < 256 := s.pty.toNat_lt
  exact ⟨Value.exact_nat (by omega), Value.exact_nat (by omega), trivial,
    Value.exact_nat (by omega), Value.exact_int s.signal, trivial⟩

/-- All numbers of a simulated band are printed as they are. -/
theorem SimulatedBand.Config.exact (c : Config) : c.json.Exact := by
  have hkhz : c.initialFrequency.khz.toNat < 4294967296 := c.initialFrequency.khz.toNat_lt
  exact ⟨trivial, Value.exact_nat (by omega), Value.exactItems_map Station.exact c.stations,
    trivial⟩

/-- All numbers in the settings of the simulated device are printed as they are. -/
theorem Settings.Simulation.exact (s : Settings.Simulation) : s.json.Exact := by
  refine ⟨Value.exact_nat s.groupIntervalMs.toNat_lt, ?_, s.tuner.exact, trivial⟩
  cases s.damageEvery with
  | none => trivial
  | some n =>
    have hn : n.toNat < 4294967296 := n.toNat_lt
    exact Value.exact_nat (by omega)

/-- All numbers in settings are integers that are printed as they are. -/
theorem Settings.exact (s : Settings) : s.json.Exact :=
  ⟨trivial, trivial, Value.exact_nat s.pollIntervalMs.toNat_lt, trivial, s.simulation.exact,
    trivial⟩

/-! ## Settings -/

namespace Settings

/-- The text of settings is read as those settings. -/
theorem ofText_text (s : Settings) : ofText s.text = .ok s := by
  rw [ofText, text, Document.ofText_pretty s.exact]
  dsimp only
  rw [readText, s.read_json]
  rfl

/-- All frequencies in settings. -/
def frequencies (s : Settings) : List Frequency :=
  s.simulation.tuner.initialFrequency :: s.simulation.tuner.stations.map Station.frequency

/-- **Settings survive a reload**: the text that settings are written as is read as those settings
again, whatever they are. Whatever text settings are read from, their frequencies are channels of
the band, and to write them and to read them once more leaves them as they are. -/
theorem settings_survive_reload :
    (∀ s : Settings, ofText s.text = .ok s) ∧
      ∀ (text : String) (s : Settings), ofText text = .ok s →
        (∀ f ∈ s.frequencies, 87500 ≤ f.khz ∧ f.khz ≤ 108000 ∧ f.khz % 100 = 0) ∧
          ofText s.text = .ok s := by
  refine ⟨ofText_text, fun text s _ => ⟨fun f _ => ?_, s.ofText_text⟩⟩
  exact ⟨f.inBand.1, f.inBand.2, f.onGrid⟩

/-- Settings that are given as an array, with an address and a path in other forms than they are
written in. -/
theorem settings_survive_reload_rewritten :
    let s : Settings :=
      { listen := .v6 #v[0xFE80, 0, 0, 0, 0, 0, 0, 1] 3 8750, device := "/dev/\"r\"\n" }
    ofText "[\"[FE80:0::1%03]:8750\", \"\\/dev/\\u0022r\\\"\\n\"]" = .ok s ∧
      (∀ f ∈ s.frequencies, 87500 ≤ f.khz ∧ f.khz ≤ 108000 ∧ f.khz % 100 = 0) ∧
        ofText s.text = .ok s := by
  intro s
  have hread : ofText "[\"[FE80:0::1%03]:8750\", \"\\/dev/\\u0022r\\\"\\n\"]" = .ok s := by
    decide +kernel
  exact ⟨hread, settings_survive_reload.2 _ s hread⟩

end Settings

end RadioData
