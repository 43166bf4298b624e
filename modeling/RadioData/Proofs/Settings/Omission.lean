import RadioData.Proofs.Json.Variation
import RadioData.Proofs.Settings.Reload
/-!
# Settings that leave members out

What is read from settings of which members have been left out, put into another order or added
(`Varies`). Each record is told by its fields once more: `only` is the record of which just some
fields are there, and whatever fields come in whatever order, this is what has been read so far.
Where only members are missing that may be missing (`Omissible`), the whole is `reset`: the record
with its defaults in their places. Stations come first, then the band that holds them, the simulated
device that holds the band and the settings; `missing_members_mean_defaults` is the main statement,
about texts.
-/

namespace RadioData

open Json

namespace Json.Read

variable {gone : Gaps} {w : Written}

/-- A truth value is read however it is written. -/
theorem boolean_varies {b : Bool} (h : Varies gone (.boolean b) w) :
    boolean w.document = .ok b := by
  rw [h.document_boolean]
  rfl

/-- So is an address, whatever escapes its text is written with. -/
theorem address_varies {a : SocketAddress} (h : Varies gone (.string a.text) w) :
    address w.document = .ok a := by
  rw [address, h.read_string]
  dsimp only
  rw [a.ofText?_text]

/-- So is a number or its absence. -/
theorem optional_uint32_varies {n : Option UInt32}
    (h : Varies gone (.ofOption (fun n => .nat n.toNat) n) w) :
    optional uint32 w.document = .ok n := by
  cases n with
  | none =>
    rw [h.document_null]
    rfl
  | some n => exact h.read_number (optional_uint32_printed (some n))

end Json.Read

/-! ## Stations -/

namespace Station

/-- The station without the members that are left out. -/
def reset (s : Station) (gone : Gaps) : Station :=
  { s with
    pty := if gone [.member "pty"] then 0 else s.pty
    signal := if gone [.member "signal"] then 0xC000 else s.signal }

/-- The station of which only some fields are there. -/
def only (s : Station) (has : String → Bool) : Station where
  frequency := if has "frequency" then s.frequency else shape.blank.frequency
  pi := if has "pi" then s.pi else shape.blank.pi
  ps := if has "ps" then s.ps else shape.blank.ps
  pty := if has "pty" then s.pty else shape.blank.pty
  signal := if has "signal" then s.signal else shape.blank.signal

/-- A station with some of its fields is the station with the others reset. -/
theorem only_eq_reset (s : Station) {gone : Gaps} (h : shape.Spares gone) :
    (s.only fun name => name ∈ shape.names && !gone [.member name]) = s.reset gone := by
  simp only [Shape.Spares, shape, List.forall_mem_cons, Field.mandatory, Field.omissible] at h
  obtain ⟨hfrequency, hpi, hps, -⟩ := h
  simp only [only, reset, shape, Shape.names, Field.mandatory, Field.omissible, List.map_cons,
    List.map_nil, List.mem_cons, true_or, or_true, decide_true, Bool.true_and, hfrequency, hpi, hps]
  cases gone [.member "pty"] <;> cases gone [.member "signal"] <;> rfl

/-- A station is read as what is written of it. -/
theorem read_varies (s : Station) {gone : Gaps} (hspares : shape.Spares gone) {w : Written}
    (h : Varies gone s.json w) : shape.read w.document = .ok (s.reset gone) := by
  rw [← s.only_eq_reset hspares]
  refine Shape.read_varies s.only (by decide) rfl ?_ hspares h
  refine .cons (.mandatory (fun w hw => hw.read_number (Read.frequency_printed s.frequency))
    fun has => by simp [only]) ?_
  refine .cons (.mandatory (fun w hw => hw.read_number (Read.uint16_natural s.pi))
    fun has => by simp [only]) ?_
  refine .cons (.mandatory (fun w hw => hw.read_string _) fun has => by simp [only]) ?_
  refine .cons (.omissible (fun w hw => hw.read_number (Read.uint8_natural s.pty))
    fun has => by simp [only]) ?_
  exact .cons (.omissible (fun w hw => hw.read_number (Read.int32_printed s.signal))
    fun has => by simp [only]) .nil

end Station

/-! ## Bands -/

namespace SimulatedBand.Config

/-- The band whose stations are without the members that are left out. -/
def reset (c : Config) (gone : Gaps) : Config :=
  { c with
    stations := c.stations.mapIdx fun index s =>
      s.reset ((gone.under (.member "stations")).under (.item index)) }

/-- The band of which only some fields are there. -/
def only (c : Config) (has : String → Bool) : Config where
  name := if has "name" then c.name else shape.blank.name
  initialFrequency :=
    if has "initial_frequency" then c.initialFrequency else shape.blank.initialFrequency
  stations := if has "stations" then c.stations else shape.blank.stations

/-- No field of a simulated band can be left out. -/
theorem only_eq_self (c : Config) {gone : Gaps} (h : shape.Spares gone) :
    (c.only fun name => name ∈ shape.names && !gone [.member name]) = c := by
  simp only [Shape.Spares, shape, List.forall_mem_cons, Field.mandatory] at h
  obtain ⟨hname, hfrequency, hstations, -⟩ := h
  simp [only, shape, Shape.names, Field.mandatory, hname, hfrequency, hstations]

/-- A simulated band is read as what is written of it. -/
theorem read_varies (c : Config) {gone : Gaps} (hspares : shape.Spares gone)
    (hstations : ∀ index,
      Station.shape.Spares ((gone.under (.member "stations")).under (.item index)))
    {w : Written} (h : Varies gone c.json w) : shape.read w.document = .ok (c.reset gone) := by
  have hlist : ∀ w,
      Varies (gone.under (.member "stations")) (.array (c.stations.map Station.json)) w →
        Read.list Station.shape.read w.document = .ok (c.reset gone).stations := fun w hw =>
    Read.list_varies (fun index s w hw => s.read_varies (hstations index) hw) hw
  rw [← (c.reset gone).only_eq_self hspares]
  refine Shape.read_varies (c.reset gone).only (by decide) rfl ?_ hspares h
  refine .cons (.mandatory (fun w hw => hw.read_string _) fun has => by simp [only, reset]) ?_
  refine .cons (.mandatory
    (fun w hw => hw.read_number (Read.frequency_printed c.initialFrequency))
    fun has => by simp [only, reset]) ?_
  exact .cons (.mandatory hlist fun has => by simp [only, reset]) .nil

end SimulatedBand.Config

/-! ## The simulated device -/

namespace Settings.Simulation

/-- The settings of the simulated device without the members that are left out. -/
def reset (s : Settings.Simulation) (gone : Gaps) : Settings.Simulation where
  groupIntervalMs :=
    if gone [.member "group_interval_ms"] then ({} : Simulation).groupIntervalMs
    else s.groupIntervalMs
  damageEvery :=
    if gone [.member "corrupt_every"] then ({} : Simulation).damageEvery else s.damageEvery
  tuner :=
    if gone [.member "tuner"] then ({} : Simulation).tuner
    else s.tuner.reset (gone.under (.member "tuner"))

/-- The settings of the simulated device of which only some fields are there. -/
def only (s : Settings.Simulation) (has : String → Bool) : Settings.Simulation where
  groupIntervalMs :=
    if has "group_interval_ms" then s.groupIntervalMs else shape.blank.groupIntervalMs
  damageEvery := if has "corrupt_every" then s.damageEvery else shape.blank.damageEvery
  tuner := if has "tuner" then s.tuner else shape.blank.tuner

/-- The settings of the simulated device are read as what is written of them. -/
theorem read_varies (s : Settings.Simulation) {gone : Gaps}
    (htuner : SimulatedBand.Config.shape.Spares (gone.under (.member "tuner")))
    (hstations : ∀ index, Station.shape.Spares
      (((gone.under (.member "tuner")).under (.member "stations")).under (.item index)))
    {w : Written} (h : Varies gone s.json w) : shape.read w.document = .ok (s.reset gone) := by
  have hspares : shape.Spares gone := by simp [Shape.Spares, shape, Field.omissible]
  let kept : Settings.Simulation := { s with tuner := s.tuner.reset (gone.under (.member "tuner")) }
  have hreset : (kept.only fun name => name ∈ shape.names && !gone [.member name]) =
      s.reset gone := by
    simp only [only, reset, shape, Shape.names, Field.omissible, List.map_cons, List.map_nil,
      List.mem_cons, true_or, or_true, decide_true, Bool.true_and]
    cases gone [.member "group_interval_ms"] <;> cases gone [.member "corrupt_every"] <;>
      cases gone [.member "tuner"] <;> rfl
  rw [← hreset]
  refine Shape.read_varies kept.only (by decide) rfl ?_ hspares h
  refine .cons (.omissible (fun w hw => hw.read_number (Read.uint64_natural s.groupIntervalMs))
    fun has => by simp [only, kept]) ?_
  refine .cons (.omissible (fun w hw => Read.optional_uint32_varies hw)
    fun has => by simp [only, kept]) ?_
  exact .cons (.omissible (fun w hw => s.tuner.read_varies htuner hstations hw)
    fun has => by simp [only, kept]) .nil

end Settings.Simulation

/-! ## Settings -/

namespace Settings

/-- Which members of settings may be left out, by the steps that lead to them. -/
inductive Omissible : List Step → Prop
  | setting {key : String}
      (h : key ∈ ["listen_addr", "device", "poll_interval_ms", "simulate", "simulation"]) :
      Omissible [.member key]
  | simulation {key : String} (h : key ∈ ["group_interval_ms", "corrupt_every", "tuner"]) :
      Omissible [.member "simulation", .member key]
  | station {key : String} (index : Nat) (h : key ∈ ["pty", "signal"]) :
      Omissible [.member "simulation", .member "tuner", .member "stations", .item index,
        .member key]

/-- The settings without the members that are left out. -/
def reset (s : Settings) (gone : Gaps) : Settings where
  listen := if gone [.member "listen_addr"] then ({} : Settings).listen else s.listen
  device := if gone [.member "device"] then ({} : Settings).device else s.device
  pollIntervalMs :=
    if gone [.member "poll_interval_ms"] then ({} : Settings).pollIntervalMs else s.pollIntervalMs
  simulate := if gone [.member "simulate"] then ({} : Settings).simulate else s.simulate
  simulation :=
    if gone [.member "simulation"] then ({} : Settings).simulation
    else s.simulation.reset (gone.under (.member "simulation"))

/-- The settings of which only some fields are there. -/
def only (s : Settings) (has : String → Bool) : Settings where
  listen := if has "listen_addr" then s.listen else shape.blank.listen
  device := if has "device" then s.device else shape.blank.device
  pollIntervalMs := if has "poll_interval_ms" then s.pollIntervalMs else shape.blank.pollIntervalMs
  simulate := if has "simulate" then s.simulate else shape.blank.simulate
  simulation := if has "simulation" then s.simulation else shape.blank.simulation

section

variable {gone : Gaps} (hgone : ∀ way, gone way = true → Omissible way)

include hgone

/-- What a band needs is not left out. -/
theorem spares_tuner : SimulatedBand.Config.shape.Spares
    ((gone.under (.member "simulation")).under (.member "tuner")) := by
  intro field _ _
  rw [← Bool.not_eq_true]
  intro hmissing
  have hway : Omissible [.member "simulation", .member "tuner", .member field.name] :=
    hgone _ hmissing
  generalize field.name = name at hway
  cases hway

/-- What a station needs is not left out. -/
theorem spares_station (index : Nat) :
    Station.shape.Spares ((((gone.under (.member "simulation")).under (.member "tuner")).under
      (.member "stations")).under (.item index)) := by
  intro field hfield hrequired
  rw [← Bool.not_eq_true]
  intro hmissing
  cases hgone _ hmissing with
  | station _ h =>
    simp only [Station.shape, List.mem_cons, List.not_mem_nil, or_false] at hfield
    rcases hfield with rfl | rfl | rfl | rfl | rfl
    · revert h; decide
    · revert h; decide
    · revert h; decide
    · cases hrequired
    · cases hrequired

/-- Settings are read as what is written of them. -/
theorem read_varies (s : Settings) {w : Written} (h : Varies gone s.json w) :
    shape.read w.document = .ok (s.reset gone) := by
  have hspares : shape.Spares gone := by simp [Shape.Spares, shape, Field.omissible]
  let kept : Settings :=
    { s with simulation := s.simulation.reset (gone.under (.member "simulation")) }
  have hreset : (kept.only fun name => name ∈ shape.names && !gone [.member name]) =
      s.reset gone := by
    simp only [only, reset, shape, Shape.names, Field.omissible, List.map_cons, List.map_nil,
      List.mem_cons, true_or, or_true, decide_true, Bool.true_and]
    cases gone [.member "listen_addr"] <;> cases gone [.member "device"] <;>
      cases gone [.member "poll_interval_ms"] <;> cases gone [.member "simulate"] <;>
      cases gone [.member "simulation"] <;> rfl
  rw [← hreset]
  refine Shape.read_varies kept.only (by decide) rfl ?_ hspares h
  refine .cons (.omissible (fun w hw => Read.address_varies hw) fun has => by simp [only, kept]) ?_
  refine .cons (.omissible (fun w hw => hw.read_string _) fun has => by simp [only, kept]) ?_
  refine .cons (.omissible (fun w hw => hw.read_number (Read.uint64_natural s.pollIntervalMs))
    fun has => by simp [only, kept]) ?_
  refine .cons (.omissible (fun w hw => Read.boolean_varies hw) fun has => by simp [only, kept]) ?_
  exact .cons (.omissible
    (fun w hw => s.simulation.read_varies (spares_tuner hgone) (spares_station hgone) hw)
    fun has => by simp [only, kept]) .nil

end

/-- **Missing members mean defaults**, and nothing else of a text matters. Whatever settings there
are and whichever of the members are left out that may be left out, there is a text with the others;
and every such text, with the members of any object in any order, with others among them under
names that are not known there, whatever well-formed values these have, and with any blanks and
escapes, is read as the settings with exactly the members that are left out at their defaults. -/
theorem missing_members_mean_defaults (s : Settings) (gone : Gaps)
    (hgone : ∀ way, gone way = true → Omissible way) :
    (∃ w, Varies gone s.json w) ∧
      ∀ (before after : Blanks) (w : Written), Varies gone s.json w →
        ofText (String.ofList (before.chars ++ w.chars ++ after.chars)) = .ok (s.reset gone) := by
  refine ⟨⟨_, s.json.varies_abridged s.exact gone⟩, fun before after w h => ?_⟩
  rw [ofText, Document.ofText_written]
  dsimp only
  rw [readText, read_varies hgone s h, Document.trailing_blanks]

/-- Settings in reverse order and without the address, the damage and the signal of the second
station, with two members under one unknown name; in the value of one of them there is a number too
large for a double, half of a surrogate pair and a name that is known elsewhere. -/
theorem missing_members_mean_defaults_reversed :
    let low : Frequency := ⟨89100, by decide, by decide⟩
    let high : Frequency := ⟨93500, by decide, by decide⟩
    let band (signal : Int32) : SimulatedBand.Config :=
      ⟨"Bench", low, [⟨low, 0xF205, "FIP", 15, 10⟩, ⟨high, 0xF202, "INTER", 1, signal⟩]⟩
    let s : Settings := ⟨.v4 ⟨127, 0, 0, 1⟩ 80, "/dev/radio1", 500, true, ⟨99, some 7, band 20⟩⟩
    let gone : Gaps := fun way => way ∈
      [[.member "listen_addr"], [.member "simulation", .member "corrupt_every"],
        [.member "simulation", .member "tuner", .member "stations", .item 1, .member "signal"]]
    let large : NumeralText :=
      { NumeralText.ofNat true 1 with exponent := some ⟨true, some false, .ofNat 400⟩ }
    let half : PieceText := .unit ⟨13, false⟩ ⟨8, false⟩ ⟨0, false⟩ ⟨0, false⟩
    let unknown : Written := .array [.bare (.number large), .bare (.string [half]),
      .bare (.object [WrittenMember.bare "device" .null] .none)] .none
    let simulation := s.simulation.json.abridged s.simulation.exact
      (gone.under (.member "simulation"))
    let kept : List WrittenMember := [.bare "device" (.string (piecesOf "/dev/radio1")),
      .bare "poll_interval_ms" (.number (.ofNat false 500)), .bare "simulate" (.boolean true),
      .bare "simulation" simulation]
    let added : List WrittenMember := [.bare "comment" .null, .bare "comment" unknown]
    let w : Written := .object (kept ++ added).reverse .none
    (∀ way, gone way = true → Omissible way) ∧ Varies gone s.json w ∧
      ofText (String.ofList w.chars) =
        .ok ⟨.v4 ⟨0, 0, 0, 0⟩ 8750, "/dev/radio1", 500, true, ⟨99, none, band 0xC000⟩⟩ := by
  intro low high band s gone large half unknown simulation kept added w
  have hgone : ∀ way, gone way = true → Omissible way := by
    intro way hway
    have hmem := of_decide_eq_true hway
    simp only [List.mem_cons, List.not_mem_nil, or_false] at hmem
    rcases hmem with rfl | rfl | rfl
    · exact .setting (by decide)
    · exact .simulation (by decide)
    · exact .station 1 (by decide)
  have hkept : VariesMembers gone
      [("listen_addr", .string s.listen.text), ("device", .string s.device),
        ("poll_interval_ms", .nat s.pollIntervalMs.toNat), ("simulate", .boolean s.simulate),
        ("simulation", s.simulation.json)] kept := by
    refine .gap (by decide) (.bare (by decide) (.piecesOf _) ?_)
    refine .bare (by decide) (.number rfl) (.bare (by decide) (.boolean true) ?_)
    exact .bare (by decide) (s.simulation.json.varies_abridged s.simulation.exact _) .nil
  have hadded : ∀ m ∈ added, ∃ name, m.Named name ∧ name ∉
      ["listen_addr", "device", "poll_interval_ms", "simulate", "simulation"] := by
    intro m hm
    refine ⟨"comment", ?_, by decide⟩
    simp only [added, List.mem_cons, List.not_mem_nil, or_false] at hm
    rcases hm with rfl | rfl
    · exact WrittenMember.named_bare "comment" .null
    · exact WrittenMember.named_bare "comment" unknown
  have hw : Varies gone s.json w := .object hkept hadded (List.reverse_perm _)
  have hread := (missing_members_mean_defaults s gone hgone).2 .none .none w hw
  have hreset : s.reset gone =
      ⟨.v4 ⟨0, 0, 0, 0⟩ 8750, "/dev/radio1", 500, true, ⟨99, none, band 0xC000⟩⟩ := rfl
  rw [hreset] at hread
  have hchars : Blanks.none.chars ++ w.chars ++ Blanks.none.chars = w.chars :=
    List.append_nil w.chars
  rw [hchars] at hread
  exact ⟨hgone, hw, hread⟩

end Settings

end RadioData
