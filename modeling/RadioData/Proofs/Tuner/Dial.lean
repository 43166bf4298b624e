import RadioData.Proofs.Tuner.Exchange
import RadioData.Proofs.Tuner.Stations
import RadioData.Tuner.Simulated
/-!
# A simulated band is a dial

To a client a simulated band is a dial with 206 positions, some of which have a station. `Dial` says
what a line does to the position and what is answered, in terms of positions only: no device units,
no kilohertz but in the answers, no search in a table. `lines_turn_the_dial` is the main statement:
lines that are carried out one after the other on a band, made from any configuration, are answered
as the dial says, and the tuned frequency is that of the dial's position.
-/

namespace RadioData

namespace Dial

variable (c : SimulatedBand.Config)

/-- The station at a position: of several the first one of the configuration. -/
def station? (i : Channel) : Option Station := c.stations.find? fun s => s.channel = i

/-- The positions that the dial meets when it is turned around once, the last one being where it
was. -/
def turn (d : Direction) (i : Channel) : List Channel :=
  (List.range 206).map fun n => (Channel.next d)^[n + 1] i

/-- The position of the next station. Without stations the dial stays where it is. -/
def seek (d : Direction) (i : Channel) : Channel :=
  ((turn d i).find? fun j => (station? c j).isSome).getD i

/-- What a command does to the position. -/
def move : Command → Channel → Channel
  | .setFrequency f, _ => f.channel
  | .step d, i => Channel.next d i
  | .seek d, i => seek c d i
  | .getFrequency, i | .getSignal, i | .identify, i | .quit, i => i

/-- What a client is told after a command that has led to a position. -/
def response : Command → Channel → Response
  | .setFrequency _, i | .getFrequency, i | .seek _, i | .step _, i =>
    .reply (.frequency (.ofNat (87500 + 100 * i.val)))
  | .getSignal, i => .reply (.signal ((station? c i).elim 0 Station.signal))
  | .identify, _ => .reply (.identity c.name)
  | .quit, _ => .farewell

/-- What a line leads to, and the position after it. A line that is no command leaves the position
alone. -/
def obey (line : String) (i : Channel) : Response × Channel :=
  match Command.parse line with
  | .ok command => (response c command (move c command i), move c command i)
  | .error e => (e.response, i)

/-- What lines lead to that come one after the other, and the position after them. -/
def obeyAll : List String → Channel → List Response × Channel
  | [], i => ([], i)
  | line :: lines, i =>
    let (response, i) := obey c line i
    let (responses, i) := obeyAll lines i
    (response :: responses, i)

/-! ## Seeking on the dial -/

variable {c}

/-- The position that the dial meets after as many turns as it is away is that position. -/
theorem find?_turn {d : Direction} {i j : Channel} (hj : (station? c j).isSome)
    (hnearest : ∀ k, (station? c k).isSome → Channel.away d i j ≤ Channel.away d i k) :
    (turn d i).find? (fun k => (station? c k).isSome) = some j := by
  have hpos := Channel.away_pos d i j
  have hle := Channel.away_le d i j
  have hmeets : (Channel.next d)^[Channel.away d i j - 1 + 1] i = j :=
    (Channel.iterate_next_eq_iff (by omega)).2 (by omega)
  have hfirst : (List.range 206).find?
      ((fun k => (station? c k).isSome) ∘ fun n => (Channel.next d)^[n + 1] i) =
        some (Channel.away d i j - 1) := by
    refine List.find?_range_eq_some.2 ⟨?_, List.mem_range.2 (by omega), fun n hn => ?_⟩
    · rw [Function.comp_apply, hmeets, hj]
    · -- a station met earlier would be nearer
      have hmet := (Channel.iterate_next_eq_iff (d := d) (i := i) (by omega)).1
        (rfl : (Channel.next d)^[n + 1] i = _)
      rw [Function.comp_apply, Bool.not_eq_true']
      refine Bool.eq_false_iff.2 fun hstation => ?_
      have := hnearest _ hstation
      omega
  rw [turn, List.find?_map, hfirst, Option.map_some, hmeets]

/-- A seek goes to the nearest station. -/
theorem seek_of_nearest {d : Direction} {i j : Channel} (hj : (station? c j).isSome)
    (hnearest : ∀ k, (station? c k).isSome → Channel.away d i j ≤ Channel.away d i k) :
    seek c d i = j := by
  rw [seek, find?_turn hj hnearest, Option.getD_some]

/-- Without stations a seek goes nowhere. -/
theorem seek_of_none {d : Direction} {i : Channel} (h : ∀ j, station? c j = none) :
    seek c d i = i := by
  have hnone : (turn d i).find? (fun k => (station? c k).isSome) = none :=
    List.find?_eq_none.2 fun k _ => by rw [h k]; decide
  rw [seek, hnone, Option.getD_none]

end Dial

namespace SimulatedBand

variable {c : Config}

/-- A band made from a configuration, with the dial at some position. -/
def onChannel (c : Config) (i : Channel) : SimulatedBand := { ofConfig c with units := i.units }

theorem ofConfig_eq_onChannel : ofConfig c = onChannel c c.initialFrequency.channel := by
  rw [onChannel, ← Frequency.units_eq]
  rfl

theorem khz_onChannel (i : Channel) : (onChannel c i).khz = i.khz := i.khzOfUnits_units

/-- A station sends on a channel's frequency if it is on that channel. -/
theorem khz_eq_iff {s : Station} {i : Channel} : s.khz = i.khz ↔ s.channel = i := by
  rw [s.khz_eq]
  exact ⟨Channel.khz_injective, congrArg Channel.khz⟩

/-- The table has at a frequency what the dial has at the position. -/
theorem at?_khz (i : Channel) : (StationTable.ofList c.stations).at? i.khz = Dial.station? c i := by
  simp only [StationTable.at?_ofList, khz_eq_iff, Dial.station?]

/-- The station that the band finds is the one at the dial's position. -/
theorem station?_onChannel (i : Channel) : (onChannel c i).station? = Dial.station? c i := by
  rw [station?, khz_onChannel]
  exact at?_khz i

/-- The positions with a station are the channels of the stations of the table. -/
theorem isSome_station?_iff (j : Channel) :
    (Dial.station? c j).isSome ↔
      ∃ s ∈ (StationTable.ofList c.stations).stations, s.channel = j := by
  simp only [← at?_khz, StationTable.at?, List.find?_isSome, decide_eq_true_eq, khz_eq_iff]

/-- **A seek of the band turns the dial to the next station.** -/
theorem after_seek (d : Direction) (i : Channel) :
    (onChannel c i).after (.seek d) = onChannel c (Dial.seek c d i) := by
  have htable : (onChannel c i).table = .ofList c.stations := rfl
  rw [after, khz_onChannel, htable]
  rcases (StationTable.ofList c.stations).seek?_nearest d i with
    ⟨hseek, hstations⟩ | ⟨s, hs, hseek, hnearest⟩
  · have hnone (j : Channel) : Dial.station? c j = none := by
      rw [← at?_khz, StationTable.at?, hstations, List.find?_nil]
    rw [Dial.seek_of_none hnone, hseek]
  · have hdial : Dial.seek c d i = s.channel := by
      refine Dial.seek_of_nearest ((isSome_station?_iff _).2 ⟨s, hs, rfl⟩) fun k hk => ?_
      obtain ⟨u, hu, rfl⟩ := (isSome_station?_iff k).1 hk
      exact hnearest u hu
    rw [hdial, hseek]
    dsimp only
    rw [s.frequency.units_eq]
    rfl

/-- Without a failure every call succeeds. -/
theorem tuner_onChannel (call : Call) (i : Channel) :
    tuner call (onChannel c i) = (.ok ((onChannel c i).answer call), (onChannel c i).after call) :=
  rfl

/-- The frequency that is reported is that of the position. -/
theorem run_reportFrequency (i : Channel) :
    reportFrequency.run tuner (onChannel c i) =
      (.ok (.reply (.frequency (.ofNat (87500 + 100 * i.val)))), onChannel c i) := by
  rw [reportFrequency, Script.run, tuner_onChannel]
  dsimp only [answer, after, Script.run]
  rw [← Channel.khz, ← khz_onChannel (c := c)]
  rfl

/-- **A command moves the dial and is answered from its new position.** -/
theorem run_script (command : Command) (i : Channel) :
    command.script.run tuner (onChannel c i) =
      (.ok (Dial.response c command (Dial.move c command i)),
        onChannel c (Dial.move c command i)) := by
  cases command with
  | quit => rfl
  | setFrequency f =>
    rw [Command.script, Script.run, tuner_onChannel]
    dsimp only [after]
    rw [f.units_eq]
    exact run_reportFrequency f.channel
  | getFrequency => exact run_reportFrequency i
  | getSignal =>
    rw [Command.script, Script.run, tuner_onChannel]
    dsimp only [answer, after, Script.run]
    rw [station?_onChannel, Dial.response, Dial.move]
    cases Dial.station? c i <;> rfl
  | seek d =>
    rw [Command.script, Script.run, tuner_onChannel]
    dsimp only
    rw [after_seek]
    exact run_reportFrequency (Dial.seek c d i)
  | step d =>
    rw [Command.script, Script.run, tuner_onChannel]
    dsimp only [answer, after]
    have hstep : stepChannel d (khzOfUnits (onChannel c i).units) * unitsPerKhz =
        (Channel.next d i).units := Channel.stepChannel_units d i
    rw [Script.run, tuner_onChannel, hstep]
    exact run_reportFrequency (Channel.next d i)
  | identify => rfl

/-- A line does to the band what it does to the dial. -/
theorem answerLine_onChannel (line : String) (i : Channel) :
    answerLine tuner line (onChannel c i) =
      (.ok (Dial.obey c line i).1, onChannel c (Dial.obey c line i).2) := by
  rw [answerLine, lineScript, Dial.obey]
  cases Command.parse line with
  | ok command => exact run_script command i
  | error e => rfl

/-- Lines do to the band what they do to the dial. -/
theorem answerLines_onChannel (lines : List String) (i : Channel) :
    answerLines tuner lines (onChannel c i) =
      ((Dial.obeyAll c lines i).1.map .ok, onChannel c (Dial.obeyAll c lines i).2) := by
  induction lines generalizing i with
  | nil => rfl
  | cons line lines ih => rw [answerLines_cons, answerLine_onChannel, ih]; rfl

/-- Lines that are carried out later go on from the position that the earlier ones have led to. -/
theorem answerLines_append_onChannel (xs ys : List String) (i : Channel) :
    (answerLines tuner (xs ++ ys) (onChannel c i)).2 =
      onChannel c (Dial.obeyAll c ys (Dial.obeyAll c xs i).2).2 := by
  rw [answerLines_append, answerLines_onChannel, answerLines_onChannel]

end SimulatedBand

namespace Dial

variable {c : SimulatedBand.Config}

/-- A line that is a command does to the dial what the command does. -/
theorem obey_of_parse {line : String} {command : Command} (h : Command.parse line = .ok command)
    (i : Channel) : obey c line i = (response c command (move c command i), move c command i) := by
  rw [obey, h]

/-- **Steps upwards add up**, modulo the size of the band. -/
theorem obeyAll_ups {ups : List String} (h : ∀ line ∈ ups, Command.parse line = .ok (.step .up))
    (i : Channel) : (obeyAll c ups i).2.val = (i.val + ups.length) % 206 := by
  induction ups generalizing i with
  | nil => exact (Nat.mod_eq_of_lt i.isLt).symm
  | cons line ups ih =>
    obtain ⟨hline, hups⟩ := List.forall_mem_cons.1 h
    have hfirst : (obeyAll c (line :: ups) i).2 = (obeyAll c ups (Channel.next .up i)).2 := by
      rw [obeyAll, obey_of_parse hline]
      rfl
    rw [hfirst, ih hups, Channel.val_next_up, Nat.mod_add_mod, List.length_cons, Nat.add_assoc,
      Nat.add_comm 1]

/-- A step back undoes a step. -/
theorem obeyAll_up_down {up down : String} (hup : Command.parse up = .ok (.step .up))
    (hdown : Command.parse down = .ok (.step .down)) (i : Channel) :
    (obeyAll c [up, down] i).2 = i := by
  simp only [obeyAll, obey_of_parse hup, obey_of_parse hdown]
  exact Channel.next_down_next_up i

end Dial

namespace SimulatedBand

/-- **The text protocol turns a dial.** On a band made from any configuration, lines that are
carried out one after the other are answered as a dial with 206 positions says that starts at the
initial frequency. After them the tuned frequency is that of the dial's position, and nothing else
of the band has changed. So any number of steps upwards turns the dial by that number, and a step
upwards with a step back behind it changes nothing. -/
theorem lines_turn_the_dial (c : Config) (lines : List String) :
    let run := answerLines tuner lines (ofConfig c)
    let dial := Dial.obeyAll c lines c.initialFrequency.channel
    run.1 = dial.1.map .ok ∧
      run.2.units.toNat = 16 * (87500 + 100 * dial.2.val) ∧
      run.2 = { ofConfig c with units := run.2.units } ∧
      (∀ ups, (∀ line ∈ ups, Command.parse line = .ok (.step .up)) →
        (answerLines tuner (lines ++ ups) (ofConfig c)).2.units.toNat =
          16 * (87500 + 100 * ((dial.2.val + ups.length) % 206))) ∧
      ∀ up down, Command.parse up = .ok (.step .up) → Command.parse down = .ok (.step .down) →
        (answerLines tuner (lines ++ [up, down]) (ofConfig c)).2 = run.2 := by
  intro run dial
  have hrun : run = (dial.1.map .ok, onChannel c dial.2) := by
    show answerLines tuner lines (ofConfig c) = _
    rw [ofConfig_eq_onChannel]
    exact answerLines_onChannel lines _
  rw [hrun]
  refine ⟨rfl, dial.2.toNat_units, rfl, fun ups hups => ?_, fun up down hup hdown => ?_⟩
  · rw [ofConfig_eq_onChannel, answerLines_append_onChannel, ← Dial.obeyAll_ups hups]
    exact Channel.toNat_units _
  · rw [ofConfig_eq_onChannel, answerLines_append_onChannel, Dial.obeyAll_up_down hup hdown]

/-- From the highest channel two steps up lead to the second lowest one, and a step up and back from
the first station found leads back to it. -/
theorem lines_turn_the_dial_around :
    (answerLines tuner (["SET_FREQ 108000"] ++ ["UP", " up\r"])
        (ofConfig .standard)).2.units.toNat = 16 * (87500 + 100 * ((205 + 2) % 206)) ∧
      (answerLines tuner (["seek"] ++ ["UP", "down"]) (ofConfig .standard)).2 =
        (answerLines tuner ["seek"] (ofConfig .standard)).2 := by
  have hposition : (Dial.obeyAll .standard ["SET_FREQ 108000"]
      (Frequency.channel Config.standard.initialFrequency)).2.val = 205 := by decide +kernel
  have hups : ∀ line ∈ ["UP", " up\r"], Command.parse line = .ok (.step .up) := by decide +kernel
  have hdown : Command.parse "down" = .ok (.step .down) := by decide +kernel
  obtain ⟨-, -, -, hturned, -⟩ := lines_turn_the_dial .standard ["SET_FREQ 108000"]
  obtain ⟨-, -, -, -, hback⟩ := lines_turn_the_dial .standard ["seek"]
  refine ⟨(hturned ["UP", " up\r"] hups).trans ?_, hback "UP" "down" (hups _ (by decide)) hdown⟩
  rw [hposition, List.length_cons, List.length_singleton]

end SimulatedBand

end RadioData
