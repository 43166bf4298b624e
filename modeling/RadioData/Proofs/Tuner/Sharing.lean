import Mathlib.Data.List.Induction
import RadioData.Proofs.Tuner.Conduct
import RadioData.Tuner.Simulated
/-!
# Sessions that share a tuner

All sessions of a server work on one simulated band. A call is answered as a whole, but between two
calls of a session the others may do as they like, and calls may be made to fail and to succeed
again: a session that goes one channel up can find that the dial has been turned since it looked.

`Sharing` is a band with any number of sessions, each of which has made some of the calls of its
line; its history holds everything that has happened, in order. A line that nothing comes between is
carried out as `answerLine` does (`run_uninterrupted`). `shared_band_stays_valid` is the main
statement: whatever comes between, the dial stands on a channel, the one that was written last, and
every frequency that a client is told is the one that was written last when its session looked.
-/

namespace RadioData

/-- What happens among sessions `ι` that share a tuner. -/
inductive Happening (ι : Type) where
  /-- A session takes up a line. -/
  | takesUp (i : ι) (line : String)
  /-- A session makes a call. -/
  | exchange (i : ι) (x : Exchange)
  /-- The client of a session is told what its line has led to. -/
  | told (i : ι) (r : Response)
  /-- Calls are made to fail for a reason, or to succeed again. -/
  | failure (reason : Option String)

/-- The session to which something happens. -/
def Happening.session? {ι : Type} : Happening ι → Option ι
  | .takesUp i _ | .exchange i _ | .told i _ => some i
  | .failure _ => none

/-- Sessions that share a simulated band. -/
structure Sharing (ι : Type) where
  band : SimulatedBand
  /-- What each session has left to do of its line, if it has taken one up. -/
  underway : ι → Option (Script Response)
  /-- What has happened so far, in order. -/
  history : List (Happening ι)

/-- What may happen next. -/
inductive Move (ι : Type) where
  /-- A session without a line takes one up. -/
  | takeUp (i : ι) (line : String)
  /-- A session goes on with its line by one call, or tells its client what came of it. -/
  | goOn (i : ι)
  /-- Calls are made to fail for a reason, or to succeed again. -/
  | fail (reason : Option String)

namespace Sharing

variable {ι : Type} [DecidableEq ι]

/-- A band made from a configuration, and no session has a line. -/
def start (ι : Type) (c : SimulatedBand.Config) : Sharing ι where
  band := .ofConfig c
  underway _ := none
  history := []

/-- Something happens to a session, with what it then has left to do. -/
def note (s : Sharing ι) (i : ι) (left : Option (Script Response)) (band : SimulatedBand)
    (h : Happening ι) : Sharing ι where
  band := band
  underway := Function.update s.underway i left
  history := s.history ++ [h]

theorem underway_note_self (s : Sharing ι) (i : ι) (left : Option (Script Response))
    (band : SimulatedBand) (h : Happening ι) : (s.note i left band h).underway i = left :=
  Function.update_self ..

theorem underway_note_of_ne (s : Sharing ι) {i j : ι} (hne : j ≠ i)
    (left : Option (Script Response)) (band : SimulatedBand) (h : Happening ι) :
    (s.note i left band h).underway j = s.underway j :=
  Function.update_of_ne hne ..

/-- A session goes on with what it has left. A call that fails is the end of its line. -/
def goOn (s : Sharing ι) (i : ι) : Sharing ι :=
  match s.underway i with
  | none => s
  | some (.done r) => s.note i none s.band (.told i r)
  | some (.call c next) =>
    match SimulatedBand.tuner c s.band with
    | (.ok answer, band) => s.note i (some (next answer)) band (.exchange i ⟨c, .ok answer⟩)
    | (.error e, band) => s.note i none band (.exchange i ⟨c, .error e⟩)

/-- What a move leads to. A move that cannot be made leads to nothing. A session that has ended is
one that takes up no more lines, so nothing is said here of ends. -/
def move (s : Sharing ι) : Move ι → Sharing ι
  | .takeUp i line =>
    match s.underway i with
    | none => s.note i (some (lineScript line)) s.band (.takesUp i line)
    | some _ => s
  | .goOn i => s.goOn i
  | .fail reason =>
    { s with band := s.band.withFailure reason, history := s.history ++ [.failure reason] }

/-- What moves lead to that are made one after the other. -/
def run (s : Sharing ι) (moves : List (Move ι)) : Sharing ι := moves.foldl move s

/-! ## One line alone -/

/-- A session without a line takes one up. -/
theorem move_takeUp {s : Sharing ι} {i : ι} (h : s.underway i = none) (line : String) :
    s.move (.takeUp i line) = s.note i (some (lineScript line)) s.band (.takesUp i line) := by
  rw [move, h]

/-- A session that has a result left tells its client. -/
theorem goOn_done {s : Sharing ι} {i : ι} {r : Response} (h : s.underway i = some (.done r)) :
    s.goOn i = s.note i none s.band (.told i r) := by
  rw [goOn, h]

/-- A session whose next call succeeds goes on with the answer. -/
theorem goOn_ok {s : Sharing ι} {i : ι} {c : Call} {next : c.Answer → Script Response}
    {answer : c.Answer} {band : SimulatedBand} (h : s.underway i = some (.call c next))
    (hcall : SimulatedBand.tuner c s.band = (.ok answer, band)) :
    s.goOn i = s.note i (some (next answer)) band (.exchange i ⟨c, .ok answer⟩) := by
  rw [goOn, h]
  dsimp only
  rw [hcall]

/-- A session whose next call fails has nothing left. -/
theorem goOn_error {s : Sharing ι} {i : ι} {c : Call} {next : c.Answer → Script Response}
    {e : TunerError} {band : SimulatedBand} (h : s.underway i = some (.call c next))
    (hcall : SimulatedBand.tuner c s.band = (.error e, band)) :
    s.goOn i = s.note i none band (.exchange i ⟨c, .error e⟩) := by
  rw [goOn, h]
  dsimp only
  rw [hcall]

/-- What a client is told when the line of its session has come to an end. -/
def tells (i : ι) : Except TunerError Response → List (Happening ι)
  | .ok r => [.told i r]
  | .error _ => []

/-- A session that nothing comes between carries out what it has left as if it were alone. -/
theorem goOn_uninterrupted {script : Script Response} {s : Sharing ι} {i : ι}
    (h : s.underway i = some script) :
    (goOn · i)^[(script.exchanges SimulatedBand.tuner s.band).length + 1] s =
      { band := (script.run SimulatedBand.tuner s.band).2
        underway := Function.update s.underway i none
        history := s.history ++
          ((script.exchanges SimulatedBand.tuner s.band).map (.exchange i) ++
            tells i (script.run SimulatedBand.tuner s.band).1) } := by
  induction script generalizing s with
  | done r => exact goOn_done h
  | call c next ih =>
    rcases hcall : SimulatedBand.tuner c s.band with ⟨e | answer, band⟩
    · rw [Script.exchanges_call_error hcall, Script.run_call_error hcall, List.length_singleton,
        Function.iterate_succ_apply, goOn_error h hcall, Function.iterate_one, goOn]
      simp [note, tells]
    · rw [Script.exchanges_call_ok hcall, Script.run_call_ok hcall, List.length_cons,
        Function.iterate_succ_apply, goOn_ok h hcall]
      have hnext := ih answer (underway_note_self s i (some (next answer)) band
        (.exchange i ⟨c, .ok answer⟩))
      rw [show (s.note i (some (next answer)) band (.exchange i ⟨c, .ok answer⟩)).band = band
        from rfl] at hnext
      rw [hnext]
      simp [note]

theorem run_replicate_goOn (s : Sharing ι) (i : ι) (count : Nat) :
    s.run (List.replicate count (.goOn i)) = (goOn · i)^[count] s := by
  induction count generalizing s with
  | zero => rfl
  | succ count ih => exact ih (s.goOn i)

/-- **A line that nothing comes between is carried out as if its session were alone.** -/
theorem run_uninterrupted {s : Sharing ι} {i : ι} (h : s.underway i = none) (line : String) :
    s.run (.takeUp i line ::
        List.replicate ((lineExchanges SimulatedBand.tuner line s.band).length + 1) (.goOn i)) =
      { band := (answerLine SimulatedBand.tuner line s.band).2
        underway := s.underway
        history := s.history ++ .takesUp i line ::
          ((lineExchanges SimulatedBand.tuner line s.band).map (.exchange i) ++
            tells i (answerLine SimulatedBand.tuner line s.band).1) } := by
  have hgo := goOn_uninterrupted (s := s.note i (some (lineScript line)) s.band (.takesUp i line))
    (underway_note_self ..)
  rw [show s.run (_ :: _) = (s.move (.takeUp i line)).run _ from rfl,
    move_takeUp h, run_replicate_goOn]
  refine hgo.trans ?_
  simp only [note, Function.update_idem, List.append_assoc, List.singleton_append]
  rw [← h, Function.update_eq_self]
  rfl

end Sharing

/-! ## The last write -/

/-- What a happening writes when the dial stands at `units`: a successful call what it tunes to, a
successful seek the station that it finds, if there is one. -/
def Happening.written? {ι : Type} (c : SimulatedBand.Config) (units : UInt32) :
    Happening ι → Option UInt32
  | .exchange _ ⟨.tune new, .ok _⟩ => some new
  | .exchange _ ⟨.seek d, .ok _⟩ =>
    ((StationTable.ofList c.stations).seek? d (khzOfUnits units)).map fun s => s.frequency.units
  | _ => none

namespace Sharing

variable {ι : Type} {c : SimulatedBand.Config}

/-- What was written last, or else the initial frequency, in device units. -/
def lastWritten (c : SimulatedBand.Config) (history : List (Happening ι)) : UInt32 :=
  history.foldl (fun units h => (h.written? c units).getD units) c.initialFrequency.units

theorem lastWritten_concat (history : List (Happening ι)) (h : Happening ι) :
    lastWritten c (history ++ [h]) =
      (h.written? c (lastWritten c history)).getD (lastWritten c history) := by
  rw [lastWritten, List.foldl_append]
  rfl

/-- Either nothing has been written, or there is a last write, and nothing has been written after
it. -/
theorem lastWritten_cases (c : SimulatedBand.Config) (history : List (Happening ι)) :
    (lastWritten c history = c.initialFrequency.units ∧
        ∀ h ∈ history, h.written? c c.initialFrequency.units = none) ∨
      ∃ earlier h later, history = earlier ++ h :: later ∧
        h.written? c (lastWritten c earlier) = some (lastWritten c history) ∧
        ∀ x ∈ later, x.written? c (lastWritten c history) = none := by
  induction history using List.reverseRecOn with
  | nil => exact .inl ⟨rfl, nofun⟩
  | append_singleton history h ih =>
    rw [lastWritten_concat]
    cases hwritten : h.written? c (lastWritten c history) with
    | some units => exact .inr ⟨history, h, [], rfl, hwritten, nofun⟩
    | none =>
      rw [Option.getD_none]
      rcases ih with ⟨hinitial, hnone⟩ | ⟨earlier, x, later, rfl, hx, hlater⟩
      · refine .inl ⟨hinitial, fun y hy => ?_⟩
        rcases List.mem_append.1 hy with hy | hy
        · exact hnone y hy
        · rw [List.mem_singleton.1 hy, ← hinitial, hwritten]
      · refine .inr ⟨earlier, x, later ++ [h], by simp, hx, fun y hy => ?_⟩
        rcases List.mem_append.1 hy with hy | hy
        · exact hlater y hy
        · rw [List.mem_singleton.1 hy, hwritten]

/-! ## What sessions rely on and keep to -/

/-- Where a frequency is read it is a channel. -/
def AnswersChannel : (c : Call) → c.Answer → Prop
  | .frequency, units => ∃ i : Channel, units = i.units
  | .tune _, _ | .seek _, _ | .signal, _ | .name, _ => True

/-- The terms of a session on a shared band: it relies on reading channels and tunes to nothing
else, and a frequency that it tells is the one that it has read last. -/
def channelTerms : Terms Response where
  relies := AnswersChannel
  call _ c := ∀ units, c = .tune units → ∃ i : Channel, units = i.units
  result log r := ∀ khz, r = .reply (.frequency khz) →
    ∃ before units, log = before ++ [⟨.frequency, .ok units⟩] ∧ khz = khzOfUnits units

/-- A command aims at a channel as long as it reads channels. -/
theorem aims_channel {command : Command} {log : List Exchange} {khz : UInt32}
    (h : command.Aims log khz) (hlog : ∀ x ∈ log, channelTerms.Relied x) :
    ∃ i : Channel, khz = i.khz := by
  cases h with
  | setFrequency f => exact ⟨f.channel, f.khz_eq⟩
  | step d units =>
    obtain ⟨i, hi⟩ := hlog _ (List.mem_singleton_self _) units rfl
    refine ⟨i.next d, ?_⟩
    rw [show units = i.units from hi, Channel.khzOfUnits_units, Channel.stepChannel_khz]

/-- **Every line keeps to channels.** -/
theorem meets_channelTerms (line : String) : (lineScript line).Meets channelTerms [] := by
  refine (meets_lineTerms line).imp nofun (fun _ _ _ => trivial) (fun log c hlog hcall => ?_)
    fun log r hresult => hresult.2.2
  intro units e
  obtain ⟨khz, ⟨command, -, haims⟩, hunits⟩ := hcall.2 units e
  obtain ⟨i, rfl⟩ := aims_channel haims hlog
  exact ⟨i, UInt32.toNat_inj.1 (by rw [hunits, i.toNat_khz, i.toNat_units])⟩

/-- The latest thing that has happened to a session is a certain exchange. -/
def Latest (i : ι) (x : Exchange) (history : List (Happening ι)) : Prop :=
  ∃ earlier since, history = earlier ++ .exchange i x :: since ∧
    ∀ h ∈ since, h.session? ≠ some i

theorem latest_concat (i : ι) (x : Exchange) (history : List (Happening ι)) :
    Latest i x (history ++ [.exchange i x]) :=
  ⟨history, [], rfl, nofun⟩

/-- It stays the latest as long as things happen elsewhere. -/
theorem Latest.concat {i : ι} {x : Exchange} {history : List (Happening ι)} {h : Happening ι}
    (hlatest : Latest i x history) (hh : h.session? ≠ some i) : Latest i x (history ++ [h]) := by
  obtain ⟨earlier, since, rfl, hsince⟩ := hlatest
  refine ⟨earlier, since ++ [h], by simp, fun y hy => ?_⟩
  rcases List.mem_append.1 hy with hy | hy
  · exact hsince y hy
  · rwa [List.mem_singleton.1 hy]

/-- What must be true of what happens after a history: a frequency that is read is what was written
last, and a channel; a frequency that is told was read in the latest call of its session. -/
def Truthful (c : SimulatedBand.Config) (history : List (Happening ι)) : Happening ι → Prop
  | .exchange _ ⟨.frequency, .ok units⟩ =>
    units = lastWritten c history ∧ ∃ i : Channel, units = i.units
  | .told i (.reply (.frequency khz)) =>
    ∃ units, Latest i ⟨.frequency, .ok units⟩ history ∧ khz = khzOfUnits units
  | _ => True

/-- What holds of all sessions that share a band made from a configuration. -/
structure Valid (c : SimulatedBand.Config) (s : Sharing ι) : Prop where
  /-- The dial stands on what was written last, and nothing else of the band changes, but whether
  calls fail. -/
  band : ∃ failure, s.band =
    { SimulatedBand.ofConfig c with units := lastWritten c s.history, failure }
  /-- What was written last is a channel. -/
  channel : ∃ i : Channel, lastWritten c s.history = i.units
  /-- What a session has left to do goes on with the terms that it has kept so far, and the last
  exchange it had is the latest thing that has happened to it. -/
  underway : ∀ i left, s.underway i = some left → ∃ log, left.Meets channelTerms log ∧
    ∀ before x, log = before ++ [x] → Latest i x s.history
  /-- Everything that has happened is true to what had happened before. -/
  truthful : Throughout (Truthful c) s.history

theorem valid_start (ι : Type) (c : SimulatedBand.Config) : Valid c (start ι c) where
  band := ⟨none, rfl⟩
  channel := ⟨c.initialFrequency.channel, c.initialFrequency.units_eq⟩
  underway := nofun
  truthful := throughout_nil

/-- A happening that writes nothing leaves the last write as it is. -/
theorem lastWritten_concat_of_none {history : List (Happening ι)} {h : Happening ι}
    (hh : ∀ units, h.written? c units = none) :
    lastWritten c (history ++ [h]) = lastWritten c history := by
  rw [lastWritten_concat, hh, Option.getD_none]

/-- What a call of a simulated band that succeeds leads to. -/
theorem tuner_ok {call : Call} {b b' : SimulatedBand} {answer : call.Answer}
    (h : SimulatedBand.tuner call b = (.ok answer, b')) :
    answer = b.answer call ∧ b' = b.after call := by
  rw [SimulatedBand.tuner] at h
  split at h
  · cases h
  · cases h
    exact ⟨rfl, rfl⟩

/-- A call that fails changes nothing. -/
theorem tuner_error {call : Call} {b b' : SimulatedBand} {e : TunerError}
    (h : SimulatedBand.tuner call b = (.error e, b')) : b' = b := by
  rw [SimulatedBand.tuner] at h
  split at h
  · cases h
    rfl
  · cases h

/-- A call that succeeds leaves the dial on what it has written, or else where it was. -/
theorem after_eq (i : ι) (call : Call) (answer : call.Answer) {b : SimulatedBand}
    (hb : b.table = .ofList c.stations) :
    b.after call = { b with
      units := ((Happening.exchange i ⟨call, .ok answer⟩).written? c b.units).getD b.units } := by
  cases call with
  | tune units => rfl
  | seek d =>
    rw [SimulatedBand.after, Happening.written?, SimulatedBand.khz, ← hb]
    cases b.table.seek? d (khzOfUnits b.units) <;> rfl
  | frequency | signal | name => rfl

/-- A call that succeeds writes a channel if it tunes to one. -/
theorem written_channel {i : ι} {call : Call} {answer : call.Answer} {units new : UInt32}
    (hcall : ∀ units, call = .tune units → ∃ j : Channel, units = j.units)
    (h : (Happening.exchange i ⟨call, .ok answer⟩).written? c units = some new) :
    ∃ j : Channel, new = j.units := by
  cases call with
  | tune other => exact hcall new (by cases h; rfl)
  | seek d =>
    obtain ⟨s, -, rfl⟩ := Option.map_eq_some_iff.1 h
    exact ⟨s.frequency.channel, s.frequency.units_eq⟩
  | frequency | signal | name => cases h

variable [DecidableEq ι] {s : Sharing ι}

/-- Calls can be made to fail, or to succeed, at any time. -/
theorem Valid.fail (hs : Valid c s) (reason : Option String) : Valid c (s.move (.fail reason)) := by
  obtain ⟨⟨failure, hband⟩, hchannel, hunderway, htruthful⟩ := hs
  have hlast : lastWritten c (s.history ++ [.failure reason]) = lastWritten c s.history :=
    lastWritten_concat_of_none fun _ => rfl
  refine ⟨⟨reason, ?_⟩, ?_, fun i left hleft => ?_, htruthful.concat trivial⟩
  · show s.band.withFailure reason =
      { SimulatedBand.ofConfig c with
        units := lastWritten c (s.history ++ [.failure reason]), failure := reason }
    rw [hlast, hband]
    rfl
  · rwa [← hlast] at hchannel
  · obtain ⟨log, hmeets, hlatest⟩ := hunderway i left hleft
    exact ⟨log, hmeets, fun before x e => (hlatest before x e).concat nofun⟩

/-- What a session does keeps everything valid if it is true, leaves the dial on what was written
last, and goes on with the session's terms. -/
theorem Valid.note (hs : Valid c s) {i : ι} {left : Option (Script Response)}
    {band : SimulatedBand} {h : Happening ι} (hsession : h.session? = some i)
    (hband : ∃ failure, band =
      { SimulatedBand.ofConfig c with units := lastWritten c (s.history ++ [h]), failure })
    (hchannel : ∃ i : Channel, lastWritten c (s.history ++ [h]) = i.units)
    (hleft : ∀ script, left = some script → ∃ log, script.Meets channelTerms log ∧
      ∀ before x, log = before ++ [x] → Latest i x (s.history ++ [h]))
    (htrue : Truthful c s.history h) : Valid c (s.note i left band h) := by
  refine ⟨hband, hchannel, fun j script hj => ?_, hs.truthful.concat htrue⟩
  by_cases hji : j = i
  · subst hji
    rw [underway_note_self] at hj
    exact hleft script hj
  · rw [underway_note_of_ne s hji] at hj
    obtain ⟨log, hmeets, hlatest⟩ := hs.underway j script hj
    refine ⟨log, hmeets, fun before x e => (hlatest before x e).concat ?_⟩
    rw [hsession]
    exact fun e => hji (Option.some.inj e).symm

/-- What a session does without changing the dial keeps everything valid. -/
theorem Valid.note_of_none (hs : Valid c s) {i : ι} {left : Option (Script Response)}
    {h : Happening ι} (hsession : h.session? = some i)
    (hwritten : ∀ units, h.written? c units = none)
    (hleft : ∀ script, left = some script → ∃ log, script.Meets channelTerms log ∧
      ∀ before x, log = before ++ [x] → Latest i x (s.history ++ [h]))
    (htrue : Truthful c s.history h) : Valid c (s.note i left s.band h) := by
  have hlast : lastWritten c (s.history ++ [h]) = lastWritten c s.history :=
    lastWritten_concat_of_none hwritten
  refine hs.note hsession ?_ ?_ hleft htrue
  · rw [hlast]
    exact hs.band
  · rw [hlast]
    exact hs.channel

/-- A line can be taken up. -/
theorem Valid.takeUp (hs : Valid c s) (i : ι) (line : String) :
    Valid c (s.move (.takeUp i line)) := by
  cases h : s.underway i with
  | some left => rwa [move, h]
  | none =>
    rw [move_takeUp h]
    refine hs.note_of_none rfl (fun _ => rfl) (fun script e => ?_) trivial
    cases e
    refine ⟨[], meets_channelTerms line, fun before x e => ?_⟩
    cases before <;> cases e

/-- A result can be told. -/
theorem Valid.tell (hs : Valid c s) {i : ι} {r : Response} (h : s.underway i = some (.done r)) :
    Valid c (s.note i none s.band (.told i r)) := by
  obtain ⟨log, hmeets, hlatest⟩ := hs.underway i _ h
  refine hs.note_of_none rfl (fun _ => rfl) nofun ?_
  match r with
  | .reply (.frequency khz) =>
    obtain ⟨before, units, hlog, hkhz⟩ := hmeets khz rfl
    exact ⟨units, hlatest before _ hlog, hkhz⟩
  | .silence | .farewell => trivial
  | .reply (.signal _) | .reply (.identity _) | .reply (.invalidFrequency _)
  | .reply .missingArgument => trivial

/-- A call can succeed. -/
theorem Valid.callOk (hs : Valid c s) {i : ι} {call : Call} {next : call.Answer → Script Response}
    {answer : call.Answer} {band : SimulatedBand} (h : s.underway i = some (.call call next))
    (hok : SimulatedBand.tuner call s.band = (.ok answer, band)) :
    Valid c (s.note i (some (next answer)) band (.exchange i ⟨call, .ok answer⟩)) := by
  obtain ⟨rfl, rfl⟩ := tuner_ok hok
  obtain ⟨log, ⟨hcall, hnext⟩, -⟩ := hs.underway i _ h
  obtain ⟨failure, hband⟩ := hs.band
  obtain ⟨j, hj⟩ := hs.channel
  have hunits : s.band.units = lastWritten c s.history := by rw [hband]
  have hrelied : AnswersChannel call (s.band.answer call) := by
    cases call with
    | frequency => exact ⟨j, hunits.trans hj⟩
    | tune _ | seek _ | signal | name => trivial
  refine hs.note rfl ⟨failure, ?_⟩ ?_ (fun script e => ?_) ?_
  · rw [after_eq (c := c) i call (s.band.answer call) (by rw [hband]; rfl), lastWritten_concat,
      ← hunits]
    rw [hband]
  · rw [lastWritten_concat]
    cases hwritten : (Happening.exchange i ⟨call, .ok (s.band.answer call)⟩).written? c
        (lastWritten c s.history) with
    | none => exact ⟨j, hj⟩
    | some new => exact written_channel hcall hwritten
  · cases e
    refine ⟨_, hnext _ hrelied, fun before x e => ?_⟩
    cases (List.append_inj' e rfl).2
    exact latest_concat i _ _
  · cases call with
    | frequency => exact ⟨hunits, j, hunits.trans hj⟩
    | tune _ | seek _ | signal | name => trivial

/-- A call can fail. -/
theorem Valid.callError (hs : Valid c s) {i : ι} {call : Call} {e : TunerError} :
    Valid c (s.note i none s.band (.exchange i ⟨call, .error e⟩)) := by
  have hwritten (units : UInt32) :
      (Happening.exchange i ⟨call, .error e⟩).written? c units = none := by cases call <;> rfl
  exact hs.note_of_none rfl hwritten nofun (by cases call <;> trivial)

/-- **A move keeps everything valid.** -/
theorem Valid.move (hs : Valid c s) (m : Move ι) : Valid c (s.move m) := by
  cases m with
  | takeUp i line => exact hs.takeUp i line
  | fail reason => exact hs.fail reason
  | goOn i =>
    show Valid c (s.goOn i)
    rcases h : s.underway i with _ | ⟨r⟩ | ⟨call, next⟩
    · rwa [goOn, h]
    · rw [goOn_done h]
      exact hs.tell h
    · rcases hcall : SimulatedBand.tuner call s.band with ⟨e | answer, band⟩
      · rw [goOn_error h hcall, tuner_error hcall]
        exact hs.callError
      · rw [goOn_ok h hcall]
        exact hs.callOk h hcall

/-- **Moves keep everything valid.** -/
theorem Valid.run (hs : Valid c s) (moves : List (Move ι)) : Valid c (s.run moves) := by
  induction moves generalizing s with
  | nil => exact hs
  | cons m moves ih => exact ih (hs.move m)

/-- **Sessions that share a band keep it valid.** -/
theorem shared_band_stays_valid (c : SimulatedBand.Config) (moves : List (Move ι)) :
    let s := (start ι c).run moves
    (∃ i : Channel, s.band.units.toNat = 16 * (87500 + 100 * i.val)) ∧
      s.band.units = lastWritten c s.history ∧
      ((s.band.units = c.initialFrequency.units ∧
          ∀ h ∈ s.history, h.written? c s.band.units = none) ∨
        ∃ earlier h later, s.history = earlier ++ h :: later ∧
          h.written? c (lastWritten c earlier) = some s.band.units ∧
          ∀ x ∈ later, x.written? c s.band.units = none) ∧
      ∀ earlier i khz later, s.history = earlier ++ .told i (.reply (.frequency khz)) :: later →
        ∃ before units since, earlier = before ++ .exchange i ⟨.frequency, .ok units⟩ :: since ∧
          (∀ h ∈ since, h.session? ≠ some i) ∧ units = lastWritten c before ∧
          ∃ j : Channel, units.toNat = 16 * (87500 + 100 * j.val) ∧
            khz.toNat = 87500 + 100 * j.val := by
  intro s
  have hs : Valid c s := (valid_start ι c).run moves
  obtain ⟨failure, hband⟩ := hs.band
  have hunits : s.band.units = lastWritten c s.history := by rw [hband]
  refine ⟨?_, hunits, ?_, fun earlier i khz later e => ?_⟩
  · obtain ⟨i, hi⟩ := hs.channel
    exact ⟨i, by rw [hunits, hi, i.toNat_units]⟩
  · rw [hunits]
    rcases lastWritten_cases c s.history with ⟨hinitial, hnone⟩ | hlast
    · exact .inl ⟨hinitial, hinitial.symm ▸ hnone⟩
    · exact .inr hlast
  · obtain ⟨units, ⟨before, since, rfl, hsince⟩, rfl⟩ := hs.truthful earlier _ later e
    rw [List.append_assoc, List.cons_append] at e
    obtain ⟨hlast, j, rfl⟩ := hs.truthful before _ _ e
    refine ⟨before, _, since, rfl, hsince, hlast, j, j.toNat_units, ?_⟩
    rw [Channel.khzOfUnits_units, j.toNat_khz]

/-- A session goes one channel up; after it has looked, another one tunes elsewhere and is told,
truly, the frequency that the first one has tuned to meanwhile. -/
theorem shared_band_stays_valid_stale_read :
    ∃ moves : List (Move Bool), ∃ earlier,
      ((start Bool .standard).run moves).history =
          earlier ++ [.told true (.reply (.frequency 87600))] ∧
        .exchange true ⟨.tune 1728000, .ok ()⟩ ∈ earlier ∧
        ∃ before units since, earlier = before ++ .exchange true ⟨.frequency, .ok units⟩ :: since ∧
          units = lastWritten .standard before ∧ units.toNat / 16 = 87600 := by
  let moves : List (Move Bool) :=
    [.takeUp false "UP", .goOn false, .takeUp true "SET_FREQ 108000", .goOn true, .goOn false,
      .goOn true, .goOn true]
  let earlier : List (Happening Bool) :=
    [.takesUp false "UP", .exchange false ⟨.frequency, .ok 1400000⟩,
      .takesUp true "SET_FREQ 108000", .exchange true ⟨.tune 1728000, .ok ()⟩,
      .exchange false ⟨.tune 1401600, .ok ()⟩, .exchange true ⟨.frequency, .ok 1401600⟩]
  have hup : lineScript "UP" = (Command.step .up).script := by
    rw [lineScript, show Command.parse "UP" = .ok (.step .up) by decide +kernel]
  have hset : lineScript "SET_FREQ 108000" = (Command.setFrequency .highest).script := by
    rw [lineScript,
      show Command.parse "SET_FREQ 108000" = .ok (.setFrequency .highest) by decide +kernel]
  have hhistory : ((start Bool .standard).run moves).history =
      earlier ++ [.told true (.reply (.frequency 87600))] := by
    simp only [moves, run, List.foldl_cons, List.foldl_nil]
    rw [move_takeUp (s := start Bool .standard) rfl, hup, move_takeUp rfl, hset]
    rfl
  obtain ⟨-, -, -, htold⟩ := shared_band_stays_valid .standard moves
  obtain ⟨before, units, since, hearlier, -, hlast, j, hunits, hkhz⟩ :=
    htold earlier true 87600 [] hhistory
  refine ⟨moves, earlier, hhistory, by simp [earlier], before, units, since, hearlier, hlast, ?_⟩
  have : (87600 : UInt32).toNat = 87600 := rfl
  omega

end Sharing

end RadioData
