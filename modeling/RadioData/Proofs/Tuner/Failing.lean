import Mathlib.Control.Monad.Basic
import RadioData.Proofs.Tuner.Exchange
import RadioData.Tuner.Simulated
/-!
# Failures that leave no trace

While a failure is set on a simulated band every call is refused before it has done anything, and a
command ends at its first call (`Command.run_failing`). So a deed that is done in the meantime finds
the band as it was and leaves it like that (`Entry.Harmless`, one case for each kind of deed), and a
run goes on as if such deeds had never happened: `failures_leave_no_trace` compares the record of a
run with that of the run in which they are deleted.
-/

namespace RadioData

variable {α : Type}

/-- Every command but the farewell starts with a call. -/
theorem Command.exists_script_eq_call {command : Command} (h : command ≠ .quit) :
    ∃ (c : Call) (next : c.Answer → Script Response), command.script = .call c next := by
  cases command with
  | quit => exact absurd rfl h
  | setFrequency f => exact ⟨.tune f.units, _, rfl⟩
  | getFrequency => exact ⟨.frequency, _, rfl⟩
  | getSignal => exact ⟨.signal, _, rfl⟩
  | seek d => exact ⟨.seek d, _, rfl⟩
  | step d => exact ⟨.frequency, _, rfl⟩
  | identify => exact ⟨.name, _, rfl⟩

namespace SimulatedBand

/-! ## Deeds -/

/-- Something that is done to a band. -/
inductive Deed where
  /-- A call is made. -/
  | call (c : Call)
  /-- A command is carried out. -/
  | execute (command : Command)
  /-- A line from a client is carried out. -/
  | interpret (line : String)
  /-- Calls are made to fail for a reason, or to succeed again. -/
  | fail (reason : Option String)
  deriving DecidableEq, Repr

/-- What comes of a deed. -/
inductive Outcome where
  /-- A call has come back. -/
  | called {c : Call} (result : Except TunerError c.Answer)
  /-- A command or a line has been carried out, or has failed. -/
  | carriedOut (result : Except TunerError Response)
  /-- The band fails from now on, or does so no longer. -/
  | switched

/-- Why a deed failed, if it did. -/
def Outcome.error? : Outcome → Option TunerError
  | .called (.error e) | .carriedOut (.error e) => some e
  | .called (.ok _) | .carriedOut (.ok _) | .switched => none

namespace Deed

/-- The deed is a call, or a command or a line that has calls to make. -/
def Calls : Deed → Prop
  | .call _ => True
  | .execute command => command ≠ .quit
  | .interpret line => ∃ command, Command.parse line = .ok command ∧ command ≠ .quit
  | .fail _ => False

/-- Whether the deed sets or clears a failure. -/
def switches : Deed → Bool
  | .fail _ => true
  | .call _ | .execute _ | .interpret _ => false

/-- The failure that is set after the deed. -/
def failureAfter : Deed → Option String → Option String
  | .fail reason, _ => reason
  | .call _, failure | .execute _, failure | .interpret _, failure => failure

end Deed

/-- The failure that is set after deeds, going by nothing but the times when one was set or
cleared. -/
def failureAfterAll (failure : Option String) (deeds : List Deed) : Option String :=
  deeds.foldl (fun failure d => d.failureAfter failure) failure

/-- What comes of a deed, and the band after it. -/
def perform : Deed → SimulatedBand → Outcome × SimulatedBand
  | .call c, b => (.called (tuner c b).1, (tuner c b).2)
  | .execute command, b =>
    (.carriedOut (command.script.run tuner b).1, (command.script.run tuner b).2)
  | .interpret line, b => (.carriedOut (answerLine tuner line b).1, (answerLine tuner line b).2)
  | .fail reason, b => (.switched, b.withFailure reason)

/-- A deed that has been done: what it found, what came of it and what it left behind. -/
structure Entry where
  deed : Deed
  found : SimulatedBand
  outcome : Outcome
  left : SimulatedBand

/-- The entry of a deed that finds a band. -/
def entry (d : Deed) (b : SimulatedBand) : Entry := ⟨d, b, (perform d b).1, (perform d b).2⟩

/-- The record of deeds that are done one after the other. -/
def record : List Deed → SimulatedBand → List Entry
  | [], _ => []
  | d :: deeds, b => entry d b :: record deeds (perform d b).2

/-- The band after deeds. -/
def afterAll (deeds : List Deed) (b : SimulatedBand) : SimulatedBand :=
  deeds.foldl (fun b d => (perform d b).2) b

/-- Whether a deed stays when those are deleted that are done while a failure is set. Setting and
clearing a failure always do. -/
def Deed.stays (failure : Option String) (d : Deed) : Bool := failure.isNone || d.switches

/-- The deeds that are left when those are deleted that are done while a failure is set. -/
def erase : Option String → List Deed → List Deed
  | _, [] => []
  | failure, d :: deeds =>
    if d.stays failure then d :: erase (d.failureAfter failure) deeds
    else erase (d.failureAfter failure) deeds

/-- An entry of a record is of a deed that stays. -/
def Entry.stays (e : Entry) : Bool := e.deed.stays e.found.failure

/-! ## Refused calls -/

section failing

variable {b : SimulatedBand} {reason : String}

/-- A call is refused for the reason that is set, and changes nothing. -/
theorem tuner_failing (h : b.failure = some reason) (c : Call) :
    tuner c b = (.error (.unavailable reason), b) := by
  simp only [tuner, h]

/-- A script that starts with a call ends with it. -/
theorem run_call_failing (h : b.failure = some reason) {c : Call} (next : c.Answer → Script α) :
    (Script.call c next).run tuner b = (.error (.unavailable reason), b) :=
  Script.run_call_error (tuner_failing h c)

/-- So does every command that has a call to make. -/
theorem run_script_failing (h : b.failure = some reason) {command : Command}
    (hcommand : command ≠ .quit) :
    command.script.run tuner b = (.error (.unavailable reason), b) := by
  obtain ⟨c, next, hscript⟩ := Command.exists_script_eq_call hcommand
  rw [hscript]
  exact run_call_failing h next

/-- So does every line that is such a command. -/
theorem answerLine_failing (h : b.failure = some reason) {line : String} {command : Command}
    (hline : Command.parse line = .ok command) (hcommand : command ≠ .quit) :
    answerLine tuner line b = (.error (.unavailable reason), b) := by
  rw [answerLine, lineScript, hline]
  exact run_script_failing h hcommand

/-- **A deed that has calls to make is refused** for the reason that is set, and changes nothing. -/
theorem perform_of_calls (h : b.failure = some reason) {d : Deed} (hd : d.Calls) :
    (perform d b).1.error? = some (.unavailable reason) ∧ (perform d b).2 = b := by
  cases d with
  | call c =>
    rw [perform, tuner_failing h c]
    exact ⟨rfl, rfl⟩
  | execute command =>
    rw [perform, run_script_failing h hd]
    exact ⟨rfl, rfl⟩
  | interpret line =>
    obtain ⟨command, hline, hcommand⟩ := hd
    rw [perform, answerLine_failing h hline hcommand]
    exact ⟨rfl, rfl⟩
  | fail other => exact hd.elim

end failing

/-- A line that has no calls to make is answered in the same way whatever the tuner is, and leaves
the tuner alone. -/
theorem answerLine_of_not_calls {line : String} (h : ¬ (Deed.interpret line).Calls) :
    ∃ r : Response, ∀ b : SimulatedBand, answerLine tuner line b = (.ok r, b) := by
  simp only [answerLine, lineScript]
  cases hline : Command.parse line with
  | error e => exact ⟨e.response, fun b => rfl⟩
  | ok command =>
    obtain rfl : command = .quit :=
      Decidable.not_not.1 fun hcommand => h ⟨command, hline, hcommand⟩
    exact ⟨.farewell, fun b => rfl⟩

/-- **A deed that has no calls to make goes as it goes on every other band**, and leaves the band
alone. -/
theorem perform_of_not_calls {d : Deed} (hd : ¬ d.Calls) (hswitch : d.switches = false) :
    ∃ outcome : Outcome, ∀ b : SimulatedBand, perform d b = (outcome, b) := by
  cases d with
  | call c => exact (hd trivial).elim
  | execute command =>
    obtain rfl : command = .quit := Decidable.not_not.1 hd
    exact ⟨.carriedOut (.ok .farewell), fun b => rfl⟩
  | interpret line =>
    obtain ⟨r, hr⟩ := answerLine_of_not_calls hd
    refine ⟨.carriedOut (.ok r), fun b => ?_⟩
    rw [perform, hr]
  | fail reason => cases hswitch

/-- While a failure is set, nothing but setting and clearing it changes the band. -/
theorem left_failing {b : SimulatedBand} {reason : String} (h : b.failure = some reason) {d : Deed}
    (hswitch : d.switches = false) : (perform d b).2 = b := by
  by_cases hd : d.Calls
  · exact (perform_of_calls h hd).2
  · obtain ⟨outcome, houtcome⟩ := perform_of_not_calls hd hswitch
    rw [houtcome]

/-- Calls never set or clear a failure. -/
theorem failure_tuner (c : Call) (b : SimulatedBand) : (tuner c b).2.failure = b.failure := by
  obtain ⟨units, hcall⟩ := exists_tuner_eq c b
  rw [hcall]

/-- So the failure that a deed leaves behind can be told from the deed and the failure before it. -/
theorem failure_perform (d : Deed) (b : SimulatedBand) :
    (perform d b).2.failure = d.failureAfter b.failure := by
  have hscript (script : Script Response) : (script.run tuner b).2.failure = b.failure :=
    script.run_keeps (P := fun later => later.failure = b.failure)
      (fun c s hs => (failure_tuner c s).trans hs) rfl
  cases d with
  | call c => exact failure_tuner c b
  | execute command => exact hscript command.script
  | interpret line => exact hscript (lineScript line)
  | fail reason => rfl

/-! ## Runs -/

/-- What an entry has to do with the failure that was set when the deed was done. -/
structure Entry.Harmless (set : Option String) (e : Entry) : Prop where
  /-- It is the failure of the band that the deed found. -/
  found : e.found.failure = set
  /-- If there was one, the deed changed nothing, unless it was to set or clear a failure. -/
  unchanged : ∀ reason, set = some reason → e.deed.switches = false → e.left = e.found
  /-- If there was one, a deed that had calls to make was refused for this reason. -/
  refused : ∀ reason, set = some reason → e.deed.Calls →
    e.outcome.error? = some (.unavailable reason)
  /-- A deed that had no calls to make went as it goes on the band without a failure. -/
  unaffected : ¬ e.deed.Calls → e.outcome = (perform e.deed (e.found.withFailure none)).1

/-- **Every deed is harmless.** -/
theorem harmless_entry (d : Deed) (b : SimulatedBand) : (entry d b).Harmless b.failure where
  found := rfl
  unchanged := by
    intro reason h hswitch
    exact left_failing h hswitch
  refused := by
    intro reason h hd
    exact (perform_of_calls h hd).1
  unaffected := by
    intro hd
    replace hd : ¬ d.Calls := hd
    show (perform d b).1 = (perform d (b.withFailure none)).1
    cases hswitch : d.switches with
    | true =>
      cases d with
      | fail reason => rfl
      | call c | execute command | interpret line => cases hswitch
    | false =>
      obtain ⟨outcome, houtcome⟩ := perform_of_not_calls hd hswitch
      rw [houtcome, houtcome]

/-- All deeds of a run are harmless, under the failure that was set or cleared last. -/
theorem harmless_record (deeds : List Deed) (b : SimulatedBand) :
    Throughout (fun earlier e => e.Harmless (failureAfterAll b.failure (earlier.map Entry.deed)))
      (record deeds b) := by
  intro earlier e later h
  induction deeds generalizing b earlier with
  | nil => cases earlier <;> cases h
  | cons d deeds ih =>
    cases earlier with
    | nil =>
      cases h
      exact harmless_entry d b
    | cons first earlier =>
      obtain ⟨rfl, hrest⟩ := List.cons.inj h
      have hlater := ih (perform d b).2 earlier hrest
      rwa [failure_perform] at hlater

theorem afterAll_cons (d : Deed) (deeds : List Deed) (b : SimulatedBand) :
    afterAll (d :: deeds) b = afterAll deeds (perform d b).2 := rfl

/-- A deed stays if it is done on a healthy band, or is to set or clear a failure. -/
theorem Deed.stays_eq_false {failure : Option String} {d : Deed} :
    d.stays failure = false ↔ (∃ reason, failure = some reason) ∧ d.switches = false := by
  cases failure <;> simp [stays]

/-- **What is done while a failure is set might as well not have been done.** -/
theorem record_erase (deeds : List Deed) (b : SimulatedBand) :
    record (erase b.failure deeds) b = (record deeds b).filter Entry.stays ∧
      afterAll (erase b.failure deeds) b = afterAll deeds b := by
  induction deeds generalizing b with
  | nil => exact ⟨rfl, rfl⟩
  | cons d deeds ih =>
    obtain ⟨hrecord, hafter⟩ := ih (perform d b).2
    rw [failure_perform] at hrecord hafter
    cases hstays : d.stays b.failure with
    | true =>
      have hentry : (entry d b).stays = true := hstays
      rw [erase, if_pos hstays, record, record, List.filter_cons_of_pos hentry, hrecord,
        afterAll_cons, afterAll_cons, hafter]
      exact ⟨rfl, rfl⟩
    | false =>
      have hentry : ¬ (entry d b).stays = true := by
        rw [Bool.not_eq_true]
        exact hstays
      -- A deleted deed has left the band as it found it, so both runs go on from the same band.
      obtain ⟨⟨reason, hreason⟩, hswitch⟩ := Deed.stays_eq_false.1 hstays
      have hleft : (perform d b).2 = b := left_failing hreason hswitch
      rw [hleft] at hrecord hafter
      rw [erase, if_neg (by rw [hstays]; exact Bool.false_ne_true), record,
        List.filter_cons_of_neg hentry, afterAll_cons, hleft]
      exact ⟨hrecord, hafter⟩

/-- Until a failure is cleared nothing happens to the band but that the reason changes. -/
theorem afterAll_failing {deeds : List Deed} (hdeeds : .fail none ∉ deeds) {b : SimulatedBand}
    {reason : String} (h : b.failure = some reason) :
    (afterAll deeds b).withFailure none = b.withFailure none := by
  induction deeds generalizing b reason with
  | nil => rfl
  | cons d deeds ih =>
    have hd : Deed.fail none ≠ d := List.ne_of_not_mem_cons hdeeds
    have hrest : Deed.fail none ∉ deeds := List.not_mem_of_not_mem_cons hdeeds
    rw [afterAll_cons]
    cases hswitch : d.switches with
    | true =>
      cases d with
      | fail other =>
        cases other with
        | none => exact absurd rfl hd
        | some other => exact ih hrest (b := b.withFailure (some other)) rfl
      | call c | execute command | interpret line => cases hswitch
    | false =>
      rw [left_failing h hswitch]
      exact ih hrest h

/-- **Failures leave no trace.** Whatever calls are made, commands and lines carried out and
failures set and cleared on a band, each deed that has calls to make while a failure is set is
refused for the reason that was set last and changes nothing, and each that has none goes as on a
healthy band. The other deeds find the same bands, lead to the same outcomes and leave the same
bands behind if those done while a failure is set are deleted from the run, and so does the run. A
failure that is cleared leaves the band as it was before it was set. -/
theorem failures_leave_no_trace (b : SimulatedBand) (deeds : List Deed) :
    (∀ earlier e later, record deeds b = earlier ++ e :: later →
        e.Harmless (failureAfterAll b.failure (earlier.map Entry.deed))) ∧
      record (erase b.failure deeds) b = (record deeds b).filter Entry.stays ∧
      afterAll (erase b.failure deeds) b = afterAll deeds b ∧
      ∀ reason meanwhile, .fail none ∉ meanwhile →
        afterAll (deeds ++ .fail (some reason) :: meanwhile ++ [.fail none]) b =
          (afterAll deeds b).withFailure none := by
  obtain ⟨hrecord, hafter⟩ := record_erase deeds b
  refine ⟨harmless_record deeds b, hrecord, hafter, ?_⟩
  intro reason meanwhile hmeanwhile
  have hset : afterAll (.fail (some reason) :: meanwhile ++ [.fail none]) (afterAll deeds b) =
      (afterAll meanwhile ((afterAll deeds b).withFailure (some reason))).withFailure none := by
    rw [List.cons_append, afterAll_cons, afterAll, List.foldl_append]
    rfl
  calc afterAll (deeds ++ .fail (some reason) :: meanwhile ++ [.fail none]) b
      = afterAll (.fail (some reason) :: meanwhile ++ [.fail none]) (afterAll deeds b) := by
        rw [List.append_assoc, afterAll, List.foldl_append]
        rfl
    _ = (afterAll meanwhile ((afterAll deeds b).withFailure (some reason))).withFailure none := hset
    _ = ((afterAll deeds b).withFailure (some reason)).withFailure none :=
        afterAll_failing hmeanwhile rfl
    _ = (afterAll deeds b).withFailure none := rfl

/-- A band fails for two reasons in turn while a client wants to tune it to another station. Its
line is refused for the second reason, and after the failure has been cleared the band is where the
first line had left it. -/
theorem failures_leave_no_trace_two_reasons :
    let before : List Deed := [.interpret "SEEK"]
    let meanwhile : List Deed := [.fail (some "off"), .interpret "SET_FREQ 93500"]
    ∃ earlier e, record (before ++ .fail (some "unplugged") :: meanwhile) (ofConfig .standard) =
        earlier ++ [e] ∧
      failureAfterAll none (earlier.map Entry.deed) = some "off" ∧
      e.outcome.error? = some (.unavailable "off") ∧
      e.left = e.found ∧
      afterAll (before ++ .fail (some "unplugged") :: meanwhile ++ [.fail none])
          (ofConfig .standard) = (afterAll before (ofConfig .standard)).withFailure none := by
  intro before meanwhile
  have hparse : Command.parse "SET_FREQ 93500" =
      .ok (.setFrequency ⟨93500, by decide, by decide⟩) := by decide +kernel
  obtain ⟨hharmless, -, -, -⟩ := failures_leave_no_trace (ofConfig .standard)
    (before ++ .fail (some "unplugged") :: meanwhile)
  obtain ⟨-, -, -, hcleared⟩ := failures_leave_no_trace (ofConfig .standard) before
  have hrecord : record (before ++ .fail (some "unplugged") :: meanwhile) (ofConfig .standard) =
      (record (before ++ [.fail (some "unplugged"), .fail (some "off")]) (ofConfig .standard)) ++
        [entry (.interpret "SET_FREQ 93500")
          (afterAll (before ++ [.fail (some "unplugged"), .fail (some "off")])
            (ofConfig .standard))] := rfl
  have hlast := hharmless _ _ [] hrecord
  refine ⟨_, _, hrecord, rfl, hlast.refused "off" rfl ?_, hlast.unchanged "off" rfl rfl,
    hcleared "unplugged" meanwhile (by decide)⟩
  exact ⟨_, hparse, by decide⟩

end SimulatedBand

end RadioData
