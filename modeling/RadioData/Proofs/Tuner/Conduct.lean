import RadioData.Proofs.Tuner.Channel
import RadioData.Proofs.Tuner.Exchange
/-!
# How lines treat a tuner

What a script does to a tuner can be said without any tuner. `Terms` say what is required of each
call, given the exchanges before it, and of the result, given all of them; a script meets its terms
if it does so whatever it is answered, as long as the answers are what the terms rely on. Such a
script keeps its terms with every tuner, and a call that fails is its last (`Script.Meets.kept`).

`lineTerms` are those of a line: which calls it makes in which order, which frequency it may tune
to, and what the client is told once they are made, which is what the last of them was answered
(`Exchange.Tells`). `lines_keep_to_the_band` is the main statement: whatever a tuner answers, even
frequencies far outside the band, lines make the calls of their commands up to the first one that
fails, report what they have read last if none fails, and never tune it to anything outside.
-/

namespace RadioData

variable {σ α : Type}

/-! ## Scripts and their terms -/

/-- What is required of a script, and what it may rely on. -/
structure Terms (α : Type) where
  /-- What a successful call may be relied on to answer. -/
  relies : (c : Call) → c.Answer → Prop
  /-- What is required of a call after the exchanges before it. -/
  call : List Exchange → Call → Prop
  /-- What is required of the result after all exchanges. -/
  result : List Exchange → α → Prop

/-- A script meets its terms, some exchanges having been made already. -/
def Script.Meets (terms : Terms α) : Script α → List Exchange → Prop
  | .done result, log => terms.result log result
  | .call c next, log =>
    terms.call log c ∧
      ∀ answer, terms.relies c answer → (next answer).Meets terms (log ++ [⟨c, .ok answer⟩])

/-- An exchange went as terms rely on. -/
def Terms.Relied (terms : Terms α) (x : Exchange) : Prop :=
  ∀ answer, x.result = .ok answer → terms.relies x.call answer

/-- Terms that rely on more and require less are met as well. That they rely on the exchanges before
may be used to show that they require less. -/
theorem Script.Meets.imp {terms terms' : Terms α} {script : Script α} {log : List Exchange}
    (h : script.Meets terms log) (hlog : ∀ x ∈ log, terms'.Relied x)
    (hrelies : ∀ c answer, terms'.relies c answer → terms.relies c answer)
    (hcall : ∀ log c, (∀ x ∈ log, terms'.Relied x) → terms.call log c → terms'.call log c)
    (hresult : ∀ log r, terms.result log r → terms'.result log r) :
    script.Meets terms' log := by
  induction script generalizing log with
  | done r => exact hresult log r h
  | call c next ih =>
    obtain ⟨hc, hnext⟩ := h
    refine ⟨hcall log c hlog hc, fun answer hanswer => ?_⟩
    refine ih answer (hnext answer (hrelies c answer hanswer)) fun x hx => ?_
    rcases List.mem_append.1 hx with hx | hx
    · exact hlog x hx
    · rw [List.mem_singleton.1 hx]
      intro other e
      cases e
      exact hanswer

/-- Why the call of an exchange failed, if it did. -/
def Exchange.error? (x : Exchange) : Option TunerError :=
  match x.result with
  | .ok _ => none
  | .error e => some e

/-- How the exchanges of a script end: either all calls have succeeded and there is a result, or the
last one has failed, the only one to do so, and its error is what comes of the script. -/
inductive Concludes : List Exchange → Except TunerError α → Prop
  | done {log : List Exchange} {result : α} (succeeded : ∀ x ∈ log, x.error? = none) :
      Concludes log (.ok result)
  | failed {before : List Exchange} {x : Exchange} {e : TunerError}
      (succeeded : ∀ y ∈ before, y.error? = none) (failure : x.error? = some e) :
      Concludes (before ++ [x]) (.error e)

/-- An exchange that succeeded goes before. -/
theorem Concludes.cons {x : Exchange} {log : List Exchange} {outcome : Except TunerError α}
    (hx : x.error? = none) (h : Concludes log outcome) : Concludes (x :: log) outcome := by
  cases h with
  | done succeeded => exact .done (List.forall_mem_cons.2 ⟨hx, succeeded⟩)
  | failed succeeded failure =>
    rw [← List.cons_append]
    exact .failed (List.forall_mem_cons.2 ⟨hx, succeeded⟩) failure

/-- If no call has failed there is a result. -/
theorem Concludes.exists_result {log : List Exchange} {outcome : Except TunerError α}
    (h : Concludes log outcome) (hlog : ∀ x ∈ log, x.error? = none) :
    ∃ result, outcome = .ok result := by
  cases h with
  | done => exact ⟨_, rfl⟩
  | failed _ failure =>
    rw [(List.forall_mem_append.1 hlog).2 _ (List.mem_singleton_self _)] at failure
    cases failure

/-- **The first failure is the end.** The exchanges of a script end with its first failed call. -/
theorem Script.concludes (t : Tuner σ) (script : Script α) (s : σ) :
    Concludes (script.exchanges t s) (script.run t s).1 := by
  induction script generalizing s with
  | done result => exact .done (by simp [exchanges])
  | call c next ih =>
    rcases h : t c s with ⟨e | answer, s'⟩
    · rw [exchanges_call_error h, run_call_error h]
      rw [← List.nil_append [_]]
      exact .failed (List.forall_mem_nil _) rfl
    · rw [exchanges_call_ok h, run_call_ok h]
      exact .cons rfl (ih answer s')

/-- What a script has kept of its terms when it has come to an end on a tuner. -/
structure Kept (terms : Terms α) (before log : List Exchange) (outcome : Except TunerError α) :
    Prop where
  /-- Each call was as required after the exchanges before it. -/
  calls : ∀ earlier x later, log = earlier ++ x :: later → terms.call (before ++ earlier) x.call
  /-- So was the result, if there is one. -/
  result : ∀ r, outcome = .ok r → terms.result (before ++ log) r

/-- **A script that meets its terms keeps them** with every tuner that answers as the terms rely
on. -/
theorem Script.Meets.kept {terms : Terms α} {script : Script α} {before : List Exchange}
    (h : script.Meets terms before) {t : Tuner σ}
    (hrelies : ∀ c s answer, (t c s).1 = .ok answer → terms.relies c answer) (s : σ) :
    Kept terms before (script.exchanges t s) (script.run t s).1 := by
  induction script generalizing before s with
  | done result =>
    refine ⟨fun earlier x later e => ?_, fun r e => ?_⟩
    · cases earlier <;> cases e
    · cases e
      rwa [exchanges, List.append_nil]
  | call c next ih =>
    obtain ⟨hcall, hnext⟩ := h
    rcases ht : t c s with ⟨e | answer, s'⟩
    · rw [exchanges_call_error ht, run_call_error ht]
      refine ⟨fun earlier x later e => ?_, fun r e => by cases e⟩
      obtain ⟨rfl, hfirst⟩ | ⟨ys, -, hrest⟩ := List.cons_eq_append_iff.1 e
      · cases hfirst
        rwa [List.append_nil]
      · cases ys <;> cases hrest
    · have hanswer := hnext answer (hrelies c s answer (by rw [ht]))
      obtain ⟨hcalls, hresult⟩ := ih answer hanswer s'
      rw [exchanges_call_ok ht, run_call_ok ht]
      refine ⟨fun earlier x later e => ?_, fun r e => ?_⟩
      · obtain ⟨rfl, hfirst⟩ | ⟨ys, rfl, hrest⟩ := List.cons_eq_append_iff.1 e
        · cases hfirst
          rwa [List.append_nil]
        · rw [List.append_cons]
          exact hcalls ys x later hrest
      · rw [List.append_cons]
        exact hresult r e

/-! ## Plans -/

/-- What is asked of a tuner, apart from the frequency that it is to be tuned to. -/
inductive CallKind where
  | frequency
  | tune
  | seek (d : Direction)
  | signal
  | name
  deriving DecidableEq, Repr

/-- What a call asks. -/
def Call.kind : Call → CallKind
  | .frequency => .frequency
  | .tune _ => .tune
  | .seek d => .seek d
  | .signal => .signal
  | .name => .name

/-- What the call of an exchange asked. -/
def Exchange.kind (x : Exchange) : CallKind := x.call.kind

/-- What the client is told after a line's last call: what the tuner has answered to it, a frequency
in whole kilohertz. There is nothing to tell of a call that was not a question, nor of one that has
failed. -/
inductive Exchange.Tells : Exchange → Response → Prop
  | frequency {units khz : UInt32} (hkhz : khz.toNat = units.toNat / 16) :
      Tells ⟨.frequency, .ok units⟩ (.reply (.frequency khz))
  | signal (level : Int32) : Tells ⟨.signal, .ok level⟩ (.reply (.signal level))
  | name (name : String) : Tells ⟨.name, .ok name⟩ (.reply (.identity name))

/-- After the frequency has been read, the client is told this frequency. -/
theorem Exchange.Tells.of_frequency {x : Exchange} {r : Response} (h : x.Tells r)
    (hx : x.kind = .frequency) :
    ∃ units khz : UInt32, x = ⟨.frequency, .ok units⟩ ∧ r = .reply (.frequency khz) ∧
      khz.toNat = units.toNat / 16 := by
  cases h with
  | frequency hkhz => exact ⟨_, _, rfl, rfl, hkhz⟩
  | signal | name => cases hx

/-- An exchange that is told of stays the last one of the log that it ends. -/
theorem Exchange.Tells.last {x : Exchange} {r : Response} (h : x.Tells r) (log : List Exchange) :
    ∀ before y, log ++ [x] = before ++ [y] → y.Tells r := by
  intro before y e
  obtain ⟨-, hlast⟩ := List.append_inj' e rfl
  cases hlast
  exact h

/-- The terms of a script that makes the calls of a plan, one after the other, and tunes to nothing
but the frequencies in kHz that it aims at after the exchanges before. When it is done it has made
all its calls, and the client is told what the last of them was answered. A frequency that the
client is told is always one that was read in the last call. -/
def Terms.ofPlan (plan : List CallKind) (aims : List Exchange → UInt32 → Prop) :
    Terms Response where
  relies _ _ := True
  call log c :=
    log.map Exchange.kind ++ [c.kind] <+: plan ∧
      ∀ units, c = .tune units → ∃ khz, aims log khz ∧ units.toNat = 16 * khz.toNat
  result log r :=
    log.map Exchange.kind = plan ∧
      (∀ before x, log = before ++ [x] → x.Tells r) ∧
      ∀ khz, r = .reply (.frequency khz) →
        ∃ before units, log = before ++ [⟨.frequency, .ok units⟩] ∧ khz = khzOfUnits units

/-- Reporting the frequency ends a script whose plan has only that left. -/
theorem meets_reportFrequency {plan : List CallKind} {aims : List Exchange → UInt32 → Prop}
    {log : List Exchange} (h : log.map Exchange.kind ++ [.frequency] = plan) :
    reportFrequency.Meets (.ofPlan plan aims) log := by
  refine ⟨⟨h ▸ List.prefix_refl _, nofun⟩, fun units _ => ⟨?_, ?_, fun khz e => ?_⟩⟩
  · rwa [List.map_append]
  · exact Exchange.Tells.last (.frequency (UInt32.toNat_div _ _)) log
  · cases e
    exact ⟨log, units, rfl, rfl⟩

namespace Command

/-- The calls of a command. -/
def plan : Command → List CallKind
  | .quit => []
  | .setFrequency _ => [.tune, .frequency]
  | .getFrequency => [.frequency]
  | .getSignal => [.signal]
  | .seek d => [.seek d, .frequency]
  | .step _ => [.frequency, .tune, .frequency]
  | .identify => [.name]

/-- The frequency in kHz that a command aims at after certain exchanges: the one that it names, or
one channel from the one that it has just read. -/
inductive Aims : Command → List Exchange → UInt32 → Prop
  | setFrequency (f : Frequency) : Aims (.setFrequency f) [] f.khz
  | step (d : Direction) (units : UInt32) :
      Aims (.step d) [⟨.frequency, .ok units⟩] (stepChannel d (khzOfUnits units))

/-- A command aims at the band, whatever it has read. -/
theorem Aims.inBand {command : Command} {log : List Exchange} {khz : UInt32}
    (h : command.Aims log khz) : 87500 ≤ khz.toNat ∧ khz.toNat ≤ 108000 := by
  cases h with
  | setFrequency f =>
    exact ⟨UInt32.le_iff_toNat_le.1 f.inBand.1, UInt32.le_iff_toNat_le.1 f.inBand.2⟩
  | step d units => exact stepChannel_inBand d _

/-- What a command aims at can be converted to device units. -/
theorem Aims.toNat_units {command : Command} {log : List Exchange} {khz : UInt32}
    (h : command.Aims log khz) :
    ∃ khz', command.Aims log khz' ∧ (khz * unitsPerKhz).toNat = 16 * khz'.toNat :=
  ⟨khz, h, toNat_mul_unitsPerKhz h.inBand.2⟩

/-- **Every command follows its plan.** -/
theorem meets_plan (command : Command) :
    command.script.Meets (.ofPlan command.plan command.Aims) [] := by
  cases command with
  | quit => exact ⟨rfl, fun before _ e => absurd e.symm (List.concat_ne_nil _ before), nofun⟩
  | setFrequency f =>
    refine ⟨⟨by simp [plan, Call.kind], fun units e => ?_⟩, fun _ _ => meets_reportFrequency rfl⟩
    cases e
    exact (Aims.setFrequency f).toNat_units
  | getFrequency => exact meets_reportFrequency rfl
  | getSignal =>
    exact ⟨⟨List.prefix_refl _, nofun⟩, fun level _ =>
      ⟨rfl, Exchange.Tells.last (.signal level) [], nofun⟩⟩
  | seek d => exact ⟨⟨by simp [plan, Call.kind], nofun⟩, fun _ _ => meets_reportFrequency rfl⟩
  | step d =>
    refine ⟨⟨by simp [plan, Call.kind], nofun⟩, fun units _ => ⟨⟨?_, fun units' e => ?_⟩,
      fun _ _ => meets_reportFrequency rfl⟩⟩
    · simp [plan, Exchange.kind, Call.kind]
    · cases e
      exact (Aims.step d units).toNat_units
  | identify =>
    exact ⟨⟨List.prefix_refl _, nofun⟩, fun name _ =>
      ⟨rfl, Exchange.Tells.last (.name name) [], nofun⟩⟩

end Command

/-! ## Lines -/

/-- The calls of a line. A line that is no command makes none. -/
def linePlan (line : String) : List CallKind :=
  match Command.parse line with
  | .ok command => command.plan
  | .error _ => []

/-- The frequency in kHz that a line aims at after certain exchanges. -/
def lineAims (line : String) (log : List Exchange) (khz : UInt32) : Prop :=
  ∃ command, Command.parse line = .ok command ∧ command.Aims log khz

/-- The terms of a line. -/
def lineTerms (line : String) : Terms Response := .ofPlan (linePlan line) (lineAims line)

/-- A mistake is never answered with a frequency. -/
theorem CommandError.response_ne_frequency (e : CommandError) (khz : UInt32) :
    e.response ≠ .reply (.frequency khz) := by
  cases e <;> exact nofun

/-- **Every line follows its plan.** -/
theorem meets_lineTerms (line : String) : (lineScript line).Meets (lineTerms line) [] := by
  rw [lineScript, lineTerms, linePlan]
  cases h : Command.parse line with
  | ok command =>
    refine command.meets_plan.imp nofun (fun _ _ => id) (fun log c _ hcall => ?_) fun _ _ => id
    refine ⟨hcall.1, fun units e => ?_⟩
    obtain ⟨khz, haims, hunits⟩ := hcall.2 units e
    exact ⟨khz, ⟨command, h, haims⟩, hunits⟩
  | error e =>
    exact ⟨rfl, fun before _ h => absurd h.symm (List.concat_ne_nil _ before),
      fun khz h => absurd h (e.response_ne_frequency khz)⟩

/-- A line that has been carried out: its exchanges with the tuner, and what came of it. -/
structure Round where
  line : String
  exchanges : List Exchange
  outcome : Except TunerError Response

/-- Lines that are carried out one after the other, whatever comes of them. -/
def rounds (t : Tuner σ) : List String → σ → List Round
  | [], _ => []
  | line :: lines, s =>
    ⟨line, lineExchanges t line s, (answerLine t line s).1⟩ ::
      rounds t lines (answerLine t line s).2

/-- What every line keeps to. -/
structure Round.Orderly (r : Round) : Prop where
  /-- The calls are those of the line's plan, from the first one on. -/
  planned : r.exchanges.map Exchange.kind <+: linePlan r.line
  /-- The first call that fails is the last one, and its error is what comes of the line. -/
  concludes : Concludes r.exchanges r.outcome
  /-- If none fails they are all made, and then the client is told what the last one was
  answered. -/
  answered : (∀ x ∈ r.exchanges, x.error? = none) → ∃ response, r.outcome = .ok response ∧
    r.exchanges.map Exchange.kind = linePlan r.line ∧
      ∀ before x, r.exchanges = before ++ [x] → x.Tells response
  /-- If none fails and the plan ends with reading the frequency, the client is told the frequency
  that was read in the last call. -/
  readBack : (∀ x ∈ r.exchanges, x.error? = none) →
    (linePlan r.line).getLast? = some .frequency →
      ∃ before, ∃ units khz : UInt32, r.exchanges = before ++ [⟨.frequency, .ok units⟩] ∧
        r.outcome = .ok (.reply (.frequency khz)) ∧ khz.toNat = units.toNat / 16
  /-- The client is told no other frequency than one that was read in the last call. -/
  onlyRead : ∀ khz, r.outcome = .ok (.reply (.frequency khz)) →
    ∃ before units, r.exchanges = before ++ [⟨.frequency, .ok units⟩] ∧
      khz.toNat = units.toNat / 16
  /-- What is tuned to is a frequency of the band that the line aims at, converted without a
  wrap. -/
  aimed : ∀ earlier x later units, r.exchanges = earlier ++ x :: later → x.call = .tune units →
    ∃ khz, lineAims r.line earlier khz ∧ units.toNat = 16 * khz.toNat ∧
      87500 ≤ khz.toNat ∧ khz.toNat ≤ 108000

/-- Of a log with a certain plan, the last exchange is of the plan's last kind. -/
theorem exists_last {log : List Exchange} {plan : List CallKind} {k : CallKind}
    (hlog : log.map Exchange.kind = plan) (hplan : plan.getLast? = some k) :
    ∃ before x, log = before ++ [x] ∧ x.kind = k := by
  rw [← hlog, List.getLast?_map] at hplan
  obtain ⟨x, hx, hkind⟩ := Option.map_eq_some_iff.1 hplan
  obtain ⟨before, hlog⟩ := List.getLast?_eq_some_iff.1 hx
  exact ⟨before, x, hlog, hkind⟩

/-- Every line is carried out in order, on every tuner. -/
theorem orderly_line (t : Tuner σ) (line : String) (s : σ) :
    Round.Orderly ⟨line, lineExchanges t line s, (answerLine t line s).1⟩ := by
  have hconcludes := (lineScript line).concludes t s
  obtain ⟨hcalls, hresult⟩ := (meets_lineTerms line).kept (t := t) (fun _ _ _ _ => trivial) s
  have hanswered (hlog : ∀ x ∈ lineExchanges t line s, x.error? = none) :
      ∃ response, (answerLine t line s).1 = .ok response ∧
        (lineExchanges t line s).map Exchange.kind = linePlan line ∧
          ∀ before x, lineExchanges t line s = before ++ [x] → x.Tells response := by
    obtain ⟨response, h⟩ := hconcludes.exists_result hlog
    obtain ⟨hplan, htold, -⟩ := hresult response h
    exact ⟨response, h, hplan, htold⟩
  refine ⟨?_, hconcludes, hanswered, fun hlog hread => ?_, fun khz h => ?_,
    fun earlier x later units e hx => ?_⟩
  · -- the plan is read off the last call, or off the result if there is no call
    rcases List.eq_nil_or_concat (lineExchanges t line s) with hnil | ⟨before, x, hlog⟩
    · simp [hnil]
    · rw [List.concat_eq_append] at hlog
      have hlast := (hcalls before x [] hlog).1
      dsimp only
      rwa [hlog, List.map_append]
  · obtain ⟨response, h, hplan, htold⟩ := hanswered hlog
    obtain ⟨before, x, hlast, hkind⟩ := exists_last hplan hread
    obtain ⟨units, khz, rfl, rfl, hkhz⟩ := (htold before x hlast).of_frequency hkind
    exact ⟨before, units, khz, hlast, h, hkhz⟩
  · obtain ⟨before, units, hlog, rfl⟩ := (hresult _ h).2.2 khz rfl
    exact ⟨before, units, hlog, UInt32.toNat_div _ _⟩
  · obtain ⟨khz, haims, hunits⟩ := (hcalls earlier x later e).2 units hx
    obtain ⟨command, -, hcommand⟩ := id haims
    exact ⟨khz, haims, hunits, hcommand.inBand⟩

/-- All lines are carried out in order. -/
theorem orderly_rounds (t : Tuner σ) (lines : List String) (s : σ) :
    ∀ r ∈ rounds t lines s, r.Orderly := by
  induction lines generalizing s with
  | nil => exact nofun
  | cons line lines ih => exact List.forall_mem_cons.2 ⟨orderly_line t line s, ih _⟩

/-- The rounds are those of the lines. -/
theorem map_line_rounds (t : Tuner σ) (lines : List String) (s : σ) :
    (rounds t lines s).map Round.line = lines := by
  induction lines generalizing s with
  | nil => rfl
  | cons line lines ih => rw [rounds, List.map_cons, ih]

/-- What comes of the rounds is what comes of the lines. -/
theorem map_outcome_rounds (t : Tuner σ) (lines : List String) (s : σ) :
    (rounds t lines s).map Round.outcome = (answerLines t lines s).1 := by
  induction lines generalizing s with
  | nil => rfl
  | cons line lines ih => rw [rounds, List.map_cons, ih, answerLines_cons]

/-- The exchanges of the rounds are those of the lines. -/
theorem flatMap_exchanges_rounds (t : Tuner σ) (lines : List String) (s : σ) :
    (rounds t lines s).flatMap Round.exchanges = linesExchanges t lines s := by
  induction lines generalizing s with
  | nil => rfl
  | cons line lines ih => rw [rounds, List.flatMap_cons, ih, linesExchanges]

/-- **Lines keep to the band and stop at the first failure.** On every tuner, whatever it answers
and however it changes, each of the lines that are carried out one after the other makes the calls
of its plan up to the first one that fails, whose error is what comes of the line; if none fails it
makes them all and answers with what it has read last: with the frequency in whole kilohertz if the
plan ends with reading it, and never with another frequency. The tuner, as a protocol of its calls
shows, is never tuned to anything but a whole number of kilohertz in the band. -/
theorem lines_keep_to_the_band (t : Tuner σ) (lines : List String) (s : σ) :
    let protocol := (answerLines t.recording lines (s, [])).2.2
    (∀ x ∈ protocol, ∀ units, x.call = .tune units →
        16 ∣ units.toNat ∧ 87500 * 16 ≤ units.toNat ∧ units.toNat ≤ 108000 * 16) ∧
      protocol = (rounds t lines s).flatMap Round.exchanges ∧
      (rounds t lines s).map Round.line = lines ∧
      (rounds t lines s).map Round.outcome = (answerLines t lines s).1 ∧
      ∀ r ∈ rounds t lines s, r.Orderly := by
  intro protocol
  have hprotocol : protocol = (rounds t lines s).flatMap Round.exchanges := by
    show (answerLines t.recording lines (s, [])).2.2 = _
    rw [answerLines_recording, flatMap_exchanges_rounds]
    rfl
  have horderly := orderly_rounds t lines s
  refine ⟨fun x hx units hunits => ?_, hprotocol, map_line_rounds t lines s,
    map_outcome_rounds t lines s, horderly⟩
  rw [hprotocol] at hx
  obtain ⟨r, hr, hx⟩ := List.mem_flatMap.1 hx
  obtain ⟨earlier, later, hlog⟩ := List.append_of_mem hx
  obtain ⟨khz, -, hkhz, hlow, hhigh⟩ := (horderly r hr).aimed earlier x later units hlog hunits
  exact ⟨⟨khz.toNat, hkhz⟩, by omega, by omega⟩

/-- A tuner that reports the greatest number there is, whatever it is tuned to, and fails when it is
asked for the frequency a third time. -/
def Tuner.runaway : Tuner Nat := fun c asked =>
  match c with
  | .frequency => (if asked < 2 then .ok 4294967295 else .error (.unavailable "gone"), asked + 1)
  | .tune _ => (.ok (), asked)
  | .seek _ => (.ok (), asked)
  | .signal => (.ok 0, asked)
  | .name => (.ok "", asked)

/-- From the greatest number a step upwards tunes to the lowest channel, and the client is told what
the tuner reports then, which is not where it has been tuned to. Then the tuner fails, and there is
no reply. -/
theorem lines_keep_to_the_band_runaway :
    ∃ stepped failed, rounds Tuner.runaway ["up", "get_freq"] 0 = [stepped, failed] ∧
      stepped.Orderly ∧ stepped.outcome = .ok (.reply (.frequency 268435455)) ∧
      (∃ x ∈ stepped.exchanges,
        x.call = .tune 1400000 ∧ 87500 * 16 ≤ (1400000 : UInt32).toNat) ∧
      failed.Orderly ∧ failed.outcome = .error (.unavailable "gone") := by
  obtain ⟨hband, hprotocol, -, -, horderly⟩ :=
    lines_keep_to_the_band Tuner.runaway ["up", "get_freq"] 0
  have hstep : Command.parse "up" = .ok (.step .up) := by decide +kernel
  have hread : Command.parse "get_freq" = .ok .getFrequency := by decide +kernel
  have hrounds : rounds Tuner.runaway ["up", "get_freq"] 0 =
      [⟨"up", [⟨.frequency, .ok 4294967295⟩, ⟨.tune 1400000, .ok ()⟩,
          ⟨.frequency, .ok 4294967295⟩], .ok (.reply (.frequency 268435455))⟩,
        ⟨"get_freq", [⟨.frequency, .error (.unavailable "gone")⟩],
          .error (.unavailable "gone")⟩] := by
    simp only [rounds, lineExchanges, answerLine, lineScript, hstep, hread]
    rfl
  rw [hprotocol, hrounds] at hband
  rw [hrounds] at horderly ⊢
  obtain ⟨hstepped, hfailed⟩ := List.forall_mem_cons.1 horderly
  exact ⟨_, _, rfl, hstepped, rfl,
    ⟨⟨.tune 1400000, .ok ()⟩, by simp, rfl, (hband ⟨.tune 1400000, .ok ()⟩ (by simp) _ rfl).2.1⟩,
    hfailed _ (List.mem_singleton_self _), rfl⟩

end RadioData
