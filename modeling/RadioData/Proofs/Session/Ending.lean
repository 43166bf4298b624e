import RadioData.Proofs.Session.Run
import RadioData.Tuner.Simulated
/-!
# The end of a session

A session ends with the first line that asks for it or on which the tuner fails, or with the first
empty read, whichever comes first. `nothing_follows_the_end` says what has happened by then: exactly
the lines up to that one have been carried out, the tuner has received their calls and no others,
and all that was written was written before the line was taken up. Lines that came in the same read
behind it, bytes of an unfinished line and whatever the device has to say are not looked at.

The calls are those in the protocol of a recording tuner, on which a session does what it does on
the tuner itself (`run_recording`).
-/

namespace RadioData

open SessionEvent (clientReads Open)

variable {σ : Type}

/-- A reaction on a tuner with a protocol. -/
def Reaction.withLog (r : Reaction σ) (log : List Exchange) : Reaction (σ × List Exchange) :=
  { session := r.session, tuner := (r.tuner, log), output := r.output, ended := r.ended }

theorem continues_recording {t : Tuner σ} {lines : List String} {s : σ} {log : List Exchange} :
    Continues t.recording lines (s, log) ↔ Continues t lines s := by
  rw [Continues, answerLines_recording, Continues]

/-- The events before the first empty read. -/
def SessionEvent.openPart (events : List SessionEvent) : List SessionEvent :=
  events.takeWhile (·.closing?.isNone)

theorem SessionEvent.open_openPart (events : List SessionEvent) : Open (openPart events) := by
  intro event h
  simpa using List.all_eq_true.1 List.all_takeWhile event h

namespace Session

/-! ## The protocol of a session -/

/-- Lines are carried out alike with a protocol and without. -/
theorem obey_recording (t : Tuner σ) (lines : List String) (session : Session) (s : σ)
    (log : List Exchange) :
    ∃ later, obey t.recording lines session (s, log) = (obey t lines session s).withLog later := by
  induction lines generalizing session s log with
  | nil => exact ⟨log, rfl⟩
  | cons line lines ih =>
    have hanswer := answerLine_recording t line s log
    cases h : endingOf (answerLine t line s).1 with
    | some e =>
      refine ⟨log ++ lineExchanges t line s, ?_⟩
      rw [obey_of_ending h, obey_of_ending (by rw [hanswer]; exact h), hanswer]
      rfl
    | none =>
      obtain ⟨later, hlater⟩ := ih (session.counting 1) (answerLine t line s).2
        (log ++ lineExchanges t line s)
      refine ⟨later, ?_⟩
      rw [obey_cons h, obey_cons (by rw [hanswer]; exact h), hanswer, hlater]
      rfl

theorem handle_recording (t : Tuner σ) (event : SessionEvent) (session : Session) (s : σ)
    (log : List Exchange) :
    ∃ later, session.handle t.recording event (s, log) =
      (session.handle t event s).withLog later := by
  cases hevent : event.closing? with
  | some e => exact ⟨log, by rw [handle_closing _ _ hevent, handle_closing _ _ hevent]; rfl⟩
  | none =>
    cases event with
    | device data =>
      have hdata := SessionEvent.ne_nil_of_device hevent
      exact ⟨log, by rw [handle_device _ _ hdata, handle_device _ _ hdata]; rfl⟩
    | client data =>
      have hdata := SessionEvent.ne_nil_of_client hevent
      rw [handle_client _ _ hdata, handle_client _ _ hdata]
      exact obey_recording t _ _ s log
    | timeout => exact ⟨log, rfl⟩

/-- **A session is the same with a protocol and without.** -/
theorem run_recording (t : Tuner σ) (events : List SessionEvent) (session : Session) (s : σ)
    (log : List Exchange) :
    ∃ later, run t.recording events session (s, log) = (run t events session s).withLog later := by
  induction events generalizing session s log with
  | nil => exact ⟨log, rfl⟩
  | cons event rest ih =>
    obtain ⟨first, hfirst⟩ := handle_recording t event session s log
    cases h : (session.handle t event s).ended with
    | some e =>
      have hrec : (session.handle t.recording event (s, log)).ended = some e := by
        rw [hfirst]
        exact h
      exact ⟨first, by rw [run_cons_of_some h, run_cons_of_some hrec, hfirst]⟩
    | none =>
      have hrec : (session.handle t.recording event (s, log)).ended = none := by
        rw [hfirst]
        exact h
      obtain ⟨later, hlater⟩ := ih (session.handle t event s).session
        (session.handle t event s).tuner first
      refine ⟨later, ?_⟩
      rw [run_cons_of_none h, run_cons_of_none hrec, hfirst]
      simp only [Reaction.withLog] at hlater ⊢
      rw [hlater]

/-- What a session has written down is known once the state of the recording tuner is. -/
theorem run_recording_eq {t : Tuner σ} {events : List SessionEvent} {session : Session} {s : σ}
    {log later : List Exchange}
    (h : (run t.recording events session (s, log)).tuner.2 = later) :
    run t.recording events session (s, log) = (run t events session s).withLog later := by
  obtain ⟨written, hwritten⟩ := run_recording t events session s log
  rw [hwritten] at h ⊢
  cases h
  rfl

/-! ## The read that brings the last line -/

/-- Each line was finished by one of the reads. -/
theorem exists_read_of_linesOf {session : Session} {events : List SessionEvent}
    {earlier later : List String} {line : String}
    (h : session.linesOf events = earlier ++ line :: later) :
    ∃ before data rest head tail, events = before ++ .client data :: rest ∧
      session.linesOf before ++ head = earlier ∧
      (session.after before).heard data = head ++ line :: tail := by
  induction events using List.reverseRec generalizing later with
  | nil => exact absurd h (by cases earlier <;> exact nofun)
  | append_singleton init event ih =>
    rw [linesOf_concat] at h
    -- the line stands either among those of the earlier events or among those of the last one
    rcases List.append_eq_append_iff.1 h with ⟨head, hearlier, hnew⟩ | ⟨rest, hold, hnew⟩
    · cases event with
      | client data => exact ⟨init, data, [], head, later, rfl, hearlier.symm, hnew⟩
      | device data => cases head <;> cases hnew
      | timeout => cases head <;> cases hnew
    · cases rest with
      | nil =>
        cases event with
        | client data =>
          exact ⟨init, data, [], [], later, rfl, by simpa using hold, hnew.symm⟩
        | device data => cases hnew
        | timeout => cases hnew
      | cons first rest =>
        obtain ⟨rfl, -⟩ := List.cons.inj hnew
        obtain ⟨before, data, others, head, tail, rfl, hhead, hheard⟩ := ih hold
        exact ⟨before, data, others ++ [event], head, tail, by simp, hhead, hheard⟩

/-- The run up to and including the line that ends it. -/
theorem run_of_ending_line {t : Tuner σ} {session : Session} {s : σ} {before : List SessionEvent}
    {data : List UInt8} {head tail : List String} {line : String} {e : SessionEnd}
    (hopen : Open before) (hdata : data ≠ [])
    (hheard : (session.after before).heard data = head ++ line :: tail)
    (hearlier : Continues t (session.linesOf before ++ head) s)
    (hline : endingOf (answerLine t line
      (answerLines t (session.linesOf before ++ head) s).2).1 = some e)
    (rest : List SessionEvent) :
    run t (before ++ .client data :: rest) session s =
      { session :=
          { session.after before with
            lines := ((session.after before).lines.push data).drain.2
            commands := session.commands + (session.linesOf before ++ head).length + 1 }
        tuner := (answerLines t (session.linesOf before ++ head ++ [line]) s).2
        output := (run t before session s).output ++
          (repliesTo t head (answerLines t (session.linesOf before) s).2).map .reply
        ended := some e } := by
  obtain ⟨hbefore, hhead⟩ := continues_append.1 hearlier
  rw [answerLines_append] at hline
  rw [run_of_ending (multiplexed_run hopen hbefore)
    (handle_client_of_ending hdata hheard hhead hline) rfl, List.append_assoc,
    answerLines_append t (session.linesOf before)]
  simp only [after, List.length_append, Nat.add_assoc]

/-- The run up to and including an empty read. -/
theorem run_of_closing {t : Tuner σ} {session : Session} {s : σ} {before : List SessionEvent}
    {event : SessionEvent} {e : SessionEnd} (hopen : Open before)
    (hlines : Continues t (session.linesOf before) s) (hevent : event.closing? = some e)
    (rest : List SessionEvent) :
    run t (before ++ event :: rest) session s =
      { session := session.after before
        tuner := (answerLines t (session.linesOf before) s).2
        output := (run t before session s).output
        ended := some e } := by
  rw [run_of_ending (multiplexed_run hopen hlines) (handle_closing t _ hevent _) rfl]
  simp only [List.append_nil]

/-! ## The end -/

/-- **Nothing follows the end of a session.** Take the lines of the client as far as they come
before the first empty read. If `line` is the first of them that asks for the end or on which the
tuner fails, then the session ends with it for this reason: the lines up to it are carried out and
no others, the calls to the tuner are theirs, they are counted, and what is written are the outputs
of the events before the read that brought `line` and the replies to the lines before `line` in that
read. If no line ends the session, the first empty read does: nothing is carried out or written for
it, nor for bytes that make up no line. Nothing else ends a session. -/
theorem nothing_follows_the_end (t : Tuner σ) (s : σ) (events : List SessionEvent) :
    let r := run t events {} s
    let linesIn (events : List SessionEvent) := LineFramer.framesOf (clientReads events)
    (∀ earlier line later e,
      linesIn (SessionEvent.openPart events) = earlier ++ line :: later →
      Continues t earlier s →
      endingOf (answerLine t line (answerLines t earlier s).2).1 = some e →
      r.ended = some e ∧
      r.session.commands = earlier.length + 1 ∧
      r.tuner = (answerLines t (earlier ++ [line]) s).2 ∧
      run t.recording events {} (s, []) = r.withLog (linesExchanges t (earlier ++ [line]) s) ∧
      ∃ before data rest head, events = before ++ .client data :: rest ∧
        linesIn before ++ head = earlier ∧
        (run t before {} s).ended = none ∧
        r.output = (run t before {} s).output ++
          (repliesTo t head (answerLines t (linesIn before) s).2).map .reply) ∧
    (∀ before event rest e, events = before ++ event :: rest → Open before →
      event.closing? = some e → Continues t (linesIn before) s →
      r.ended = some e ∧
      r.session.commands = (linesIn before).length ∧
      r.tuner = (answerLines t (linesIn before) s).2 ∧
      run t.recording events {} (s, []) = r.withLog (linesExchanges t (linesIn before) s) ∧
      (run t before {} s).ended = none ∧
      r.output = (run t before {} s).output) ∧
    (r.ended = none ↔ Open events ∧ Continues t (linesIn events) s) := by
  intro r linesIn
  have hlinesIn : linesIn = linesOf {} := funext fun events => (linesOf_new events).symm
  rw [hlinesIn]
  refine ⟨fun earlier line later e hlines hearlier hline => ?_,
    fun before event rest e hevents hopen hevent hlines => ?_, run_ended_eq_none_iff⟩
  · obtain ⟨before, data, rest, head, tail, hpart, rfl, hheard⟩ := exists_read_of_linesOf hlines
    have hopen : Open (before ++ .client data :: rest) :=
      hpart ▸ SessionEvent.open_openPart events
    obtain ⟨hbefore, hread⟩ := List.forall_mem_append.1 hopen
    have hdata := SessionEvent.ne_nil_of_client (List.forall_mem_cons.1 hread).1
    have hevents : events = before ++ .client data ::
        (rest ++ events.dropWhile (·.closing?.isNone)) := by
      rw [← List.cons_append, ← List.append_assoc, ← hpart, SessionEvent.openPart,
        List.takeWhile_append_dropWhile]
    have hrun := run_of_ending_line hbefore hdata hheard hearlier hline
      (rest ++ events.dropWhile (·.closing?.isNone))
    have hrecorded := run_of_ending_line (t := t.recording) (s := (s, [])) hbefore hdata hheard
      (continues_recording.2 hearlier)
      (by rw [answerLines_recording, answerLine_recording]; exact hline)
      (rest ++ events.dropWhile (·.closing?.isNone))
    rw [← hevents] at hrun hrecorded
    have hr : r = _ := hrun
    refine ⟨by rw [hr], ?_, by rw [hr], run_recording_eq ?_, before, data, _, head, hevents, rfl,
      (multiplexed_run hbefore (continues_append.1 hearlier).1).goesOn, by rw [hr]⟩
    · rw [hr]
      exact congrArg (· + 1) (Nat.zero_add _)
    · rw [hrecorded, answerLines_recording]
      rfl
  · have hrun := run_of_closing hopen hlines hevent rest
    have hrecorded := run_of_closing (t := t.recording) (s := (s, [])) hopen
      (continues_recording.2 hlines) hevent rest
    rw [← hevents] at hrun hrecorded
    have hr : r = _ := hrun
    refine ⟨by rw [hr], ?_, by rw [hr], run_recording_eq ?_,
      (multiplexed_run hopen hlines).goesOn, by rw [hr]⟩
    · rw [hr]
      exact Nat.zero_add _
    · rw [hrecorded, answerLines_recording]
      rfl

/-- Three commands in one read, the second of which is `QUIT`. -/
theorem nothing_follows_the_end_quit_in_batch :
    let events : List SessionEvent :=
      [.client [73, 68, 10, 81, 85, 73, 84, 10, 73, 68, 10], .device [1, 242, 0]]
    (run SimulatedBand.tuner events {} (.ofConfig .standard)).ended = some .quit ∧
      (run SimulatedBand.tuner events {} (.ofConfig .standard)).session.commands = 2 := by
  intro events
  have hlines : LineFramer.framesOf (clientReads (SessionEvent.openPart events)) =
      ["ID"] ++ "QUIT" :: ["ID"] := by
    decide +kernel
  have hearlier : Continues SimulatedBand.tuner ["ID"] (.ofConfig .standard) := by
    decide +kernel
  have hend := (nothing_follows_the_end SimulatedBand.tuner (.ofConfig .standard) events).1
    ["ID"] "QUIT" ["ID"] .quit hlines hearlier (by decide +kernel)
  exact ⟨hend.1, hend.2.1⟩

end Session

end RadioData
