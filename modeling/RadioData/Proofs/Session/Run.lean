import Mathlib.Data.List.Induction
import RadioData.Proofs.Group.Reception
import RadioData.Proofs.Line.Segmentation
import RadioData.Proofs.Session.Lines
/-!
# Runs of a session

A session is two machines that do not know of each other: a `Receiver` for what the device sends
and a `LineFramer` with the tuner behind it for what the client sends. `Multiplexed` says that a run
did what the two of them do by themselves, on the reads of either side and nothing else. As long as
no read is empty and no line ends the session, every event keeps to that (`Multiplexed.cons`), so
every such run does (`multiplexed_run`); any other run has a first event that ends it
(`open_or_first_ending`), and what comes after that event is not looked at (`run_of_ending`).
-/

namespace RadioData

variable {σ : Type}

namespace SessionEvent

/-- The bytes that were read from the device, if that is what happened. -/
def deviceRead? : SessionEvent → Option (List UInt8)
  | .device data => some data
  | .client _ | .timeout => none

/-- The bytes that were read from the client, if that is what happened. -/
def clientRead? : SessionEvent → Option (List UInt8)
  | .client data => some data
  | .device _ | .timeout => none

/-- The end of the session that an empty read brings about. -/
def closing? : SessionEvent → Option SessionEnd
  | .device [] => some .deviceClosed
  | .client [] => some .clientClosed
  | .device (_ :: _) | .client (_ :: _) | .timeout => none

/-- The reads from the device, in order. -/
def deviceReads (events : List SessionEvent) : List (List UInt8) := events.filterMap deviceRead?

/-- The reads from the client, in order. -/
def clientReads (events : List SessionEvent) : List (List UInt8) := events.filterMap clientRead?

/-- No read is empty. -/
def Open (events : List SessionEvent) : Prop := ∀ event ∈ events, event.closing? = none

/-- A read from the device that does not close the session brings something. -/
theorem ne_nil_of_device {data : List UInt8} (h : (device data).closing? = none) : data ≠ [] := by
  rintro rfl
  cases h

/-- A read from the client that does not close the session brings something. -/
theorem ne_nil_of_client {data : List UInt8} (h : (client data).closing? = none) : data ≠ [] := by
  rintro rfl
  cases h

end SessionEvent

open SessionEvent (deviceReads clientReads Open)

/-- The group that is sent, if it is one. -/
def Output.group? : Output → Option Group
  | .group g => some g
  | .reply _ => none

/-- The reply that is sent, if it is one. -/
def Output.reply? : Output → Option Reply
  | .reply r => some r
  | .group _ => none

theorem filterMap_group?_map_group (groups : List Group) :
    (groups.map Output.group).filterMap Output.group? = groups := by
  rw [List.filterMap_map]
  exact List.filterMap_some

theorem filterMap_group?_map_reply (replies : List Reply) :
    (replies.map Output.reply).filterMap Output.group? = [] := by
  rw [List.filterMap_map]
  exact List.filterMap_eq_nil_iff.2 fun _ _ => rfl

theorem filterMap_reply?_map_reply (replies : List Reply) :
    (replies.map Output.reply).filterMap Output.reply? = replies := by
  rw [List.filterMap_map]
  exact List.filterMap_some

theorem filterMap_reply?_map_group (groups : List Group) :
    (groups.map Output.group).filterMap Output.reply? = [] := by
  rw [List.filterMap_map]
  exact List.filterMap_eq_nil_iff.2 fun _ _ => rfl

namespace Session

/-- The session's side towards the device. -/
def receiver (session : Session) : Receiver := ⟨session.blocks, session.assembler⟩

/-- The lines that the client's reads bring to the session. -/
def linesOf (session : Session) (events : List SessionEvent) : List String :=
  (session.lines.takeReads (clientReads events)).1

/-- The lines that a new session receives are those of a framer that is pushed the client's
reads. -/
theorem linesOf_new (events : List SessionEvent) :
    linesOf {} events = LineFramer.framesOf (clientReads events) :=
  LineFramer.takeReads_eq_framesOf (clientReads events)

/-- The session after events of which none ends it. -/
def after (session : Session) (events : List SessionEvent) : Session where
  blocks := (session.receiver.receiveAll (deviceReads events)).1.framer
  assembler := (session.receiver.receiveAll (deviceReads events)).1.assembler
  lines := (session.lines.takeReads (clientReads events)).2
  commands := session.commands + (session.linesOf events).length
  lapses := session.lapses + events.count .timeout

/-- The run has sent the groups of the device's reads and the replies to the client's lines, each in
their order, and is ready for more. -/
structure Multiplexed (t : Tuner σ) (session : Session) (s : σ) (events : List SessionEvent)
    (r : Reaction σ) : Prop where
  goesOn : r.ended = none
  state : r.session = session.after events
  tuner : r.tuner = (answerLines t (session.linesOf events) s).2
  groups : r.output.filterMap Output.group? =
    (session.receiver.receiveAll (deviceReads events)).2
  replies : r.output.filterMap Output.reply? = repliesTo t (session.linesOf events) s

/-! ## One event -/

/-- Bytes from the device go to the receiver. -/
theorem handle_device (t : Tuner σ) (session : Session) {data : List UInt8} (h : data ≠ [])
    (s : σ) :
    session.handle t (.device data) s =
      { session :=
          { session with
            blocks := (session.receiver.receive data).1.framer
            assembler := (session.receiver.receive data).1.assembler }
        tuner := s
        output := (session.receiver.receive data).2.map .group } := by
  rw [handle, receiveBlocks, if_neg h]
  rfl

/-- The lines that a read from the client finishes. -/
def heard (session : Session) (data : List UInt8) : List String :=
  (session.lines.push data).drain.1

/-- The session after a read from the client of which no line ends it. -/
def hearing (session : Session) (data : List UInt8) : Session where
  blocks := session.blocks
  assembler := session.assembler
  lines := (session.lines.push data).drain.2
  commands := session.commands + (session.heard data).length
  lapses := session.lapses

/-- Bytes from the client go to the framer, and the lines that they finish are carried out. -/
theorem handle_client (t : Tuner σ) (session : Session) {data : List UInt8} (h : data ≠ [])
    (s : σ) :
    session.handle t (.client data) s =
      obey t (session.heard data)
        { session with lines := (session.lines.push data).drain.2 } s := by
  rw [handle, receiveLines, if_neg h]
  rfl

/-- Lines that do not end the session leave it ready for more. -/
theorem handle_client_of_continues {t : Tuner σ} {session : Session} {data : List UInt8}
    {s : σ} (h : data ≠ []) (hlines : Continues t (session.heard data) s) :
    session.handle t (.client data) s =
      { session := session.hearing data
        tuner := (answerLines t (session.heard data) s).2
        output := (repliesTo t (session.heard data) s).map .reply } := by
  have hobey := obey_of_continues hlines []
    { session with lines := (session.lines.push data).drain.2 }
  rw [List.append_nil] at hobey
  rw [handle_client t session h, hobey]
  simp only [obey, counting, List.append_nil]
  rfl

/-- The lines up to the one that ends the session are carried out, and those before it answered. -/
theorem handle_client_of_ending {t : Tuner σ} {session : Session} {data : List UInt8} {s : σ}
    {earlier later : List String} {line : String} {e : SessionEnd} (h : data ≠ [])
    (hheard : session.heard data = earlier ++ line :: later) (hearlier : Continues t earlier s)
    (hline : endingOf (answerLine t line (answerLines t earlier s).2).1 = some e) :
    session.handle t (.client data) s =
      { session :=
          { session with
            lines := (session.lines.push data).drain.2
            commands := session.commands + earlier.length + 1 }
        tuner := (answerLines t (earlier ++ [line]) s).2
        output := (repliesTo t earlier s).map .reply
        ended := some e } := by
  rw [handle_client t session h, hheard, obey_of_continues hearlier, obey_of_ending hline,
    answerLines_append]
  simp only [counting, List.append_nil]
  rfl

/-- An empty read ends the session on the spot. -/
theorem handle_closing (t : Tuner σ) (session : Session) {event : SessionEvent} {e : SessionEnd}
    (h : event.closing? = some e) (s : σ) :
    session.handle t event s = { session, tuner := s, ended := some e } := by
  cases event with
  | device data =>
    cases data with
    | nil => cases h; rfl
    | cons b data => cases h
  | client data =>
    cases data with
    | nil => cases h; rfl
    | cons b data => cases h
  | timeout => cases h

/-! ## Several events -/

theorem run_cons_of_none {t : Tuner σ} {event : SessionEvent} {session : Session} {s : σ}
    (h : (session.handle t event s).ended = none) (rest : List SessionEvent) :
    run t (event :: rest) session s =
      { run t rest (session.handle t event s).session (session.handle t event s).tuner with
        output := (session.handle t event s).output ++
          (run t rest (session.handle t event s).session
            (session.handle t event s).tuner).output } := by
  rw [run]
  simp only [h]

theorem run_cons_of_some {t : Tuner σ} {event : SessionEvent} {session : Session} {s : σ}
    {e : SessionEnd} (h : (session.handle t event s).ended = some e)
    (rest : List SessionEvent) :
    run t (event :: rest) session s = session.handle t event s := by
  rw [run]
  simp only [h]

/-- A run that has not ended goes on with the events that follow. -/
theorem run_append {t : Tuner σ} {xs : List SessionEvent} {session : Session} {s : σ}
    (h : (run t xs session s).ended = none) (ys : List SessionEvent) :
    run t (xs ++ ys) session s =
      { run t ys (run t xs session s).session (run t xs session s).tuner with
        output := (run t xs session s).output ++
          (run t ys (run t xs session s).session (run t xs session s).tuner).output } := by
  induction xs generalizing session s with
  | nil => rfl
  | cons event xs ih =>
    cases hfirst : (session.handle t event s).ended with
    | some e =>
      rw [run_cons_of_some hfirst, hfirst] at h
      cases h
    | none =>
      rw [run_cons_of_none hfirst] at h
      rw [List.cons_append, run_cons_of_none hfirst, ih h, run_cons_of_none hfirst]
      simp only [List.append_assoc]

/-! ## The invariant -/

/-- The empty run. -/
theorem multiplexed_nil (t : Tuner σ) (session : Session) (s : σ) :
    Multiplexed t session s [] (run t [] session s) where
  goesOn := rfl
  state := rfl
  tuner := rfl
  groups := rfl
  replies := rfl

/-- A read from the device adds its groups and leaves the client's side alone. -/
theorem Multiplexed.device {t : Tuner σ} {session : Session} {s : σ} {rest : List SessionEvent}
    {data : List UInt8} (h : data ≠ [])
    (hrest : Multiplexed t (session.handle t (.device data) s).session s rest
      (run t rest (session.handle t (.device data) s).session s)) :
    Multiplexed t session s (.device data :: rest) (run t (.device data :: rest) session s) := by
  have hone : (session.handle t (.device data) s).ended = none := by rw [handle_device t session h]
  have htuner : (session.handle t (.device data) s).tuner = s := by rw [handle_device t session h]
  rw [run_cons_of_none hone, htuner]
  rw [handle_device t session h] at hrest ⊢
  refine ⟨hrest.goesOn, ?_, hrest.tuner, ?_, ?_⟩
  · rw [hrest.state]
    simp only [after, List.count_cons]
    rfl
  · dsimp only
    rw [List.filterMap_append, filterMap_group?_map_group, hrest.groups]
    rfl
  · dsimp only
    rw [List.filterMap_append, filterMap_reply?_map_group, hrest.replies]
    rfl

theorem linesOf_client (session : Session) (data : List UInt8) (rest : List SessionEvent) :
    session.linesOf (.client data :: rest) =
      session.heard data ++ (session.hearing data).linesOf rest := rfl

/-- A read from the client adds the replies to its lines and leaves the device's side alone. -/
theorem Multiplexed.client {t : Tuner σ} {session : Session} {s : σ} {rest : List SessionEvent}
    {data : List UInt8} (h : data ≠ [])
    (hlines : Continues t (session.heard data) s)
    (hrest : Multiplexed t (session.handle t (.client data) s).session
      (session.handle t (.client data) s).tuner rest
      (run t rest (session.handle t (.client data) s).session
        (session.handle t (.client data) s).tuner)) :
    Multiplexed t session s (.client data :: rest) (run t (.client data :: rest) session s) := by
  have hhandle := handle_client_of_continues h hlines
  have hone : (session.handle t (.client data) s).ended = none := by rw [hhandle]
  rw [run_cons_of_none hone]
  rw [hhandle] at hrest ⊢
  have hsplit := linesOf_client session data rest
  refine ⟨hrest.goesOn, ?_, ?_, ?_, ?_⟩
  · rw [hrest.state]
    simp only [after, hearing, List.count_cons, hsplit, List.length_append, Nat.add_assoc]
    rfl
  · rw [hrest.tuner, hsplit, answerLines_append]
  · dsimp only
    rw [List.filterMap_append, filterMap_group?_map_reply, hrest.groups]
    rfl
  · dsimp only
    rw [List.filterMap_append, filterMap_reply?_map_reply, hrest.replies, hsplit, repliesTo_append]

/-- A wait that lapses is counted. -/
theorem Multiplexed.timeout {t : Tuner σ} {session : Session} {s : σ} {rest : List SessionEvent}
    (hrest : Multiplexed t (session.idle 1) s rest (run t rest (session.idle 1) s)) :
    Multiplexed t session s (.timeout :: rest) (run t (.timeout :: rest) session s) := by
  have hone : (session.handle t .timeout s).ended = none := rfl
  rw [run_cons_of_none hone]
  refine ⟨hrest.goesOn, ?_, hrest.tuner, ?_, ?_⟩
  · refine hrest.state.trans ?_
    simp only [after, List.count_cons_self, idle, Nat.add_assoc, Nat.add_comm 1]
    rfl
  · exact hrest.groups
  · exact hrest.replies

/-- **A run in which nothing ends the session did what its two sides do by themselves.** -/
theorem multiplexed_run {t : Tuner σ} {events : List SessionEvent} {session : Session} {s : σ}
    (hopen : Open events) (hlines : Continues t (session.linesOf events) s) :
    Multiplexed t session s events (run t events session s) := by
  induction events generalizing session s with
  | nil => exact multiplexed_nil t session s
  | cons event rest ih =>
    obtain ⟨hevent, hrest⟩ := List.forall_mem_cons.1 hopen
    cases event with
    | device data =>
      have hdata := SessionEvent.ne_nil_of_device hevent
      refine .device hdata (ih hrest ?_)
      rw [handle_device t session hdata]
      exact hlines
    | client data =>
      have hdata := SessionEvent.ne_nil_of_client hevent
      rw [linesOf_client] at hlines
      obtain ⟨hfirst, hlater⟩ := continues_append.1 hlines
      refine .client hdata hfirst (ih hrest ?_)
      rw [handle_client_of_continues hdata hfirst]
      exact hlater
    | timeout => exact .timeout (ih hrest hlines)

/-! ## The event that ends a session -/

/-- What comes after the event that ends the session is not looked at. -/
theorem run_of_ending {t : Tuner σ} {before : List SessionEvent} {event : SessionEvent}
    {session : Session} {s : σ} {e : SessionEnd} {r : Reaction σ}
    (hbefore : Multiplexed t session s before (run t before session s))
    (hevent :
      (session.after before).handle t event (answerLines t (session.linesOf before) s).2 = r)
    (hend : r.ended = some e) (rest : List SessionEvent) :
    run t (before ++ event :: rest) session s =
      { r with output := (run t before session s).output ++ r.output } := by
  have hhandle : ((run t before session s).session).handle t event (run t before session s).tuner =
      r := by
    rw [hbefore.state, hbefore.tuner, hevent]
  rw [run_append hbefore.goesOn, run_cons_of_some (hhandle ▸ hend), hhandle]

theorem linesOf_append (session : Session) (xs ys : List SessionEvent) :
    session.linesOf (xs ++ ys) =
      session.linesOf xs ++ ((session.after xs).lines.takeReads (clientReads ys)).1 := by
  rw [linesOf, clientReads, List.filterMap_append, LineFramer.takeReads_append]
  rfl

/-- One more event brings the lines that its read finishes, if it is a read from the client. -/
theorem linesOf_concat (session : Session) (events : List SessionEvent) (event : SessionEvent) :
    session.linesOf (events ++ [event]) =
      session.linesOf events ++ event.clientRead?.elim [] (session.after events).heard := by
  rw [linesOf_append]
  cases event with
  | device data => rfl
  | client data => exact congrArg _ (List.append_nil _)
  | timeout => rfl

/-- **Either nothing ends the session, or there is a first event that does**: an empty read, or a
read that brings a line which ends it. -/
theorem open_or_first_ending (t : Tuner σ) (events : List SessionEvent) (session : Session)
    (s : σ) :
    (Open events ∧ Continues t (session.linesOf events) s) ∨
      ∃ before event rest e, events = before ++ event :: rest ∧ Open before ∧
        Continues t (session.linesOf before) s ∧
        ((session.after before).handle t event
          (answerLines t (session.linesOf before) s).2).ended = some e := by
  induction events using List.reverseRec with
  | nil => exact .inl ⟨fun event h => (List.not_mem_nil h).elim, continues_nil t s⟩
  | append_singleton init event ih =>
    rcases ih with ⟨hopen, hlines⟩ | ⟨before, first, rest, e, rfl, hopen, hlines, hend⟩
    · cases hevent : event.closing? with
      | some e =>
        refine .inr ⟨init, event, [], e, rfl, hopen, hlines, ?_⟩
        rw [handle_closing t _ hevent]
      | none =>
        have hall : Open (init ++ [event]) :=
          List.forall_mem_append.2 ⟨hopen, List.forall_mem_singleton.2 hevent⟩
        rw [linesOf_concat]
        cases event with
        | device data => exact .inl ⟨hall, (List.append_nil (session.linesOf init)).symm ▸ hlines⟩
        | timeout => exact .inl ⟨hall, (List.append_nil (session.linesOf init)).symm ▸ hlines⟩
        | client data =>
          have hdata := SessionEvent.ne_nil_of_client hevent
          rcases continues_or_first_ending t ((session.after init).heard data)
              (answerLines t (session.linesOf init) s).2 with
            hheard | ⟨earlier, line, later, e, hheard, hearlier, hline⟩
          · exact .inl ⟨hall, continues_append.2 ⟨hlines, hheard⟩⟩
          · refine .inr ⟨init, .client data, [], e, rfl, hopen, hlines, ?_⟩
            rw [handle_client_of_ending hdata hheard hearlier hline]
    · exact .inr ⟨before, first, rest ++ [event], e, by simp, hopen, hlines, hend⟩

/-- **A run has not ended exactly when no read was empty and no line ends it.** -/
theorem run_ended_eq_none_iff {t : Tuner σ} {events : List SessionEvent} {session : Session}
    {s : σ} :
    (run t events session s).ended = none ↔
      Open events ∧ Continues t (session.linesOf events) s := by
  refine ⟨fun h => ?_, fun ⟨hopen, hlines⟩ => (multiplexed_run hopen hlines).goesOn⟩
  rcases open_or_first_ending t events session s with
    hall | ⟨before, event, rest, e, rfl, hopen, hlines, hend⟩
  · exact hall
  · rw [run_of_ending (multiplexed_run hopen hlines) rfl hend] at h
    exact absurd (hend.symm.trans h) nofun

end Session

end RadioData
