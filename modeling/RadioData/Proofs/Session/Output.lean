import RadioData.Proofs.Group.Reading
import RadioData.Proofs.Session.Multiplex
import RadioData.Proofs.Text.LineFeed
import RadioData.Proofs.Text.Words
import RadioData.Tuner.RadioDevice
/-!
# What a client can tell from the output

A client cuts what it receives at the line feeds and takes the lines that start with a percent sign
for replies, the others for groups. A group line holds nothing but digits, dashes and spaces, and of
the texts that replies quote the client's own argument is a word, so neither can mislead it. The
third such text is the name that the tuner gives, and nothing keeps line feeds out of it.
`replies_told_apart_iff` is the main statement: replies are single lines, and what a client takes
for replies and for groups are the replies and the groups, if and only if there is no line feed in
the name. For a simulated band that is the name it is configured with, for a radio device the bytes
of the card's name up to the first zero byte.
-/

namespace RadioData

variable {σ : Type}

/-! ## Replies -/

namespace Reply

/-- The reply is one line: a percent sign and a space, a text without line feeds, and one line feed
at the very end. -/
def OneLine (r : Reply) : Prop :=
  ∃ text : List Char, r.line.toList = '%' :: ' ' :: text ++ ['\n'] ∧ '\n' ∉ text

theorem line_eq (r : Reply) : r.line = "% " ++ r.text ++ "\n" := rfl

/-- A reply is one line if its text holds no line feed. -/
theorem oneLine_iff {r : Reply} : r.OneLine ↔ '\n' ∉ r.text.toList := by
  have hline : r.line.toList = '%' :: ' ' :: r.text.toList ++ ['\n'] := by
    rw [line_eq, String.toList_append, String.toList_append]
    rfl
  constructor
  · rintro ⟨text, htext, hnone⟩
    obtain rfl : r.text.toList = text := by simpa [hline] using htext
    exact hnone
  · exact fun h => ⟨r.text.toList, hline, h⟩

/-- A reply that quotes a text is one line if and only if the text holds no line feed. -/
theorem oneLine_iff_of_text {r : Reply} (wording quoted : String) (h : r.text = wording ++ quoted)
    (hwording : '\n' ∉ wording.toList) : r.OneLine ↔ '\n' ∉ quoted.toList := by
  rw [oneLine_iff, h, String.toList_append, List.mem_append, not_or]
  exact and_iff_right hwording

theorem oneLine_frequency (khz : UInt32) : (frequency khz).OneLine :=
  (oneLine_iff_of_text "Freq: " (toString khz.toNat) rfl (by decide)).2
    (lineFeed_not_mem_toString_nat _)

theorem oneLine_signal (level : Int32) : (signal level).OneLine :=
  (oneLine_iff_of_text "Signal: " (toString level.toInt) rfl (by decide)).2
    (lineFeed_not_mem_toString_int _)

theorem oneLine_identity {name : String} : (identity name).OneLine ↔ '\n' ∉ name.toList :=
  oneLine_iff_of_text "Id: " name rfl (by decide)

theorem oneLine_invalidFrequency {argument : String} :
    (invalidFrequency argument).OneLine ↔ '\n' ∉ argument.toList :=
  oneLine_iff_of_text "Invalid frequency: " argument rfl (by decide)

theorem oneLine_missingArgument : missingArgument.OneLine := by
  rw [oneLine_iff]
  decide

end Reply

/-! ## Answers to lines -/

/-- An argument is quoted as the number that it spells or as the word that it is. -/
theorem Command.lineFeed_not_mem_quotedArgument {argument : List Char} (h : '\n' ∉ argument) :
    '\n' ∉ (quotedArgument argument).toList := by
  rw [quotedArgument]
  split
  · exact lineFeed_not_mem_toString_nat _
  · rwa [String.toList_ofList]

/-- What is quoted of a line is one of its words. -/
theorem Command.lineFeed_not_mem_of_parse {line argument : String}
    (h : parse line = .error (.invalidFrequency argument)) : '\n' ∉ argument.toList := by
  have hwords : Text.IsWords (UpperCase.upper line.toList) (tokens line) := Text.isWords_iff.2 rfl
  have hword : ∀ word ∈ tokens line, '\n' ∉ word := fun word hword hmem =>
    absurd (hwords.isBlank_of_mem word hword _ hmem) (by decide)
  rw [parse] at h
  cases htokens : tokens line with
  | nil => rw [htokens] at h; cases h
  | cons verb arguments =>
    rw [htokens] at h hword
    simp only [ofTokens] at h
    split_ifs at h
    · split at h
      · split at h
        · cases h
        · cases h
          exact lineFeed_not_mem_quotedArgument (hword _ (by simp))
      · cases h
    · cases h

/-- Reporting the frequency takes one line. -/
theorem oneLine_of_reportFrequency {t : Tuner σ} {s : σ} {r : Reply}
    (h : (reportFrequency.run t s).1 = .ok (.reply r)) : r.OneLine := by
  rw [reportFrequency] at h
  rcases hcall : t .frequency s with ⟨e | units, s'⟩
  · rw [Script.run_call_error hcall] at h
    cases h
  · rw [Script.run_call_ok hcall] at h
    cases h
    exact Reply.oneLine_frequency _

/-- After one more call, too, a frequency is all that is reported. -/
theorem oneLine_of_call {t : Tuner σ} {s : σ} {r : Reply} {c : Call}
    {next : c.Answer → Script Response}
    (hnext : ∀ answer s', ((next answer).run t s').1 = .ok (.reply r) → r.OneLine)
    (h : ((Script.call c next).run t s).1 = .ok (.reply r)) : r.OneLine := by
  rcases hcall : t c s with ⟨e | answer, s'⟩
  · rw [Script.run_call_error hcall] at h
    cases h
  · rw [Script.run_call_ok hcall] at h
    exact hnext answer s' h

/-- Asked for the name, the client is told the one that the tuner gives. -/
theorem run_identify {t : Tuner σ} {s : σ} {r : Reply} :
    (Command.identify.script.run t s).1 = .ok (.reply r) ↔
      ∃ name, (t .name s).1 = .ok name ∧ r = .identity name := by
  rw [Command.script]
  rcases hcall : t .name s with ⟨e | name, s'⟩
  · simp [Script.run_call_error hcall]
  · simp [Script.run_call_ok hcall, Script.run, eq_comm]

/-- **The answer to a line is one line, unless it gives the name that the tuner gave.** -/
theorem oneLine_or_identity {t : Tuner σ} {line : String} {s : σ} {r : Reply}
    (h : (answerLine t line s).1 = .ok (.reply r)) :
    r.OneLine ∨ ∃ name, (t .name s).1 = .ok name ∧ r = .identity name := by
  rw [answerLine, lineScript] at h
  cases hparse : Command.parse line with
  | error e =>
    rw [hparse] at h
    cases e with
    | empty | unknownVerb verb => cases h
    | missingArgument =>
      cases h
      exact .inl Reply.oneLine_missingArgument
    | invalidFrequency argument =>
      cases h
      exact .inl (Reply.oneLine_invalidFrequency.2 (Command.lineFeed_not_mem_of_parse hparse))
  | ok command =>
    rw [hparse] at h
    have hreport (_ : Unit) (s' : σ) := oneLine_of_reportFrequency (t := t) (s := s') (r := r)
    cases command with
    | quit => cases h
    | setFrequency f => exact .inl (oneLine_of_call hreport h)
    | getFrequency => exact .inl (oneLine_of_reportFrequency h)
    | getSignal =>
      refine .inl (oneLine_of_call (fun level s' h => ?_) h)
      cases h
      exact Reply.oneLine_signal level
    | seek d => exact .inl (oneLine_of_call hreport h)
    | step d => exact .inl (oneLine_of_call (fun _ _ => oneLine_of_call hreport) h)
    | identify =>
      obtain ⟨name, hname, hr⟩ := run_identify.1 h
      exact .inr ⟨name, hname, hr⟩

/-- A line that asks for the name is answered with it. -/
theorem answerLine_id {t : Tuner σ} {s : σ} {name : String} (h : (t .name s).1 = .ok name) :
    (answerLine t "ID" s).1 = .ok (.reply (.identity name)) := by
  have hparse : Command.parse "ID" = .ok .identify := by decide +kernel
  rw [answerLine, lineScript, hparse]
  exact run_identify.2 ⟨name, h, rfl⟩

/-! ## Replies of a session -/

/-- The replies among what was sent answer lines, at states with a property that the tuner still
has. -/
structure Reaction.Answers (t : Tuner σ) (P : σ → Prop) (r : Reaction σ) : Prop where
  tuner : P r.tuner
  replies : ∀ p, .reply p ∈ r.output → ∃ line s, P s ∧ (answerLine t line s).1 = .ok (.reply p)

namespace Session

variable {t : Tuner σ} {P : σ → Prop}

/-- Lines that are carried out are answered by the tuner that the session has. -/
theorem answers_obey (hP : ∀ c s, P s → P (t c s).2) (lines : List String) (session : Session)
    {s : σ} (hs : P s) : (obey t lines session s).Answers t P := by
  induction lines generalizing session s with
  | nil => exact ⟨hs, by simp [obey]⟩
  | cons line lines ih =>
    have hline : P (answerLine t line s).2 := Script.run_keeps hP _ hs
    cases hend : endingOf (answerLine t line s).1 with
    | some e =>
      rw [obey_of_ending hend]
      exact ⟨hline, by simp⟩
    | none =>
      rw [obey_cons hend]
      obtain ⟨htuner, hlater⟩ := ih (session.counting 1) hline
      refine ⟨htuner, fun p hp => ?_⟩
      rcases List.mem_append.1 hp with hp | hp
      · refine ⟨line, s, hs, ?_⟩
        cases hanswer : (answerLine t line s).1 with
        | error e => rw [hanswer] at hp; cases hp
        | ok response =>
          rw [hanswer] at hp
          cases response with
          | silence | farewell => cases hp
          | reply r => simp_all [replyOf]
      · exact hlater p hp

/-- So is whatever an event leads to. -/
theorem answers_handle (hP : ∀ c s, P s → P (t c s).2) (session : Session) (event : SessionEvent)
    {s : σ} (hs : P s) : (session.handle t event s).Answers t P := by
  cases event with
  | device data =>
    rw [handle, receiveBlocks]
    split
    · exact ⟨hs, by simp⟩
    · exact ⟨hs, by simp⟩
  | client data =>
    rw [handle, receiveLines]
    split
    · exact ⟨hs, by simp⟩
    · exact answers_obey hP _ _ hs
  | timeout => exact ⟨hs, by simp [handle]⟩

/-- **The replies of a session answer lines**, at states that the tuner's calls lead to. -/
theorem answers_run (hP : ∀ c s, P s → P (t c s).2) (events : List SessionEvent)
    (session : Session) {s : σ} (hs : P s) : (run t events session s).Answers t P := by
  induction events generalizing session s with
  | nil => exact ⟨hs, by simp [run]⟩
  | cons event events ih =>
    have hfirst := answers_handle hP session event hs
    cases hend : (session.handle t event s).ended with
    | some e => rwa [run_cons_of_some hend]
    | none =>
      rw [run_cons_of_none hend]
      have hlater := ih (session.handle t event s).session hfirst.tuner
      refine ⟨hlater.tuner, fun p hp => ?_⟩
      rcases List.mem_append.1 hp with hp | hp
      · exact hfirst.replies p hp
      · exact hlater.replies p hp

end Session

/-! ## Lines as a client cuts them -/

/-- The line without its line feed, as bytes. -/
def Output.content : Output → List UInt8
  | .group g => g.text.toUTF8.toList
  | .reply r => ("% " ++ r.text).toUTF8.toList

/-- A line is taken for a reply: it starts with a percent sign. -/
def marked (line : List UInt8) : Bool := line.head? == some 37

theorem Output.bytes_eq (o : Output) : o.bytes = o.content ++ [lineFeed] := by
  have hfeed : "\n".toUTF8.toList = [lineFeed] := by rw [bytes_eq_flatMap]; rfl
  cases o with
  | group g => rw [bytes, line, Group.line, bytes_append, hfeed, content]
  | reply r => rw [bytes, line, Reply.line_eq, bytes_append, hfeed, content]

/-- A group line is never empty. -/
theorem Group.text_ne_nil (g : Group) : g.text.toList ≠ [] := by
  rw [text, String.toList_ofList]
  simp [slots]

/-- A line holds a line feed before its end if and only if it is a reply of several lines. -/
theorem Output.lineFeed_not_mem_content {o : Output} :
    lineFeed ∉ o.content ↔ ∀ r, o = .reply r → r.OneLine := by
  cases o with
  | group g =>
    refine iff_of_true ?_ nofun
    rw [content, lineFeed_mem_bytes]
    intro h
    obtain ⟨n, hn, h⟩ | h | h := Group.mem_text h
    · revert n
      decide
    · exact absurd h (by decide)
    · exact absurd h (by decide)
  | reply r =>
    simp [content, -String.toUTF8_eq_toByteArray, lineFeed_mem_bytes, Reply.oneLine_iff]

/-- The replies are what a client takes for replies. -/
theorem Output.marked_content (o : Output) : marked o.content = o.reply?.isSome := by
  cases o with
  | group g =>
    rw [content, bytes_eq_flatMap]
    rcases hchars : g.text.toList with _ | ⟨c, cs⟩
    · exact absurd hchars g.text_ne_nil
    · have hc : c.toNat < 128 ∧ UInt8.ofNat c.toNat ≠ 37 := by
        obtain ⟨n, hn, rfl⟩ | rfl | rfl := Group.mem_text (hchars ▸ List.mem_cons_self)
        · clear hchars
          revert n
          decide
        · decide
        · decide
      rw [List.flatMap_cons, encodeChar_ascii hc.1]
      simpa [marked, reply?] using hc.2
  | reply r =>
    rw [content, bytes_append, bytes_eq_flatMap]
    rfl

/-- What a client makes of what is written: nothing is left over behind the last line feed, the
lines that start with a percent sign are the replies, and the other ones are the groups. -/
structure Reaction.ToldApart (r : Reaction σ) : Prop where
  whole : (splitLines r.written).2 = []
  replies : (splitLines r.written).1.filter marked =
    (r.output.filterMap Output.reply?).map fun p => (Output.reply p).content
  groups : (splitLines r.written).1.filter (fun line => !marked line) =
    (r.output.filterMap Output.group?).map fun g => (Output.group g).content

/-- The lines with the mark of replies are the replies. -/
theorem filter_marked (output : List Output) :
    (output.map Output.content).filter marked =
      (output.filterMap Output.reply?).map fun p => (Output.reply p).content := by
  induction output with
  | nil => rfl
  | cons o output ih =>
    have ho := o.marked_content
    cases o <;> simp_all [List.filterMap_cons, Output.reply?]

/-- The lines without it are the groups. -/
theorem filter_not_marked (output : List Output) :
    (output.map Output.content).filter (fun line => !marked line) =
      (output.filterMap Output.group?).map fun g => (Output.group g).content := by
  induction output with
  | nil => rfl
  | cons o output ih =>
    have ho := o.marked_content
    cases o <;> simp_all [List.filterMap_cons, Output.reply?, Output.group?]

/-- What is sent is replies and groups and nothing else. -/
theorem length_kinds (output : List Output) :
    (output.filterMap Output.reply?).length + (output.filterMap Output.group?).length =
      output.length := by
  induction output with
  | nil => rfl
  | cons o output ih =>
    cases o <;> simp only [List.filterMap_cons, Output.reply?, Output.group?, List.length_cons] <;>
      omega

/-- Each line brings its line feed along. -/
theorem length_le_count_joinLines (lines : List (List UInt8)) :
    lines.length ≤ (joinLines lines).count lineFeed := by
  induction lines with
  | nil => exact Nat.le_refl 0
  | cons line lines ih =>
    rw [joinLines_cons, List.count_append, List.count_cons_self, List.length_cons]
    omega

/-- There are no other line feeds if and only if no line holds one. -/
theorem count_joinLines_eq_iff {lines : List (List UInt8)} :
    (joinLines lines).count lineFeed = lines.length ↔ ∀ line ∈ lines, lineFeed ∉ line := by
  induction lines with
  | nil => simp
  | cons line lines ih =>
    have hle := length_le_count_joinLines lines
    rw [joinLines_cons, List.count_append, List.count_cons_self, List.length_cons,
      List.forall_mem_cons, ← ih, ← List.count_eq_zero]
    omega

/-- Bytes have as many finished lines as line feeds. -/
theorem length_splitLines_eq_count (bytes : List UInt8) :
    (splitLines bytes).1.length = bytes.count lineFeed := by
  have h := isSplit_splitLines bytes
  conv => rhs; rw [h.joined]
  rw [List.count_append, count_joinLines_eq_iff.2 h.finished, List.count_eq_zero.2 h.unfinished]
  rfl

/-- **Replies and groups can be told apart if and only if every reply is one line.** -/
theorem Reaction.toldApart_iff {r : Reaction σ} :
    r.ToldApart ↔ ∀ p, .reply p ∈ r.output → p.OneLine := by
  have hwritten : r.written = joinLines (r.output.map Output.content) := by
    rw [written, joinLines, List.flatMap_map]
    exact List.flatMap_congr fun o _ => o.bytes_eq
  constructor
  · -- a line feed within a reply makes more lines than there are replies and groups
    rintro ⟨-, hreplies, hgroups⟩ p hp
    have hlength := List.length_eq_length_filter_add (l := (splitLines r.written).1) marked
    rw [hreplies, hgroups, List.length_map, List.length_map, length_kinds,
      length_splitLines_eq_count, hwritten] at hlength
    have hlines := count_joinLines_eq_iff.1 (by rw [hlength, List.length_map])
    exact Output.lineFeed_not_mem_content.1 (hlines _ (List.mem_map_of_mem hp)) p rfl
  · intro h
    have hsplit : splitLines r.written = (r.output.map Output.content, []) := by
      refine isSplit_iff.1 ⟨by rw [hwritten, List.append_nil], ?_, List.not_mem_nil⟩
      intro line hline
      obtain ⟨o, ho, rfl⟩ := List.mem_map.1 hline
      exact Output.lineFeed_not_mem_content.2 fun p hp => h p (hp ▸ ho)
    exact ⟨by rw [hsplit], by rw [hsplit, filter_marked], by rw [hsplit, filter_not_marked]⟩

/-! ## Names that tuners give -/

namespace SimulatedBand

/-- The states that a band made from a configuration can be in. -/
inductive Reachable (c : Config) : SimulatedBand → Prop
  | start : Reachable c (ofConfig c)
  | call (call : Call) {b : SimulatedBand} (h : Reachable c b) : Reachable c (tuner call b).2
  | fail (reason : Option String) {b : SimulatedBand} (h : Reachable c b) :
      Reachable c (b.withFailure reason)

/-- Nothing that happens to a simulated band changes its name. -/
theorem Reachable.name_eq {c : Config} {b : SimulatedBand} (h : Reachable c b) :
    b.name = c.name := by
  induction h with
  | start => rfl
  | call call h ih =>
    obtain ⟨units, hcall⟩ := exists_tuner_eq call _
    rw [hcall]
    exact ih
  | fail reason h ih => exact ih

/-- A band gives no other name than the one that it is configured with. -/
theorem Reachable.eq_name {c : Config} {b : SimulatedBand} (h : Reachable c b) {name : String}
    (hname : (tuner .name b).1 = .ok name) : name = c.name := by
  rw [tuner] at hname
  split at hname
  · cases hname
  · cases hname
    exact h.name_eq

end SimulatedBand

namespace RadioDevice

/-- The bytes of the card's name in the answer to `queryCapability`, up to the first zero byte. -/
def cardBytes (argument : List UInt8) : List UInt8 :=
  ((argument.drop 16).take 32).takeWhile (· != 0)

/-- The name of a card holds a line feed just where its bytes do. -/
theorem lineFeed_mem_cardName (argument : List UInt8) :
    '\n' ∈ (cardName argument).toList ↔ lineFeed ∈ cardBytes argument :=
  Utf8.lineFeed_mem_decode _

/-- The name that a radio device gives is the card's. -/
theorem name_eq_ok_iff {k : Kernel σ} {s : σ} {name : String} :
    (tuner k .name s).1 = .ok name ↔
      ∃ argument, (k .queryCapability s).1 = .ok argument ∧ cardName argument = name := by
  rw [tuner, request]
  rcases k .queryCapability s with ⟨e | argument, s'⟩ <;> simp

end RadioDevice

/-! ## What a client can tell -/

/-- Replies are single lines if and only if the name that the tuner would give is. -/
theorem oneLine_answers_iff (t : Tuner σ) (s : σ) :
    (∀ line r, (answerLine t line s).1 = .ok (.reply r) → r.OneLine) ↔
      ∀ name, (t .name s).1 = .ok name → '\n' ∉ name.toList := by
  constructor
  · exact fun h name hname => Reply.oneLine_identity.1 (h "ID" _ (answerLine_id hname))
  · intro h line r hr
    obtain hone | ⟨name, hname, rfl⟩ := oneLine_or_identity hr
    · exact hone
    · exact Reply.oneLine_identity.2 (h name hname)

/-- The output of a session can be told apart if and only if the names in it are single lines. -/
theorem run_toldApart_iff (t : Tuner σ) (events : List SessionEvent) (s : σ) :
    (Session.run t events {} s).ToldApart ↔
      ∀ name, .reply (.identity name) ∈ (Session.run t events {} s).output →
        '\n' ∉ name.toList := by
  rw [Reaction.toldApart_iff]
  constructor
  · exact fun h name hname => Reply.oneLine_identity.1 (h _ hname)
  · intro h p hp
    have hanswers : (Session.run t events {} s).Answers t fun _ => True :=
      Session.answers_run (fun _ _ _ => trivial) events {} trivial
    obtain ⟨line, s', -, hanswer⟩ := hanswers.replies p hp
    obtain hone | ⟨name, -, rfl⟩ := oneLine_or_identity hanswer
    · exact hone
    · exact Reply.oneLine_identity.2 (h name hp)

/-- The bytes of a line that asks for the name. -/
def askingName : List UInt8 := [73, 68, 10]

/-- A client that asks for the name is told it. -/
theorem told_of_askingName {t : Tuner σ} {s : σ} {name : String} (h : (t .name s).1 = .ok name) :
    .reply (.identity name) ∈ (Session.run t [.client askingName] {} s).output := by
  have hlines : Session.linesOf {} [.client askingName] = ["ID"] := by decide +kernel
  have hreplies : repliesTo t ["ID"] s = [.identity name] := by
    rw [repliesTo_cons, answerLine_id h]
    rfl
  have hcontinues : Continues t (Session.linesOf {} [.client askingName]) s := by
    rw [hlines, continues_cons, answerLine_id h]
    exact ⟨rfl, continues_nil _ _⟩
  have hopen : SessionEvent.Open [.client askingName] := by
    simp [SessionEvent.Open, SessionEvent.closing?, askingName]
  have hrun := Session.multiplexed_run hopen hcontinues
  have hmem : Reply.identity name ∈
      (Session.run t [.client askingName] {} s).output.filterMap Output.reply? := by
    rw [hrun.replies, hlines, hreplies]
    exact List.mem_singleton_self _
  obtain ⟨o, ho, hreply⟩ := List.mem_filterMap.1 hmem
  cases o with
  | group g => cases hreply
  | reply r => cases hreply; exact ho

/-- What a simulated band tells can be told apart if and only if the name that it is configured with
is one line. -/
theorem SimulatedBand.toldApart_iff (c : Config) :
    (∀ b, Reachable c b → ∀ events, (Session.run tuner events {} b).ToldApart) ↔
      '\n' ∉ c.name.toList := by
  constructor
  · intro h
    exact (run_toldApart_iff _ _ _).1 (h _ .start [.client askingName]) _ (told_of_askingName rfl)
  · intro h b hb events
    refine (run_toldApart_iff _ _ _).2 fun name hname => ?_
    obtain ⟨line, b', hb', hanswer⟩ :=
      (Session.answers_run (fun call _ => Reachable.call call) events {} hb).replies _ hname
    obtain hone | ⟨given, hgiven, hname⟩ := oneLine_or_identity hanswer
    · exact Reply.oneLine_identity.1 hone
    · cases hname
      rwa [hb'.eq_name hgiven]

/-- **Replies are single lines, and can be told from groups, if and only if the tuner's name is one
line.** On any tuner, whatever its state and whatever the line, replies start with a percent sign
and a space and have their one line feed at the end if no name that is given holds a line feed; and
a session's output, cut at its line feeds, has the replies for its lines with a percent sign in
front and the groups for its other lines if no name that was told holds one. Otherwise neither is
so. A simulated band has only the name that it is configured with, and a radio device the bytes of
the card's name. -/
theorem replies_told_apart_iff (t : Tuner σ) (s : σ) :
    ((∀ line r, (answerLine t line s).1 = .ok (.reply r) → r.OneLine) ↔
      ∀ name, (t .name s).1 = .ok name → '\n' ∉ name.toList) ∧
    (∀ events, (Session.run t events {} s).ToldApart ↔
      ∀ name, .reply (.identity name) ∈ (Session.run t events {} s).output → '\n' ∉ name.toList) ∧
    (∀ c : SimulatedBand.Config,
      ((∀ b, SimulatedBand.Reachable c b → ∀ line r,
          (answerLine SimulatedBand.tuner line b).1 = .ok (.reply r) → r.OneLine) ↔
        '\n' ∉ c.name.toList) ∧
      ((∀ b, SimulatedBand.Reachable c b → ∀ events,
          (Session.run SimulatedBand.tuner events {} b).ToldApart) ↔ '\n' ∉ c.name.toList)) ∧
    ∀ k : RadioDevice.Kernel σ,
      (∀ line r, (answerLine (RadioDevice.tuner k) line s).1 = .ok (.reply r) → r.OneLine) ↔
        ∀ argument, (k .queryCapability s).1 = .ok argument →
          lineFeed ∉ RadioDevice.cardBytes argument := by
  refine ⟨oneLine_answers_iff t s, fun events => run_toldApart_iff t events s, fun c => ⟨?_, ?_⟩,
    fun k => ?_⟩
  · constructor
    · exact fun h => (oneLine_answers_iff _ _).1 (h _ .start) c.name rfl
    · intro h b hb
      exact (oneLine_answers_iff _ _).2 fun name hname => hb.eq_name hname ▸ h
  · exact SimulatedBand.toldApart_iff c
  · rw [oneLine_answers_iff]
    constructor
    · intro h argument hargument
      rw [← RadioDevice.lineFeed_mem_cardName]
      exact h _ (RadioDevice.name_eq_ok_iff.2 ⟨argument, hargument, rfl⟩)
    · intro h name hname
      obtain ⟨argument, hargument, rfl⟩ := RadioDevice.name_eq_ok_iff.1 hname
      rw [RadioDevice.lineFeed_mem_cardName]
      exact h argument hargument

/-- A band is configured with a name of two lines: to a client that asks for it, the second one
looks like a group that no station has sent. -/
theorem name_forges_group :
    let c : SimulatedBand.Config := ⟨"FM\n1234 5678 9ABC DEF0 ", .lowest, []⟩
    let forged : Group := ⟨.word 0x1234, .word 0x5678, .word 0x9ABC, .word 0xDEF0⟩
    let r := Session.run SimulatedBand.tuner [.client askingName] {} (.ofConfig c)
    (answerLine SimulatedBand.tuner "ID" (.ofConfig c)).1 = .ok (.reply (.identity c.name)) ∧
      ¬(Reply.identity c.name).OneLine ∧
      r.output.filterMap Output.group? = [] ∧
      (splitLines r.written).1.filter (fun line => !marked line) =
        [(Output.group forged).content] ∧
      ¬r.ToldApart := by
  intro c forged r
  have hname : ¬(Reply.identity c.name).OneLine :=
    Reply.oneLine_identity.not.2 (not_not.2 (by decide))
  have hmem : .reply (.identity c.name) ∈ r.output := told_of_askingName rfl
  refine ⟨answerLine_id rfl, hname, by decide +kernel, by decide +kernel, ?_⟩
  exact fun h => hname (Reaction.toldApart_iff.1 h _ hmem)

end RadioData
