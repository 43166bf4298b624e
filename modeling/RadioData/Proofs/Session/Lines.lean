import RadioData.Proofs.Tuner.Exchange
import RadioData.Session
/-!
# Carrying out the lines of one read

`Session.obey` carries out lines until one of them ends the session. Every list of lines either has
none that does, or has a first one (`continues_or_first_ending`): the lines before it are all
carried out and answered (`obey_of_continues`), it is carried out itself without a reply, and those
behind it are never looked at (`obey_of_ending`).
-/

namespace RadioData

variable {σ : Type}

/-- The end of the session that an answer brings about, if it does. -/
def endingOf : Except TunerError Response → Option SessionEnd
  | .error e => some (.tunerFailed e)
  | .ok .farewell => some .quit
  | .ok .silence | .ok (.reply _) => none

/-- What an answer tells the client. -/
def replyOf : Except TunerError Response → Option Reply
  | .ok (.reply r) => some r
  | .ok .silence | .ok .farewell | .error _ => none

/-- None of the lines ends a session. -/
def Continues (t : Tuner σ) (lines : List String) (s : σ) : Prop :=
  ∀ answer ∈ (answerLines t lines s).1, endingOf answer = none

instance (t : Tuner σ) (lines : List String) (s : σ) : Decidable (Continues t lines s) :=
  inferInstanceAs (Decidable (∀ answer ∈ (answerLines t lines s).1, endingOf answer = none))

/-- The replies to lines that are carried out one after the other. -/
def repliesTo (t : Tuner σ) (lines : List String) (s : σ) : List Reply :=
  (answerLines t lines s).1.filterMap replyOf

theorem continues_nil (t : Tuner σ) (s : σ) : Continues t [] s := by
  intro answer h
  cases h

theorem continues_cons {t : Tuner σ} {line : String} {lines : List String} {s : σ} :
    Continues t (line :: lines) s ↔
      endingOf (answerLine t line s).1 = none ∧ Continues t lines (answerLine t line s).2 := by
  rw [Continues, answerLines_cons, List.forall_mem_cons, Continues]

/-- Lines go on to the end if the first of them do and then the others. -/
theorem continues_append {t : Tuner σ} {xs ys : List String} {s : σ} :
    Continues t (xs ++ ys) s ↔ Continues t xs s ∧ Continues t ys (answerLines t xs s).2 := by
  rw [Continues, answerLines_append, List.forall_mem_append, Continues, Continues]

theorem repliesTo_cons (t : Tuner σ) (line : String) (lines : List String) (s : σ) :
    repliesTo t (line :: lines) s =
      (replyOf (answerLine t line s).1).toList ++ repliesTo t lines (answerLine t line s).2 := by
  rw [repliesTo, answerLines_cons, List.filterMap_cons]
  cases replyOf (answerLine t line s).1 <;> rfl

/-- The replies to lines are those to the first of them and then those to the others. -/
theorem repliesTo_append (t : Tuner σ) (xs ys : List String) (s : σ) :
    repliesTo t (xs ++ ys) s = repliesTo t xs s ++ repliesTo t ys (answerLines t xs s).2 := by
  rw [repliesTo, answerLines_append, List.filterMap_append, repliesTo, repliesTo]

/-- Either no line ends the session, or there is a first one that does. -/
theorem continues_or_first_ending (t : Tuner σ) (lines : List String) (s : σ) :
    Continues t lines s ∨
      ∃ earlier line later e, lines = earlier ++ line :: later ∧ Continues t earlier s ∧
        endingOf (answerLine t line (answerLines t earlier s).2).1 = some e := by
  induction lines generalizing s with
  | nil => exact .inl (continues_nil t s)
  | cons line lines ih =>
    cases h : endingOf (answerLine t line s).1 with
    | some e => exact .inr ⟨[], line, lines, e, rfl, continues_nil t s, h⟩
    | none =>
      rcases ih (answerLine t line s).2 with hall | ⟨earlier, last, later, e, rfl, hearlier, he⟩
      · exact .inl (continues_cons.2 ⟨h, hall⟩)
      · exact .inr ⟨line :: earlier, last, later, e, rfl, continues_cons.2 ⟨h, hearlier⟩, he⟩

namespace Session

/-- The session after some more lines have been received. -/
def counting (session : Session) (count : Nat) : Session :=
  { session with commands := session.commands + count }

/-- A line that does not end the session is answered, and the next one is taken up. -/
theorem obey_cons {t : Tuner σ} {line : String} {s : σ}
    (h : endingOf (answerLine t line s).1 = none) (rest : List String) (session : Session) :
    obey t (line :: rest) session s =
      { obey t rest (session.counting 1) (answerLine t line s).2 with
        output := (replyOf (answerLine t line s).1).toList.map .reply ++
          (obey t rest (session.counting 1) (answerLine t line s).2).output } := by
  rw [obey]
  rcases hanswer : answerLine t line s with ⟨answer | response, s'⟩
  · rw [hanswer] at h
    cases h
  · cases response with
    | reply r => rfl
    | silence => rfl
    | farewell =>
      rw [hanswer] at h
      cases h

/-- **Lines that do not end the session are all carried out and answered.** -/
theorem obey_of_continues {t : Tuner σ} {lines : List String} {s : σ} (h : Continues t lines s)
    (rest : List String) (session : Session) :
    obey t (lines ++ rest) session s =
      { obey t rest (session.counting lines.length) (answerLines t lines s).2 with
        output := (repliesTo t lines s).map .reply ++
          (obey t rest (session.counting lines.length) (answerLines t lines s).2).output } := by
  induction lines generalizing session s with
  | nil => rfl
  | cons line lines ih =>
    obtain ⟨hline, hlines⟩ := continues_cons.1 h
    have hcount : (session.counting 1).counting lines.length =
        session.counting (line :: lines).length := by
      simp only [counting, List.length_cons, Nat.add_assoc, Nat.add_comm 1]
    rw [List.cons_append, obey_cons hline, ih hlines, hcount, repliesTo_cons, answerLines_cons,
      List.map_append, List.append_assoc]

/-- **A line that ends the session is the last one**: it is carried out, but not answered, and what
stands behind it is not looked at. -/
theorem obey_of_ending {t : Tuner σ} {line : String} {s : σ} {e : SessionEnd}
    (h : endingOf (answerLine t line s).1 = some e) (rest : List String) (session : Session) :
    obey t (line :: rest) session s =
      { session := session.counting 1, tuner := (answerLine t line s).2, ended := some e } := by
  rw [obey]
  rcases hanswer : answerLine t line s with ⟨failure | response, s'⟩
  · rw [hanswer] at h
    cases h
    rfl
  · rw [hanswer] at h
    cases response with
    | reply r => cases h
    | silence => cases h
    | farewell =>
      cases h
      rfl

end Session

end RadioData
