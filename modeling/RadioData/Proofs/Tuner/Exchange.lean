import RadioData.Dialogue
/-!
# Records, and the calls that lines make

A record is a list in the order of time: what happens is added at its end. `Throughout R record`
says that all that is in the record stands in a relation to what had been recorded before it. Such a
record grows by what is in this relation to it (`Throughout.concat`).

An `Exchange` is a call to a tuner with what came back. `Script.exchanges` says which exchanges a
script has with a tuner, and `linesExchanges` which ones lines have that are carried out one after
the other. `Tuner.recording` is a tuner with a protocol: it answers as before and writes every
exchange down (`Script.run_recording`). So whatever is shown about the state of every tuner is also
shown about the calls that were made to it.
-/

namespace RadioData

/-! ## Records -/

section record

variable {α : Type} {R : List α → α → Prop} {record : List α} {x : α}

/-- All that is in a record is in a relation to what had been recorded before it. -/
def Throughout (R : List α → α → Prop) (record : List α) : Prop :=
  ∀ earlier x later, record = earlier ++ x :: later → R earlier x

theorem throughout_nil : Throughout R [] := by
  intro earlier x later e
  cases earlier <;> cases e

/-- What holds throughout a record and of what happens next holds throughout the longer record. -/
theorem Throughout.concat (hrecord : Throughout R record) (hx : R record x) :
    Throughout R (record ++ [x]) := by
  intro earlier y later e
  rcases List.eq_nil_or_concat later with rfl | ⟨later, z, rfl⟩
  · obtain ⟨rfl, hlast⟩ := List.append_inj' e rfl
    cases hlast
    exact hx
  · rw [List.concat_eq_append, ← List.cons_append, ← List.append_assoc] at e
    exact hrecord earlier y later (List.append_inj' e rfl).1

/-- What holds throughout a record holds throughout its beginning. -/
theorem Throughout.of_append {later : List α} (h : Throughout R (record ++ later)) :
    Throughout R record := by
  intro earlier y since e
  refine h earlier y (since ++ later) ?_
  rw [e, List.append_assoc, List.cons_append]

end record

/-! ## Exchanges -/

/-- A call, and what the tuner gave back. -/
structure Exchange where
  call : Call
  result : Except TunerError call.Answer

variable {σ α : Type}

/-- The exchanges of a script with a tuner, up to the first call that fails. -/
def Script.exchanges (t : Tuner σ) : Script α → σ → List Exchange
  | .done _, _ => []
  | .call c next, s =>
    match t c s with
    | (.ok answer, s) => ⟨c, .ok answer⟩ :: exchanges t (next answer) s
    | (.error e, _) => [⟨c, .error e⟩]

section call

variable {c : Call} {next : c.Answer → Script α} {t : Tuner σ} {s s' : σ}

/-- After a call that succeeds a script goes on with its answer. -/
theorem Script.run_call_ok {answer : c.Answer} (h : t c s = (.ok answer, s')) :
    (Script.call c next).run t s = (next answer).run t s' := by rw [run, h]

theorem Script.exchanges_call_ok {answer : c.Answer} (h : t c s = (.ok answer, s')) :
    (Script.call c next).exchanges t s = ⟨c, .ok answer⟩ :: (next answer).exchanges t s' := by
  rw [exchanges, h]

/-- A call that fails ends a script. -/
theorem Script.run_call_error {e : TunerError} (h : t c s = (.error e, s')) :
    (Script.call c next).run t s = (.error e, s') := by rw [run, h]

theorem Script.exchanges_call_error {e : TunerError} (h : t c s = (.error e, s')) :
    (Script.call c next).exchanges t s = [⟨c, .error e⟩] := by rw [exchanges, h]

end call

/-- What every call keeps true of the tuner, a script keeps true. -/
theorem Script.run_keeps {P : σ → Prop} {t : Tuner σ} (hP : ∀ c s, P s → P (t c s).2)
    (script : Script α) {s : σ} (hs : P s) : P (script.run t s).2 := by
  induction script generalizing s with
  | done result => exact hs
  | call c next ih =>
    have hcalled := hP c s hs
    rcases hcall : t c s with ⟨e | answer, s'⟩
    · rw [Script.run_call_error hcall]
      rwa [hcall] at hcalled
    · rw [Script.run_call_ok hcall]
      rw [hcall] at hcalled
      exact ih answer hcalled

/-- The tuner with a protocol of all exchanges. -/
def Tuner.recording (t : Tuner σ) : Tuner (σ × List Exchange) := fun c s =>
  ((t c s.1).1, (t c s.1).2, s.2 ++ [⟨c, (t c s.1).1⟩])

/-- **A protocol changes nothing**, and holds the exchanges of the script. -/
theorem Script.run_recording (t : Tuner σ) (script : Script α) (s : σ) (log : List Exchange) :
    script.run t.recording (s, log) =
      ((script.run t s).1, (script.run t s).2, log ++ script.exchanges t s) := by
  induction script generalizing s log with
  | done result => simp [run, exchanges]
  | call c next ih =>
    simp only [run, exchanges, Tuner.recording]
    rcases t c s with ⟨answer | answer, s'⟩
    · rfl
    · dsimp only
      rw [ih]
      simp

/-! ## Several lines -/

/-- What lines lead to that are carried out one after the other, whatever comes of them. -/
def answerLines (t : Tuner σ) : List String → σ → List (Except TunerError Response) × σ
  | [], s => ([], s)
  | line :: lines, s =>
    let (answer, s) := answerLine t line s
    let (answers, s) := answerLines t lines s
    (answer :: answers, s)

/-- The exchanges of a line. -/
def lineExchanges (t : Tuner σ) (line : String) (s : σ) : List Exchange :=
  (lineScript line).exchanges t s

/-- The exchanges of lines that are carried out one after the other. -/
def linesExchanges (t : Tuner σ) : List String → σ → List Exchange
  | [], _ => []
  | line :: lines, s => lineExchanges t line s ++ linesExchanges t lines (answerLine t line s).2

theorem answerLines_cons (t : Tuner σ) (line : String) (lines : List String) (s : σ) :
    answerLines t (line :: lines) s =
      ((answerLine t line s).1 :: (answerLines t lines (answerLine t line s).2).1,
        (answerLines t lines (answerLine t line s).2).2) := rfl

theorem answerLines_append (t : Tuner σ) (xs ys : List String) (s : σ) :
    answerLines t (xs ++ ys) s =
      ((answerLines t xs s).1 ++ (answerLines t ys (answerLines t xs s).2).1,
        (answerLines t ys (answerLines t xs s).2).2) := by
  induction xs generalizing s with
  | nil => rfl
  | cons line xs ih => rw [List.cons_append, answerLines_cons, answerLines_cons, ih]; rfl

theorem answerLine_recording (t : Tuner σ) (line : String) (s : σ) (log : List Exchange) :
    answerLine t.recording line (s, log) =
      ((answerLine t line s).1, (answerLine t line s).2, log ++ lineExchanges t line s) :=
  (lineScript line).run_recording t s log

/-- The protocol of lines holds their exchanges. -/
theorem answerLines_recording (t : Tuner σ) (lines : List String) (s : σ) (log : List Exchange) :
    answerLines t.recording lines (s, log) =
      ((answerLines t lines s).1, (answerLines t lines s).2, log ++ linesExchanges t lines s) := by
  induction lines generalizing s log with
  | nil => simp [answerLines, linesExchanges]
  | cons line lines ih =>
    rw [answerLines_cons, answerLine_recording, ih, answerLines_cons, linesExchanges,
      List.append_assoc]

end RadioData
