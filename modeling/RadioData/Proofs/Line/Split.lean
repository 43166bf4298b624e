import RadioData.Line
/-!
# The one way to cut bytes into lines

`IsSplit bytes lines rest` says, without a function, what the finished lines of a list of bytes are:
stretches without a line feed, each followed by one, with an unfinished stretch behind them. There
is exactly one such cut and `splitLines` finds it (`isSplit_iff`), so a statement about the lines
of a stream can be made in either form. `splitLines_append` is what framing rests on: bytes that
arrive later go on with the unfinished line and leave the finished ones as they are.
-/

namespace RadioData

/-- Lines written one after the other, each with its line feed. -/
def joinLines (lines : List (List UInt8)) : List UInt8 := lines.flatMap (· ++ [lineFeed])

@[simp] theorem joinLines_nil : joinLines [] = [] := rfl

@[simp] theorem joinLines_cons (line : List UInt8) (lines : List (List UInt8)) :
    joinLines (line :: lines) = line ++ lineFeed :: joinLines lines := by
  simp [joinLines]

@[simp] theorem joinLines_append (xs ys : List (List UInt8)) :
    joinLines (xs ++ ys) = joinLines xs ++ joinLines ys := by
  simp [joinLines]

/-- `lines` are the finished lines of `bytes` and `rest` is the unfinished one. -/
structure IsSplit (bytes : List UInt8) (lines : List (List UInt8)) (rest : List UInt8) : Prop where
  joined : bytes = joinLines lines ++ rest
  finished : ∀ line ∈ lines, lineFeed ∉ line
  unfinished : lineFeed ∉ rest

/-! ## What the cut is -/

/-- Bytes without a line feed are one unfinished line. -/
theorem splitLines_of_not_mem {bytes : List UInt8} (h : lineFeed ∉ bytes) :
    splitLines bytes = ([], bytes) := by
  induction bytes with
  | nil => rfl
  | cons b bytes ih =>
    have hb : b ≠ lineFeed := fun e => h (e ▸ List.mem_cons_self)
    have hrest : lineFeed ∉ bytes := fun e => h (List.mem_cons_of_mem b e)
    rw [splitLines, ih hrest]
    simp [hb]

/-- A line feed finishes the line before it. -/
theorem splitLines_line {line : List UInt8} (h : lineFeed ∉ line) (bytes : List UInt8) :
    splitLines (line ++ lineFeed :: bytes) =
      (line :: (splitLines bytes).1, (splitLines bytes).2) := by
  induction line with
  | nil => simp [splitLines]
  | cons b line ih =>
    have hb : b ≠ lineFeed := fun e => h (e ▸ List.mem_cons_self)
    have hrest : lineFeed ∉ line := fun e => h (List.mem_cons_of_mem b e)
    rw [List.cons_append, splitLines, ih hrest]
    simp [hb]

/-- Finished lines come out one by one, in front of the lines of what follows. -/
theorem splitLines_joinLines_append {lines : List (List UInt8)}
    (h : ∀ line ∈ lines, lineFeed ∉ line) (bytes : List UInt8) :
    splitLines (joinLines lines ++ bytes) =
      (lines ++ (splitLines bytes).1, (splitLines bytes).2) := by
  induction lines with
  | nil => rfl
  | cons line lines ih =>
    have hline := h line List.mem_cons_self
    have hlines : ∀ l ∈ lines, lineFeed ∉ l := fun l hl => h l (List.mem_cons_of_mem line hl)
    rw [joinLines_cons, List.append_assoc, List.cons_append, splitLines_line hline, ih hlines]
    rfl

/-- `splitLines` cuts bytes into their lines. -/
theorem isSplit_splitLines (bytes : List UInt8) :
    IsSplit bytes (splitLines bytes).1 (splitLines bytes).2 := by
  induction bytes with
  | nil => exact ⟨rfl, by simp [splitLines], by simp [splitLines]⟩
  | cons b bytes ih =>
    by_cases hb : b = lineFeed
    · have hs : splitLines (b :: bytes) = ([] :: (splitLines bytes).1, (splitLines bytes).2) := by
        rw [hb]; exact splitLines_line List.not_mem_nil bytes
      rw [hs]
      refine ⟨?_, ?_, ih.unfinished⟩
      · rw [joinLines_cons, List.nil_append, List.cons_append, ← ih.joined, hb]
      · exact List.forall_mem_cons.2 ⟨List.not_mem_nil, ih.finished⟩
    · rcases hl : (splitLines bytes).1 with _ | ⟨line, lines⟩
      · -- no line is finished behind `b`, so it stands in front of the unfinished one
        have hs : splitLines (b :: bytes) = ([], b :: (splitLines bytes).2) := by
          rw [splitLines]; simp [hb, hl]
        have hj : bytes = (splitLines bytes).2 := by simpa [hl] using ih.joined
        rw [hs]
        refine ⟨?_, by simp, ?_⟩
        · rw [joinLines_nil, List.nil_append, ← hj]
        · simpa [Ne.symm hb] using ih.unfinished
      · have hs : splitLines (b :: bytes) = ((b :: line) :: lines, (splitLines bytes).2) := by
          rw [splitLines]; simp [hb, hl]
        have hj : bytes = joinLines (line :: lines) ++ (splitLines bytes).2 := hl ▸ ih.joined
        have hf := List.forall_mem_cons.1 (hl ▸ ih.finished)
        rw [hs]
        refine ⟨?_, ?_, ih.unfinished⟩
        · simpa using hj
        · exact List.forall_mem_cons.2 ⟨by simpa [Ne.symm hb] using hf.1, hf.2⟩

/-- **There is one way to cut bytes into lines, and `splitLines` finds it.** -/
theorem isSplit_iff {bytes : List UInt8} {lines : List (List UInt8)} {rest : List UInt8} :
    IsSplit bytes lines rest ↔ splitLines bytes = (lines, rest) := by
  constructor
  · rintro ⟨rfl, hl, hr⟩
    rw [splitLines_joinLines_append hl, splitLines_of_not_mem hr, List.append_nil]
  · intro h
    simpa [h] using isSplit_splitLines bytes

/-! ## Bytes that arrive later -/

/-- Bytes that arrive later go on with the unfinished line. -/
theorem splitLines_append (xs ys : List UInt8) :
    splitLines (xs ++ ys) =
      ((splitLines xs).1 ++ (splitLines ((splitLines xs).2 ++ ys)).1,
        (splitLines ((splitLines xs).2 ++ ys)).2) := by
  have h := isSplit_splitLines xs
  conv => lhs; rw [h.joined, List.append_assoc]
  exact splitLines_joinLines_append h.finished _

/-- The finished lines and the unfinished one hold all bytes. -/
theorem length_splitLines (bytes : List UInt8) :
    (joinLines (splitLines bytes).1).length + (splitLines bytes).2.length = bytes.length := by
  rw [← List.length_append, ← (isSplit_splitLines bytes).joined]

/-- Bytes hold no line feed or have a first one. -/
theorem lineFeed_cases (bytes : List UInt8) :
    lineFeed ∉ bytes ∨ ∃ line later, bytes = line ++ lineFeed :: later ∧ lineFeed ∉ line := by
  by_cases h : lineFeed ∈ bytes
  · obtain ⟨line, later, he, hn⟩ := List.eq_append_cons_of_mem h
    exact .inr ⟨line, later, he, hn⟩
  · exact .inl h

end RadioData
