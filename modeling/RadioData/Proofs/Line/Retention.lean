import RadioData.Proofs.Line.Segmentation
/-!
# How much a framer holds on to

Between two reads a framer holds less than a line: an unfinished one within the limit, or nothing at
all while it skips the rest of a line that was dropped (`Settled`). Whatever a read brings, the
framer is settled again when its lines have been taken (`Settled.read`). In the course of a read it
holds more: all of the bytes that the read adds (`filled`), of which some go when the unfinished
line is dropped (`buffer_push_isPrefix`) and others with every line that is taken
(`length_takings_le`).
-/

namespace RadioData

namespace LineFramer

/-! ## Between two reads -/

/-- No finished line is left, the unfinished one is within the limit, and of a line that is skipped
nothing is held. -/
structure Settled (f : LineFramer) : Prop where
  noFeed : lineFeed ∉ f.buffer
  short : f.buffer.length ≤ limit
  skipped : f.skipping = true → f.buffer = []

/-- A new framer holds nothing. -/
theorem settled_new : Settled {} where
  noFeed := List.not_mem_nil
  short := Nat.zero_le _
  skipped := nofun

/-- The bytes that a push adds to the buffer. While a line is skipped, these are the bytes behind
its line feed. -/
def added (f : LineFramer) (data : List UInt8) : List UInt8 :=
  if f.skipping then (data.dropWhile (· != lineFeed)).tail else data

/-- A push either adds bytes and looks at the unfinished line, or goes on skipping. -/
theorem push_cases (f : LineFramer) (data : List UInt8) :
    f.push data = keep f.buffer (f.added data) ∨
      (f.skipping = true ∧ f.added data = [] ∧ f.push data = f) := by
  cases h : f.skipping with
  | false =>
    left
    rw [push_of_not_skipping h, added, h]
    rfl
  | true =>
    rw [push, added, h]
    cases data.dropWhile (· != lineFeed) with
    | nil => exact .inr ⟨rfl, rfl, rfl⟩
    | cons feed later => exact .inl rfl

/-- Once the unfinished line has been looked at and the others have been taken, a framer is
settled. -/
theorem settled_keep (buffer data : List UInt8) : (keep buffer data).drain.2.Settled where
  noFeed := (isSplit_splitLines (keep buffer data).buffer).unfinished
  short := by
    rw [drain_eq]
    dsimp only
    rw [unfinished_keep]
    split
    · exact Nat.zero_le _
    · next h => exact Nat.le_of_not_lt h
  skipped h := by
    rw [drain_eq] at h ⊢
    dsimp only at h ⊢
    rw [skipping_keep, decide_eq_true_iff] at h
    rw [unfinished_keep, if_pos h]

/-- **A read leaves a framer settled.** -/
theorem Settled.read {f : LineFramer} (h : f.Settled) (data : List UInt8) :
    (f.push data).drain.2.Settled := by
  rcases f.push_cases data with hpush | ⟨-, -, hpush⟩
  · rw [hpush]
    exact settled_keep f.buffer (f.added data)
  · have hdrain : f.drain.2 = f := by
      rw [drain_eq, unfinished, splitLines_of_not_mem h.noFeed]
    rw [hpush, hdrain]
    exact h

/-- Reads leave a framer settled. -/
theorem Settled.takeReads {f : LineFramer} (h : f.Settled) (reads : List (List UInt8)) :
    (f.takeReads reads).2.Settled := by
  induction reads generalizing f with
  | nil => exact h
  | cons data reads ih =>
    rw [takeReads_cons]
    exact ih (h.read data)

/-! ## In the course of a read -/

/-- What is in the buffer before a push looks at the unfinished line. -/
def filled (f : LineFramer) (data : List UInt8) : List UInt8 := f.buffer ++ f.added data

/-- A push leaves the front of what was in the buffer. -/
theorem buffer_push_isPrefix (f : LineFramer) (data : List UInt8) :
    (f.push data).buffer <+: f.filled data := by
  rcases f.push_cases data with hpush | ⟨-, -, hpush⟩
  · rw [hpush, keep]
    split
    · exact List.take_prefix _ _
    · exact List.prefix_refl _
  · rw [hpush]
    exact List.prefix_append _ _

theorem length_added_le (f : LineFramer) (data : List UInt8) :
    (f.added data).length ≤ data.length := by
  rw [added]
  split
  · rw [List.length_tail]
    have := (data.dropWhile_suffix (· != lineFeed)).length_le
    omega
  · exact Nat.le_refl _

/-- A settled framer never holds more than the limit and the bytes of one read. -/
theorem Settled.length_filled_le {f : LineFramer} (h : f.Settled) (data : List UInt8) :
    (f.filled data).length ≤ limit + data.length := by
  have hshort := h.short
  have hadded := f.length_added_le data
  rw [filled, List.length_append]
  omega

/-- Taking lines makes the buffer no longer. -/
theorem length_takings_le (f : LineFramer) (count : Nat) :
    (f.useAll (List.replicate count .next)).2.buffer.length ≤ f.buffer.length := by
  induction count generalizing f with
  | zero => exact Nat.le_refl _
  | succ count ih =>
    have hone : (f.use .next).2.buffer.length ≤ f.buffer.length := by
      rw [use, next?]
      split
      · next h =>
        split at h
        · cases h
        · cases h
          rw [List.length_drop]
          exact Nat.sub_le _ _
      · exact Nat.le_refl _
    exact Nat.le_trans (ih _) hone

/-- A finished line is in the buffer with its line feed. -/
theorem length_lt_of_mem_finished {f : LineFramer} {line : List UInt8} (h : line ∈ f.finished) :
    line.length < f.buffer.length := by
  obtain ⟨earlier, later, hlines⟩ := List.append_of_mem h
  rw [f.buffer_eq, hlines, joinLines_append, joinLines_cons]
  simp only [List.length_append, List.length_cons]
  omega

end LineFramer

end RadioData
