import RadioData.Proofs.Line.Split
/-!
# Lines that outgrow the limit

Which lines of a stream reach their reader depends on where the pushes that bring the stream end,
and on nothing else. A line is overrun when some push ends after more than `LineFramer.limit` of
its bytes and before its line feed; the lines that are kept are the finished ones that are not
overrun. All of this is said in positions of the stream (`LineSpan`, `pushEnds`), without a framer.

One more push without a line feed can only overrun the unfinished line
(`kept_openSpan_concat_open`). With a line feed it settles that line and finishes others
(`keptLines_concat_feed`), and the line that is now unfinished is overrun if it is too long
(`kept_openSpan_concat_feed`).
-/

namespace RadioData

/-- A line of a stream: the position of its first byte, and its bytes. -/
structure LineSpan where
  start : Nat
  line : List UInt8
  deriving DecidableEq, Repr

/-- Lines laid out from a position on, a line feed after each. -/
def spansFrom : Nat → List (List UInt8) → List LineSpan
  | _, [] => []
  | start, line :: lines => ⟨start, line⟩ :: spansFrom (start + line.length + 1) lines

/-- The positions at which pushes end, the first of which begins at `start`. -/
def pushEnds : Nat → List (List UInt8) → List Nat
  | _, [] => []
  | start, data :: pushes => (start + data.length) :: pushEnds (start + data.length) pushes

namespace LineSpan

/-- A push that ends at `stop` has brought more than `LineFramer.limit` bytes of the line, but not
its line feed. -/
def OverrunAt (s : LineSpan) (stop : Nat) : Prop :=
  s.start + LineFramer.limit < stop ∧ stop ≤ s.start + s.line.length

/-- None of the pushes that end at these positions overruns the line. -/
def Kept (ends : List Nat) (s : LineSpan) : Prop := ∀ stop ∈ ends, ¬ s.OverrunAt stop

instance (s : LineSpan) (stop : Nat) : Decidable (s.OverrunAt stop) :=
  inferInstanceAs (Decidable (_ ∧ _))

instance (ends : List Nat) (s : LineSpan) : Decidable (s.Kept ends) :=
  inferInstanceAs (Decidable (∀ stop ∈ ends, ¬ s.OverrunAt stop))

/-- A line that is no longer than the limit is never overrun. -/
theorem kept_of_length_le {s : LineSpan} (h : s.line.length ≤ LineFramer.limit) (ends : List Nat) :
    s.Kept ends := by
  rintro stop - ⟨hlong, hopen⟩
  omega

/-- Pushes that end before a line starts do not overrun it. -/
theorem kept_of_ends_le {s : LineSpan} {ends : List Nat} (h : ∀ stop ∈ ends, stop ≤ s.start) :
    s.Kept ends := by
  rintro stop hs ⟨hlong, -⟩
  have := h stop hs
  omega

theorem kept_concat {s : LineSpan} {ends : List Nat} {stop : Nat} :
    s.Kept (ends ++ [stop]) ↔ s.Kept ends ∧ ¬ s.OverrunAt stop := by
  simp only [Kept, List.forall_mem_append, List.forall_mem_singleton]

/-- A push that brings the line feed of a line does not overrun it. -/
theorem not_overrunAt_of_lt {s : LineSpan} {stop : Nat} (h : s.start + s.line.length < stop) :
    ¬ s.OverrunAt stop := by
  rintro ⟨-, hopen⟩
  omega

/-- Bytes behind the last of the pushes make no difference to them. -/
theorem kept_append_iff {s : LineSpan} {ends : List Nat}
    (h : ∀ stop ∈ ends, stop ≤ s.start + s.line.length) (more : List UInt8) :
    Kept ends ⟨s.start, s.line ++ more⟩ ↔ s.Kept ends := by
  refine forall₂_congr fun stop hs => not_congr ?_
  have := h stop hs
  simp only [OverrunAt, List.length_append]
  omega

end LineSpan

/-! ## Positions -/

theorem spansFrom_append (start : Nat) (xs ys : List (List UInt8)) :
    spansFrom start (xs ++ ys) =
      spansFrom start xs ++ spansFrom (start + (joinLines xs).length) ys := by
  induction xs generalizing start with
  | nil => rfl
  | cons line xs ih =>
    have hpos : start + line.length + 1 + (joinLines xs).length =
        start + (joinLines (line :: xs)).length := by
      simp only [joinLines_cons, List.length_append, List.length_cons]
      omega
    rw [List.cons_append, spansFrom, spansFrom, ih, hpos, List.cons_append]

@[simp] theorem map_line_spansFrom (start : Nat) (lines : List (List UInt8)) :
    (spansFrom start lines).map LineSpan.line = lines := by
  induction lines generalizing start with
  | nil => rfl
  | cons line lines ih => rw [spansFrom, List.map_cons, ih]

/-- A line lies with its line feed inside the stretch over which the lines are laid out. -/
theorem bounds_of_mem_spansFrom {start : Nat} {lines : List (List UInt8)} {s : LineSpan}
    (h : s ∈ spansFrom start lines) :
    start ≤ s.start ∧ s.start + s.line.length < start + (joinLines lines).length := by
  induction lines generalizing start with
  | nil => cases h
  | cons line lines ih =>
    simp only [joinLines_cons, List.length_append, List.length_cons]
    rcases List.mem_cons.1 h with rfl | h
    · dsimp only
      omega
    · have := ih h
      omega

theorem pushEnds_concat (start : Nat) (pushes : List (List UInt8)) (data : List UInt8) :
    pushEnds start (pushes ++ [data]) =
      pushEnds start pushes ++ [start + pushes.flatten.length + data.length] := by
  induction pushes generalizing start with
  | nil => rfl
  | cons first pushes ih =>
    rw [List.cons_append, pushEnds, pushEnds, ih, List.flatten_cons, List.length_append,
      List.cons_append, Nat.add_assoc start]

theorem le_of_mem_pushEnds {start : Nat} {pushes : List (List UInt8)} {stop : Nat}
    (h : stop ∈ pushEnds start pushes) : stop ≤ start + pushes.flatten.length := by
  induction pushes generalizing start with
  | nil => cases h
  | cons data pushes ih =>
    rw [List.flatten_cons, List.length_append]
    rcases List.mem_cons.1 h with rfl | h
    · omega
    · have := ih h
      omega

/-! ## The lines that pushes bring -/

/-- The finished lines of the stream that are not overrun. -/
def keptLines (pushes : List (List UInt8)) : List (List UInt8) :=
  ((spansFrom 0 (splitLines pushes.flatten).1).filter
    (fun s => s.Kept (pushEnds 0 pushes))).map LineSpan.line

/-- The unfinished line of the stream. -/
def openSpan (pushes : List (List UInt8)) : LineSpan :=
  ⟨(joinLines (splitLines pushes.flatten).1).length, (splitLines pushes.flatten).2⟩

/-- The unfinished line reaches to the end of the stream. -/
theorem openSpan_end (pushes : List (List UInt8)) :
    (openSpan pushes).start + (openSpan pushes).line.length = pushes.flatten.length :=
  length_splitLines _

theorem lineFeed_not_mem_append_openSpan {data : List UInt8} (h : lineFeed ∉ data)
    (pushes : List (List UInt8)) : lineFeed ∉ (openSpan pushes).line ++ data := by
  have hopen : lineFeed ∉ (openSpan pushes).line := (isSplit_splitLines pushes.flatten).unfinished
  simp [hopen, h]

theorem flatten_concat (pushes : List (List UInt8)) (data : List UInt8) :
    (pushes ++ [data]).flatten = pushes.flatten ++ data := by simp

/-- What was pushed so far ends no later than the unfinished line. -/
theorem pushEnds_le_openSpan_end {pushes : List (List UInt8)} {stop : Nat}
    (h : stop ∈ pushEnds 0 pushes) :
    stop ≤ (openSpan pushes).start + (openSpan pushes).line.length := by
  have := le_of_mem_pushEnds h
  rw [openSpan_end]
  omega

/-- One more push overruns no line that was finished before. -/
theorem filter_kept_concat (pushes : List (List UInt8)) (data : List UInt8) :
    (spansFrom 0 (splitLines pushes.flatten).1).filter
        (fun s => s.Kept (pushEnds 0 (pushes ++ [data]))) =
      (spansFrom 0 (splitLines pushes.flatten).1).filter
        (fun s => s.Kept (pushEnds 0 pushes)) := by
  refine List.filter_congr fun s hs => ?_
  have hin := (bounds_of_mem_spansFrom hs).2
  have hlen := length_splitLines pushes.flatten
  rw [pushEnds_concat, decide_eq_decide, LineSpan.kept_concat]
  exact and_iff_left (LineSpan.not_overrunAt_of_lt (by omega))

/-! ### A push without a line feed -/

theorem splitLines_concat_open {data : List UInt8} (h : lineFeed ∉ data)
    (pushes : List (List UInt8)) :
    splitLines (pushes ++ [data]).flatten =
      ((splitLines pushes.flatten).1, (openSpan pushes).line ++ data) := by
  have hrest : lineFeed ∉ (splitLines pushes.flatten).2 ++ data :=
    lineFeed_not_mem_append_openSpan h pushes
  rw [flatten_concat, splitLines_append, splitLines_of_not_mem hrest, List.append_nil, openSpan]

/-- Without a line feed no line is finished. -/
theorem keptLines_concat_open {data : List UInt8} (h : lineFeed ∉ data)
    (pushes : List (List UInt8)) : keptLines (pushes ++ [data]) = keptLines pushes := by
  rw [keptLines, splitLines_concat_open h, filter_kept_concat, keptLines]

/-- Without a line feed the unfinished line grows, and it is overrun as soon as it is longer than
the limit. -/
theorem kept_openSpan_concat_open {data : List UInt8} (h : lineFeed ∉ data)
    (pushes : List (List UInt8)) :
    (openSpan (pushes ++ [data])).Kept (pushEnds 0 (pushes ++ [data])) ↔
      (openSpan pushes).Kept (pushEnds 0 pushes) ∧
        ((openSpan pushes).line ++ data).length ≤ LineFramer.limit := by
  have hopen : openSpan (pushes ++ [data]) =
      ⟨(openSpan pushes).start, (openSpan pushes).line ++ data⟩ := by
    rw [openSpan, splitLines_concat_open h, openSpan]
  have hend := openSpan_end pushes
  rw [hopen, pushEnds_concat, LineSpan.kept_concat,
    LineSpan.kept_append_iff (fun _ => pushEnds_le_openSpan_end)]
  refine and_congr_right fun _ => ?_
  simp only [LineSpan.OverrunAt, List.length_append]
  omega

/-! ### A push with a line feed -/

theorem splitLines_concat_feed {line : List UInt8} (h : lineFeed ∉ line) (later : List UInt8)
    (pushes : List (List UInt8)) :
    splitLines (pushes ++ [line ++ lineFeed :: later]).flatten =
      ((splitLines pushes.flatten).1 ++ ((openSpan pushes).line ++ line) :: (splitLines later).1,
        (splitLines later).2) := by
  have hrest : lineFeed ∉ (splitLines pushes.flatten).2 ++ line :=
    lineFeed_not_mem_append_openSpan h pushes
  rw [flatten_concat, splitLines_append, ← List.append_assoc, splitLines_line hrest, openSpan]

/-- The line that was unfinished is settled: it is kept if no earlier push has overrun it. -/
theorem kept_settled (line later : List UInt8) (pushes : List (List UInt8)) :
    LineSpan.Kept (pushEnds 0 (pushes ++ [line ++ lineFeed :: later]))
        ⟨(openSpan pushes).start, (openSpan pushes).line ++ line⟩ ↔
      (openSpan pushes).Kept (pushEnds 0 pushes) := by
  have hend := openSpan_end pushes
  rw [pushEnds_concat, LineSpan.kept_concat,
    LineSpan.kept_append_iff (fun _ => pushEnds_le_openSpan_end)]
  refine and_iff_left (LineSpan.not_overrunAt_of_lt ?_)
  simp only [List.length_append, List.length_cons]
  omega

/-- A line that starts behind the first line feed of a push can be overrun by that push only. -/
theorem kept_behind_feed {line later : List UInt8} {pushes : List (List UInt8)} {s : LineSpan}
    (h : (openSpan pushes).start + ((openSpan pushes).line ++ line).length + 1 ≤ s.start) :
    s.Kept (pushEnds 0 (pushes ++ [line ++ lineFeed :: later])) ↔
      ¬ s.OverrunAt ((openSpan pushes).start + ((openSpan pushes).line ++ line).length + 1 +
        later.length) := by
  have hend := openSpan_end pushes
  have hstop : 0 + pushes.flatten.length + (line ++ lineFeed :: later).length =
      (openSpan pushes).start + ((openSpan pushes).line ++ line).length + 1 + later.length := by
    simp only [List.length_append, List.length_cons]
    omega
  rw [pushEnds_concat, LineSpan.kept_concat, hstop]
  refine and_iff_right (LineSpan.kept_of_ends_le fun stop hs => ?_)
  have := pushEnds_le_openSpan_end hs
  rw [List.length_append] at h
  omega

/-- The lines behind the settled one are kept. -/
theorem keptLines_concat_feed {line : List UInt8} (h : lineFeed ∉ line) (later : List UInt8)
    (pushes : List (List UInt8)) :
    keptLines (pushes ++ [line ++ lineFeed :: later]) =
      keptLines pushes ++
        (if (openSpan pushes).Kept (pushEnds 0 pushes) then [(openSpan pushes).line ++ line]
          else []) ++
        (splitLines later).1 := by
  have hlater := length_splitLines later
  have hothers : ∀ s ∈ spansFrom
      ((openSpan pushes).start + ((openSpan pushes).line ++ line).length + 1) (splitLines later).1,
      s.Kept (pushEnds 0 (pushes ++ [line ++ lineFeed :: later])) := by
    intro s hs
    obtain ⟨hlow, hhigh⟩ := bounds_of_mem_spansFrom hs
    exact (kept_behind_feed hlow).2 (LineSpan.not_overrunAt_of_lt (by omega))
  have hspans : spansFrom 0 (splitLines (pushes ++ [line ++ lineFeed :: later]).flatten).1 =
      spansFrom 0 (splitLines pushes.flatten).1 ++
        ⟨(openSpan pushes).start, (openSpan pushes).line ++ line⟩ ::
          spansFrom ((openSpan pushes).start + ((openSpan pushes).line ++ line).length + 1)
            (splitLines later).1 := by
    rw [splitLines_concat_feed h, spansFrom_append, Nat.zero_add, spansFrom]
    rfl
  rw [keptLines, hspans, List.filter_append, filter_kept_concat, List.filter_cons,
    List.filter_eq_self.2 (fun s hs => decide_eq_true (hothers s hs)), List.map_append,
    List.append_assoc, keptLines]
  refine congrArg _ ?_
  by_cases hk : (openSpan pushes).Kept (pushEnds 0 pushes)
  · rw [if_pos (decide_eq_true ((kept_settled line later pushes).2 hk)), if_pos hk, List.map_cons,
      map_line_spansFrom, List.singleton_append]
  · rw [if_neg (by simpa using mt (kept_settled line later pushes).1 hk), if_neg hk,
      map_line_spansFrom, List.nil_append]

/-- The new unfinished line is overrun if it is longer than the limit. -/
theorem kept_openSpan_concat_feed {line : List UInt8} (h : lineFeed ∉ line) (later : List UInt8)
    (pushes : List (List UInt8)) :
    (openSpan (pushes ++ [line ++ lineFeed :: later])).Kept
        (pushEnds 0 (pushes ++ [line ++ lineFeed :: later])) ↔
      (splitLines later).2.length ≤ LineFramer.limit := by
  have hline : (openSpan (pushes ++ [line ++ lineFeed :: later])).line = (splitLines later).2 := by
    rw [openSpan, splitLines_concat_feed h]
  have hstart : (openSpan (pushes ++ [line ++ lineFeed :: later])).start =
      (openSpan pushes).start + ((openSpan pushes).line ++ line).length + 1 +
        (joinLines (splitLines later).1).length := by
    rw [openSpan, splitLines_concat_feed h, joinLines_append, joinLines_cons]
    simp only [List.length_append, List.length_cons, openSpan]
    omega
  have hlater := length_splitLines later
  rw [kept_behind_feed (by omega), LineSpan.OverrunAt, hstart, hline]
  omega

end RadioData
