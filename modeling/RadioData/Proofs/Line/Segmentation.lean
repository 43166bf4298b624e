import RadioData.Proofs.Line.Framing
/-!
# Lines and the cuts of a stream

The limit on the length of a line is looked at only when a push has ended, and only for the line
that is unfinished then. So the lines that a stream gives depend on how it is cut into pushes:
pushed as a whole it gives all its finished lines, pushed byte by byte only those within the limit,
and the cuts make no difference exactly when every finished line is within the limit
(`framesOf_independent_iff`).
-/

namespace RadioData

/-- A stream in a single push overruns none of its finished lines. -/
theorem keptLines_whole (stream : List UInt8) : keptLines [stream] = (splitLines stream).1 := by
  have hlen := length_splitLines stream
  have hkept : ∀ s ∈ spansFrom 0 (splitLines stream).1, s.Kept (pushEnds 0 [stream]) := by
    intro s hs
    have hin := (bounds_of_mem_spansFrom hs).2
    intro stop hstop
    rw [pushEnds, pushEnds, List.mem_singleton] at hstop
    exact LineSpan.not_overrunAt_of_lt (by omega)
  have hflat : [stream].flatten = stream := by simp
  rw [keptLines, hflat, List.filter_eq_self.2 (fun s hs => decide_eq_true (hkept s hs)),
    map_line_spansFrom]

/-- Single bytes end at every position. -/
theorem mem_pushEnds_bytes {start stop : Nat} {stream : List UInt8} :
    stop ∈ pushEnds start (stream.map ([·])) ↔ start < stop ∧ stop ≤ start + stream.length := by
  induction stream generalizing start with
  | nil =>
    simp only [List.map_nil, pushEnds, List.not_mem_nil, List.length_nil, false_iff]
    omega
  | cons b stream ih =>
    rw [List.map_cons, pushEnds, List.mem_cons, ih, List.length_singleton, List.length_cons]
    omega

/-- A stream that is pushed byte by byte loses each line that is too long. -/
theorem keptLines_bytes (stream : List UInt8) :
    keptLines (stream.map ([·])) =
      (splitLines stream).1.filter (fun line => line.length ≤ LineFramer.limit) := by
  have hlen := length_splitLines stream
  have hflat : (stream.map ([·])).flatten = stream := by
    rw [← List.flatMap_def, List.flatMap_singleton']
  have hkept : ∀ s ∈ spansFrom 0 (splitLines stream).1,
      decide (s.Kept (pushEnds 0 (stream.map ([·])))) =
        decide (s.line.length ≤ LineFramer.limit) := by
    intro s hs
    have hin := (bounds_of_mem_spansFrom hs).2
    rw [decide_eq_decide]
    refine ⟨fun hk => ?_, fun h => LineSpan.kept_of_length_le h _⟩
    by_cases hlong : s.line.length ≤ LineFramer.limit
    · exact hlong
    · -- the push that brings the first byte beyond the limit overruns the line
      refine absurd ⟨Nat.lt_succ_self _, ?_⟩
        (hk (s.start + LineFramer.limit + 1) (mem_pushEnds_bytes.2 ⟨?_, ?_⟩)) <;> omega
  rw [keptLines, hflat, List.filter_congr hkept]
  conv => rhs; rw [← map_line_spansFrom 0 (splitLines stream).1, List.filter_map]
  rfl

/-- Lines within the limit are kept, however they are pushed. -/
theorem keptLines_of_short {pushes : List (List UInt8)}
    (h : ∀ line ∈ (splitLines pushes.flatten).1, line.length ≤ LineFramer.limit) :
    keptLines pushes = (splitLines pushes.flatten).1 := by
  have hkept : ∀ s ∈ spansFrom 0 (splitLines pushes.flatten).1, s.Kept (pushEnds 0 pushes) := by
    intro s hs
    have hmem := List.mem_map_of_mem hs (f := LineSpan.line)
    rw [map_line_spansFrom] at hmem
    exact LineSpan.kept_of_length_le (h _ hmem) _
  rw [keptLines, List.filter_eq_self.2 (fun s hs => decide_eq_true (hkept s hs)),
    map_line_spansFrom]

namespace LineFramer

/-- The lines that a new framer gives when bytes are pushed piece by piece and then drained. -/
def framesOf (pushes : List (List UInt8)) : List String := frames (pushes.map .push)

theorem framesOf_eq (pushes : List (List UInt8)) :
    framesOf pushes = (keptLines pushes).map lineText := by
  have hpushes : pushesOf (pushes.map .push) = pushes := by
    rw [pushesOf, List.filterMap_map]
    exact List.filterMap_some
  rw [framesOf, frames_eq, hpushes]

/-! ## Reads -/

/-- The lines that reads bring when each is pushed and drained, and the framer afterwards. -/
def takeReads (f : LineFramer) (reads : List (List UInt8)) : List String × LineFramer :=
  f.useAll (reads.flatMap fun data => [.push data, .drain])

theorem takeReads_cons (f : LineFramer) (data : List UInt8) (reads : List (List UInt8)) :
    f.takeReads (data :: reads) =
      ((f.push data).drain.1 ++ ((f.push data).drain.2.takeReads reads).1,
        ((f.push data).drain.2.takeReads reads).2) := rfl

theorem takeReads_append (f : LineFramer) (xs ys : List (List UInt8)) :
    f.takeReads (xs ++ ys) =
      ((f.takeReads xs).1 ++ ((f.takeReads xs).2.takeReads ys).1,
        ((f.takeReads xs).2.takeReads ys).2) := by
  induction xs generalizing f with
  | nil => rfl
  | cons data xs ih =>
    rw [List.cons_append, takeReads_cons, takeReads_cons, ih, List.append_assoc]

/-- After a read no finished line is left. -/
theorem finished_takeReads {f : LineFramer} (h : f.finished = []) (reads : List (List UInt8)) :
    (f.takeReads reads).2.finished = [] := by
  induction reads generalizing f with
  | nil => exact h
  | cons data reads ih => exact ih (f.push data).finished_drain

/-- Draining after every read gives the same lines as draining once at the end. -/
theorem takeReads_eq_framesOf (reads : List (List UInt8)) :
    (({} : LineFramer).takeReads reads).1 = framesOf reads := by
  have hpushes : pushesOf (reads.flatMap fun data => [.push data, .drain]) = reads := by
    induction reads with
    | nil => rfl
    | cons data reads ih =>
      rw [List.flatMap_cons, pushesOf, List.filterMap_append]
      exact congrArg (data :: ·) ih
  have hdrain : (({} : LineFramer).takeReads reads).2.drain.1 = [] := by
    rw [drain_eq, finished_takeReads rfl, List.map_nil]
  calc (({} : LineFramer).takeReads reads).1
      = frames (reads.flatMap fun data => [.push data, .drain]) := by
        rw [← List.append_nil (takeReads {} reads).1, ← hdrain]
        rfl
    _ = framesOf reads := by rw [frames_eq, hpushes, framesOf_eq]

/-! ## What the cuts do -/

/-- **The cuts of a stream make no difference to its lines exactly when all of its finished lines
are within the limit.** Of a stream in one push every finished line is kept; of a stream that comes
byte by byte those are lost that are longer. -/
theorem framesOf_independent_iff (stream : List UInt8) :
    framesOf [stream] = (splitLines stream).1.map lineText ∧
      framesOf (stream.map ([·])) =
        ((splitLines stream).1.filter (fun line => line.length ≤ limit)).map lineText ∧
      ((∀ pushes others : List (List UInt8), pushes.flatten = stream → others.flatten = stream →
          framesOf pushes = framesOf others) ↔
        ∀ line ∈ (splitLines stream).1, line.length ≤ limit) := by
  have hwhole : framesOf [stream] = (splitLines stream).1.map lineText := by
    rw [framesOf_eq, keptLines_whole]
  have hbytes : framesOf (stream.map ([·])) =
      ((splitLines stream).1.filter (fun line => line.length ≤ limit)).map lineText := by
    rw [framesOf_eq, keptLines_bytes]
  refine ⟨hwhole, hbytes, fun h => ?_, fun h pushes others hp ho => ?_⟩
  · -- no line is lost byte by byte, so there is none that is too long
    have hsame := congrArg List.length (h [stream] (stream.map ([·])) (by simp)
      (by rw [← List.flatMap_def, List.flatMap_singleton']))
    rw [hwhole, hbytes, List.length_map, List.length_map] at hsame
    simpa using List.length_filter_eq_length_iff.1 hsame.symm
  · rw [framesOf_eq, framesOf_eq, keptLines_of_short (hp ▸ h), keptLines_of_short (ho ▸ h), hp, ho]

/-- A line of one byte more than the limit is given when it comes in one piece, and lost when its
line feed comes by itself. -/
theorem framesOf_depends_on_cut :
    ¬ ∀ pushes others : List (List UInt8), pushes.flatten = others.flatten →
      framesOf pushes = framesOf others := by
  intro h
  have hsame := congrArg List.length
    (h [List.replicate 257 65 ++ [10]] [List.replicate 257 65, [10]]
      (by simp only [List.flatten_cons, List.flatten_nil, List.append_nil]))
  revert hsame
  decide +kernel

end LineFramer

end RadioData
