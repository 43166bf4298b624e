import RadioData.Proofs.Line.Overrun
/-!
# Framing lines

A `LineFramer` is used in three ways: bytes are pushed, the oldest finished line is taken, or all of
them are. Whatever the uses and their order, the lines taken are the finished lines of the pushed
stream that no push overruns, whole and in order (`frames_eq_kept_lines`); where the lines are taken
between the pushes makes no difference.

The invariant is `Follows`: with the lines taken so far put in front of those in the buffer there
are the kept lines of the stream, and the framer skips exactly while the unfinished line is overrun.
Each use keeps it (`Follows.push`, `Follows.use`), so every run does (`Follows.useAll`).
-/

namespace RadioData

/-! ## The text of a line -/

/-- `text` is what the bytes of a line spell, less the carriage returns at the end and nothing
else. -/
def IsLineText (line : List UInt8) (text : String) : Prop :=
  ∃ count, Utf8.decodeFrom none line = text.toList ++ List.replicate count '\r' ∧
    text.toList.getLast? ≠ some '\r'

theorem isLineText_lineText (line : List UInt8) : IsLineText line (lineText line) := by
  let spelt := (Utf8.decodeFrom none line).reverse
  have htext : (lineText line).toList = (spelt.dropWhile (· == '\r')).reverse := by
    simp [lineText, spelt]
  have hreturns : spelt.takeWhile (· == '\r') =
      List.replicate (spelt.takeWhile (· == '\r')).length '\r' :=
    List.eq_replicate_of_mem fun c hc => by
      simpa using List.all_eq_true.1 List.all_takeWhile c hc
  refine ⟨(spelt.takeWhile (· == '\r')).length, ?_, ?_⟩
  · calc Utf8.decodeFrom none line
        = (spelt.takeWhile (· == '\r') ++ spelt.dropWhile (· == '\r')).reverse := by
          rw [List.takeWhile_append_dropWhile, List.reverse_reverse]
      _ = (lineText line).toList ++ (spelt.takeWhile (· == '\r')).reverse := by
          rw [List.reverse_append, htext]
      _ = _ := by
          rw [hreturns, List.reverse_replicate, List.length_replicate]
  · rw [htext, List.getLast?_reverse]
    intro h
    have := List.head?_dropWhile_not (· == '\r') spelt
    simp [h] at this

namespace LineFramer

/-! ## What is in the buffer -/

/-- The finished lines that have not been taken. -/
def finished (f : LineFramer) : List (List UInt8) := (splitLines f.buffer).1

/-- The bytes of the unfinished line. -/
def unfinished (f : LineFramer) : List UInt8 := (splitLines f.buffer).2

/-- The buffer holds the finished lines and the unfinished one. -/
theorem buffer_eq (f : LineFramer) : f.buffer = joinLines f.finished ++ f.unfinished :=
  (isSplit_splitLines f.buffer).joined

theorem splitLines_buffer (f : LineFramer) : splitLines f.buffer = (f.finished, f.unfinished) := rfl

/-- A line that is too long is cut off behind the last finished one. -/
theorem keep_eq (buffer data : List UInt8) :
    keep buffer data =
      if limit < (splitLines (buffer ++ data)).2.length then
        ⟨joinLines (splitLines (buffer ++ data)).1, true⟩
      else ⟨buffer ++ data, false⟩ := by
  have hlen := length_splitLines (buffer ++ data)
  have htake : (buffer ++ data).take
      ((buffer ++ data).length - (splitLines (buffer ++ data)).2.length) =
      joinLines (splitLines (buffer ++ data)).1 := by
    conv => lhs; arg 2; rw [(isSplit_splitLines (buffer ++ data)).joined]
    exact List.take_left' (by omega)
  rw [← htake]
  rfl

/-- Finished lines stay, however long they are. -/
theorem finished_keep (buffer data : List UInt8) :
    (keep buffer data).finished = (splitLines (buffer ++ data)).1 := by
  rw [keep_eq]
  split
  · have hsplit := isSplit_splitLines (buffer ++ data)
    rw [finished, ← List.append_nil (joinLines _), splitLines_joinLines_append hsplit.finished]
    simp [splitLines]
  · rfl

theorem skipping_keep (buffer data : List UInt8) :
    (keep buffer data).skipping = decide (limit < (splitLines (buffer ++ data)).2.length) := by
  rw [keep_eq]
  split
  · next h => exact (decide_eq_true h).symm
  · next h => exact (decide_eq_false h).symm

/-- The unfinished line stays if it is not too long. -/
theorem unfinished_keep (buffer data : List UInt8) :
    (keep buffer data).unfinished =
      if limit < (splitLines (buffer ++ data)).2.length then []
      else (splitLines (buffer ++ data)).2 := by
  rw [keep_eq]
  split
  · have hsplit := isSplit_splitLines (buffer ++ data)
    rw [unfinished, ← List.append_nil (joinLines _), splitLines_joinLines_append hsplit.finished]
    rfl
  · rfl

/-! ## Taking lines -/

/-- Without a finished line nothing is taken. -/
theorem next?_of_nil {f : LineFramer} (h : f.finished = []) : f.next? = none := by
  rw [next?, splitLines_buffer, h]

/-- The oldest finished line is taken, and everything else stays. -/
theorem next?_of_cons {f : LineFramer} {line : List UInt8} {lines : List (List UInt8)}
    (h : f.finished = line :: lines) :
    ∃ g, f.next? = some (lineText line, g) ∧ g.finished = lines ∧
      g.unfinished = f.unfinished ∧ g.skipping = f.skipping := by
  have hfinished : ∀ l ∈ f.finished, lineFeed ∉ l := (isSplit_splitLines f.buffer).finished
  have hdrop : f.buffer.drop (line.length + 1) = joinLines lines ++ f.unfinished := by
    rw [f.buffer_eq, h, joinLines_cons, List.append_assoc, List.cons_append,
      ← List.drop_drop, List.drop_left, List.drop_one, List.tail_cons]
  have hcut : splitLines (f.buffer.drop (line.length + 1)) = (lines, f.unfinished) :=
    isSplit_iff.1 ⟨hdrop, fun l hl => hfinished l (h ▸ List.mem_cons_of_mem line hl),
      (isSplit_splitLines f.buffer).unfinished⟩
  refine ⟨{ f with buffer := f.buffer.drop (line.length + 1) }, ?_, ?_, ?_, rfl⟩
  · rw [next?, splitLines_buffer, h]
  · rw [finished, hcut]
  · rw [unfinished, hcut]

/-- Draining takes all finished lines, and everything else stays. -/
theorem drain_eq (f : LineFramer) :
    f.drain = (f.finished.map lineText, { f with buffer := f.unfinished }) := rfl

theorem splitLines_unfinished (f : LineFramer) : splitLines f.unfinished = ([], f.unfinished) :=
  splitLines_of_not_mem (isSplit_splitLines f.buffer).unfinished

/-- Draining leaves no finished line behind. -/
@[simp] theorem finished_drain (f : LineFramer) : f.drain.2.finished = [] := by
  rw [drain_eq, finished, splitLines_unfinished]

@[simp] theorem unfinished_drain (f : LineFramer) : f.drain.2.unfinished = f.unfinished := by
  rw [drain_eq, unfinished, splitLines_unfinished]

/-- Draining is taking the oldest line until there is none. -/
theorem drain_eq_next? (f : LineFramer) :
    f.drain =
      match f.next? with
      | none => ([], f)
      | some (text, g) => (text :: g.drain.1, g.drain.2) := by
  rcases h : f.finished with _ | ⟨line, lines⟩
  · have hbuffer : f.unfinished = f.buffer := by rw [f.buffer_eq, h]; simp
    rw [next?_of_nil h, drain_eq, h, hbuffer, List.map_nil]
  · obtain ⟨g, hnext, hfinished, hunfinished, hskipping⟩ := next?_of_cons h
    rw [hnext]
    dsimp only
    rw [drain_eq, drain_eq, h, hfinished, hunfinished, hskipping, List.map_cons]

/-! ## Pushing bytes -/

theorem splitLines_buffer_append (f : LineFramer) (data : List UInt8) :
    splitLines (f.buffer ++ data) =
      (f.finished ++ (splitLines (f.unfinished ++ data)).1,
        (splitLines (f.unfinished ++ data)).2) :=
  splitLines_append _ _

theorem push_of_not_skipping {f : LineFramer} (h : f.skipping = false) (data : List UInt8) :
    f.push data = keep f.buffer data := by
  rw [push, h]
  rfl

theorem dropWhile_of_not_mem {line : List UInt8} (h : lineFeed ∉ line) (bytes : List UInt8) :
    (line ++ bytes).dropWhile (· != lineFeed) = bytes.dropWhile (· != lineFeed) :=
  List.dropWhile_append_of_pos fun _ hb => bne_iff_ne.2 fun e => h (e ▸ hb)

/-- While a line is skipped its bytes make no difference. -/
theorem push_of_skipping_open {f : LineFramer} (h : f.skipping = true) {data : List UInt8}
    (hopen : lineFeed ∉ data) : f.push data = f := by
  have hdrop := dropWhile_of_not_mem hopen []
  rw [List.append_nil, List.dropWhile_nil] at hdrop
  rw [push, h, hdrop]
  rfl

/-- The line feed ends the skipping. -/
theorem push_of_skipping_feed {f : LineFramer} (h : f.skipping = true) {line : List UInt8}
    (hline : lineFeed ∉ line) (later : List UInt8) :
    f.push (line ++ lineFeed :: later) = keep f.buffer later := by
  rw [push, h, dropWhile_of_not_mem hline]
  rfl

/-! ## The invariant -/

/-- With the lines `taken` so far put in front of those in the buffer there are the kept lines of
the stream that `pushes` have brought, and the framer skips while the unfinished line is overrun. -/
structure Follows (f : LineFramer) (taken pushes : List (List UInt8)) : Prop where
  kept : taken ++ f.finished = keptLines pushes
  skipping : f.skipping = true ↔ ¬ (openSpan pushes).Kept (pushEnds 0 pushes)
  unfinished : f.unfinished = if f.skipping then [] else (openSpan pushes).line

/-- A new framer follows no pushes. -/
theorem follows_new : Follows {} [] [] where
  kept := rfl
  skipping := by decide
  unfinished := rfl

/-- A framer whose present line is not overrun holds on to it. -/
theorem Follows.unfinished_of_kept {f : LineFramer} {taken pushes : List (List UInt8)}
    (h : f.Follows taken pushes) (hk : (openSpan pushes).Kept (pushEnds 0 pushes)) :
    f.skipping = false ∧ f.unfinished = (openSpan pushes).line := by
  have hskip : f.skipping = false := by
    cases hs : f.skipping with
    | false => rfl
    | true => exact absurd hk (h.skipping.1 hs)
  exact ⟨hskip, by rw [h.unfinished, hskip]; rfl⟩

/-- A framer whose present line is overrun holds nothing of it. -/
theorem Follows.unfinished_of_overrun {f : LineFramer} {taken pushes : List (List UInt8)}
    (h : f.Follows taken pushes) (hk : ¬ (openSpan pushes).Kept (pushEnds 0 pushes)) :
    f.skipping = true ∧ f.unfinished = [] := by
  have hskip := h.skipping.2 hk
  exact ⟨hskip, by rw [h.unfinished, hskip]; rfl⟩

/-- A framer that has just looked at its unfinished line follows pushes that overrun that line only
if it is too long now. -/
theorem follows_keep {buffer data rest : List UInt8} {taken pushes lines : List (List UInt8)}
    (hsplit : splitLines (buffer ++ data) = (lines, rest))
    (hkept : taken ++ lines = keptLines pushes) (hrest : (openSpan pushes).line = rest)
    (hlimit : (openSpan pushes).Kept (pushEnds 0 pushes) ↔ rest.length ≤ limit) :
    (keep buffer data).Follows taken pushes where
  kept := by rw [finished_keep, hsplit, hkept]
  skipping := by rw [skipping_keep, hsplit, decide_eq_true_iff, hlimit, Nat.not_le]
  unfinished := by rw [unfinished_keep, skipping_keep, hsplit, hrest]; simp

/-- A push without a line feed keeps the invariant. -/
theorem Follows.push_open {f : LineFramer} {taken pushes : List (List UInt8)}
    (h : f.Follows taken pushes) {data : List UInt8} (hopen : lineFeed ∉ data) :
    (f.push data).Follows taken (pushes ++ [data]) := by
  by_cases hk : (openSpan pushes).Kept (pushEnds 0 pushes)
  · obtain ⟨hskip, hunf⟩ := h.unfinished_of_kept hk
    have hsplit : splitLines (f.buffer ++ data) = (f.finished, (openSpan pushes).line ++ data) := by
      rw [splitLines_buffer_append, hunf,
        splitLines_of_not_mem (lineFeed_not_mem_append_openSpan hopen pushes), List.append_nil]
    rw [push_of_not_skipping hskip]
    refine follows_keep hsplit ?_ ?_ ?_
    · rw [keptLines_concat_open hopen, h.kept]
    · rw [openSpan, splitLines_concat_open hopen]
    · rw [kept_openSpan_concat_open hopen]
      exact and_iff_right hk
  · obtain ⟨hskip, hunf⟩ := h.unfinished_of_overrun hk
    rw [push_of_skipping_open hskip hopen]
    refine ⟨?_, ?_, ?_⟩
    · rw [keptLines_concat_open hopen, h.kept]
    · rw [kept_openSpan_concat_open hopen, h.skipping]
      exact not_congr ⟨fun hp => absurd hp hk, And.left⟩
    · rw [hunf, hskip]
      rfl

/-- A push with a line feed keeps the invariant. -/
theorem Follows.push_feed {f : LineFramer} {taken pushes : List (List UInt8)}
    (h : f.Follows taken pushes) {line : List UInt8} (hline : lineFeed ∉ line)
    (later : List UInt8) :
    (f.push (line ++ lineFeed :: later)).Follows taken
      (pushes ++ [line ++ lineFeed :: later]) := by
  have hrest : (openSpan (pushes ++ [line ++ lineFeed :: later])).line = (splitLines later).2 := by
    rw [openSpan, splitLines_concat_feed hline]
  have hlimit := kept_openSpan_concat_feed hline later pushes
  by_cases hk : (openSpan pushes).Kept (pushEnds 0 pushes)
  · obtain ⟨hskip, hunf⟩ := h.unfinished_of_kept hk
    have hsplit : splitLines (f.buffer ++ (line ++ lineFeed :: later)) =
        (f.finished ++ ((openSpan pushes).line ++ line) :: (splitLines later).1,
          (splitLines later).2) := by
      rw [splitLines_buffer_append, hunf, ← List.append_assoc,
        splitLines_line (lineFeed_not_mem_append_openSpan hline pushes)]
    rw [push_of_not_skipping hskip]
    refine follows_keep hsplit ?_ hrest hlimit
    rw [keptLines_concat_feed hline, if_pos hk, ← h.kept]
    simp
  · obtain ⟨hskip, hunf⟩ := h.unfinished_of_overrun hk
    have hsplit : splitLines (f.buffer ++ later) =
        (f.finished ++ (splitLines later).1, (splitLines later).2) := by
      rw [splitLines_buffer_append, hunf, List.nil_append]
    rw [push_of_skipping_feed hskip hline]
    refine follows_keep hsplit ?_ hrest hlimit
    rw [keptLines_concat_feed hline, if_neg hk, ← h.kept]
    simp

/-- **A push keeps the invariant.** -/
theorem Follows.push {f : LineFramer} {taken pushes : List (List UInt8)}
    (h : f.Follows taken pushes) (data : List UInt8) :
    (f.push data).Follows taken (pushes ++ [data]) := by
  rcases lineFeed_cases data with hopen | ⟨line, later, rfl, hline⟩
  · exact h.push_open hopen
  · exact h.push_feed hline later

/-- Taking finished lines out keeps the invariant. -/
theorem Follows.taking {f g : LineFramer} {taken pushes lines : List (List UInt8)}
    (h : f.Follows taken pushes) (hfinished : f.finished = lines ++ g.finished)
    (hunfinished : g.unfinished = f.unfinished) (hskipping : g.skipping = f.skipping) :
    g.Follows (taken ++ lines) pushes where
  kept := by rw [List.append_assoc, ← hfinished, h.kept]
  skipping := by rw [hskipping, h.skipping]
  unfinished := by rw [hunfinished, hskipping, h.unfinished]

/-! ## Runs -/

/-- One use of a framer. -/
inductive Use where
  /-- Bytes arrive. -/
  | push (data : List UInt8)
  /-- The oldest finished line is taken, if there is one. -/
  | next
  /-- All finished lines are taken. -/
  | drain
  deriving DecidableEq, Repr

/-- The bytes that a use brings. -/
def Use.pushed? : Use → Option (List UInt8)
  | .push data => some data
  | .next | .drain => none

/-- The bytes that uses bring, push by push. -/
def pushesOf (uses : List Use) : List (List UInt8) := uses.filterMap Use.pushed?

/-- The lines that a use takes, and the framer afterwards. -/
def use (f : LineFramer) : Use → List String × LineFramer
  | .push data => ([], f.push data)
  | .next =>
    match f.next? with
    | some (text, g) => ([text], g)
    | none => ([], f)
  | .drain => f.drain

/-- The lines that uses take one after the other, and the framer afterwards. -/
def useAll : LineFramer → List Use → List String × LineFramer
  | f, [] => ([], f)
  | f, u :: uses =>
    let (texts, g) := f.use u
    let (later, last) := g.useAll uses
    (texts ++ later, last)

/-- The lines that a new framer gives in the course of uses and a final draining. -/
def frames (uses : List Use) : List String :=
  (useAll {} uses).1 ++ (useAll {} uses).2.drain.1

/-- A use takes lines that are there, and keeps the invariant. -/
theorem Follows.use {f : LineFramer} {taken pushes : List (List UInt8)}
    (h : f.Follows taken pushes) (u : Use) :
    ∃ lines, (f.use u).1 = lines.map lineText ∧
      (f.use u).2.Follows (taken ++ lines) (pushes ++ u.pushed?.toList) := by
  cases u with
  | push data => exact ⟨[], rfl, by rw [List.append_nil]; exact h.push data⟩
  | next =>
    rw [Use.pushed?, Option.toList_none, List.append_nil, LineFramer.use]
    rcases hf : f.finished with _ | ⟨line, lines⟩
    · rw [next?_of_nil hf]
      exact ⟨[], rfl, by rw [List.append_nil]; exact h⟩
    · obtain ⟨g, hnext, hfinished, hunfinished, hskipping⟩ := next?_of_cons hf
      rw [hnext]
      exact ⟨[line], rfl, h.taking (by rw [hf, hfinished]; rfl) hunfinished hskipping⟩
  | drain =>
    rw [Use.pushed?, Option.toList_none, List.append_nil, LineFramer.use]
    refine ⟨f.finished, rfl, h.taking ?_ f.unfinished_drain rfl⟩
    rw [finished_drain, List.append_nil]

/-- **Runs keep the invariant**: what a run takes are kept lines, in order. -/
theorem Follows.useAll {f : LineFramer} {taken pushes : List (List UInt8)}
    (h : f.Follows taken pushes) (uses : List Use) :
    ∃ lines, (f.useAll uses).1 = lines.map lineText ∧
      (f.useAll uses).2.Follows (taken ++ lines) (pushes ++ pushesOf uses) := by
  induction uses generalizing f taken pushes with
  | nil =>
    refine ⟨[], rfl, ?_⟩
    rw [pushesOf, List.filterMap_nil, List.append_nil, List.append_nil]
    exact h
  | cons u uses ih =>
    obtain ⟨first, hfirst, hg⟩ := h.use u
    obtain ⟨later, hlater, hlast⟩ := ih hg
    have hpushes : pushesOf (u :: uses) = u.pushed?.toList ++ pushesOf uses := by
      cases u <;> rfl
    refine ⟨first ++ later, ?_, ?_⟩
    · rw [LineFramer.useAll, List.map_append, ← hfirst, ← hlater]
    · rw [LineFramer.useAll, hpushes, ← List.append_assoc, ← List.append_assoc]
      exact hlast

/-- Uses and a final draining give the kept lines of the stream. -/
theorem frames_eq (uses : List Use) : frames uses = (keptLines (pushesOf uses)).map lineText := by
  obtain ⟨lines, htexts, h⟩ := follows_new.useAll uses
  rw [List.nil_append, List.nil_append] at h
  rw [frames, htexts, drain_eq, ← List.map_append, h.kept]

/-- **Framing.** Pushes and takings in any order, followed by a final draining, give the texts of
those finished lines of the pushed stream of which no push ended after more than `limit` bytes and
before the line feed: each of them whole, in order, and nothing else. Where the lines are taken
between the pushes makes no difference, and a draining takes the oldest line until there is none. -/
theorem frames_eq_kept_lines (uses : List Use) :
    (∃ lines rest, IsSplit (pushesOf uses).flatten lines rest ∧
      frames uses =
        ((spansFrom 0 lines).filter (fun s => s.Kept (pushEnds 0 (pushesOf uses)))).map
          (fun s => lineText s.line) ∧
      ∀ line ∈ lines, IsLineText line (lineText line)) ∧
      (∀ others, pushesOf others = pushesOf uses → frames others = frames uses) ∧
      ∀ f : LineFramer, f.drain =
        match f.next? with
        | none => ([], f)
        | some (text, g) => (text :: g.drain.1, g.drain.2) := by
  refine ⟨⟨_, _, isSplit_splitLines (pushesOf uses).flatten, ?_, ?_⟩, fun others h => ?_,
    drain_eq_next?⟩
  · rw [frames_eq, keptLines, List.map_map]
    rfl
  · exact fun line _ => isLineText_lineText line
  · rw [frames_eq, frames_eq, h]

end LineFramer

end RadioData
