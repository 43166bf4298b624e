import Mathlib.Data.List.Basic
import RadioData.Text
/-!
# The words of a text

`IsWords` says what the words of a text are without saying how they are found: the text is made up
of words without white space and of the white space around them, and no word goes on behind its end.
`isWords_iff` says that `words` finds them. What becomes of the characters of a text does not matter
to where its words begin and end, as long as white space stays what it is and nothing else turns
into it (`IsWords.flatMap`).
-/

namespace RadioData.Text

/-- The words of a text: all of it but white space, cut wherever there is white space. -/
inductive IsWords : List Char → List (List Char) → Prop
  /-- White space alone holds no word. -/
  | none {gap : List Char} (hgap : ∀ c ∈ gap, isBlank c = true) : IsWords gap []
  /-- Behind white space stands a word, up to the next white space or to the end. -/
  | word {gap word rest : List Char} {words : List (List Char)}
      (hgap : ∀ c ∈ gap, isBlank c = true) (hne : word ≠ [])
      (hword : ∀ c ∈ word, isBlank c = false) (hend : ∀ c ∈ rest.head?, isBlank c = true)
      (hrest : IsWords rest words) : IsWords (gap ++ word ++ rest) (word :: words)

/-! ## Finding them -/

theorem wordsFrom_nil_cons {c : Char} (hc : isBlank c = true) (cs : List Char) :
    wordsFrom [] (c :: cs) = wordsFrom [] cs := by
  rw [wordsFrom, if_pos hc, if_pos rfl]

/-- White space in front does not matter. -/
theorem wordsFrom_gap {gap : List Char} (h : ∀ c ∈ gap, isBlank c = true) (cs : List Char) :
    wordsFrom [] (gap ++ cs) = wordsFrom [] cs := by
  induction gap with
  | nil => rfl
  | cons c gap ih =>
    obtain ⟨hc, hgap⟩ := List.forall_mem_cons.1 h
    rw [List.cons_append, wordsFrom_nil_cons hc, ih hgap]

/-- Other characters go on with the word that is being read. -/
theorem wordsFrom_append {word : List Char} (h : ∀ c ∈ word, isBlank c = false)
    (start rest : List Char) :
    wordsFrom start (word ++ rest) = wordsFrom (start ++ word) rest := by
  induction word generalizing start with
  | nil => rw [List.nil_append, List.append_nil]
  | cons c word ih =>
    obtain ⟨hc, hword⟩ := List.forall_mem_cons.1 h
    rw [List.cons_append, wordsFrom, hc, if_neg nofun, ih hword, List.append_assoc]
    rfl

/-- White space and the end of the text end a word. -/
theorem wordsFrom_end {word rest : List Char} (hne : word ≠ [])
    (hend : ∀ c ∈ rest.head?, isBlank c = true) :
    wordsFrom word rest = word :: wordsFrom [] rest := by
  cases rest with
  | nil => rw [wordsFrom, if_neg hne, wordsFrom, if_pos rfl]
  | cons c rest =>
    have hc := hend c rfl
    rw [wordsFrom_nil_cons hc, wordsFrom, if_pos hc, if_neg hne]

theorem IsWords.words_eq {cs : List Char} {ws : List (List Char)} (h : IsWords cs ws) :
    words cs = ws := by
  induction h with
  | @none gap hgap =>
    have hwords := wordsFrom_gap hgap []
    rwa [List.append_nil] at hwords
  | @word gap word rest ws hgap hne hword hend hrest ih =>
    rw [words, List.append_assoc, wordsFrom_gap hgap, wordsFrom_append hword,
      List.nil_append, wordsFrom_end hne hend]
    exact congrArg _ ih

/-- Words hold no white space. -/
theorem IsWords.isBlank_of_mem {cs : List Char} {ws : List (List Char)} (h : IsWords cs ws) :
    ∀ word ∈ ws, ∀ c ∈ word, isBlank c = false := by
  induction h with
  | none => nofun
  | word _ _ hword _ _ ih => exact List.forall_mem_cons.2 ⟨hword, ih⟩

/-- White space in front of a text adds no word. -/
theorem IsWords.blank {c : Char} (hc : isBlank c = true) {cs : List Char} {ws : List (List Char)}
    (h : IsWords cs ws) : IsWords (c :: cs) ws := by
  cases h with
  | none hgap => exact .none (List.forall_mem_cons.2 ⟨hc, hgap⟩)
  | @word gap word rest ws hgap hne hword hend hrest =>
    have hgap : ∀ x ∈ c :: gap, isBlank x = true := List.forall_mem_cons.2 ⟨hc, hgap⟩
    exact .word hgap hne hword hend hrest

/-- A text may begin with a word. -/
theorem IsWords.cons {word rest : List Char} {ws : List (List Char)} (hne : word ≠ [])
    (hword : ∀ c ∈ word, isBlank c = false) (hend : ∀ c ∈ rest.head?, isBlank c = true)
    (hrest : IsWords rest ws) : IsWords (word ++ rest) (word :: ws) := by
  exact .word (List.forall_mem_nil _) hne hword hend hrest

theorem isWords_wordsFrom (start cs : List Char) (hstart : ∀ c ∈ start, isBlank c = false) :
    IsWords (start ++ cs) (wordsFrom start cs) := by
  induction cs generalizing start with
  | nil =>
    rw [wordsFrom]
    split_ifs with hempty
    · rw [hempty]
      exact .none (List.forall_mem_nil _)
    · exact .cons hempty hstart nofun (.none (List.forall_mem_nil _))
  | cons c cs ih =>
    rw [wordsFrom]
    split_ifs with hc hempty
    · rw [hempty]
      exact (ih [] (List.forall_mem_nil _)).blank hc
    · have hend : ∀ x ∈ (c :: cs).head?, isBlank x = true := fun x hx => Option.some.inj hx ▸ hc
      exact .cons hempty hstart hend ((ih [] (List.forall_mem_nil _)).blank hc)
    · have hgrown : ∀ x ∈ start ++ [c], isBlank x = false :=
        List.forall_mem_append.2 ⟨hstart, by simpa using hc⟩
      rw [List.append_cons start c cs]
      exact ih (start ++ [c]) hgrown

/-- **The words that are found are the words of the text**, and there are no others. -/
theorem isWords_iff {cs : List Char} {ws : List (List Char)} : IsWords cs ws ↔ words cs = ws :=
  ⟨IsWords.words_eq, fun h => h ▸ isWords_wordsFrom [] cs (List.forall_mem_nil _)⟩

/-! ## Changing the characters -/

/-- **The words move with their characters**: where white space stays what it is and nothing else
vanishes or becomes white space, the words of the new text are what has become of the old ones. -/
theorem IsWords.flatMap {f : Char → List Char} (hblank : ∀ c, isBlank c = true → f c = [c])
    (hother : ∀ c, isBlank c = false → f c ≠ [] ∧ ∀ x ∈ f c, isBlank x = false)
    {cs : List Char} {ws : List (List Char)} (h : IsWords cs ws) :
    IsWords (cs.flatMap f) (ws.map (List.flatMap f)) := by
  have hgaps {gap : List Char} (hgap : ∀ c ∈ gap, isBlank c = true) : gap.flatMap f = gap := by
    induction gap with
    | nil => rfl
    | cons c gap ih =>
      obtain ⟨hc, hgap⟩ := List.forall_mem_cons.1 hgap
      rw [List.flatMap_cons, hblank c hc, ih hgap]
      rfl
  induction h with
  | none hgap =>
    rw [hgaps hgap]
    exact .none hgap
  | @word gap word rest ws hgap hne hword hend hrest ih =>
    rw [List.flatMap_append, List.flatMap_append, hgaps hgap]
    refine .word hgap ?_ ?_ ?_ ih
    · obtain ⟨c, word, rfl⟩ := List.exists_cons_of_ne_nil hne
      rw [List.flatMap_cons]
      exact List.append_ne_nil_of_left_ne_nil (hother c (hword c (List.mem_cons_self ..))).1 _
    · intro x hx
      obtain ⟨c, hc, hx⟩ := List.mem_flatMap.1 hx
      exact (hother c (hword c hc)).2 x hx
    · cases rest with
      | nil => nofun
      | cons c rest =>
        have hc := hend c rfl
        rw [List.flatMap_cons, hblank c hc]
        exact fun x hx => Option.some.inj hx ▸ hc

end RadioData.Text
