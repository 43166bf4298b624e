import Mathlib.Data.List.Basic
import RadioData.Group
/-!
# Reading group lines

What is written for groups can be read back in one way only. `Slot.read?` reads a slot from the
front of a text, with the space behind it, and `Group.read?` a group, with its line feed; both also
give what follows. Each reads just what is written for a slot or a group, whatever follows
(`Slot.read?_eq_some_iff`, `Group.read?_eq_some_iff`), so there is no doubt where one ends and the
next one begins. `Group.readAll?` goes on to the end of a text, and what it reads are the texts of
groups and no others (`Group.readAll?_eq_some_iff`).

`Group.lines_tell_groups` is the main statement: the lines of groups have twenty characters out of
eighteen, none of them a percent sign, and tell all of the groups.
-/

namespace RadioData

/-! ## Digits -/

namespace Text

/-- The value of an upper-case hexadecimal digit. -/
def upperHexValue? (c : Char) : Option Nat :=
  let n := c.toNat
  if 48 ≤ n ∧ n ≤ 57 then some (n - 48)
  else if 65 ≤ n ∧ n ≤ 70 then some (n - 55)
  else none

theorem toNat_upperHexDigit {d : Nat} (hd : d < 16) :
    (upperHexDigit d).toNat = if d < 10 then 48 + d else 55 + d := by
  decide +revert

/-- A character has a value if it is the digit of that value. -/
theorem upperHexValue?_eq_some_iff {c : Char} {d : Nat} :
    upperHexValue? c = some d ↔ d < 16 ∧ c = upperHexDigit d := by
  constructor
  · intro h
    have hcode : d < 16 ∧ c.toNat = if d < 10 then 48 + d else 55 + d := by
      rw [upperHexValue?] at h
      grind
    exact ⟨hcode.1, Char.toNat_inj.1 (hcode.2.trans (toNat_upperHexDigit hcode.1).symm)⟩
  · rintro ⟨hd, rfl⟩
    rw [upperHexValue?, toNat_upperHexDigit hd]
    grind

end Text

/-! ## Slots -/

namespace Slot

open Text

/-- The slot that four characters stand for. -/
def ofToken? (a b c d : Char) : Option Slot :=
  if [a, b, c, d] = ['-', '-', '-', '-'] then some .damaged
  else do
    let a ← upperHexValue? a
    let b ← upperHexValue? b
    let c ← upperHexValue? c
    let d ← upperHexValue? d
    return .word (4096 * a + 256 * b + 16 * c + d).toUInt16

/-- The slot at the front of a text, with the space behind it, and what follows. -/
def read? : List Char → Option (Slot × List Char)
  | a :: b :: c :: d :: ' ' :: rest => (ofToken? a b c d).map (·, rest)
  | _ => none

/-- Every slot is written in four characters. -/
theorem length_token (s : Slot) : s.token.length = 4 := by
  cases s <;> rfl

/-- The word of four digits has these digits. -/
theorem token_word {a b c d : Nat} (ha : a < 16) (hb : b < 16) (hc : c < 16) (hd : d < 16) :
    (word (4096 * a + 256 * b + 16 * c + d).toUInt16).token =
      [upperHexDigit a, upperHexDigit b, upperHexDigit c, upperHexDigit d] := by
  have hw : (4096 * a + 256 * b + 16 * c + d).toUInt16.toNat = 4096 * a + 256 * b + 16 * c + d :=
    UInt16.toNat_ofNat_of_lt' (by show _ < 65536; omega)
  have h₁ : (4096 * a + 256 * b + 16 * c + d) / 4096 = a := by omega
  have h₂ : (4096 * a + 256 * b + 16 * c + d) / 256 % 16 = b := by omega
  have h₃ : (4096 * a + 256 * b + 16 * c + d) / 16 % 16 = c := by omega
  have h₄ : (4096 * a + 256 * b + 16 * c + d) % 16 = d := by omega
  rw [token, hw, h₁, h₂, h₃, h₄]

/-- No word is written as dashes. -/
theorem token_word_ne (w : UInt16) : (word w).token ≠ damaged.token := by
  have hdash : ∀ d < 16, upperHexDigit d ≠ '-' := by decide
  intro h
  exact hdash _ (Nat.mod_lt _ (by decide)) (List.cons_eq_cons.1 (List.cons_eq_cons.1 h).2).1

/-- Four characters stand for a slot if they are what is written for it. -/
theorem ofToken?_eq_some_iff {a b c d : Char} {s : Slot} :
    ofToken? a b c d = some s ↔ [a, b, c, d] = s.token := by
  rw [ofToken?]
  split
  · next h =>
    rw [h]
    cases s with
    | word w => exact iff_of_false nofun (token_word_ne w).symm
    | damaged => exact iff_of_true rfl rfl
  · next h =>
    constructor
    · intro hread
      simp only [Option.bind_eq_bind, Option.bind_eq_some_iff, upperHexValue?_eq_some_iff] at hread
      obtain ⟨a, ⟨ha, rfl⟩, b, ⟨hb, rfl⟩, c, ⟨hc, rfl⟩, d, ⟨hd, rfl⟩, hs⟩ := hread
      cases hs
      exact (token_word ha hb hc hd).symm
    · intro htoken
      cases s with
      | damaged => exact absurd htoken h
      | word w =>
        have hw : w.toNat < 65536 := w.toNat_lt
        obtain ⟨rfl, rfl, rfl, rfl⟩ : _ ∧ _ ∧ _ ∧ _ := by simpa [token] using htoken
        have hvalue {d : Nat} (hd : d < 16) : upperHexValue? (upperHexDigit d) = some d :=
          upperHexValue?_eq_some_iff.2 ⟨hd, rfl⟩
        rw [hvalue (by omega), hvalue (by omega), hvalue (by omega), hvalue (by omega)]
        have hsum : 4096 * (w.toNat / 4096) + 256 * (w.toNat / 256 % 16) +
            16 * (w.toNat / 16 % 16) + w.toNat % 16 = w.toNat := by omega
        show some (word (Nat.toUInt16 _)) = _
        rw [hsum]
        exact congrArg (some <| word ·) (UInt16.ofNat_toNat)

/-- **A slot is read from what is written for it**, whatever follows, and from nothing else. -/
theorem read?_eq_some_iff {cs : List Char} {s : Slot} {rest : List Char} :
    read? cs = some (s, rest) ↔ cs = s.token ++ ' ' :: rest := by
  rw [read?.eq_def]
  split
  · next a b c d more =>
    have hsplit : [a, b, c, d] ++ ' ' :: more = s.token ++ ' ' :: rest ↔
        [a, b, c, d] = s.token ∧ more = rest := by
      constructor
      · intro h
        obtain ⟨htoken, hrest⟩ := List.append_inj h s.length_token.symm
        exact ⟨htoken, (List.cons_eq_cons.1 hrest).2⟩
      · rintro ⟨h, rfl⟩
        rw [h]
    simp only [Option.map_eq_some_iff, Prod.mk.injEq, ofToken?_eq_some_iff]
    refine Iff.trans ⟨?_, ?_⟩ hsplit.symm
    · rintro ⟨t, ht, rfl, hmore⟩
      exact ⟨ht, hmore⟩
    · rintro ⟨ht, hmore⟩
      exact ⟨s, ht, rfl, hmore⟩
  · next hshort =>
    refine iff_of_false nofun ?_
    rintro rfl
    obtain ⟨a, b, c, d, htoken⟩ : ∃ a b c d, s.token = [a, b, c, d] := by
      cases s <;> exact ⟨_, _, _, _, rfl⟩
    exact hshort a b c d rest (by rw [htoken]; rfl)

end Slot

/-! ## Groups -/

namespace Group

/-- The group at the front of a text, with the line feed behind it, and what follows. -/
def read? (cs : List Char) : Option (Group × List Char) := do
  let (a, cs) ← Slot.read? cs
  let (b, cs) ← Slot.read? cs
  let (c, cs) ← Slot.read? cs
  let (d, cs) ← Slot.read? cs
  match cs with
  | '\n' :: rest => some (⟨a, b, c, d⟩, rest)
  | _ => none

theorem toList_text (g : Group) :
    g.text.toList = g.slots.flatMap fun s => s.token ++ [' '] := String.toList_ofList

theorem toList_line (g : Group) : g.line.toList = g.text.toList ++ ['\n'] := by
  rw [line, String.toList_append]
  rfl

/-- A line is its tokens, each with a space, and a line feed. -/
theorem line_append (g : Group) (rest : List Char) :
    g.line.toList ++ rest =
      g.a.token ++ ' ' :: (g.b.token ++ ' ' :: (g.c.token ++ ' ' :: (g.d.token ++ ' ' ::
        '\n' :: rest))) := by
  simp [toList_line, toList_text, slots]

/-- **A group is read from its line**, whatever follows, and from nothing else. -/
theorem read?_eq_some_iff {cs : List Char} {g : Group} {rest : List Char} :
    read? cs = some (g, rest) ↔ cs = g.line.toList ++ rest := by
  rw [line_append]
  constructor
  · intro h
    simp only [read?, Option.bind_eq_bind, Option.bind_eq_some_iff, Prod.exists,
      Slot.read?_eq_some_iff] at h
    obtain ⟨a, _, rfl, b, _, rfl, c, _, rfl, d, end?, rfl, hend⟩ := h
    split at hend
    · cases hend
      rfl
    · cases hend
  · rintro rfl
    have hread (s : Slot) (rest : List Char) :
        Slot.read? (s.token ++ ' ' :: rest) = some (s, rest) := Slot.read?_eq_some_iff.2 rfl
    simp only [read?, hread, Option.bind_eq_bind, Option.bind_some]

/-- The characters of a group line are digits, dashes and spaces. -/
theorem mem_text {g : Group} {c : Char} (h : c ∈ g.text.toList) :
    (∃ n < 16, c = Text.upperHexDigit n) ∨ c = '-' ∨ c = ' ' := by
  rw [text, String.toList_ofList, List.mem_flatMap] at h
  obtain ⟨slot, -, hc⟩ := h
  rcases List.mem_append.1 hc with hc | hc
  · cases slot with
    | damaged => exact .inr (.inl (by simpa [Slot.token] using hc))
    | word w =>
      have hw : w.toNat < 65536 := w.toNat_lt
      simp only [Slot.token, List.mem_cons, List.not_mem_nil, or_false] at hc
      rcases hc with rfl | rfl | rfl | rfl
      · exact .inl ⟨_, by omega, rfl⟩
      · exact .inl ⟨_, by omega, rfl⟩
      · exact .inl ⟨_, by omega, rfl⟩
      · exact .inl ⟨_, by omega, rfl⟩
  · exact .inr (.inr (List.mem_singleton.1 hc))

/-- A group line has twenty characters before its end. -/
theorem length_text (g : Group) : g.text.toList.length = 20 := by
  simp [toList_text, slots, Slot.length_token]

/-- A group that is read takes characters away, so reading comes to an end. -/
theorem length_lt_of_read? {cs rest : List Char} {g : Group} (h : read? cs = some (g, rest)) :
    rest.length < cs.length := by
  rw [read?_eq_some_iff.1 h, toList_line, List.length_append, List.length_append, length_text]
  omega

/-- The groups in a text that is nothing but group lines. -/
def readAll? (cs : List Char) : Option (List Group) :=
  if cs = [] then some []
  else
    match h : read? cs with
    | none => none
    | some (g, rest) =>
      have := length_lt_of_read? h
      (readAll? rest).map (g :: ·)
termination_by cs.length

/-- The lines of groups, one after the other. -/
def lines (gs : List Group) : String := String.join (gs.map line)

theorem toList_lines (gs : List Group) : (lines gs).toList = gs.flatMap fun g => g.line.toList := by
  simp [lines, List.flatMap_map]

/-- **The groups are read from their lines**, and from nothing else. -/
theorem readAll?_eq_some_iff {cs : List Char} {gs : List Group} :
    readAll? cs = some gs ↔ cs = (lines gs).toList := by
  rw [toList_lines]
  fun_induction readAll? cs generalizing gs with
  | case1 =>
    cases gs with
    | nil => simp
    | cons g gs => simp [toList_line]
  | case2 cs hcs hread =>
    refine iff_of_false nofun ?_
    cases gs with
    | nil => exact hcs
    | cons g gs =>
      intro h
      rw [read?_eq_some_iff.2 h] at hread
      cases hread
  | case3 cs hcs g rest hread _ ih =>
    obtain rfl := read?_eq_some_iff.1 hread
    rw [Option.map_eq_some_iff]
    constructor
    · rintro ⟨gs, hgs, rfl⟩
      rw [ih.1 hgs]
      rfl
    · intro h
      cases gs with
      | nil => exact absurd h hcs
      | cons g' gs =>
        have hread' := read?_eq_some_iff.2 h
        rw [hread] at hread'
        cases hread'
        exact ⟨gs, ih.2 rfl, rfl⟩

/-- **Group lines tell the groups.** The text of any groups consists of a line for each of them: of
twenty characters, each an upper-case hexadecimal digit, a dash or a space, and none with a percent
sign in front. It is read as just these groups, and no other text is, so different groups never have
the same text. Slot by slot, a token is read as what it was written for, whatever follows, and none
of a word is the one of a damaged slot. -/
theorem lines_tell_groups (gs : List Group) :
    (∃ rows : List (List Char), (lines gs).toList = rows.flatMap (· ++ ['\n']) ∧
      rows.length = gs.length ∧
      ∀ row ∈ rows, row.length = 20 ∧ (∀ c ∈ row, c ∈ "0123456789ABCDEF- ".toList) ∧
        row.head? ≠ some '%') ∧
    readAll? (lines gs).toList = some gs ∧
    (∀ cs, readAll? cs = some gs → cs = (lines gs).toList) ∧
    (∀ hs, lines hs = lines gs → hs = gs) ∧
    (∀ (s : Slot) (rest : List Char), Slot.read? (s.token ++ ' ' :: rest) = some (s, rest)) ∧
    ∀ w, (Slot.word w).token ≠ Slot.damaged.token := by
  have hread : readAll? (lines gs).toList = some gs := readAll?_eq_some_iff.2 rfl
  refine ⟨⟨gs.map fun g => g.text.toList, ?_, List.length_map _, fun row hrow => ?_⟩, hread,
    fun cs => readAll?_eq_some_iff.1, fun hs h => ?_, fun s rest => Slot.read?_eq_some_iff.2 rfl,
    Slot.token_word_ne⟩
  · rw [toList_lines, List.flatMap_map]
    exact List.flatMap_congr fun g _ => toList_line g
  · obtain ⟨g, -, rfl⟩ := List.mem_map.1 hrow
    have halphabet : ∀ c ∈ g.text.toList, c ∈ "0123456789ABCDEF- ".toList := by
      intro c hc
      obtain ⟨n, hn, rfl⟩ | rfl | rfl := mem_text hc
      · clear hc
        revert n
        decide
      · decide
      · decide
    refine ⟨g.length_text, halphabet, fun hhead => ?_⟩
    exact absurd (halphabet _ (List.mem_of_head? hhead)) (by decide)
  · have hback := readAll?_eq_some_iff.2 (congrArg String.toList h.symm)
    exact Option.some.inj (hback.symm.trans hread)

example : readAll? "1234 ---- 00AB ---- \n".toList =
    some [⟨.word 0x1234, .damaged, .word 0xAB, .damaged⟩] := by
  decide +kernel

end Group

end RadioData
