import Mathlib.Data.List.Forall2
import RadioData.Proofs.Text.Words
import RadioData.Text
/-!
# What upper case keeps and what it can produce

Two facts about the mapping to upper case, for all characters of Unicode. It neither makes nor loses
white space (`isWords_upper`), so the words of a text in upper case are its words in upper case. And
few characters end up as one character of ASCII: besides that character and its lower case only the
long s and the dotless i (`upperChar_eq_singleton`). `upper_eq_iff` takes this to words: what
becomes a given word is just that word, letter by letter (`Spells`), provided that no part of it is
what a single character expands to.
-/

namespace RadioData.UpperCase

open Text (isBlank IsWords)

/-! ## Reading the tables -/

/-- The upper case of a character comes from a run, from an expansion, or is the character. -/
theorem upperChar_cases (c : Char) :
    (∃ r ∈ runs, r.covers c.toNat = true ∧
      upperChar c = [Char.ofNat (r.image + (c.toNat - r.first))]) ∨
    (∃ e ∈ expansions, e.1 = c.toNat ∧ upperChar c = e.2.map Char.ofNat) ∨
    upperChar c = [c] := by
  rw [upperChar]
  cases hrun : runs.find? (·.covers c.toNat) with
  | some r =>
    exact .inl ⟨r, List.mem_of_find?_eq_some hrun, by simpa using List.find?_some hrun, rfl⟩
  | none =>
    cases hexpansion : expansions.lookup c.toNat with
    | some image =>
      obtain ⟨before, after, happend, -⟩ := List.lookup_eq_some_iff.1 hexpansion
      exact .inr (.inl ⟨(c.toNat, image), by rw [happend]; simp, rfl, rfl⟩)
    | none => exact .inr (.inr rfl)

/-- A run covers what lies between its ends. -/
theorem Run.le_of_covers {r : Run} {n : Nat} (h : r.covers n = true) :
    r.first ≤ n ∧ n ≤ r.last := by
  simp only [Run.covers, Bool.and_eq_true, decide_eq_true_eq] at h
  exact h.1

/-- A code point that is no character stands for the character zero. -/
theorem toNat_ofNat (n : Nat) : (Char.ofNat n).toNat = n ∨ Char.ofNat n = Char.ofNat 0 := by
  by_cases hn : n.isValidChar
  · left
    rw [Char.ofNat, dif_pos hn]
    rfl
  · right
    rw [Char.ofNat, dif_neg hn]
    rfl

/-! ## White space -/

/-- The code points of white space, by first and last. -/
def blanks : List (Nat × Nat) :=
  [(9, 13), (0x20, 0x20), (0x85, 0x85), (0xA0, 0xA0), (0x1680, 0x1680), (0x2000, 0x200A),
    (0x2028, 0x2029), (0x202F, 0x202F), (0x205F, 0x205F), (0x3000, 0x3000)]

theorem isBlank_iff {c : Char} :
    isBlank c = true ↔ ∃ b ∈ blanks, b.1 ≤ c.toNat ∧ c.toNat ≤ b.2 := by
  simp only [isBlank, blanks, Bool.or_eq_true, Bool.and_eq_true, decide_eq_true_eq, beq_iff_eq,
    List.exists_mem_cons_iff, List.not_mem_nil, false_and, exists_false, or_false]
  omega

/-- Neither what a run covers nor where it leads is white space. -/
theorem runs_avoid_blanks : ∀ r ∈ runs, ∀ b ∈ blanks, (r.last < b.1 ∨ b.2 < r.first) ∧
    (r.image + (r.last - r.first) < b.1 ∨ b.2 < r.image) := by
  decide +kernel

theorem expansions_avoid_blanks : ∀ e ∈ expansions, isBlank (Char.ofNat e.1) = false ∧
    ∀ n ∈ e.2, isBlank (Char.ofNat n) = false := by
  decide +kernel

/-- White space has no upper case of its own. -/
theorem upperChar_of_isBlank {c : Char} (hc : isBlank c = true) : upperChar c = [c] := by
  obtain ⟨b, hb, hlow, hhigh⟩ := isBlank_iff.1 hc
  rcases upperChar_cases c with ⟨r, hr, hcovers, -⟩ | ⟨e, he, hcode, -⟩ | hsame
  · have := Run.le_of_covers hcovers
    have := (runs_avoid_blanks r hr b hb).1
    omega
  · have havoids := (expansions_avoid_blanks e he).1
    rw [hcode, Char.ofNat_toNat, hc] at havoids
    cases havoids
  · exact hsame

/-- No other character becomes white space. -/
theorem isBlank_of_mem_upperChar {c : Char} (hc : isBlank c = false) :
    ∀ x ∈ upperChar c, isBlank x = false := by
  rcases upperChar_cases c with ⟨r, hr, hcovers, himage⟩ | ⟨e, he, -, himage⟩ | hsame
  · intro x hx
    rw [himage, List.mem_singleton] at hx
    have hbounds := Run.le_of_covers hcovers
    refine Bool.eq_false_iff.2 fun hblank => ?_
    obtain ⟨b, hb, hlow, hhigh⟩ := isBlank_iff.1 hblank
    have havoids := (runs_avoid_blanks r hr b hb).2
    rcases toNat_ofNat (r.image + (c.toNat - r.first)) with hcode | hzero
    · rw [← hx] at hcode
      omega
    · rw [hx, hzero] at hblank
      exact absurd hblank (by decide)
  · intro x hx
    rw [himage] at hx
    obtain ⟨n, hn, rfl⟩ := List.mem_map.1 hx
    exact (expansions_avoid_blanks e he).2 n hn
  · rw [hsame]
    simpa using hc

/-- Every expansion is one: it has more than one character. -/
theorem length_expansion : ∀ e ∈ expansions, 2 ≤ e.2.length := by
  decide

/-- A character becomes one character or what it expands to. -/
theorem upperChar_single_or_expansion (c : Char) :
    (∃ u, upperChar c = [u]) ∨ ∃ e ∈ expansions, upperChar c = e.2.map Char.ofNat := by
  rcases upperChar_cases c with ⟨r, -, -, himage⟩ | ⟨e, he, -, himage⟩ | hsame
  · exact .inl ⟨_, himage⟩
  · exact .inr ⟨e, he, himage⟩
  · exact .inl ⟨c, hsame⟩

theorem upperChar_ne_nil (c : Char) : upperChar c ≠ [] := by
  rcases upperChar_single_or_expansion c with ⟨u, hu⟩ | ⟨e, he, himage⟩
  · rw [hu]
    exact List.cons_ne_nil u []
  · rw [himage]
    intro hnil
    have hlength := length_expansion e he
    rw [List.map_eq_nil_iff.1 hnil] at hlength
    cases hlength

/-- **Upper case keeps the words apart.** -/
theorem isWords_upper {cs : List Char} {ws : List (List Char)} (h : IsWords cs ws) :
    IsWords (upper cs) (ws.map upper) :=
  h.flatMap (fun _ => upperChar_of_isBlank) fun c hc =>
    ⟨upperChar_ne_nil c, isBlank_of_mem_upperChar hc⟩

/-! ## Words of ASCII -/

/-- A character that counts as an upper-case character of ASCII: itself, its lower case if it is a
letter, the long s as S and the dotless i as I. -/
def SpellsChar (u c : Char) : Prop :=
  c = u ∨ (u.isUpper = true ∧ c = u.toLower) ∨ (u = 'S' ∧ c = '\u017F') ∨ (u = 'I' ∧ c = '\u0131')

/-- Characters spell a word if each of them counts as the character of the word at its place. -/
def Spells (word token : List Char) : Prop := List.Forall₂ SpellsChar word token

/-- The characters of ASCII from the space up to the last one before the lower-case letters. -/
def Capital (u : Char) : Prop := 0x20 ≤ u.toNat ∧ u.toNat ≤ 0x60

/-- All but three runs lead out of ASCII. -/
theorem runs_leave_ascii : ∀ r ∈ runs, r = ⟨0x61, 0x7A, 1, 0x41⟩ ∨ r = ⟨0x131, 0x131, 1, 0x49⟩ ∨
    r = ⟨0x17F, 0x17F, 1, 0x53⟩ ∨ 0x80 ≤ r.image := by
  decide +kernel

/-- The tables begin behind the capital characters. -/
theorem tables_behind_capitals : (∀ r ∈ runs, 0x61 ≤ r.first) ∧ ∀ e ∈ expansions, 0x61 ≤ e.1 := by
  decide +kernel

/-- A capital character stays as it is. -/
theorem upperChar_capital {u : Char} (hu : Capital u) : upperChar u = [u] := by
  obtain ⟨-, hhigh⟩ := hu
  rcases upperChar_cases u with ⟨r, hr, hcovers, -⟩ | ⟨e, he, hcode, -⟩ | hsame
  · have := Run.le_of_covers hcovers
    have := tables_behind_capitals.1 r hr
    omega
  · have := tables_behind_capitals.2 e he
    omega
  · exact hsame

/-- What holds of the capital characters code by code holds of each of them. -/
theorem forall_capital {p : Char → Prop} (h : ∀ n ≤ 0x60, 0x20 ≤ n → p (Char.ofNat n)) :
    ∀ u, Capital u → p u := by
  intro u hu
  have hcode := h u.toNat hu.2 hu.1
  rwa [Char.ofNat_toNat] at hcode

/-- The small letters stand behind the capital ones, all at the same distance. -/
theorem capital_letter : ∀ u, Capital u → 0x41 ≤ u.toNat → u.toNat ≤ 0x5A →
    u.isUpper = true ∧ u.toLower = Char.ofNat (u.toNat + 0x20) :=
  forall_capital (by decide +kernel)

theorem upperChar_toLower : ∀ u, Capital u → u.isUpper = true → upperChar u.toLower = [u] :=
  forall_capital (by decide +kernel)

/-- What counts as a capital character becomes that character. -/
theorem upperChar_of_spellsChar {u c : Char} (hu : Capital u) (h : SpellsChar u c) :
    upperChar c = [u] := by
  rcases h with rfl | ⟨hupper, rfl⟩ | ⟨rfl, rfl⟩ | ⟨rfl, rfl⟩
  · exact upperChar_capital hu
  · exact upperChar_toLower u hu hupper
  · decide +kernel
  · decide +kernel

/-- A run that leads to a capital character starts from one that counts as it. -/
theorem spellsChar_of_run {u c : Char} (hu : Capital u) {r : Run} (hr : r ∈ runs)
    (hcovers : r.covers c.toNat = true) (himage : Char.ofNat (r.image + (c.toNat - r.first)) = u) :
    SpellsChar u c := by
  have hbounds := Run.le_of_covers hcovers
  have hcode : u.toNat = r.image + (c.toNat - r.first) := by
    rcases toNat_ofNat (r.image + (c.toNat - r.first)) with hcode | hzero
    · rw [← himage, hcode]
    · rw [himage] at hzero
      exact absurd (hzero ▸ hu.1 : 0x20 ≤ (Char.ofNat 0).toNat) (by decide)
  have hhigh := hu.2
  rcases runs_leave_ascii r hr with rfl | rfl | rfl | hleaves
  · -- the small letters of ASCII
    dsimp only at hbounds hcode
    have hc : c.toNat = u.toNat + 0x20 := by omega
    obtain ⟨hupper, hlower⟩ := capital_letter u hu (by omega) (by omega)
    refine .inr (.inl ⟨hupper, ?_⟩)
    rw [hlower, ← hc, Char.ofNat_toNat]
  · have hc : c.toNat = 0x131 := Nat.le_antisymm hbounds.2 hbounds.1
    rw [hc] at himage
    exact .inr (.inr (.inr ⟨himage.symm, by rw [← Char.ofNat_toNat c, hc]⟩))
  · have hc : c.toNat = 0x17F := Nat.le_antisymm hbounds.2 hbounds.1
    rw [hc] at himage
    exact .inr (.inr (.inl ⟨himage.symm, by rw [← Char.ofNat_toNat c, hc]⟩))
  · omega

/-- **Only the character, its lower case, the long s and the dotless i** become a given capital
character, and they do. -/
theorem upperChar_eq_singleton {u c : Char} (hu : Capital u) :
    upperChar c = [u] ↔ SpellsChar u c := by
  refine ⟨fun h => ?_, upperChar_of_spellsChar hu⟩
  rcases upperChar_cases c with ⟨r, hr, hcovers, himage⟩ | ⟨e, he, -, himage⟩ | hsame
  · rw [himage] at h
    exact spellsChar_of_run hu hr hcovers (List.singleton_inj.1 h)
  · have hlength := congrArg List.length (himage.symm.trans h)
    have := length_expansion e he
    rw [List.length_map, List.length_singleton] at hlength
    omega
  · rw [hsame] at h
    exact .inl (List.singleton_inj.1 h)

/-- Capital characters no part of which is what a single character expands to. -/
structure Plain (word : List Char) : Prop where
  capital : ∀ u ∈ word, Capital u
  unexpanded : ∀ e ∈ expansions, ¬ e.2.map Char.ofNat <:+: word

theorem Plain.tail {u : Char} {word : List Char} (h : Plain (u :: word)) : Plain word where
  capital x hx := h.capital x (List.mem_cons_of_mem _ hx)
  unexpanded e he hpart := h.unexpanded e he (hpart.trans (List.suffix_cons u word).isInfix)

/-- **What becomes a given word** in upper case is that word, letter by letter. -/
theorem upper_eq_iff {word token : List Char} (h : Plain word) :
    upper token = word ↔ Spells word token := by
  induction token generalizing word with
  | nil => exact ⟨fun heq => heq ▸ .nil, fun hspells => by cases hspells; rfl⟩
  | cons c token ih =>
    constructor
    · intro heq
      rw [upper, List.flatMap_cons] at heq
      rcases upperChar_single_or_expansion c with ⟨u, hu⟩ | ⟨e, he, himage⟩
      · rw [hu, List.singleton_append] at heq
        subst heq
        exact .cons ((upperChar_eq_singleton (h.capital u (List.mem_cons_self ..))).1 hu)
          ((ih h.tail).1 rfl)
      · rw [himage] at heq
        exact absurd (heq ▸ (List.prefix_append _ _).isInfix) (h.unexpanded e he)
    · rintro (_ | @⟨u, _, word, _, hc, hrest⟩)
      have hu := (upperChar_eq_singleton (h.capital u (List.mem_cons_self ..))).2 hc
      rw [upper, List.flatMap_cons, hu, List.singleton_append]
      exact congrArg _ ((ih h.tail).2 hrest)

end RadioData.UpperCase
