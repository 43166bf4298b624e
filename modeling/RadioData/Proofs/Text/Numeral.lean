import Mathlib.Data.List.Induction
import RadioData.Text
/-!
# Numbers that are written and read

Numbers are written with `Nat.toDigits`, in base ten or sixteen, and read digit by digit.
`exists_digits` says what readers need to know of what was written: the values of the digits make up
the number, and there is no zero in front of another digit.

`Denotes` says which texts are numerals and what their numbers are, without a reader: a plus sign or
none, then digits, of which zeros may come first. `read?_eq_some_iff` says that `read?` reads just
these. Reading a digit at a time and giving up as soon as the number grows too large, as one does
with numbers of a fixed size, gives the same as reading the whole numeral first
(`readUpTo?_eq_readOn?`), since no number on the way is larger than the one at the end.
-/

/-! ## Digits that are written -/

namespace RadioData.Text

variable {b : Nat}

/-- A number is written in base ten. -/
theorem toList_toString (n : Nat) : (toString n).toList = Nat.toDigits 10 n := Nat.toList_repr

/-- A digit is read as what it was written for. -/
theorem hexValue?_digitChar {d : Nat} (hd : d < 16) : hexValue? (Nat.digitChar d) = some d := by
  decide +revert

/-- **The digits of a number** have values that make up the number, and the first one is zero only
if the number is. -/
theorem exists_digits (hb : 1 < b) (n : Nat) :
    ∃ ds : List Nat, Nat.toDigits b n = ds.map Nat.digitChar ∧ (∀ d ∈ ds, d < b) ∧
      ds.foldl (fun n d => b * n + d) 0 = n ∧ (ds.head? = some 0 → n = 0) := by
  induction n using Nat.base_induction b hb with
  | single m hm =>
    exact ⟨[m], Nat.toDigits_of_lt_base hm, by simpa using hm, by simp, by simp⟩
  | digit m k hk hm ih =>
    obtain ⟨ds, hds, hlt, hvalue, hzero⟩ := ih
    refine ⟨ds ++ [k], ?_, ?_, ?_, ?_⟩
    · rw [← Nat.toDigits_append_toDigits hb hm hk, hds, Nat.toDigits_of_lt_base hk, List.map_append]
      rfl
    · exact List.forall_mem_append.2 ⟨hlt, by simpa using hk⟩
    · rw [List.foldl_append, hvalue]
      rfl
    · intro hhead
      obtain ⟨d, ds, rfl⟩ := List.exists_cons_of_ne_nil fun hnil : ds = [] =>
        Nat.toDigits_ne_nil (hnil ▸ hds)
      exact absurd (hzero hhead) (Nat.ne_of_gt hm)

/-- There is no zero in front of another digit. -/
theorem toDigits_ne_zero_cons (hb : 1 < b) (n : Nat) (c : Char) (cs : List Char) :
    Nat.toDigits b n ≠ '0' :: c :: cs := by
  intro h
  obtain ⟨ds, hds, -, -, hzero⟩ := exists_digits hb n
  have hhead : ds.head? = some 0 := by
    cases ds with
    | nil => exact absurd (hds.symm.trans h) nofun
    | cons d ds =>
      have hd : Nat.digitChar d = '0' := (List.cons_eq_cons.1 (hds.symm.trans h)).1
      rw [Nat.digitChar_eq_zero.1 hd]
      rfl
  rw [hzero hhead, Nat.toDigits_zero] at h
  cases h

/-- The digits of base ten are decimal digits. -/
theorem isDigit_of_mem_toDigits {n : Nat} {c : Char} (h : c ∈ Nat.toDigits 10 n) :
    Numeral.isDigit c = true := by
  have hc := Nat.isDigit_of_mem_toDigits (by decide) (by decide) h
  simpa [Numeral.isDigit, Char.isDigit, UInt32.le_iff_toNat_le] using hc

end RadioData.Text

/-! ## What numerals denote -/

namespace RadioData.Numeral

/-- Digits and the number that they spell. -/
inductive Digits : List Char → Nat → Prop
  | one {d : Nat} (hd : d < 10) : Digits [Nat.digitChar d] d
  | more {cs : List Char} {n d : Nat} (hcs : Digits cs n) (hd : d < 10) :
      Digits (cs ++ [Nat.digitChar d]) (10 * n + d)

/-- A numeral and its number. -/
inductive Denotes : List Char → Nat → Prop
  | plain {cs : List Char} {n : Nat} (h : Digits cs n) : Denotes cs n
  | plus {cs : List Char} {n : Nat} (h : Digits cs n) : Denotes ('+' :: cs) n

/-! ## Digits that are read -/

/-- The digits, by the numbers that they stand for. -/
theorem isDigit_digitChar {d : Nat} (hd : d < 10) : isDigit (Nat.digitChar d) = true := by
  have hcode := Nat.toNat_digitChar_of_lt_ten hd
  simp only [isDigit, Bool.and_eq_true, decide_eq_true_eq]
  omega

theorem eq_digitChar {c : Char} (h : isDigit c = true) :
    c.toNat - 48 < 10 ∧ c = Nat.digitChar (c.toNat - 48) := by
  simp only [isDigit, Bool.and_eq_true, decide_eq_true_eq] at h
  have hlt : c.toNat - 48 < 10 := by omega
  have hcode := Nat.toNat_digitChar_of_lt_ten hlt
  exact ⟨hlt, Char.toNat_inj.1 (by omega)⟩

theorem value_concat (cs : List Char) (c : Char) :
    value (cs ++ [c]) = 10 * value cs + (c.toNat - 48) := by
  rw [value, List.foldl_append]
  rfl

theorem value_concat_digitChar (cs : List Char) {d : Nat} (hd : d < 10) :
    value (cs ++ [Nat.digitChar d]) = 10 * value cs + d := by
  rw [value_concat, Nat.toNat_digitChar_of_lt_ten hd, Nat.add_sub_cancel_left]

/-- Digits spell their value, and nothing but digits does. -/
theorem digits_iff {cs : List Char} {n : Nat} :
    Digits cs n ↔ cs ≠ [] ∧ (∀ c ∈ cs, isDigit c = true) ∧ value cs = n := by
  constructor
  · intro h
    induction h with
    | @one d hd =>
      exact ⟨List.cons_ne_nil _ _, List.forall_mem_singleton.2 (isDigit_digitChar hd),
        (value_concat_digitChar [] hd).trans (Nat.zero_add d)⟩
    | @more cs n d hcs hd ih =>
      obtain ⟨-, hall, hvalue⟩ := ih
      refine ⟨List.append_ne_nil_of_right_ne_nil _ (List.cons_ne_nil _ _),
        List.forall_mem_append.2 ⟨hall, List.forall_mem_singleton.2 (isDigit_digitChar hd)⟩, ?_⟩
      rw [value_concat_digitChar cs hd, hvalue]
  · rintro ⟨hne, hall, rfl⟩
    induction cs using List.reverseRecOn with
    | nil => exact absurd rfl hne
    | append_singleton cs c ih =>
      obtain ⟨hcs, hc⟩ := List.forall_mem_append.1 hall
      obtain ⟨hlt, hchar⟩ := eq_digitChar (hc c (List.mem_singleton_self c))
      rw [value_concat]
      conv => lhs; rw [hchar]
      rcases eq_or_ne cs [] with rfl | hne
      · have hvalue : 10 * value [] + (c.toNat - 48) = c.toNat - 48 := Nat.zero_add _
        rw [hvalue]
        exact .one hlt
      · exact .more (ih hne hcs) hlt

/-- A number that is written in base ten is spelled by its digits. -/
theorem digits_toDigits (n : Nat) : Digits (Nat.toDigits 10 n) n := by
  induction n using Nat.base_induction 10 (by decide) with
  | single m hm =>
    rw [Nat.toDigits_of_lt_base hm]
    exact .one hm
  | digit m d hd hm ih =>
    rw [← Nat.toDigits_append_toDigits (by decide) hm hd, Nat.toDigits_of_lt_base hd]
    exact .more ih hd

/-! ## Numerals that are read -/

/-- Nothing is taken away from digits. -/
theorem Digits.unsigned_eq {cs : List Char} {n : Nat} (h : Digits cs n) : unsigned cs = cs := by
  obtain ⟨-, hall, -⟩ := digits_iff.1 h
  rw [unsigned.eq_def]
  split
  · exact absurd (hall '+' (List.mem_cons_self ..)) (by decide)
  · rfl

theorem digits_unsigned_iff {cs : List Char} {n : Nat} :
    Digits (unsigned cs) n ↔ Denotes cs n := by
  constructor
  · intro h
    rw [unsigned.eq_def] at h
    split at h
    · exact .plus h
    · exact .plain h
  · rintro (h | h)
    · rwa [h.unsigned_eq]
    · exact h

/-- **What is read is a numeral with its number**, and every numeral is read. -/
theorem read?_eq_some_iff {cs : List Char} {n : Nat} : read? cs = some n ↔ Denotes cs n := by
  rw [← digits_unsigned_iff, digits_iff, read?]
  simp only [Option.ite_none_right_eq_some, List.all_eq_true, Option.some.injEq, and_assoc]

/-- A text is no numeral of two numbers. -/
theorem Denotes.unique {cs : List Char} {m n : Nat} (hm : Denotes cs m) (hn : Denotes cs n) :
    m = n :=
  Option.some.inj ((read?_eq_some_iff.2 hm).symm.trans (read?_eq_some_iff.2 hn))

/-- A numeral is read if its number is not too large. -/
theorem readUpTo?_eq_some_iff {largest n : Nat} {cs : List Char} :
    readUpTo? largest cs = some n ↔ Denotes cs n ∧ n ≤ largest := by
  rw [readUpTo?, Option.filter_eq_some_iff, read?_eq_some_iff, decide_eq_true_eq]

/-! ## A digit at a time -/

/-- Reads on from a number, digit by digit, as long as the number does not grow too large. -/
def readOn? (largest : Nat) : Nat → List Char → Option Nat
  | n, [] => some n
  | n, c :: cs =>
    if isDigit c ∧ 10 * n ≤ largest ∧ 10 * n + (c.toNat - 48) ≤ largest then
      readOn? largest (10 * n + (c.toNat - 48)) cs
    else none

/-- Digits that are read later do not make a number smaller. -/
theorem le_foldl_digits (cs : List Char) (n : Nat) :
    n ≤ cs.foldl (fun n c => 10 * n + (c.toNat - 48)) n := by
  induction cs generalizing n with
  | nil => exact Nat.le_refl n
  | cons c cs ih =>
    have hnext := ih (10 * n + (c.toNat - 48))
    rw [List.foldl_cons]
    omega

/-- What is read on from a number is the whole of the digits, if it is not too large. -/
theorem readOn?_eq_some_iff {largest n m : Nat} (hn : n ≤ largest) {cs : List Char} :
    readOn? largest n cs = some m ↔
      (∀ c ∈ cs, isDigit c = true) ∧ cs.foldl (fun n c => 10 * n + (c.toNat - 48)) n = m ∧
        m ≤ largest := by
  induction cs generalizing n with
  | nil =>
    rw [readOn?, Option.some.injEq, List.foldl_nil]
    exact ⟨fun h => ⟨nofun, h, h ▸ hn⟩, fun h => h.2.1⟩
  | cons c cs ih =>
    rw [readOn?, Option.ite_none_right_eq_some, List.forall_mem_cons, List.foldl_cons]
    constructor
    · rintro ⟨⟨hc, -, hfits⟩, h⟩
      obtain ⟨hcs, hvalue, hm⟩ := (ih hfits).1 h
      exact ⟨⟨hc, hcs⟩, hvalue, hm⟩
    · rintro ⟨⟨hc, hcs⟩, hvalue, hm⟩
      -- the number at the end bounds the one after this digit
      have hgrows := le_foldl_digits cs (10 * n + (c.toNat - 48))
      have hfits : 10 * n + (c.toNat - 48) ≤ largest := by omega
      exact ⟨⟨hc, by omega, hfits⟩, (ih hfits).2 ⟨hcs, hvalue, hm⟩⟩

/-- **Giving up at the first number that is too large** refuses no numeral that would be read in the
end, and lets none pass. -/
theorem readUpTo?_eq_readOn? (largest : Nat) (cs : List Char) :
    readUpTo? largest cs = if unsigned cs = [] then none else readOn? largest 0 (unsigned cs) := by
  refine Option.ext fun m => ?_
  rw [readUpTo?_eq_some_iff, ← digits_unsigned_iff, digits_iff]
  split_ifs with hnone
  · exact ⟨fun h => absurd hnone h.1.1, nofun⟩
  · rw [readOn?_eq_some_iff (Nat.zero_le largest), value]
    exact ⟨fun ⟨⟨_, hall, hvalue⟩, hm⟩ => ⟨hall, hvalue, hm⟩,
      fun ⟨hall, hvalue, hm⟩ => ⟨⟨hnone, hall, hvalue⟩, hm⟩⟩

end RadioData.Numeral
