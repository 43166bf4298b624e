import RadioData.Json.Reader
/-!
# Everything that is JSON is read

`Written` is what a JSON value can look like in a text: with any blanks between its parts, with its
characters as they are or in any of their escapes, with numerals of any length. `Written.document`
is what stands in such a text, part by part. Numerals (`Numeral.scan_chars`) and strings
(`Quoted.scan_pieces`) come first; `Document.ofText_written` is the main statement: a reader finds
exactly the document in a text, and nothing is wrong with it for one who passes over it
(`Written.skip_document`).
-/

namespace RadioData.Json

/-! ## Blanks -/

/-- What may stand between the parts of a text. -/
structure Blanks where
  chars : List Char
  blank : ∀ c ∈ chars, Document.isBlank c = true

/-- Nothing in between. -/
def Blanks.none : Blanks := ⟨[], nofun⟩

/-! ## Numerals -/

/-- Digits, at least one. -/
structure DigitRun where
  chars : List Char
  digit : ∀ c ∈ chars, RadioData.Numeral.isDigit c = true
  ne_nil : chars ≠ []

/-- An exponent. -/
structure ExponentText where
  /-- Whether it begins with a capital letter. -/
  capital : Bool
  /-- The sign, if there is one; `true` is the minus sign. -/
  sign : Option Bool
  digits : DigitRun

/-- A numeral. -/
structure NumeralText where
  minus : Bool
  whole : DigitRun
  /-- There is no needless zero in front. -/
  noZeros : ∀ d ds, whole.chars ≠ '0' :: d :: ds
  fraction : Option DigitRun := none
  exponent : Option ExponentText := none

/-- What does not go on with a numeral before it. -/
def Delimited (rest : List Char) : Prop :=
  ∀ c, rest.head? = some c →
    RadioData.Numeral.isDigit c = false ∧ c ≠ '.' ∧ c ≠ 'e' ∧ c ≠ 'E'

/-- The digits of a run are taken from the front of a text. -/
theorem DigitRun.taken (ds : DigitRun) {rest : List Char}
    (hrest : ∀ c, rest.head? = some c → RadioData.Numeral.isDigit c = false) :
    Numeral.digits (ds.chars ++ rest) = ds.chars ∧
      Numeral.afterDigits (ds.chars ++ rest) = rest := by
  have hnone : rest.takeWhile RadioData.Numeral.isDigit = [] ∧
      rest.dropWhile RadioData.Numeral.isDigit = rest := by
    cases rest with
    | nil => exact ⟨rfl, rfl⟩
    | cons c cs => simp [hrest c rfl]
  rw [Numeral.digits, Numeral.afterDigits, List.takeWhile_append_of_pos ds.digit,
    List.dropWhile_append_of_pos ds.digit, hnone.1, hnone.2]
  exact ⟨List.append_nil _, rfl⟩

/-- A run begins with a digit. -/
theorem DigitRun.exists_cons (ds : DigitRun) :
    ∃ c cs, ds.chars = c :: cs ∧ RadioData.Numeral.isDigit c = true := by
  obtain ⟨c, cs, hcs⟩ := List.exists_cons_of_ne_nil ds.ne_nil
  exact ⟨c, cs, hcs, ds.digit c (hcs ▸ List.mem_cons_self)⟩

namespace ExponentText

/-- The characters of a sign. -/
def signChars : Option Bool → List Char
  | none => []
  | some true => ['-']
  | some false => ['+']

/-- The characters of an exponent. -/
def chars (e : ExponentText) : List Char :=
  (if e.capital then 'E' else 'e') :: (signChars e.sign ++ e.digits.chars)

/-- The number that an exponent stands for. -/
def value (e : ExponentText) : Int :=
  if e.sign = some true then -(RadioData.Numeral.value e.digits.chars : Int)
  else RadioData.Numeral.value e.digits.chars

end ExponentText

namespace NumeralText

/-- The characters of a fraction, with its point. -/
def fractionChars : Option DigitRun → List Char
  | none => []
  | some ds => '.' :: ds.chars

/-- The characters of the exponent, if there is one. -/
def exponentChars : Option ExponentText → List Char
  | none => []
  | some e => e.chars

/-- The characters of a numeral. -/
def chars (n : NumeralText) : List Char :=
  (if n.minus then ['-'] else []) ++
    (n.whole.chars ++ (fractionChars n.fraction ++ exponentChars n.exponent))

/-- The numeral in its parts. -/
def numeral (n : NumeralText) : Numeral where
  minus := n.minus
  whole := n.whole.chars
  fraction := n.fraction.map DigitRun.chars
  exponent := n.exponent.map ExponentText.value

end NumeralText

namespace Numeral

variable {rest : List Char}

/-- No exponent follows. -/
theorem scanExponent?_delimited (n : Numeral) (hrest : Delimited rest) :
    scanExponent? n rest = .numeral n rest := by
  cases rest with
  | nil => rfl
  | cons c cs =>
    obtain ⟨-, -, he, hE⟩ := hrest c rfl
    simp [scanExponent?, he, hE]

/-- An exponent is scanned behind its letter. -/
theorem scanExponent_chars (n : Numeral) (e : ExponentText) (hrest : Delimited rest) :
    scanExponent n (ExponentText.signChars e.sign ++ (e.digits.chars ++ rest)) =
      .numeral { n with exponent := some e.value } rest := by
  obtain ⟨hdigits, hafter⟩ := e.digits.taken fun c hc => (hrest c hc).1
  have hsignless : ∀ c, RadioData.Numeral.isDigit c = false →
      ∀ cs, e.digits.chars ++ rest ≠ c :: cs := by
    obtain ⟨d, ds, hds, hd⟩ := e.digits.exists_cons
    intro c hc cs hcs
    rw [hds, List.cons_append] at hcs
    rw [(List.cons_eq_cons.1 hcs).1, hc] at hd
    cases hd
  rw [ExponentText.value]
  cases e.sign with
  | none =>
    rw [ExponentText.signChars, List.nil_append, scanExponent, hdigits, hafter]
    · split
      · next hnil => exact absurd hnil e.digits.ne_nil
      · rfl
    · exact hsignless '+' rfl
    · exact hsignless '-' rfl
  | some minus =>
    cases minus
    all_goals
      rw [ExponentText.signChars, List.singleton_append, scanExponent, hdigits, hafter]
      split
      · next hnil => exact absurd hnil e.digits.ne_nil
      · rfl

open NumeralText (fractionChars exponentChars)

/-- Where a fraction might stand, there is neither another digit nor a point. -/
theorem head_exponentChars (e : Option ExponentText) (hrest : Delimited rest) {c : Char}
    (hc : (exponentChars e ++ rest).head? = some c) :
    RadioData.Numeral.isDigit c = false ∧ c ≠ '.' := by
  cases e with
  | none => exact ⟨(hrest c hc).1, (hrest c hc).2.1⟩
  | some e =>
    obtain rfl : (if e.capital then 'E' else 'e') = c := Option.some.inj hc
    cases e.capital <;> decide

/-- The exponent is scanned, if there is one. -/
theorem scanExponent?_chars (n : Numeral) (e : Option ExponentText) (hrest : Delimited rest)
    (hn : n.exponent = none) : scanExponent? n (exponentChars e ++ rest) =
      .numeral { n with exponent := e.map ExponentText.value } rest := by
  cases e with
  | none =>
    rw [Option.map_none, ← hn]
    exact scanExponent?_delimited n hrest
  | some e =>
    have hscan := scanExponent_chars n e hrest
    rw [← List.append_assoc] at hscan
    rw [exponentChars, ExponentText.chars, List.cons_append]
    cases e.capital with
    | true => exact hscan
    | false => exact hscan

/-- The fraction and the exponent are scanned, if they are there. -/
theorem scanFraction?_chars (n : Numeral) (f : Option DigitRun) (e : Option ExponentText)
    (hrest : Delimited rest) (hf : n.fraction = none) (he : n.exponent = none) :
    scanFraction? n (fractionChars f ++ (exponentChars e ++ rest)) =
      .numeral { n with
        fraction := f.map DigitRun.chars, exponent := e.map ExponentText.value } rest := by
  have hhead {c : Char} := head_exponentChars (c := c) e hrest
  cases f with
  | none =>
    rw [fractionChars, List.nil_append, scanFraction?, Option.map_none, ← hf]
    · exact scanExponent?_chars n e hrest he
    · intro cs hcs
      exact (hhead (by rw [hcs]; rfl)).2 rfl
  | some ds =>
    obtain ⟨hdigits, hafter⟩ := ds.taken fun c hc => (hhead hc).1
    rw [fractionChars, List.cons_append, scanFraction?, hdigits, hafter]
    split
    · next hnil => exact absurd hnil ds.ne_nil
    · exact scanExponent?_chars { n with fraction := some ds.chars } e hrest he

/-- **A numeral is scanned as it is written.** -/
theorem scan_chars (n : NumeralText) (hrest : Delimited rest) :
    scan (n.chars ++ rest) = .numeral n.numeral rest := by
  have hhead : ∀ c, (fractionChars n.fraction ++ (exponentChars n.exponent ++ rest)).head? =
      some c → RadioData.Numeral.isDigit c = false := by
    intro c hc
    rcases hf : n.fraction with _ | ds
    · rw [hf] at hc
      exact (head_exponentChars n.exponent hrest hc).1
    · rw [hf] at hc
      obtain rfl : '.' = c := Option.some.inj hc
      rfl
  obtain ⟨hdigits, hafter⟩ := n.whole.taken hhead
  have hsignless : ∀ cs, n.whole.chars ++
      (fractionChars n.fraction ++ (exponentChars n.exponent ++ rest)) ≠ '-' :: cs := by
    obtain ⟨d, ds, hds, hd⟩ := n.whole.exists_cons
    intro cs hcs
    rw [hds, List.cons_append] at hcs
    rw [(List.cons_eq_cons.1 hcs).1] at hd
    cases hd
  have hfraction := scanFraction?_chars { minus := n.minus, whole := n.whole.chars } n.fraction
    n.exponent hrest rfl rfl
  rw [NumeralText.chars, NumeralText.numeral]
  simp only [List.append_assoc]
  cases hminus : n.minus with
  | true =>
    rw [hminus] at hfraction
    rw [if_pos rfl, List.singleton_append, scan, hdigits, hafter]
    split
    · next hnil => exact absurd hnil n.whole.ne_nil
    · next hzero => exact absurd hzero (n.noZeros _ _)
    · exact hfraction
  | false =>
    rw [hminus] at hfraction
    rw [if_neg Bool.false_ne_true, List.nil_append, scan, hdigits, hafter]
    · split
      · next hnil => exact absurd hnil n.whole.ne_nil
      · next hzero => exact absurd hzero (n.noZeros _ _)
      · exact hfraction
    · exact hsignless

end Numeral

/-! ## Strings -/

/-- A hexadecimal digit of either case. -/
structure HexDigit where
  value : Fin 16
  capital : Bool

/-- The character of a hexadecimal digit. -/
def HexDigit.char (d : HexDigit) : Char :=
  if d.capital then Text.upperHexDigit d.value else Text.lowerHexDigit d.value

theorem HexDigit.hexValue?_char (d : HexDigit) : Text.hexValue? d.char = some d.value.val := by
  obtain ⟨value, capital⟩ := d
  decide +revert

/-- The letters behind a backslash and what they stand for. -/
def escapes : List (Char × Char) :=
  [('"', '"'), ('\\', '\\'), ('/', '/'), ('b', Char.ofNat 8), ('f', Char.ofNat 12), ('n', '\n'),
    ('r', '\r'), ('t', '\t')]

/-- A character in a string, or half of one. -/
inductive PieceText where
  /-- A character that needs no escape. -/
  | plain (c : Char) (h : c ≠ '"' ∧ c ≠ '\\' ∧ 32 ≤ c.toNat)
  /-- A letter behind a backslash. -/
  | escape (letter c : Char) (h : (letter, c) ∈ escapes)
  /-- A 16-bit unit, given by its four digits. -/
  | unit (d₁ d₂ d₃ d₄ : HexDigit)

namespace PieceText

/-- The characters of a piece. -/
def chars : PieceText → List Char
  | .plain c _ => [c]
  | .escape letter _ _ => ['\\', letter]
  | .unit d₁ d₂ d₃ d₄ => ['\\', 'u', d₁.char, d₂.char, d₃.char, d₄.char]

/-- What a piece stands for. -/
def piece : PieceText → QuotedPiece
  | .plain c _ | .escape _ c _ => .char c
  | .unit d₁ d₂ d₃ d₄ =>
    .unit (((d₁.value.val * 16 + d₂.value.val) * 16 + d₃.value.val) * 16 + d₄.value.val)

end PieceText

/-- The string that is made up of pieces. -/
def quotedOf (ps : List PieceText) : Quoted := ⟨ps.map PieceText.piece, .closed⟩

namespace Quoted

theorem unit?_chars (d₁ d₂ d₃ d₄ : HexDigit) : unit? d₁.char d₂.char d₃.char d₄.char =
    some (((d₁.value.val * 16 + d₂.value.val) * 16 + d₃.value.val) * 16 + d₄.value.val) := by
  simp only [unit?, HexDigit.hexValue?_char]
  rfl

/-- A piece is scanned as it is written. -/
theorem scan_piece (p : PieceText) (cs : List Char) :
    scan (p.chars ++ cs) = cons p.piece (scan cs) := by
  cases p with
  | plain c h =>
    obtain ⟨hquote, hbackslash, hcontrol⟩ := h
    rw [PieceText.chars, List.singleton_append, scan, if_neg (Nat.not_lt.2 hcontrol)]
    · rfl
    -- the earlier patterns begin with a quote or a backslash
    all_goals simp [hquote, hbackslash]
  | escape letter c h =>
    simp only [escapes, List.mem_cons, Prod.mk.injEq, List.not_mem_nil, or_false] at h
    rcases h with ⟨rfl, rfl⟩ | ⟨rfl, rfl⟩ | ⟨rfl, rfl⟩ | ⟨rfl, rfl⟩ | ⟨rfl, rfl⟩ | ⟨rfl, rfl⟩ |
      ⟨rfl, rfl⟩ | ⟨rfl, rfl⟩ <;> rfl
  | unit d₁ d₂ d₃ d₄ =>
    simp only [PieceText.chars, List.cons_append, List.nil_append]
    rw [scan, unit?_chars]
    rfl

/-- **A string is scanned as it is written**, up to its closing quote. -/
theorem scan_pieces (ps : List PieceText) (rest : List Char) :
    scan (ps.flatMap PieceText.chars ++ '"' :: rest) = (quotedOf ps, some rest) := by
  induction ps with
  | nil => rfl
  | cons p ps ih =>
    rw [List.flatMap_cons, List.append_assoc, scan_piece, ih]
    rfl

end Quoted

/-! ## Values -/

/-- Something with blanks around it. -/
structure Spaced (α : Type) where
  before : Blanks
  content : α
  after : Blanks

/-- What a value can look like in a text. -/
inductive Written where
  | null
  | boolean (b : Bool)
  | number (n : NumeralText)
  | string (s : List PieceText)
  /-- The blanks stand before the closing bracket. -/
  | array (items : List (Spaced Written)) (last : Blanks)
  /-- Each member has a key and a value; the blanks stand before the closing brace. -/
  | object (members : List (Spaced (List PieceText) × Spaced Written)) (last : Blanks)

/-- The characters of a string, with its quotes. -/
def quotedChars (s : List PieceText) : List Char := '"' :: s.flatMap PieceText.chars ++ ['"']

/-- What stands in front of an item or a member. -/
def comma (first : Bool) : List Char := if first then [] else [',']

namespace Written

mutual

/-- The characters of a value. -/
def chars : Written → List Char
  | .null => "null".toList
  | .boolean true => "true".toList
  | .boolean false => "false".toList
  | .number n => n.chars
  | .string s => quotedChars s
  | .array items last => '[' :: itemChars true items ++ last.chars ++ [']']
  | .object members last => '\x7b' :: memberChars true members ++ last.chars ++ ['\x7d']

/-- The characters of items; `first` says that there is none before them. -/
def itemChars (first : Bool) : List (Spaced Written) → List Char
  | [] => []
  | ⟨before, w, after⟩ :: items =>
    comma first ++ before.chars ++ chars w ++ after.chars ++ itemChars false items

/-- The characters of members; `first` says that there is none before them. -/
def memberChars (first : Bool) : List (Spaced (List PieceText) × Spaced Written) → List Char
  | [] => []
  | (key, ⟨before, w, after⟩) :: members =>
    comma first ++ key.before.chars ++ quotedChars key.content ++ key.after.chars ++ ':' ::
      before.chars ++ chars w ++ after.chars ++ memberChars false members

end

mutual

/-- What stands in the text. -/
def document : Written → Document
  | .null => .null
  | .boolean b => .boolean b
  | .number n => .number n.numeral.number?
  | .string s => .string (quotedOf s)
  | .array items _ => .array (itemDocuments items) .closed
  | .object members _ => .object (memberDocuments members) .closed

/-- What the items are. -/
def itemDocuments : List (Spaced Written) → List Document
  | [] => []
  | ⟨_, w, _⟩ :: items => document w :: itemDocuments items

/-- What the members are. -/
def memberDocuments :
    List (Spaced (List PieceText) × Spaced Written) → List (Quoted × Document)
  | [] => []
  | (key, ⟨_, w, _⟩) :: members => (quotedOf key.content, document w) :: memberDocuments members

end

mutual

/-- **Nothing is wrong with what is written**, for one who passes over it. -/
theorem skip_document : (w : Written) → w.document.skip = none
  | .null | .boolean _ | .number _ | .string _ => rfl
  | .array items _ => skip_itemDocuments items
  | .object members _ => skip_memberDocuments members

theorem skip_itemDocuments : (items : List (Spaced Written)) →
    Document.skipItems .closed (itemDocuments items) = none
  | [] => rfl
  | ⟨_, w, _⟩ :: items => by
    rw [itemDocuments, Document.skipItems, skip_document w]
    exact skip_itemDocuments items

theorem skip_memberDocuments : (members : List (Spaced (List PieceText) × Spaced Written)) →
    Document.skipMembers .closed (memberDocuments members) = none
  | [] => rfl
  | (key, ⟨_, w, _⟩) :: members => by
    rw [memberDocuments, Document.skipMembers, skip_document w]
    exact skip_memberDocuments members

end

end Written

/-! ## Reading -/

namespace Document

theorem skipBlanks_of_not {c : Char} (hc : isBlank c = false) (cs : List Char) :
    skipBlanks (c :: cs) = c :: cs := by
  simp [skipBlanks, hc]

theorem skipBlanks_blanks (b : Blanks) (cs : List Char) :
    skipBlanks (b.chars ++ cs) = skipBlanks cs :=
  List.dropWhile_append_of_pos b.blank

/-- Blanks in front of a value are passed over. -/
theorem scan_blanks (fuel : Nat) (b : Blanks) (cs : List Char) :
    scan fuel (b.chars ++ cs) = scan fuel cs := by
  cases fuel with
  | zero => rfl
  | succ fuel => rw [scan, scan, skipBlanks_blanks]

theorem scanItems_blanks (fuel : Nat) (first : Bool) (b : Blanks) (cs : List Char) :
    scanItems fuel first (b.chars ++ cs) = scanItems fuel first cs := by
  cases fuel with
  | zero => rfl
  | succ fuel => rw [scanItems, scanItems, skipBlanks_blanks]

theorem scanMembers_blanks (fuel : Nat) (first : Bool) (b : Blanks) (cs : List Char) :
    scanMembers fuel first (b.chars ++ cs) = scanMembers fuel first cs := by
  cases fuel with
  | zero => rfl
  | succ fuel => rw [scanMembers, scanMembers, skipBlanks_blanks]

theorem ne_of_startsNumeral {c d : Char} (hc : startsNumeral c = true)
    (hd : startsNumeral d = false) : c ≠ d := by
  rintro rfl
  rw [hd] at hc
  cases hc

theorem isBlank_of_startsNumeral {c : Char} (hc : startsNumeral c = true) :
    isBlank c = false := by
  have hne {d : Char} := ne_of_startsNumeral (d := d) hc
  simp only [isBlank, Bool.or_eq_false_iff, beq_eq_false_iff_ne]
  exact ⟨⟨⟨hne rfl, hne rfl⟩, hne rfl⟩, hne rfl⟩

/-- What starts like a numeral is read as one. -/
theorem scan_startsNumeral {c : Char} (hc : startsNumeral c = true) (fuel : Nat)
    (cs : List Char) : scan (fuel + 1) (c :: cs) = numeral (c :: cs) := by
  have hne {d : Char} := ne_of_startsNumeral (d := d) hc
  rw [scan, skipBlanks_of_not (isBlank_of_startsNumeral hc)]
  split
  · next h => cases h
  · next h => exact absurd (List.cons_eq_cons.1 h).1 (hne rfl)
  · next h => exact absurd (List.cons_eq_cons.1 h).1 (hne rfl)
  · next h => exact absurd (List.cons_eq_cons.1 h).1 (hne rfl)
  · next h => exact absurd (List.cons_eq_cons.1 h).1 (hne rfl)
  · next h => exact absurd (List.cons_eq_cons.1 h).1 (hne rfl)
  · next h => exact absurd (List.cons_eq_cons.1 h).1 (hne rfl)
  · next h =>
    obtain ⟨rfl, rfl⟩ := List.cons_eq_cons.1 h
    rw [if_pos hc]

theorem scan_bracket (fuel : Nat) (cs : List Char) : scan (fuel + 1) ('[' :: cs) =
    (.array (scanItems fuel true cs).1 (scanItems fuel true cs).2.1,
      (scanItems fuel true cs).2.2) := by
  rw [scan, skipBlanks_of_not rfl]
  rfl

theorem scan_brace (fuel : Nat) (cs : List Char) : scan (fuel + 1) ('\x7b' :: cs) =
    (.object (scanMembers fuel true cs).1 (scanMembers fuel true cs).2.1,
      (scanMembers fuel true cs).2.2) := by
  rw [scan, skipBlanks_of_not rfl]
  rfl

theorem startsNumeral_chars (n : NumeralText) :
    ∃ c cs, n.chars = c :: cs ∧ startsNumeral c = true := by
  rw [NumeralText.chars]
  cases n.minus with
  | true => exact ⟨'-', _, rfl, rfl⟩
  | false =>
    obtain ⟨d, ds, hds, hd⟩ := n.whole.exists_cons
    refine ⟨d, ds ++ _, by rw [hds]; rfl, ?_⟩
    rw [startsNumeral, hd, Bool.or_true]

/-- A value begins with a character that is neither a blank nor the end of an array. -/
theorem chars_eq_cons (w : Written) :
    ∃ c cs, w.chars = c :: cs ∧ isBlank c = false ∧ c ≠ ']' := by
  cases w with
  | null => exact ⟨'n', _, rfl, rfl, by decide⟩
  | boolean b =>
    cases b with
    | true => exact ⟨'t', _, rfl, rfl, by decide⟩
    | false => exact ⟨'f', _, rfl, rfl, by decide⟩
  | number n =>
    obtain ⟨c, cs, hcs, hc⟩ := startsNumeral_chars n
    exact ⟨c, cs, hcs, isBlank_of_startsNumeral hc, ne_of_startsNumeral hc rfl⟩
  | string s => exact ⟨'"', _, rfl, rfl, by decide⟩
  | array items last =>
    cases items with
    | nil => exact ⟨'[', _, rfl, rfl, by decide⟩
    | cons x items => exact ⟨'[', _, rfl, rfl, by decide⟩
  | object members last =>
    cases members with
    | nil => exact ⟨'\x7b', _, rfl, rfl, by decide⟩
    | cons m members => exact ⟨'\x7b', _, rfl, rfl, by decide⟩

theorem length_chars_pos (w : Written) : 0 < w.chars.length := by
  obtain ⟨c, cs, hcs, -, -⟩ := chars_eq_cons w
  rw [hcs]
  exact Nat.succ_pos _

/-- An item is read from its first character on, behind its comma if it is not the first. -/
theorem scanItems_item (first : Bool) (b : Blanks) (w : Written) (fuel : Nat)
    (more : List Char) :
    scanItems (fuel + 1) first (comma first ++ (b.chars ++ (w.chars ++ more))) =
      scanItem fuel (w.chars ++ more) := by
  obtain ⟨c, cs, hcs, hblank, hend⟩ := chars_eq_cons w
  have hskip : skipBlanks (b.chars ++ (w.chars ++ more)) = w.chars ++ more := by
    rw [skipBlanks_blanks, hcs, List.cons_append, skipBlanks_of_not hblank]
  cases first with
  | true =>
    rw [comma, if_pos rfl, List.nil_append, scanItems, hskip, hcs]
    split
    · next h => cases h
    · next h => exact absurd (List.cons_eq_cons.1 h).1 hend
    · next h =>
      obtain ⟨rfl, rfl⟩ := List.cons_eq_cons.1 h
      rfl
  | false =>
    rw [comma, if_neg Bool.false_ne_true, List.singleton_append, scanItems, skipBlanks_of_not rfl]
    split
    · next h => cases h
    · next h => exact absurd (List.cons_eq_cons.1 h).1 (by decide)
    · next h =>
      obtain ⟨rfl, rfl⟩ := List.cons_eq_cons.1 h
      rw [if_neg Bool.false_ne_true, if_pos rfl, hskip, hcs]
      split
      · next h => exact absurd (List.cons_eq_cons.1 h).1 hend
      · rfl

/-- An item is read, and then those after it. -/
theorem scanItem_eq {fuel : Nat} {cs rest : List Char} {d : Document} {ds : List Document}
    {ending : ArrayEnd} {last : Option (List Char)} (hd : scan fuel cs = (d, some rest))
    (hds : scanItems fuel false rest = (ds, ending, last)) :
    scanItem (fuel + 1) cs = (d :: ds, ending, last) := by
  rw [scanItem, hd]
  dsimp only
  rw [hds]

/-- A member is read from its opening quote on, behind its comma if it is not the first. -/
theorem scanMembers_member (first : Bool) (b : Blanks) (fuel : Nat) (cs : List Char) :
    scanMembers (fuel + 1) first (comma first ++ (b.chars ++ '"' :: cs)) = scanMember fuel cs := by
  have hskip : skipBlanks (b.chars ++ '"' :: cs) = '"' :: cs := by
    rw [skipBlanks_blanks]
    rfl
  cases first with
  | true =>
    rw [comma, if_pos rfl, List.nil_append, scanMembers, hskip]
    rfl
  | false =>
    rw [comma, if_neg Bool.false_ne_true, List.singleton_append, scanMembers, skipBlanks_of_not rfl]
    simp [hskip]

/-- A member is read, and then those after it. -/
theorem scanMember_eq {fuel : Nat} {cs more rest : List Char} {key : Quoted} {b : Blanks}
    {d : Document} {ds : List (Quoted × Document)} {ending : ObjectEnd}
    {last : Option (List Char)} (hkey : Quoted.scan cs = (key, some (b.chars ++ ':' :: more)))
    (hd : scan fuel more = (d, some rest))
    (hds : scanMembers fuel false rest = (ds, ending, last)) :
    scanMember (fuel + 1) cs = ((key, d) :: ds, ending, last) := by
  have hskip : skipBlanks (b.chars ++ ':' :: more) = ':' :: more := by
    rw [skipBlanks_blanks]
    rfl
  simp [scanMember, hkey, hskip, hd, hds]

theorem delimited_cons {c : Char} (cs : List Char)
    (hc : RadioData.Numeral.isDigit c = false ∧ c ≠ '.' ∧ c ≠ 'e' ∧ c ≠ 'E') :
    Delimited (c :: cs) := by
  rintro d ⟨⟩
  exact hc

/-- A numeral does not go on with a blank. -/
theorem delimited_blanks (b : Blanks) {cs : List Char} (hcs : Delimited cs) :
    Delimited (b.chars ++ cs) := by
  cases hb : b.chars with
  | nil => exact hcs
  | cons c further =>
    have hc : isBlank c = true := b.blank c (hb ▸ List.mem_cons_self)
    simp only [isBlank, Bool.or_eq_true, beq_iff_eq] at hc
    refine delimited_cons _ ?_
    rcases hc with ((rfl | rfl) | rfl) | rfl <;> decide

open Written

/-- Nor does it with what stands behind an item. -/
theorem delimited_behind_item (after : Blanks) (items : List (Spaced Written)) (last : Blanks)
    (rest : List Char) :
    Delimited (after.chars ++ (itemChars false items ++ (last.chars ++ ']' :: rest))) := by
  refine delimited_blanks after ?_
  cases items with
  | nil => exact delimited_blanks last (delimited_cons rest (by decide))
  | cons x items => exact delimited_cons _ (c := ',') (by decide)

/-- Nor with what stands behind a member. -/
theorem delimited_behind_member (after : Blanks)
    (members : List (Spaced (List PieceText) × Spaced Written)) (last : Blanks)
    (rest : List Char) :
    Delimited (after.chars ++ (memberChars false members ++ (last.chars ++ '\x7d' :: rest))) := by
  refine delimited_blanks after ?_
  cases members with
  | nil => exact delimited_blanks last (delimited_cons rest (by decide))
  | cons m members => exact delimited_cons _ (c := ',') (by decide)

theorem scan_quotedChars (s : List PieceText) (rest : List Char) :
    ∃ cs, quotedChars s ++ rest = '"' :: cs ∧ Quoted.scan cs = (quotedOf s, some rest) := by
  refine ⟨s.flatMap PieceText.chars ++ '"' :: rest, ?_, Quoted.scan_pieces s rest⟩
  simp [quotedChars]

mutual

/-- **A value is read as it is written**, if there are steps enough for its text. -/
theorem scan_written (w : Written) {rest : List Char} (hrest : Delimited rest) (fuel : Nat)
    (hfuel : 2 * w.chars.length ≤ fuel) :
    scan fuel (w.chars ++ rest) = (w.document, some rest) := by
  have hpos := length_chars_pos w
  obtain ⟨fuel, rfl⟩ : ∃ n, fuel = n + 1 := Nat.exists_eq_add_one.2 (by omega)
  match w with
  | .null => rfl
  | .boolean true => rfl
  | .boolean false => rfl
  | .number n =>
    obtain ⟨c, cs, hcs, hc⟩ := startsNumeral_chars n
    have hscan := Numeral.scan_chars n hrest
    rw [chars]
    rw [hcs, List.cons_append] at hscan ⊢
    rw [scan_startsNumeral hc, numeral, hscan]
    rfl
  | .string s =>
    obtain ⟨cs, hcs, hscan⟩ := scan_quotedChars s rest
    rw [chars, hcs, scan, skipBlanks_of_not rfl]
    simp [hscan, document]
  | .array items last =>
    have hitems := scanItems_written true items last rest fuel (by simp [chars] at hfuel ⊢; omega)
    simp only [chars, List.cons_append, List.append_assoc, List.nil_append]
    rw [scan_bracket, hitems, document]
  | .object members last =>
    have hmembers := scanMembers_written true members last rest fuel
      (by simp [chars] at hfuel ⊢; omega)
    simp only [chars, List.cons_append, List.append_assoc, List.nil_append]
    rw [scan_brace, hmembers, document]

/-- Items are read up to the end of their array. -/
theorem scanItems_written (first : Bool) (items : List (Spaced Written)) (last : Blanks)
    (rest : List Char) (fuel : Nat)
    (hfuel : 2 * (itemChars first items ++ last.chars ++ [']']).length ≤ fuel) :
    scanItems fuel first (itemChars first items ++ (last.chars ++ ']' :: rest)) =
      (itemDocuments items, .closed, some rest) := by
  simp only [List.length_append, List.length_singleton] at hfuel
  match items with
  | [] =>
    obtain ⟨fuel, rfl⟩ : ∃ n, fuel = n + 1 := Nat.exists_eq_add_one.2 (by omega)
    rw [itemChars, List.nil_append, scanItems_blanks]
    rfl
  | ⟨before, w, after⟩ :: items =>
    have hpos := length_chars_pos w
    simp only [itemChars, List.append_assoc, List.length_append] at hfuel ⊢
    obtain ⟨fuel, rfl⟩ : ∃ n, fuel = n + 1 + 1 := ⟨fuel - 2, by omega⟩
    have hmore := scanItems_written false items last rest fuel (by simp; omega)
    rw [scanItems_item]
    exact scanItem_eq
      (scan_written w (delimited_behind_item after items last rest) fuel (by omega))
      ((scanItems_blanks fuel false after _).trans hmore)

/-- Members are read up to the end of their object. -/
theorem scanMembers_written (first : Bool)
    (members : List (Spaced (List PieceText) × Spaced Written)) (last : Blanks)
    (rest : List Char) (fuel : Nat)
    (hfuel : 2 * (memberChars first members ++ last.chars ++ ['\x7d']).length ≤ fuel) :
    scanMembers fuel first (memberChars first members ++ (last.chars ++ '\x7d' :: rest)) =
      (memberDocuments members, .closed, some rest) := by
  simp only [List.length_append, List.length_singleton] at hfuel
  match members with
  | [] =>
    obtain ⟨fuel, rfl⟩ : ∃ n, fuel = n + 1 := Nat.exists_eq_add_one.2 (by omega)
    rw [memberChars, List.nil_append, scanMembers_blanks]
    rfl
  | (key, ⟨before, w, after⟩) :: members =>
    have hpos := length_chars_pos w
    simp only [memberChars, List.append_assoc, List.cons_append, List.length_append,
      List.length_cons] at hfuel ⊢
    obtain ⟨fuel, rfl⟩ : ∃ n, fuel = n + 1 + 1 := ⟨fuel - 2, by omega⟩
    have hmore := scanMembers_written false members last rest fuel (by simp; omega)
    obtain ⟨cs, hcs, hkey⟩ := scan_quotedChars key.content (key.after.chars ++ ':' ::
      (before.chars ++ (w.chars ++ (after.chars ++ (memberChars false members ++
        (last.chars ++ '\x7d' :: rest))))))
    have hvalue := scan_written w (delimited_behind_member after members last rest) fuel (by omega)
    rw [hcs, scanMembers_member]
    exact scanMember_eq hkey ((scan_blanks fuel before _).trans hvalue)
      ((scanMembers_blanks fuel false after _).trans hmore)

end

/-- **Every JSON text is read as what is written in it**, with blanks before and behind it. -/
theorem ofText_written (before : Blanks) (w : Written) (after : Blanks) :
    ofText (String.ofList (before.chars ++ w.chars ++ after.chars)) =
      (w.document, some after.chars) := by
  have hend : Delimited (after.chars ++ []) := delimited_blanks after (by rintro c ⟨⟩)
  rw [List.append_nil] at hend
  rw [ofText, String.toList_ofList, List.append_assoc, scan_blanks]
  exact scan_written w hend _ (by simp; omega)

/-- Nothing is wrong with blanks behind a value. -/
theorem trailing_blanks (b : Blanks) : trailing (some b.chars) = none := by
  have hskip := skipBlanks_blanks b []
  rw [List.append_nil] at hskip
  rw [trailing, hskip]
  rfl

end Document

end RadioData.Json
