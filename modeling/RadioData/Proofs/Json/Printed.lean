import RadioData.Json.Printer
import RadioData.Proofs.Json.Written
import RadioData.Proofs.Text.Numeral
/-!
# Printed values are read back

What a reader finds in a printed value is that value. `Value.printed` is the document: the same
tree, in which each string stands as it was written, with its escapes, and each array and object is
closed. A printed text is one of the texts that a value can be written as (`Value.written`), so it
is read as what is written in it; what is left to say is that this is the value, for numbers
(`number?_written`), for strings (`quotedOf_ofText`) and then for all values (`document_written`).
Numbers have to be integers that fit in 64 bits (`Number.Exact`), since others are printed as what a
double makes of them.
-/

namespace RadioData.Json

/-! ## Numbers -/

/-- An integer that a numeral can stand for. -/
def Number.Exact : Number → Prop
  | .natural n => n < UInt64.size
  | .negative n => 0 < n ∧ n ≤ UInt64.size / 2
  | .double _ => False

/-- The digits of a number. -/
def DigitRun.ofNat (n : Nat) : DigitRun where
  chars := Nat.toDigits 10 n
  digit _ hc := Text.isDigit_of_mem_toDigits hc
  ne_nil := Nat.toDigits_ne_nil

/-- How an integer is printed. -/
def NumeralText.ofNat (minus : Bool) (n : Nat) : NumeralText where
  minus := minus
  whole := .ofNat n
  noZeros := Text.toDigits_ne_zero_cons (by decide) n

/-- How a number is printed. -/
def Number.written : (n : Number) → n.Exact → NumeralText
  | .natural n, _ => .ofNat false n
  | .negative n, _ => .ofNat true n
  | .double _, h => h.elim

/-- A number is spelled as it is printed. -/
theorem Number.chars_written {n : Number} (hn : n.Exact) :
    (n.written hn).chars = n.text.toList := by
  have hchars (minus : Bool) (m : Nat) : (NumeralText.ofNat minus m).chars =
      (if minus then ['-'] else []) ++ Nat.toDigits 10 m :=
    congrArg (_ ++ ·) (List.append_nil _)
  cases n with
  | natural m =>
    rw [Number.text, Text.toList_toString]
    exact hchars false m
  | negative m =>
    rw [Number.text, String.toList_append, Text.toList_toString]
    exact hchars true m
  | double f => exact hn.elim

namespace Numeral

/-- Digits that do not make up too large a number are collected to the last one. -/
theorem collect_of_le {n : Nat} {ds : List Char} (h : Nat.ofDigitChars 10 ds n ≤ largest) :
    collect n ds = (Nat.ofDigitChars 10 ds n, 0) := by
  induction ds generalizing n with
  | nil => simp [collect]
  | cons d ds ih =>
    rw [Nat.ofDigitChars_cons] at h ⊢
    have hle : 10 * n + (d.toNat - '0'.toNat) ≤ largest := by
      refine Nat.le_trans ?_ h
      rw [Nat.ofDigitChars_eq_ofDigitChars_zero]
      exact Nat.le_trans (Nat.le_mul_of_pos_left _ (Nat.pow_pos (by decide))) (Nat.le_add_right _ _)
    exact (if_pos hle).trans (ih h)

/-- An integer that fits is the value of its digits. -/
theorem number?_toDigits {minus : Bool} {n : Nat}
    (hn : (if minus then Number.negative n else Number.natural n).Exact) :
    number? { minus, whole := Nat.toDigits 10 n } =
      some (if minus then .negative n else .natural n) := by
  have hle : n ≤ largest := by
    have hlargest : largest = UInt64.size - 1 := rfl
    cases minus <;> simp only [Number.Exact] at hn <;> simp at hn <;> omega
  have hcollect : collect 0 (Nat.toDigits 10 n) = (n, 0) := by
    rw [collect_of_le (by rwa [Nat.ofDigitChars_ten_toDigits]), Nat.ofDigitChars_ten_toDigits]
  rw [number?, hcollect]
  cases minus with
  | false => rfl
  | true =>
    have hn : 0 < n ∧ n ≤ UInt64.size / 2 := hn
    simp [hn]

end Numeral

/-- **A printed number has the value that it was printed for.** -/
theorem Number.number?_written {n : Number} (hn : n.Exact) :
    (n.written hn).numeral.number? = some n := by
  cases n with
  | natural m => exact @Numeral.number?_toDigits false m hn
  | negative m => exact @Numeral.number?_toDigits true m hn
  | double f => exact hn.elim

/-! ## Strings -/

/-- How a character is printed. -/
def PieceText.ofChar (c : Char) : PieceText :=
  if hquote : c = '"' then .escape '"' c (by rw [hquote]; decide)
  else if hbackslash : c = '\\' then .escape '\\' c (by rw [hbackslash]; decide)
  else if c = '\n' then .escape 'n' '\n' (by decide)
  else if c = '\r' then .escape 'r' '\r' (by decide)
  else if c = '\t' then .escape 't' '\t' (by decide)
  else if c.toNat = 8 then .escape 'b' (Char.ofNat 8) (by decide)
  else if c.toNat = 12 then .escape 'f' (Char.ofNat 12) (by decide)
  else if hcontrol : c.toNat < 32 then
    .unit ⟨0, false⟩ ⟨0, false⟩ ⟨⟨c.toNat / 16, by omega⟩, false⟩ ⟨⟨c.toNat % 16, by omega⟩, false⟩
  else .plain c ⟨hquote, hbackslash, Nat.le_of_not_lt hcontrol⟩

namespace Quoted

/-- The codes of the control characters that are printed by a letter. -/
def lettered : List Nat := [8, 9, 10, 12, 13]

/-- How a character stands in a printed string: other control characters as their unit. -/
def printedPiece (c : Char) : QuotedPiece :=
  if c.toNat < 32 ∧ c.toNat ∉ lettered then .unit c.toNat else .char c

/-- A text as it stands in a printed string. -/
def printed (s : String) : Quoted := ⟨s.toList.map printedPiece, .closed⟩

/-- A character is printed as what it is read as. -/
theorem printed_ofChar (c : Char) :
    (PieceText.ofChar c).chars = escapeChar c ∧ (PieceText.ofChar c).piece = printedPiece c := by
  have hcode {n : Nat} (h : c.toNat = n) : c = Char.ofNat n := by rw [← h, Char.ofNat_toNat]
  by_cases h1 : c = '"'
  · subst h1; exact ⟨rfl, rfl⟩
  by_cases h2 : c = '\\'
  · subst h2; exact ⟨rfl, rfl⟩
  by_cases h3 : c = '\n'
  · subst h3; exact ⟨rfl, rfl⟩
  by_cases h4 : c = '\r'
  · subst h4; exact ⟨rfl, rfl⟩
  by_cases h5 : c = '\t'
  · subst h5; exact ⟨rfl, rfl⟩
  by_cases h6 : c.toNat = 8
  · obtain rfl := hcode h6; exact ⟨rfl, rfl⟩
  by_cases h7 : c.toNat = 12
  · obtain rfl := hcode h7; exact ⟨rfl, rfl⟩
  rw [PieceText.ofChar, dif_neg h1, dif_neg h2, if_neg h3, if_neg h4, if_neg h5, if_neg h6,
    if_neg h7, escapeChar, if_neg h1, if_neg h2, if_neg h3, if_neg h4, if_neg h5, if_neg h6,
    if_neg h7, printedPiece]
  by_cases h8 : c.toNat < 32
  · have hcontrol : c.toNat < 32 ∧ c.toNat ∉ lettered := by
      refine ⟨h8, ?_⟩
      simp only [lettered, List.mem_cons, List.not_mem_nil, or_false, not_or]
      exact ⟨h6, fun h => h5 (hcode h), fun h => h3 (hcode h), h7, fun h => h4 (hcode h)⟩
    have hunit : ((0 * 16 + 0) * 16 + c.toNat / 16) * 16 + c.toNat % 16 = c.toNat := by omega
    rw [dif_pos h8, if_pos h8, if_pos hcontrol]
    exact ⟨rfl, congrArg QuotedPiece.unit hunit⟩
  · rw [dif_neg h8, if_neg h8, if_neg fun h => h8 h.1]
    exact ⟨rfl, rfl⟩

/-- A printed string has the text that it was printed for. -/
theorem read_printed (s : String) : (printed s).read = .ok s := by
  have htext (cs : List Char) : textOf .closed (cs.map printedPiece) = .ok cs := by
    induction cs with
    | nil => rfl
    | cons c cs ih =>
      rw [List.map_cons, printedPiece]
      split
      · next h =>
        unfold textOf
        rw [if_pos (.inl (by omega)), ih, Char.ofNat_toNat]
        rfl
      · rw [textOf, ih]
        rfl
  rw [read, printed, htext]
  exact congrArg Except.ok (String.ofList_toList (s := s))

end Quoted

/-- How a text is printed. -/
def piecesOf (s : String) : List PieceText := s.toList.map PieceText.ofChar

/-- A text is spelled as it is printed, with its escapes. -/
theorem quotedChars_piecesOf (s : String) : quotedChars (piecesOf s) = stringChars s := by
  rw [quotedChars, piecesOf, stringChars, List.flatMap_map]
  simp only [(Quoted.printed_ofChar _).1]

/-- **A string is printed as what it is read as.** -/
theorem quotedOf_piecesOf (s : String) : quotedOf (piecesOf s) = .printed s := by
  rw [quotedOf, piecesOf, Quoted.printed, List.map_map]
  exact congrArg (Quoted.mk · .closed) (List.map_congr_left fun c _ => (Quoted.printed_ofChar c).2)

/-! ## Documents -/

namespace Value

mutual

/-- A printed value as a document. -/
def printed : Value → Document
  | .null => .null
  | .boolean b => .boolean b
  | .number n => .number (some n)
  | .string s => .string (.printed s)
  | .array items => .array (printedItems items) .closed
  | .object members => .object (printedMembers members) .closed

/-- Printed items as documents. -/
def printedItems : List Value → List Document
  | [] => []
  | v :: vs => printed v :: printedItems vs

/-- Printed members as documents. -/
def printedMembers : List (String × Value) → List (Quoted × Document)
  | [] => []
  | (key, v) :: ms => (.printed key, printed v) :: printedMembers ms

end

mutual

/-- All numbers are integers that numerals can stand for. -/
def Exact : Value → Prop
  | .null | .boolean _ | .string _ => True
  | .number n => n.Exact
  | .array items => ExactItems items
  | .object members => ExactMembers members

/-- The same for all items. -/
def ExactItems : List Value → Prop
  | [] => True
  | v :: vs => Exact v ∧ ExactItems vs

/-- The same for all members. -/
def ExactMembers : List (String × Value) → Prop
  | [] => True
  | (_, v) :: ms => Exact v ∧ ExactMembers ms

end

section

variable {key : String} {v : Value} {vs : List Value} {ms : List (String × Value)}

theorem ExactItems.head (h : ExactItems (v :: vs)) : v.Exact := h.1

theorem ExactItems.tail (h : ExactItems (v :: vs)) : ExactItems vs := h.2

theorem ExactMembers.head (h : ExactMembers ((key, v) :: ms)) : v.Exact := h.1

theorem ExactMembers.tail (h : ExactMembers ((key, v) :: ms)) : ExactMembers ms := h.2

end

/-- The start of a line. -/
def lineStart (level : Nat) : Blanks where
  chars := newline level
  blank c hc := by
    rcases List.mem_cons.1 hc with rfl | hc
    · rfl
    · rw [(List.mem_replicate.1 hc).2]
      rfl

/-- The blank behind a colon. -/
def oneBlank : Blanks := ⟨[' '], List.forall_mem_singleton.2 rfl⟩

mutual

/-- How a value is printed whose first line has been begun. -/
def written (level : Nat) : (v : Value) → v.Exact → Written
  | .null, _ => .null
  | .boolean b, _ => .boolean b
  | .number n, h => .number (n.written h)
  | .string s, _ => .string (piecesOf s)
  | .array items, h =>
    .array (writtenItems (level + 1) items h) (if items.isEmpty then .none else lineStart level)
  | .object members, h =>
    .object (writtenMembers (level + 1) members h)
      (if members.isEmpty then .none else lineStart level)

/-- How items are printed, each on a line of its own. -/
def writtenItems (level : Nat) : (vs : List Value) → ExactItems vs → List (Spaced Written)
  | [], _ => []
  | v :: vs, h => ⟨lineStart level, written level v h.head, .none⟩ :: writtenItems level vs h.tail

/-- How members are printed, each on a line of its own. -/
def writtenMembers (level : Nat) : (ms : List (String × Value)) → ExactMembers ms →
    List (Spaced (List PieceText) × Spaced Written)
  | [], _ => []
  | (key, v) :: ms, h =>
    (⟨lineStart level, piecesOf key, .none⟩, ⟨oneBlank, written level v h.head, .none⟩) ::
      writtenMembers level ms h.tail

end

mutual

/-- The characters are those that are printed. -/
theorem chars_written (level : Nat) : (v : Value) → (hv : v.Exact) →
    (v.written level hv).chars = prettyChars level v
  | .null, _ => rfl
  | .boolean true, _ => rfl
  | .boolean false, _ => rfl
  | .number n, hn => Number.chars_written hn
  | .string s, _ => quotedChars_piecesOf s
  | .array [], _ => rfl
  | .array (v :: vs), ⟨hv, hvs⟩ => by
    simp [written, writtenItems, Written.chars, Written.itemChars, prettyChars, comma, lineStart,
      Blanks.none, chars_written (level + 1) v hv, itemChars_written (level + 1) vs hvs]
  | .object [], _ => rfl
  | .object ((key, v) :: ms), ⟨hv, hms⟩ => by
    simp [written, writtenMembers, Written.chars, Written.memberChars, prettyChars, comma,
      lineStart, oneBlank, Blanks.none, quotedChars_piecesOf, chars_written (level + 1) v hv,
      memberChars_written (level + 1) ms hms]

/-- So are the items that follow another one. -/
theorem itemChars_written (level : Nat) : (vs : List Value) → (hvs : ExactItems vs) →
    Written.itemChars false (writtenItems level vs hvs) = moreItems level vs
  | [], _ => rfl
  | v :: vs, ⟨hv, hvs⟩ => by
    simp [writtenItems, Written.itemChars, moreItems, comma, lineStart, Blanks.none,
      chars_written level v hv, itemChars_written level vs hvs]

/-- So are the members that follow another one. -/
theorem memberChars_written (level : Nat) : (ms : List (String × Value)) →
    (hms : ExactMembers ms) →
    Written.memberChars false (writtenMembers level ms hms) = moreMembers level ms
  | [], _ => rfl
  | (key, v) :: ms, ⟨hv, hms⟩ => by
    simp [writtenMembers, Written.memberChars, moreMembers, comma, lineStart, oneBlank, Blanks.none,
      quotedChars_piecesOf, chars_written level v hv, memberChars_written level ms hms]

end

mutual

/-- **What is printed is the value.** -/
theorem document_written (level : Nat) : (v : Value) → (hv : v.Exact) →
    (v.written level hv).document = v.printed
  | .null, _ | .boolean _, _ => rfl
  | .number _, hn => congrArg Document.number (Number.number?_written hn)
  | .string s, _ => congrArg Document.string (quotedOf_piecesOf s)
  | .array items, h =>
    congrArg (Document.array · .closed) (itemDocuments_written (level + 1) items h)
  | .object members, h =>
    congrArg (Document.object · .closed) (memberDocuments_written (level + 1) members h)

/-- The items of a list stand for those that are printed. -/
theorem itemDocuments_written (level : Nat) : (vs : List Value) → (hvs : ExactItems vs) →
    Written.itemDocuments (writtenItems level vs hvs) = printedItems vs
  | [], _ => rfl
  | v :: vs, ⟨hv, hvs⟩ => by
    simp only [writtenItems, Written.itemDocuments, document_written level v hv,
      itemDocuments_written level vs hvs, printedItems]

/-- The members of an object stand for those that are printed. -/
theorem memberDocuments_written (level : Nat) : (ms : List (String × Value)) →
    (hms : ExactMembers ms) →
    Written.memberDocuments (writtenMembers level ms hms) = printedMembers ms
  | [], _ => rfl
  | (key, v) :: ms, ⟨hv, hms⟩ => by
    simp only [writtenMembers, Written.memberDocuments, document_written level v hv,
      quotedOf_piecesOf, memberDocuments_written level ms hms, printedMembers]

end

end Value

/-- **A printed text is the document of its value**, with nothing behind it. -/
theorem Document.ofText_pretty {v : Value} (hv : v.Exact) :
    ofText v.pretty = (v.printed, some []) := by
  have hread := ofText_written .none (v.written 0 hv) .none
  rw [v.chars_written 0 hv, v.document_written 0 hv, Blanks.none, List.nil_append,
    List.append_nil] at hread
  exact hread

end RadioData.Json
