import RadioData.Json.Fault
import RadioData.Text
/-!
# Strings in JSON

`Quoted.scan` takes a string from the front of a text, up to its closing quote or to the first thing
that no string may hold. Escapes for characters beyond 16 bits come in pairs, and whether each half
has its other half is not looked at before the string is wanted: `Quoted.read` pairs them and gives
the text. A string that is only skipped has to be well-formed otherwise, which is `Quoted.skip`.
-/

namespace RadioData.Json

/-- A character of a string as it is written. -/
inductive QuotedPiece where
  | char (c : Char)
  /-- A 16-bit unit, given by its four digits. -/
  | unit (u : Nat)
  deriving DecidableEq, Repr

/-- Where the scan of a string came to its end. -/
inductive QuotedEnd where
  /-- At the closing quote. -/
  | closed
  /-- At the end of the text. -/
  | unclosed
  /-- At a control character. -/
  | control
  /-- At a backslash before a character that has no meaning there. -/
  | badEscape
  /-- At a unit with something else than four hexadecimal digits. -/
  | badUnit
  deriving DecidableEq, Repr

/-- The fault of an end other than the closing quote. -/
def QuotedEnd.fault? : QuotedEnd → Option Fault
  | .closed => none
  | .unclosed => some .endInString
  | .control => some .controlCharacter
  | .badEscape | .badUnit => some .invalidEscape

/-- A string as it is written. -/
structure Quoted where
  pieces : List QuotedPiece
  ending : QuotedEnd
  deriving DecidableEq, Repr

namespace Quoted

/-- The unit that four characters spell. -/
def unit? (a b c d : Char) : Option Nat := do
  let a ← Text.hexValue? a
  let b ← Text.hexValue? b
  let c ← Text.hexValue? c
  let d ← Text.hexValue? d
  some (((a * 16 + b) * 16 + c) * 16 + d)

/-- The character that a backslash and a letter stand for. -/
def escape? : Char → Option Char
  | '"' => some '"'
  | '\\' => some '\\'
  | '/' => some '/'
  | 'b' => some (Char.ofNat 8)
  | 'f' => some (Char.ofNat 12)
  | 'n' => some '\n'
  | 'r' => some '\r'
  | 't' => some '\t'
  | _ => none

/-- The length of a text in bytes. -/
def byteLength : List Char → Nat
  | [] => 0
  | c :: cs => c.utf8Size + byteLength cs

/-- Where a scan ends for which less than four characters are left: at the end of the text if they
do not even make four bytes. -/
def withoutUnit (cs : List Char) : QuotedEnd := if byteLength cs < 4 then .unclosed else .badUnit

/-- Puts a piece in front of a scanned string. -/
def cons (p : QuotedPiece) (r : Quoted × Option (List Char)) : Quoted × Option (List Char) :=
  (⟨p :: r.1.pieces, r.1.ending⟩, r.2)

/-- Takes a string, without its opening quote, from the front of a text. What follows it comes back
only if the string was closed. -/
def scan : List Char → Quoted × Option (List Char)
  | [] => (⟨[], .unclosed⟩, none)
  | '"' :: cs => (⟨[], .closed⟩, some cs)
  | ['\\'] => (⟨[], .unclosed⟩, none)
  | '\\' :: 'u' :: a :: b :: c :: d :: cs =>
    match unit? a b c d with
    | some u => cons (.unit u) (scan cs)
    | none => (⟨[], .badUnit⟩, none)
  | '\\' :: 'u' :: cs => (⟨[], withoutUnit cs⟩, none)
  | '\\' :: e :: cs =>
    match escape? e with
    | some c => cons (.char c) (scan cs)
    | none => (⟨[], .badEscape⟩, none)
  | c :: cs => if c.toNat < 32 then (⟨[], .control⟩, none) else cons (.char c) (scan cs)

/-- What is wrong with a string that is skipped. -/
def skip (q : Quoted) : Option Fault := q.ending.fault?

/-- The text of pieces, with the halves of pairs put together. -/
def textOf (ending : QuotedEnd) : List QuotedPiece → Except Fault (List Char)
  | [] =>
    match ending.fault? with
    | none => .ok []
    | some f => .error f
  | .char c :: ps => (c :: ·) <$> textOf ending ps
  | .unit u :: ps =>
    if u < 0xD800 ∨ 0xE000 ≤ u then (Char.ofNat u :: ·) <$> textOf ending ps
    else if 0xDC00 ≤ u then .error .loneSurrogate
    else
      match ps with
      | .unit v :: ps =>
        if 0xDC00 ≤ v ∧ v < 0xE000 then
          (Char.ofNat (0x10000 + (u - 0xD800) * 1024 + (v - 0xDC00)) :: ·) <$> textOf ending ps
        else .error .loneSurrogate
      | .char _ :: _ => .error .halfSurrogatePair
      | [] =>
        match ending with
        | .unclosed => .error .endInString
        | .badUnit => .error .invalidEscape
        | .closed | .control | .badEscape => .error .halfSurrogatePair

/-- The text of a string. -/
def read (q : Quoted) : Except Fault String := String.ofList <$> textOf q.ending q.pieces

/-- A text as a string that was closed. -/
def ofText (s : String) : Quoted := ⟨s.toList.map .char, .closed⟩

end Quoted

end RadioData.Json
