import RadioData.Text
/-!
# Client lines from a byte stream

Clients send lines that end in a line feed. `LineFramer` holds the bytes that have arrived and were
not taken yet. After each arrival it looks at the unfinished line at the end: if that is longer than
`LineFramer.limit` bytes, the line is dropped whole, and everything up to and including the next
line feed is skipped. Finished lines are never dropped, whatever their length. `splitLines` is the
one place where bytes are cut: `LineFramer.next?` takes its first line, `LineFramer.drain` all of
them.
-/

namespace RadioData

/-- The byte that ends a line. -/
def lineFeed : UInt8 := 10

/-- The finished lines of a list of bytes, without their line feeds, and the bytes of the unfinished
one. -/
def splitLines : List UInt8 → List (List UInt8) × List UInt8
  | [] => ([], [])
  | b :: bs =>
    let (lines, rest) := splitLines bs
    if b = lineFeed then ([] :: lines, rest)
    else
      match lines with
      | [] => ([], b :: rest)
      | line :: lines => ((b :: line) :: lines, rest)

/-- The text of a finished line: read as UTF-8, without the carriage returns at its end. -/
def lineText (line : List UInt8) : String :=
  String.ofList (((Utf8.decodeFrom none line).reverse.dropWhile (· == '\r')).reverse)

/-- The bytes of a client that make up no line taken so far. -/
structure LineFramer where
  buffer : List UInt8 := []
  /-- Whether the line under way has been dropped and its remaining bytes are to be skipped. -/
  skipping : Bool := false
  deriving DecidableEq, Repr

namespace LineFramer

/-- The greatest length of an unfinished line that is kept. -/
def limit : Nat := 256

/-- Adds bytes to the buffer and drops the unfinished line if it is too long. -/
def keep (buffer data : List UInt8) : LineFramer :=
  let held := buffer ++ data
  let rest := (splitLines held).2
  if limit < rest.length then ⟨held.take (held.length - rest.length), true⟩ else ⟨held, false⟩

/-- Takes in bytes as they arrive. -/
def push (f : LineFramer) (data : List UInt8) : LineFramer :=
  if f.skipping then
    match data.dropWhile (· != lineFeed) with
    | [] => f
    | _ :: data => keep f.buffer data
  else keep f.buffer data

/-- The oldest finished line, if there is one. -/
def next? (f : LineFramer) : Option (String × LineFramer) :=
  match (splitLines f.buffer).1 with
  | [] => none
  | line :: _ => some (lineText line, { f with buffer := f.buffer.drop (line.length + 1) })

/-- Takes every finished line out. -/
def drain (f : LineFramer) : List String × LineFramer :=
  let (lines, rest) := splitLines f.buffer
  (lines.map lineText, { f with buffer := rest })

/-- Forgets what has arrived. -/
def clear (_ : LineFramer) : LineFramer := {}

end LineFramer

end RadioData
