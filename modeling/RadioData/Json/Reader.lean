import RadioData.Json.Document
/-!
# Reading JSON text

`Document.ofText` reads a text: one value, with blanks around it. Reading goes on until the first
fault; what follows the value, if it was read to its end, is given back so that a reader can say
that nothing may follow.
-/

namespace RadioData.Json.Document

/-- Whether a character may stand between the parts of a text. -/
def isBlank (c : Char) : Bool := c == ' ' || c == '\n' || c == '\t' || c == '\r'

/-- A text from its first character that is no blank. -/
def skipBlanks (cs : List Char) : List Char := cs.dropWhile isBlank

/-- Whether a numeral begins with this character. -/
def startsNumeral (c : Char) : Bool := c == '-' || RadioData.Numeral.isDigit c

/-- The rest of a keyword. -/
def keyword (d : Document) : List Char → List Char → Document × Option (List Char)
  | [], cs => (d, some cs)
  | _ :: _, [] => (.fault .endForValue, none)
  | k :: ks, c :: cs => if c = k then keyword d ks cs else (.fault .expectedKeyword, none)

/-- The numeral at the front of a text. -/
def numeral (cs : List Char) : Document × Option (List Char) :=
  match Numeral.scan cs with
  | .numeral n rest => (.number n.number?, some rest)
  | .broken atEnd => (.brokenNumber atEnd, none)

mutual

/-- The value at the front of a text, and what follows it if it was read to its end. The first
argument bounds the number of steps. -/
def scan : Nat → List Char → Document × Option (List Char)
  | 0, _ => (.fault .endForValue, none)
  | fuel + 1, cs =>
    match skipBlanks cs with
    | [] => (.fault .endForValue, none)
    | 'n' :: cs => keyword .null ['u', 'l', 'l'] cs
    | 't' :: cs => keyword (.boolean true) ['r', 'u', 'e'] cs
    | 'f' :: cs => keyword (.boolean false) ['a', 'l', 's', 'e'] cs
    | '"' :: cs =>
      let (q, rest) := Quoted.scan cs
      (.string q, rest)
    | '[' :: cs =>
      let (items, ending, rest) := scanItems fuel true cs
      (.array items ending, rest)
    | '\x7b' :: cs =>
      let (members, ending, rest) := scanMembers fuel true cs
      (.object members ending, rest)
    | c :: cs => if startsNumeral c then numeral (c :: cs) else (.fault .expectedValue, none)

/-- The items of an array up to its end; `first` says that none has been read yet. -/
def scanItems : Nat → Bool → List Char → List Document × ArrayEnd × Option (List Char)
  | 0, _, _ => ([], .unclosed, none)
  | fuel + 1, first, cs =>
    match skipBlanks cs with
    | [] => ([], .unclosed, none)
    | ']' :: cs => ([], .closed, some cs)
    | c :: cs =>
      if first then scanItem fuel (c :: cs)
      else if c = ',' then
        match skipBlanks cs with
        | ']' :: _ => ([], .commaClosed, none)
        | cs => scanItem fuel cs
      else ([], .stray, none)

/-- An item and those after it. -/
def scanItem : Nat → List Char → List Document × ArrayEnd × Option (List Char)
  | 0, _ => ([], .unclosed, none)
  | fuel + 1, cs =>
    match scan fuel cs with
    | (d, none) => ([d], .unclosed, none)
    | (d, some cs) =>
      let (items, ending, rest) := scanItems fuel false cs
      (d :: items, ending, rest)

/-- The members of an object up to its end; `first` says that none has been read yet. -/
def scanMembers :
    Nat → Bool → List Char → List (Quoted × Document) × ObjectEnd × Option (List Char)
  | 0, _, _ => ([], .unclosed, none)
  | fuel + 1, first, cs =>
    match skipBlanks cs with
    | [] => ([], .unclosed, none)
    | '\x7d' :: cs => ([], .closed, some cs)
    | c :: cs =>
      if first then
        if c = '"' then scanMember fuel cs else ([], .noKey, none)
      else if c = ',' then
        match skipBlanks cs with
        | [] => ([], .commaUnclosed, none)
        | '"' :: cs => scanMember fuel cs
        | '\x7d' :: _ => ([], .commaClosed, none)
        | _ => ([], .noKey, none)
      else ([], .stray, none)

/-- A member, without the opening quote of its key, and those after it. -/
def scanMember : Nat → List Char → List (Quoted × Document) × ObjectEnd × Option (List Char)
  | 0, _ => ([], .unclosed, none)
  | fuel + 1, cs =>
    match Quoted.scan cs with
    | (key, none) => ([(key, .fault .endInObject)], .unclosed, none)
    | (key, some cs) =>
      match skipBlanks cs with
      | [] => ([(key, .fault .endInObject)], .unclosed, none)
      | ':' :: cs =>
        match scan fuel cs with
        | (d, none) => ([(key, d)], .unclosed, none)
        | (d, some cs) =>
          let (members, ending, rest) := scanMembers fuel false cs
          ((key, d) :: members, ending, rest)
      | _ => ([(key, .fault .expectedColon)], .unclosed, none)

end

/-- Reads a text. What follows the value comes back if it was read to its end. Between two
characters that are read there are at most three steps, so the bound is never met. -/
def ofText (s : String) : Document × Option (List Char) :=
  let cs := s.toList
  scan (4 * cs.length + 4) cs

/-- What is wrong with a text after its value: nothing but blanks may follow. -/
def trailing : Option (List Char) → Option Fault
  | none => none
  | some cs => if skipBlanks cs = [] then none else some .trailingCharacters

end RadioData.Json.Document
