import RadioData.Json.Value
import RadioData.Text
/-!
# Writing JSON text

`Value.pretty` writes a value over several lines, two spaces deeper at each level; empty arrays and
objects stay on one line. `Value.compact` writes it on one line, without any blanks. In strings only
quotes, backslashes and control characters are escaped.
-/

namespace RadioData.Json

/-- A character inside a string. -/
def escapeChar (c : Char) : List Char :=
  if c = '"' then ['\\', '"']
  else if c = '\\' then ['\\', '\\']
  else if c = '\n' then ['\\', 'n']
  else if c = '\r' then ['\\', 'r']
  else if c = '\t' then ['\\', 't']
  else if c.toNat = 8 then ['\\', 'b']
  else if c.toNat = 12 then ['\\', 'f']
  else if c.toNat < 32 then
    ['\\', 'u', '0', '0', Text.lowerHexDigit (c.toNat / 16), Text.lowerHexDigit (c.toNat % 16)]
  else [c]

/-- A text as a string. -/
def stringChars (s : String) : List Char := '"' :: s.toList.flatMap escapeChar ++ ['"']

namespace Value

/-- The start of a line at a level. -/
def newline (level : Nat) : List Char := '\n' :: List.replicate (2 * level) ' '

mutual

/-- A value whose first line has been begun and whose other lines stand at `level` or deeper. -/
def prettyChars (level : Nat) : Value → List Char
  | .null => "null".toList
  | .boolean true => "true".toList
  | .boolean false => "false".toList
  | .number n => n.text.toList
  | .string s => stringChars s
  | .array [] => ['[', ']']
  | .array (v :: vs) =>
    '[' :: newline (level + 1) ++ prettyChars (level + 1) v ++ moreItems (level + 1) vs ++
      newline level ++ [']']
  | .object [] => ['\x7b', '\x7d']
  | .object ((key, v) :: ms) =>
    '\x7b' :: newline (level + 1) ++ stringChars key ++ [':', ' '] ++ prettyChars (level + 1) v ++
      moreMembers (level + 1) ms ++ newline level ++ ['\x7d']

/-- Items after the first. -/
def moreItems (level : Nat) : List Value → List Char
  | [] => []
  | v :: vs => ',' :: newline level ++ prettyChars level v ++ moreItems level vs

/-- Members after the first. -/
def moreMembers (level : Nat) : List (String × Value) → List Char
  | [] => []
  | (key, v) :: ms =>
    ',' :: newline level ++ stringChars key ++ [':', ' '] ++ prettyChars level v ++
      moreMembers level ms

end

mutual

/-- A value on one line. -/
def compactChars : Value → List Char
  | .null => "null".toList
  | .boolean true => "true".toList
  | .boolean false => "false".toList
  | .number n => n.text.toList
  | .string s => stringChars s
  | .array vs => '[' :: compactItems vs ++ [']']
  | .object ms => '\x7b' :: compactMembers ms ++ ['\x7d']

/-- Items on one line. -/
def compactItems : List Value → List Char
  | [] => []
  | [v] => compactChars v
  | v :: vs => compactChars v ++ ',' :: compactItems vs

/-- Members on one line. -/
def compactMembers : List (String × Value) → List Char
  | [] => []
  | [(key, v)] => stringChars key ++ ':' :: compactChars v
  | (key, v) :: ms => stringChars key ++ ':' :: compactChars v ++ ',' :: compactMembers ms

end

/-- A value on one line. -/
def compact (v : Value) : String := String.ofList (compactChars v)

/-- A value over several lines. -/
def pretty (v : Value) : String := String.ofList (prettyChars 0 v)

end Value

end RadioData.Json
