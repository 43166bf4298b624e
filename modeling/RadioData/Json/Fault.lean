/-!
# What can be wrong with a JSON text

A `Fault` is the one reason why a text could not be read as what was wanted. Faults fall in three
kinds: the text breaks off, it is not JSON, or it is JSON but not the value that was wanted. The
wording of each is `Fault.message`.
-/

namespace RadioData.Json

/-- A kind of value, as it is named when another was wanted. -/
inductive Found where
  | null
  | boolean (b : Bool)
  | integer (n : Int)
  /-- A number with a fraction or an exponent, or too large for an integer, with its text. -/
  | floatingPoint (text : String)
  /-- A string, with its text in quotes. -/
  | string (quoted : String)
  | sequence
  | map
  deriving DecidableEq, Repr

/-- How a value is named. -/
def Found.text : Found → String
  | .null => "null"
  | .boolean b => s!"boolean `{b}`"
  | .integer n => s!"integer `{n}`"
  | .floatingPoint text => s!"floating point `{text}`"
  | .string quoted => s!"string {quoted}"
  | .sequence => "sequence"
  | .map => "map"

/-- Why a text could not be read. -/
inductive Fault where
  /-- The text ends inside an array. -/
  | endInArray
  /-- The text ends inside an object. -/
  | endInObject
  /-- The text ends inside a string. -/
  | endInString
  /-- The text ends where a value is wanted. -/
  | endForValue
  | expectedColon
  | expectedArrayComma
  | expectedObjectComma
  | expectedKeyword
  | expectedValue
  | invalidEscape
  | invalidNumber
  | numberOutOfRange
  | controlCharacter
  | keyNotString
  | loneSurrogate
  | halfSurrogatePair
  | trailingComma
  | trailingCharacters
  /-- A value of another kind than the one that was wanted. -/
  | wrongType (found : Found) (wanted : String)
  /-- A number outside the range that was wanted. -/
  | wrongValue (n : Int) (wanted : String)
  /-- An array with too few or too many items. -/
  | wrongLength (length : Nat) (wanted : String)
  | missingField (name : String)
  | repeatedField (name : String)
  /-- A value of the right kind that breaks a rule of its own. -/
  | rejected (message : String)
  deriving DecidableEq, Repr

namespace Fault

/-- The three kinds of fault. -/
inductive Category where
  | incomplete
  | malformed
  | unsuitable
  deriving DecidableEq, Repr

/-- The kind of a fault. -/
def category : Fault → Category
  | .endInArray | .endInObject | .endInString | .endForValue => .incomplete
  | .wrongType .. | .wrongValue .. | .wrongLength .. | .missingField _ | .repeatedField _
  | .rejected _ => .unsuitable
  | _ => .malformed

/-- The wording of a fault. -/
def message : Fault → String
  | .endInArray => "EOF while parsing a list"
  | .endInObject => "EOF while parsing an object"
  | .endInString => "EOF while parsing a string"
  | .endForValue => "EOF while parsing a value"
  | .expectedColon => "expected `:`"
  | .expectedArrayComma => "expected `,` or `]`"
  | .expectedObjectComma => "expected `,` or `\x7d`"
  | .expectedKeyword => "expected ident"
  | .expectedValue => "expected value"
  | .invalidEscape => "invalid escape"
  | .invalidNumber => "invalid number"
  | .numberOutOfRange => "number out of range"
  | .controlCharacter => "control character (\\u0000-\\u001F) found while parsing a string"
  | .keyNotString => "key must be a string"
  | .loneSurrogate => "lone leading surrogate in hex escape"
  | .halfSurrogatePair => "unexpected end of hex escape"
  | .trailingComma => "trailing comma"
  | .trailingCharacters => "trailing characters"
  | .wrongType found wanted => s!"invalid type: {found.text}, expected {wanted}"
  | .wrongValue n wanted => s!"invalid value: integer `{n}`, expected {wanted}"
  | .wrongLength length wanted => s!"invalid length {length}, expected {wanted}"
  | .missingField name => s!"missing field `{name}`"
  | .repeatedField name => s!"duplicate field `{name}`"
  | .rejected message => message

end Fault

end RadioData.Json
