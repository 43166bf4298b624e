import RadioData.Json.Number
import RadioData.Json.Quoted
import RadioData.Text.Quoted
/-!
# What can be read of a JSON text

A `Document` is a JSON text up to its end or up to the first fault in it, whichever comes first.
Faults stand in it where they were met, since it depends on the reader which fault is the first for
him: one who wants a number refuses an array without looking inside, and one who passes over a value
does not care about the range of its numbers. `Document.skip` says what the latter meets,
`Document.refuse` what a reader meets who wanted something else.
-/

namespace RadioData.Json

/-- Where the items of an array end. -/
inductive ArrayEnd where
  /-- At the closing bracket. -/
  | closed
  /-- At the end of the text. -/
  | unclosed
  /-- At a closing bracket with a comma before it. -/
  | commaClosed
  /-- At something that is neither a comma nor a closing bracket. -/
  | stray
  /-- Nowhere: the array was not read from a text. -/
  | whole
  deriving DecidableEq, Repr

/-- Where the members of an object end. -/
inductive ObjectEnd where
  /-- At the closing brace. -/
  | closed
  /-- At the end of the text. -/
  | unclosed
  /-- At a closing brace with a comma before it. -/
  | commaClosed
  /-- At the end of the text with a comma before it. -/
  | commaUnclosed
  /-- At something that is neither a comma nor a closing brace. -/
  | stray
  /-- At something that is no key where one is wanted. -/
  | noKey
  deriving DecidableEq, Repr

/-- A value as far as it could be read. -/
inductive Document where
  /-- There is no value here. -/
  | fault (f : Fault)
  | null
  | boolean (b : Bool)
  /-- A number; without a value if it is too large. -/
  | number (n : Option Number)
  /-- The start of a number; `atEnd` says whether the text breaks off there. -/
  | brokenNumber (atEnd : Bool)
  | string (q : Quoted)
  | array (items : List Document) (ending : ArrayEnd)
  | object (members : List (Quoted × Document)) (ending : ObjectEnd)

/-- What a reader of items meets at their end. -/
def ArrayEnd.fault? : ArrayEnd → Option Fault
  | .closed | .whole => none
  | .unclosed => some .endInArray
  | .commaClosed => some .trailingComma
  | .stray => some .expectedArrayComma

/-- What one who passes over items meets at their end. -/
def ArrayEnd.skip : ArrayEnd → Option Fault
  | .closed | .whole => none
  | .unclosed => some .endInArray
  | .commaClosed => some .expectedValue
  | .stray => some .expectedArrayComma

/-- What a reader of members meets at their end. -/
def ObjectEnd.fault? : ObjectEnd → Option Fault
  | .closed => none
  | .unclosed => some .endInObject
  | .commaClosed => some .trailingComma
  | .commaUnclosed => some .endForValue
  | .stray => some .expectedObjectComma
  | .noKey => some .keyNotString

/-- What one who passes over members meets at their end. -/
def ObjectEnd.skip : ObjectEnd → Option Fault
  | .closed => none
  | .unclosed | .commaUnclosed => some .endInObject
  | .commaClosed | .noKey => some .keyNotString
  | .stray => some .expectedObjectComma

namespace Document

mutual

/-- What is wrong with a value that is passed over: whether it is JSON at all, but neither the range
of its numbers nor the pairs in its strings. -/
def skip : Document → Option Fault
  | .fault f => some f
  | .null | .boolean _ | .number _ => none
  | .brokenNumber _ => some .invalidNumber
  | .string q => q.skip
  | .array items ending => skipItems ending items
  | .object members ending => skipMembers ending members

/-- What is wrong with items that are passed over. -/
def skipItems (ending : ArrayEnd) : List Document → Option Fault
  | [] => ending.skip
  | d :: ds =>
    match skip d with
    | some f => some f
    | none => skipItems ending ds

/-- What is wrong with members that are passed over. -/
def skipMembers (ending : ObjectEnd) : List (Quoted × Document) → Option Fault
  | [] => ending.skip
  | (key, d) :: ds =>
    match key.skip with
    | some f => some f
    | none =>
      match skip d with
      | some f => some f
      | none => skipMembers ending ds

end

/-- The kind of a number, as it is named when another was wanted. -/
def foundNumber : Number → Found
  | .natural n => .integer n
  | .negative n => .integer (-n)
  | .double f => .floatingPoint (Decimal.floatText f)

/-- What a reader meets who wanted another kind of value. Numbers and strings are read to their end
first, arrays and objects are not. -/
def refuse (wanted : String) : Document → Fault
  | .fault f => f
  | .null => .wrongType .null wanted
  | .boolean b => .wrongType (.boolean b) wanted
  | .number (some n) => .wrongType (foundNumber n) wanted
  | .number none => .numberOutOfRange
  | .brokenNumber atEnd => if atEnd then .endForValue else .invalidNumber
  | .string q =>
    match q.read with
    | .ok s => .wrongType (.string (Text.quoted s)) wanted
    | .error f => f
  | .array _ _ => .wrongType .sequence wanted
  | .object _ _ => .wrongType .map wanted

end Document

end RadioData.Json
