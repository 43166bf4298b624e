import RadioData.Json.Reader
/-!
# JSON values

A `Value` is a JSON text that was read without any fault. `Value.document` makes a document of it
again, so that readers of documents read values in memory as well.
-/

namespace RadioData.Json

/-- A JSON value. -/
inductive Value where
  | null
  | boolean (b : Bool)
  | number (n : Number)
  | string (s : String)
  | array (items : List Value)
  | object (members : List (String × Value))

namespace Value

mutual

/-- The value as a document without faults. -/
def document : Value → Document
  | .null => .null
  | .boolean b => .boolean b
  | .number n => .number (some n)
  | .string s => .string (.ofText s)
  | .array items => .array (documents items) .whole
  | .object members => .object (memberDocuments members) .closed

/-- Items as documents. -/
def documents : List Value → List Document
  | [] => []
  | v :: vs => document v :: documents vs

/-- Members as documents. -/
def memberDocuments : List (String × Value) → List (Quoted × Document)
  | [] => []
  | (key, v) :: vs => (.ofText key, document v) :: memberDocuments vs

end

mutual

/-- The value of a document, if nothing is wrong with it. -/
def ofDocument : Document → Except Fault Value
  | .fault f => .error f
  | .null => .ok .null
  | .boolean b => .ok (.boolean b)
  | .number (some n) => .ok (.number n)
  | .number none => .error .numberOutOfRange
  | .brokenNumber atEnd => .error (if atEnd then .endForValue else .invalidNumber)
  | .string q => .string <$> q.read
  | .array items ending => .array <$> ofItems ending items
  | .object members ending => .object <$> ofMembers ending members

/-- The values of items. -/
def ofItems (ending : ArrayEnd) : List Document → Except Fault (List Value)
  | [] =>
    match ending.fault? with
    | none => .ok []
    | some f => .error f
  | d :: ds =>
    match ofDocument d with
    | .error f => .error f
    | .ok v => (v :: ·) <$> ofItems ending ds

/-- The values of members with their keys. -/
def ofMembers (ending : ObjectEnd) :
    List (Quoted × Document) → Except Fault (List (String × Value))
  | [] =>
    match ending.fault? with
    | none => .ok []
    | some f => .error f
  | (key, d) :: ds =>
    match key.read with
    | .error f => .error f
    | .ok key =>
      match ofDocument d with
      | .error f => .error f
      | .ok v => ((key, v) :: ·) <$> ofMembers ending ds

end

/-- Reads a JSON text. -/
def parse (s : String) : Except Fault Value :=
  let (d, rest) := Document.ofText s
  match ofDocument d with
  | .error f => .error f
  | .ok v =>
    match Document.trailing rest with
    | some f => .error f
    | none => .ok v

/-- The value of a member, the last of several with one key. -/
def get? (v : Value) (key : String) : Option Value :=
  match v with
  | .object members => (members.reverse.find? fun m => m.1 = key).map Prod.snd
  | _ => none

end Value

end RadioData.Json
