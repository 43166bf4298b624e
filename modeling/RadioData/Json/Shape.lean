import RadioData.Json.Document
/-!
# Reading records

A `Shape` says how a record of type `σ` is written: its fields in order, which of them may be left
out, and the record that reading starts from. A record is written as an object or as an array of its
fields.

In an object the members come in any order; members that are no fields are passed over, and a field
may not come twice. In an array the fields come in order and fields that may be left out can be
missing at the end. What is wrong first in the text is what is reported; only when the record has
been read to its end are missing fields looked for, the first of them first.
-/

namespace RadioData.Json

/-- How to read a value of some type from a document. -/
abbrev Read (α : Type) : Type := Document → Except Fault α

/-- A field of a record. -/
structure Field (σ : Type) where
  name : String
  /-- Whether a record without the field is refused. -/
  required : Bool
  /-- Reads the field into a record. -/
  fill : Document → σ → Except Fault σ

/-- How a record is written. -/
structure Shape (σ : Type) where
  /-- How the record is named when something else was found. -/
  label : String
  fields : List (Field σ)
  /-- The record in which every field that can be left out has been left out. -/
  blank : σ

namespace Read

/-- An integer from `low` to `high`. -/
def integer (wanted : String) (low high : Int) : Read Int
  | .number (some (.natural n)) => if (n : Int) ≤ high then .ok n else .error (.wrongValue n wanted)
  | .number (some (.negative n)) =>
    if low ≤ -(n : Int) then .ok (-n) else .error (.wrongValue (-n) wanted)
  | d => .error (d.refuse wanted)

/-- An integer of 8 bits without sign. -/
def uint8 : Read UInt8 := fun d =>
  (fun n => n.toNat.toUInt8) <$> integer "u8" 0 255 d

/-- An integer of 16 bits without sign. -/
def uint16 : Read UInt16 := fun d =>
  (fun n => n.toNat.toUInt16) <$> integer "u16" 0 65535 d

/-- An integer of 32 bits without sign. -/
def uint32 : Read UInt32 := fun d =>
  (fun n => n.toNat.toUInt32) <$> integer "u32" 0 4294967295 d

/-- An integer of 64 bits without sign. -/
def uint64 : Read UInt64 := fun d =>
  (fun n => n.toNat.toUInt64) <$> integer "u64" 0 18446744073709551615 d

/-- An integer of 32 bits with sign. -/
def int32 : Read Int32 := fun d =>
  Int32.ofInt <$> integer "i32" (-2147483648) 2147483647 d

/-- A truth value. -/
def boolean : Read Bool
  | .boolean b => .ok b
  | d => .error (d.refuse "a boolean")

/-- A text; `wanted` says what it is a text of. -/
def text (wanted : String) : Read String
  | .string q => q.read
  | d => .error (d.refuse wanted)

/-- A value or null. -/
def optional {α : Type} (read : Read α) : Read (Option α)
  | .null => .ok none
  | d => some <$> read d

/-- The items of a list, up to the first that is wrong. -/
def items {α : Type} (read : Read α) (ending : ArrayEnd) : List Document → Except Fault (List α)
  | [] =>
    match ending.fault? with
    | none => .ok []
    | some f => .error f
  | d :: ds =>
    match read d with
    | .error f => .error f
    | .ok a => (a :: ·) <$> items read ending ds

/-- A list of any length. -/
def list {α : Type} (read : Read α) : Read (List α)
  | .array ds ending => items read ending ds
  | d => .error (d.refuse "a sequence")

end Read

namespace Shape

variable {σ : Type}

/-- What is wrong with a record of which all fields have been read, by what is left of its array:
anything at all, or nothing but a comma. -/
def leftOver (length : Nat) (ending : ArrayEnd) : List Document → Option Fault
  | [] =>
    match ending with
    | .closed | .whole => none
    | .unclosed => some .endInArray
    | .commaClosed => some .trailingComma
    | .stray => some .trailingCharacters
  | _ :: _ =>
    match ending with
    | .whole => some (.wrongLength length "fewer elements in array")
    | _ => some .trailingCharacters

/-- Reads fields from the items of an array; `index` have been read before. -/
def readItems (s : Shape σ) (length : Nat) (ending : ArrayEnd) :
    Nat → List (Field σ) → List Document → σ → Except Fault σ
  | _, [], ds, record =>
    match leftOver length ending ds with
    | some f => .error f
    | none => .ok record
  | index, field :: fields, [], record =>
    match ending.fault? with
    | some f => .error f
    | none =>
      if field.required then
        .error (.wrongLength index s!"{s.label} with {s.fields.length} elements")
      else readItems s length ending (index + 1) fields [] record
  | index, field :: fields, d :: ds, record =>
    match field.fill d record with
    | .error f => .error f
    | .ok record => readItems s length ending (index + 1) fields ds record

/-- The first required field that is not among the names. -/
def missing? (s : Shape σ) (seen : List String) : Option String :=
  (s.fields.find? fun f => f.required && !seen.contains f.name).map Field.name

/-- Reads the members of an object; the fields in `seen` have been read before. -/
def readMembers (s : Shape σ) (ending : ObjectEnd) :
    List String → List (Quoted × Document) → σ → Except Fault σ
  | seen, [], record =>
    match ending.fault? with
    | some f => .error f
    | none =>
      match s.missing? seen with
      | some name => .error (.missingField name)
      | none => .ok record
  | seen, (key, d) :: ds, record =>
    match key.read with
    | .error f => .error f
    | .ok name =>
      match s.fields.find? fun f => f.name = name with
      | none =>
        match d.skip with
        | some f => .error f
        | none => readMembers s ending seen ds record
      | some field =>
        if seen.contains name then .error (.repeatedField name)
        else
          match field.fill d record with
          | .error f => .error f
          | .ok record => readMembers s ending (name :: seen) ds record

/-- Reads a record. -/
def read (s : Shape σ) : Read σ
  | .array ds ending => s.readItems ds.length ending 0 s.fields ds s.blank
  | .object members ending => s.readMembers ending [] members s.blank
  | d => .error (d.refuse s.label)

end Shape

/-- A field that has to be there. -/
def Field.mandatory {σ α : Type} (name : String) (read : Read α) (set : α → σ → σ) : Field σ where
  name := name
  required := true
  fill d record := (set · record) <$> read d

/-- A field that may be left out. -/
def Field.omissible {σ α : Type} (name : String) (read : Read α) (set : α → σ → σ) : Field σ where
  name := name
  required := false
  fill d record := (set · record) <$> read d

/-- Reads a text that holds one value and nothing after it. -/
def readText {α : Type} (read : Read α) (d : Document) (trailing : Option Fault) : Except Fault α :=
  match read d with
  | .error f => .error f
  | .ok a =>
    match trailing with
    | some f => .error f
    | none => .ok a

end RadioData.Json
