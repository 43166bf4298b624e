import Mathlib.Data.List.Basic
import RadioData.Json.Shape
import RadioData.Proofs.Json.Printed
/-!
# Records are read field by field

A record that is printed as an object of all its fields, in their order, is read by filling in one
field after the other (`Shape.read_printed`): no member is passed over, none comes twice and none is
missing. What the fields hold are the numbers of each width and the lists, each with the lemma that
says what is read of a printed one.
-/

namespace RadioData.Json

/-! ## Leaves -/

namespace Read

/-- A natural number within the bounds is read as it is. -/
theorem integer_natural {wanted : String} {low high : Int} {n : Nat} (h : (n : Int) ≤ high) :
    integer wanted low high (.number (some (.natural n))) = .ok (n : Int) := if_pos h

/-- A number of 8 bits is read as itself. -/
theorem uint8_natural (n : UInt8) : uint8 (.number (some (.natural n.toNat))) = .ok n := by
  have hn : n.toNat < 256 := n.toNat_lt
  rw [uint8, integer_natural (by omega)]
  simp [Functor.map, Except.map]

/-- A number of 16 bits is read as itself. -/
theorem uint16_natural (n : UInt16) : uint16 (.number (some (.natural n.toNat))) = .ok n := by
  have hn : n.toNat < 65536 := n.toNat_lt
  rw [uint16, integer_natural (by omega)]
  simp [Functor.map, Except.map]

/-- A number of 32 bits is read as itself. -/
theorem uint32_natural (n : UInt32) : uint32 (.number (some (.natural n.toNat))) = .ok n := by
  have hn : n.toNat < 4294967296 := n.toNat_lt
  rw [uint32, integer_natural (by omega)]
  simp [Functor.map, Except.map]

/-- A number of 64 bits is read as itself. -/
theorem uint64_natural (n : UInt64) : uint64 (.number (some (.natural n.toNat))) = .ok n := by
  have hn : n.toNat < 18446744073709551616 := n.toNat_lt
  rw [uint64, integer_natural (by omega)]
  simp [Functor.map, Except.map]

/-- A number with a sign is read as itself when it is written without one. -/
theorem int32_natural {n : Int32} (h : 0 ≤ n.toInt) :
    int32 (.number (some (.natural n.toInt.toNat))) = .ok n := by
  have hn : n.toInt < 2147483648 := n.toInt_lt
  rw [int32, integer_natural (by omega), Int.toNat_of_nonneg h]
  simp [Functor.map, Except.map]

/-- A number below zero is read as itself when it is written with its sign. -/
theorem int32_negative {n : Int32} (h : n.toInt < 0) :
    int32 (.number (some (.negative n.toInt.natAbs))) = .ok n := by
  have hn : -2147483648 ≤ n.toInt := n.le_toInt
  have habs : -(n.toInt.natAbs : Int) = n.toInt := by omega
  rw [int32, integer, if_pos (by omega), habs]
  simp [Functor.map, Except.map]

/-- A text is read as it was printed, whatever the message would ask for. -/
theorem text_printed (wanted s : String) : text wanted (.string (.printed s)) = .ok s :=
  Quoted.read_printed s

/-- A list is read item by item. -/
theorem list_printed {α : Type} {read : Read α} {json : α → Value}
    (h : ∀ a, read (json a).printed = .ok a) (as : List α) :
    list read (Value.array (as.map json)).printed = .ok as := by
  have hitems : items read .closed (Value.printedItems (as.map json)) = .ok as := by
    induction as with
    | nil => rfl
    | cons a as ih =>
      rw [List.map_cons, Value.printedItems, items, h a]
      dsimp only
      rw [ih]
      rfl
  rw [Value.printed, list, hitems]

end Read

/-! ## Records -/

variable {σ : Type}

/-- Fills in fields from values, one after the other. -/
def fillAll : List (Field σ) → List Value → σ → Except Fault σ
  | field :: fields, v :: vs, record =>
    match field.fill v.printed record with
    | .error f => .error f
    | .ok record => fillAll fields vs record
  | _, _, record => .ok record

section

variable {α : Type} {name : String} {read : Read α} {set : α → σ → σ} {v : Value} {a : α}
  {fields : List (Field σ)} {vs : List Value} {record filled : σ}

/-- A field that must be there is filled in with what is read of the first value, and the others
follow. -/
theorem fillAll_mandatory (h : read v.printed = .ok a)
    (hrest : fillAll fields vs (set a record) = .ok filled) :
    fillAll (.mandatory name read set :: fields) (v :: vs) record = .ok filled := by
  have hfill : (Field.mandatory name read set).fill v.printed record = .ok (set a record) :=
    congrArg ((set · record) <$> ·) h
  rw [fillAll, hfill]
  exact hrest

/-- A field that may be missing is filled in likewise if its value is there. -/
theorem fillAll_omissible (h : read v.printed = .ok a)
    (hrest : fillAll fields vs (set a record) = .ok filled) :
    fillAll (.omissible name read set :: fields) (v :: vs) record = .ok filled := by
  have hfill : (Field.omissible name read set).fill v.printed record = .ok (set a record) :=
    congrArg ((set · record) <$> ·) h
  rw [fillAll, hfill]
  exact hrest

end

namespace Shape

variable {s : Shape σ}

/-- A member that is a field and has not come before is filled in. -/
theorem readMembers_field {seen : List String} {key : Quoted} {d : Document}
    {ds : List (Quoted × Document)} {record : σ} {field : Field σ} {ending : ObjectEnd}
    (hkey : key.read = .ok field.name)
    (hfield : s.fields.find? (fun f => f.name = field.name) = some field)
    (hnew : field.name ∉ seen) :
    s.readMembers ending seen ((key, d) :: ds) record =
      match field.fill d record with
      | .error f => .error f
      | .ok record => s.readMembers ending (field.name :: seen) ds record := by
  have hunseen : seen.contains field.name = false := by simpa using hnew
  rw [readMembers, hkey]
  dsimp only
  rw [hfield]
  dsimp only
  rw [hunseen]
  rfl

/-- With all fields read no field is missing. -/
theorem missing?_eq_none {seen : List String} (h : ∀ f ∈ s.fields, f.name ∈ seen) :
    s.missing? seen = none := by
  simp only [missing?, Option.map_eq_none_iff, List.find?_eq_none]
  intro f hf
  simp [h f hf]

/-- A field's name is none of those before it. -/
theorem name_notMem_earlier (hnames : (s.fields.map Field.name).Nodup) {field : Field σ}
    {earlier later : List (Field σ)} (hfields : s.fields = earlier ++ field :: later) :
    field.name ∉ earlier.map Field.name := by
  intro hmem
  rw [hfields, List.map_append, List.map_cons] at hnames
  exact (List.nodup_append.1 hnames).2.2 _ hmem _ List.mem_cons_self rfl

/-- A field is found by its name. -/
theorem find?_field (hnames : (s.fields.map Field.name).Nodup) {field : Field σ}
    (h : field ∈ s.fields) : s.fields.find? (fun f => f.name = field.name) = some field := by
  obtain ⟨earlier, later, hfields⟩ := List.append_of_mem h
  have hnot : ∀ f ∈ earlier, f.name ≠ field.name := fun f hf heq =>
    name_notMem_earlier hnames hfields (heq ▸ List.mem_map_of_mem hf)
  rw [hfields, List.find?_append, List.find?_eq_none.2 (by simpa using hnot)]
  simp

/-- **A printed record is read field by field.** -/
theorem read_printed (hnames : (s.fields.map Field.name).Nodup) {members : List (String × Value)}
    (hmembers : members.map Prod.fst = s.fields.map Field.name) :
    s.read (Value.object members).printed =
      fillAll s.fields (members.map Prod.snd) s.blank := by
  suffices hfrom : ∀ (earlier later : List (Field σ)) (members : List (String × Value))
      (seen : List String) (record : σ), s.fields = earlier ++ later →
      members.map Prod.fst = later.map Field.name →
      (∀ name, name ∈ seen ↔ name ∈ earlier.map Field.name) →
      s.readMembers .closed seen (Value.printedMembers members) record =
        fillAll later (members.map Prod.snd) record from
    hfrom [] s.fields members [] s.blank rfl hmembers (by simp)
  intro earlier later
  induction later generalizing earlier with
  | nil =>
    intro members seen record hfields hmembers hseen
    obtain rfl : members = [] := List.map_eq_nil_iff.1 hmembers
    have hmissing : s.missing? seen = none := missing?_eq_none fun f hf =>
      (hseen f.name).2 (List.mem_map_of_mem (by rwa [hfields, List.append_nil] at hf))
    rw [Value.printedMembers, readMembers, hmissing]
    rfl
  | cons field later ih =>
    intro members seen record hfields hmembers hseen
    obtain ⟨⟨key, v⟩, members, rfl⟩ := List.exists_cons_of_ne_nil
      (show members ≠ [] from fun hnil => by simp [hnil] at hmembers)
    obtain ⟨rfl, hlater⟩ := List.cons_eq_cons.1 hmembers
    have hfield : field ∈ s.fields := hfields ▸ List.mem_append_right _ List.mem_cons_self
    have hnew : field.name ∉ seen := fun hmem =>
      name_notMem_earlier hnames hfields ((hseen _).1 hmem)
    rw [Value.printedMembers, readMembers_field (Quoted.read_printed _) (find?_field hnames hfield)
      hnew, List.map_cons, fillAll]
    cases field.fill v.printed record with
    | error f => rfl
    | ok filled =>
      refine ih (earlier ++ [field]) members (field.name :: seen) filled (by simp [hfields])
        hlater fun name => ?_
      simp [hseen name, or_comm]

end Shape

end RadioData.Json
