import Mathlib.Data.List.Perm.Basic
import RadioData.Proofs.Json.Record
/-!
# Records with gaps and additions

A record can be written in other ways than it is printed: with members left out, in any order, and
with members among them that nobody knows. `Varies` relates a value to such texts. What a reader
makes of one is told field by field (`Shape.read_varies`): if each member that is there is read as
some part of a record, the whole is read as the record that has these parts, and that has been left
blank where a member is missing.
-/

namespace RadioData.Json

/-! ## Gaps -/

/-- A step from a value to a part of it. -/
inductive Step where
  | member (key : String)
  | item (index : Nat)
  deriving DecidableEq, Repr

/-- Which members are left out, by the steps that lead to them. -/
abbrev Gaps : Type := List Step → Bool

/-- The gaps in a part. -/
def Gaps.under (gone : Gaps) (step : Step) : Gaps := fun way => gone (step :: way)

/-- A member as it is written, key and value. -/
abbrev WrittenMember : Type := Spaced (List PieceText) × Spaced Written

/-- The key of a member is read as a name. -/
def WrittenMember.Named (m : WrittenMember) (name : String) : Prop :=
  (quotedOf m.1.content).read = .ok name

mutual

/-- A text says a value but for the gaps, with the members in any order and others among them. -/
inductive Varies : Gaps → Value → Written → Prop
  | null {gone : Gaps} : Varies gone .null .null
  | boolean {gone : Gaps} (b : Bool) : Varies gone (.boolean b) (.boolean b)
  /-- A number is written so that it has the same value. -/
  | number {gone : Gaps} {n : Number} {text : NumeralText} (h : text.numeral.number? = some n) :
      Varies gone (.number n) (.number text)
  /-- A string is written with any of its characters escaped. -/
  | string {gone : Gaps} {s : String} {ps : List PieceText} (h : (quotedOf ps).read = .ok s) :
      Varies gone (.string s) (.string ps)
  | array {gone : Gaps} {vs : List Value} {items : List (Spaced Written)} {last : Blanks}
      (h : VariesItems gone 0 vs items) : Varies gone (.array vs) (.array items last)
  /-- Members that are added have other names than any member of the value, left out or not. -/
  | object {gone : Gaps} {ms : List (String × Value)} {kept added members : List WrittenMember}
      {last : Blanks} (hkept : VariesMembers gone ms kept)
      (hadded : ∀ m ∈ added, ∃ name, m.Named name ∧ name ∉ ms.map Prod.fst)
      (horder : members.Perm (kept ++ added)) : Varies gone (.object ms) (.object members last)

/-- The same for items, the first of which has the given index. -/
inductive VariesItems : Gaps → Nat → List Value → List (Spaced Written) → Prop
  | nil {gone : Gaps} {index : Nat} : VariesItems gone index [] []
  | cons {gone : Gaps} {index : Nat} {v : Value} {vs : List Value} {x : Spaced Written}
      {xs : List (Spaced Written)} (h : Varies (gone.under (.item index)) v x.content)
      (hs : VariesItems gone (index + 1) vs xs) : VariesItems gone index (v :: vs) (x :: xs)

/-- The same for members, in order and with none added. -/
inductive VariesMembers : Gaps → List (String × Value) → List WrittenMember → Prop
  | nil {gone : Gaps} : VariesMembers gone [] []
  | gap {gone : Gaps} {key : String} {v : Value} {ms : List (String × Value)}
      {xs : List WrittenMember} (h : gone [.member key] = true) (hs : VariesMembers gone ms xs) :
      VariesMembers gone ((key, v) :: ms) xs
  | kept {gone : Gaps} {key : String} {v : Value} {ms : List (String × Value)} {x : WrittenMember}
      {xs : List WrittenMember} (h : gone [.member key] = false) (hkey : x.Named key)
      (hv : Varies (gone.under (.member key)) v x.2.content) (hs : VariesMembers gone ms xs) :
      VariesMembers gone ((key, v) :: ms) (x :: xs)

end

/-! ## Writing with gaps -/

/-- Without any blanks around it. -/
def Spaced.bare {α : Type} (content : α) : Spaced α := ⟨.none, content, .none⟩

/-- A member without any blanks. -/
def WrittenMember.bare (key : String) (w : Written) : WrittenMember :=
  (.bare (piecesOf key), .bare w)

theorem WrittenMember.named_bare (key : String) (w : Written) : (bare key w).Named key :=
  (congrArg Quoted.read (quotedOf_piecesOf key)).trans (Quoted.read_printed key)

/-- A text may be written as it is printed. -/
theorem Varies.piecesOf {gone : Gaps} (s : String) :
    Varies gone (.string s) (.string (piecesOf s)) :=
  .string ((congrArg Quoted.read (quotedOf_piecesOf s)).trans (Quoted.read_printed s))

/-- A member that is no gap may be written without blanks around it. -/
theorem VariesMembers.bare {gone : Gaps} {key : String} {v : Value} {ms : List (String × Value)}
    {w : Written} {xs : List WrittenMember} (h : gone [.member key] = false)
    (hv : Varies (gone.under (.member key)) v w) (hs : VariesMembers gone ms xs) :
    VariesMembers gone ((key, v) :: ms) (WrittenMember.bare key w :: xs) :=
  .kept h (WrittenMember.named_bare key w) hv hs

namespace Value

mutual

/-- A value on one line, with gaps. -/
def abridged : (v : Value) → v.Exact → Gaps → Written
  | .null, _, _ => .null
  | .boolean b, _, _ => .boolean b
  | .number n, h, _ => .number (n.written h)
  | .string s, _, _ => .string (piecesOf s)
  | .array items, h, gone => .array (abridgedItems items h gone 0) .none
  | .object members, h, gone => .object (abridgedMembers members h gone) .none

/-- Items on one line, the first of which has the given index. -/
def abridgedItems : (vs : List Value) → ExactItems vs → Gaps → Nat → List (Spaced Written)
  | [], _, _, _ => []
  | v :: vs, h, gone, index =>
    .bare (abridged v h.head (gone.under (.item index))) :: abridgedItems vs h.tail gone (index + 1)

/-- The members that are kept on one line. -/
def abridgedMembers : (ms : List (String × Value)) → ExactMembers ms → Gaps → List WrittenMember
  | [], _, _ => []
  | (key, v) :: ms, h, gone =>
    if gone [.member key] then abridgedMembers ms h.tail gone
    else .bare key (abridged v h.head (gone.under (.member key))) :: abridgedMembers ms h.tail gone

end

mutual

/-- **A value can be written with any gaps.** -/
theorem varies_abridged : (v : Value) → (hv : v.Exact) → (gone : Gaps) →
    Varies gone v (v.abridged hv gone)
  | .null, _, _ => .null
  | .boolean b, _, _ => .boolean b
  | .number _, hn, _ => .number (Number.number?_written hn)
  | .string s, _, _ => .piecesOf s
  | .array items, h, gone => .array (varies_abridgedItems items h gone 0)
  | .object members, h, gone =>
    .object (varies_abridgedMembers members h gone) (List.forall_mem_nil _)
      (.of_eq (List.append_nil _).symm)

/-- So can the items of a list, each under its own index. -/
theorem varies_abridgedItems : (vs : List Value) → (hvs : ExactItems vs) → (gone : Gaps) →
    (index : Nat) → VariesItems gone index vs (abridgedItems vs hvs gone index)
  | [], _, _, _ => .nil
  | v :: vs, ⟨hv, hvs⟩, gone, index =>
    .cons (varies_abridged v hv _) (varies_abridgedItems vs hvs gone (index + 1))

/-- So can the members of an object, without those that are gaps. -/
theorem varies_abridgedMembers : (ms : List (String × Value)) → (hms : ExactMembers ms) →
    (gone : Gaps) → VariesMembers gone ms (abridgedMembers ms hms gone)
  | [], _, _ => .nil
  | (key, v) :: ms, ⟨hv, hms⟩, gone => by
    simp only [abridgedMembers]
    split
    · next h => exact .gap h (varies_abridgedMembers ms hms gone)
    · next h =>
      exact .bare (Bool.eq_false_iff.2 h) (varies_abridged v hv _)
        (varies_abridgedMembers ms hms gone)

end

end Value

/-! ## Leaves -/

section leaves

variable {gone : Gaps} {w : Written}

/-- `null` stands for what is printed, without any blanks inside. -/
theorem Varies.document_null (h : Varies gone .null w) : w.document = Value.null.printed := by
  cases h with
  | null => rfl

/-- So does either truth value. -/
theorem Varies.document_boolean {b : Bool} (h : Varies gone (.boolean b) w) :
    w.document = (Value.boolean b).printed := by
  cases h with
  | boolean => rfl

/-- A number is read as if it had been printed. -/
theorem Varies.document_number {n : Number} (h : Varies gone (.number n) w) :
    w.document = (Value.number n).printed := by
  cases h with
  | number h => rw [Written.document, h, Value.printed]

/-- What reads a number as it is printed reads it however it is written. -/
theorem Varies.read_number {n : Number} (h : Varies gone (.number n) w) {α : Type} {read : Read α}
    {a : α} (hread : read (Value.number n).printed = .ok a) : read w.document = .ok a := by
  rw [h.document_number, hread]

/-- A string is read as its text. -/
theorem Varies.read_string {s : String} (h : Varies gone (.string s) w) (wanted : String) :
    Read.text wanted w.document = .ok s := by
  cases h with
  | string h => exact h

end leaves

/-- Items are read one by one, each with the gaps in it. -/
theorem Read.items_varies {α : Type} {read : Read α} {json : α → Value} {reset : α → Gaps → α}
    {gone : Gaps} (hread : ∀ index a w, Varies (gone.under (.item index)) (json a) w →
      read w.document = .ok (reset a (gone.under (.item index))))
    {as : List α} {index : Nat} {xs : List (Spaced Written)}
    (h : VariesItems gone index (as.map json) xs) :
    items read .closed (Written.itemDocuments xs) =
      .ok (as.mapIdx fun i a => reset a (gone.under (.item (index + i)))) := by
  induction as generalizing index xs with
  | nil =>
    cases h with
    | nil => rfl
  | cons a as ih =>
    cases h with
    | cons hv hs =>
      rw [Written.itemDocuments, items, hread index a _ hv, List.mapIdx_cons]
      dsimp only
      rw [ih hs]
      simp only [Nat.add_zero, Nat.add_assoc, Nat.add_comm 1]
      rfl

/-- A list is read one by one, each item with the gaps in it. -/
theorem Read.list_varies {α : Type} {read : Read α} {json : α → Value} {reset : α → Gaps → α}
    {gone : Gaps} (hread : ∀ index a w, Varies (gone.under (.item index)) (json a) w →
      read w.document = .ok (reset a (gone.under (.item index))))
    {as : List α} {w : Written} (h : Varies gone (.array (as.map json)) w) :
    list read w.document = .ok (as.mapIdx fun i a => reset a (gone.under (.item i))) := by
  cases h with
  | array h =>
    have hitems := items_varies hread h
    simp only [Nat.zero_add] at hitems
    exact hitems

/-! ## Records -/

/-- What a reader of members meets. -/
def WrittenMember.document (m : WrittenMember) : Quoted × Document :=
  (quotedOf m.1.content, m.2.content.document)

theorem memberDocuments_eq_map (members : List WrittenMember) :
    Written.memberDocuments members = members.map WrittenMember.document := by
  induction members with
  | nil => rfl
  | cons m members ih => exact congrArg (m.document :: ·) ih

namespace Shape

variable {σ : Type} {s : Shape σ} {only : (String → Bool) → σ}

/-- The names of the fields. -/
def names (s : Shape σ) : List String := s.fields.map Field.name

/-- What a member with a name does to a record of which some fields are there: it adds its field, if
the name is that of a field, and is passed over otherwise. -/
inductive Adds (s : Shape σ) (only : (String → Bool) → σ) : Quoted × Document → String → Prop
  | field {key : Quoted} {d : Document} {field : Field σ} (hfield : field ∈ s.fields)
      (hkey : key.read = .ok field.name)
      (hfill : ∀ has, field.fill d (only has) =
        .ok (only fun name => name = field.name || has name)) : Adds s only (key, d) field.name
  | other {key : Quoted} {d : Document} {name : String} (hname : name ∉ s.names)
      (hkey : key.read = .ok name) (hskip : d.skip = none) : Adds s only (key, d) name

/-- A member that is no field is passed over. -/
theorem readMembers_other {seen : List String} {key : Quoted} {d : Document}
    {ds : List (Quoted × Document)} {record : σ} {name : String} {ending : ObjectEnd}
    (hname : name ∉ s.names) (hkey : key.read = .ok name) (hskip : d.skip = none) :
    s.readMembers ending seen ((key, d) :: ds) record = s.readMembers ending seen ds record := by
  have hfind : s.fields.find? (fun f => f.name = name) = none := by
    refine List.find?_eq_none.2 fun f hf heq => hname ?_
    exact List.mem_map.2 ⟨f, hf, of_decide_eq_true heq⟩
  rw [readMembers, hkey]
  dsimp only
  rw [hfind]
  dsimp only
  rw [hskip]

/-- **Members are read in any order.** Those that are fields are there in the end, with those that
have been read before. -/
theorem readMembers_adds (hnames : s.names.Nodup) {members : List (Quoted × Document)}
    {found : List String} (h : List.Forall₂ (s.Adds only) members found) {seen : List String}
    {has has' : String → Bool} (hhas : ∀ name, has name = true ↔ name ∈ seen)
    (hhas' : ∀ name, has' name = true ↔ name ∈ found ∧ name ∈ s.names ∨ name ∈ seen)
    (honce : (found.filter (· ∈ s.names)).Nodup)
    (hnew : ∀ name ∈ found, name ∈ s.names → name ∉ seen)
    (hrequired : ∀ field ∈ s.fields, field.required = true → has' field.name = true) :
    s.readMembers .closed seen members (only has) = .ok (only has') := by
  induction h generalizing seen has with
  | nil =>
    have hsame : has' = has := by
      funext name
      rw [Bool.eq_iff_iff, hhas', hhas]
      simp
    have hmissing : s.missing? seen = none := by
      simp only [missing?, Option.map_eq_none_iff, List.find?_eq_none]
      intro field hfield hmissed
      obtain ⟨hfield', hunseen⟩ := Bool.and_eq_true_iff.1 hmissed
      have hseen := (hhas field.name).1 (hsame ▸ hrequired field hfield hfield')
      simp [hseen] at hunseen
    rw [readMembers, hmissing, hsame]
    rfl
  | @cons m name members found hm hs ih =>
    cases hm with
    | other hname hkey hskip =>
      rw [readMembers_other hname hkey hskip]
      refine ih hhas (fun n => ?_) ?_ (fun n hn => hnew n (List.mem_cons_of_mem _ hn))
      · rw [hhas', List.mem_cons]
        have hne : n = name → n ∉ s.names := by
          rintro rfl
          exact hname
        tauto
      · rwa [List.filter_cons_of_neg (by simpa using hname)] at honce
    | @field key d field hfield hkey hfill =>
      have hname : field.name ∈ s.names := List.mem_map_of_mem hfield
      rw [List.filter_cons_of_pos (by simpa using hname), List.nodup_cons] at honce
      rw [readMembers_field hkey (find?_field hnames hfield) (hnew _ List.mem_cons_self hname),
        hfill has]
      refine ih (fun n => ?_) (fun n => ?_) honce.2 (fun n hn hn' => ?_)
      · rw [Bool.or_eq_true, decide_eq_true_iff, hhas, List.mem_cons]
      · rw [hhas', List.mem_cons, List.mem_cons]
        have hmem : n = field.name → n ∈ s.names := by
          rintro rfl
          exact hname
        tauto
      · rw [List.mem_cons, not_or]
        refine ⟨?_, hnew n (List.mem_cons_of_mem _ hn) hn'⟩
        rintro rfl
        exact honce.1 (List.mem_filter.2 ⟨hn, decide_eq_true hn'⟩)

/-- A field fits to a member of a value if it fills in whatever is written of the member. -/
structure Fits (gone : Gaps) (only : (String → Bool) → σ) (field : Field σ) (m : String × Value) :
    Prop where
  name : m.1 = field.name
  fill : ∀ w, Varies (gone.under (.member field.name)) m.2 w → ∀ has,
    field.fill w.document (only has) = .ok (only fun name => name = field.name || has name)

section

variable {α : Type} {name : String} {read : Read α} {set : α → σ → σ} {gone : Gaps} {v : Value}
  {a : α}

/-- A field fits that is set to what is read, whatever else is there. -/
theorem Fits.mandatory
    (hread : ∀ w, Varies (gone.under (.member name)) v w → read w.document = .ok a)
    (hset : ∀ has, set a (only has) = only fun n => n = name || has n) :
    Fits gone only (.mandatory name read set) (name, v) where
  name := rfl
  fill w hw has := (congrArg ((set · (only has)) <$> ·) (hread w hw)).trans
    (congrArg Except.ok (hset has))

/-- A field that may be missing fits its member, there or not. -/
theorem Fits.omissible
    (hread : ∀ w, Varies (gone.under (.member name)) v w → read w.document = .ok a)
    (hset : ∀ has, set a (only has) = only fun n => n = name || has n) :
    Fits gone only (.omissible name read set) (name, v) where
  name := rfl
  fill w hw has := (congrArg ((set · (only has)) <$> ·) (hread w hw)).trans
    (congrArg Except.ok (hset has))

end

/-- The fields that have to be there are not left out. -/
def Spares (s : Shape σ) (gone : Gaps) : Prop :=
  ∀ field ∈ s.fields, field.required = true → gone [.member field.name] = false

variable {gone : Gaps} {ms : List (String × Value)}

/-- Members that fit fields have their names. -/
theorem names_of_fits {fields : List (Field σ)} (h : List.Forall₂ (Fits gone only) fields ms) :
    ms.map Prod.fst = fields.map Field.name := by
  induction h with
  | nil => rfl
  | cons hf hs ih => rw [List.map_cons, List.map_cons, hf.name, ih]

/-- The members that are kept add their fields. -/
theorem adds_of_kept {fields : List (Field σ)} (hsub : fields ⊆ s.fields)
    (hfits : List.Forall₂ (Fits gone only) fields ms) {kept : List WrittenMember}
    (h : VariesMembers gone ms kept) : List.Forall₂ (s.Adds only) (kept.map WrittenMember.document)
      ((ms.map Prod.fst).filter fun name => !gone [.member name]) := by
  induction hfits generalizing kept with
  | nil =>
    cases h with
    | nil => exact .nil
  | @cons field m fields ms hf hfits ih =>
    obtain ⟨hfield, hsub⟩ := List.cons_subset.1 hsub
    obtain ⟨key, v⟩ := m
    obtain ⟨rfl, hfill⟩ := hf
    cases h with
    | gap hgone hs =>
      rw [List.map_cons, List.filter_cons_of_neg (by simpa using hgone)]
      exact ih hsub hs
    | kept hgone hkey hv hs =>
      rw [List.map_cons, List.map_cons, List.filter_cons_of_pos (by simpa using hgone)]
      exact .cons (.field hfield hkey (hfill _ hv)) (ih hsub hs)

/-- The members that are added are passed over. -/
theorem adds_of_added (only : (String → Bool) → σ) {added : List WrittenMember}
    (h : ∀ m ∈ added, ∃ name, m.Named name ∧ name ∉ s.names) :
    ∃ others, List.Forall₂ (s.Adds only) (added.map WrittenMember.document) others ∧
      ∀ name ∈ others, name ∉ s.names := by
  induction added with
  | nil => exact ⟨[], .nil, nofun⟩
  | cons m added ih =>
    obtain ⟨name, hkey, hname⟩ := h m List.mem_cons_self
    obtain ⟨others, hadds, hothers⟩ := ih fun m' hm' => h m' (List.mem_cons_of_mem _ hm')
    refine ⟨name :: others, .cons (.other hname hkey (Written.skip_document _)) hadds, ?_⟩
    exact List.forall_mem_cons.2 ⟨hname, hothers⟩

/-- **A record with gaps and additions is read as what is there of it.** -/
theorem read_varies (only : (String → Bool) → σ) (hnames : s.names.Nodup)
    (hblank : only (fun _ => false) = s.blank)
    (hfits : List.Forall₂ (Fits gone only) s.fields ms) (hspares : s.Spares gone) {w : Written}
    (h : Varies gone (.object ms) w) :
    s.read w.document = .ok (only fun name => name ∈ s.names && !gone [.member name]) := by
  have hkeys : ms.map Prod.fst = s.names := names_of_fits hfits
  cases h with
  | @object _ _ kept added members last hkept hadded horder =>
    rw [hkeys] at hadded
    have hkept := adds_of_kept (List.Subset.refl _) hfits hkept
    rw [hkeys] at hkept
    obtain ⟨others, hadded, hothers⟩ := adds_of_added only hadded
    have hall : List.Forall₂ (s.Adds only) ((kept ++ added).map WrittenMember.document)
        ((s.names.filter fun name => !gone [.member name]) ++ others) := by
      rw [List.map_append]
      exact List.rel_append hkept hadded
    obtain ⟨found, hfound, hperm⟩ := List.perm_comp_forall₂ (horder.map _) hall
    have hmem : ∀ name, name ∈ found ∧ name ∈ s.names ↔
        name ∈ s.names ∧ gone [.member name] = false := by
      intro name
      have hother : name ∈ others → name ∉ s.names := hothers name
      rw [hperm.mem_iff, List.mem_append, List.mem_filter, Bool.not_eq_true']
      tauto
    have honce : (found.filter (· ∈ s.names)).Nodup := by
      have hnone : others.filter (· ∈ s.names) = [] :=
        List.filter_eq_nil_iff.2 fun name hname => by simpa using hothers name hname
      rw [(hperm.filter _).nodup_iff, List.filter_append, hnone, List.append_nil]
      exact (hnames.filter _).filter _
    rw [Written.document, read, ← hblank, memberDocuments_eq_map]
    refine readMembers_adds hnames hfound (fun name => by simp) (fun name => ?_) honce
      (fun name _ _ => List.not_mem_nil) fun field hfield hrequired => ?_
    · rw [hmem name]
      simp
    · have hname : field.name ∈ s.names := List.mem_map_of_mem hfield
      simp [hname, hspares field hfield hrequired]

end Shape

end RadioData.Json
