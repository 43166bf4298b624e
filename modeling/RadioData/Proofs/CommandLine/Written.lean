import RadioData.CommandLine
import RadioData.Proofs.Net.Address
import RadioData.Proofs.Text.Numeral
/-!
# Which options can be said

Options are written as one argument each, with their long names (`Options.arguments`), and read as
they were written (`CommandLine.parse_arguments`), unless a path is empty. No command line gives an
empty path: what every option keeps is kept by a whole line (`CommandLine.Kept.readAll`).
`CommandLine.exists_parse_iff` says both.
-/

namespace RadioData

/-! ## Options as arguments -/

/-- The long name. -/
def ValueOption.name : ValueOption → String
  | .listen => "listen"
  | .device => "device"
  | .config => "config"
  | .pollIntervalMs => "poll-interval-ms"

/-- The long name. -/
def FlagOption.name : FlagOption → String
  | .simulate => "simulate"
  | .printConfig => "print-config"
  | .verbose => "verbose"
  | .help => "help"
  | .version => "version"

/-- The argument that gives an option a value. -/
def ValueOption.argument (v : ValueOption) (value : String) : String :=
  "--" ++ v.name ++ "=" ++ value

/-- The argument that sets a flag. -/
def FlagOption.argument (f : FlagOption) : String := "--" ++ f.name

/-- The argument that gives an option its value, if it has one. -/
def ValueOption.arguments (v : ValueOption) (value : Option String) : List String :=
  (value.map v.argument).toList

/-- The argument that sets a flag, if it is set. -/
def FlagOption.arguments (f : FlagOption) (set : Bool) : List String :=
  if set then [f.argument] else []

/-- Options as arguments. -/
def Options.arguments (o : Options) : List String :=
  ValueOption.listen.arguments (o.listen.map SocketAddress.text) ++
  ValueOption.device.arguments o.device ++
  ValueOption.config.arguments o.config ++
  ValueOption.pollIntervalMs.arguments (o.pollIntervalMs.map toString) ++
  FlagOption.simulate.arguments o.simulate ++
  FlagOption.printConfig.arguments o.printConfig ++
  FlagOption.verbose.arguments o.verbose

/-- Options that can be said on a command line: no path is empty. -/
structure Options.Sayable (o : Options) : Prop where
  device : o.device ≠ some ""
  config : o.config ≠ some ""

namespace CommandLine

variable {o next : Options}

/-! ## Options are read as they were written -/

/-- An option with a value is found by its long name. -/
theorem long?_name (v : ValueOption) : long? v.name.toList = some (.value v) := by
  cases v <;> rfl

/-- A long name holds no equals sign, so the first one in an argument ends the name. -/
theorem ne_equals_of_mem_name (v : ValueOption) : ∀ c ∈ v.name.toList, (c != '=') = true := by
  refine List.all_eq_true.1 ?_
  cases v <;> rfl

/-- A long option is read up to its equals sign. -/
theorem readArgument_argument (o : Options) (v : ValueOption) (value : String) :
    readArgument o (v.argument value).toList = .ofOption (giveValue o v value.toList) := by
  have hchars : (v.argument value).toList =
      '-' :: '-' :: (v.name.toList ++ '=' :: value.toList) := by
    simp [ValueOption.argument]
  have hname : (v.name.toList ++ '=' :: value.toList).takeWhile (· != '=') = v.name.toList := by
    rw [List.takeWhile_append_of_pos (ne_equals_of_mem_name v)]
    exact List.append_nil _
  have hvalue : (v.name.toList ++ '=' :: value.toList).dropWhile (· != '=') =
      '=' :: value.toList := by
    rw [List.dropWhile_append_of_pos (ne_equals_of_mem_name v)]
    rfl
  rw [hchars, readArgument, readLong, hname, hvalue, long?_name]

/-- The argument of a flag sets it, help and version included. -/
theorem readArgument_argument_flag (o : Options) (f : FlagOption) :
    readArgument o f.argument.toList = giveFlag o f := by
  cases f <;> rfl

/-- Reading goes on behind an argument. -/
theorem readAll_cons {argument : List Char} (h : readArgument o argument = .next next)
    (rest : List (List Char)) : readAll o (argument :: rest) = readAll next rest := by
  rw [readAll.eq_def]
  split
  · next hnil => cases hnil
  · next hdashes =>
    cases hdashes
    cases h
  · next hcons =>
    cases hcons
    rw [h]

/-- An option that has a value is given it, and one that has none is passed over. -/
theorem readAll_arguments (next : Options) {v : ValueOption} {value : Option String}
    (h : (value.elim (some o) fun s => giveValue o v s.toList) = some next) (rest : List String) :
    readAll o ((v.arguments value ++ rest).map String.toList) =
      readAll next (rest.map String.toList) := by
  cases value with
  | none =>
    cases h
    rfl
  | some s =>
    refine readAll_cons ?_ _
    rw [readArgument_argument]
    exact congrArg Step.ofOption h

/-- A flag that is set is read, and one that is not is passed over. -/
theorem readAll_arguments_flag (next : Options) {f : FlagOption} {set : Bool}
    (h : (if set then giveFlag o f else .next o) = .next next) (rest : List String) :
    readAll o ((f.arguments set ++ rest).map String.toList) =
      readAll next (rest.map String.toList) := by
  cases set with
  | false =>
    cases h
    rfl
  | true =>
    refine readAll_cons ?_ _
    rw [readArgument_argument_flag]
    exact h

/-- An address is given as it was written. -/
theorem giveValue_listen (h : o.listen = none) (a : SocketAddress) :
    giveValue o .listen a.text.toList = some { o with listen := some a } := by
  rw [giveValue, String.ofList_toList, a.ofText?_text, h]
  rfl

/-- A path is taken as it was written, unless it is empty. -/
theorem path?_toList {path : String} (h : path ≠ "") : path? path.toList = some path := by
  rw [path?, if_neg (by simpa using h), String.ofList_toList]

/-- A device is given as it was written. -/
theorem giveValue_device (h : o.device = none) {path : String} (hpath : path ≠ "") :
    giveValue o .device path.toList = some { o with device := some path } := by
  rw [giveValue, path?_toList hpath, h]
  rfl

/-- A settings file is given as it was written. -/
theorem giveValue_config (h : o.config = none) {path : String} (hpath : path ≠ "") :
    giveValue o .config path.toList = some { o with config := some path } := by
  rw [giveValue, path?_toList hpath, h]
  rfl

/-- An interval is given as it was written: its digits denote it, and it fits. -/
theorem giveValue_pollIntervalMs (h : o.pollIntervalMs = none) (ms : UInt64) :
    giveValue o .pollIntervalMs (toString ms).toList =
      some { o with pollIntervalMs := some ms } := by
  have hfits : ms.toNat ≤ UInt64.size - 1 := Nat.le_sub_one_of_lt ms.toNat_lt
  have hdigits : Numeral.Denotes (toString ms).toList ms.toNat := by
    rw [show toString ms = toString ms.toNat from rfl, Text.toList_toString]
    exact .plain (Numeral.digits_toDigits ms.toNat)
  rw [giveValue, Numeral.readUpTo?_eq_some_iff.2 ⟨hdigits, hfits⟩, h, Option.map_some]
  simp [setOnce]

/-- **Options are read as they were written.** -/
theorem parse_arguments (o : Options) (h : o.Sayable) : parse o.arguments = some (.run o) := by
  obtain ⟨listen, device, config, pollIntervalMs, simulate, printConfig, verbose⟩ := o
  obtain ⟨hdevice, hconfig⟩ := h
  rw [parse, Options.arguments, ← List.append_nil (FlagOption.verbose.arguments _)]
  simp only [List.append_assoc]
  refine (readAll_arguments { listen } ?_ _).trans ?_
  · cases listen with
    | none => rfl
    | some a => exact giveValue_listen rfl a
  refine (readAll_arguments { listen, device } ?_ _).trans ?_
  · cases device with
    | none => rfl
    | some path => exact giveValue_device rfl fun hpath => hdevice (congrArg some hpath)
  refine (readAll_arguments { listen, device, config } ?_ _).trans ?_
  · cases config with
    | none => rfl
    | some path => exact giveValue_config rfl fun hpath => hconfig (congrArg some hpath)
  refine (readAll_arguments { listen, device, config, pollIntervalMs } ?_ _).trans ?_
  · cases pollIntervalMs with
    | none => rfl
    | some ms => exact giveValue_pollIntervalMs rfl ms
  let valued : Options := { listen, device, config, pollIntervalMs }
  refine (readAll_arguments_flag { valued with simulate } ?_ _).trans ?_
  · cases simulate <;> rfl
  refine (readAll_arguments_flag { valued with simulate, printConfig } ?_ _).trans ?_
  · cases printConfig <;> rfl
  refine (readAll_arguments_flag { valued with simulate, printConfig, verbose } ?_ _).trans rfl
  cases verbose <;> rfl

/-! ## What a command line keeps -/

/-- Whether a step leads only to options with a property. -/
def Step.LeadsTo (P : Options → Prop) : Step → Prop
  | .refused => True
  | .done i => ∀ o, i ≠ .run o
  | .next o | .value o _ => P o

/-- A property that options keep when one of them is given. -/
structure Kept (P : Options → Prop) : Prop where
  value : ∀ {o next : Options} {v : ValueOption} {value : List Char},
    P o → giveValue o v value = some next → P next
  flag : ∀ {o : Options} (f : FlagOption), P o → (giveFlag o f).LeadsTo P

variable {P : Options → Prop}

/-- Giving a value keeps what every option keeps, or the line is refused. -/
theorem Kept.ofOption (h : Kept P) (ho : P o) (v : ValueOption) (value : List Char) :
    (Step.ofOption (giveValue o v value)).LeadsTo P := by
  cases hgive : giveValue o v value with
  | none => trivial
  | some next => exact h.value ho hgive

/-- A long option keeps it, with its value or without. -/
theorem Kept.readLong (h : Kept P) (ho : P o) (argument : List Char) :
    (readLong o argument).LeadsTo P := by
  rw [CommandLine.readLong]
  split
  · trivial
  · next f _ _ => exact h.flag f ho
  · exact ho
  · trivial
  · next v _ _ => exact h.ofOption ho v _

/-- Short options that are joined keep it, one after the other. -/
theorem Kept.readShort (h : Kept P) (ho : P o) (cs : List Char) : (readShort o cs).LeadsTo P := by
  induction cs generalizing o with
  | nil => exact ho
  | cons c cs ih =>
    rw [CommandLine.readShort]
    split
    · trivial
    · split
      · exact ho
      · exact h.ofOption ho _ _
      · exact h.ofOption ho _ _
    · next f _ =>
      have hflag := h.flag f ho
      split
      · next hnext =>
        rw [hnext] at hflag
        exact ih hflag
      · exact hflag

/-- An argument of any form keeps it. -/
theorem Kept.readArgument (h : Kept P) (ho : P o) (argument : List Char) :
    (readArgument o argument).LeadsTo P := by
  rw [CommandLine.readArgument.eq_def]
  split
  · exact h.readLong ho _
  · exact h.readShort ho _
  · trivial

/-- **What every option keeps is kept by a whole line.** -/
theorem Kept.readAll (h : Kept P) (ho : P o) {arguments : List (List Char)} {last : Options}
    (hread : readAll o arguments = some (.run last)) : P last := by
  fun_induction CommandLine.readAll o arguments with
  | case1 | case2 =>
    cases hread
    exact ho
  | case3 | case4 | case7 | case8 | case9 => cases hread
  | case5 o argument _ _ i hdone =>
    have hleads := h.readArgument ho argument
    rw [hdone] at hleads
    exact absurd (Option.some.inj hread) (hleads last)
  | case6 o argument _ next _ hnext ih =>
    have hleads := h.readArgument ho argument
    rw [hnext] at hleads
    exact ih hleads hread
  | case10 o argument _ before v value _ hvalue _ next hgive ih =>
    have hleads := h.readArgument ho argument
    rw [hvalue] at hleads
    exact ih (h.value hleads hgive) hread

/-! ## Which options can be said -/

/-- An option is set just where it has no value yet and the new one can be read. -/
theorem setOnce_eq_some_iff {α : Type} {old new : Option α} {set : Option α → Options} :
    setOnce old new set = some next ↔ ∃ a, old = none ∧ new = some a ∧ next = set (some a) := by
  cases old <;> cases new <;> simp [setOnce, eq_comm]

/-- A path that is taken is not empty. -/
theorem path?_ne_empty {value : List Char} {path : String} (h : path? value = some path) :
    path ≠ "" := by
  rw [path?, Option.ite_none_left_eq_some] at h
  obtain ⟨hvalue, hpath⟩ := h
  cases hpath
  simpa using hvalue

/-- No option makes a path empty. -/
theorem kept_sayable : Kept Options.Sayable where
  value {o next v value} ho hgive := by
    obtain ⟨hdevice, hconfig⟩ := ho
    cases v with
    | listen | pollIntervalMs =>
      rw [giveValue, setOnce_eq_some_iff] at hgive
      obtain ⟨_, -, -, rfl⟩ := hgive
      exact ⟨hdevice, hconfig⟩
    | device =>
      rw [giveValue, setOnce_eq_some_iff] at hgive
      obtain ⟨path, -, hpath, rfl⟩ := hgive
      exact ⟨fun h => path?_ne_empty hpath (Option.some.inj h), hconfig⟩
    | config =>
      rw [giveValue, setOnce_eq_some_iff] at hgive
      obtain ⟨path, -, hpath, rfl⟩ := hgive
      exact ⟨hdevice, fun h => path?_ne_empty hpath (Option.some.inj h)⟩
  flag {o} f ho := by
    cases f with
    | simulate | printConfig | verbose =>
      rw [giveFlag]
      split
      · trivial
      · exact ⟨ho.device, ho.config⟩
    | help | version => exact fun _ => nofun

/-- **Options can be said if and only if no path is empty**, and those that can be said can be said
with long names, each in an argument of its own. -/
theorem exists_parse_iff : (∃ arguments, parse arguments = some (.run o)) ↔ o.Sayable := by
  constructor
  · rintro ⟨arguments, hparse⟩
    have hnew : ({} : Options).Sayable := ⟨nofun, nofun⟩
    exact kept_sayable.readAll hnew hparse
  · intro h
    exact ⟨o.arguments, parse_arguments o h⟩

end CommandLine

end RadioData
