import RadioData.Proofs.CommandLine.Written
import RadioData.Proofs.Settings.Reload
import RadioData.Server
/-!
# Printed settings are a checkpoint

What is printed when settings are asked for is the text of the settings and an end of line, and a
file that holds this is read as those settings (`Settings.ofText_line`). They are the settings of
the file before, with what the options say in its place; to apply some of these options once more
changes nothing (`Options.Within.apply_apply`). So whoever saves what was printed and asks again,
with any of the options or with none, gets the same text: `printed_settings_are_checkpoint` is the
main statement.
-/

namespace RadioData

open Json

/-! ## Settings on a line -/

namespace Settings

/-- An end of line behind settings does not matter. -/
theorem ofText_line (s : Settings) : ofText (s.text ++ "\n") = .ok s := by
  have hread := Document.ofText_written .none (s.json.written 0 s.exact) (Value.lineStart 0)
  have hchars : s.text ++ "\n" = String.ofList (Blanks.none.chars ++
      (s.json.written 0 s.exact).chars ++ (Value.lineStart 0).chars) := by
    rw [s.json.chars_written 0 s.exact, Blanks.none, List.nil_append, String.ofList_append]
    rfl
  rw [ofText, hchars, hread]
  dsimp only
  rw [Document.trailing_blanks, s.json.document_written 0 s.exact, readText, s.read_json]

theorem ofFile_utf8 (path text : String) {s : Settings} (h : ofText text = .ok s) :
    ofFile path (.ok text.toUTF8) = .ok s := by
  have htext : String.fromUTF8? text.toUTF8 = some text := dif_pos text.isValidUTF8
  simp only [ofFile, htext, h]

end Settings

/-! ## Options that are applied again -/

/-- Options that say of the settings themselves nothing that others do not say. -/
structure Options.Within (part whole : Options) : Prop where
  listen : part.listen = none ∨ part.listen = whole.listen
  device : part.device = none ∨ part.device = whole.device
  pollIntervalMs : part.pollIntervalMs = none ∨ part.pollIntervalMs = whole.pollIntervalMs
  simulate : part.simulate = true → whole.simulate = true

namespace Options

variable {part o : Options} {s : Settings}

/-- A value that is put in place of another one stays when it is put there again. -/
theorem getD_getD {α : Type} {part whole : Option α} (h : part = none ∨ part = whole) (a : α) :
    part.getD (whole.getD a) = whole.getD a := by
  rcases h with rfl | rfl
  · rfl
  · cases part <;> rfl

/-- **Options that have been applied change nothing when some of them are applied again.** -/
theorem Within.apply_apply (h : part.Within o) (s : Settings) :
    part.apply (o.apply s) = o.apply s := by
  have hsimulate : (s.simulate || o.simulate || part.simulate) = (s.simulate || o.simulate) := by
    cases hpart : part.simulate with
    | false => rw [Bool.or_false]
    | true => rw [h.simulate hpart, Bool.or_true, Bool.or_true]
  rw [apply, apply, getD_getD h.listen, getD_getD h.device, getD_getD h.pollIntervalMs, hsimulate]

/-- What options and a file lead to are the options in place of what the file says, or of the
defaults if there is none. -/
theorem settings_eq_ok_iff {content : String → Except SystemError ByteArray} :
    o.settings content = .ok s ↔ ∃ base, o.apply base = s ∧
      (o.config = none ∧ base = {} ∨
        ∃ path, o.config = some path ∧ Settings.ofFile path (content path) = .ok base) := by
  rw [settings]
  cases hconfig : o.config with
  | none => simp
  | some path =>
    cases hfile : Settings.ofFile path (content path) with
    | error e => simp [Except.map, hfile]
    | ok base => simp [Except.map, hfile]

/-- Settings that are asked for are printed on lines of their own. -/
theorem plan_eq_print_iff (hprint : o.printConfig = true)
    {content : String → Except SystemError ByteArray} {printed : String} :
    (Invocation.run o).plan content = .print printed ↔
      ∃ s, o.settings content = .ok s ∧ s.text ++ "\n" = printed := by
  rw [Invocation.plan]
  cases o.settings content with
  | error e => simp
  | ok s => simp [hprint]

end Options

/-- **Printed settings are a checkpoint.** What is printed when settings are asked for is read as
the settings of the file, or as the defaults if none is named, with exactly what the options say in
place of the address, the device and the poll interval, and with simulation if either asks for it.
A file that holds what was printed can be asked for again with any of these options or with none,
and however this is said, the same is printed. -/
theorem printed_settings_are_checkpoint {arguments : List String}
    {content : String → Except SystemError ByteArray} {o : Options} {printed : String}
    (hparse : CommandLine.parse arguments = some (.run o)) (hprint : o.printConfig = true)
    (hplan : plan arguments content = .print printed) :
    (∃ base s : Settings,
      (o.config = none ∧ base = {} ∨
        ∃ path, o.config = some path ∧ Settings.ofFile path (content path) = .ok base) ∧
      printed = s.text ++ "\n" ∧ Settings.ofText printed = .ok s ∧
      s.listen = o.listen.getD base.listen ∧ s.device = o.device.getD base.device ∧
      s.pollIntervalMs = o.pollIntervalMs.getD base.pollIntervalMs ∧
      s.simulate = (base.simulate || o.simulate) ∧ s.simulation = base.simulation) ∧
    ∀ (part : Options) (path : String), part.Within o → path ≠ "" →
      let again : Options := { part with config := some path, printConfig := true }
      (∃ arguments, CommandLine.parse arguments = some (.run again)) ∧
      ∀ (arguments : List String) (content : String → Except SystemError ByteArray),
        CommandLine.parse arguments = some (.run again) → content path = .ok printed.toUTF8 →
          plan arguments content = .print printed := by
  rw [plan, hparse] at hplan
  obtain ⟨s, hsettings, rfl⟩ := (Options.plan_eq_print_iff hprint).1 hplan
  obtain ⟨base, rfl, hbase⟩ := Options.settings_eq_ok_iff.1 hsettings
  refine ⟨⟨base, _, hbase, rfl, Settings.ofText_line _, rfl, rfl, rfl, rfl, rfl⟩, ?_⟩
  intro part path hpart hpath again
  refine ⟨CommandLine.exists_parse_iff.2 ⟨?_, ?_⟩, fun arguments content hparse hcontent => ?_⟩
  · have hdevice : o.device ≠ some "" := (CommandLine.exists_parse_iff.1 ⟨_, hparse⟩).device
    show part.device ≠ some ""
    rcases hpart.device with h | h
    · rw [h]
      exact nofun
    · rwa [h]
  · exact fun h => hpath (Option.some.inj h)
  · have hfile : Settings.ofFile path (content path) = .ok (o.apply base) := by
      rw [hcontent]
      exact Settings.ofFile_utf8 path _ (Settings.ofText_line _)
    have hsame : again.apply (o.apply base) = o.apply base := hpart.apply_apply base
    rw [plan, hparse]
    refine (Options.plan_eq_print_iff rfl).2 ⟨o.apply base, ?_, rfl⟩
    exact Options.settings_eq_ok_iff.2 ⟨_, hsame, .inr ⟨path, rfl, hfile⟩⟩

/-- A file that names a device and a poll interval, printed with another address and with
simulation; what was printed is asked for once more with simulation alone. -/
theorem printed_settings_are_checkpoint_simulated :
    let file := "\x7b\"device\": \"/dev/radio1\", \"poll_interval_ms\": 5\x7d"
    let s : Settings :=
      { listen := .v4 ⟨127, 0, 0, 1⟩ 80, device := "/dev/radio1", pollIntervalMs := 5,
        simulate := true }
    plan ["-f", "a.json", "--print-config", "-l127.0.0.1:80", "--simulate"]
        (fun _ => .ok file.toUTF8) = .print (s.text ++ "\n") ∧
      plan ["--simulate", "--config=b.json", "--print-config"]
        (fun _ => .ok (s.text ++ "\n").toUTF8) = .print (s.text ++ "\n") := by
  intro file s
  let o : Options :=
    { listen := some (.v4 ⟨127, 0, 0, 1⟩ 80), config := some "a.json", simulate := true,
      printConfig := true }
  have hparse : CommandLine.parse
      ["-f", "a.json", "--print-config", "-l127.0.0.1:80", "--simulate"] = some (.run o) := by
    decide +kernel
  have hfile : Settings.ofFile "a.json" (.ok file.toUTF8) =
      .ok { device := "/dev/radio1", pollIntervalMs := 5 } :=
    Settings.ofFile_utf8 _ _ (by decide +kernel)
  have hplan : plan ["-f", "a.json", "--print-config", "-l127.0.0.1:80", "--simulate"]
      (fun _ => .ok file.toUTF8) = .print (s.text ++ "\n") := by
    rw [plan, hparse]
    refine (Options.plan_eq_print_iff rfl).2 ⟨s, ?_, rfl⟩
    exact Options.settings_eq_ok_iff.2 ⟨_, rfl, .inr ⟨_, rfl, hfile⟩⟩
  have hpart : Options.Within { simulate := true } o :=
    ⟨.inl rfl, .inl rfl, .inl rfl, fun _ => rfl⟩
  obtain ⟨-, hagain⟩ := printed_settings_are_checkpoint hparse rfl hplan
  exact ⟨hplan, (hagain _ "b.json" hpart (by decide)).2 _ _ (by decide +kernel) rfl⟩

end RadioData
