import RadioData.Proofs.Command.Argument
/-!
# The grammar of command lines

`Meaning` is the command language as a grammar: a rule for each kind of line, over the words of the
line as they came. Which characters may stand for the letters of a verb is what `Spells` says.
`parse_grammar` is the main statement: over all lines of Unicode, `parse` gives what the grammar
gives and nothing else, and white space only tells the words apart.
-/

namespace RadioData.Command

open Text (IsWords)
open UpperCase (upper Spells Plain)
open Numeral (Denotes)

/-- The words that a line can begin with. -/
def verbs : List String :=
  ["QUIT", "SET_FREQ", "GET_FREQ", "GET_SIGNAL", "SEEK", "UP", "DOWN", "ID"]

/-- The verbs that make a command whatever follows them. -/
def simpleVerbs : List (String × Command) :=
  [("QUIT", .quit), ("GET_FREQ", .getFrequency), ("GET_SIGNAL", .getSignal), ("UP", .step .up),
    ("DOWN", .step .down), ("ID", .identify)]

/-- What a line with the given words is taken for. -/
inductive Meaning : List (List Char) → Except CommandError Command → Prop
  /-- There is no word. -/
  | empty : Meaning [] (.error .empty)
  /-- The verb is all that matters. -/
  | simple {word : String} {command : Command} {verb : List Char} {arguments : List (List Char)}
      (hword : (word, command) ∈ simpleVerbs) (hverb : Spells word.toList verb) :
      Meaning (verb :: arguments) (.ok command)
  /-- `DOWN` is the only argument of `SEEK`. -/
  | seekDown {verb argument : List Char} (hverb : Spells "SEEK".toList verb)
      (hdown : Spells "DOWN".toList argument) : Meaning [verb, argument] (.ok (.seek .down))
  /-- `SEEK` has no argument, another one or several. -/
  | seekUp {verb : List Char} {arguments : List (List Char)} (hverb : Spells "SEEK".toList verb)
      (hup : ∀ argument, Spells "DOWN".toList argument → arguments ≠ [argument]) :
      Meaning (verb :: arguments) (.ok (.seek .up))
  /-- The only argument of `SET_FREQ` is the number of kilohertz of a channel. -/
  | setFrequency {verb argument : List Char} {f : Frequency}
      (hverb : Spells "SET_FREQ".toList verb) (hf : Denotes (upper argument) f.khz.toNat) :
      Meaning [verb, argument] (.ok (.setFrequency f))
  /-- The only argument of `SET_FREQ` is something else. -/
  | invalidFrequency {verb argument : List Char} (hverb : Spells "SET_FREQ".toList verb)
      (hnone : ∀ f : Frequency, ¬ Denotes (upper argument) f.khz.toNat) :
      Meaning [verb, argument] (.error (.invalidFrequency (quotedArgument (upper argument))))
  /-- `SET_FREQ` has no argument or several. -/
  | missingArgument {verb : List Char} {arguments : List (List Char)}
      (hverb : Spells "SET_FREQ".toList verb) (hcount : arguments.length ≠ 1) :
      Meaning (verb :: arguments) (.error .missingArgument)
  /-- The first word is no verb. -/
  | unknownVerb {verb : List Char} {arguments : List (List Char)}
      (hverb : ∀ word ∈ verbs, ¬ Spells word.toList verb) :
      Meaning (verb :: arguments) (.error (.unknownVerb (String.ofList (upper verb))))

/-! ## Verbs -/

instance : DecidablePred UpperCase.Capital := fun u =>
  inferInstanceAs (Decidable (0x20 ≤ u.toNat ∧ u.toNat ≤ 0x60))

/-- No part of a verb is what a single character expands to. -/
theorem plain_verb {word : String} (h : word ∈ verbs) : Plain word.toList where
  capital := by
    have hall : ∀ word ∈ verbs, word.toList.all (UpperCase.Capital ·) = true := by decide +kernel
    simpa only [List.all_eq_true, decide_eq_true_eq] using hall word h
  unexpanded := by
    have hall : ∀ word ∈ verbs, ∀ e ∈ UpperCase.expansions,
        ¬ e.2.map Char.ofNat <:+: word.toList := by decide +kernel
    exact hall word h

/-- What becomes a verb in upper case is what spells it. -/
theorem upper_eq_verb_iff {word : String} (h : word ∈ verbs) {token : List Char} :
    upper token = word.toList ↔ Spells word.toList token :=
  UpperCase.upper_eq_iff (plain_verb h)

/-- A simple verb does not mind what follows it. -/
theorem ofTokens_simple {word : String} {command : Command} (h : (word, command) ∈ simpleVerbs)
    (arguments : List (List Char)) : ofTokens word.toList arguments = .ok command := by
  simp only [simpleVerbs, List.mem_cons, Prod.mk.injEq, List.not_mem_nil, or_false] at h
  rcases h with ⟨rfl, rfl⟩ | ⟨rfl, rfl⟩ | ⟨rfl, rfl⟩ | ⟨rfl, rfl⟩ | ⟨rfl, rfl⟩ | ⟨rfl, rfl⟩ <;> rfl

/-- Simple verbs are verbs. -/
theorem mem_verbs_of_simple {word : String} {command : Command}
    (h : (word, command) ∈ simpleVerbs) : word ∈ verbs := by
  have hall : ∀ p ∈ simpleVerbs, p.1 ∈ verbs := by decide
  exact hall _ h

/-- The verbs are the simple ones, `SEEK` and `SET_FREQ`. -/
theorem verbs_cases {word : String} (h : word ∈ verbs) :
    (∃ command, (word, command) ∈ simpleVerbs) ∨ word = "SEEK" ∨ word = "SET_FREQ" := by
  have hall : ∀ word ∈ verbs, word ∈ simpleVerbs.map Prod.fst ∨ word = "SEEK" ∨
      word = "SET_FREQ" := by decide
  refine (hall word h).imp_left fun hsimple => ?_
  obtain ⟨⟨word, command⟩, hmem, rfl⟩ := List.mem_map.1 hsimple
  exact ⟨command, hmem⟩

/-! ## Lines by their verbs -/

section
variable {line : String} {verb : List Char} {arguments : List (List Char)}

/-- A line with a simple verb is its command. -/
theorem parse_of_simple {word : String} {command : Command}
    (hwords : IsWords line.toList (verb :: arguments)) (hword : (word, command) ∈ simpleVerbs)
    (hverb : Spells word.toList verb) : parse line = .ok command := by
  rw [parse_of_words hwords, (upper_eq_verb_iff (mem_verbs_of_simple hword)).2 hverb,
    ofTokens_simple hword]

/-- A line that asks to seek does so upwards, unless its only argument is `DOWN`. -/
theorem parse_of_seek (hwords : IsWords line.toList (verb :: arguments))
    (hverb : Spells "SEEK".toList verb) :
    parse line = .ok (.seek (if arguments.map upper = ["DOWN".toList] then .down else .up)) := by
  rw [parse_of_words hwords, (upper_eq_verb_iff (by decide)).2 hverb]
  rfl

/-- Upper case makes `DOWN` the only argument if it is spelled so. -/
theorem map_upper_eq_down_iff : arguments.map upper = ["DOWN".toList] ↔
    ∃ argument, Spells "DOWN".toList argument ∧ arguments = [argument] := by
  rw [List.map_eq_singleton_iff]
  refine exists_congr fun argument => ?_
  rw [upper_eq_verb_iff (by decide), and_comm]

/-- To set the frequency, exactly one argument is needed. -/
theorem parse_of_missing (hwords : IsWords line.toList (verb :: arguments))
    (hverb : Spells "SET_FREQ".toList verb) (hcount : arguments.length ≠ 1) :
    parse line = .error .missingArgument := by
  rw [parse_of_words hwords, (upper_eq_verb_iff (by decide)).2 hverb]
  rcases arguments with - | ⟨argument, - | ⟨further, arguments⟩⟩
  · rfl
  · exact absurd rfl hcount
  · rfl

/-- A verb that is none of the known ones is echoed in upper case. -/
theorem parse_of_unknown (hwords : IsWords line.toList (verb :: arguments))
    (hverb : ∀ word ∈ verbs, ¬ Spells word.toList verb) :
    parse line = .error (.unknownVerb (String.ofList (upper verb))) := by
  have hne {word : String} (hword : word ∈ verbs) : upper verb ≠ word.toList := fun heq =>
    hverb word hword ((upper_eq_verb_iff hword).1 heq)
  rw [parse_of_words hwords, ofTokens.eq_def, if_neg (hne (by decide)), if_neg (hne (by decide)),
    if_neg (hne (by decide)), if_neg (hne (by decide)), if_neg (hne (by decide)),
    if_neg (hne (by decide)), if_neg (hne (by decide)), if_neg (hne (by decide))]

/-! ## The grammar -/

/-- What a line is taken for follows from the grammar. -/
theorem Meaning.parse_eq {tokens : List (List Char)} {result : Except CommandError Command}
    (h : Meaning tokens result) (hwords : IsWords line.toList tokens) : parse line = result := by
  cases h with
  | empty => exact parse_of_no_words hwords
  | simple hword hverb => exact parse_of_simple hwords hword hverb
  | seekDown hverb hdown =>
    rw [parse_of_seek hwords hverb, if_pos (map_upper_eq_down_iff.2 ⟨_, hdown, rfl⟩)]
  | seekUp hverb hup =>
    rw [parse_of_seek hwords hverb, if_neg]
    intro hdown
    obtain ⟨argument, hspells, hargument⟩ := map_upper_eq_down_iff.1 hdown
    exact hup argument hspells hargument
  | setFrequency hverb hf =>
    exact parse_of_channel hwords ((upper_eq_verb_iff (by decide)).2 hverb) hf
  | invalidFrequency hverb hnone =>
    exact parse_of_no_channel hwords ((upper_eq_verb_iff (by decide)).2 hverb) hnone
  | missingArgument hverb hcount => exact parse_of_missing hwords hverb hcount
  | unknownVerb hverb => exact parse_of_unknown hwords hverb

/-- The grammar has a rule for every line. -/
theorem exists_meaning (tokens : List (List Char)) : ∃ result, Meaning tokens result := by
  rcases tokens with - | ⟨verb, arguments⟩
  · exact ⟨_, .empty⟩
  by_cases hverb : ∃ word ∈ verbs, Spells word.toList verb
  · obtain ⟨word, hword, hspells⟩ := hverb
    rcases verbs_cases hword with ⟨command, hsimple⟩ | rfl | rfl
    · exact ⟨_, .simple hsimple hspells⟩
    · by_cases hdown : ∃ argument, Spells "DOWN".toList argument ∧ arguments = [argument]
      · obtain ⟨argument, hdown, rfl⟩ := hdown
        exact ⟨_, .seekDown hspells hdown⟩
      · exact ⟨_, .seekUp hspells fun argument hargument heq => hdown ⟨argument, hargument, heq⟩⟩
    · rcases arguments with - | ⟨argument, - | ⟨further, arguments⟩⟩
      · exact ⟨_, .missingArgument hspells (by decide)⟩
      · by_cases hchannel : ∃ f : Frequency, Denotes (upper argument) f.khz.toNat
        · obtain ⟨f, hf⟩ := hchannel
          exact ⟨_, .setFrequency hspells hf⟩
        · exact ⟨_, .invalidFrequency hspells fun f hf => hchannel ⟨f, hf⟩⟩
      · exact ⟨_, .missingArgument hspells (by simp)⟩
  · exact ⟨_, .unknownVerb fun word hword hspells => hverb ⟨word, hword, hspells⟩⟩

/-- **The command language is its grammar.** Whatever the line, it is taken for what the grammar
says of its words and for nothing else; so two lines with the same words are taken for the same,
however their words are kept apart and whatever white space stands around them. -/
theorem parse_grammar {tokens : List (List Char)} (hwords : IsWords line.toList tokens) :
    (∀ result, parse line = result ↔ Meaning tokens result) ∧
      ∀ other : String, IsWords other.toList tokens → parse other = parse line := by
  obtain ⟨meant, hmeant⟩ := exists_meaning tokens
  have hparse := hmeant.parse_eq hwords
  refine ⟨fun result => ⟨fun h => ?_, fun h => h.parse_eq hwords⟩, fun other hother => ?_⟩
  · rwa [← h, hparse]
  · rw [hparse, hmeant.parse_eq hother]

end

/-- With a long s, and whatever white space there is, `SEEK DOWN` is a command; with a Kelvin sign
`SEEK` is none. -/
theorem parse_grammar_foreign_letters :
    parse "\u00A0\u017FeeK\u3000dOwn\t\r" = .ok (.seek .down) ∧
      parse "\u017FeeK dOwn" = parse "\u00A0\u017FeeK\u3000dOwn\t\r" ∧
      parse "see\u212A" = .error (.unknownVerb "SEE\u212A") := by
  have hseekWords : IsWords "\u00A0\u017FeeK\u3000dOwn\t\r".toList
      ["\u017FeeK".toList, "dOwn".toList] := Text.isWords_iff.2 (by decide +kernel)
  have hkelvinWords : IsWords "see\u212A".toList ["see\u212A".toList] :=
    Text.isWords_iff.2 (by decide +kernel)
  have hseek := parse_grammar hseekWords
  have hkelvin := parse_grammar hkelvinWords
  have hverb : Spells "SEEK".toList "\u017FeeK".toList :=
    (upper_eq_verb_iff (by decide)).1 (by decide +kernel)
  have hdown : Spells "DOWN".toList "dOwn".toList :=
    (upper_eq_verb_iff (by decide)).1 (by decide +kernel)
  have hunknown : ∀ word ∈ verbs, ¬ upper "see\u212A".toList = word.toList := by decide +kernel
  refine ⟨(hseek.1 _).2 (.seekDown hverb hdown), hseek.2 _ (Text.isWords_iff.2 (by decide +kernel)),
    ((hkelvin.1 _).2 (.unknownVerb fun word hword hspells => ?_)).trans ?_⟩
  · exact hunknown word hword ((upper_eq_verb_iff hword).2 hspells)
  · decide +kernel

end RadioData.Command
