import RadioData.Command
import RadioData.Proofs.Text.Numeral
import RadioData.Proofs.Text.UpperCase
import RadioData.Proofs.Tuner.Channel
/-!
# The argument of `SET_FREQ`

A line is read by its words in upper case (`parse_of_words`). For a line with the verb `SET_FREQ`
and one argument, `setFrequency_reads_numeral` says which argument is a channel of the band, however
many digits it has, and how any other is quoted back to the client.
-/

namespace RadioData

open Text (IsWords)
open UpperCase (upper)
open Numeral (Denotes)

namespace Frequency

/-- A number of kilohertz is a channel's if it is in band and on the grid. -/
theorem exists_khz_iff {v : Nat} :
    (∃ f : Frequency, f.khz.toNat = v) ↔ 87500 ≤ v ∧ v ≤ 108000 ∧ v % 100 = 0 := by
  rw [← Channel.exists_khz_iff]
  constructor
  · rintro ⟨f, rfl⟩
    exact ⟨f.channel, congrArg _ f.khz_eq.symm⟩
  · rintro ⟨i, rfl⟩
    obtain ⟨f, hf⟩ := exists_khz_eq i
    exact ⟨f, congrArg _ hf⟩

/-- A channel is made from its own number of kilohertz and from no other. -/
theorem toOption_ofKhz_eq_some_iff {khz : UInt32} {f : Frequency} :
    (ofKhz khz).toOption = some f ↔ f.khz = khz := by
  constructor
  · intro h
    rw [ofKhz] at h
    split_ifs at h with hband hgrid
    · cases h
      rfl
    · cases h
    · cases h
  · rintro rfl
    rw [f.ofKhz_khz]
    rfl

end Frequency

namespace Command

/-! ## The words of a line -/

/-- A line without a word is empty. -/
theorem parse_of_no_words {line : String} (h : IsWords line.toList []) :
    parse line = .error .empty := by
  rw [parse, tokens, (UpperCase.isWords_upper h).words_eq]
  rfl

/-- A line is read by its words in upper case. -/
theorem parse_of_words {line : String} {verb : List Char} {arguments : List (List Char)}
    (h : IsWords line.toList (verb :: arguments)) :
    parse line = ofTokens (upper verb) (arguments.map upper) := by
  rw [parse, tokens, (UpperCase.isWords_upper h).words_eq]
  rfl

/-! ## The argument -/

/-- **An argument names a channel** if it is a numeral with the channel's number of kilohertz. -/
theorem argumentFrequency?_eq_some_iff {argument : List Char} {f : Frequency} :
    argumentFrequency? argument = some f ↔ Denotes argument f.khz.toNat := by
  have hlargest : f.khz.toNat ≤ UInt32.size - 1 := Nat.le_sub_one_of_lt f.khz.toNat_lt_size
  rw [argumentFrequency?]
  cases hread : Numeral.readUpTo? (UInt32.size - 1) argument with
  | some n =>
    obtain ⟨hnumeral, hn⟩ := Numeral.readUpTo?_eq_some_iff.1 hread
    have hcode : n.toUInt32.toNat = n :=
      UInt32.toNat_ofNat_of_lt' (Nat.lt_of_le_sub_one (by decide) hn)
    dsimp only
    rw [Frequency.toOption_ofKhz_eq_some_iff, ← UInt32.toNat_inj, hcode]
    exact ⟨fun h => h ▸ hnumeral, fun h => h.unique hnumeral⟩
  | none =>
    refine ⟨nofun, fun h => ?_⟩
    rw [Numeral.readUpTo?_eq_some_iff.2 ⟨h, hlargest⟩] at hread
    cases hread

/-- A numeral of 64 bits is quoted as its number. -/
theorem quotedArgument_of_denotes {argument : List Char} {v : Nat} (h : Denotes argument v)
    (hv : v < UInt64.size) : quotedArgument argument = toString v := by
  have hread : Numeral.readUpTo? (UInt64.size - 1) argument = some v :=
    Numeral.readUpTo?_eq_some_iff.2 ⟨h, Nat.le_sub_one_of_lt hv⟩
  rw [quotedArgument, hread]

/-- Anything else is quoted as it stands. -/
theorem quotedArgument_of_not_denotes {argument : List Char}
    (h : ∀ v, Denotes argument v → UInt64.size ≤ v) :
    quotedArgument argument = String.ofList argument := by
  have hread : Numeral.readUpTo? (UInt64.size - 1) argument = none := by
    refine Option.eq_none_iff_forall_ne_some.2 fun v hv => ?_
    obtain ⟨hnumeral, hle⟩ := Numeral.readUpTo?_eq_some_iff.1 hv
    exact absurd (h v hnumeral) (Nat.not_le.2 (Nat.lt_of_le_sub_one (by decide) hle))
  rw [quotedArgument, hread]

section
variable {line : String} {verb argument : List Char}

/-- A channel is tuned to. -/
theorem parse_of_channel (hwords : IsWords line.toList [verb, argument])
    (hverb : upper verb = "SET_FREQ".toList) {f : Frequency}
    (hf : Denotes (upper argument) f.khz.toNat) : parse line = .ok (.setFrequency f) := by
  have hread := argumentFrequency?_eq_some_iff.2 hf
  rw [parse_of_words hwords, hverb, List.map_singleton, ofTokens, if_neg (by decide), if_pos rfl,
    hread]

/-- Anything else is refused. -/
theorem parse_of_no_channel (hwords : IsWords line.toList [verb, argument])
    (hverb : upper verb = "SET_FREQ".toList)
    (hnone : ∀ f : Frequency, ¬ Denotes (upper argument) f.khz.toNat) :
    parse line = .error (.invalidFrequency (quotedArgument (upper argument))) := by
  have hread : argumentFrequency? (upper argument) = none :=
    Option.eq_none_iff_forall_ne_some.2 fun f hf => hnone f (argumentFrequency?_eq_some_iff.1 hf)
  rw [parse_of_words hwords, hverb, List.map_singleton, ofTokens, if_neg (by decide), if_pos rfl,
    hread]

/-- **`SET_FREQ` reads its argument exactly**, whatever its length. With one argument, it tunes to
`v` kHz if and only if the argument in upper case is a numeral of `v` and `v` is a channel of the
band: from 87500 to 108000 and a multiple of 100. Any other argument is refused. The refusal quotes
the number of a numeral below 2 ^ 64, the number of values of 64 bits, in plain digits, and anything
else as it stands. -/
theorem setFrequency_reads_numeral (hwords : IsWords line.toList [verb, argument])
    (hverb : upper verb = "SET_FREQ".toList) :
    (∀ v : Nat, (∃ f, parse line = .ok (.setFrequency f) ∧ f.khz.toNat = v) ↔
      Denotes (upper argument) v ∧ 87500 ≤ v ∧ v ≤ 108000 ∧ v % 100 = 0) ∧
    ((∀ v : Nat, ¬ (Denotes (upper argument) v ∧ 87500 ≤ v ∧ v ≤ 108000 ∧ v % 100 = 0)) →
      (∀ v : Nat, Denotes (upper argument) v → v < UInt64.size →
        parse line = .error (.invalidFrequency (toString v))) ∧
      ((∀ v : Nat, Denotes (upper argument) v → UInt64.size ≤ v) →
        parse line = .error (.invalidFrequency (String.ofList (upper argument))))) := by
  have htunes (f : Frequency) :
      parse line = .ok (.setFrequency f) ↔ Denotes (upper argument) f.khz.toNat := by
    refine ⟨fun h => ?_, parse_of_channel hwords hverb⟩
    by_cases hchannel : ∃ g : Frequency, Denotes (upper argument) g.khz.toNat
    · obtain ⟨g, hg⟩ := hchannel
      rw [parse_of_channel hwords hverb hg] at h
      cases h
      exact hg
    · rw [parse_of_no_channel hwords hverb fun g hg => hchannel ⟨g, hg⟩] at h
      cases h
  constructor
  · intro v
    rw [← Frequency.exists_khz_iff]
    constructor
    · rintro ⟨f, hparse, rfl⟩
      exact ⟨(htunes f).1 hparse, f, rfl⟩
    · rintro ⟨hnumeral, f, rfl⟩
      exact ⟨f, (htunes f).2 hnumeral, rfl⟩
  · intro hnone
    have hrefused := parse_of_no_channel hwords hverb fun f hf =>
      hnone _ ⟨hf, Frequency.exists_khz_iff.1 ⟨f, rfl⟩⟩
    refine ⟨fun v hv hlt => ?_, fun hlarge => ?_⟩
    · rw [hrefused, quotedArgument_of_denotes hv hlt]
    · rw [hrefused, quotedArgument_of_not_denotes hlarge]

end

/-- A number that would be a channel if it were cut off at 64 bits is refused and quoted as it
stands; behind a plus sign and zeros a channel is still a channel. -/
theorem setFrequency_reads_numeral_beyond_words :
    parse "\tſet_freq 018446744073709639216 \r" =
        .error (.invalidFrequency "018446744073709639216") ∧
      ∃ f, parse "SET_FREQ\u3000+000000000000000000000087600" = .ok (.setFrequency f) ∧
        f.khz.toNat = 87600 := by
  have hlargeWords : IsWords "\tſet_freq 018446744073709639216 \r".toList
      ["ſet_freq".toList, "018446744073709639216".toList] :=
    Text.isWords_iff.2 (by decide +kernel)
  have hplainWords : IsWords "SET_FREQ\u3000+000000000000000000000087600".toList
      ["SET_FREQ".toList, "+000000000000000000000087600".toList] :=
    Text.isWords_iff.2 (by decide +kernel)
  have hlarge := setFrequency_reads_numeral hlargeWords (by decide +kernel)
  have hplain := setFrequency_reads_numeral hplainWords (by decide +kernel)
  have hnumber : Denotes (upper "018446744073709639216".toList) 18446744073709639216 :=
    Numeral.read?_eq_some_iff.1 (by decide +kernel)
  have hchannel : Denotes (upper "+000000000000000000000087600".toList) 87600 :=
    Numeral.read?_eq_some_iff.1 (by decide +kernel)
  refine ⟨?_, (hplain.1 87600).2 ⟨hchannel, by decide⟩⟩
  have hquoted := (hlarge.2 fun v ⟨hv, _, hhigh, _⟩ => ?_).2 fun v hv => ?_
  · rw [hquoted]
    decide +kernel
  · rw [hv.unique hnumber] at hhigh
    exact absurd hhigh (by decide)
  · rw [hv.unique hnumber]
    decide

end Command

end RadioData
