import Mathlib.Data.List.Basic
import RadioData.Line
/-!
# Line feeds in texts and in bytes

Which texts can hold a line feed. Numerals cannot (`lineFeed_not_mem_toString_nat`). A text holds
one if and only if its bytes do (`lineFeed_mem_bytes`), since each byte of a longer sequence has its
top bit set; and for the same reason a text that is read from bytes, damaged ones included, holds
one if and only if they do (`Utf8.lineFeed_mem_decode`).
-/

namespace RadioData

/-! ## The bytes of a text -/

private theorem toList_loop (bytes : ByteArray) (i : Nat) (read : List UInt8) :
    ByteArray.toList.loop bytes i read = read.reverse ++ bytes.data.toList.drop i := by
  fun_induction ByteArray.toList.loop bytes i read with
  | case1 i read h ih =>
    have hi : i < bytes.data.toList.length := by simpa using h
    have hbyte : bytes.get! i = bytes.data.toList[i] := getElem!_pos bytes.data i h
    rw [ih, List.reverse_cons, List.append_assoc, List.drop_eq_getElem_cons hi, hbyte]
    rfl
  | case2 i read h =>
    rw [List.drop_eq_nil_of_le (by simpa using Nat.le_of_not_lt h), List.append_nil]

/-- The bytes of a text are those of its characters. -/
theorem bytes_eq_flatMap (s : String) :
    s.toUTF8.toList = s.toList.flatMap String.utf8EncodeChar := by
  have h : s.toUTF8 = (s.toList.flatMap String.utf8EncodeChar).toByteArray := by
    conv => lhs; rw [← String.ofList_toList (s := s)]
    rfl
  rw [h, ByteArray.toList, toList_loop, List.reverse_nil, List.nil_append, List.drop_zero,
    List.toList_data_toByteArray]

theorem bytes_append (s t : String) :
    (s ++ t).toUTF8.toList = s.toUTF8.toList ++ t.toUTF8.toList := by
  simp only [bytes_eq_flatMap, String.toList_append, List.flatMap_append]

/-- A character beyond ASCII is encoded in bytes whose top bit is set. -/
theorem top_bit_of_mem_encodeChar {c : Char} (hc : 128 ≤ c.toNat) :
    ∀ b ∈ String.utf8EncodeChar c, 128 ≤ b.toNat := by
  have hc : ¬c.val.toNat ≤ 127 := Nat.not_le_of_lt hc
  rw [String.utf8EncodeChar, if_neg hc]
  split_ifs <;> simp <;> omega

/-- An ASCII character is encoded as its code. -/
theorem encodeChar_ascii {c : Char} (hc : c.toNat < 128) :
    String.utf8EncodeChar c = [UInt8.ofNat c.toNat] := by
  have hc : c.val.toNat ≤ 127 := Nat.le_of_lt_succ hc
  rw [String.utf8EncodeChar, if_pos hc]
  rfl

/-- Only the line feed is encoded with its byte. -/
theorem lineFeed_mem_encodeChar {c : Char} : lineFeed ∈ String.utf8EncodeChar c ↔ '\n' = c := by
  constructor
  · intro h
    rcases Nat.lt_or_ge c.toNat 128 with hc | hc
    · rw [encodeChar_ascii hc, List.mem_singleton] at h
      have hcode : 10 = c.toNat % 256 := congrArg UInt8.toNat h
      exact Char.toNat_inj.1 (hcode.trans (Nat.mod_eq_of_lt (by omega)))
    · exact absurd (top_bit_of_mem_encodeChar hc _ h) (by decide)
  · rintro rfl
    decide

/-- A text holds a line feed if and only if its bytes do. -/
theorem lineFeed_mem_bytes (s : String) : lineFeed ∈ s.toUTF8.toList ↔ '\n' ∈ s.toList := by
  rw [bytes_eq_flatMap, List.mem_flatMap]
  constructor
  · rintro ⟨c, hc, h⟩
    rwa [lineFeed_mem_encodeChar.1 h]
  · exact fun h => ⟨_, h, lineFeed_mem_encodeChar.2 rfl⟩

/-! ## Texts without a line feed -/

theorem lineFeed_not_mem_toString_nat (n : Nat) : '\n' ∉ (toString n).toList := by
  rw [Nat.toString_eq_repr, Nat.toList_repr]
  intro h
  exact absurd (Nat.isDigit_of_mem_toDigits (by decide) (by decide) h) (by decide)

theorem lineFeed_not_mem_toString_int (i : Int) : '\n' ∉ (toString i).toList := by
  cases i with
  | ofNat n => exact lineFeed_not_mem_toString_nat n
  | negSucc n =>
    have hsplit : (toString (Int.negSucc n)).toList = '-' :: (toString (n + 1)).toList := by
      rw [show toString (Int.negSucc n) = "-" ++ toString (n + 1) from rfl, String.toList_append]
      rfl
    rw [hsplit, List.mem_cons]
    rintro (h | h)
    · exact absurd h (by decide)
    · exact lineFeed_not_mem_toString_nat _ h

/-! ## Texts read from bytes -/

namespace Utf8

/-- A sequence of several bytes is under way. -/
structure Pending.Multibyte (p : Pending) : Prop where
  low : 0x80 ≤ p.low.toNat
  high : p.high.toNat ≤ 0xBF
  /-- What has been read is not zero, or the next byte is not the least possible. -/
  bits : 1 ≤ p.bits ∨ (1 ≤ p.more ∧ 0x81 ≤ p.low.toNat)

/-- A byte is read as a line feed if it is one, and only then. -/
def Progress.Faithful (b : UInt8) : Progress → Prop
  | .complete c => '\n' = c ↔ lineFeed = b
  | .pending p => lineFeed ≠ b ∧ p.Multibyte
  | .broken => True

theorem ofNat_eq_lineFeed {n : Nat} : '\n' = Char.ofNat n ↔ lineFeed.toNat = n := by
  refine ⟨fun h => ?_, fun h => h ▸ rfl⟩
  have hcode : 10 = (Char.ofNat n).toNat := congrArg Char.toNat h
  by_cases hn : n.isValidChar
  · rwa [Char.ofNat, dif_pos hn] at hcode
  · rw [Char.ofNat, dif_neg hn] at hcode
    exact absurd hcode (by decide)

/-- A byte at the start of a character is read faithfully. -/
theorem faithful_start (b : UInt8) : (start b).Faithful b := by
  have hfeed (h : ¬b < 0x80) : lineFeed ≠ b := by
    rintro rfl
    exact h (by decide)
  have hcode (n : UInt8) : b = n ↔ b.toNat = n.toNat := UInt8.toNat_inj.symm
  rw [start]
  split_ifs with hascii hlow htwo hE0 hED hthree hF0 hfour hF4 <;>
    simp only [UInt8.lt_iff_toNat_lt, hcode, UInt8.reduceToNat] at *
  · exact ofNat_eq_lineFeed.trans UInt8.toNat_inj
  · trivial
  · exact ⟨hfeed hascii, by simp, by simp, .inl (by dsimp only; omega)⟩
  · exact ⟨hfeed hascii, by simp, by simp, .inr (by simp)⟩
  · exact ⟨hfeed hascii, by simp, by simp, .inl (by simp)⟩
  · exact ⟨hfeed hascii, by simp, by simp, .inl (by dsimp only; omega)⟩
  · exact ⟨hfeed hascii, by simp, by simp, .inr (by simp)⟩
  · exact ⟨hfeed hascii, by simp, by simp, .inl (by dsimp only; omega)⟩
  · exact ⟨hfeed hascii, by simp, by simp, .inl (by simp)⟩
  · trivial

/-- A byte inside a sequence is read faithfully. -/
theorem Pending.Multibyte.continue {p : Pending} (hp : p.Multibyte) (b : UInt8) :
    (p.continue b).Faithful b := by
  obtain ⟨hlow, hhigh, hbits⟩ := hp
  rw [Pending.continue]
  split_ifs with h
  · have hb : p.low.toNat ≤ b.toNat ∧ b.toNat ≤ p.high.toNat := h
    have hne : lineFeed ≠ b := by
      rintro rfl
      exact absurd (Nat.le_trans hlow hb.1) (by decide)
    dsimp only
    split
    · have hcode : lineFeed.toNat ≠ p.bits * 64 + b.toNat % 64 := by
        have h10 : lineFeed.toNat = 10 := rfl
        omega
      exact iff_of_false (ofNat_eq_lineFeed.not.2 hcode) hne
    · refine ⟨hne, ?_, ?_, .inl ?_⟩
      · exact Nat.le_refl 128
      · exact Nat.le_refl 191
      · show 1 ≤ p.bits * 64 + b.toNat % 64
        omega
  · trivial

/-- A sequence that is broken off is replaced, and the byte that breaks it is read anew. -/
theorem decodeFrom_broken {p : Pending} {b : UInt8} (h : p.continue b = .broken)
    (bytes : List UInt8) :
    decodeFrom (some p) (b :: bytes) = replacement :: decodeFrom none (b :: bytes) := by
  conv => lhs; rw [decodeFrom, h]
  rw [decodeFrom]
  cases start b <;> rfl

/-- **Text read from bytes holds a line feed if and only if the bytes do.** -/
theorem lineFeed_mem_decodeFrom {p : Option Pending} (hp : ∀ q, p = some q → q.Multibyte)
    (bytes : List UInt8) : '\n' ∈ decodeFrom p bytes ↔ lineFeed ∈ bytes := by
  have hreplacement : '\n' ≠ replacement := by decide
  induction bytes generalizing p with
  | nil => cases p <;> simp [decodeFrom, hreplacement]
  | cons b bytes ih =>
    have hrest : '\n' ∈ decodeFrom none bytes ↔ lineFeed ∈ bytes := ih (by simp)
    have hcomplete {c : Char} (hc : '\n' = c ↔ lineFeed = b) :
        '\n' ∈ c :: decodeFrom none bytes ↔ lineFeed ∈ b :: bytes := by
      rw [List.mem_cons, List.mem_cons, hc, hrest]
    have hpending {q : Pending} (hq : lineFeed ≠ b ∧ q.Multibyte) :
        '\n' ∈ decodeFrom (some q) bytes ↔ lineFeed ∈ b :: bytes := by
      have hrest : '\n' ∈ decodeFrom (some q) bytes ↔ lineFeed ∈ bytes :=
        ih (by simpa using hq.2)
      rw [hrest, List.mem_cons, or_iff_right hq.1]
    have hnone : '\n' ∈ decodeFrom none (b :: bytes) ↔ lineFeed ∈ b :: bytes := by
      have hb := faithful_start b
      rw [decodeFrom]
      cases hstart : start b with
      | complete c => exact hcomplete (by rwa [hstart] at hb)
      | pending q => exact hpending (by rwa [hstart] at hb)
      | broken =>
        have hne : lineFeed ≠ b := by
          rintro rfl
          exact absurd hstart (by decide)
        rw [List.mem_cons, List.mem_cons, hrest, or_iff_right hne, or_iff_right hreplacement]
    cases p with
    | none => exact hnone
    | some p =>
      have hb := (hp p rfl).continue b
      cases hcontinue : p.continue b with
      | complete c =>
        rw [decodeFrom, hcontinue]
        exact hcomplete (by rwa [hcontinue] at hb)
      | pending q =>
        rw [decodeFrom, hcontinue]
        exact hpending (by rwa [hcontinue] at hb)
      | broken => rw [decodeFrom_broken hcontinue, List.mem_cons, hnone, or_iff_right hreplacement]

/-- The text that bytes spell holds a line feed if and only if the bytes do. -/
theorem lineFeed_mem_decode (bytes : List UInt8) :
    '\n' ∈ (decode bytes).toList ↔ lineFeed ∈ bytes := by
  rw [decode, String.toList_ofList]
  exact lineFeed_mem_decodeFrom (p := none) (by simp) bytes

end Utf8

end RadioData
