import RadioData.Group
/-!
# A block and its parts

A block that is made of a payload, a position and a quality has them again: the payload goes through
its two bytes (`payload_ofParts`), and position and quality share the status byte without getting
into each other's way (`position_ofParts`, `quality_ofParts`). `content_ofParts` says what such a
block brings to its slot.
-/

namespace RadioData

/-- A byte that is shifted by no more than its own width stays within a word. -/
theorem toNat_byte_shiftLeft (b : UInt8) {n : UInt16} (h : n.toNat ≤ 8) :
    (b.toUInt16 <<< n).toNat = b.toNat <<< n.toNat := by
  have hfits : b.toNat <<< n.toNat < 2 ^ 16 := by
    rw [Nat.shiftLeft_eq]
    calc b.toNat * 2 ^ n.toNat
        < 2 ^ 8 * 2 ^ n.toNat := Nat.mul_lt_mul_of_pos_right b.toNat_lt (Nat.two_pow_pos _)
      _ ≤ 2 ^ 8 * 2 ^ 8 := Nat.mul_le_mul_left _ (Nat.pow_le_pow_right (by decide) h)
  rw [UInt16.toNat_shiftLeft, UInt8.toNat_toUInt16, Nat.mod_eq_of_lt (by omega : n.toNat < 16),
    Nat.mod_eq_of_lt hfits]

/-- A high and a low byte are the digits of a number to the base 256. -/
theorem toNat_bytes_word (high low : UInt8) :
    ((high.toUInt16 <<< 8) ||| low.toUInt16).toNat = 256 * high.toNat + low.toNat := by
  have hlow : low.toNat < 2 ^ 8 := low.toNat_lt
  have hshift : (high.toUInt16 <<< 8).toNat = high.toNat <<< 8 :=
    toNat_byte_shiftLeft high (by decide)
  rw [UInt16.toNat_or, hshift, UInt8.toNat_toUInt16, ← Nat.shiftLeft_add_eq_or_of_lt hlow,
    Nat.shiftLeft_eq, Nat.mul_comm]

namespace Block

/-- The payload as a number. -/
theorem toNat_payload (b : Block) : b.payload.toNat = 256 * b.high.toNat + b.low.toNat := by
  rw [Block.payload, UInt16.or_comm, toNat_bytes_word]

variable (payload : UInt16) (position : BlockPosition) (quality : BlockQuality)

/-- The two bytes of a payload are the payload. -/
theorem payload_ofParts : (ofParts payload position quality).payload = payload := by
  have hlow : payload.toUInt8.toNat = payload.toNat % 256 := by simp
  have hhigh : (payload >>> 8).toUInt8.toNat = payload.toNat / 256 := by
    have := payload.toNat_lt
    rw [UInt16.toNat_toUInt8, UInt16.toNat_shiftRight]
    show (payload.toNat >>> 8) % 256 = _
    rw [Nat.shiftRight_eq_div_pow]
    omega
  refine UInt16.toNat_inj.1 ?_
  rw [toNat_payload, ofParts, hlow, hhigh]
  exact Nat.div_add_mod ..

variable {position}

/-- The quality does not get into the way of the position. -/
theorem position_ofParts (h : position.slot.isSome) :
    (ofParts payload position quality).position = position := by
  show BlockPosition.ofStatus (position.statusBits ||| quality.statusBits) = position
  cases position with
  | invalid code => cases h
  | a | b | c | cPrime | d => cases quality <;> decide

/-- The position does not get into the way of the quality. -/
theorem quality_ofParts (h : position.slot.isSome) :
    (ofParts payload position quality).quality = quality := by
  show BlockQuality.ofStatus (position.statusBits ||| quality.statusBits) = quality
  cases position with
  | invalid code => cases h
  | a | b | c | cPrime | d => cases quality <;> decide

/-- A block that is made clean brings its payload, any other brings damage. -/
theorem content_ofParts (h : position.slot.isSome) :
    (ofParts payload position quality).content =
      if quality = .clean then .word payload else .damaged := by
  rw [content, quality_ofParts payload quality h, payload_ofParts]
  cases quality <;> rfl

end Block

end RadioData
