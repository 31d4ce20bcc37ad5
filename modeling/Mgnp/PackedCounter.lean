import Mathlib.Data.Nat.Bitwise

/-!
# A counter packed above flag bits

A machine word may keep flags in its low `shift` bits and a counter in the
bits above them.  Setting flags with a bitwise or, reading them with a bitwise
and, and counting by adding or subtracting the word's first counter bit then
work on one part each, as long as the counter neither overflows nor is
decremented at zero.
-/

namespace Mgnp

namespace PackedCounter

variable {size shift flags bits count : Nat} {word : BitVec size}

/-- The word holds `count` above the low bits `flags`. -/
structure Packs (shift : Nat) (word : BitVec size) (flags count : Nat) : Prop where
  flags_lt : flags < 2 ^ shift
  toNat_eq : word.toNat = 2 ^ shift * count + flags

/-- The counter's first bit. -/
def one (size shift : Nat) : BitVec size :=
  BitVec.ofNat size (2 ^ shift)

theorem one_toNat (fits : shift < size) : (one size shift).toNat = 2 ^ shift := by
  rw [one, BitVec.toNat_ofNat, Nat.mod_eq_of_lt (Nat.pow_lt_pow_right (by decide) fits)]

/-- Flag bits fit in the word. -/
theorem flags_toNat (fits : shift < size) (bitsLt : bits < 2 ^ shift) :
    (BitVec.ofNat size bits).toNat = bits := by
  rw [BitVec.toNat_ofNat,
    Nat.mod_eq_of_lt (bitsLt.trans (Nat.pow_lt_pow_right (by decide) fits))]

theorem packs_one (fits : shift < size) : Packs shift (one size shift) 0 1 where
  flags_lt := Nat.two_pow_pos shift
  toNat_eq := by rw [one_toNat fits, Nat.mul_one, Nat.add_zero]

section Packs

/-- Shifting out the flags leaves the counter. -/
theorem Packs.shift_toNat (packs : Packs shift word flags count) :
    (word >>> shift).toNat = count := by
  rw [BitVec.toNat_ushiftRight, packs.toNat_eq, Nat.shiftRight_eq_div_pow,
    Nat.mul_add_div (Nat.two_pow_pos shift), Nat.div_eq_of_lt packs.flags_lt, Nat.add_zero]

/-- Below the counter's largest value, adding its first bit counts one more. -/
theorem Packs.add_one (packs : Packs shift word flags count) (fits : shift < size)
    (room : count + 1 < 2 ^ (size - shift)) :
    Packs shift (word + one size shift) flags (count + 1) where
  flags_lt := packs.flags_lt
  toNat_eq := by
    have bound : 2 ^ shift * (count + 2) ≤ 2 ^ size :=
      calc 2 ^ shift * (count + 2) ≤ 2 ^ shift * 2 ^ (size - shift) :=
            Nat.mul_le_mul_left _ room
        _ = 2 ^ size := by rw [← Nat.pow_add, Nat.add_sub_cancel' fits.le]
    have flagsLt := packs.flags_lt
    rw [Nat.mul_add] at bound
    rw [BitVec.toNat_add, packs.toNat_eq, one_toNat fits, Nat.mul_add,
      Nat.mod_eq_of_lt (by omega)]
    omega

/-- Above zero, subtracting the counter's first bit counts one less. -/
theorem Packs.sub_one (packs : Packs shift word flags (count + 1)) (fits : shift < size) :
    Packs shift (word - one size shift) flags count where
  flags_lt := packs.flags_lt
  toNat_eq := by
    have wordLt := word.isLt
    have le : one size shift ≤ word := by
      rw [BitVec.le_def, one_toNat fits, packs.toNat_eq, Nat.mul_add]
      omega
    rw [BitVec.toNat_sub_of_le le, packs.toNat_eq, one_toNat fits, Nat.mul_add]
    omega

/-- Setting flags leaves the counter. -/
theorem Packs.or (packs : Packs shift word flags count) (fits : shift < size) (bits : Nat)
    (bitsLt : bits < 2 ^ shift) :
    Packs shift (word ||| BitVec.ofNat size bits) (flags ||| bits) count where
  flags_lt := Nat.or_lt_two_pow packs.flags_lt bitsLt
  toNat_eq := by
    rw [BitVec.toNat_or, flags_toNat fits bitsLt, packs.toNat_eq,
      Nat.two_pow_add_eq_or_of_lt packs.flags_lt, Nat.or_assoc,
      ← Nat.two_pow_add_eq_or_of_lt (Nat.or_lt_two_pow packs.flags_lt bitsLt)]

/-- Reading flags ignores the counter. -/
theorem Packs.and_toNat (packs : Packs shift word flags count) (fits : shift < size)
    (bitsLt : bits < 2 ^ shift) :
    (word &&& BitVec.ofNat size bits).toNat = flags &&& bits := by
  have bitsLow : (2 ^ shift - 1) &&& bits = bits := by
    rw [Nat.and_comm, Nat.and_two_pow_sub_one_eq_mod, Nat.mod_eq_of_lt bitsLt]
  calc (word &&& BitVec.ofNat size bits).toNat
      = (2 ^ shift * count + flags) &&& bits := by
        rw [BitVec.toNat_and, flags_toNat fits bitsLt, packs.toNat_eq]
    _ = (2 ^ shift * count + flags) % 2 ^ shift &&& bits := by
        rw [← bitsLow, ← Nat.and_assoc, Nat.and_two_pow_sub_one_eq_mod, bitsLow]
    _ = flags &&& bits := by
        rw [Nat.mul_add_mod, Nat.mod_eq_of_lt packs.flags_lt]

theorem Packs.and_eq_zero_iff (packs : Packs shift word flags count) (fits : shift < size)
    (bitsLt : bits < 2 ^ shift) :
    word &&& BitVec.ofNat size bits = 0 ↔ flags &&& bits = 0 := by
  rw [← BitVec.toNat_inj, packs.and_toNat fits bitsLt]
  rfl

end Packs

end PackedCounter

end Mgnp
