import Mathlib.Data.Nat.Bitwise
import Mathlib.Data.Nat.ModEq
import Mathlib.Tactic.Ring

/-!
# Position and slot words of the tricky-pipe queue

`Core` keeps its two positions and its queue slots in 16-bit words.  The low
bits of a position word hold the `CLOSED` flag, the low bits of a slot hold an
element index, and the remaining high bits hold a position or a sequence
number.  This file translates the constants and the word operations of
`channel_core.rs` and computes them on the packed form `word seq low`.
-/

namespace Mgnp

namespace PositionWord

/-- The pointer width of the target, which fixes the size of `IndexAllocWord`. -/
inductive PointerWidth
  | bits32
  | bits64
  deriving DecidableEq, Repr

/-- `MAX_CAPACITY`: `IndexAllocWord` has one bit of a machine word per index. -/
def maxCapacity : PointerWidth → Nat
  | .bits32 => 32
  | .bits64 => 64

/-- `CLOSED`, the first bit of a position word. -/
def closed : UInt16 := (1 : UInt16) <<< 0

/-- `MASK`. -/
def mask (width : PointerWidth) : UInt16 :=
  UInt16.ofNat (maxCapacity width) - 1

/-- `u16::trailing_ones`. -/
def trailingOnes (bits : UInt16) : Nat :=
  ((List.range 16).takeWhile bits.toNat.testBit).length

/-- `POS_SHIFT`. -/
def posShift (width : PointerWidth) : UInt16 :=
  UInt16.ofNat (trailingOnes (mask width))

/-- `POS_ONE`, the value by which both positions are advanced. -/
def posOne (width : PointerWidth) : UInt16 := 1 <<< posShift width

/-- `LAP_ONE`, one lap around the queue less one position. -/
def lapOne (width : PointerWidth) : UInt16 := mask width <<< posShift width

/-- The wrapping difference of two sequence numbers read as `i16`, which both
loops of the queue compare with zero. -/
def signedDif (seq pos : UInt16) : Int :=
  (seq.toInt16 - pos.toInt16).toInt

/-- The number of positions that a position word can hold. -/
def positions (width : PointerWidth) : Nat := 2 ^ 16 / maxCapacity width

/-- The word with sequence number `seq` above the low bits `low`. -/
def word (width : PointerWidth) (seq low : Nat) : UInt16 :=
  UInt16.ofNat (seq % positions width * maxCapacity width + low)

variable {width : PointerWidth} {seq other low lowOther : Nat}

theorem maxCapacity_pos (width : PointerWidth) : 0 < maxCapacity width := by
  cases width <;> decide

theorem one_lt_maxCapacity (width : PointerWidth) : 1 < maxCapacity width := by
  cases width <;> decide

theorem maxCapacity_dvd_positions (width : PointerWidth) :
    maxCapacity width ∣ positions width := by
  cases width <;> decide

theorem positions_pos (width : PointerWidth) : 0 < positions width := by
  cases width <;> decide

theorem mod_positions_mod_maxCapacity (width : PointerWidth) (seq : Nat) :
    seq % positions width % maxCapacity width = seq % maxCapacity width :=
  Nat.mod_mod_of_dvd seq (maxCapacity_dvd_positions width)

/-- Packed words fit in sixteen bits. -/
theorem word_toNat (lowLt : low < maxCapacity width) :
    (word width seq low).toNat =
      seq % positions width * maxCapacity width + low := by
  cases width <;> simp [word, positions, maxCapacity] at * <;> omega

/-- A packed word tells its wrapped sequence number and its low bits. -/
theorem word_inj (lowLt : low < maxCapacity width) (lowOtherLt : lowOther < maxCapacity width) :
    word width seq low = word width other lowOther ↔
      seq % positions width = other % positions width ∧ low = lowOther := by
  rw [← UInt16.toNat_inj, word_toNat lowLt, word_toNat lowOtherLt]
  constructor
  · intro same
    cases width <;> simp only [maxCapacity] at * <;> omega
  · rintro ⟨sameSeq, rfl⟩
    rw [sameSeq]

/-- Shifting out the low bits leaves the wrapped sequence number. -/
theorem word_shift_toNat (lowLt : low < maxCapacity width) :
    (word width seq low >>> posShift width).toNat = seq % positions width := by
  rw [UInt16.toNat_shiftRight, word_toNat lowLt, Nat.shiftRight_eq_div_pow]
  cases width
  · rw [show (posShift .bits32).toNat % 16 = 5 from by decide]
    simp only [positions, maxCapacity] at *
    omega
  · rw [show (posShift .bits64).toNat % 16 = 6 from by decide]
    simp only [positions, maxCapacity] at *
    omega

theorem and_mask_toNat (bits : UInt16) :
    (bits &&& mask width).toNat = bits.toNat % maxCapacity width := by
  rw [UInt16.toNat_and]
  cases width
  · rw [show (mask .bits32).toNat = 2 ^ 5 - 1 from by decide,
      Nat.and_two_pow_sub_one_eq_mod]
    rfl
  · rw [show (mask .bits64).toNat = 2 ^ 6 - 1 from by decide,
      Nat.and_two_pow_sub_one_eq_mod]
    rfl

/-- The slot that a position word names. -/
theorem word_slot_toNat (lowLt : low < maxCapacity width) :
    ((word width seq low >>> posShift width) &&& mask width).toNat =
      seq % maxCapacity width := by
  rw [and_mask_toNat, word_shift_toNat lowLt, mod_positions_mod_maxCapacity]

/-- The low bits of a packed word are recovered by `MASK`. -/
theorem word_and_mask_toNat (lowLt : low < maxCapacity width) :
    (word width seq low &&& mask width).toNat = low := by
  rw [and_mask_toNat, word_toNat lowLt, Nat.mul_comm, Nat.mul_add_mod,
    Nat.mod_eq_of_lt lowLt]

/-- Advancing a position by `POS_ONE` wraps the position and keeps the low
bits. -/
theorem word_add_posOne (lowLt : low < maxCapacity width) :
    word width seq low + posOne width = word width (seq + 1) low := by
  rw [← UInt16.toNat_inj, UInt16.toNat_add, word_toNat lowLt, word_toNat lowLt]
  cases width
  · rw [show (posOne .bits32).toNat = 32 from by decide]
    simp only [positions, maxCapacity] at *
    omega
  · rw [show (posOne .bits64).toNat = 64 from by decide]
    simp only [positions, maxCapacity] at *
    omega

/-- Adding `LAP_ONE` to a filled slot hands it to the next lap. -/
theorem word_add_lapOne (lowLt : low < maxCapacity width) :
    word width (seq + 1) low + lapOne width =
      word width (seq + maxCapacity width) low := by
  rw [← UInt16.toNat_inj, UInt16.toNat_add, word_toNat lowLt, word_toNat lowLt]
  cases width
  · rw [show (lapOne .bits32).toNat = 31 * 32 from by decide]
    simp only [positions, maxCapacity] at *
    omega
  · rw [show (lapOne .bits64).toNat = 63 * 64 from by decide]
    simp only [positions, maxCapacity] at *
    omega

/-- The test `word & CLOSED == CLOSED` reads the lowest bit. -/
theorem word_and_closed (lowLt : low < maxCapacity width) :
    word width seq low &&& closed = closed ↔ low % 2 = 1 := by
  rw [← UInt16.toNat_inj, UInt16.toNat_and, word_toNat lowLt,
    show closed.toNat = 1 from rfl, Nat.and_one_is_mod]
  cases width <;> simp only [positions, maxCapacity] at * <;> omega

/-- A word is marked closed when its `CLOSED` bit is set. -/
def HasClosed (bits : UInt16) : Prop := bits &&& closed = closed

instance (bits : UInt16) : Decidable (HasClosed bits) :=
  inferInstanceAs (Decidable (_ = _))

theorem hasClosed_iff (bits : UInt16) : HasClosed bits ↔ bits.toNat % 2 = 1 := by
  rw [HasClosed, ← UInt16.toNat_inj, UInt16.toNat_and,
    show closed.toNat = 1 from rfl, Nat.and_one_is_mod]

theorem hasClosed_iff_ne_zero (bits : UInt16) :
    HasClosed bits ↔ bits &&& closed ≠ 0 := by
  rw [hasClosed_iff, ne_eq, ← UInt16.toNat_inj, UInt16.toNat_and,
    show closed.toNat = 1 from rfl, Nat.and_one_is_mod, UInt16.toNat_zero]
  omega

theorem hasClosed_or_closed (bits : UInt16) : HasClosed (bits ||| closed) := by
  rw [hasClosed_iff, UInt16.toNat_or, show closed.toNat = 1 from rfl,
    ← Nat.and_one_is_mod, Nat.and_or_distrib_right, Nat.and_one_is_mod]
  rcases Nat.mod_two_eq_zero_or_one bits.toNat with even | odd
  · simp [even]
  · simp [odd]

/-- Setting the flag again leaves a closed word unchanged. -/
theorem or_closed_of_hasClosed {bits : UInt16} (isClosed : HasClosed bits) :
    bits ||| closed = bits := by
  rw [hasClosed_iff] at isClosed
  rw [← UInt16.toNat_inj, UInt16.toNat_or, show closed.toNat = 1 from rfl]
  have split := Nat.two_pow_add_eq_or_of_lt (show 1 < 2 ^ 1 by decide)
    (bits.toNat / 2)
  have value : bits.toNat = 2 ^ 1 * (bits.toNat / 2) + 1 := by omega
  calc bits.toNat ||| 1
      = (2 ^ 1 * (bits.toNat / 2) ||| 1) ||| 1 := by rw [← split, ← value]
    _ = 2 ^ 1 * (bits.toNat / 2) ||| 1 := by rw [Nat.or_assoc, Nat.or_self]
    _ = bits.toNat := by rw [← split, ← value]

/-- Advancing a position word by wrapping addition never touches `CLOSED`. -/
theorem hasClosed_add_posOne (width : PointerWidth) (bits : UInt16) :
    HasClosed (bits + posOne width) ↔ HasClosed bits := by
  rw [hasClosed_iff, hasClosed_iff, UInt16.toNat_add]
  have even : (posOne width).toNat % 2 = 0 := by cases width <;> decide
  omega

/-- `fetch_or(CLOSED)` sets the flag of a position word and keeps its
position. -/
theorem word_or_closed (flag : Bool) :
    word width seq flag.toNat ||| closed = word width seq true.toNat := by
  have room := one_lt_maxCapacity width
  rw [← UInt16.toNat_inj, UInt16.toNat_or,
    word_toNat (lt_of_le_of_lt (Bool.toNat_le flag) room),
    word_toNat (show true.toNat < maxCapacity width from room), show closed.toNat = 1 from rfl]
  have orOne (half : Nat) (bit : Bool) :
      2 * half + bit.toNat ||| 1 = 2 * half + 1 := by
    have below : bit.toNat < 2 ^ 1 := by cases bit <;> decide
    have split := Nat.two_pow_add_eq_or_of_lt below half
    have one := Nat.two_pow_add_eq_or_of_lt (show 1 < 2 ^ 1 by decide) half
    rw [show (2 : Nat) * half = 2 ^ 1 * half from rfl, split, one, Nat.or_assoc]
    cases bit <;> rfl
  cases width
  · have halved := orOne (seq % positions .bits32 * 16) flag
    simp only [maxCapacity, Bool.toNat_true] at *
    rw [show seq % positions .bits32 * 32 =
      2 * (seq % positions .bits32 * 16) by ring]
    exact halved
  · have halved := orOne (seq % positions .bits64 * 32) flag
    simp only [maxCapacity, Bool.toNat_true] at *
    rw [show seq % positions .bits64 * 64 =
      2 * (seq % positions .bits64 * 32) by ring]
    exact halved

/-- The word that `commit_send` stores: the reserved index below the next
sequence number. -/
theorem or_shift_add_one {idx : Nat} (lowLt : low < maxCapacity width)
    (idxLt : idx < maxCapacity width) :
    UInt16.ofNat idx |||
        ((word width seq low >>> posShift width + 1) <<< posShift width) =
      word width (seq + 1) idx := by
  rw [← UInt16.toNat_inj, UInt16.toNat_or, UInt16.toNat_shiftLeft,
    UInt16.toNat_add, word_shift_toNat lowLt, word_toNat idxLt,
    UInt16.toNat_ofNat', Nat.shiftLeft_eq, Nat.or_comm]
  cases width
  · rw [show (posShift .bits32).toNat % 16 = 5 from by decide]
    simp only [positions, maxCapacity] at *
    have next : (seq % (2 ^ 16 / 32) + UInt16.toNat 1) % 2 ^ 16 * 2 ^ 5 % 2 ^ 16 =
        2 ^ 5 * ((seq + 1) % (2 ^ 16 / 32)) := by
      simp only [UInt16.toNat_one]
      omega
    rw [next, Nat.mod_eq_of_lt (by omega : idx < 2 ^ 16),
      ← Nat.two_pow_add_eq_or_of_lt idxLt]
    ring
  · rw [show (posShift .bits64).toNat % 16 = 6 from by decide]
    simp only [positions, maxCapacity] at *
    have next : (seq % (2 ^ 16 / 64) + UInt16.toNat 1) % 2 ^ 16 * 2 ^ 6 % 2 ^ 16 =
        2 ^ 6 * ((seq + 1) % (2 ^ 16 / 64)) := by
      simp only [UInt16.toNat_one]
      omega
    rw [next, Nat.mod_eq_of_lt (by omega : idx < 2 ^ 16),
      ← Nat.two_pow_add_eq_or_of_lt idxLt]
    ring

/-- Sequence numbers and positions are far from the sign bit of `i16`, so the
signed difference is the difference of the numbers themselves: it does not
wrap where the position words do. -/
theorem signedDif_eq (width : PointerWidth) {first second : UInt16}
    (firstLe : first.toNat ≤ positions width)
    (secondLe : second.toNat ≤ positions width) :
    signedDif first second = (first.toNat : Int) - second.toNat := by
  have bound : positions width ≤ 2048 := by cases width <;> decide
  have firstInt : first.toInt16.toInt = first.toNat := by
    change first.toBitVec.toInt = (first.toBitVec.toNat : Int)
    have firstNat : first.toBitVec.toNat = first.toNat := rfl
    rw [BitVec.toInt_eq_toNat_of_lt (by omega)]
  have secondInt : second.toInt16.toInt = second.toNat := by
    change second.toBitVec.toInt = (second.toBitVec.toNat : Int)
    have secondNat : second.toBitVec.toNat = second.toNat := rfl
    rw [BitVec.toInt_eq_toNat_of_lt (by omega)]
  rw [signedDif, Int16.toInt_sub, firstInt, secondInt, Int.bmod_eq_of_le] <;>
    omega

end PositionWord

end Mgnp
