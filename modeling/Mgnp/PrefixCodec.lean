import Mathlib.Data.List.Basic
import Mathlib.Tactic.Ring

/-!
# Prefix decoders

A decoder consumes a prefix of its input and leaves the rest.  It decodes an
encoding when it returns the value whatever bytes follow, so encodings can be
concatenated without delimiters.  The building blocks here are single bytes,
counted byte strings, base-128 varints and big-endian integers.
-/

namespace Mgnp

namespace PrefixCodec

variable {Failure Value Result : Type}

abbrev Decoder (Failure Value : Type) : Type := StateT (List UInt8) (Except Failure) Value

/-- The decoder consumes exactly these bytes and returns the value. -/
def Decodes (decode : Decoder Failure Value) (bytes : List UInt8) (value : Value) : Prop :=
  ∀ rest, decode.run (bytes ++ rest) = .ok (value, rest)

section Rules

variable {decode : Decoder Failure Value} {bytes more : List UInt8} {value : Value}

theorem Decodes.pure : Decodes (pure value : Decoder Failure Value) [] value := by
  intro rest
  rfl

theorem Decodes.bind {continuation : Value → Decoder Failure Result} {result : Result}
    (first : Decodes decode bytes value)
    (second : Decodes (continuation value) more result) :
    Decodes (decode >>= continuation) (bytes ++ more) result := by
  intro rest
  rw [StateT.run_bind, List.append_assoc, first]
  exact second rest

/-- The rule for a continuation that consumes nothing. -/
theorem Decodes.bind_pure {continuation : Value → Decoder Failure Result} {result : Result}
    (first : Decodes decode bytes value)
    (second : continuation value = Pure.pure result) :
    Decodes (decode >>= continuation) bytes result := by
  rw [← List.append_nil bytes]
  apply first.bind
  rw [second]
  exact .pure

end Rules

section Bytes

/-- The next byte. -/
def pop (unexpectedEnd : Failure) : Decoder Failure UInt8 := fun input =>
  match input with
  | [] => .error unexpectedEnd
  | byte :: rest => .ok (byte, rest)

/-- The next `count` bytes. -/
def takeBytes (unexpectedEnd : Failure) (count : Nat) : Decoder Failure (List UInt8) :=
  fun input =>
    if input.length < count then .error unexpectedEnd
    else .ok (input.take count, input.drop count)

theorem decodes_pop (unexpectedEnd : Failure) (byte : UInt8) :
    Decodes (pop unexpectedEnd) [byte] byte := by
  intro rest
  rfl

theorem decodes_takeBytes (unexpectedEnd : Failure) (bytes : List UInt8) :
    Decodes (takeBytes unexpectedEnd bytes.length) bytes bytes := by
  intro rest
  change takeBytes unexpectedEnd bytes.length (bytes ++ rest) = _
  unfold takeBytes
  rw [if_neg (by simp), List.take_left, List.drop_left]

end Bytes

section Varints

/-- The base-128 digits of a number, low digits first, with the high bit set on
every byte but the last.  At most `more + 1` bytes are written. -/
def encodeVarint : Nat → Nat → List UInt8
  | 0, number => [UInt8.ofNat number]
  | more + 1, number =>
      if number < 128 then [UInt8.ofNat number]
      else (UInt8.ofNat number ||| 128) :: encodeVarint more (number / 128)

/-- Read a varint of at most `more + 1` bytes, whose last possible byte may not
exceed `last`. -/
def decodeVarint (unexpectedEnd badVarint : Failure) (last : UInt8) :
    Nat → Decoder Failure Nat
  | 0 => do
      let byte ← pop unexpectedEnd
      if byte &&& 128 = 0 then
        if byte > last then throw badVarint else pure byte.toNat
      else throw badVarint
  | more + 1 => do
      let byte ← pop unexpectedEnd
      if byte &&& 128 = 0 then pure byte.toNat
      else do
        let high ← decodeVarint unexpectedEnd badVarint last more
        pure ((byte &&& 127).toNat + 128 * high)

theorem toNat_ofNat_small {number : Nat} (small : number < 128) :
    (UInt8.ofNat number).toNat = number := by
  rw [UInt8.toNat_ofNat']
  omega

theorem ofNat_and_high {number : Nat} (small : number < 128) :
    UInt8.ofNat number &&& 128 = 0 := by
  have cases : ∀ low : Fin 128, UInt8.ofNat low.val &&& 128 = 0 := by decide
  exact cases ⟨number, small⟩

/-- The high bit marks a byte that is followed by another. -/
theorem or_high_and_high (byte : UInt8) : (byte ||| 128) &&& 128 ≠ 0 := by
  have cases : ∀ value : Fin 256, (UInt8.ofNat value.val ||| 128) &&& 128 ≠ 0 := by
    decide +kernel
  simpa using cases ⟨byte.toNat, byte.toNat_lt⟩

theorem or_high_and_low (byte : UInt8) :
    ((byte ||| 128) &&& 127).toNat = byte.toNat % 128 := by
  have cases : ∀ value : Fin 256,
      ((UInt8.ofNat value.val ||| 128) &&& 127).toNat = value.val % 128 := by
    decide +kernel
  simpa using cases ⟨byte.toNat, byte.toNat_lt⟩

/-- A varint decodes to the number it encodes when the number fits in the bytes
that the decoder allows. -/
theorem decodes_encodeVarint (unexpectedEnd badVarint : Failure) {last : UInt8}
    (small : last.toNat < 128) (more : Nat) {number : Nat}
    (bounded : number < 128 ^ more * (last.toNat + 1)) :
    Decodes (decodeVarint unexpectedEnd badVarint last more) (encodeVarint more number)
      number := by
  induction more generalizing number with
  | zero =>
      have inByte : number < 128 := by omega
      have low := toNat_ofNat_small inByte
      have fits : ¬ UInt8.ofNat number > last := by
        rw [gt_iff_lt, UInt8.lt_iff_toNat_lt, low]
        omega
      apply (decodes_pop unexpectedEnd _).bind_pure
      rw [if_pos (ofNat_and_high inByte), if_neg fits, low]
  | succ more ih =>
      unfold encodeVarint decodeVarint
      by_cases inByte : number < 128
      · rw [if_pos inByte]
        apply (decodes_pop unexpectedEnd _).bind_pure
        rw [if_pos (ofNat_and_high inByte), toNat_ofNat_small inByte]
      · rw [if_neg inByte]
        have high : number / 128 < 128 ^ more * (last.toNat + 1) := by
          rw [Nat.div_lt_iff_lt_mul (by decide)]
          calc number < 128 ^ (more + 1) * (last.toNat + 1) := bounded
            _ = 128 ^ more * (last.toNat + 1) * 128 := by ring
        apply Decodes.bind (decodes_pop unexpectedEnd (UInt8.ofNat number ||| 128))
        rw [if_neg (or_high_and_high _)]
        apply (ih high).bind_pure
        rw [or_high_and_low, UInt8.toNat_ofNat']
        congr 1
        omega

end Varints

section BigEndian

/-- The `count` low bytes of a number, high byte first. -/
def bigEndian : Nat → Nat → List UInt8
  | 0, _ => []
  | count + 1, number => bigEndian count (number / 256) ++ [UInt8.ofNat number]

def ofBigEndian (bytes : List UInt8) : Nat :=
  bytes.foldl (fun high byte => 256 * high + byte.toNat) 0

theorem length_bigEndian (count number : Nat) : (bigEndian count number).length = count := by
  induction count generalizing number with
  | zero => rfl
  | succ count ih => simp [bigEndian, ih]

theorem ofBigEndian_bigEndian {count number : Nat} (bounded : number < 256 ^ count) :
    ofBigEndian (bigEndian count number) = number := by
  induction count generalizing number with
  | zero =>
      have zero : number = 0 := by simpa using bounded
      rw [zero]
      rfl
  | succ count ih =>
      have shorter : number / 256 < 256 ^ count := by
        rw [pow_succ] at bounded
        omega
      have high := ih shorter
      unfold ofBigEndian at high
      unfold ofBigEndian bigEndian
      rw [List.foldl_append, high, List.foldl_cons, List.foldl_nil, UInt8.toNat_ofNat']
      omega

end BigEndian

end PrefixCodec

end Mgnp
