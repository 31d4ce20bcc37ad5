import Mgnp.PrefixCodec

/-!
# What prefix decoders accept and where they stop

`Decodes` says what a decoder does with an encoding.  The two notions here say
what it does with any other input.  `Accepts` bounds what is read from arbitrary
bytes, with the number of bytes spent, and is the way back from a value to its
encoding.  `Starves` says that an encoding that is cut short is refused as such.
Both follow the structure of the decoder.
-/

namespace Mgnp

namespace PrefixCodec

variable {Failure Value Result : Type}

/-- Whatever the decoder returns, it has consumed a prefix of its input whose
length and whose value satisfy the postcondition. -/
def Accepts (decode : Decoder Failure Value) (post : Nat → Value → Prop) : Prop :=
  ∀ ⦃input value rest⦄, decode.run input = .ok (value, rest) →
    ∃ consumed, input = consumed ++ rest ∧ post consumed.length value

/-- Every proper prefix of the bytes is refused with the failure of an input that
ends too early. -/
def Starves (unexpectedEnd : Failure) (decode : Decoder Failure Value)
    (bytes : List UInt8) : Prop :=
  ∀ count < bytes.length, decode.run (bytes.take count) = .error unexpectedEnd

section AcceptRules

variable {decode : Decoder Failure Value} {post weaker : Nat → Value → Prop}

theorem Accepts.mono (accepts : Accepts decode post)
    (weaken : ∀ spent value, post spent value → weaker spent value) :
    Accepts decode weaker := by
  intro input value rest decoded
  obtain ⟨consumed, inputEq, holds⟩ := accepts decoded
  exact ⟨consumed, inputEq, weaken _ _ holds⟩

theorem Accepts.pure {value : Value} (holds : post 0 value) :
    Accepts (pure value : Decoder Failure Value) post := by
  intro input result rest decoded
  cases decoded
  exact ⟨[], rfl, holds⟩

theorem Accepts.throw (failure : Failure) :
    Accepts (throw failure : Decoder Failure Value) post := by
  intro input value rest decoded
  cases decoded

/-- The continuation is charged with what the first decoder has spent. -/
theorem Accepts.bind {continuation : Value → Decoder Failure Result}
    {final : Nat → Result → Prop} (first : Accepts decode post)
    (second : ∀ spent value, post spent value →
      Accepts (continuation value) fun more result => final (spent + more) result) :
    Accepts (decode >>= continuation) final := by
  intro input result rest decoded
  rw [StateT.run_bind] at decoded
  cases firstRun : decode.run input with
  | error failure =>
      rw [firstRun] at decoded
      cases decoded
  | ok pair =>
      obtain ⟨value, middle⟩ := pair
      rw [firstRun] at decoded
      obtain ⟨front, inputEq, holds⟩ := first firstRun
      obtain ⟨back, (middleEq : middle = back ++ rest), done⟩ := second _ _ holds decoded
      refine ⟨front ++ back, ?_, ?_⟩
      · rw [inputEq, middleEq, List.append_assoc]
      · rw [List.length_append]
        exact done

end AcceptRules

section StarveRules

variable {unexpectedEnd : Failure} {decode : Decoder Failure Value} {bytes more : List UInt8}
  {value : Value}

theorem Starves.nil : Starves unexpectedEnd decode [] := by
  intro count short
  simp at short

/-- The cut falls into the bytes of one of the two decoders. -/
theorem Starves.bind {continuation : Value → Decoder Failure Result}
    (starves : Starves unexpectedEnd decode bytes) (first : Decodes decode bytes value)
    (second : Starves unexpectedEnd (continuation value) more) :
    Starves unexpectedEnd (decode >>= continuation) (bytes ++ more) := by
  intro count short
  rw [StateT.run_bind]
  by_cases inFirst : count < bytes.length
  · rw [List.take_append_of_le_length inFirst.le, starves count inFirst]
    rfl
  · have split : (bytes ++ more).take count = bytes ++ more.take (count - bytes.length) := by
      rw [List.take_append, List.take_of_length_le (by omega)]
    rw [List.length_append] at short
    rw [split, first]
    exact second _ (by omega)

/-- The rule for a continuation that consumes nothing. -/
theorem Starves.bind_pure {continuation : Value → Decoder Failure Result}
    (starves : Starves unexpectedEnd decode bytes) :
    Starves unexpectedEnd (decode >>= continuation) bytes := by
  intro count short
  rw [StateT.run_bind, starves count short]
  rfl

end StarveRules

section Bytes

variable (unexpectedEnd : Failure)

theorem accepts_pop : Accepts (pop unexpectedEnd) fun spent _ => spent = 1 := by
  intro input byte rest decoded
  cases input with
  | nil => cases decoded
  | cons first others =>
      cases decoded
      exact ⟨[byte], rfl, rfl⟩

theorem accepts_takeBytes (count : Nat) :
    Accepts (takeBytes unexpectedEnd count) fun spent bytes =>
      bytes.length = count ∧ spent = count := by
  intro input bytes rest decoded
  by_cases short : input.length < count
  · rw [show (takeBytes unexpectedEnd count).run input = .error unexpectedEnd from
      if_pos short] at decoded
    cases decoded
  · rw [show (takeBytes unexpectedEnd count).run input =
      .ok (input.take count, input.drop count) from if_neg short] at decoded
    cases decoded
    have length : (input.take count).length = count := List.length_take_of_le (by omega)
    exact ⟨input.take count, (List.take_append_drop count input).symm, length, length⟩

theorem starves_pop (byte : UInt8) : Starves unexpectedEnd (pop unexpectedEnd) [byte] := by
  intro count short
  have none : count = 0 := by simpa using short
  rw [none]
  rfl

theorem starves_takeBytes (bytes : List UInt8) :
    Starves unexpectedEnd (takeBytes unexpectedEnd bytes.length) bytes := by
  intro count short
  apply if_pos
  rw [List.length_take]
  omega

end Bytes

section Varints

variable (unexpectedEnd badVarint : Failure)

theorem toNat_lt_of_and_high {byte : UInt8} (lastByte : byte &&& 128 = 0) :
    byte.toNat < 128 := by
  have cases : ∀ value : Fin 256, UInt8.ofNat value.val &&& 128 = 0 → value.val < 128 := by
    decide +kernel
  exact cases ⟨byte.toNat, byte.toNat_lt⟩ (by simpa using lastByte)

theorem and_low_lt (byte : UInt8) : (byte &&& 127).toNat < 128 := by
  have cases : ∀ value : Fin 256, (UInt8.ofNat value.val &&& 127).toNat < 128 := by
    decide +kernel
  simpa using cases ⟨byte.toNat, byte.toNat_lt⟩

/-- A varint that is accepted is in range, and no spelling of a number is shorter
than its encoding. -/
theorem accepts_decodeVarint (last : UInt8) (more : Nat) :
    Accepts (decodeVarint unexpectedEnd badVarint last more) fun spent number =>
      number < 128 ^ more * (last.toNat + 1) ∧ (encodeVarint more number).length ≤ spent := by
  induction more with
  | zero =>
      apply (accepts_pop unexpectedEnd).bind
      rintro spent byte rfl
      split
      · split
        · exact .throw badVarint
        · rename_i inRange
          rw [gt_iff_lt, UInt8.lt_iff_toNat_lt] at inRange
          refine .pure ⟨by omega, ?_⟩
          exact Nat.le_refl 1
      · exact .throw badVarint
  | succ more ih =>
      unfold decodeVarint
      apply (accepts_pop unexpectedEnd).bind
      rintro spent byte rfl
      have power : 1 ≤ 128 ^ more * (last.toNat + 1) :=
        Nat.mul_pos (pow_pos (by decide) more) (Nat.succ_pos _)
      have bound : 128 ^ (more + 1) * (last.toNat + 1) =
          128 * (128 ^ more * (last.toNat + 1)) := by ring
      split
      · rename_i lastByte
        have small := toNat_lt_of_and_high lastByte
        refine .pure ⟨by omega, ?_⟩
        unfold encodeVarint
        rw [if_pos small]
        exact Nat.le_refl 1
      · apply ih.bind
        rintro rest high ⟨inRange, length⟩
        have low := and_low_lt byte
        refine .pure ⟨by omega, ?_⟩
        unfold encodeVarint
        by_cases small : (byte &&& 127).toNat + 128 * high < 128
        · rw [if_pos small, List.length_singleton]
          omega
        · have quotient : ((byte &&& 127).toNat + 128 * high) / 128 = high := by omega
          rw [if_neg small, quotient, List.length_cons]
          omega

/-- A varint that is cut short still announces another byte. -/
theorem starves_encodeVarint (last : UInt8) (more number : Nat) :
    Starves unexpectedEnd (decodeVarint unexpectedEnd badVarint last more)
      (encodeVarint more number) := by
  induction more generalizing number with
  | zero => exact (starves_pop unexpectedEnd _).bind_pure
  | succ more ih =>
      unfold encodeVarint decodeVarint
      by_cases inByte : number < 128
      · rw [if_pos inByte]
        exact (starves_pop unexpectedEnd _).bind_pure
      · rw [if_neg inByte]
        apply Starves.bind (starves_pop unexpectedEnd (UInt8.ofNat number ||| 128))
          (decodes_pop unexpectedEnd _)
        rw [if_neg (or_high_and_high _)]
        exact (ih (number / 128)).bind_pure

end Varints

end PrefixCodec

end Mgnp
