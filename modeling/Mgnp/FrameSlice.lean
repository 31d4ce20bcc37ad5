import Mgnp.MessageCodec

/-!
# Writing frames into a slice

`to_slice` writes the header, takes the rest of the buffer under the same name
and writes the body there.  The length of both is then cut from that rest, not
from the whole buffer, so the result misses the header.
-/

namespace Mgnp

namespace Calliope

open PositionWord

/-- `postcard::to_slice`, with the length of the slice it returns and the buffer
after the call.  A buffer that is too short is a `SerializeBufferFull`. -/
def writeSlice (bytes buf : List UInt8) : Except PostcardError (Nat × List UInt8) :=
  if buf.length < bytes.length then .error .other
  else .ok (bytes.length, bytes ++ buf.drop bytes.length)

def OutboundData.toSlice (data : OutboundData) (buf : List UInt8) :
    Except PostcardError (Nat × List UInt8) :=
  match data with
  | .empty => .ok (0, buf)
  | .data bytes => writeSlice bytes buf
  | .rejected bytes => writeSlice bytes buf
  | .hello bytes => writeSlice bytes buf

theorem OutboundData.toSlice_eq (data : OutboundData) (buf : List UInt8) :
    data.toSlice buf = writeSlice data.toVec buf := by
  cases data with
  | empty => simp [toSlice, toVec, writeSlice]
  | data | rejected | hello => rfl

theorem writeSlice_of_le {bytes buf : List UInt8} (fits : bytes.length ≤ buf.length) :
    writeSlice bytes buf = .ok (bytes.length, bytes ++ buf.drop bytes.length) :=
  if_neg (by omega)

theorem writeSlice_of_lt {bytes buf : List UInt8} (short : buf.length < bytes.length) :
    writeSlice bytes buf = .error .other :=
  if_pos short

namespace Frame

/-- `OutboundFrame::to_slice`.  The outer error is a panic. -/
def toSlice (width : PointerWidth) (frame : OutboundFrame) (buf : List UInt8) :
    Except String (Except PostcardError (List UInt8)) :=
  match writeSlice (frame.header.encode width) buf with
  | .error error => .ok (.error error)
  | .ok (used, buf) =>
      let buf := buf.drop used
      match frame.body.toSlice buf with
      | .error error => .ok (.error error)
      | .ok (len, buf) =>
          let used := used + len
          if buf.length < used then
            .error ("range end index " ++ toString used ++
              " out of range for slice of length " ++ toString buf.length)
          else .ok (.ok (buf.take used))

/-- The slice holds the bytes of `to_vec` when they fit in the buffer, and an
error is returned when they do not. -/
def SliceAgrees (width : PointerWidth) (frame : OutboundFrame) (buf : List UInt8) : Prop :=
  ((frame.toVec width).length ≤ buf.length →
    frame.toSlice width buf = .ok (.ok (frame.toVec width))) ∧
  (buf.length < (frame.toVec width).length →
    ∃ error, frame.toSlice width buf = .ok (.error error))

section Cases

variable {width : PointerWidth} {frame : OutboundFrame} {buf : List UInt8}

theorem length_toVec :
    (frame.toVec width).length =
      (frame.header.encode width).length + frame.body.toVec.length :=
  List.length_append

/-- A buffer that is too short is reported, whichever part does not fit. -/
theorem toSlice_of_short (short : buf.length < (frame.toVec width).length) :
    frame.toSlice width buf = .ok (.error .other) := by
  rw [length_toVec] at short
  unfold toSlice
  by_cases headerFits : (frame.header.encode width).length ≤ buf.length
  · have bodyShort : (buf.drop (frame.header.encode width).length).length <
        frame.body.toVec.length := by
      rw [List.length_drop]
      omega
    rw [writeSlice_of_le headerFits]
    simp only [List.drop_left, OutboundData.toSlice_eq, writeSlice_of_lt bodyShort]
  · rw [writeSlice_of_lt (by omega)]

/-- The result in a long enough buffer is cut from what follows the header. -/
theorem toSlice_of_fits (fits : (frame.toVec width).length ≤ buf.length) :
    frame.toSlice width buf =
      if buf.length < (frame.header.encode width).length + (frame.toVec width).length then
        .error ("range end index " ++ toString (frame.toVec width).length ++
          " out of range for slice of length " ++
          toString (buf.length - (frame.header.encode width).length))
      else .ok (.ok (frame.body.toVec ++ (buf.drop (frame.toVec width).length).take
        (frame.header.encode width).length)) := by
  rw [length_toVec] at fits ⊢
  have headerFits : (frame.header.encode width).length ≤ buf.length := by omega
  have bodyFits : frame.body.toVec.length ≤
      (buf.drop (frame.header.encode width).length).length := by
    rw [List.length_drop]
    omega
  unfold toSlice
  rw [writeSlice_of_le headerFits]
  simp only [List.drop_left, OutboundData.toSlice_eq, writeSlice_of_le bodyFits]
  have restLength : (frame.body.toVec ++ (buf.drop (frame.header.encode width).length).drop
      frame.body.toVec.length).length =
      buf.length - (frame.header.encode width).length := by
    simp only [List.length_append, List.length_drop]
    omega
  rw [restLength]
  by_cases tooShort : buf.length < (frame.header.encode width).length +
      ((frame.header.encode width).length + frame.body.toVec.length)
  · rw [if_pos tooShort, if_pos (by omega)]
  · rw [if_neg tooShort, if_neg (by omega), Nat.add_comm, List.take_length_add_append,
      List.drop_drop, Nat.add_comm]

end Cases

/-- `to_slice` agrees with `to_vec` exactly when the buffer is too short, or when
the body followed by old contents of the buffer happens to spell the frame. -/
theorem sliceAgrees_iff (width : PointerWidth) (frame : OutboundFrame) (buf : List UInt8) :
    SliceAgrees width frame buf ↔
      buf.length < (frame.toVec width).length ∨
        (frame.header.encode width).length + (frame.toVec width).length ≤ buf.length ∧
          frame.body.toVec ++ (buf.drop (frame.toVec width).length).take
            (frame.header.encode width).length = frame.toVec width := by
  unfold SliceAgrees
  by_cases short : buf.length < (frame.toVec width).length
  · simp [short, toSlice_of_short short]
  · have fits : (frame.toVec width).length ≤ buf.length := by omega
    rw [toSlice_of_fits fits]
    by_cases cut : buf.length <
        (frame.header.encode width).length + (frame.toVec width).length
    · simp [short, fits, cut, Nat.not_le.mpr cut]
    · simp [short, fits, cut, Nat.le_of_not_lt cut]

/-- An `ACK` in a buffer of exactly its length panics. -/
theorem slice_not_agrees :
    ¬ ∀ (frame : OutboundFrame) (buf : List UInt8), SliceAgrees .bits64 frame buf := by
  intro always
  have agreed := (always (.ack .first .first) [0, 0, 0]).1 (by decide)
  revert agreed
  decide

end Frame

end Calliope

end Mgnp
