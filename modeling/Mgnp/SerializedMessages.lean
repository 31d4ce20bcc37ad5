import Mgnp.ChannelMessages

/-!
# Sending serialized messages

A `SerRecvRef` serializes the message it refers to, plain or as a COBS frame,
and a `DeserSender` deserializes bytes into the cell of a permit and commits it.
`postcard` is a parameter: the functions of it that the vtables call, and that
each of its two codecs round-trips.
-/

namespace Mgnp

namespace ChannelCore

open LabelledRuns PositionWord

/-- The functions of `postcard` at a message type. -/
structure Postcard (Failure T : Type*) where
  toAllocvec : T → Except Failure (List UInt8)
  toAllocvecCobs : T → Except Failure (List UInt8)
  /-- The bytes written to the front of the buffer. -/
  toSlice : T → List UInt8 → Except Failure (List UInt8)
  toSliceCobs : T → List UInt8 → Except Failure (List UInt8)
  fromBytes : List UInt8 → Except Failure T
  fromBytesCobs : List UInt8 → Except Failure T

/-- Both codecs read back what they wrote. -/
structure Postcard.RoundTrips {Failure T : Type*} (postcard : Postcard Failure T) : Prop where
  allocvec : ∀ {value bytes}, postcard.toAllocvec value = .ok bytes →
    postcard.fromBytes bytes = .ok value
  slice : ∀ {value buf bytes}, postcard.toSlice value buf = .ok bytes →
    postcard.fromBytes bytes = .ok value
  allocvecCobs : ∀ {value bytes}, postcard.toAllocvecCobs value = .ok bytes →
    postcard.fromBytesCobs bytes = .ok value
  sliceCobs : ∀ {value buf bytes}, postcard.toSliceCobs value buf = .ok bytes →
    postcard.fromBytesCobs bytes = .ok value

section Vtables

variable {Failure T : Type*} (postcard : Postcard Failure T)

/-! `SerVtable`, whose functions get the element that the reference names. -/

def SerVtable.toSlice (elem : T) (buf : List UInt8) : Except Failure (List UInt8) :=
  postcard.toSlice elem buf

def SerVtable.toSliceFramed (elem : T) (buf : List UInt8) : Except Failure (List UInt8) :=
  postcard.toSliceCobs elem buf

def SerVtable.toVec (elem : T) : Except Failure (List UInt8) :=
  postcard.toAllocvec elem

def SerVtable.toVecFramed (elem : T) : Except Failure (List UInt8) :=
  postcard.toAllocvecCobs elem

/-! `DeserVtable`, whose functions answer the value to write to the element. -/

def DeserVtable.fromBytes (buf : List UInt8) : Except Failure T :=
  postcard.fromBytes buf

def DeserVtable.fromBytesFramed (buf : List UInt8) : Except Failure T :=
  postcard.fromBytes buf

end Vtables

/-- What `SerPermit::send` and `send_framed` do with the permit of a task. -/
structure PermitSend (Failure T E : Type*) where
  /-- The error of the deserialization, which ends the call. -/
  refusal : Option Failure
  actions : List (Action T E)

/-- `SerPermit::send` with `vtable.from_bytes`, and `SerPermit::send_framed` with
`vtable.from_bytes_framed`. -/
def SerPermit.send {Failure T E : Type*} (fromBytes : List UInt8 → Except Failure T)
    (task : Nat) (bytes : List UInt8) : PermitSend Failure T E :=
  match fromBytes bytes with
  | .error error => ⟨some error, [.release task]⟩
  | .ok value => ⟨none, [.write task value, .commit task]⟩

/-- The bytes that `SerRecvRef::to_vec` or `to_slice` makes of a message. -/
def SerializedAs {Failure T : Type*} (postcard : Postcard Failure T) (value : T)
    (bytes : List UInt8) : Prop :=
  SerVtable.toVec postcard value = .ok bytes ∨
    ∃ buf, SerVtable.toSlice postcard value buf = .ok bytes

/-- The bytes that `to_vec_framed` or `to_slice_framed` makes of a message. -/
def FramedAs {Failure T : Type*} (postcard : Postcard Failure T) (value : T)
    (bytes : List UInt8) : Prop :=
  SerVtable.toVecFramed postcard value = .ok bytes ∨
    ∃ buf, SerVtable.toSliceFramed postcard value buf = .ok bytes

/-- Sending these bytes on any permit of any channel is not refused, and whenever
the receiver gets the message of that send, it is this value. -/
def Delivers {Failure T : Type*} (E : Type*) (fromBytes : List UInt8 → Except Failure T)
    (bytes : List UInt8) (value : T) : Prop :=
  ∀ (width : PointerWidth) (capacity : Nat), 0 < capacity → capacity ≤ maxCapacity width →
  ∀ (history : List (Event T E)) (channel : Channel T E) (i idx : Nat) (handle : Option Nat),
    Run (step width) anyStep (Channel.new width capacity) history channel →
    channel.tasks[i]? = some ⟨handle, .permit idx⟩ →
    (SerPermit.send (E := E) fromBytes i bytes).refusal = none ∧
    ∀ (events later : List (Event T E)) (middle final : Channel T E),
      exec (step width) anyStep channel (SerPermit.send fromBytes i bytes).actions =
        some (middle, events) →
      Run (step width) anyStep middle later final →
      ∀ (ticket index : Nat) (message : Option T) (got : Nat × Option T),
        (committed (history ++ events ++ later))[ticket]? = some (i, index, message) →
        (received (history ++ events ++ later))[ticket]? = some got →
        got.2 = some value

section Delivery

variable {Failure T E : Type*} {width : PointerWidth} {capacity : Nat}

/-- The write and the start of the commit, as the two actions of the channel. -/
theorem exec_write_commit {channel middle : Channel T E} {events : List (Event T E)}
    {i idx : Nat} {handle : Option Nat} {value : T}
    (at_i : channel.tasks[i]? = some ⟨handle, .permit idx⟩)
    (executed : exec (step width) anyStep channel [.write i value, .commit i] =
      some (middle, events)) :
    events = [] ∧ middle = { channel.goto i handle (.committing idx) with
      elements := Function.update channel.elements idx (some value) } := by
  simp [exec, anyStep, step, at_i] at executed
  obtain ⟨rfl, rfl⟩ := executed
  exact ⟨rfl, rfl⟩

/-- What the receiver gets at the place of the send is what was written. -/
theorem received_of_write {history events later : List (Event T E)}
    {channel middle final : Channel T E} {i idx : Nat} {handle : Option Nat} {value : T}
    (capacityLe : capacity ≤ maxCapacity width)
    (before : Run (step width) anyStep (Channel.new width capacity) history channel)
    (at_i : channel.tasks[i]? = some ⟨handle, .permit idx⟩)
    (executed : exec (step width) anyStep channel [.write i value, .commit i] =
      some (middle, events))
    (after : Run (step width) anyStep middle later final)
    {ticket index : Nat} {message : Option T} {got : Nat × Option T}
    (sent : (committed (history ++ events ++ later))[ticket]? = some (i, index, message))
    (gotten : (received (history ++ events ++ later))[ticket]? = some got) :
    got.2 = some value := by
  have begun := before.trans (run_of_exec executed)
  have carries : Carries (history ++ events) middle i (some value) := by
    obtain ⟨rfl, rfl⟩ := exec_write_commit at_i executed
    rw [List.append_nil]
    exact .begin (represents_run capacityLe before) at_i value
  have whole := carries.run (represents_run capacityLe begun) capacityLe after
  have isValue : message = some value := whole.committed index message (List.mem_of_getElem? sent)
  obtain ⟨rest, prefixEq⟩ :=
    (represents_run capacityLe (begun.trans after)).received_in_order
  have inside := (List.getElem?_eq_some_iff.mp gotten).1
  have same : some got = some (index, message) := by
    calc
      some got = (received (history ++ events ++ later))[ticket]? := gotten.symm
      _ = (received (history ++ events ++ later) ++ rest)[ticket]? :=
        (List.getElem?_append_left inside).symm
      _ = some (index, message) := by
        rw [prefixEq, List.getElem?_map, sent]
        rfl
  obtain rfl := Option.some.inj same
  exact isValue

/-- A quiet channel whose only index has been reserved. -/
def Channel.permitted (channel : Channel T E) : Channel T E :=
  { channel with
    core := { channel.core with indices := [] }
    tasks := channel.tasks ++ [⟨some 0, .permit 0⟩] }

def Channel.holding (channel : Channel T E) (value : T) : Channel T E :=
  { channel with elements := Function.update channel.elements 0 (some value) }

/-- A quiet channel whose only send has been written and is about to commit. -/
def Channel.carrying (channel : Channel T E) (value : T) : Channel T E :=
  { channel.holding value with
    core := { channel.core with indices := [] }
    tasks := channel.tasks ++ [⟨some 0, .committing 0⟩] }

section Quiet

variable {n : Nat} {channel : Channel T E}

theorem exec_reserve (quiet : Quiet width n channel) :
    exec (step width) anyStep channel [.reserve 0 false, .run channel.tasks.length,
        .allocate channel.tasks.length 0] =
      some (channel.permitted, [.reserved channel.tasks.length 0]) := by
  simp [exec, anyStep, step, runTask, Channel.spawn, Channel.goto, quiet.handles,
    quiet.indices, quiet.enqueuePos, not_closed_word, Channel.permitted]

theorem exec_permitted (width : PointerWidth) (channel : Channel T E) (value : T) :
    exec (step width) anyStep channel.permitted
        [.write channel.tasks.length value, .commit channel.tasks.length] =
      some (channel.carrying value, []) := by
  simp [exec, anyStep, step, Channel.permitted, Channel.carrying, Channel.holding,
    Channel.goto]

theorem exec_carrying (quiet : Quiet width n channel) (value : T) :
    exec (step width) anyStep (channel.carrying value)
        (List.replicate 5 (.run channel.tasks.length)) =
      some ((channel.holding value).sent width n,
        [.committed channel.tasks.length 0 (some value), .stored channel.tasks.length,
          .wakeCons, .sendOk channel.tasks.length]) := by
  simp [exec, anyStep, step, runTask, Channel.goto, Channel.carrying, Channel.holding,
    List.replicate, quiet.enqueuePos, not_closed_word, commitOrder_vacant, quiet.vacant_self,
    slotOf_word (maxCapacity_pos width), next_word, word_add_posOne (maxCapacity_pos width),
    Channel.sent]

theorem Quiet.holding (quiet : Quiet width n channel) (value : T) :
    Quiet width n (channel.holding value) :=
  ⟨quiet.rx, quiet.handles, quiet.indices, quiet.enqueuePos, quiet.dequeuePos, quiet.vacant⟩

end Quiet

/-- A send into a new channel, up to the receiver getting its message. -/
theorem run_delivery (width : PointerWidth) (value : T) :
    ∃ final : Channel T E, Run (step width) anyStep
      ((Channel.new width 1).carrying value)
      [.committed 0 0 (some value), .stored 0, .wakeCons, .sendOk 0,
        .received 0 (some value), .wakeProd] final := by
  have inside : 0 + 1 < positions width := by cases width <;> decide
  have quiet : Quiet width 0 (Channel.new width 1 : Channel T E) := quiet_new
  have sends := run_of_exec (exec_carrying quiet value)
  have receives := run_of_exec (exec_receive (quiet.holding value) inside)
  exact ⟨_, sends.trans receives⟩

/-- A channel delivers what the deserializer makes of the bytes, and nothing else. -/
theorem delivers_iff {fromBytes : List UInt8 → Except Failure T} {bytes : List UInt8}
    {value : T} : Delivers E fromBytes bytes value ↔ fromBytes bytes = .ok value := by
  constructor
  · intro delivers
    have quiet : Quiet .bits64 0 (Channel.new .bits64 1 : Channel T E) := quiet_new
    have reserved := run_of_exec (exec_reserve quiet)
    obtain ⟨accepted, receivedAs⟩ := delivers .bits64 1 Nat.one_pos (by decide) _ _ 0 0 (some 0)
      reserved rfl
    cases decoded : fromBytes bytes with
    | error error => simp [SerPermit.send, decoded] at accepted
    | ok other =>
        obtain ⟨final, receives⟩ := run_delivery (E := E) .bits64 other
        have sends := exec_permitted .bits64 (Channel.new .bits64 1 : Channel T E) other
        have same : some other = some value := by
          apply receivedAs [] _ _ final ?_ receives 0 0 (some other) (0, some other) rfl rfl
          rw [SerPermit.send, decoded]
          exact sends
        rw [Option.some.inj same]
  · intro decoded width capacity _ capacityLe history channel i idx handle before at_i
    constructor
    · simp [SerPermit.send, decoded]
    · intro events later middle final executed after ticket index message got sent gotten
      simp only [SerPermit.send, decoded] at executed
      exact received_of_write capacityLe before at_i executed after sent gotten

end Delivery

section Codecs

variable {Failure T : Type*}

/-- Both pairs of functions deliver the message. -/
structure DeliversSerialized (E : Type*) (postcard : Postcard Failure T) (value : T) :
    Prop where
  plain : ∀ bytes, SerializedAs postcard value bytes →
    Delivers E (DeserVtable.fromBytes postcard) bytes value
  framed : ∀ bytes, FramedAs postcard value bytes →
    Delivers E (DeserVtable.fromBytesFramed postcard) bytes value

/-- The plain functions always deliver the message.  The framed ones do exactly
when the plain decoder reads it off the frame, because `from_bytes_framed` calls
the plain decoder. -/
theorem deliversSerialized_iff {E : Type*} {postcard : Postcard Failure T}
    (roundTrips : postcard.RoundTrips) (value : T) :
    DeliversSerialized E postcard value ↔
      ∀ bytes, FramedAs postcard value bytes → postcard.fromBytes bytes = .ok value := by
  constructor
  · intro delivers bytes framed
    exact delivers_iff.mp (delivers.framed bytes framed)
  · intro reads
    constructor
    · rintro bytes (vec | ⟨buf, slice⟩)
      · exact delivers_iff.mpr (roundTrips.allocvec vec)
      · exact delivers_iff.mpr (roundTrips.slice slice)
    · intro bytes framed
      exact delivers_iff.mpr (reads bytes framed)

/-- `postcard` at `u8`: the plain codec is the byte itself, and a COBS frame of
one byte replaces a zero by the distance to the terminator. -/
def Postcard.byte : Postcard Unit UInt8 where
  toAllocvec byte := .ok [byte]
  toAllocvecCobs byte := .ok (if byte = 0 then [1, 1, 0] else [2, byte, 0])
  toSlice byte buf := if buf.length < 1 then .error () else .ok [byte]
  toSliceCobs byte buf :=
    if buf.length < 3 then .error ()
    else .ok (if byte = 0 then [1, 1, 0] else [2, byte, 0])
  fromBytes
    | byte :: _ => .ok byte
    | [] => .error ()
  fromBytesCobs
    | [1, 1, 0] => .ok 0
    | [2, byte, 0] => if byte = 0 then .error () else .ok byte
    | _ => .error ()

theorem Postcard.byte_roundTrips : Postcard.byte.RoundTrips := by
  have cobs : ∀ byte : UInt8,
      Postcard.byte.fromBytesCobs (if byte = 0 then [1, 1, 0] else [2, byte, 0]) = .ok byte := by
    intro byte
    by_cases zero : byte = 0
    · simp [Postcard.byte, zero]
    · simp [Postcard.byte, zero]
  constructor
  · rintro value bytes ⟨⟩
    rfl
  · intro value buf bytes written
    simp only [Postcard.byte] at written
    split at written <;> cases written
    rfl
  · rintro value bytes ⟨⟩
    exact cobs value
  · intro value buf bytes written
    simp only [Postcard.byte] at written
    split at written <;> cases written
    exact cobs value

/-- The frame of 2 happens to begin with 2. -/
theorem deliversSerialized_two : DeliversSerialized Unit Postcard.byte 2 := by
  apply (deliversSerialized_iff Postcard.byte_roundTrips 2).mpr
  rintro bytes (vec | ⟨buf, slice⟩)
  · cases vec
    rfl
  · simp only [SerVtable.toSliceFramed, Postcard.byte] at slice
    split at slice <;> cases slice
    rfl

/-- The frame of 5 is delivered as 2. -/
theorem framed_not_delivered :
    ¬ ∀ (T : Type) (postcard : Postcard Unit T), postcard.RoundTrips →
      ∀ value, DeliversSerialized Unit postcard value := by
  intro always
  have delivers := always UInt8 Postcard.byte Postcard.byte_roundTrips 5
  have read := delivers_iff.mp (delivers.framed [2, 5, 0] (.inl rfl))
  simp [DeserVtable.fromBytesFramed, Postcard.byte] at read

end Codecs

end ChannelCore

end Mgnp
