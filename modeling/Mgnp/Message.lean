import Mathlib.Algebra.Group.Nat.Defs
import Mathlib.Data.Option.Basic

/-!
# Calliope frames

This file translates the frame types of `message.rs`, the connection ids of
`conn_table.rs` and the service identities of `service.rs`.  A frame body is the
list of its serialized bytes.
-/

namespace Mgnp

namespace Calliope

/-- A connection id.  Id 0 is the link-control channel. -/
structure Id where
  value : UInt16
  nonzero : value ≠ 0
  deriving DecidableEq

/-- Whether debug assertions are compiled in. -/
inductive Build
  | debug
  | release
  deriving DecidableEq

namespace Id

/-- The id of the first table entry. -/
def first : Id := ⟨1, by decide⟩

def toIndex (id : Id) : Nat := id.value.toNat - 1

/-- `u16::saturating_add(1)`. -/
def saturatingSucc (index : UInt16) : UInt16 :=
  if index.toNat + 1 < 2 ^ 16 then index + 1 else UInt16.ofNat (2 ^ 16 - 1)

theorem saturatingSucc_ne_zero (index : UInt16) : saturatingSucc index ≠ 0 := by
  unfold saturatingSucc
  split
  · rename_i small
    intro zero
    have wrapped := congrArg UInt16.toNat zero
    simp only [UInt16.toNat_add, UInt16.toNat_one, UInt16.toNat_zero] at wrapped
    omega
  · decide

/-- The debug build checks the conversion to `u16`, the release build truncates. -/
def fromIndex (build : Build) (index : Nat) : Except String Id :=
  match build with
  | .release => .ok ⟨saturatingSucc (UInt16.ofNat index), saturatingSucc_ne_zero _⟩
  | .debug =>
      if index < 2 ^ 16 then
        .ok ⟨saturatingSucc (UInt16.ofNat index), saturatingSucc_ne_zero _⟩
      else
        .error ("conn table indices may not exceed u16::MAX; tried to convert "
          ++ toString index)

def checkedAdd (id : Id) (n : UInt16) : Option Id :=
  if fits : id.value.toNat + n.toNat < 2 ^ 16 then
    some ⟨id.value + n, by
      intro zero
      have wrapped := congrArg UInt16.toNat zero
      simp only [UInt16.toNat_add, UInt16.toNat_zero] at wrapped
      have positive : id.value.toNat ≠ 0 := fun toNatZero =>
        id.nonzero (UInt16.toNat_inj.mp toNatZero)
      omega⟩
  else none

theorem value_pos (id : Id) : 0 < id.value.toNat := by
  apply Nat.pos_of_ne_zero
  intro toNatZero
  exact id.nonzero (UInt16.toNat_inj.mp toNatZero)

theorem toIndex_succ (id : Id) : id.toIndex + 1 = id.value.toNat := by
  have positive := id.value_pos
  unfold toIndex
  omega

theorem toIndex_lt (id : Id) : id.toIndex < 2 ^ 16 - 1 := by
  have bounded := id.value.toNat_lt
  have succ := id.toIndex_succ
  omega

theorem toIndex_injective : Function.Injective toIndex := by
  intro left right sameIndex
  have sameValue : left.value = right.value := by
    apply UInt16.toNat_inj.mp
    rw [← toIndex_succ, ← toIndex_succ, sameIndex]
  cases left
  cases right
  simpa using sameValue

@[simp] theorem toIndex_inj {left right : Id} :
    left.toIndex = right.toIndex ↔ left = right :=
  toIndex_injective.eq_iff

@[simp] theorem toIndex_first : first.toIndex = 0 := by
  decide

/-- On the indices that ids can name, `from_index` inverts `to_index` in both
builds. -/
theorem fromIndex_eq_ok (build : Build) {index : Nat} (small : index < 2 ^ 16 - 1) :
    ∃ id, fromIndex build index = .ok id ∧ id.toIndex = index := by
  have exact : (saturatingSucc (UInt16.ofNat index)).toNat = index + 1 := by
    have toNatIndex : (UInt16.ofNat index).toNat = index :=
      UInt16.toNat_ofNat_of_lt' (by simp only [UInt16.size]; omega)
    unfold saturatingSucc
    rw [if_pos (by omega), UInt16.toNat_add, toNatIndex, UInt16.toNat_one]
    omega
  refine ⟨⟨_, saturatingSucc_ne_zero (UInt16.ofNat index)⟩, ?_, ?_⟩
  · cases build with
    | release => rfl
    | debug =>
        unfold fromIndex
        exact if_pos (by omega)
  · exact congrArg (· - 1) exact

theorem fromIndex_toIndex (build : Build) (id : Id) :
    fromIndex build id.toIndex = .ok id := by
  obtain ⟨found, converted, sameIndex⟩ := fromIndex_eq_ok build id.toIndex_lt
  rw [converted, toIndex_injective sameIndex]

theorem checkedAdd_one (id : Id) (small : id.toIndex + 1 < 2 ^ 16 - 1) :
    ∃ next, id.checkedAdd 1 = some next ∧ next.toIndex = id.toIndex + 1 := by
  have succ := id.toIndex_succ
  have fits : id.value.toNat + (1 : UInt16).toNat < 2 ^ 16 := by
    rw [UInt16.toNat_one]
    omega
  unfold checkedAdd
  rw [dif_pos fits]
  refine ⟨_, rfl, ?_⟩
  simp only [toIndex, UInt16.toNat_add, UInt16.toNat_one]
  omega

end Id

/-- `heapless::String<N>`. -/
structure HeaplessString (N : Nat) where
  text : String
  fits : text.utf8ByteSize ≤ N
  deriving DecidableEq

inductive IdentityKind
  | name (name : HeaplessString 32)
  deriving DecidableEq

structure Identity where
  /-- The UUID of the service. -/
  id : BitVec 128
  kind : IdentityKind
  deriving DecidableEq

/-- An identity for concrete runs. -/
def Identity.sample : Identity := ⟨0, .name ⟨"", by decide⟩⟩

/-- `postcard::Error`, with the errors the code does not tell apart as one. -/
inductive PostcardError
  | deserializeUnexpectedEnd
  | deserializeBadVarint
  | deserializeBadBool
  | deserializeBadChar
  | deserializeBadUtf8
  | deserializeBadOption
  | deserializeBadEnum
  | deserializeBadEncoding
  | deserializeBadCrc
  | serdeDeCustom
  | other
  deriving DecidableEq

inductive DecodeErrorKind
  | unexpectedEnd
  | badVarint
  | badBool
  | badChar
  | badUtf8
  | badOption
  | badEnum
  | badEncoding
  | badCrc
  | serdeDeCustom
  | unknown
  deriving DecidableEq

def DecodeErrorKind.fromPostcard : PostcardError → DecodeErrorKind
  | .deserializeUnexpectedEnd => .unexpectedEnd
  | .deserializeBadVarint => .badVarint
  | .deserializeBadBool => .badBool
  | .deserializeBadChar => .badChar
  | .deserializeBadUtf8 => .badUtf8
  | .deserializeBadOption => .badOption
  | .deserializeBadEnum => .badEnum
  | .deserializeBadEncoding => .badEncoding
  | .deserializeBadCrc => .badCrc
  | .serdeDeCustom => .serdeDeCustom
  | .other => .unknown

inductive DecodeError
  | header (kind : DecodeErrorKind)
  | body (kind : DecodeErrorKind)
  | unexpectedTrailingData
  deriving DecidableEq

def DecodeError.ofBody (error : PostcardError) : DecodeError :=
  .body (.fromPostcard error)

/-- Why a connection was not accepted. -/
inductive Rejection
  | connTableFull (capacity : Nat)
  | notFound
  | serviceRejected
  | decodeError (error : DecodeError)
  deriving DecidableEq

/-- Why a connection was reset. -/
inductive Reset
  | becauseISaidSo
  | youDoneGoofed (error : DecodeError)
  | noSuchConn
  | yesSuchConn
  | goAway
  deriving DecidableEq

def Reset.badFrame (error : PostcardError) : Reset :=
  .youDoneGoofed (.ofBody error)

inductive Header
  | connect (localId : Id) (identity : Identity)
  | data (localId remoteId : Id)
  | ack (localId remoteId : Id)
  | reject (remoteId : Id) (reason : Rejection)
  | reset (remoteId : Id) (reason : Reset)
  deriving DecidableEq

structure LinkId where
  localId : Option Id
  remoteId : Option Id
  deriving DecidableEq

def LinkId.interface : LinkId := ⟨none, none⟩

def Header.linkId : Header → LinkId
  | .ack localId remoteId => ⟨some localId, some remoteId⟩
  | .reject remoteId _ => ⟨none, some remoteId⟩
  | .connect localId _ => ⟨some localId, none⟩
  | .reset remoteId _ => ⟨none, some remoteId⟩
  | .data localId remoteId => ⟨some localId, some remoteId⟩

/-- No frame belongs to the link-control channel, so the receiver's `todo!` for
interface frames is dead code. -/
theorem Header.linkId_ne_interface (header : Header) :
    header.linkId ≠ LinkId.interface := by
  cases header <;> simp [linkId, LinkId.interface]

def Header.resets : Header → Option Id
  | .reset remoteId _ => some remoteId
  | .connect _ _ | .data _ _ | .ack _ _ | .reject _ _ => none

structure Frame (Body : Type) where
  header : Header
  body : Body
  deriving DecidableEq

/-- The body of an outbound frame, with the bytes it serializes to. -/
inductive OutboundData
  | empty
  | data (bytes : List UInt8)
  | rejected (bytes : List UInt8)
  | hello (bytes : List UInt8)
  deriving DecidableEq

def OutboundData.toVec : OutboundData → List UInt8
  | .empty => []
  | .data bytes => bytes
  | .rejected bytes => bytes
  | .hello bytes => bytes

abbrev InboundFrame : Type := Frame (List UInt8)

abbrev OutboundFrame : Type := Frame OutboundData

namespace Frame

def data (remoteId localId : Id) (bytes : List UInt8) : OutboundFrame :=
  ⟨.data localId remoteId, .data bytes⟩

def ack (localId remoteId : Id) : OutboundFrame :=
  ⟨.ack localId remoteId, .empty⟩

def reject (remoteId : Id) (reason : Rejection) : OutboundFrame :=
  ⟨.reject remoteId reason, .empty⟩

def reset (remoteId : Id) (reason : Reset) : OutboundFrame :=
  ⟨.reset remoteId reason, .empty⟩

def connect (localId : Id) (identity : Identity) (hello : List UInt8) : OutboundFrame :=
  ⟨.connect localId identity, .hello hello⟩

/-- The frame the remote peer decodes. -/
def received (frame : OutboundFrame) : InboundFrame :=
  ⟨frame.header, frame.body.toVec⟩

end Frame

end Calliope

end Mgnp
