import Mgnp.Message
import Mgnp.PositionWord
import Mgnp.PrefixCodec

/-!
# The wire format of frames

Headers are encoded as postcard documents it: integers and enum discriminants
are varints, strings and byte arrays carry their length.  Each type has its
encoder and its decoder and one lemma that the decoder reads the encoding
whatever follows it, so the header of a frame ends where its body begins.
-/

namespace Mgnp

namespace Calliope

open PrefixCodec PositionWord

section Integers

def usizeBits : PointerWidth → Nat
  | .bits32 => 32
  | .bits64 => 64

def encodeU16 (number : Nat) : List UInt8 := encodeVarint 2 number

def decodeU16 : Decoder PostcardError Nat :=
  decodeVarint .deserializeUnexpectedEnd .deserializeBadVarint 3 2

def encodeU32 (number : Nat) : List UInt8 := encodeVarint 4 number

def decodeU32 : Decoder PostcardError Nat :=
  decodeVarint .deserializeUnexpectedEnd .deserializeBadVarint 15 4

def encodeU64 (number : Nat) : List UInt8 := encodeVarint 9 number

def decodeU64 : Decoder PostcardError Nat :=
  decodeVarint .deserializeUnexpectedEnd .deserializeBadVarint 1 9

/-- The length of a byte array or a string, a varint of the target's `usize`. -/
def encodeLength : PointerWidth → Nat → List UInt8
  | .bits32, length => encodeU32 length
  | .bits64, length => encodeU64 length

def decodeLength : PointerWidth → Decoder PostcardError Nat
  | .bits32 => decodeU32
  | .bits64 => decodeU64

/-- A `usize` field.  It travels as a `u64` whatever the target. -/
def encodeUsize (number : Nat) : List UInt8 := encodeU64 number

def decodeUsize (width : PointerWidth) : Decoder PostcardError Nat := do
  let number ← decodeU64
  if number < 2 ^ usizeBits width then pure number else throw .serdeDeCustom

theorem decodes_encodeU16 {number : Nat} (small : number < 2 ^ 16) :
    Decodes decodeU16 (encodeU16 number) number :=
  decodes_encodeVarint _ _ (by decide) 2 (by simpa using small)

theorem decodes_encodeU32 {number : Nat} (small : number < 2 ^ 32) :
    Decodes decodeU32 (encodeU32 number) number :=
  decodes_encodeVarint _ _ (by decide) 4 (by simpa using small)

theorem decodes_encodeU64 {number : Nat} (small : number < 2 ^ 64) :
    Decodes decodeU64 (encodeU64 number) number :=
  decodes_encodeVarint _ _ (by decide) 9 (by simpa using small)

theorem decodes_encodeLength (width : PointerWidth) {length : Nat} (small : length < 2 ^ 32) :
    Decodes (decodeLength width) (encodeLength width length) length := by
  cases width with
  | bits32 => exact decodes_encodeU32 small
  | bits64 => exact decodes_encodeU64 (small.trans (by decide))

theorem lt_of_lt_usizeBits {width : PointerWidth} {number : Nat}
    (small : number < 2 ^ usizeBits width) : number < 2 ^ 64 := by
  cases width with
  | bits32 => exact small.trans (by decide)
  | bits64 => exact small

theorem decodes_encodeUsize (width : PointerWidth) {number : Nat}
    (small : number < 2 ^ usizeBits width) :
    Decodes (decodeUsize width) (encodeUsize number) number := by
  apply (decodes_encodeU64 (lt_of_lt_usizeBits small)).bind_pure
  exact if_pos small

end Integers

section Fields

variable (width : PointerWidth)

def Id.encode (id : Id) : List UInt8 := encodeU16 id.value.toNat

/-- A `NonZeroU16`, which serde refuses to build from zero. -/
def Id.decode : Decoder PostcardError Id := do
  let number ← decodeU16
  if nonzero : UInt16.ofNat number ≠ 0 then pure ⟨UInt16.ofNat number, nonzero⟩
  else throw .serdeDeCustom

def encodeBytes (bytes : List UInt8) : List UInt8 :=
  encodeLength width bytes.length ++ bytes

def decodeBytes : Decoder PostcardError (List UInt8) := do
  let length ← decodeLength width
  takeBytes .deserializeUnexpectedEnd length

/-- A `Uuid` is the byte array of its big-endian bytes. -/
def encodeUuid (uuid : BitVec 128) : List UInt8 :=
  encodeBytes width (bigEndian 16 uuid.toNat)

def decodeUuid : Decoder PostcardError (BitVec 128) := do
  let bytes ← decodeBytes width
  if bytes.length = 16 then pure (BitVec.ofNat 128 (ofBigEndian bytes))
  else throw .serdeDeCustom

def HeaplessString.encode {N : Nat} (string : HeaplessString N) : List UInt8 :=
  encodeBytes width string.text.toUTF8.data.toList

def HeaplessString.decode (N : Nat) : Decoder PostcardError (HeaplessString N) := do
  let bytes ← decodeBytes width
  match String.fromUTF8? ⟨bytes.toArray⟩ with
  | none => throw .deserializeBadUtf8
  | some text =>
      if fits : text.utf8ByteSize ≤ N then pure ⟨text, fits⟩ else throw .serdeDeCustom

def IdentityKind.encode : IdentityKind → List UInt8
  | .name string => encodeU32 0 ++ string.encode width

def IdentityKind.decode : Decoder PostcardError IdentityKind := do
  match ← decodeU32 with
  | 0 => do
      let string ← HeaplessString.decode width 32
      pure (.name string)
  | _ => throw .serdeDeCustom

def Identity.encode (identity : Identity) : List UInt8 :=
  encodeUuid width identity.id ++ identity.kind.encode width

def Identity.decode : Decoder PostcardError Identity := do
  let id ← decodeUuid width
  let kind ← IdentityKind.decode width
  pure ⟨id, kind⟩

/-- The discriminant of a `DecodeErrorKind`. -/
def DecodeErrorKind.index : DecodeErrorKind → Nat
  | .unexpectedEnd => 0
  | .badVarint => 1
  | .badBool => 2
  | .badChar => 3
  | .badUtf8 => 4
  | .badOption => 5
  | .badEnum => 6
  | .badEncoding => 7
  | .badCrc => 8
  | .serdeDeCustom => 9
  | .unknown => 10

def DecodeErrorKind.encode (kind : DecodeErrorKind) : List UInt8 := encodeU32 kind.index

def DecodeErrorKind.decode : Decoder PostcardError DecodeErrorKind := do
  match ← decodeU32 with
  | 0 => pure .unexpectedEnd
  | 1 => pure .badVarint
  | 2 => pure .badBool
  | 3 => pure .badChar
  | 4 => pure .badUtf8
  | 5 => pure .badOption
  | 6 => pure .badEnum
  | 7 => pure .badEncoding
  | 8 => pure .badCrc
  | 9 => pure .serdeDeCustom
  | 10 => pure .unknown
  | _ => throw .serdeDeCustom

def DecodeError.encode : DecodeError → List UInt8
  | .header kind => encodeU32 0 ++ kind.encode
  | .body kind => encodeU32 1 ++ kind.encode
  | .unexpectedTrailingData => encodeU32 2

def DecodeError.decode : Decoder PostcardError DecodeError := do
  match ← decodeU32 with
  | 0 => do
      let kind ← DecodeErrorKind.decode
      pure (.header kind)
  | 1 => do
      let kind ← DecodeErrorKind.decode
      pure (.body kind)
  | 2 => pure .unexpectedTrailingData
  | _ => throw .serdeDeCustom

def Rejection.encode : Rejection → List UInt8
  | .connTableFull capacity => encodeU32 0 ++ encodeUsize capacity
  | .notFound => encodeU32 1
  | .serviceRejected => encodeU32 2
  | .decodeError error => encodeU32 3 ++ error.encode

def Rejection.decode : Decoder PostcardError Rejection := do
  match ← decodeU32 with
  | 0 => do
      let capacity ← decodeUsize width
      pure (.connTableFull capacity)
  | 1 => pure .notFound
  | 2 => pure .serviceRejected
  | 3 => do
      let error ← DecodeError.decode
      pure (.decodeError error)
  | _ => throw .serdeDeCustom

def Reset.encode : Reset → List UInt8
  | .becauseISaidSo => encodeU32 0
  | .youDoneGoofed error => encodeU32 1 ++ error.encode
  | .noSuchConn => encodeU32 2
  | .yesSuchConn => encodeU32 3
  | .goAway => encodeU32 4

def Reset.decode : Decoder PostcardError Reset := do
  match ← decodeU32 with
  | 0 => pure .becauseISaidSo
  | 1 => do
      let error ← DecodeError.decode
      pure (.youDoneGoofed error)
  | 2 => pure .noSuchConn
  | 3 => pure .yesSuchConn
  | 4 => pure .goAway
  | _ => throw .serdeDeCustom

def Header.encode : Header → List UInt8
  | .connect localId identity => encodeU32 0 ++ (localId.encode ++ identity.encode width)
  | .data localId remoteId => encodeU32 1 ++ (localId.encode ++ remoteId.encode)
  | .ack localId remoteId => encodeU32 2 ++ (localId.encode ++ remoteId.encode)
  | .reject remoteId reason => encodeU32 3 ++ (remoteId.encode ++ reason.encode)
  | .reset remoteId reason => encodeU32 4 ++ (remoteId.encode ++ reason.encode)

def Header.decode : Decoder PostcardError Header := do
  match ← decodeU32 with
  | 0 => do
      let localId ← Id.decode
      let identity ← Identity.decode width
      pure (.connect localId identity)
  | 1 => do
      let localId ← Id.decode
      let remoteId ← Id.decode
      pure (.data localId remoteId)
  | 2 => do
      let localId ← Id.decode
      let remoteId ← Id.decode
      pure (.ack localId remoteId)
  | 3 => do
      let remoteId ← Id.decode
      let reason ← Rejection.decode width
      pure (.reject remoteId reason)
  | 4 => do
      let remoteId ← Id.decode
      let reason ← Reset.decode
      pure (.reset remoteId reason)
  | _ => throw .serdeDeCustom

end Fields

/-- `Header::has_body`. -/
def Header.hasBody : Header → Bool
  | .reject _ .serviceRejected => true
  | .connect _ _ => true
  | .data _ _ => true
  | .reject _ _ | .ack _ _ | .reset _ _ => false

def DecodeError.ofHeader (error : PostcardError) : DecodeError :=
  .header (.fromPostcard error)

namespace Frame

/-- `Frame::to_vec`, for a body that serializes to its bytes. -/
def toVec (width : PointerWidth) (frame : OutboundFrame) : List UInt8 :=
  frame.header.encode width ++ frame.body.toVec

def fromBytes (width : PointerWidth) (frame : List UInt8) : Except DecodeError InboundFrame :=
  match (Header.decode width).run frame with
  | .error error => .error (.ofHeader error)
  | .ok (hdr, rem) =>
      if !hdr.hasBody then
        if !rem.isEmpty then .error .unexpectedTrailingData
        else .ok ⟨hdr, []⟩
      else
        let off := frame.length - rem.length
        .ok ⟨hdr, frame.drop off⟩

end Frame

section RoundTrips

theorem Id.decodes_encode (id : Id) : Decodes Id.decode id.encode id := by
  apply (decodes_encodeU16 id.value.toNat_lt).bind_pure
  rw [UInt16.ofNat_toNat, dif_pos id.nonzero]

variable (width : PointerWidth)

theorem decodes_encodeBytes {bytes : List UInt8} (small : bytes.length < 2 ^ 32) :
    Decodes (decodeBytes width) (encodeBytes width bytes) bytes :=
  (decodes_encodeLength width small).bind
    (decodes_takeBytes _ bytes)

theorem decodes_encodeUuid (uuid : BitVec 128) :
    Decodes (decodeUuid width) (encodeUuid width uuid) uuid := by
  have sixteen := length_bigEndian 16 uuid.toNat
  apply (decodes_encodeBytes width (by omega)).bind_pure
  rw [if_pos sixteen, ofBigEndian_bigEndian (by exact uuid.isLt), BitVec.ofNat_toNat]
  rfl

theorem HeaplessString.decodes_encode {N : Nat} (small : N < 2 ^ 32)
    (string : HeaplessString N) :
    Decodes (HeaplessString.decode width N) (string.encode width) string := by
  have bounded : string.text.toUTF8.data.toList.length < 2 ^ 32 := by
    rw [Array.length_toList]
    exact lt_of_le_of_lt string.fits small
  have valid : String.fromUTF8? ⟨string.text.toUTF8.data.toList.toArray⟩ =
      some string.text := by
    rw [Array.toArray_toList]
    exact dif_pos string.text.isValidUTF8
  apply (decodes_encodeBytes width bounded).bind_pure
  rw [valid]
  exact dif_pos string.fits

theorem IdentityKind.decodes_encode (kind : IdentityKind) :
    Decodes (IdentityKind.decode width) (kind.encode width) kind := by
  cases kind with
  | name string =>
      apply (decodes_encodeU32 (by decide)).bind
      exact (string.decodes_encode width (by decide)).bind_pure rfl

theorem Identity.decodes_encode (identity : Identity) :
    Decodes (Identity.decode width) (identity.encode width) identity := by
  apply (decodes_encodeUuid width identity.id).bind
  exact (identity.kind.decodes_encode width).bind_pure rfl

theorem DecodeErrorKind.decodes_encode (kind : DecodeErrorKind) :
    Decodes DecodeErrorKind.decode kind.encode kind := by
  cases kind <;> exact (decodes_encodeU32 (by decide)).bind_pure rfl

theorem DecodeError.decodes_encode (error : DecodeError) :
    Decodes DecodeError.decode error.encode error := by
  cases error with
  | header kind =>
      apply (decodes_encodeU32 (by decide)).bind
      exact kind.decodes_encode.bind_pure rfl
  | body kind =>
      apply (decodes_encodeU32 (by decide)).bind
      exact kind.decodes_encode.bind_pure rfl
  | unexpectedTrailingData => exact (decodes_encodeU32 (by decide)).bind_pure rfl

/-- The capacity of a rejection is a `usize`. -/
def Rejection.Representable : Rejection → Prop
  | .connTableFull capacity => capacity < 2 ^ usizeBits width
  | .notFound | .serviceRejected | .decodeError _ => True

theorem Rejection.decodes_encode {reason : Rejection}
    (representable : reason.Representable width) :
    Decodes (Rejection.decode width) reason.encode reason := by
  cases reason with
  | connTableFull capacity =>
      apply (decodes_encodeU32 (by decide)).bind
      exact (decodes_encodeUsize width representable).bind_pure rfl
  | notFound => exact (decodes_encodeU32 (by decide)).bind_pure rfl
  | serviceRejected => exact (decodes_encodeU32 (by decide)).bind_pure rfl
  | decodeError error =>
      apply (decodes_encodeU32 (by decide)).bind
      exact error.decodes_encode.bind_pure rfl

theorem Reset.decodes_encode (reason : Reset) :
    Decodes Reset.decode reason.encode reason := by
  cases reason with
  | youDoneGoofed error =>
      apply (decodes_encodeU32 (by decide)).bind
      exact error.decodes_encode.bind_pure rfl
  | becauseISaidSo | noSuchConn | yesSuchConn | goAway =>
      exact (decodes_encodeU32 (by decide)).bind_pure rfl

/-- A header that the program can hold on a target of this pointer width. -/
def Header.Representable : Header → Prop
  | .reject _ reason => reason.Representable width
  | .connect _ _ | .data _ _ | .ack _ _ | .reset _ _ => True

theorem Header.decodes_encode {header : Header} (representable : header.Representable width) :
    Decodes (Header.decode width) (header.encode width) header := by
  cases header with
  | connect localId identity =>
      apply (decodes_encodeU32 (by decide)).bind
      apply localId.decodes_encode.bind
      exact (identity.decodes_encode width).bind_pure rfl
  | data localId remoteId =>
      apply (decodes_encodeU32 (by decide)).bind
      apply localId.decodes_encode.bind
      exact remoteId.decodes_encode.bind_pure rfl
  | ack localId remoteId =>
      apply (decodes_encodeU32 (by decide)).bind
      apply localId.decodes_encode.bind
      exact remoteId.decodes_encode.bind_pure rfl
  | reject remoteId reason =>
      apply (decodes_encodeU32 (by decide)).bind
      apply remoteId.decodes_encode.bind
      exact (Rejection.decodes_encode width representable).bind_pure rfl
  | reset remoteId reason =>
      apply (decodes_encodeU32 (by decide)).bind
      apply remoteId.decodes_encode.bind
      exact reason.decodes_encode.bind_pure rfl

namespace Frame

/-- The frames that the constructors build. -/
inductive Constructed : OutboundFrame → Prop
  | data (remoteId localId : Id) (bytes : List UInt8) :
      Constructed (.data remoteId localId bytes)
  | ack (localId remoteId : Id) : Constructed (.ack localId remoteId)
  | reject (remoteId : Id) (reason : Rejection) (representable : reason.Representable width) :
      Constructed (.reject remoteId reason)
  | reset (remoteId : Id) (reason : Reset) : Constructed (.reset remoteId reason)
  | connect (localId : Id) (identity : Identity) (hello : List UInt8) :
      Constructed (.connect localId identity hello)

theorem Constructed.representable {frame : OutboundFrame} (constructed : Constructed width frame) :
    frame.header.Representable width := by
  cases constructed with
  | reject remoteId reason representable => exact representable
  | data | ack | reset | connect => trivial

/-- A frame whose header says that it has no body was built without one. -/
theorem Constructed.body_eq_nil {frame : OutboundFrame} (constructed : Constructed width frame)
    (noBody : frame.header.hasBody = false) : frame.body.toVec = [] := by
  cases constructed with
  | data | connect => simp [Frame.data, Frame.connect, Header.hasBody] at noBody
  | ack | reject | reset => rfl

theorem fromBytes_toVec_of_constructed {frame : OutboundFrame}
    (constructed : Constructed width frame) :
    fromBytes width (frame.toVec width) = .ok ⟨frame.header, frame.body.toVec⟩ := by
  have decoded := Header.decodes_encode width constructed.representable frame.body.toVec
  unfold fromBytes toVec
  rw [decoded]
  cases hasBody : frame.header.hasBody with
  | false => simp [hasBody, constructed.body_eq_nil width hasBody]
  | true => simp [hasBody]

/-- The header and the body bytes that each constructor is asked to send. -/
inductive Built : OutboundFrame → Header → List UInt8 → Prop
  | data (remoteId localId : Id) (bytes : List UInt8) :
      Built (.data remoteId localId bytes) (.data localId remoteId) bytes
  | ack (localId remoteId : Id) :
      Built (.ack localId remoteId) (.ack localId remoteId) []
  | reject (remoteId : Id) (reason : Rejection) (representable : reason.Representable width) :
      Built (.reject remoteId reason) (.reject remoteId reason) []
  | reset (remoteId : Id) (reason : Reset) :
      Built (.reset remoteId reason) (.reset remoteId reason) []
  | connect (localId : Id) (identity : Identity) (hello : List UInt8) :
      Built (.connect localId identity hello) (.connect localId identity) hello

theorem Built.constructed {frame : OutboundFrame} {header : Header} {bytes : List UInt8}
    (built : Built width frame header bytes) : Constructed width frame := by
  cases built with
  | data remoteId localId => exact .data remoteId localId _
  | ack localId remoteId => exact .ack localId remoteId
  | reject remoteId reason representable => exact .reject remoteId reason representable
  | reset remoteId reason => exact .reset remoteId reason
  | connect localId identity => exact .connect localId identity _

/-- The serializer writes the bytes of the body and nothing else. -/
theorem Built.received_eq {frame : OutboundFrame} {header : Header} {bytes : List UInt8}
    (built : Built width frame header bytes) : frame.received = ⟨header, bytes⟩ := by
  cases built with
  | data | ack | reject | reset | connect => rfl

/-- Every frame that a constructor builds decodes to the header and to the body bytes
that the constructor was given. -/
theorem fromBytes_toVec {frame : OutboundFrame} {header : Header} {bytes : List UInt8}
    (built : Built width frame header bytes) :
    fromBytes width (frame.toVec width) = .ok ⟨header, bytes⟩ := by
  rw [fromBytes_toVec_of_constructed width built.constructed, ← built.received_eq]
  rfl

/-- A `CONNECT` with a hello of three bytes. -/
theorem fromBytes_toVec_connect :
    fromBytes .bits32 (toVec .bits32 (.connect .first .sample [7, 0, 9])) =
      .ok ⟨.connect .first .sample, [7, 0, 9]⟩ :=
  fromBytes_toVec .bits32 (.connect .first .sample [7, 0, 9])

end Frame

end RoundTrips

end Calliope

end Mgnp
