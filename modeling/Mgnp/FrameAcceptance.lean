import Mgnp.FrameSlice
import Mgnp.PrefixAcceptance

/-!
# What the frame decoder accepts

Varints have more than one spelling, so a peer may send bytes that no encoder
writes.  Whatever the decoder accepts is still a header and body that a peer can
build, and its encoding is no longer than the bytes that were received.  A frame
that is cut within its header, or that carries bytes after a header without a
body, is refused.
-/

namespace Mgnp

namespace Calliope

open PrefixCodec PositionWord

variable {Value : Type}

section Accepted

theorem accepts_decodeU16 : Accepts decodeU16 fun spent number =>
    number < 2 ^ 16 ∧ (encodeU16 number).length ≤ spent :=
  accepts_decodeVarint _ _ 3 2

theorem accepts_decodeU32 : Accepts decodeU32 fun spent number =>
    number < 2 ^ 32 ∧ (encodeU32 number).length ≤ spent :=
  accepts_decodeVarint _ _ 15 4

theorem accepts_decodeU64 : Accepts decodeU64 fun spent number =>
    number < 2 ^ 64 ∧ (encodeU64 number).length ≤ spent :=
  accepts_decodeVarint _ _ 1 9

theorem accepts_decodeLength (width : PointerWidth) :
    Accepts (decodeLength width) fun spent length =>
      (encodeLength width length).length ≤ spent := by
  cases width with
  | bits32 => exact accepts_decodeU32.mono fun _ _ accepted => accepted.2
  | bits64 => exact accepts_decodeU64.mono fun _ _ accepted => accepted.2

theorem accepts_decodeUsize (width : PointerWidth) :
    Accepts (decodeUsize width) fun spent number =>
      number < 2 ^ usizeBits width ∧ (encodeUsize number).length ≤ spent := by
  apply accepts_decodeU64.bind
  rintro spent number ⟨_, length⟩
  by_cases small : number < 2 ^ usizeBits width
  · rw [if_pos small]
    exact .pure ⟨small, length⟩
  · rw [if_neg small]
    exact .throw _

theorem Id.accepts_decode :
    Accepts Id.decode fun spent id => id.encode.length ≤ spent := by
  apply accepts_decodeU16.bind
  rintro spent number ⟨small, length⟩
  by_cases nonzero : UInt16.ofNat number ≠ 0
  · rw [dif_pos nonzero]
    apply Accepts.pure
    unfold Id.encode
    rwa [UInt16.toNat_ofNat_of_lt' small]
  · rw [dif_neg nonzero]
    exact .throw _

variable (width : PointerWidth)

theorem accepts_decodeBytes : Accepts (decodeBytes width) fun spent bytes =>
    (encodeBytes width bytes).length ≤ spent := by
  apply (accepts_decodeLength width).bind
  rintro spent length lengthBytes
  apply (accepts_takeBytes _ length).mono
  rintro more bytes ⟨rfl, rfl⟩
  unfold encodeBytes
  rw [List.length_append]
  omega

theorem accepts_decodeUuid : Accepts (decodeUuid width) fun spent uuid =>
    (encodeUuid width uuid).length ≤ spent := by
  apply (accepts_decodeBytes width).bind
  rintro spent bytes length
  by_cases sixteen : bytes.length = 16
  · rw [if_pos sixteen]
    apply Accepts.pure
    unfold encodeUuid encodeBytes
    unfold encodeBytes at length
    rw [List.length_append, sixteen] at length
    rw [List.length_append, length_bigEndian]
    exact length
  · rw [if_neg sixteen]
    exact .throw _

theorem HeaplessString.accepts_decode (N : Nat) :
    Accepts (HeaplessString.decode width N) fun spent string =>
      (string.encode width).length ≤ spent := by
  apply (accepts_decodeBytes width).bind
  rintro spent bytes length
  cases valid : String.fromUTF8? ⟨bytes.toArray⟩ with
  | none => exact .throw _
  | some text =>
      by_cases fits : text.utf8ByteSize ≤ N
      · simp only [dif_pos fits]
        apply Accepts.pure
        have sameBytes : text.toUTF8 = ⟨bytes.toArray⟩ := by
          unfold String.fromUTF8? at valid
          split at valid
          · cases valid
            rfl
          · cases valid
        unfold HeaplessString.encode
        rw [sameBytes]
        exact length
      · simp only [dif_neg fits]
        exact .throw _

theorem IdentityKind.accepts_decode : Accepts (IdentityKind.decode width) fun spent kind =>
    (kind.encode width).length ≤ spent := by
  apply accepts_decodeU32.bind
  rintro spent index ⟨_, length⟩
  split
  · apply (HeaplessString.accepts_decode width 32).bind
    rintro more string stringLength
    apply Accepts.pure
    simp only [IdentityKind.encode, List.length_append]
    omega
  · exact .throw _

theorem Identity.accepts_decode : Accepts (Identity.decode width) fun spent identity =>
    (identity.encode width).length ≤ spent := by
  apply (accepts_decodeUuid width).bind
  rintro spent id length
  apply (IdentityKind.accepts_decode width).bind
  rintro more kind kindLength
  apply Accepts.pure
  simp only [Identity.encode, List.length_append]
  omega

theorem DecodeErrorKind.accepts_decode : Accepts DecodeErrorKind.decode fun spent kind =>
    kind.encode.length ≤ spent := by
  apply accepts_decodeU32.bind
  rintro spent index ⟨_, length⟩
  split
  all_goals first
    | exact .throw _
    | exact .pure length

theorem DecodeError.accepts_decode : Accepts DecodeError.decode fun spent error =>
    error.encode.length ≤ spent := by
  apply accepts_decodeU32.bind
  rintro spent index ⟨_, length⟩
  split
  · apply DecodeErrorKind.accepts_decode.bind
    rintro more kind kindLength
    apply Accepts.pure
    simp only [DecodeError.encode, List.length_append]
    omega
  · apply DecodeErrorKind.accepts_decode.bind
    rintro more kind kindLength
    apply Accepts.pure
    simp only [DecodeError.encode, List.length_append]
    omega
  · exact .pure length
  · exact .throw _

theorem Rejection.accepts_decode : Accepts (Rejection.decode width) fun spent reason =>
    reason.Representable width ∧ reason.encode.length ≤ spent := by
  apply accepts_decodeU32.bind
  rintro spent index ⟨_, length⟩
  split
  · apply (accepts_decodeUsize width).bind
    rintro more capacity ⟨small, capacityLength⟩
    refine .pure ⟨small, ?_⟩
    simp only [Rejection.encode, List.length_append]
    omega
  · exact .pure ⟨trivial, length⟩
  · exact .pure ⟨trivial, length⟩
  · apply DecodeError.accepts_decode.bind
    rintro more error errorLength
    refine .pure ⟨trivial, ?_⟩
    simp only [Rejection.encode, List.length_append]
    omega
  · exact .throw _

theorem Reset.accepts_decode : Accepts Reset.decode fun spent reason =>
    reason.encode.length ≤ spent := by
  apply accepts_decodeU32.bind
  rintro spent index ⟨_, length⟩
  split
  · exact .pure length
  · apply DecodeError.accepts_decode.bind
    rintro more error errorLength
    apply Accepts.pure
    simp only [Reset.encode, List.length_append]
    omega
  · exact .pure length
  · exact .pure length
  · exact .pure length
  · exact .throw _

/-- A header that is accepted is one that the program can hold, and no spelling of
it is shorter than its encoding. -/
theorem Header.accepts_decode : Accepts (Header.decode width) fun spent header =>
    header.Representable width ∧ (header.encode width).length ≤ spent := by
  apply accepts_decodeU32.bind
  rintro spent index ⟨_, length⟩
  split
  · apply Id.accepts_decode.bind
    rintro first localId idLength
    apply (Identity.accepts_decode width).bind
    rintro second identity identityLength
    refine .pure ⟨trivial, ?_⟩
    simp only [Header.encode, List.length_append]
    omega
  · apply Id.accepts_decode.bind
    rintro first localId localLength
    apply Id.accepts_decode.bind
    rintro second remoteId remoteLength
    refine .pure ⟨trivial, ?_⟩
    simp only [Header.encode, List.length_append]
    omega
  · apply Id.accepts_decode.bind
    rintro first localId localLength
    apply Id.accepts_decode.bind
    rintro second remoteId remoteLength
    refine .pure ⟨trivial, ?_⟩
    simp only [Header.encode, List.length_append]
    omega
  · apply Id.accepts_decode.bind
    rintro first remoteId idLength
    apply (Rejection.accepts_decode width).bind
    rintro second reason ⟨representable, reasonLength⟩
    refine .pure ⟨representable, ?_⟩
    simp only [Header.encode, List.length_append]
    omega
  · apply Id.accepts_decode.bind
    rintro first remoteId idLength
    apply Reset.accepts_decode.bind
    rintro second reason reasonLength
    refine .pure ⟨trivial, ?_⟩
    simp only [Header.encode, List.length_append]
    omega
  · exact .throw _

end Accepted

section Cut

/-- Every proper prefix of the bytes is refused as a `DeserializeUnexpectedEnd`. -/
abbrev Cut (decode : Decoder PostcardError Value) (bytes : List UInt8) : Prop :=
  Starves .deserializeUnexpectedEnd decode bytes

theorem cut_encodeU16 (number : Nat) : Cut decodeU16 (encodeU16 number) :=
  starves_encodeVarint _ _ 3 2 number

theorem cut_encodeU32 (number : Nat) : Cut decodeU32 (encodeU32 number) :=
  starves_encodeVarint _ _ 15 4 number

theorem cut_encodeU64 (number : Nat) : Cut decodeU64 (encodeU64 number) :=
  starves_encodeVarint _ _ 1 9 number

theorem cut_encodeLength (width : PointerWidth) (length : Nat) :
    Cut (decodeLength width) (encodeLength width length) := by
  cases width with
  | bits32 => exact cut_encodeU32 length
  | bits64 => exact cut_encodeU64 length

theorem cut_encodeUsize (width : PointerWidth) (number : Nat) :
    Cut (decodeUsize width) (encodeUsize number) :=
  (cut_encodeU64 number).bind_pure

theorem Id.cut_encode (id : Id) : Cut Id.decode id.encode :=
  (cut_encodeU16 id.value.toNat).bind_pure

variable (width : PointerWidth)

theorem cut_encodeBytes {bytes : List UInt8} (small : bytes.length < 2 ^ 32) :
    Cut (decodeBytes width) (encodeBytes width bytes) :=
  (cut_encodeLength width bytes.length).bind (decodes_encodeLength width small)
    (starves_takeBytes _ bytes)

theorem cut_encodeUuid (uuid : BitVec 128) :
    Cut (decodeUuid width) (encodeUuid width uuid) := by
  have sixteen := length_bigEndian 16 uuid.toNat
  exact (cut_encodeBytes width (by omega)).bind_pure

theorem HeaplessString.cut_encode {N : Nat} (small : N < 2 ^ 32) (string : HeaplessString N) :
    Cut (HeaplessString.decode width N) (string.encode width) := by
  have bounded : string.text.toUTF8.data.toList.length < 2 ^ 32 := by
    rw [Array.length_toList]
    exact lt_of_le_of_lt string.fits small
  exact (cut_encodeBytes width bounded).bind_pure

theorem IdentityKind.cut_encode (kind : IdentityKind) :
    Cut (IdentityKind.decode width) (kind.encode width) := by
  cases kind with
  | name string =>
      apply (cut_encodeU32 0).bind (decodes_encodeU32 (by decide))
      exact (string.cut_encode width (by decide)).bind_pure

theorem Identity.cut_encode (identity : Identity) :
    Cut (Identity.decode width) (identity.encode width) := by
  apply (cut_encodeUuid width identity.id).bind (decodes_encodeUuid width identity.id)
  exact (identity.kind.cut_encode width).bind_pure

theorem DecodeErrorKind.cut_encode (kind : DecodeErrorKind) :
    Cut DecodeErrorKind.decode kind.encode :=
  (cut_encodeU32 kind.index).bind_pure

theorem DecodeError.cut_encode (error : DecodeError) :
    Cut DecodeError.decode error.encode := by
  cases error with
  | header kind =>
      apply (cut_encodeU32 0).bind (decodes_encodeU32 (by decide))
      exact kind.cut_encode.bind_pure
  | body kind =>
      apply (cut_encodeU32 1).bind (decodes_encodeU32 (by decide))
      exact kind.cut_encode.bind_pure
  | unexpectedTrailingData => exact (cut_encodeU32 2).bind_pure

theorem Rejection.cut_encode (reason : Rejection) :
    Cut (Rejection.decode width) reason.encode := by
  cases reason with
  | connTableFull capacity =>
      apply (cut_encodeU32 0).bind (decodes_encodeU32 (by decide))
      exact (cut_encodeUsize width capacity).bind_pure
  | notFound => exact (cut_encodeU32 1).bind_pure
  | serviceRejected => exact (cut_encodeU32 2).bind_pure
  | decodeError error =>
      apply (cut_encodeU32 3).bind (decodes_encodeU32 (by decide))
      exact error.cut_encode.bind_pure

theorem Reset.cut_encode (reason : Reset) : Cut Reset.decode reason.encode := by
  cases reason with
  | youDoneGoofed error =>
      apply (cut_encodeU32 1).bind (decodes_encodeU32 (by decide))
      exact error.cut_encode.bind_pure
  | becauseISaidSo | noSuchConn | yesSuchConn | goAway => exact (cut_encodeU32 _).bind_pure

/-- No header is a prefix of another, and one that is cut short is refused as such. -/
theorem Header.cut_encode (header : Header) :
    Cut (Header.decode width) (header.encode width) := by
  cases header with
  | connect localId identity =>
      apply (cut_encodeU32 0).bind (decodes_encodeU32 (by decide))
      apply localId.cut_encode.bind localId.decodes_encode
      exact (identity.cut_encode width).bind_pure
  | data localId remoteId =>
      apply (cut_encodeU32 1).bind (decodes_encodeU32 (by decide))
      apply localId.cut_encode.bind localId.decodes_encode
      exact remoteId.cut_encode.bind_pure
  | ack localId remoteId =>
      apply (cut_encodeU32 2).bind (decodes_encodeU32 (by decide))
      apply localId.cut_encode.bind localId.decodes_encode
      exact remoteId.cut_encode.bind_pure
  | reject remoteId reason =>
      apply (cut_encodeU32 3).bind (decodes_encodeU32 (by decide))
      apply remoteId.cut_encode.bind remoteId.decodes_encode
      exact (reason.cut_encode width).bind_pure
  | reset remoteId reason =>
      apply (cut_encodeU32 4).bind (decodes_encodeU32 (by decide))
      apply remoteId.cut_encode.bind remoteId.decodes_encode
      exact reason.cut_encode.bind_pure

end Cut

namespace Frame

section Acceptance

variable (width : PointerWidth)

theorem fromBytes_header_append {header : Header} (representable : header.Representable width)
    (bytes : List UInt8) :
    fromBytes width (header.encode width ++ bytes) =
      if header.hasBody then .ok ⟨header, bytes⟩
      else if bytes = [] then .ok ⟨header, []⟩
      else .error .unexpectedTrailingData := by
  have decoded := Header.decodes_encode width representable bytes
  unfold fromBytes
  rw [decoded]
  cases hasBody : header.hasBody with
  | false => cases bytes <;> simp [hasBody]
  | true => simp [hasBody]

/-- The body is what the header leaves of the bytes, and is empty after a header
that has none. -/
theorem exists_consumed_of_fromBytes {bytes : List UInt8} {frame : InboundFrame}
    (accepted : fromBytes width bytes = .ok frame) :
    ∃ consumed, bytes = consumed ++ frame.body ∧ frame.header.Representable width ∧
      (frame.header.encode width).length ≤ consumed.length ∧
      (frame.header.hasBody = false → frame.body = []) := by
  unfold fromBytes at accepted
  cases decoded : (Header.decode width).run bytes with
  | error error => simp [decoded] at accepted
  | ok pair =>
      obtain ⟨header, rest⟩ := pair
      obtain ⟨consumed, bytesEq, representable, length⟩ := Header.accepts_decode width decoded
      simp only [decoded] at accepted
      cases hasBody : header.hasBody with
      | false =>
          cases rest with
          | nil =>
              simp only [hasBody, Bool.not_false, if_true, List.isEmpty_nil, Bool.not_true,
                Bool.false_eq_true, if_false, Except.ok.injEq] at accepted
              subst accepted
              exact ⟨consumed, bytesEq, representable, length, fun _ => rfl⟩
          | cons byte rest => simp [hasBody] at accepted
      | true =>
          have body : bytes.drop (bytes.length - rest.length) = rest := by
            rw [bytesEq, List.length_append, Nat.add_sub_cancel, List.drop_left]
          simp only [hasBody, Bool.not_true, Bool.false_eq_true, if_false, body,
            Except.ok.injEq] at accepted
          subst accepted
          refine ⟨consumed, bytesEq, representable, length, ?_⟩
          simp [hasBody]

/-- A header and a body that fit together belong to a frame that a constructor builds,
but for a service's rejection, whose body no constructor writes. -/
theorem constructed_or_rejected {frame : InboundFrame}
    (representable : frame.header.Representable width)
    (noBody : frame.header.hasBody = false → frame.body = []) :
    (∃ outbound, Constructed width outbound ∧ outbound.received = frame) ∨
      ∃ remoteId, frame.header = .reject remoteId .serviceRejected ∧ frame.body ≠ [] := by
  obtain ⟨header, body⟩ := frame
  cases header with
  | connect localId identity => exact .inl ⟨_, .connect localId identity body, rfl⟩
  | data localId remoteId => exact .inl ⟨_, .data remoteId localId body, rfl⟩
  | ack localId remoteId =>
      obtain rfl : body = [] := noBody rfl
      exact .inl ⟨_, .ack localId remoteId, rfl⟩
  | reset remoteId reason =>
      obtain rfl : body = [] := noBody rfl
      exact .inl ⟨_, .reset remoteId reason, rfl⟩
  | reject remoteId reason =>
      by_cases empty : body = []
      · subst empty
        exact .inl ⟨_, .reject remoteId reason representable, rfl⟩
      · cases reason with
        | serviceRejected => exact .inr ⟨remoteId, rfl, empty⟩
        | connTableFull | notFound | decodeError => exact absurd (noBody rfl) empty

/-- Whatever bytes arrive, a frame that is accepted is one that a peer can send: it is
accepted again from its encoding, which is no longer than what arrived. -/
theorem accepted_wellFormed {bytes : List UInt8} {frame : InboundFrame}
    (accepted : fromBytes width bytes = .ok frame) :
    ((∃ outbound, Constructed width outbound ∧ outbound.received = frame) ∨
      ∃ remoteId, frame.header = .reject remoteId .serviceRejected ∧ frame.body ≠ []) ∧
    fromBytes width (frame.header.encode width ++ frame.body) = .ok frame ∧
    (frame.header.encode width ++ frame.body).length ≤ bytes.length ∧
    frame.body <:+ bytes := by
  obtain ⟨consumed, rfl, representable, length, noBody⟩ :=
    exists_consumed_of_fromBytes width accepted
  refine ⟨constructed_or_rejected width representable noBody, ?_, ?_,
    List.suffix_append consumed frame.body⟩
  · rw [fromBytes_header_append width representable]
    cases hasBody : frame.header.hasBody with
    | false =>
        obtain ⟨header, body⟩ := frame
        obtain rfl : body = [] := noBody hasBody
        rfl
    | true => rfl
  · rw [List.length_append, List.length_append]
    omega

/-- A refusal by a table of 512 entries, whose capacity is spelled with ten bytes
instead of two. -/
theorem accepted_wellFormed_padded :
    fromBytes .bits32 [3, 1, 0, 128, 132, 128, 128, 128, 128, 128, 128, 128, 0] =
        .ok ⟨.reject .first (.connTableFull 512), []⟩ ∧
      fromBytes .bits32 [3, 1, 0, 128, 4] = .ok ⟨.reject .first (.connTableFull 512), []⟩ :=
  have accepted :
      fromBytes .bits32 [3, 1, 0, 128, 132, 128, 128, 128, 128, 128, 128, 128, 0] =
        .ok ⟨.reject .first (.connTableFull 512), []⟩ := by decide
  ⟨accepted, (accepted_wellFormed .bits32 accepted).2.1⟩

/-- A capacity of 2 ^ 32 does not fit into a `usize` of 32 bits. -/
example : fromBytes .bits32 [3, 1, 0, 128, 128, 128, 128, 16] =
    .error (.header .serdeDeCustom) := by decide

end Acceptance

section Deserializing

/-- `Frame::deserialize_from_bytes`, for a body type with this deserializer. -/
def deserializeFromBytes (width : PointerWidth) (deserialize : Decoder PostcardError Value)
    (buf : List UInt8) : Except DecodeError (Frame Value) := do
  let frame ← fromBytes width buf
  match deserialize.run frame.body with
  | .error error => .error (.ofBody error)
  | .ok (body, _) => .ok ⟨frame.header, body⟩

section Whole

variable {width : PointerWidth} {deserialize : Decoder PostcardError Value}
  {frame : OutboundFrame} {value : Value}

theorem deserializeFromBytes_of_fromBytes {buf bytes : List UInt8} {header : Header}
    (accepted : fromBytes width buf = .ok ⟨header, bytes⟩) :
    deserializeFromBytes width deserialize buf =
      match deserialize.run bytes with
      | .error error => .error (.ofBody error)
      | .ok (body, _) => .ok ⟨header, body⟩ := by
  unfold deserializeFromBytes
  rw [accepted]
  rfl

theorem deserializeFromBytes_of_error {buf : List UInt8} {error : DecodeError}
    (refused : fromBytes width buf = .error error) :
    deserializeFromBytes width deserialize buf = .error error := by
  unfold deserializeFromBytes
  rw [refused]
  rfl

/-- A frame that is cut within its header. -/
theorem fromBytes_take_header {count : Nat}
    (short : count < (frame.header.encode width).length) :
    fromBytes width ((frame.toVec width).take count) = .error (.header .unexpectedEnd) := by
  unfold toVec fromBytes
  rw [List.take_append_of_le_length short.le, Header.cut_encode width _ count short]
  rfl

/-- A frame that is cut within its body has one. -/
theorem fromBytes_take_body (constructed : Constructed width frame) {count : Nat}
    (long : (frame.header.encode width).length ≤ count)
    (short : count < (frame.toVec width).length) :
    fromBytes width ((frame.toVec width).take count) =
      .ok ⟨frame.header,
        frame.body.toVec.take (count - (frame.header.encode width).length)⟩ := by
  have hasBody : frame.header.hasBody = true := by
    by_contra noBody
    have empty := constructed.body_eq_nil width (by simpa using noBody)
    rw [length_toVec, empty, List.length_nil] at short
    omega
  have cut : (frame.toVec width).take count = frame.header.encode width ++
      frame.body.toVec.take (count - (frame.header.encode width).length) := by
    unfold toVec
    rw [List.take_append, List.take_of_length_le long]
  rw [cut, fromBytes_header_append width constructed.representable, if_pos hasBody]

theorem fromBytes_append (constructed : Constructed width frame) {extra : List UInt8}
    (more : extra ≠ []) :
    fromBytes width (frame.toVec width ++ extra) =
      if frame.header.hasBody then .ok ⟨frame.header, frame.body.toVec ++ extra⟩
      else .error .unexpectedTrailingData := by
  unfold toVec
  rw [List.append_assoc, fromBytes_header_append width constructed.representable]
  cases hasBody : frame.header.hasBody with
  | false => simp [more]
  | true => rfl

/-- A typed frame is read back whole.  Cut anywhere, it is refused for its header or
its body, whichever is incomplete; bytes after it are ignored after a body and refused
after a header that has none. -/
theorem deserializeFromBytes_toVec (constructed : Constructed width frame)
    (decodes : Decodes deserialize frame.body.toVec value)
    (starves : Cut deserialize frame.body.toVec) :
    deserializeFromBytes width deserialize (frame.toVec width) = .ok ⟨frame.header, value⟩ ∧
    (∀ count < (frame.toVec width).length,
      deserializeFromBytes width deserialize ((frame.toVec width).take count) =
        .error (if count < (frame.header.encode width).length then .header .unexpectedEnd
          else .body .unexpectedEnd)) ∧
    (∀ extra, extra ≠ [] →
      deserializeFromBytes width deserialize (frame.toVec width ++ extra) =
        if frame.header.hasBody then .ok ⟨frame.header, value⟩
        else .error .unexpectedTrailingData) := by
  refine ⟨?_, ?_, ?_⟩
  · rw [deserializeFromBytes_of_fromBytes
      (fromBytes_toVec_of_constructed width constructed)]
    have whole := decodes []
    rw [List.append_nil] at whole
    rw [whole]
  · intro count short
    by_cases inHeader : count < (frame.header.encode width).length
    · rw [if_pos inHeader, deserializeFromBytes_of_error (fromBytes_take_header inHeader)]
    · have inBody : count - (frame.header.encode width).length < frame.body.toVec.length := by
        rw [length_toVec] at short
        omega
      rw [if_neg inHeader, deserializeFromBytes_of_fromBytes
        (fromBytes_take_body constructed (by omega) short), starves _ inBody]
      rfl
  · intro extra more
    have read := fromBytes_append constructed more
    cases hasBody : frame.header.hasBody with
    | false =>
        rw [hasBody] at read
        exact deserializeFromBytes_of_error read
    | true =>
        rw [hasBody] at read
        rw [deserializeFromBytes_of_fromBytes read, decodes extra]
        rfl

/-- A `DATA` frame with a 300 in it, of which the last byte is missing. -/
theorem deserializeFromBytes_toVec_cut :
    deserializeFromBytes .bits32 decodeU16
        ((toVec .bits32 (.data .first .first (encodeU16 300))).take 4) =
      .error (.body .unexpectedEnd) :=
  (deserializeFromBytes_toVec (.data .first .first (encodeU16 300))
    (decodes_encodeU16 (by decide : 300 < 2 ^ 16)) (cut_encodeU16 300)).2.1 4 (by decide)

end Whole

end Deserializing

end Frame

end Calliope

end Mgnp
