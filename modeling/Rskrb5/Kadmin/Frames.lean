import Rskrb5.Kadmin

namespace Rskrb5.Kadmin

open Lib.Results EncParts

section Headers

/-- The bytes that a header is read from, with the body behind it. -/
def Frame.bytes (frame : Frame) : Bytes :=
  u16ToBeBytes frame.messageLength ++ (u16ToBeBytes frame.version ++
    (u16ToBeBytes frame.payloadLength ++ frame.body))

/-- The message length counts the header and the body. -/
def Frame.Counted (frame : Frame) : Prop := frame.messageLength.toNat = headerLen + frame.body.length

variable {frame : Frame}

theorem readU16_append (before rest : Bytes) (value : UInt16) :
    readU16 (before ++ (u16ToBeBytes value ++ rest)) before.length = value := by
  rw [readU16, List.drop_left, List.take_append_of_le_length (by simp), List.take_of_length_le (by simp),
    u16FromBeBytes_toBeBytes]

theorem readU16_messageLength (rest : Bytes) : readU16 (frame.bytes ++ rest) 0 = frame.messageLength := by
  rw [Frame.bytes, List.append_assoc]
  exact readU16_append [] _ _

theorem length_bytes : frame.bytes.length = headerLen + frame.body.length := by
  simp only [Frame.bytes, List.length_append, length_u16ToBeBytes, headerLen]
  omega

theorem parseHeader_bytes (h : frame.Counted) (rest : Bytes) :
    parseHeader (frame.bytes ++ rest) = .ok frame := by
  have hlength : (frame.bytes ++ rest).length = headerLen + frame.body.length + rest.length := by
    rw [List.length_append, length_bytes]
  have hmessage : readU16 (frame.bytes ++ rest) 0 = frame.messageLength := readU16_messageLength rest
  have hcounted : frame.messageLength.toNat = headerLen + frame.body.length := h
  have hversion : readU16 (frame.bytes ++ rest) 2 = frame.version := by
    rw [Frame.bytes, List.append_assoc, List.append_assoc]
    exact readU16_append (u16ToBeBytes frame.messageLength) _ _
  have hpayload : readU16 (frame.bytes ++ rest) 4 = frame.payloadLength := by
    have happend : frame.bytes ++ rest = (u16ToBeBytes frame.messageLength ++ u16ToBeBytes frame.version) ++
        (u16ToBeBytes frame.payloadLength ++ (frame.body ++ rest)) := by
      simp only [Frame.bytes, List.append_assoc]
    rw [happend]
    exact readU16_append (u16ToBeBytes frame.messageLength ++ u16ToBeBytes frame.version) _ _
  have hbody : ((frame.bytes ++ rest).take frame.messageLength.toNat).drop headerLen = frame.body := by
    rw [hcounted, ← length_bytes, List.take_left, Frame.bytes, ← List.append_assoc, ← List.append_assoc]
    exact List.drop_left' (by simp [headerLen])
  have hheader : headerLen ≤ (frame.bytes ++ rest).length := by omega
  have hle : headerLen ≤ frame.messageLength.toNat := by omega
  have hcomplete : frame.messageLength.toNat ≤ (frame.bytes ++ rest).length := by omega
  simp only [parseHeader, hmessage, hversion, hpayload, hbody, ensure_of hheader, ensure_of hle,
    ensure_of hcomplete, ok_bind, pure_eq_ok]

theorem counted_of_parseHeader {bytes : Bytes} (h : parseHeader bytes = .ok frame) : frame.Counted := by
  simp only [parseHeader, bind_eq_ok, ensure_eq_ok, pure_eq_ok, Except.ok.injEq] at h
  obtain ⟨-, hheader, -, hmessage, -, hcomplete, rfl⟩ := h
  simp only [Frame.Counted, List.length_drop, List.length_take]
  omega

/-- A frame that lost its end is not a frame. -/
theorem parseHeader_of_prefix (h : frame.Counted) {bytes : Bytes} (hpre : bytes <+: frame.bytes)
    (hne : bytes ≠ frame.bytes) : ∃ error, parseHeader bytes = .error error := by
  cases hp : parseHeader bytes with
  | error error => exact ⟨error, rfl⟩
  | ok other =>
    simp only [parseHeader, bind_eq_ok, ensure_eq_ok, pure_eq_ok, Except.ok.injEq] at hp
    obtain ⟨-, hheader, -, -, -, hcomplete, -⟩ := hp
    obtain ⟨rest, hrest⟩ := hpre
    have hmessage : readU16 bytes 0 = frame.messageLength := by
      have hall : readU16 (bytes ++ rest) 0 = frame.messageLength := by
        rw [hrest, ← List.append_nil frame.bytes]
        exact readU16_messageLength []
      have htwo : 2 ≤ bytes.length := Nat.le_trans (by decide) hheader
      rw [readU16, List.drop_zero, List.take_append_of_le_length htwo] at hall
      exact hall
    have hcounted : frame.messageLength.toNat = headerLen + frame.body.length := h
    have hlength := congrArg List.length hrest
    rw [List.length_append, length_bytes] at hlength
    have hnil : rest = [] := by
      rw [← List.length_eq_zero_iff]
      rw [hmessage] at hcomplete
      omega
    rw [hnil, List.append_nil] at hrest
    exact absurd hrest hne

/-- The frame that an encoder writes. -/
def frameOf (version : UInt16) (payload rest : Bytes) : Frame where
  messageLength := UInt16.ofNat (headerLen + payload.length + rest.length)
  version := version
  payloadLength := UInt16.ofNat payload.length
  body := payload ++ rest

theorem bytes_frameOf (version : UInt16) (payload rest : Bytes) :
    (frameOf version payload rest).bytes = encodeFrame version payload rest := by
  simp only [Frame.bytes, frameOf, encodeFrame, List.append_assoc]

theorem counted_frameOf (version : UInt16) {payload rest : Bytes}
    (h : headerLen + payload.length + rest.length < 2 ^ 16) : (frameOf version payload rest).Counted := by
  simp only [Frame.Counted, frameOf, UInt16.toNat_ofNat', List.length_append]
  rw [Nat.mod_eq_of_lt h, Nat.add_assoc]

/-- A counted frame is the one that is written for the two parts of its body. -/
theorem frameOf_eq_self (h : frame.Counted) {version : UInt16} (hversion : frame.version = version)
    (hpayload : frame.payloadLength.toNat ≤ frame.body.length) :
    frameOf version (frame.body.take frame.payloadLength.toNat) (frame.body.drop frame.payloadLength.toNat) =
      frame := by
  have hcounted : frame.messageLength.toNat = headerLen + frame.body.length := h
  have htake : (frame.body.take frame.payloadLength.toNat).length = frame.payloadLength.toNat := by
    rw [List.length_take, Nat.min_eq_left hpayload]
  have hlength : headerLen + frame.payloadLength.toNat + (frame.body.length - frame.payloadLength.toNat) =
      frame.messageLength.toNat := by omega
  rw [frameOf, List.take_append_drop, htake, List.length_drop, hlength, UInt16.ofNat_toNat,
    UInt16.ofNat_toNat, ← hversion]

end Headers

section Messages

variable {R : Rasn}

/-- What is known of the coders of the messages in a request: what is encoded reads back, and is not
empty. -/
structure FrameCoders (R : Rasn) : Prop where
  apReq_decode : ∀ {v bytes}, R.apReq.encode v = .ok bytes → R.apReq.decode bytes = .ok v
  apReq_ne_nil : ∀ {v bytes}, R.apReq.encode v = .ok bytes → bytes ≠ []
  krbPriv_decode : ∀ {v bytes}, R.krbPriv.encode v = .ok bytes → R.krbPriv.decode bytes = .ok v
  krbPriv_ne_nil : ∀ {v bytes}, R.krbPriv.encode v = .ok bytes → bytes ≠ []

/-- Both messages have the version and the message type that a decoder asks for. -/
structure Request.Valid (request : Request) : Prop where
  apReq : request.apReq.pvno = 5 ∧ request.apReq.msgType = 14
  krbPriv : request.krbPriv.pvno = 5 ∧ request.krbPriv.msgType = 21

theorem validateApReqMessage_iff {apReq : ApReq} :
    validateApReqMessage apReq = .ok () ↔ apReq.pvno = 5 ∧ apReq.msgType = 14 := by
  have hpvno : krb5Pvno.toInt = 5 := rfl
  have hmsg : krbApReqMsgType.toInt = 14 := rfl
  simp only [validateApReqMessage, validateInteger, bind_eq_ok, ensure_eq_ok, hpvno, hmsg, exists_const]

theorem validateKrbPriv_iff {krbPriv : KrbPriv} :
    validateKrbPriv krbPriv = .ok () ↔ krbPriv.pvno = 5 ∧ krbPriv.msgType = 21 := by
  have hpvno : krb5Pvno.toInt = 5 := rfl
  have hmsg : krbPrivMsgType.toInt = 21 := rfl
  simp only [validateKrbPriv, validateInteger, bind_eq_ok, ensure_eq_ok, hpvno, hmsg, exists_const]

theorem decodeApReq_iff (h : FrameCoders R) {apReq : ApReq} {bytes : Bytes}
    (hencode : R.apReq.encode apReq = .ok bytes) {other : ApReq} :
    decodeApReq R bytes = .ok other ↔ other = apReq ∧ apReq.pvno = 5 ∧ apReq.msgType = 14 := by
  rw [decodeApReq, decode, h.apReq_decode hencode, ← validateApReqMessage_iff]
  simp only [Except.mapError, ok_bind, bind_eq_ok, pure_eq_ok, Except.ok.injEq]
  constructor
  · intro h
    obtain ⟨_, hvalid, rfl⟩ := h
    exact ⟨rfl, hvalid⟩
  · intro h
    obtain ⟨rfl, hvalid⟩ := h
    exact ⟨(), hvalid, rfl⟩

theorem decodeKrbPriv_iff (h : FrameCoders R) {krbPriv : KrbPriv} {bytes : Bytes}
    (hencode : R.krbPriv.encode krbPriv = .ok bytes) {other : KrbPriv} :
    decodeKrbPriv R bytes = .ok other ↔ other = krbPriv ∧ krbPriv.pvno = 5 ∧ krbPriv.msgType = 21 := by
  rw [decodeKrbPriv, mapError_eq_ok, Rskrb5.decodeKrbPriv, decode, h.krbPriv_decode hencode,
    ← validateKrbPriv_iff]
  simp only [Except.mapError, ok_bind, bind_eq_ok, pure_eq_ok, Except.ok.injEq]
  constructor
  · intro h
    obtain ⟨_, hvalid, rfl⟩ := h
    exact ⟨rfl, hvalid⟩
  · intro h
    obtain ⟨rfl, hvalid⟩ := h
    exact ⟨(), hvalid, rfl⟩

end Messages

section Requests

variable {R : Rasn} {request : Request} {bytes : Bytes}

theorem Request.encode_eq_ok (h : request.encode R = .ok bytes) :
    ∃ apReq krbPriv, R.apReq.encode request.apReq = .ok apReq ∧
      R.krbPriv.encode request.krbPriv = .ok krbPriv ∧
      headerLen + apReq.length + krbPriv.length < 2 ^ 16 ∧
      bytes = (frameOf changePasswordRequestVersion apReq krbPriv).bytes := by
  simp only [Request.encode, encodeApReq, encodeKrbPriv, Rskrb5.encodeKrbPriv, EncParts.encode, bind_eq_ok,
    mapError_eq_ok, ensure_eq_ok, pure_eq_ok, Except.ok.injEq] at h
  obtain ⟨apReq, hapReq, krbPriv, hkrbPriv, -, -, -, hlength, rfl⟩ := h
  exact ⟨apReq, krbPriv, hapReq, hkrbPriv, hlength, (bytes_frameOf _ _ _).symm⟩

/-- A request that is written and read, whatever follows it, comes back when its messages are valid. -/
theorem Request.parse_encode (hR : FrameCoders R) (h : request.encode R = .ok bytes) (rest : Bytes) :
    Request.parse R (bytes ++ rest) = .ok request ↔ request.Valid := by
  obtain ⟨apReq, krbPriv, hapReq, hkrbPriv, hlength, rfl⟩ := Request.encode_eq_ok h
  have hlt : apReq.length < 2 ^ 16 := by omega
  have hend : (UInt16.ofNat apReq.length).toNat = apReq.length := by
    rw [UInt16.toNat_ofNat', Nat.mod_eq_of_lt hlt]
  have happ := List.length_pos_iff.mpr (hR.apReq_ne_nil hapReq)
  have hpriv := List.length_pos_iff.mpr (hR.krbPriv_ne_nil hkrbPriv)
  have hparts : ¬ (apReq.length = 0 ∨ (apReq ++ krbPriv).length ≤ apReq.length) := by
    rw [List.length_append]
    omega
  rw [Request.parse, parseHeader_bytes (counted_frameOf _ hlength)]
  simp only [ok_bind, frameOf, hend, ensure_of hparts, List.take_left', List.drop_left', bind_eq_ok,
    ensure_eq_ok, mapError_eq_ok, decodeApReq_iff hR hapReq, decodeKrbPriv_iff hR hkrbPriv, pure_eq_ok,
    Except.ok.injEq]
  constructor
  · intro h
    obtain ⟨-, -, _, ⟨-, hvalid⟩, _, ⟨-, hvalid'⟩, -⟩ := h
    exact ⟨hvalid, hvalid'⟩
  · exact fun hvalid ↦ ⟨(), trivial, _, ⟨rfl, hvalid.apReq⟩, _, ⟨rfl, hvalid.krbPriv⟩, rfl⟩

theorem Request.parse_of_prefix (h : request.encode R = .ok bytes) {before : Bytes}
    (hpre : before <+: bytes) (hne : before ≠ bytes) :
    ∃ error, Request.parse R before = .error error := by
  obtain ⟨apReq, krbPriv, -, -, hlength, rfl⟩ := Request.encode_eq_ok h
  obtain ⟨error, herror⟩ := parseHeader_of_prefix (counted_frameOf _ hlength) hpre hne
  exact ⟨error, by rw [Request.parse, herror, error_bind]⟩

end Requests

section Replies

variable {R : Rasn} {reply : Reply} {bytes : Bytes}

/-- The bytes are the encoding of the value that they read as, with nothing behind it. -/
def IsEncoding {α : Type} (coder : Coder α) (bytes : Bytes) : Prop :=
  ∃ value, coder.decode bytes = .ok value ∧ coder.encode value = .ok bytes

/-- Each message of a reply fills its part of the frame. -/
structure Frame.Filled (R : Rasn) (frame : Frame) : Prop where
  krbError : frame.payloadLength = 0 → IsEncoding R.krbError frame.body
  apRep : frame.payloadLength ≠ 0 → IsEncoding R.apRep (frame.body.take frame.payloadLength.toNat)
  krbPriv : frame.payloadLength ≠ 0 → IsEncoding R.krbPriv (frame.body.drop frame.payloadLength.toNat)

theorem IsEncoding.encode_eq {α : Type} {coder : Coder α} {value : α} (h : IsEncoding coder bytes)
    (hdecode : coder.decode bytes = .ok value) : coder.encode value = .ok bytes := by
  obtain ⟨other, hother, hencode⟩ := h
  obtain rfl := Except.ok.inj (hother.symm.trans hdecode)
  exact hencode

theorem encodeApRep_of_decode (hfilled : IsEncoding R.apRep bytes) {apRep : ApRep}
    (h : (decodeApRep R bytes).mapError apRepError = .ok apRep) :
    (encodeApRep R apRep).mapError apRepError = .ok bytes := by
  simp only [decodeApRep, decode, mapError_eq_ok, bind_eq_ok, pure_eq_ok, Except.ok.injEq] at h
  obtain ⟨other, hdecode, -, -, rfl⟩ := h
  rw [mapError_eq_ok, encodeApRep, encode, mapError_eq_ok]
  exact hfilled.encode_eq hdecode

theorem encodeKrbPriv_of_decode (hfilled : IsEncoding R.krbPriv bytes) {krbPriv : KrbPriv}
    (h : decodeKrbPriv R bytes = .ok krbPriv) : encodeKrbPriv R krbPriv = .ok bytes := by
  simp only [decodeKrbPriv, Rskrb5.decodeKrbPriv, decode, mapError_eq_ok, bind_eq_ok, pure_eq_ok,
    Except.ok.injEq] at h
  obtain ⟨other, hdecode, -, -, rfl⟩ := h
  rw [encodeKrbPriv, mapError_eq_ok, Rskrb5.encodeKrbPriv, encode, mapError_eq_ok]
  exact hfilled.encode_eq hdecode

theorem encodeKrbError_of_decode (hfilled : IsEncoding R.krbError bytes) {krbError : KrbError}
    (h : (KrbError.decodeKrbError R bytes).mapError krbErrorError = .ok krbError) :
    (KrbError.encodeKrbError R krbError).mapError krbErrorError = .ok bytes := by
  simp only [KrbError.decodeKrbError, mapError_eq_ok, bind_eq_ok, pure_eq_ok, Except.ok.injEq] at h
  obtain ⟨other, hdecode, -, -, rfl⟩ := h
  rw [mapError_eq_ok, KrbError.encodeKrbError, mapError_eq_ok]
  exact hfilled.encode_eq hdecode

theorem encode_of_parseKrbError {frame : Frame} (hfilled : frame.Filled R) (hcounted : frame.Counted)
    (hversion : frame.version = changePasswordReplyVersion) (hpayload : frame.payloadLength = 0)
    (h : Reply.parseKrbError R frame = .ok reply) : reply.encode R = .ok frame.bytes := by
  simp only [Reply.parseKrbError, bind_eq_ok, pure_eq_ok, Except.ok.injEq] at h
  obtain ⟨krbError, hdecode, result, -, rfl⟩ := h
  have hframe := frameOf_eq_self hcounted hversion (by rw [hpayload]; exact Nat.zero_le _)
  rw [hpayload, UInt16.toNat_zero, List.take_zero, List.drop_zero] at hframe
  have hlength : headerLen + frame.body.length < 2 ^ 16 := hcounted ▸ frame.messageLength.toNat_lt
  simp only [Reply.encode, Option.isSome_none, Bool.false_eq_true, or_self, not_false_eq_true,
    encodeKrbError_of_decode (hfilled.krbError hpayload) hdecode, ok_bind, ensure_of hlength, pure_eq_ok]
  rw [← bytes_frameOf, hframe]
  rfl

theorem encode_of_parseApRep {frame : Frame} (hfilled : frame.Filled R) (hcounted : frame.Counted)
    (hversion : frame.version = changePasswordReplyVersion) (hpayload : frame.payloadLength ≠ 0)
    (h : Reply.parseApRep R frame = .ok reply) : reply.encode R = .ok frame.bytes := by
  simp only [Reply.parseApRep, bind_eq_ok, ensure_eq_ok, pure_eq_ok, Except.ok.injEq] at h
  obtain ⟨-, hend, apRep, hapRep, krbPriv, hkrbPriv, rfl⟩ := h
  have hframe := frameOf_eq_self hcounted hversion hend.le
  have hmessage := frame.messageLength.toNat_lt
  have hcounted' : frame.messageLength.toNat = headerLen + frame.body.length := hcounted
  have happ : (frame.body.take frame.payloadLength.toNat).length < 2 ^ 16 := by
    rw [List.length_take]
    omega
  have hlength : headerLen + (frame.body.take frame.payloadLength.toNat).length +
      (frame.body.drop frame.payloadLength.toNat).length < 2 ^ 16 := by
    rw [List.length_take, List.length_drop]
    omega
  simp only [Reply.encode, okOr, ok_bind, encodeApRep_of_decode (hfilled.apRep hpayload) hapRep, ensure_of happ,
    encodeKrbPriv_of_decode (hfilled.krbPriv hpayload) hkrbPriv, ensure_of hlength, pure_eq_ok]
  rw [← bytes_frameOf, hframe]

/-- A reply whose messages fill their parts is written as the frame that it was read from. -/
theorem Reply.parse_encode {frame : Frame} (hframe : parseHeader bytes = .ok frame) (hfilled : frame.Filled R)
    (h : Reply.parse R bytes = .ok reply) :
    ∃ encoded, reply.encode R = .ok encoded ∧ Reply.parse R encoded = .ok reply := by
  have hcounted := counted_of_parseHeader hframe
  rw [Reply.parse, hframe, ok_bind] at h
  have hencode : reply.encode R = .ok frame.bytes := by
    simp only [bind_eq_ok, ensure_eq_ok] at h
    obtain ⟨-, hversion, h⟩ := h
    split at h
    · next hpayload => exact encode_of_parseKrbError hfilled hcounted hversion hpayload h
    · next hpayload => exact encode_of_parseApRep hfilled hcounted hversion hpayload h
  have hagain := parseHeader_bytes hcounted []
  rw [List.append_nil] at hagain
  refine ⟨_, hencode, ?_⟩
  rw [Reply.parse, hagain, ok_bind]
  exact h

theorem Reply.encode_eq_ok (h : reply.encode R = .ok bytes) :
    ∃ payload rest, headerLen + payload.length + rest.length < 2 ^ 16 ∧
      bytes = (frameOf changePasswordReplyVersion payload rest).bytes := by
  rw [Reply.encode] at h
  split at h
  · simp only [bind_eq_ok, ensure_eq_ok, pure_eq_ok, Except.ok.injEq] at h
    obtain ⟨-, -, body, -, -, hlength, rfl⟩ := h
    exact ⟨[], body, hlength, (bytes_frameOf _ _ _).symm⟩
  · simp only [bind_eq_ok, ensure_eq_ok, pure_eq_ok, Except.ok.injEq] at h
    obtain ⟨apRep, -, krbPriv, -, payload, -, -, -, rest, -, -, hlength, rfl⟩ := h
    exact ⟨payload, rest, hlength, (bytes_frameOf _ _ _).symm⟩

theorem Reply.parse_of_prefix (h : reply.encode R = .ok bytes) {before : Bytes} (hpre : before <+: bytes)
    (hne : before ≠ bytes) : ∃ error, Reply.parse R before = .error error := by
  obtain ⟨payload, rest, hlength, rfl⟩ := Reply.encode_eq_ok h
  obtain ⟨error, herror⟩ := parseHeader_of_prefix (counted_frameOf _ hlength) hpre hne
  exact ⟨error, by rw [Reply.parse, herror, error_bind]⟩

end Replies

section RoundTrip

/-- Frames round-trip: a request exactly when its messages have the versions and types that are
asked for on the way back, a reply whenever its messages fill the frame that it was read from; and no
frame is read without its end. -/
theorem kpasswd_frames_roundTrip (R : Rasn) (hR : FrameCoders R) :
    (∀ (request : Request) (bytes rest : Bytes), request.encode R = .ok bytes →
      (Request.parse R (bytes ++ rest) = .ok request ↔ request.Valid)) ∧
    (∀ (bytes : Bytes) (frame : Frame) (reply : Reply), parseHeader bytes = .ok frame → frame.Filled R →
      Reply.parse R bytes = .ok reply →
      ∃ encoded, reply.encode R = .ok encoded ∧ Reply.parse R encoded = .ok reply) ∧
    (∀ (request : Request) (bytes before : Bytes), request.encode R = .ok bytes →
      before <+: bytes → before ≠ bytes → ∃ error, Request.parse R before = .error error) ∧
    (∀ (reply : Reply) (bytes before : Bytes), reply.encode R = .ok bytes →
      before <+: bytes → before ≠ bytes → ∃ error, Reply.parse R before = .error error) :=
  ⟨fun _ _ rest h ↦ Request.parse_encode hR h rest,
    fun _ _ _ hframe hfilled h ↦ Reply.parse_encode hframe hfilled h,
    fun _ _ _ h ↦ Request.parse_of_prefix h, fun _ _ _ h ↦ Reply.parse_of_prefix h⟩

def sampleApReq (pvno : ℤ) : ApReq where
  pvno := pvno
  msgType := 14
  apOptions := List.replicate 32 false
  ticket := ⟨5, asBytes "A", ⟨2, [asBytes "kadmin", asBytes "changepw"]⟩, ⟨23, some 1, [1, 2]⟩⟩
  authenticator := ⟨23, none, [3, 4]⟩

def sampleKrbPriv : KrbPriv := ⟨5, 21, ⟨23, none, [5, 6]⟩⟩

def sampleApReqDer (pvno : UInt8) : Bytes :=
  [0x6e, 0x67, 0x30, 0x65, 0xa0, 0x03, 0x02, 0x01, pvno, 0xa1, 0x03, 0x02, 0x01, 0x0e, 0xa2, 0x07, 0x03,
    0x05, 0x00, 0x00, 0x00, 0x00, 0x00, 0xa3, 0x41, 0x61, 0x3f, 0x30, 0x3d, 0xa0, 0x03, 0x02, 0x01, 0x05,
    0xa1, 0x03, 0x1b, 0x01, 0x41, 0xa2, 0x1d, 0x30, 0x1b, 0xa0, 0x03, 0x02, 0x01, 0x02, 0xa1, 0x14, 0x30,
    0x12, 0x1b, 0x06, 0x6b, 0x61, 0x64, 0x6d, 0x69, 0x6e, 0x1b, 0x08, 0x63, 0x68, 0x61, 0x6e, 0x67, 0x65,
    0x70, 0x77, 0xa3, 0x12, 0x30, 0x10, 0xa0, 0x03, 0x02, 0x01, 0x17, 0xa1, 0x03, 0x02, 0x01, 0x01, 0xa2,
    0x04, 0x04, 0x02, 0x01, 0x02, 0xa4, 0x0d, 0x30, 0x0b, 0xa0, 0x03, 0x02, 0x01, 0x17, 0xa2, 0x04, 0x04,
    0x02, 0x03, 0x04]

def sampleKrbPrivDer : Bytes :=
  [0x75, 0x1b, 0x30, 0x19, 0xa0, 0x03, 0x02, 0x01, 0x05, 0xa1, 0x03, 0x02, 0x01, 0x15, 0xa3, 0x0d, 0x30,
    0x0b, 0xa0, 0x03, 0x02, 0x01, 0x17, 0xa2, 0x04, 0x04, 0x02, 0x05, 0x06]

def sampleKrbError : KrbError where
  pvno := 5
  msgType := 30
  ctime := none
  cusec := none
  stime := wholeTime 1767225661
  susec := 0
  errorCode := 60
  crealm := none
  cname := none
  realm := asBytes "A"
  sname := ⟨1, [asBytes "kadmin", asBytes "changepw"]⟩
  eText := none
  eData := some [0, 0]

def sampleKrbErrorDer : Bytes :=
  [0x7e, 0x53, 0x30, 0x51, 0xa0, 0x03, 0x02, 0x01, 0x05, 0xa1, 0x03, 0x02, 0x01, 0x1e, 0xa4, 0x11, 0x18,
    0x0f, 0x32, 0x30, 0x32, 0x36, 0x30, 0x31, 0x30, 0x31, 0x30, 0x30, 0x30, 0x31, 0x30, 0x31, 0x5a, 0xa5,
    0x03, 0x02, 0x01, 0x00, 0xa6, 0x03, 0x02, 0x01, 0x3c, 0xa9, 0x03, 0x1b, 0x01, 0x41, 0xaa, 0x1d, 0x30,
    0x1b, 0xa0, 0x03, 0x02, 0x01, 0x01, 0xa1, 0x14, 0x30, 0x12, 0x1b, 0x06, 0x6b, 0x61, 0x64, 0x6d, 0x69,
    0x6e, 0x1b, 0x08, 0x63, 0x68, 0x61, 0x6e, 0x67, 0x65, 0x70, 0x77, 0xac, 0x04, 0x04, 0x02, 0x00, 0x00]

/-- A library that knows two AP-REQs, one KRB-PRIV and one KRB-ERROR. It reads the KRB-ERROR with a byte
behind it too, which it ignores. -/
def sampleRasn : Rasn := .ofTable {
  apReq := [(sampleApReq 5, sampleApReqDer 5), (sampleApReq 4, sampleApReqDer 4)]
  krbPriv := [(sampleKrbPriv, sampleKrbPrivDer)]
  krbError := [(sampleKrbError, sampleKrbErrorDer), (sampleKrbError, sampleKrbErrorDer ++ [0])] }

def sampleRequest (pvno : ℤ) : Request := ⟨sampleApReq pvno, sampleKrbPriv⟩

theorem apReq_table : Coder.IsTable
    [(sampleApReq 5, sampleApReqDer 5), (sampleApReq 4, sampleApReqDer 4)] := by
  decide +kernel

theorem krbPriv_table : Coder.IsTable [(sampleKrbPriv, sampleKrbPrivDer)] := by
  decide

theorem frameCoders_sampleRasn : FrameCoders sampleRasn where
  apReq_decode := (apReq_table.lawful fun _ ↦ True).decode_encode trivial
  apReq_ne_nil h := ((apReq_table.lawful fun _ ↦ True).isDefinite h).ne_nil
  krbPriv_decode := (krbPriv_table.lawful fun _ ↦ True).decode_encode trivial
  krbPriv_ne_nil h := ((krbPriv_table.lawful fun _ ↦ True).isDefinite h).ne_nil

def sampleFrame (pvno : UInt8) : Bytes :=
  [0, 140, 0xff, 0x80, 0, 105] ++ sampleApReqDer pvno ++ sampleKrbPrivDer

theorem encode_sampleRequest : (sampleRequest 5).encode sampleRasn = .ok (sampleFrame 5) := by
  decide

/-- A reply with the KRB-ERROR, whose part of the frame is `length` bytes long. -/
def sampleReply (length : UInt16) : Reply where
  messageLength := 6 + length
  version := changePasswordReplyVersion
  apRepLength := 0
  apRep := none
  krbPriv := none
  krbError := some sampleKrbError
  result := some ⟨0, ""⟩

def sampleReplyFrame (body : Bytes) : Bytes := encodeFrame changePasswordReplyVersion [] body

theorem parse_sampleReplyFrame :
    Reply.parse sampleRasn (sampleReplyFrame sampleKrbErrorDer) = .ok (sampleReply 85) := by
  decide +kernel

theorem kpasswd_frames_roundTrip_sample :
    Request.parse sampleRasn (sampleFrame 5 ++ [1, 2, 3]) = .ok (sampleRequest 5) ∧
    ∃ encoded, (sampleReply 85).encode sampleRasn = .ok encoded ∧
      Reply.parse sampleRasn encoded = .ok (sampleReply 85) := by
  obtain ⟨hrequests, hreplies, -⟩ := kpasswd_frames_roundTrip sampleRasn frameCoders_sampleRasn
  have hfilled : Frame.Filled sampleRasn ⟨91, changePasswordReplyVersion, 0, sampleKrbErrorDer⟩ :=
    ⟨fun _ ↦ ⟨sampleKrbError, by decide, by decide⟩, fun hne ↦ absurd rfl hne, fun hne ↦ absurd rfl hne⟩
  refine ⟨(hrequests _ _ [1, 2, 3] encode_sampleRequest).mpr ⟨⟨rfl, rfl⟩, ⟨rfl, rfl⟩⟩, ?_⟩
  exact hreplies _ _ _ (by decide) hfilled parse_sampleReplyFrame

/-- A request of another protocol version is encoded, and is not read back. A reply whose KRB-ERROR has
a byte behind it is written without that byte, and is another one then. -/
theorem frames_not_read_back : FrameCoders sampleRasn ∧
    (sampleRequest 4).encode sampleRasn = .ok (sampleFrame 4) ∧
    Request.parse sampleRasn (sampleFrame 4) = .error (.invalidKerberosMessage "pvno" 5 "4") ∧
    Reply.parse sampleRasn (sampleReplyFrame (sampleKrbErrorDer ++ [0])) = .ok (sampleReply 86) ∧
    (sampleReply 86).encode sampleRasn = .ok (sampleReplyFrame sampleKrbErrorDer) ∧
    Reply.parse sampleRasn (sampleReplyFrame sampleKrbErrorDer) = .ok (sampleReply 85) :=
  ⟨frameCoders_sampleRasn, by decide, by decide +kernel, by decide +kernel, by decide, parse_sampleReplyFrame⟩

end RoundTrip

end Rskrb5.Kadmin
