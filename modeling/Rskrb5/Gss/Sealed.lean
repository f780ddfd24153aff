import Mathlib.Tactic.IntervalCases
import Rskrb5.Gss

namespace Rskrb5.Gss

open Lib.Results Crypto

section Header

@[simp] theorem length_wrapHeader (flags : UInt8) (ec rrc : UInt16) (sndSeqNum : UInt64) :
    (wrapHeader flags ec rrc sndSeqNum).length = gssWrapHeaderLen := by
  simp [wrapHeader, tokIdGssWrap, gssWrapHeaderLen]

theorem sealed_or (flags : UInt8) : (flags ||| gssTokenFlagSealed) &&& gssTokenFlagSealed ≠ 0 := by
  have h : (flags ||| gssTokenFlagSealed) &&& gssTokenFlagSealed = gssTokenFlagSealed := by
    rw [← UInt8.toBitVec_inj]
    simp only [UInt8.toBitVec_and, UInt8.toBitVec_or]
    ext i hi
    simp only [BitVec.getElem_and, BitVec.getElem_or]
    cases gssTokenFlagSealed.toBitVec[i] <;> simp
  rw [h]
  decide

/-- What `decode` reads of a token in one piece: the fields and what stands behind them. -/
structure IsFramed (bytes : Bytes) (flags : UInt8) (ec rrc : UInt16) (sndSeqNum : UInt64) (body : Bytes) :
    Prop where
  length_le : gssWrapHeaderLen ≤ bytes.length
  tokId : bytes.take 2 = tokIdGssWrap
  flags : bytes.getD 2 0 = flags
  filler : bytes.getD 3 0 = gssWrapFiller
  ec : u16FromBeBytes ((bytes.take 6).drop 4) = ec
  rrc : u16FromBeBytes ((bytes.take 8).drop 6) = rrc
  sndSeqNum : u64FromBeBytes ((bytes.take 16).drop 8) = sndSeqNum
  body : bytes.drop gssWrapHeaderLen = body

theorem isFramed_append (flags : UInt8) (ec rrc : UInt16) (sndSeqNum : UInt64) (body : Bytes) :
    IsFramed (wrapHeader flags ec rrc sndSeqNum ++ body) flags ec rrc sndSeqNum body := by
  obtain ⟨e₁, e₀, he⟩ := List.length_eq_two.mp (length_u16ToBeBytes ec)
  obtain ⟨r₁, r₀, hr⟩ := List.length_eq_two.mp (length_u16ToBeBytes rrc)
  have hq := length_u64ToBeBytes sndSeqNum
  have hbytes : wrapHeader flags ec rrc sndSeqNum ++ body =
      0x05 :: 0x04 :: flags :: gssWrapFiller :: e₁ :: e₀ :: r₁ :: r₀ :: (u64ToBeBytes sndSeqNum ++ body) := by
    simp [wrapHeader, tokIdGssWrap, he, hr]
  have hseq : ((wrapHeader flags ec rrc sndSeqNum ++ body).take 16).drop 8 = u64ToBeBytes sndSeqNum := by
    rw [hbytes]
    simp [hq]
  have hec : ((wrapHeader flags ec rrc sndSeqNum ++ body).take 6).drop 4 = u16ToBeBytes ec := by
    rw [hbytes, he]
    rfl
  have hrrc : ((wrapHeader flags ec rrc sndSeqNum ++ body).take 8).drop 6 = u16ToBeBytes rrc := by
    rw [hbytes, hr]
    rfl
  constructor
  · simp
  · rw [hbytes]
    rfl
  · rw [hbytes]
    rfl
  · rw [hbytes]
    rfl
  · rw [hec, u16FromBeBytes_toBeBytes]
  · rw [hrrc, u16FromBeBytes_toBeBytes]
  · rw [hseq, u64FromBeBytes_toBeBytes]
  · exact List.drop_left' (length_wrapHeader flags ec rrc sndSeqNum)

theorem decode_sealed {flags : UInt8} (hs : flags &&& gssTokenFlagSealed ≠ 0) (ec rrc : UInt16)
    (sndSeqNum : UInt64) {body : Bytes} (hb : body ≠ []) :
    WrapToken.decode (wrapHeader flags ec rrc sndSeqNum ++ body) (sentByAcceptor flags) =
      .ok ⟨flags, ec, rrc, sndSeqNum, none, none, some body⟩ := by
  have h := isFramed_append flags ec rrc sndSeqNum body
  simp only [WrapToken.decode, validateGssTokenId, validateGssSender, h.tokId, h.flags, h.filler, h.ec, h.rrc,
    h.sndSeqNum, h.body, ensure_of h.length_le, ensure_of hb, ensure_of trivial, if_pos hs, ok_bind]
  rfl

theorem decode_unsealed {flags : UInt8} (hs : flags &&& gssTokenFlagSealed = 0) {ec : UInt16} (rrc : UInt16)
    (sndSeqNum : UInt64) (payload : Bytes) {checksum : Bytes} (hchecksum : checksum.length = ec.toNat) :
    WrapToken.decode (wrapHeader flags ec rrc sndSeqNum ++ (payload ++ checksum)) (sentByAcceptor flags) =
      .ok ⟨flags, ec, rrc, sndSeqNum, some payload, some checksum, none⟩ := by
  have h := isFramed_append flags ec rrc sndSeqNum (payload ++ checksum)
  have hlength : (wrapHeader flags ec rrc sndSeqNum ++ (payload ++ checksum)).length =
      gssWrapHeaderLen + payload.length + ec.toNat := by
    rw [List.length_append, length_wrapHeader, List.length_append, hchecksum, Nat.add_assoc]
  have hstart : (wrapHeader flags ec rrc sndSeqNum ++ (payload ++ checksum)).length - ec.toNat =
      (wrapHeader flags ec rrc sndSeqNum ++ payload).length := by
    rw [hlength, Nat.add_sub_cancel, List.length_append, length_wrapHeader]
  have hpayload : ((wrapHeader flags ec rrc sndSeqNum ++ (payload ++ checksum)).take
      (wrapHeader flags ec rrc sndSeqNum ++ payload).length).drop gssWrapHeaderLen = payload := by
    rw [← List.append_assoc, List.take_left]
    exact List.drop_left' (length_wrapHeader flags ec rrc sndSeqNum)
  have hdrop : (wrapHeader flags ec rrc sndSeqNum ++ (payload ++ checksum)).drop
      (wrapHeader flags ec rrc sndSeqNum ++ payload).length = checksum := by
    rw [← List.append_assoc, List.drop_left]
  have hle : ec.toNat ≤ (wrapHeader flags ec rrc sndSeqNum ++ (payload ++ checksum)).length -
      gssWrapHeaderLen := by
    rw [hlength]
    omega
  have hnot : ¬ flags &&& gssTokenFlagSealed ≠ 0 := not_not.mpr hs
  simp only [WrapToken.decode, validateGssTokenId, validateGssSender, h.tokId, h.flags, h.filler, h.ec, h.rrc,
    h.sndSeqNum, hstart, hpayload, hdrop, ensure_of h.length_le, ensure_of hle, ensure_of trivial, if_neg hnot,
    ok_bind]
  rfl

theorem drop_header_append_zeros_ne (flags : UInt8) (ec : UInt16) (sndSeqNum : UInt64) {z : ℕ} (h0 : 0 < z)
    (h8 : z < 8) :
    (wrapHeader flags ec 0 sndSeqNum).drop z ++ zeros z ≠ wrapHeader flags ec 0 sndSeqNum := by
  obtain ⟨e₁, e₀, he⟩ := List.length_eq_two.mp (length_u16ToBeBytes ec)
  have hh : wrapHeader flags ec 0 sndSeqNum =
      0x05 :: 0x04 :: flags :: 0xff :: e₁ :: e₀ :: 0 :: 0 :: u64ToBeBytes sndSeqNum := by
    simp only [wrapHeader, tokIdGssWrap, he]
    rfl
  rw [hh]
  intro h
  -- each shift moves a fixed byte onto a different one
  interval_cases z <;> simp at h

end Header

section Trailer

/-- What `decrypt_payload` makes of a decrypted body. -/
def openPlaintext (token : WrapToken) (plaintext : Bytes) : Except Error Bytes := do
  let trailerLen := gssWrapHeaderLen + token.ec.toNat
  ensure (trailerLen ≤ plaintext.length) (.gssDecryptedTokenTooShort trailerLen plaintext.length)
  ensure (plaintext.drop (plaintext.length - gssWrapHeaderLen) = token.header 0) .invalidGssEncryptedHeader
  return plaintext.take (plaintext.length - trailerLen)

def sealedPlaintext (token : WrapToken) (payload : Bytes) : Bytes :=
  payload ++ List.replicate token.ec.toNat 0 ++ token.header 0

@[simp] theorem length_sealedPlaintext (token : WrapToken) (payload : Bytes) :
    (sealedPlaintext token payload).length = payload.length + token.ec.toNat + gssWrapHeaderLen := by
  simp [sealedPlaintext, WrapToken.header, Nat.add_assoc]

theorem openPlaintext_sealedPlaintext (token : WrapToken) (payload : Bytes) :
    openPlaintext token (sealedPlaintext token payload) = .ok payload := by
  have hlen : gssWrapHeaderLen + token.ec.toNat ≤ (sealedPlaintext token payload).length := by
    rw [length_sealedPlaintext]
    omega
  have hdrop : (sealedPlaintext token payload).drop
      ((sealedPlaintext token payload).length - gssWrapHeaderLen) = token.header 0 := by
    rw [length_sealedPlaintext, Nat.add_sub_cancel]
    exact List.drop_left' (by simp)
  have htake : (sealedPlaintext token payload).take
      ((sealedPlaintext token payload).length - (gssWrapHeaderLen + token.ec.toNat)) = payload := by
    rw [length_sealedPlaintext, sealedPlaintext, List.append_assoc]
    exact List.take_left' (by omega)
  rw [openPlaintext, ensure_of hlen, ensure_of hdrop, htake]
  rfl

theorem openPlaintext_of_padded (token : WrapToken) (payload : Bytes) {z : ℕ} (h0 : 0 < z) (h8 : z < 8) :
    openPlaintext token (sealedPlaintext token payload ++ zeros z) = .error .invalidGssEncryptedHeader := by
  have hlen : gssWrapHeaderLen + token.ec.toNat ≤ (sealedPlaintext token payload ++ zeros z).length := by
    rw [List.length_append, length_sealedPlaintext]
    omega
  have hdrop : (sealedPlaintext token payload ++ zeros z).drop
      ((sealedPlaintext token payload ++ zeros z).length - gssWrapHeaderLen) =
        (token.header 0).drop z ++ zeros z := by
    have hsplit : (sealedPlaintext token payload ++ zeros z).length - gssWrapHeaderLen =
        (payload ++ List.replicate token.ec.toNat 0).length + z := by
      simp
      omega
    rw [hsplit, sealedPlaintext, List.append_assoc, List.drop_length_add_append, List.drop_append_of_le_length]
    simp [WrapToken.header, gssWrapHeaderLen]
    omega
  have hne : (token.header 0).drop z ++ zeros z ≠ token.header 0 :=
    drop_header_append_zeros_ne token.flags token.ec token.sndSeqNum h0 h8
  rw [openPlaintext, ensure_of hlen, hdrop, ensure_of_not hne]
  rfl

theorem openPlaintext_padded_iff (token : WrapToken) (payload : Bytes) (e : KerberosEtype) :
    openPlaintext token (e.padded (sealedPlaintext token payload)) = .ok payload ↔
      (e = .des3CbcSha1Kd → des3BlockSize ∣ payload.length + token.ec.toNat) := by
  have hdvd : des3BlockSize ∣ (sealedPlaintext token payload).length ↔
      des3BlockSize ∣ payload.length + token.ec.toNat := by
    rw [length_sealedPlaintext]
    exact Nat.dvd_add_left (by decide)
  rw [← hdvd, ← e.padded_eq_self_iff]
  refine ⟨fun h ↦ ?_, fun h ↦ by rw [h, openPlaintext_sealedPlaintext]⟩
  by_contra hpad
  cases e with
  | des3CbcSha1Kd =>
    have hmod : (sealedPlaintext token payload).length % des3BlockSize ≠ 0 := by
      intro hmod
      exact hpad (zeroPad_of_dvd (Nat.dvd_of_mod_eq_zero hmod))
    have hlt := Nat.mod_lt (sealedPlaintext token payload).length (by decide : 0 < des3BlockSize)
    rw [KerberosEtype.padded, zeroPad, if_pos hmod, openPlaintext_of_padded token payload (by omega)
      (by simp only [des3BlockSize] at hmod hlt ⊢; omega)] at h
    cases h
  | _ => exact hpad rfl

end Trailer

section RoundTrip

variable (P : Primitives)

theorem encrypt_ne_nil {e : KerberosEtype} {key message confounder ciphertext : Bytes} {usage : UInt32}
    (h : e.encryptMessageWithConfounder P key message usage confounder = .ok ciphertext) :
    ciphertext ≠ [] := by
  intro heq
  subst heq
  have hle := e.le_length_of_decrypt_ok P (e.decrypt_of_encrypt P h)
  have hpos := e.confounderLen_pos
  rw [List.length_nil] at hle
  omega

/-- The token as it comes out of `encode` and `decode`, opened with the same key. -/
def received (token : WrapToken) (key : EncryptionKey) (keyUsage : UInt32) : Except Error Bytes := do
  let bytes ← token.encode
  let token' ← WrapToken.decode bytes (sentByAcceptor token.flags)
  token'.decryptPayload P key keyUsage

theorem encryptPayload_eq_ok {token token' : WrapToken} {key : EncryptionKey} {keyUsage : UInt32}
    {confounder : Bytes}
    (h : token.encryptPayloadWithConfounder P key keyUsage confounder = (.ok (), token')) :
    ∃ payload etype encrypted, token.payload = some payload ∧
      KerberosEtype.fromEtypeId key.etype = some etype ∧
      etype.encryptMessageWithConfounder P key.value
        (sealedPlaintext { token with flags := token.flags ||| gssTokenFlagSealed } payload) keyUsage
        confounder = .ok encrypted ∧
      token' = { token with
        flags := token.flags ||| gssTokenFlagSealed
        encryptedBody := some (rotateRight encrypted token.rrc.toNat), checksum := none } := by
  rw [WrapToken.encryptPayloadWithConfounder] at h
  split at h
  · cases h
  · dsimp only at h
    split at h
    · cases h
    · next encrypted he =>
      simp only [bind_eq_ok, okOr_eq_ok, etypeOfKey, mapError_eq_ok] at he
      obtain ⟨payload, hp, etype, hetype, he⟩ := he
      exact ⟨payload, etype, encrypted, hp, hetype, he, (Prod.mk.inj h).2.symm⟩

theorem received_of_encrypted {token token' : WrapToken} {payload : Bytes} {key : EncryptionKey}
    {keyUsage : UInt32} {confounder : Bytes} (hp : token.payload = some payload)
    (h : token.encryptPayloadWithConfounder P key keyUsage confounder = (.ok (), token')) :
    ∃ etype, KerberosEtype.fromEtypeId key.etype = some etype ∧
      received P token' key keyUsage =
        openPlaintext { token with flags := token.flags ||| gssTokenFlagSealed }
          (etype.padded (sealedPlaintext { token with flags := token.flags ||| gssTokenFlagSealed } payload)) := by
  obtain ⟨payload', etype, encrypted, hp', hetype, he, rfl⟩ := encryptPayload_eq_ok P h
  obtain rfl := Option.some.inj (hp.symm.trans hp')
  refine ⟨etype, hetype, ?_⟩
  have hs := sealed_or token.flags
  have hbody : rotateRight encrypted token.rrc.toNat ≠ [] := by
    intro hnil
    have hlen := length_rotateRight encrypted token.rrc.toNat
    rw [hnil] at hlen
    exact encrypt_ne_nil P he (List.length_eq_zero_iff.mp hlen.symm)
  have hsealed : ((token.flags ||| gssTokenFlagSealed) &&& gssTokenFlagSealed != 0) = true :=
    bne_iff_ne.mpr hs
  have hdec := etype.decrypt_of_encrypt P he
  have hdecode := decode_sealed hs token.ec token.rrc token.sndSeqNum hbody
  simp only [received, WrapToken.encode, WrapToken.isSealed, hsealed, if_true, okOr, ok_bind, pure_eq_ok,
    WrapToken.header, hdecode, WrapToken.decryptPayload, rotateLeft_rotateRight, etypeOfKey,
    hetype, hdec, Except.mapError]
  rfl

/-- A sealed token gives its payload back exactly when DES3 has nothing to pad. -/
theorem received_eq_payload_iff (token token' : WrapToken) (payload : Bytes) (key : EncryptionKey)
    (keyUsage : UInt32) (confounder : Bytes) (hp : token.payload = some payload)
    (h : token.encryptPayloadWithConfounder P key keyUsage confounder = (.ok (), token')) :
    received P token' key keyUsage = .ok payload ↔
      (key.etype = Des3CbcSha1KdEtype.etypeId → des3BlockSize ∣ payload.length + token.ec.toNat) := by
  obtain ⟨etype, hetype, hr⟩ := received_of_encrypted P hp h
  have hdes3 : key.etype = Des3CbcSha1KdEtype.etypeId ↔ etype = .des3CbcSha1Kd := by
    rw [show Des3CbcSha1KdEtype.etypeId = KerberosEtype.etypeId .des3CbcSha1Kd from rfl,
      ← KerberosEtype.fromEtypeId_eq_some, hetype, Option.some_inj]
  rw [hr, openPlaintext_padded_iff, hdes3]

theorem encryptPayload_ok {token : WrapToken} {payload : Bytes} {key : EncryptionKey} {etype : KerberosEtype}
    {confounder : Bytes} (hp : token.payload = some payload) (hb : token.encryptedBody = none)
    (hetype : KerberosEtype.fromEtypeId key.etype = some etype) (hk : key.value.length = etype.keyLen)
    (hc : confounder.length = etype.confounderLen) (keyUsage : UInt32) :
    ∃ token', token.encryptPayloadWithConfounder P key keyUsage confounder = (.ok (), token') := by
  obtain ⟨encrypted, he⟩ := etype.encrypt_ok P hk hc
    (sealedPlaintext { token with flags := token.flags ||| gssTokenFlagSealed } payload) keyUsage
  obtain ⟨flags, ec, rrc, sndSeqNum, _, checksum, _⟩ := token
  dsimp only at hp hb
  subst hp hb
  simp only [sealedPlaintext] at he
  simp only [WrapToken.encryptPayloadWithConfounder, Option.isSome_none, Bool.false_eq_true, if_false, okOr,
    ok_bind, etypeOfKey, hetype, he, Except.mapError]
  exact ⟨_, rfl⟩

end RoundTrip

section Des3

def des3Key : EncryptionKey := ⟨16, List.replicate 24 0x61⟩

def des3Token (payload : Bytes) : WrapToken := ⟨gssTokenFlagSealed, 0, 28, 7, some payload, none, none⟩

theorem des3Token_ok (payload : Bytes) : ∃ token', (des3Token payload).encryptPayloadWithConfounder
    (.ofKnownAnswers {}) des3Key gssapiInitiatorSealUsage (zeros 8) = (.ok (), token') :=
  encryptPayload_ok _ rfl rfl
    (rfl : KerberosEtype.fromEtypeId des3Key.etype = some KerberosEtype.des3CbcSha1Kd) rfl rfl
    gssapiInitiatorSealUsage

theorem not_received_des3 : ∃ token', (des3Token [0x41]).encryptPayloadWithConfounder
      (.ofKnownAnswers {}) des3Key gssapiInitiatorSealUsage (zeros 8) = (.ok (), token') ∧
    received (.ofKnownAnswers {}) token' des3Key gssapiInitiatorSealUsage =
      .error .invalidGssEncryptedHeader := by
  obtain ⟨token', h⟩ := des3Token_ok [0x41]
  refine ⟨token', h, ?_⟩
  obtain ⟨etype, hetype, hr⟩ := received_of_encrypted _ rfl h
  obtain rfl := Option.some.inj (hetype.symm.trans (rfl : _ = some KerberosEtype.des3CbcSha1Kd))
  rw [hr]
  exact openPlaintext_of_padded _ [0x41] (by decide : 0 < 7) (by decide)

theorem received_des3_block : ∃ token', (des3Token (zeros 8)).encryptPayloadWithConfounder
      (.ofKnownAnswers {}) des3Key gssapiInitiatorSealUsage (zeros 8) = (.ok (), token') ∧
    received (.ofKnownAnswers {}) token' des3Key gssapiInitiatorSealUsage = .ok (zeros 8) := by
  obtain ⟨token', h⟩ := des3Token_ok (zeros 8)
  refine ⟨token', h, ?_⟩
  exact (received_eq_payload_iff _ (des3Token (zeros 8)) token' (zeros 8) des3Key gssapiInitiatorSealUsage
    (zeros 8) rfl h).mpr fun _ ↦ by decide

end Des3

end Rskrb5.Gss
