import Rskrb5.Gss.Sealed

namespace Rskrb5.Gss

open Lib.Results Crypto

section Octets

theorem take_eq_append_slice {bytes : Bytes} {m n : ℕ} (h : m ≤ n) :
    bytes.take n = bytes.take m ++ (bytes.take n).drop m := by
  have hsplit := List.take_append_drop m (bytes.take n)
  rwa [List.take_take, Nat.min_eq_left h, eq_comm] at hsplit

theorem slice_octet {bytes : Bytes} {m : ℕ} (h : m < bytes.length) :
    (bytes.take (m + 1)).drop m = [bytes.getD m 0] := by
  rw [List.drop_take, Nat.add_sub_cancel_left, List.drop_eq_getElem_cons h, List.take_succ_cons, List.take_zero,
    List.getD_eq_getElem?_getD, List.getElem?_eq_getElem h, Option.getD_some]

theorem length_slice {bytes : Bytes} {m n : ℕ} (h : n ≤ bytes.length) :
    ((bytes.take n).drop m).length = n - m := by
  rw [List.length_drop, List.length_take, Nat.min_eq_left h]

end Octets

namespace MicToken

def withPayload (self : MicToken) (payload : Bytes) : MicToken := { self with payload := some payload }

theorem length_checksumHeader (token : MicToken) : token.checksumHeader.length = gssMicHeaderLen := by
  simp [checksumHeader, tokIdGssMic, gssMicFiller, gssMicHeaderLen]

/-- The first sixteen octets hold nothing but the fields. -/
theorem take_eq_checksumHeader {bytes : Bytes} {token : MicToken} (hlength : gssMicHeaderLen ≤ bytes.length)
    (hid : bytes.take 2 = tokIdGssMic) (hfiller : (bytes.take 8).drop 3 = gssMicFiller)
    (hflags : token.flags = bytes.getD 2 0)
    (hseq : token.sndSeqNum = u64FromBeBytes ((bytes.take 16).drop 8)) :
    bytes.take gssMicHeaderLen = token.checksumHeader := by
  have hlen : 16 ≤ bytes.length := hlength
  have hthree : bytes.take 3 = tokIdGssMic ++ [bytes.getD 2 0] := by
    rw [take_eq_append_slice (by decide : 2 ≤ 3), hid, slice_octet (by omega)]
  have height : bytes.take 8 = tokIdGssMic ++ [bytes.getD 2 0] ++ gssMicFiller := by
    rw [take_eq_append_slice (by decide : 3 ≤ 8), hthree, hfiller]
  rw [gssMicHeaderLen, take_eq_append_slice (by decide : 8 ≤ 16), height, checksumHeader, hflags, hseq,
    u64ToBeBytes_fromBeBytes (length_slice hlen)]

theorem decode_eq_ok {bytes : Bytes} {expectFromAcceptor : Bool} {token : MicToken}
    (h : decode bytes expectFromAcceptor = .ok token) :
    ∃ checksum, token.checksum = some checksum ∧ bytes = token.checksumHeader ++ checksum := by
  simp only [decode, validateGssTokenId, validateGssSender, bind_eq_ok, ensure_eq_ok, pure_eq_ok] at h
  obtain ⟨_, hlength, _, hid, _, -, _, hfiller, htoken⟩ := h
  obtain rfl := Except.ok.inj htoken
  refine ⟨_, rfl, ?_⟩
  rw [← take_eq_checksumHeader hlength hid hfiller rfl rfl, List.take_append_drop]

theorem decode_header_append (token : MicToken) (checksum : Bytes) :
    decode (token.checksumHeader ++ checksum) (sentByAcceptor token.flags) =
      .ok { token with payload := none, checksum := some checksum } := by
  have hseq := length_u64ToBeBytes token.sndSeqNum
  have hbytes : token.checksumHeader ++ checksum =
      0x04 :: 0x04 :: token.flags :: 0xff :: 0xff :: 0xff :: 0xff :: 0xff ::
        (u64ToBeBytes token.sndSeqNum ++ checksum) := by
    simp [checksumHeader, tokIdGssMic, gssMicFiller]
  have hlength : gssMicHeaderLen ≤ (token.checksumHeader ++ checksum).length := by
    rw [List.length_append, length_checksumHeader]
    omega
  have hdrop : (token.checksumHeader ++ checksum).drop gssMicHeaderLen = checksum :=
    List.drop_left' token.length_checksumHeader
  have hnum : ((token.checksumHeader ++ checksum).take 16).drop 8 = u64ToBeBytes token.sndSeqNum := by
    rw [hbytes]
    simp [hseq]
  have hid : (token.checksumHeader ++ checksum).take 2 = tokIdGssMic := by
    rw [hbytes]
    rfl
  have hflags : (token.checksumHeader ++ checksum).getD 2 0 = token.flags := by
    rw [hbytes]
    rfl
  have hfiller : ((token.checksumHeader ++ checksum).take 8).drop 3 = gssMicFiller := by
    rw [hbytes]
    rfl
  simp only [decode, validateGssTokenId, validateGssSender, hid, hflags, hfiller, hnum, hdrop,
    u64FromBeBytes_toBeBytes, ensure_of hlength, ensure_of trivial, ok_bind]
  rfl

end MicToken

theorem IsFramed.eq_append {bytes body : Bytes} {flags : UInt8} {ec rrc : UInt16} {sndSeqNum : UInt64}
    (h : IsFramed bytes flags ec rrc sndSeqNum body) :
    bytes = wrapHeader flags ec rrc sndSeqNum ++ body := by
  have hlen : 16 ≤ bytes.length := h.length_le
  have hthree : bytes.take 3 = tokIdGssWrap ++ [flags] := by
    rw [take_eq_append_slice (by decide : 2 ≤ 3), h.tokId, slice_octet (by omega), h.flags]
  have hfour : bytes.take 4 = tokIdGssWrap ++ [flags] ++ [gssWrapFiller] := by
    rw [take_eq_append_slice (by decide : 3 ≤ 4), hthree, slice_octet (by omega), h.filler]
  have hsix : bytes.take 6 = tokIdGssWrap ++ [flags] ++ [gssWrapFiller] ++ u16ToBeBytes ec := by
    rw [take_eq_append_slice (by decide : 4 ≤ 6), hfour, ← h.ec, u16ToBeBytes_fromBeBytes (length_slice (by omega))]
  have height : bytes.take 8 =
      tokIdGssWrap ++ [flags] ++ [gssWrapFiller] ++ u16ToBeBytes ec ++ u16ToBeBytes rrc := by
    rw [take_eq_append_slice (by decide : 6 ≤ 8), hsix, ← h.rrc, u16ToBeBytes_fromBeBytes (length_slice (by omega))]
  have hseq : u64ToBeBytes sndSeqNum = (bytes.take 16).drop 8 := by
    rw [← h.sndSeqNum]
    exact u64ToBeBytes_fromBeBytes (length_slice hlen)
  have hheader : bytes.take gssWrapHeaderLen = wrapHeader flags ec rrc sndSeqNum := by
    rw [gssWrapHeaderLen, take_eq_append_slice (by decide : 8 ≤ 16), height, wrapHeader, hseq]
  rw [← hheader, ← h.body, List.take_append_drop]

namespace WrapToken

theorem isSealed_iff {token : WrapToken} : token.isSealed = true ↔ token.flags &&& gssTokenFlagSealed ≠ 0 :=
  bne_iff_ne

theorem encode_of_sealed {token : WrapToken} {body : Bytes} (hs : token.flags &&& gssTokenFlagSealed ≠ 0)
    (hbody : token.encryptedBody = some body) : token.encode = .ok (token.header token.rrc ++ body) := by
  rw [encode, if_pos (isSealed_iff.mpr hs), hbody]
  rfl

theorem encode_of_unsealed {token : WrapToken} {payload checksum : Bytes}
    (hs : token.flags &&& gssTokenFlagSealed = 0) (hpayload : token.payload = some payload)
    (hchecksum : token.checksum = some checksum) (hlength : checksum.length = token.ec.toNat) :
    token.encode = .ok (token.header token.rrc ++ (payload ++ checksum)) := by
  rw [encode, if_neg fun h ↦ isSealed_iff.mp h hs, hpayload, hchecksum, ← List.append_assoc]
  simp only [okOr, ok_bind, ensure_of hlength]
  rfl

/-- Nothing of a decoded token is lost, whatever its extra count says. -/
theorem encode_decoded {bytes : Bytes} {expectFromAcceptor : Bool} {token : WrapToken}
    (h : decode bytes expectFromAcceptor = .ok token) : token.encode = .ok bytes := by
  simp only [decode, validateGssTokenId, validateGssSender, bind_eq_ok, ensure_eq_ok] at h
  obtain ⟨_, hlength, _, hid, _, -, _, hfiller, h⟩ := h
  set ec := u16FromBeBytes ((bytes.take 6).drop 4) with hec
  have hframed : IsFramed bytes (bytes.getD 2 0) ec (u16FromBeBytes ((bytes.take 8).drop 6))
      (u64FromBeBytes ((bytes.take 16).drop 8)) (bytes.drop gssWrapHeaderLen) :=
    ⟨hlength, hid, rfl, hfiller, rfl, rfl, rfl, rfl⟩
  have hbytes := IsFramed.eq_append hframed
  split at h
  · next hs =>
    obtain ⟨_, -, htoken⟩ := bind_eq_ok.mp h
    obtain rfl := Except.ok.inj htoken
    rw [encode_of_sealed hs rfl]
    exact congrArg Except.ok hbytes.symm
  · next hs =>
    obtain ⟨_, hchecksum, htoken⟩ := bind_eq_ok.mp h
    obtain rfl := Except.ok.inj htoken
    have hle := ensure_eq_ok.mp hchecksum
    have hbody : (bytes.take (bytes.length - ec.toNat)).drop gssWrapHeaderLen ++
        bytes.drop (bytes.length - ec.toNat) = bytes.drop gssWrapHeaderLen := by
      rw [← List.drop_append_of_le_length (by rw [List.length_take]; omega), List.take_append_drop]
    have hlast : (bytes.drop (bytes.length - ec.toNat)).length = ec.toNat := by
      rw [List.length_drop]
      omega
    rw [encode_of_unsealed (not_not.mp hs) rfl rfl hlast, hbody]
    exact congrArg Except.ok hbytes.symm

end WrapToken

section Initiator

variable (P : Primitives)

theorem sentByAcceptor_zero : sentByAcceptor 0 = false := by decide

theorem WrapToken.newInitiator_ok {key : EncryptionKey} {etype : KerberosEtype}
    (hetype : KerberosEtype.fromEtypeId key.etype = some etype) (hkey : key.value.length = etype.keyLen)
    (payload : Bytes) :
    ∃ checksum, checksum.length = etype.hmacLen ∧
      (⟨0, UInt16.ofNat etype.hmacLen, 0, 0, some payload, some checksum, none⟩ : WrapToken).computeChecksum P key
        gssapiInitiatorSealUsage = .ok checksum ∧
      newInitiator P payload key =
        .ok ⟨0, UInt16.ofNat etype.hmacLen, 0, 0, some payload, some checksum, none⟩ := by
  obtain ⟨mac, hmac, hlength⟩ := etype.checksum_ok P hkey (payload ++ wrapChecksumHeader 0 0) gssapiInitiatorSealUsage
  have hcompute : ∀ ec checksum, (⟨0, ec, 0, 0, some payload, checksum, none⟩ : WrapToken).computeChecksum P key
      gssapiInitiatorSealUsage = .ok mac := by
    intro ec checksum
    simp only [computeChecksum, okOr, ok_bind, etypeOfKey, hetype, hmac, Except.mapError]
  have hec : UInt16.ofNat etype.hmacLen ≠ 0 := by
    cases etype with
    | sha1 e => cases e <;> decide
    | sha2 e => cases e <;> decide
    | des3CbcSha1Kd => decide
    | rc4Hmac => decide
  refine ⟨mac, hlength, hcompute _ _, ?_⟩
  simp only [newInitiator, etypeOfKey, hetype, okOr, ok_bind, setChecksum, Option.isSome_none, Bool.false_eq_true,
    if_false, isSealed, hcompute, if_neg hec]
  rfl

theorem MicToken.newInitiator_ok {key : EncryptionKey} {etype : KerberosEtype}
    (hetype : KerberosEtype.fromEtypeId key.etype = some etype) (hkey : key.value.length = etype.keyLen)
    (payload : Bytes) :
    ∃ checksum, (⟨0, 0, some payload, some checksum⟩ : MicToken).computeChecksum P key gssapiInitiatorSignUsage =
        .ok checksum ∧
      newInitiator P payload key = .ok ⟨0, 0, some payload, some checksum⟩ := by
  obtain ⟨mac, hmac, -⟩ := etype.checksum_ok P hkey (payload ++ (⟨0, 0, none, none⟩ : MicToken).checksumHeader)
    gssapiInitiatorSignUsage
  have hcompute : ∀ checksum, (⟨0, 0, some payload, checksum⟩ : MicToken).computeChecksum P key
      gssapiInitiatorSignUsage = .ok mac := by
    intro checksum
    simp only [computeChecksum, okOr, ok_bind, etypeOfKey, hetype]
    exact congrArg (Except.mapError Error.crypto) hmac
  refine ⟨mac, hcompute _, ?_⟩
  simp only [newInitiator, setChecksum, Option.isSome_none, Bool.false_eq_true, if_false, hcompute]
  rfl

/-- An initiator's Wrap token comes back from the wire as it was built, and its checksum holds. -/
theorem WrapToken.newInitiator_verifies {key : EncryptionKey} {etype : KerberosEtype}
    (hetype : KerberosEtype.fromEtypeId key.etype = some etype) (hkey : key.value.length = etype.keyLen)
    (payload : Bytes) :
    ∃ token bytes, newInitiator P payload key = .ok token ∧ token.encode = .ok bytes ∧
      decode bytes false = .ok token ∧ token.payload = some payload ∧
      token.verify P key gssapiInitiatorSealUsage = .ok true := by
  obtain ⟨checksum, hlength, hcompute, hnew⟩ := newInitiator_ok P hetype hkey payload
  have hfits : etype.hmacLen < 2 ^ 16 := by
    cases etype with
    | sha1 e => cases e <;> decide
    | sha2 e => cases e <;> decide
    | des3CbcSha1Kd => decide
    | rc4Hmac => decide
  have hec : checksum.length = (UInt16.ofNat etype.hmacLen).toNat := by
    rw [hlength, UInt16.toNat_ofNat', Nat.mod_eq_of_lt hfits]
  have hflags : (0 : UInt8) &&& gssTokenFlagSealed = 0 := by decide
  have hdecode := decode_unsealed hflags 0 0 payload hec
  rw [sentByAcceptor_zero] at hdecode
  refine ⟨_, _, hnew, encode_of_unsealed hflags rfl rfl hec, hdecode, rfl, ?_⟩
  rw [verify, if_neg (by simp [isSealed]), hcompute]
  simp only [ok_bind, okOr, ensure_of ((constantTimeEq_iff checksum checksum).mpr rfl)]
  rfl

theorem MicToken.newInitiator_verifies {key : EncryptionKey} {etype : KerberosEtype}
    (hetype : KerberosEtype.fromEtypeId key.etype = some etype) (hkey : key.value.length = etype.keyLen)
    (payload : Bytes) :
    ∃ token bytes decoded, newInitiator P payload key = .ok token ∧ token.encode = .ok bytes ∧
      decode bytes false = .ok decoded ∧ decoded.withPayload payload = token ∧
      (decoded.withPayload payload).verify P key gssapiInitiatorSignUsage = .ok true := by
  obtain ⟨checksum, hcompute, hnew⟩ := newInitiator_ok P hetype hkey payload
  have hdecode := decode_header_append ⟨0, 0, some payload, some checksum⟩ checksum
  rw [sentByAcceptor_zero] at hdecode
  refine ⟨_, _, _, hnew, rfl, hdecode, rfl, ?_⟩
  simp only [withPayload, verify, hcompute, ok_bind, okOr,
    ensure_of ((constantTimeEq_iff checksum checksum).mpr rfl)]
  rfl

/-- The framing of both kinds of token loses nothing, and an initiator's tokens verify. -/
theorem tokens_framed :
    (∀ bytes expectFromAcceptor token, WrapToken.decode bytes expectFromAcceptor = .ok token →
      token.encode = .ok bytes) ∧
    (∀ bytes expectFromAcceptor token, MicToken.decode bytes expectFromAcceptor = .ok token →
      token.encode = .ok bytes) ∧
    ∀ (key : EncryptionKey) (etype : KerberosEtype) (payload : Bytes),
      KerberosEtype.fromEtypeId key.etype = some etype → key.value.length = etype.keyLen →
      (∃ token bytes, WrapToken.newInitiator P payload key = .ok token ∧ token.encode = .ok bytes ∧
        WrapToken.decode bytes false = .ok token ∧ token.payload = some payload ∧
        token.verify P key gssapiInitiatorSealUsage = .ok true) ∧
      ∃ token bytes decoded, MicToken.newInitiator P payload key = .ok token ∧ token.encode = .ok bytes ∧
        MicToken.decode bytes false = .ok decoded ∧ decoded.withPayload payload = token ∧
        (decoded.withPayload payload).verify P key gssapiInitiatorSignUsage = .ok true := by
  refine ⟨fun bytes expectFromAcceptor token h ↦ WrapToken.encode_decoded h, fun bytes expectFromAcceptor token h ↦ ?_,
    fun key etype payload hetype hkey ↦
      ⟨WrapToken.newInitiator_verifies P hetype hkey payload, MicToken.newInitiator_verifies P hetype hkey payload⟩⟩
  obtain ⟨checksum, hchecksum, hbytes⟩ := MicToken.decode_eq_ok h
  rw [MicToken.encode, hchecksum, hbytes]
  rfl

def aesKey : EncryptionKey := ⟨17, zeros 16⟩

/-- A sealed token that an acceptor sent, with a rotation of 28. -/
def sealedBytes : Bytes := [0x05, 0x04, 0x03, 0xff, 0x00, 0x00, 0x00, 0x1c, 0, 0, 0, 0, 0, 0, 0, 7, 0x41, 0x42]

def micBytes : Bytes := [0x04, 0x04, 0x01, 0xff, 0xff, 0xff, 0xff, 0xff, 0, 0, 0, 0, 0, 0, 0, 7, 0x41, 0x42]

theorem tokens_framed_aes :
    (⟨3, 0, 28, 7, none, none, some [0x41, 0x42]⟩ : WrapToken).encode = .ok sealedBytes ∧
    (⟨1, 7, none, some [0x41, 0x42]⟩ : MicToken).encode = .ok micBytes ∧
    ∃ token bytes, WrapToken.newInitiator (.ofKnownAnswers {}) [] aesKey = .ok token ∧
      token.encode = .ok bytes ∧ WrapToken.decode bytes false = .ok token ∧ token.payload = some [] ∧
      token.verify (.ofKnownAnswers {}) aesKey gssapiInitiatorSealUsage = .ok true := by
  have hframed := tokens_framed (.ofKnownAnswers {})
  refine ⟨hframed.1 sealedBytes true _ rfl, hframed.2.1 micBytes true _ rfl, ?_⟩
  exact (hframed.2.2 aesKey (.sha1 .aes128) [] rfl rfl).1

end Initiator

end Rskrb5.Gss
