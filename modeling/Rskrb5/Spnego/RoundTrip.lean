import Rskrb5.Spnego.Fields

namespace Rskrb5.Spnego

open Lib.Results Lib.Readers

section RoundTrip

def SpnegoToken.oids : SpnegoToken → List ObjectIdentifier
  | .init token => token.mechTypes
  | .resp token => token.supportedMech.toList

theorem decode_init {token : NegTokenInit} (hne : token.mechTypes ≠ []) (h : token.Readable)
    (hlength : (written NegTokenInit.encode token).length < 2 ^ 64) :
    NegotiationToken.decode (written NegTokenInit.encode token) = .ok (.init token) := by
  rw [written_eq (NegTokenInit.encode_eq hne h)] at hlength ⊢
  have hfields := lt_of_encodeTlv hlength
  rw [NegotiationToken.decode, readWhole_encodeTlv (by decide) hfields, ok_bind]
  change NegotiationToken.init <$> decodeNegTokenInit _ = _
  rw [decodeNegTokenInit_fields hne h (lt_of_encodeTlv hfields)]
  rfl

theorem decode_resp {token : NegTokenResp} (h : token.Readable)
    (hlength : (written NegTokenResp.encode token).length < 2 ^ 64) :
    NegotiationToken.decode (written NegTokenResp.encode token) = .ok (.resp token) := by
  rw [written_eq (NegTokenResp.encode_eq h)] at hlength ⊢
  have hfields := lt_of_encodeTlv hlength
  rw [NegotiationToken.decode, readWhole_encodeTlv (by decide) hfields, ok_bind]
  change NegotiationToken.resp <$> decodeNegTokenResp _ = _
  rw [NegTokenResp.decodeNegTokenResp_items h (lt_of_encodeTlv hfields)]
  rfl

theorem SpnegoToken.encode_init {token : NegTokenInit} {choice : Bytes} (h : token.encode = .ok choice) :
    SpnegoToken.encode (.init token) =
      .ok (encodeTlv tagApplication0 (written encodeOid .spnego ++ choice)) := by
  have hoid := write_eq_written ⟨_, encodeOid_of_leading (show ObjectIdentifier.spnego.leading < 120 by decide)⟩
  rw [encode, hoid, ok_bind, h]
  rfl

theorem decodeFramed_encode {token : NegTokenInit} (hne : token.mechTypes ≠ []) (h : token.Readable)
    (hlength : (written encodeOid .spnego ++ written NegTokenInit.encode token).length < 2 ^ 64) :
    decodeFramed (encodeTlv tagApplication0
      (written encodeOid .spnego ++ written NegTokenInit.encode token)) = .ok (.init token) := by
  have hlengths := hlength
  rw [List.length_append] at hlengths
  have hoid : Reads readOid (written encodeOid .spnego) .spnego := reads_readOid (by decide) (by omega)
  rw [decodeFramed, readWhole_encodeTlv (by decide) hlength, ok_bind]
  dsimp only
  rw [readInput, hoid 0, ok_bind]
  dsimp only
  rw [ensure_of rfl, ok_bind, decode_init hne h (by omega)]
  rfl

theorem decode_encode {token : SpnegoToken} {bytes : Bytes} (hoids : ∀ oid ∈ token.oids, oid.leading < 120)
    (h : token.encode = .ok bytes) (hlength : bytes.length < 2 ^ 64) :
    SpnegoToken.decode bytes = .ok token := by
  cases token with
  | init token =>
    obtain ⟨_, -, htoken⟩ := bind_eq_ok.mp h
    obtain ⟨choice, hchoice, -⟩ := bind_eq_ok.mp htoken
    obtain ⟨_, hne, -⟩ := bind_eq_ok.mp hchoice
    rw [SpnegoToken.encode_init hchoice, Except.ok.injEq, ← written_eq hchoice] at h
    subst h
    rw [SpnegoToken.decode, ensure_of (by simp [encodeTlv]), ok_bind]
    exact decodeFramed_encode (ensure_eq_ok.mp hne) hoids (lt_of_encodeTlv hlength)
  | resp token =>
    have hread : token.Readable := fun oid hoid ↦ hoids oid (Option.mem_toList.mpr hoid)
    have hbytes : written NegTokenResp.encode token = bytes := written_eq h
    have hdecode := decode_resp hread (by rwa [hbytes])
    have htag : bytes.getD 0 0 = tagContext1 := by
      rw [← hbytes, written_eq (NegTokenResp.encode_eq hread)]
      rfl
    have hne : bytes ≠ [] := by
      rw [← hbytes, written_eq (NegTokenResp.encode_eq hread)]
      simp [encodeTlv]
    rw [SpnegoToken.decode, ensure_of hne, ok_bind, htag, if_neg (by decide), decodeBare, ← hbytes, hdecode]
    rfl

theorem NegotiationToken.decode_eq_init {bytes : Bytes} {token : NegTokenInit}
    (h : NegotiationToken.decode bytes = .ok (.init token)) : token.mechTypes ≠ [] ∧ token.Readable ∧
      (written NegTokenInit.encode token).length ≤ bytes.length := by
  obtain ⟨choice, hchoice, h⟩ := bind_eq_ok.mp h
  rw [decodeNegotiationChoice, map_eq_pure_bind, map_eq_pure_bind] at h
  split at h
  · obtain ⟨token, htoken, h⟩ := bind_eq_ok.mp h
    cases h
    obtain ⟨hne, hread, hle⟩ := decodeNegTokenInit_eq_ok htoken
    rw [written_eq (NegTokenInit.encode_eq hne hread)]
    exact ⟨hne, hread, length_of_readWhole hchoice _ _ hle⟩
  · split at h
    · obtain ⟨token, -, h⟩ := bind_eq_ok.mp h
      cases h
    · cases h

theorem NegotiationToken.decode_eq_resp {bytes : Bytes} {token : NegTokenResp}
    (h : NegotiationToken.decode bytes = .ok (.resp token)) : token.Readable ∧
      (written NegTokenResp.encode token).length ≤ bytes.length := by
  obtain ⟨choice, hchoice, h⟩ := bind_eq_ok.mp h
  rw [decodeNegotiationChoice, map_eq_pure_bind, map_eq_pure_bind] at h
  split at h
  · obtain ⟨token, -, h⟩ := bind_eq_ok.mp h
    cases h
  · split at h
    · obtain ⟨token, htoken, h⟩ := bind_eq_ok.mp h
      cases h
      obtain ⟨hread, hle⟩ := decodeNegTokenResp_eq_ok htoken
      rw [written_eq (NegTokenResp.encode_eq hread)]
      exact ⟨hread, length_of_readWhole hchoice _ _ hle⟩
    · cases h

/-- Every choice that is accepted, framed or bare, was read from some part of the input. -/
theorem SpnegoToken.decode_eq_ok {bytes : Bytes} {token : SpnegoToken}
    (h : SpnegoToken.decode bytes = .ok token) :
    ∃ part, part.length ≤ bytes.length ∧
      ((∃ t, token = .init t ∧ NegotiationToken.decode part = .ok (.init t)) ∨
        ∃ t, token = .resp t ∧ NegotiationToken.decode part = .ok (.resp t)) := by
  obtain ⟨_, -, h⟩ := bind_eq_ok.mp h
  split at h
  · obtain ⟨tlv, htlv, h⟩ := bind_eq_ok.mp h
    obtain ⟨⟨oid, content⟩, hoid, h⟩ := bind_eq_ok.mp h
    obtain ⟨_, -, h⟩ := bind_eq_ok.mp h
    obtain ⟨choice, hchoice, h⟩ := bind_eq_ok.mp h
    obtain ⟨used, hused, -⟩ := parses_readOid.of_readInput hoid
    have hle : content.rest.length ≤ bytes.length := by
      have hvalue := length_of_readWhole htlv tlv.tag tlv.value le_rfl
      rw [encodeTlv, hused] at hvalue
      simp only [List.length_cons, List.length_append] at hvalue
      omega
    cases choice with
    | init t =>
      cases h
      exact ⟨content.rest, hle, .inl ⟨t, rfl, hchoice⟩⟩
    | resp t => cases h
  · obtain ⟨choice, hchoice, h⟩ := bind_eq_ok.mp h
    cases choice with
    | init t =>
      cases h
      exact ⟨bytes, le_rfl, .inl ⟨t, rfl, hchoice⟩⟩
    | resp t =>
      cases h
      exact ⟨bytes, le_rfl, .inr ⟨t, rfl, hchoice⟩⟩

/-- No slice is longer than `isize::MAX`. Whatever order, repetition and length forms a token comes
in, it is encoded again, in a form that is read as the same token. -/
theorem encode_of_decode {bytes : Bytes} {token : SpnegoToken} (hlength : bytes.length < 2 ^ 63)
    (h : SpnegoToken.decode bytes = .ok token) :
    ∃ encoded, token.encode = .ok encoded ∧ SpnegoToken.decode encoded = .ok token := by
  obtain ⟨part, hpart, ⟨t, rfl, ht⟩ | ⟨t, rfl, ht⟩⟩ := SpnegoToken.decode_eq_ok h
  · obtain ⟨hne, hread, hle⟩ := NegotiationToken.decode_eq_init ht
    have hencode := SpnegoToken.encode_init (write_eq_written ⟨_, NegTokenInit.encode_eq hne hread⟩)
    have hoid : (written encodeOid .spnego).length = 8 := by decide
    have hcontent : (written encodeOid .spnego ++ written NegTokenInit.encode t).length < 2 ^ 63 + 8 := by
      rw [List.length_append]
      omega
    have hlen := length_encodeLen_le le_rfl (hcontent.trans (by norm_num : 2 ^ 63 + 8 < 256 ^ 8))
    refine ⟨_, hencode, decode_encode hread hencode ?_⟩
    rw [encodeTlv, List.length_cons, List.length_append]
    omega
  · obtain ⟨hread, hle⟩ := NegotiationToken.decode_eq_resp ht
    have hencode : SpnegoToken.encode (.resp t) = .ok (written NegTokenResp.encode t) :=
      write_eq_written ⟨_, NegTokenResp.encode_eq hread⟩
    refine ⟨_, hencode, decode_encode ?_ hencode (by omega)⟩
    exact fun oid hoid ↦ hread oid (Option.mem_toList.mp hoid)

/-- A response with a length in the long form, and a state that is replaced behind the token. -/
def reorderedBytes : Bytes :=
  [0xa1, 0x81, 0x13, 0x30, 0x11, 0xa0, 0x03, 0x0a, 0x01, 0x01, 0xa2, 0x05, 0x04, 0x82, 0x00, 0x01, 0x07,
    0xa0, 0x03, 0x0a, 0x01, 0x00]

def reorderedToken : SpnegoToken :=
  .resp { negState := some .acceptCompleted, supportedMech := none, responseToken := some [0x07],
          mechListMic := none }

theorem encode_reorderedBytes :
    reorderedBytes.length < 2 ^ 63 ∧ SpnegoToken.decode reorderedBytes = .ok reorderedToken ∧
      ∃ encoded, reorderedToken.encode = .ok encoded ∧ SpnegoToken.decode encoded = .ok reorderedToken :=
  have hdecode : SpnegoToken.decode reorderedBytes = .ok reorderedToken := by decide
  ⟨by decide, hdecode, encode_of_decode (by decide) hdecode⟩

theorem isWhitespace_of_alphabet : ∀ c ∈ base64Alphabet, isWhitespace c = false := by
  have h : base64Alphabet.all (fun c ↦ isWhitespace c = false) = true := by decide
  exact fun c hc ↦ of_decide_eq_true (List.all_eq_true.mp h c hc)

theorem dropWhile_eq_self {text : List Char} (h : ∀ c ∈ text, isWhitespace c = false) :
    text.dropWhile isWhitespace = text := by
  cases text with
  | nil => rfl
  | cons c text => rw [List.dropWhile_cons, h c List.mem_cons_self]; rfl

theorem trim_eq_self {text : List Char} (h : ∀ c ∈ text, isWhitespace c = false) : trim text = text := by
  have hreverse : ∀ c ∈ text.reverse, isWhitespace c = false := fun c hc ↦ h c (List.mem_reverse.mp hc)
  rw [trim, dropWhile_eq_self h, dropWhile_eq_self hreverse, List.reverse_reverse]

theorem ne_nil_of_encode {token : SpnegoToken} {bytes : Bytes} (h : token.encode = .ok bytes) : bytes ≠ [] := by
  cases token with
  | init token =>
    obtain ⟨_, -, h⟩ := bind_eq_ok.mp h
    obtain ⟨_, -, h⟩ := bind_eq_ok.mp h
    obtain rfl := Except.ok.inj h
    simp [encodeTlv]
  | resp token =>
    obtain ⟨_, -, h⟩ := bind_eq_ok.mp h
    obtain rfl := Except.ok.inj h
    simp [encodeExplicit, encodeTlv]

theorem parseNegotiateHeader_encode {B : Base64} {bytes : Bytes} {token : SpnegoToken} (hB : B.Standard bytes)
    (hne : bytes ≠ []) (h : SpnegoToken.decode bytes = .ok token) :
    parseNegotiateHeader B (httpNegotiate ++ " " ++ B.encode bytes) = .ok token := by
  have htext : ∀ c ∈ (B.encode bytes).toList, isWhitespace c = false :=
    fun c hc ↦ isWhitespace_of_alphabet c (hB.alphabet c hc)
  have htext_ne : (B.encode bytes).toList ≠ [] := by
    have hpos := List.length_pos_iff.mpr hne
    rw [← List.length_pos_iff, hB.length]
    omega
  have hlist : (httpNegotiate ++ " " ++ B.encode bytes).toList =
      httpNegotiate.toList ++ ' ' :: (B.encode bytes).toList := by
    simp [String.toList_append]
  have hspan : ∀ text, (httpNegotiate.toList ++ ' ' :: text).takeWhile (!isWhitespace ·) = httpNegotiate.toList ∧
      (httpNegotiate.toList ++ ' ' :: text).dropWhile (!isWhitespace ·) = ' ' :: text :=
    fun _ ↦ ⟨rfl, rfl⟩
  rw [parseNegotiateHeader, hlist, (hspan _).1, (hspan _).2]
  dsimp only [List.tail_cons]
  rw [trim_eq_self htext, ensure_of (by simp), ok_bind, ensure_of ⟨by decide +kernel, htext_ne⟩, ok_bind,
    String.ofList_toList, hB.decode_encode]
  simp only [Except.mapError, ok_bind, h, pure_eq_ok]

/-- No vector is longer than `isize::MAX`. A header with a token of its own never falls back to the
bare Kerberos token. -/
theorem negotiate_round_trip (B : Base64) {token : SpnegoToken} {bytes : Bytes}
    (hoids : ∀ oid ∈ token.oids, oid.leading < 120) (h : token.encode = .ok bytes)
    (hlength : bytes.length < 2 ^ 63) (hB : B.Standard bytes) :
    SpnegoToken.decode bytes = .ok token ∧
      (negotiateHeader B token >>= parseNegotiateHeader B) = .ok token := by
  have hdecode := decode_encode hoids h (by omega)
  refine ⟨hdecode, ?_⟩
  rw [negotiateHeader, h]
  exact parseNegotiateHeader_encode hB (ne_nil_of_encode h) hdecode

def acceptCompleted : SpnegoToken :=
  .resp { negState := some .acceptCompleted, supportedMech := some .krb5, responseToken := none,
          mechListMic := none }

def acceptBytes : Bytes :=
  [0xa1, 0x14, 0x30, 0x12, 0xa0, 0x03, 0x0a, 0x01, 0x00, 0xa1, 0x0b, 0x06, 0x09, 0x2a, 0x86, 0x48, 0x86,
    0xf7, 0x12, 0x01, 0x02, 0x02]

def acceptText : String := "oRQwEqADCgEAoQsGCSqGSIb3EgECAg=="

/-- The engine on the one token of the header in the tests. -/
def acceptBase64 : Base64 where
  encode bytes := if bytes = acceptBytes then acceptText else ""
  decode text := if text = acceptText then .ok acceptBytes else .error "not in the table"

theorem standard_acceptBase64 : acceptBase64.Standard acceptBytes where
  decode_encode := by decide
  alphabet := by
    have h : (acceptBase64.encode acceptBytes).toList.all (fun c ↦ c ∈ base64Alphabet) = true := by
      decide +kernel
    exact fun c hc ↦ of_decide_eq_true (List.all_eq_true.mp h c hc)
  length := by decide +kernel

theorem negotiate_acceptCompleted :
    acceptCompleted.encode = .ok acceptBytes ∧ SpnegoToken.decode acceptBytes = .ok acceptCompleted ∧
      negotiateHeader acceptBase64 acceptCompleted = .ok ("Negotiate " ++ acceptText) ∧
      (negotiateHeader acceptBase64 acceptCompleted >>= parseNegotiateHeader acceptBase64) =
        .ok acceptCompleted :=
  have hencode : acceptCompleted.encode = .ok acceptBytes := by decide
  have h := negotiate_round_trip acceptBase64 (by decide) hencode (by decide) standard_acceptBase64
  ⟨hencode, h.1, by decide, h.2⟩

end RoundTrip

end Rskrb5.Spnego
