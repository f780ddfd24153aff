import Rskrb5.Pac.Signatures

namespace Rskrb5.Pac

open Lib Lib.Results Lib.Readers Lib.Patches Crypto

section Etypes

variable {signatureType : UInt32} {etype : KerberosEtype}

/-- The checksum types of the encryption types are signed, those on the wire are not. -/
def IsSignedBy (signatureType : UInt32) (etype : KerberosEtype) : Prop :=
  etype.checksumTypeId.toUInt32 = signatureType

theorem fromChecksumTypeId_checksumTypeId (etype : KerberosEtype) :
    KerberosEtype.fromChecksumTypeId etype.checksumTypeId = some etype := by
  cases etype with
  | sha1 etype => cases etype <;> rfl
  | sha2 etype => cases etype <;> rfl
  | des3CbcSha1Kd => rfl
  | rc4Hmac => rfl

/-- Only the checksum type of RC4 is negative. -/
theorem toI32?_checksumTypeId (etype : KerberosEtype) : toI32? etype.checksumTypeId.toUInt32 =
    if etype = .rc4Hmac then none else some etype.checksumTypeId := by
  cases etype with
  | sha1 etype => cases etype <;> rfl
  | sha2 etype => cases etype <;> rfl
  | des3CbcSha1Kd => rfl
  | rc4Hmac => rfl

theorem isSignedBy_rc4Hmac_iff (h : IsSignedBy signatureType etype) :
    signatureType = checksumHmacMd5Unsigned ↔ etype = .rc4Hmac := by
  rw [← h]
  cases etype with
  | sha1 etype => cases etype <;> decide
  | sha2 etype => cases etype <;> decide
  | des3CbcSha1Kd => decide
  | rc4Hmac => decide

theorem kerberosEtypeForChecksumType_of_isSignedBy (h : IsSignedBy signatureType etype) :
    kerberosEtypeForChecksumType signatureType = if etype = .rc4Hmac then none else some etype := by
  rw [← h, kerberosEtypeForChecksumType, toI32?_checksumTypeId]
  split
  · rfl
  · exact fromChecksumTypeId_checksumTypeId etype

theorem exists_isSignedBy {len : ℕ} (h : checksumSignatureLen signatureType = some len) :
    ∃ etype, IsSignedBy signatureType etype := by
  rw [checksumSignatureLen] at h
  split_ifs at h with hmd5 hsha1 hsha256 hsha384
  · exact ⟨.rc4Hmac, hmd5 ▸ rfl⟩
  · rcases hsha1 with rfl | rfl
    · exact ⟨.sha1 .aes128, rfl⟩
    · exact ⟨.sha1 .aes256, rfl⟩
  · exact ⟨.sha2 .aes128, hsha256 ▸ rfl⟩
  · exact ⟨.sha2 .aes256, hsha384 ▸ rfl⟩

end Etypes

section Verification

variable {Z : Compcol} {P : Primitives} {bytes : Bytes} {pac : Pac} {checksum : SignatureData}

/-- Every signature that is kept was accepted by the parser. -/
theorem accepted_of_run {buffers : List InfoBuffer} {pac pac' : Pac}
    (h : ∀ ulType checksum, pac.checksumOf ulType = some checksum →
      ∃ len, checksumSignatureLen checksum.signatureType = some len)
    (hrun : buffers.foldlM (processBuffer Z) pac = .ok pac') :
    ∀ ulType checksum, pac'.checksumOf ulType = some checksum →
      ∃ len, checksumSignatureLen checksum.signatureType = some len := by
  induction buffers generalizing pac with
  | nil =>
    obtain rfl := Except.ok.inj hrun
    exact h
  | cons buffer buffers ih =>
    obtain ⟨next, hnext, hrest⟩ := bind_eq_ok.mp hrun
    refine ih (fun ulType checksum hchecksum ↦ ?_) hrest
    cases (turn_of_processBuffer hnext).2.2.2 with
    | signature parsed _ _ hparse _ hchecksums =>
      rw [hchecksums] at hchecksum
      split at hchecksum
      · obtain rfl := Option.some.inj hchecksum
        obtain ⟨-, len, hlen, -⟩ := signatureData_parse hparse
        exact ⟨len, hlen⟩
      · exact h ulType checksum hchecksum
    | other _ hchecksums _ =>
      rw [hchecksums] at hchecksum
      exact h ulType checksum hchecksum

theorem accepted_of_parseAndProcess (h : Pac.parseAndProcess Z bytes = .ok pac)
    (hserver : pac.serverChecksum = some checksum) :
    ∃ len, checksumSignatureLen checksum.signatureType = some len := by
  obtain ⟨fresh, hparse, hrun⟩ := bind_eq_ok.mp h
  obtain ⟨-, -, hnone, hnone'⟩ := parse_unprocessed hparse
  refine accepted_of_run (fun ulType checksum hchecksum ↦ ?_) hrun infoTypePacServerSignatureData checksum hserver
  rw [checksumOf, hnone, hnone'] at hchecksum
  simp at hchecksum

theorem verifyServerChecksum_of_isSignedBy {etype : KerberosEtype} {key : EncryptionKey}
    (hserver : pac.serverChecksum = some checksum) (hetype : IsSignedBy checksum.signatureType etype)
    (hkey : key.etype = etype.etypeId)
    (hsum : etype.checksum P key.value pac.zeroSignatureData pacServerChecksumKeyUsage = .ok checksum.signature) :
    pac.verifyServerChecksum P key =
      if etype = .rc4Hmac then .error (.unsupportedChecksumType checksum.signatureType) else .ok true := by
  have hchecksum : okOr pac.serverChecksum (Error.missingRequiredBuffer "ServerChecksum") = .ok checksum := by
    rw [hserver]
    rfl
  rw [verifyServerChecksum, hchecksum, ok_bind, kerberosEtypeForChecksumType_of_isSignedBy hetype]
  have hverify : etype.verifyChecksum P key.value pac.zeroSignatureData checksum.signature
      pacServerChecksumKeyUsage = true := by
    rw [KerberosEtype.verifyChecksum, hsum]
    exact (constantTimeEq_iff _ _).mpr rfl
  split
  · rfl
  · simp only [okOr, ok_bind, hkey, hverify, ne_eq, not_true_eq_false, if_false, pure_eq_ok]

/-- Every signature type that is accepted belongs to an encryption type, and a signature of that type
with its key verifies unless it is the unsigned HMAC-MD5 type. -/
theorem serverSignature_verifies_iff (h : Pac.parseAndProcess Z bytes = .ok pac)
    (hserver : pac.serverChecksum = some checksum) :
    (∃ etype, IsSignedBy checksum.signatureType etype) ∧
      ∀ etype key, IsSignedBy checksum.signatureType etype → key.etype = etype.etypeId →
        etype.checksum P key.value pac.zeroSignatureData pacServerChecksumKeyUsage = .ok checksum.signature →
          (pac.verifyServerChecksum P key = .ok true ↔
            checksum.signatureType ≠ checksumHmacMd5Unsigned) := by
  refine ⟨?_, fun etype key hetype hkey hsum ↦ ?_⟩
  · obtain ⟨len, hlen⟩ := accepted_of_parseAndProcess h hserver
    exact exists_isSignedBy hlen
  · rw [verifyServerChecksum_of_isSignedBy hserver hetype hkey hsum, ne_eq, isSignedBy_rc4Hmac_iff hetype]
    split
    · next hrc4 => simp [hrc4]
    · next hrc4 => simp [hrc4]

def aesKey : EncryptionKey := ⟨17, (List.range 16).map fun i ↦ UInt8.ofNat (0x31 + i)⟩

def aesPac : Bytes :=
  [2, 0, 0, 0, 0, 0, 0, 0, 6, 0, 0, 0, 0x10, 0, 0, 0, 0x28, 0, 0, 0, 0, 0, 0, 0, 7, 0, 0, 0, 0x10, 0,
   0, 0, 0x38, 0, 0, 0, 0, 0, 0, 0, 0x0f, 0, 0, 0, 0x70, 0x8b, 0x82, 0x3e, 0xd2, 0x14, 0xcb, 0x4f,
   0x09, 0x63, 0x56, 0x56, 0x0f, 0, 0, 0, 0xee, 0xb5, 0x97, 0x20, 0x6d, 0x5d, 0x7e, 0x2a, 0x9c, 0x25,
   0x94, 0x8c]

def aesZeroed : Bytes :=
  [2, 0, 0, 0, 0, 0, 0, 0, 6, 0, 0, 0, 0x10, 0, 0, 0, 0x28, 0, 0, 0, 0, 0, 0, 0, 7, 0, 0, 0, 0x10, 0,
   0, 0, 0x38, 0, 0, 0, 0, 0, 0, 0, 0x0f, 0, 0, 0, 0, 0, 0, 0, 0, 0, 0, 0, 0, 0, 0, 0, 0x0f, 0, 0, 0,
   0, 0, 0, 0, 0, 0, 0, 0, 0, 0, 0, 0]

def aesFoldedUsage : Bytes :=
  [0x1d, 0xdb, 0x6d, 0xb6, 0xd3, 0x24, 0xcc, 0x48, 0x88, 0x43, 0xa1, 0xd0, 0xe6, 0x42, 0x34, 0x3a]

def aesChecksumKey : Bytes :=
  [0x1e, 0x17, 0x12, 0x98, 0x6b, 0x8c, 0x2e, 0xce, 0x55, 0xfe, 0x01, 0xe2, 0xef, 0xdd, 0x6b, 0x03]

def aesMac : Bytes :=
  [0x70, 0x8b, 0x82, 0x3e, 0xd2, 0x14, 0xcb, 0x4f, 0x09, 0x63, 0x56, 0x56, 0xaf, 0xab, 0xa7, 0xcd,
   0xa6, 0x66, 0x11, 0xd7]

def aesPrimitives : Primitives :=
  { Primitives.ofKnownAnswers { aes128 := fun _ ↦ (aesFoldedUsage, aesChecksumKey) } with
    hmacSha1 := fun key data ↦ fit 20 (if key = aesChecksumKey ∧ data = aesZeroed then aesMac else [])
    length_hmacSha1 := fun _ _ ↦ length_fit 20 _ }

def aesServerChecksum : SignatureData where
  signatureType := 15
  signature := aesMac.take 12
  rodcIdentifier := none
  zeroedData := [0x0f, 0, 0, 0] ++ zeros 12

theorem checksum_aesZeroed :
    (KerberosEtype.sha1 .aes128).checksum aesPrimitives aesKey.value aesZeroed pacServerChecksumKeyUsage =
      .ok aesServerChecksum.signature := by
  decide +kernel

theorem parseAndProcess_aesPac : ∃ pac, Pac.parseAndProcess noCompcol aesPac = .ok pac ∧
    pac.zeroSignatureData = aesZeroed ∧ pac.serverChecksum = some aesServerChecksum := by
  have h : (Pac.parseAndProcess noCompcol aesPac).toOption.map
      (fun pac ↦ (pac.zeroSignatureData, pac.serverChecksum)) =
      some (aesZeroed, some aesServerChecksum) := by decide
  obtain ⟨pac, hpac, hvalues⟩ := exists_of_toOption_map h
  exact ⟨pac, hpac, Prod.mk.inj hvalues⟩

theorem serverSignature_verifies_iff_aes128 : ∃ pac : Pac,
    Pac.parseAndProcess noCompcol aesPac = .ok pac ∧ pac.zeroSignatureData = aesZeroed ∧
    pac.verifyServerChecksum aesPrimitives aesKey = .ok true := by
  obtain ⟨pac, hpac, hzero, hserver⟩ := parseAndProcess_aesPac
  have hiff := (serverSignature_verifies_iff (P := aesPrimitives) hpac hserver).2 (.sha1 .aes128) aesKey
    rfl rfl (hzero ▸ checksum_aesZeroed)
  exact ⟨pac, hpac, hzero, hiff.mpr (by decide)⟩

def md5Key : EncryptionKey := ⟨23, (List.range 16).map fun i ↦ UInt8.ofNat (0x31 + i)⟩

def md5Pac : Bytes :=
  [2, 0, 0, 0, 0, 0, 0, 0, 6, 0, 0, 0, 0x14, 0, 0, 0, 0x28, 0, 0, 0, 0, 0, 0, 0, 7, 0, 0, 0, 0x14, 0,
   0, 0, 0x40, 0, 0, 0, 0, 0, 0, 0, 0x76, 0xff, 0xff, 0xff, 0x98, 0x16, 0x65, 0x85, 0x9f, 0xd6, 0x2c,
   0xaf, 0x35, 0xfa, 0x1f, 0x10, 0x7d, 0xfa, 0xc0, 0x8d, 0, 0, 0, 0, 0x76, 0xff, 0xff, 0xff, 0x64,
   0x4a, 0x0b, 0x1d, 0x13, 0xa9, 0x74, 0x94, 0xf9, 0xc0, 8, 0xf8, 0xa9, 0x0c, 0xdb, 0xe6]

def md5Zeroed : Bytes :=
  [2, 0, 0, 0, 0, 0, 0, 0, 6, 0, 0, 0, 0x14, 0, 0, 0, 0x28, 0, 0, 0, 0, 0, 0, 0, 7, 0, 0, 0, 0x14, 0,
   0, 0, 0x40, 0, 0, 0, 0, 0, 0, 0, 0x76, 0xff, 0xff, 0xff, 0, 0, 0, 0, 0, 0, 0, 0, 0, 0, 0, 0, 0, 0,
   0, 0, 0, 0, 0, 0, 0x76, 0xff, 0xff, 0xff, 0, 0, 0, 0, 0, 0, 0, 0, 0, 0, 0, 0, 0, 0, 0, 0]

def md5SigningKey : Bytes :=
  [0xe7, 0x96, 0xb8, 0xd8, 0x3c, 3, 0xac, 0x32, 0x90, 0xc4, 0x88, 0x9e, 0xb8, 0xfc, 5, 0xa1]

def md5Digest : Bytes :=
  [0x6e, 0xbe, 0x74, 0x2a, 0x1d, 0x2d, 0x9a, 0xde, 0xae, 0x42, 0x86, 0x81, 0x74, 0x9e, 0x74, 0x9a]

def md5Signature : Bytes :=
  [0x98, 0x16, 0x65, 0x85, 0x9f, 0xd6, 0x2c, 0xaf, 0x35, 0xfa, 0x1f, 0x10, 0x7d, 0xfa, 0xc0, 0x8d]

def md5Primitives : Primitives :=
  { Primitives.ofKnownAnswers {
      hmacMd5 := [((md5Key.value, asBytes "signaturekey" ++ [0]), md5SigningKey),
        ((md5SigningKey, md5Digest), md5Signature)] } with
    md5 := fun data ↦ fit 16 (if data = [17, 0, 0, 0] ++ md5Zeroed then md5Digest else [])
    length_md5 := fun _ ↦ length_fit 16 _ }

def md5Table : List InfoBuffer := [⟨6, 20, 40⟩, ⟨7, 20, 64⟩]

def md5Checksum : SignatureData where
  signatureType := checksumHmacMd5Unsigned
  signature := md5Signature
  rodcIdentifier := none
  zeroedData := [0x76, 0xff, 0xff, 0xff] ++ zeros 16

theorem parseAndProcess_md5Pac : ∃ pac, Pac.parseAndProcess noCompcol md5Pac = .ok pac ∧
    pac.buffers = md5Table ∧ pac.zeroSignatureData = md5Zeroed ∧ pac.serverChecksum = some md5Checksum := by
  have h : (Pac.parseAndProcess noCompcol md5Pac).toOption.map
      (fun pac ↦ (pac.buffers, pac.zeroSignatureData, pac.serverChecksum)) =
      some (md5Table, md5Zeroed, some md5Checksum) := by decide
  obtain ⟨pac, hpac, hvalues⟩ := exists_of_toOption_map h
  obtain ⟨hbuffers, hrest⟩ := Prod.mk.inj hvalues
  obtain ⟨hzero, hserver⟩ := Prod.mk.inj hrest
  exact ⟨pac, hpac, hbuffers, hzero, hserver⟩

theorem signaturesApart_md5Table : SignaturesApart md5Table := by
  intro server kdc hserver hkdc i
  have h6 : firstOf infoTypePacServerSignatureData md5Table = some ⟨6, 20, 40⟩ := by decide
  have h7 : firstOf infoTypePacKdcSignatureData md5Table = some ⟨7, 20, 64⟩ := by decide
  obtain rfl := Option.some.inj (h6.symm.trans hserver)
  obtain rfl := Option.some.inj (h7.symm.trans hkdc)
  intro h
  obtain ⟨⟨-, hlt⟩, hge, -⟩ := h
  exact absurd (Nat.lt_of_le_of_lt hge hlt) (by decide)

theorem checksum_md5Zeroed :
    KerberosEtype.rc4Hmac.checksum md5Primitives md5Key.value md5Zeroed pacServerChecksumKeyUsage =
      .ok md5Signature := by
  decide

/-- The HMAC-MD5 checksum of the zeroed bytes under the key of the service is not accepted. -/
theorem hmacMd5_signature_rejected : ∃ pac : Pac,
    Pac.parseAndProcess noCompcol md5Pac = .ok pac ∧ SignaturesApart pac.buffers ∧
    pac.serverChecksum = some md5Checksum ∧ IsSignedBy md5Checksum.signatureType .rc4Hmac ∧
    md5Key.etype = KerberosEtype.rc4Hmac.etypeId ∧
    KerberosEtype.rc4Hmac.checksum md5Primitives md5Key.value pac.zeroSignatureData pacServerChecksumKeyUsage =
      .ok md5Checksum.signature ∧
    pac.verifyServerChecksum md5Primitives md5Key =
      .error (.unsupportedChecksumType checksumHmacMd5Unsigned) := by
  obtain ⟨pac, hpac, hbuffers, hzero, hserver⟩ := parseAndProcess_md5Pac
  have hsum : KerberosEtype.rc4Hmac.checksum md5Primitives md5Key.value pac.zeroSignatureData
      pacServerChecksumKeyUsage = .ok md5Checksum.signature := hzero ▸ checksum_md5Zeroed
  have hetype : IsSignedBy md5Checksum.signatureType .rc4Hmac := rfl
  exact ⟨pac, hpac, hbuffers ▸ signaturesApart_md5Table, hserver, hetype, rfl, hsum,
    verifyServerChecksum_of_isSignedBy hserver hetype rfl hsum⟩

end Verification

end Rskrb5.Pac
