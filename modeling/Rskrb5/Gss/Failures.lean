import Rskrb5.Gss.Sealed

namespace Rskrb5.Gss

open Lib.Results Crypto

/-- A call that fails leaves the token as it was. -/
def KeepsOnError {τ α : Type} (token : τ) (outcome : Except Error α × τ) : Prop :=
  ∀ e, outcome.1 = .error e → outcome.2 = token

variable (P : Primitives)

section Checksums

theorem MicToken.setChecksum_keeps (token : MicToken) (key : EncryptionKey) (keyUsage : UInt32) :
    KeepsOnError token (token.setChecksum P key keyUsage) := by
  intro e h
  rw [setChecksum] at h ⊢
  split
  · rfl
  · next hset =>
    rw [if_neg hset] at h
    split
    · rfl
    · next heq =>
      rw [heq] at h
      cases h

theorem WrapToken.setChecksum_keeps (token : WrapToken) (key : EncryptionKey) (keyUsage : UInt32) :
    KeepsOnError token (token.setChecksum P key keyUsage) := by
  intro e h
  rw [setChecksum] at h ⊢
  split
  · rfl
  · next hset =>
    rw [if_neg hset] at h
    split
    · rfl
    · next hsealed =>
      rw [if_neg hsealed] at h
      split
      · rfl
      · next heq =>
        rw [heq] at h
        dsimp only at h
        -- the extra count is set together with the checksum, or neither is
        split at h
        · next hec =>
          rw [if_pos hec]
          split at h
          · cases h
          · next hlong => rw [if_neg hlong]
        · cases h

theorem WrapToken.decryptAndSetPayload_keeps (token : WrapToken) (key : EncryptionKey) (keyUsage : UInt32) :
    KeepsOnError token (token.decryptAndSetPayload P key keyUsage) := by
  intro e h
  rw [decryptAndSetPayload] at h ⊢
  split
  · rfl
  · next heq =>
    rw [heq] at h
    cases h

end Checksums

section Sealing

theorem or_sealed_eq_self_iff (flags : UInt8) :
    flags ||| gssTokenFlagSealed = flags ↔ flags &&& gssTokenFlagSealed ≠ 0 := by
  constructor
  · intro h
    rw [← h]
    exact sealed_or flags
  · intro h
    have hbits : ∀ n < 256, UInt8.ofNat n &&& gssTokenFlagSealed ≠ 0 →
        UInt8.ofNat n ||| gssTokenFlagSealed = UInt8.ofNat n := by
      decide +kernel
    have hflags := hbits flags.toNat flags.toNat_lt
    rw [UInt8.ofNat_toNat] at hflags
    exact hflags h

/-- What an encryption needs: a payload, and a key and a confounder of the lengths of a supported type. -/
def WrapToken.CanEncrypt (token : WrapToken) (key : EncryptionKey) (confounder : Bytes) : Prop :=
  token.payload.isSome ∧ ∃ etype, KerberosEtype.fromEtypeId key.etype = some etype ∧
    key.value.length = etype.keyLen ∧ confounder.length = etype.confounderLen

/-- An encryption that fails behind its first check leaves the sealed flag set. -/
theorem WrapToken.encryptPayload_of_error {token : WrapToken} {key : EncryptionKey} {keyUsage : UInt32}
    {confounder : Bytes} (hbody : token.encryptedBody = none) {e : Error}
    (h : (token.encryptPayloadWithConfounder P key keyUsage confounder).1 = .error e) :
    (token.encryptPayloadWithConfounder P key keyUsage confounder).2 =
      { token with flags := token.flags ||| gssTokenFlagSealed } := by
  rw [encryptPayloadWithConfounder, hbody] at h ⊢
  simp only [Option.isSome_none, Bool.false_eq_true, if_false] at h ⊢
  split
  · rfl
  · next heq =>
    rw [heq] at h
    cases h

theorem WrapToken.encryptPayload_ok_iff {token : WrapToken} {key : EncryptionKey} {keyUsage : UInt32}
    {confounder : Bytes} (hbody : token.encryptedBody = none) :
    (token.encryptPayloadWithConfounder P key keyUsage confounder).1 = .ok () ↔ token.CanEncrypt key confounder := by
  constructor
  · intro h
    obtain ⟨payload, etype, encrypted, hpayload, hetype, hencrypt, -⟩ := encryptPayload_eq_ok P (Prod.ext h rfl)
    obtain ⟨hkey, hconfounder⟩ := etype.length_of_encrypt_ok P hencrypt
    exact ⟨hpayload ▸ rfl, etype, hetype, hkey, hconfounder⟩
  · intro h
    obtain ⟨hpayload, etype, hetype, hkey, hconfounder⟩ := h
    obtain ⟨payload, hpayload⟩ := Option.isSome_iff_exists.mp hpayload
    obtain ⟨token', hok⟩ := encryptPayload_ok P hpayload hbody hetype hkey hconfounder keyUsage
    rw [hok]

theorem WrapToken.encryptPayload_keeps_iff (token : WrapToken) (key : EncryptionKey) (keyUsage : UInt32)
    (confounder : Bytes) :
    KeepsOnError token (token.encryptPayloadWithConfounder P key keyUsage confounder) ↔
      token.isSealed = true ∨ token.encryptedBody.isSome ∨ token.CanEncrypt key confounder := by
  cases hbody : token.encryptedBody with
  | some body =>
    have hset : token.encryptedBody.isSome = true := hbody ▸ rfl
    refine ⟨fun _ ↦ .inr (.inl rfl), fun _ e _ ↦ ?_⟩
    rw [encryptPayloadWithConfounder, if_pos hset]
  | none =>
    constructor
    · intro h
      by_cases hcan : token.CanEncrypt key confounder
      · exact .inr (.inr hcan)
      · left
        cases houtcome : (token.encryptPayloadWithConfounder P key keyUsage confounder).1 with
        | ok => exact absurd ((encryptPayload_ok_iff P hbody).mp houtcome) hcan
        | error e =>
          have hkept := (encryptPayload_of_error P hbody houtcome).symm.trans (h e houtcome)
          exact bne_iff_ne.mpr ((or_sealed_eq_self_iff token.flags).mp (congrArg WrapToken.flags hkept))
    · rintro (hsealed | hnone | hcan) e he
      · have hflags := (or_sealed_eq_self_iff token.flags).mpr (bne_iff_ne.mp hsealed)
        rw [encryptPayload_of_error P hbody he, hflags]
      · cases hnone
      · rw [(encryptPayload_ok_iff P hbody).mpr hcan] at he
        cases he

/-- Only the encryption of a token that is not sealed yet changes it when it fails. -/
theorem failed_unchanged :
    (∀ (token : WrapToken) key keyUsage confounder,
      KeepsOnError token (token.encryptPayloadWithConfounder P key keyUsage confounder) ↔
        token.isSealed = true ∨ token.encryptedBody.isSome ∨ token.CanEncrypt key confounder) ∧
    (∀ (token : WrapToken) key keyUsage, KeepsOnError token (token.setChecksum P key keyUsage)) ∧
    (∀ (token : WrapToken) key keyUsage, KeepsOnError token (token.decryptAndSetPayload P key keyUsage)) ∧
    ∀ (token : MicToken) key keyUsage, KeepsOnError token (token.setChecksum P key keyUsage) :=
  ⟨WrapToken.encryptPayload_keeps_iff P, WrapToken.setChecksum_keeps P, WrapToken.decryptAndSetPayload_keeps P,
    MicToken.setChecksum_keeps P⟩

def openToken : WrapToken := ⟨0, 12, 0, 7, some [0x41], none, none⟩

def shortKey : EncryptionKey := ⟨17, zeros 15⟩

/-- A key of the wrong length leaves a token behind that is sealed and has no body. -/
theorem openToken_changed :
    openToken.encryptPayloadWithConfounder (.ofKnownAnswers {}) shortKey gssapiInitiatorSealUsage (zeros 16) =
      (.error (.crypto (.invalidKeyLength 16 15)), { openToken with flags := gssTokenFlagSealed }) ∧
    ¬ KeepsOnError openToken (openToken.encryptPayloadWithConfounder (.ofKnownAnswers {}) shortKey
      gssapiInitiatorSealUsage (zeros 16)) := by
  have houtcome : openToken.encryptPayloadWithConfounder (.ofKnownAnswers {}) shortKey gssapiInitiatorSealUsage
      (zeros 16) =
      (.error (.crypto (.invalidKeyLength 16 15)), { openToken with flags := gssTokenFlagSealed }) := rfl
  refine ⟨houtcome, fun h ↦ ?_⟩
  have hkept := h _ (congrArg Prod.fst houtcome)
  rw [houtcome] at hkept
  exact absurd (congrArg WrapToken.flags hkept) (by decide)

end Sealing

end Rskrb5.Gss
