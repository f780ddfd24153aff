import Mathlib.Data.List.Rotate
import Rskrb5.Crypto.Sealing
import Rskrb5.Messages

namespace Rskrb5

open Lib.Results Crypto

namespace Gss

inductive Error
  | gssTokenTooShort (minimum actual : ℕ)
  | invalidGssTokenId (expected actual : Bytes)
  | unexpectedGssTokenSender (expectedFromAcceptor actualFromAcceptor : Bool)
  | invalidGssFiller
  | missingGssPayload
  | missingGssChecksum
  | gssChecksumAlreadySet
  | missingGssEncryptedBody
  | gssEncryptedBodyAlreadySet
  | sealedGssTokenNeedsEncryption
  | gssTokenNotSealed
  | invalidGssChecksumLength (expected actual : ℕ)
  | inconsistentWrapChecksumLength (tokenLen checksumLen : ℕ)
  | gssChecksumMismatch
  | gssDecryptedTokenTooShort (minimum actual : ℕ)
  | invalidGssEncryptedHeader
  | decode (target message : String)
  | encode (target message : String)
  | invalidMessage (field : String) (expected : Int32) (actual : String)
  | integerOutOfRange (field value : String)
  | unsupportedEtype (etype : Int32)
  | apRepKeyEtypeMismatch (keyEtype encryptedDataEtype : Int32)
  | crypto (source : Crypto.Error)
  | apRepTimestampMismatch (expected actual : SystemTime)
  | timeOverflow
  deriving DecidableEq

def tokIdGssMic : Bytes := [0x04, 0x04]
def tokIdGssWrap : Bytes := [0x05, 0x04]
def gssMicHeaderLen : ℕ := 16
def gssWrapHeaderLen : ℕ := 16
def gssMicFiller : Bytes := [0xff, 0xff, 0xff, 0xff, 0xff]
def gssWrapFiller : UInt8 := 0xff
def gssTokenFlagSentByAcceptor : UInt8 := 0x01
def gssTokenFlagSealed : UInt8 := 0x02
def gssapiInitiatorSealUsage : UInt32 := 24
def gssapiInitiatorSignUsage : UInt32 := 25

def validateGssTokenId (actual expected : Bytes) : Except Error Unit :=
  ensure (actual = expected) (.invalidGssTokenId expected actual)

def sentByAcceptor (flags : UInt8) : Bool := flags &&& gssTokenFlagSentByAcceptor != 0

def validateGssSender (flags : UInt8) (expectFromAcceptor : Bool) : Except Error Unit :=
  ensure (sentByAcceptor flags = expectFromAcceptor)
    (.unexpectedGssTokenSender expectFromAcceptor (sentByAcceptor flags))

def etypeOfKey (key : EncryptionKey) : Except Error KerberosEtype :=
  okOr (KerberosEtype.fromEtypeId key.etype) (.unsupportedEtype key.etype)

section Rotation

def rotateRight (bytes : Bytes) (count : ℕ) : Bytes :=
  if bytes.isEmpty then []
  else
    let count := count % bytes.length
    if count = 0 then bytes
    else
      let split := bytes.length - count
      bytes.drop split ++ bytes.take split

def rotateLeft (bytes : Bytes) (count : ℕ) : Bytes :=
  if bytes.isEmpty then []
  else
    let count := count % bytes.length
    if count = 0 then bytes else bytes.drop count ++ bytes.take count

theorem rotateLeft_eq_rotate (bytes : Bytes) (count : ℕ) : rotateLeft bytes count = bytes.rotate count := by
  rw [rotateLeft]
  split
  · next h => simp [List.isEmpty_iff.mp h]
  · dsimp only
    split
    · next h => rw [← List.rotate_mod, h, List.rotate_zero]
    · rw [List.rotate_eq_drop_append_take_mod]

theorem rotateRight_eq_rotate (bytes : Bytes) (count : ℕ) :
    rotateRight bytes count = bytes.rotate (bytes.length - count % bytes.length) := by
  rw [rotateRight]
  split
  · next h => simp [List.isEmpty_iff.mp h]
  · dsimp only
    split
    · next h => rw [h, Nat.sub_zero, List.rotate_length]
    · rw [List.rotate_eq_drop_append_take (Nat.sub_le _ _)]

theorem rotateLeft_rotateRight (bytes : Bytes) (count : ℕ) :
    rotateLeft (rotateRight bytes count) count = bytes := by
  rcases Nat.eq_zero_or_pos bytes.length with h | h
  · rw [List.length_eq_zero_iff.mp h]
    rfl
  · have hlt := Nat.mod_lt count h
    have hsum : bytes.length - count % bytes.length + count =
        bytes.length * (count / bytes.length + 1) := by
      have hdiv := Nat.div_add_mod count bytes.length
      rw [Nat.mul_add, Nat.mul_one]
      omega
    rw [rotateLeft_eq_rotate, rotateRight_eq_rotate, List.rotate_rotate, hsum, List.rotate_length_mul]

@[simp] theorem length_rotateRight (bytes : Bytes) (count : ℕ) :
    (rotateRight bytes count).length = bytes.length := by
  rw [rotateRight_eq_rotate, List.length_rotate]

end Rotation

structure MicToken where
  flags : UInt8
  sndSeqNum : UInt64
  payload : Option Bytes
  checksum : Option Bytes
  deriving DecidableEq

namespace MicToken

def checksumHeader (self : MicToken) : Bytes :=
  tokIdGssMic ++ [self.flags] ++ gssMicFiller ++ u64ToBeBytes self.sndSeqNum

def decode (bytes : Bytes) (expectFromAcceptor : Bool) : Except Error MicToken := do
  ensure (gssMicHeaderLen ≤ bytes.length) (.gssTokenTooShort gssMicHeaderLen bytes.length)
  validateGssTokenId (bytes.take 2) tokIdGssMic
  let flags := bytes.getD 2 0
  validateGssSender flags expectFromAcceptor
  ensure ((bytes.take 8).drop 3 = gssMicFiller) .invalidGssFiller
  return {
    flags
    sndSeqNum := u64FromBeBytes ((bytes.take 16).drop 8)
    payload := none
    checksum := some (bytes.drop gssMicHeaderLen) }

def encode (self : MicToken) : Except Error Bytes := do
  let checksum ← okOr self.checksum .missingGssChecksum
  return self.checksumHeader ++ checksum

variable (P : Primitives)

def computeChecksum (self : MicToken) (key : EncryptionKey) (keyUsage : UInt32) : Except Error Bytes := do
  let payload ← okOr self.payload .missingGssPayload
  let etype ← etypeOfKey key
  (etype.checksum P key.value (payload ++ self.checksumHeader) keyUsage).mapError .crypto

def setChecksum (self : MicToken) (key : EncryptionKey) (keyUsage : UInt32) : Except Error Unit × MicToken :=
  if self.checksum.isSome then (.error .gssChecksumAlreadySet, self)
  else
    match self.computeChecksum P key keyUsage with
    | .error e => (.error e, self)
    | .ok checksum => (.ok (), { self with checksum := some checksum })

def verify (self : MicToken) (key : EncryptionKey) (keyUsage : UInt32) : Except Error Bool := do
  let expected ← self.computeChecksum P key keyUsage
  let actual ← okOr self.checksum .missingGssChecksum
  ensure (constantTimeEq expected actual = true) .gssChecksumMismatch
  return true

def newInitiator (payload : Bytes) (key : EncryptionKey) : Except Error MicToken := do
  let (result, token) := setChecksum P ⟨0, 0, some payload, none⟩ key gssapiInitiatorSignUsage
  result
  return token

end MicToken

def wrapHeader (flags : UInt8) (ec rrc : UInt16) (sndSeqNum : UInt64) : Bytes :=
  tokIdGssWrap ++ [flags] ++ [gssWrapFiller] ++ u16ToBeBytes ec ++ u16ToBeBytes rrc ++ u64ToBeBytes sndSeqNum

def wrapChecksumHeader (flags : UInt8) (sndSeqNum : UInt64) : Bytes := wrapHeader flags 0 0 sndSeqNum

structure WrapToken where
  flags : UInt8
  ec : UInt16
  rrc : UInt16
  sndSeqNum : UInt64
  payload : Option Bytes
  checksum : Option Bytes
  /-- The transmitted body of a sealed token, with its rotation. -/
  encryptedBody : Option Bytes
  deriving DecidableEq

namespace WrapToken

def isSealed (self : WrapToken) : Bool := self.flags &&& gssTokenFlagSealed != 0

def header (self : WrapToken) (rrc : UInt16) : Bytes := wrapHeader self.flags self.ec rrc self.sndSeqNum

def decode (bytes : Bytes) (expectFromAcceptor : Bool) : Except Error WrapToken := do
  ensure (gssWrapHeaderLen ≤ bytes.length) (.gssTokenTooShort gssWrapHeaderLen bytes.length)
  validateGssTokenId (bytes.take 2) tokIdGssWrap
  let flags := bytes.getD 2 0
  validateGssSender flags expectFromAcceptor
  ensure (bytes.getD 3 0 = gssWrapFiller) .invalidGssFiller
  let ec := u16FromBeBytes ((bytes.take 6).drop 4)
  let rrc := u16FromBeBytes ((bytes.take 8).drop 6)
  let sndSeqNum := u64FromBeBytes ((bytes.take 16).drop 8)
  if flags &&& gssTokenFlagSealed ≠ 0 then
    let encryptedBody := bytes.drop gssWrapHeaderLen
    ensure (encryptedBody ≠ []) .missingGssEncryptedBody
    return ⟨flags, ec, rrc, sndSeqNum, none, none, some encryptedBody⟩
  else
    let checksumLen := ec.toNat
    ensure (checksumLen ≤ bytes.length - gssWrapHeaderLen)
      (.inconsistentWrapChecksumLength bytes.length checksumLen)
    let checksumStart := bytes.length - checksumLen
    return ⟨flags, ec, rrc, sndSeqNum, some ((bytes.take checksumStart).drop gssWrapHeaderLen),
      some (bytes.drop checksumStart), none⟩

def encode (self : WrapToken) : Except Error Bytes :=
  if self.isSealed then do
    let encryptedBody ← okOr self.encryptedBody .missingGssEncryptedBody
    return self.header self.rrc ++ encryptedBody
  else do
    let payload ← okOr self.payload .missingGssPayload
    let checksum ← okOr self.checksum .missingGssChecksum
    ensure (checksum.length = self.ec.toNat) (.invalidGssChecksumLength self.ec.toNat checksum.length)
    return self.header self.rrc ++ payload ++ checksum

variable (P : Primitives)

def computeChecksum (self : WrapToken) (key : EncryptionKey) (keyUsage : UInt32) : Except Error Bytes := do
  let payload ← okOr self.payload .missingGssPayload
  let etype ← etypeOfKey key
  (etype.checksum P key.value (payload ++ wrapChecksumHeader self.flags self.sndSeqNum) keyUsage).mapError
    .crypto

def setChecksum (self : WrapToken) (key : EncryptionKey) (keyUsage : UInt32) :
    Except Error Unit × WrapToken :=
  if self.checksum.isSome then (.error .gssChecksumAlreadySet, self)
  else if self.isSealed then (.error .sealedGssTokenNeedsEncryption, self)
  else
    match self.computeChecksum P key keyUsage with
    | .error e => (.error e, self)
    | .ok checksum =>
      if self.ec = 0 then
        if checksum.length < 2 ^ 16 then
          (.ok (), { self with ec := UInt16.ofNat checksum.length, checksum := some checksum })
        else (.error (.invalidGssChecksumLength (2 ^ 16 - 1) checksum.length), self)
      else (.ok (), { self with checksum := some checksum })

/-- The token carries the sealed flag from here on, also when the encryption fails. -/
def encryptPayloadWithConfounder (self : WrapToken) (key : EncryptionKey) (keyUsage : UInt32)
    (confounder : Bytes) : Except Error Unit × WrapToken :=
  if self.encryptedBody.isSome then (.error .gssEncryptedBodyAlreadySet, self)
  else
    let self := { self with flags := self.flags ||| gssTokenFlagSealed }
    let encrypted : Except Error Bytes := do
      let payload ← okOr self.payload .missingGssPayload
      let etype ← etypeOfKey key
      let plaintext := payload ++ List.replicate self.ec.toNat 0 ++ self.header 0
      (etype.encryptMessageWithConfounder P key.value plaintext keyUsage confounder).mapError .crypto
    match encrypted with
    | .error e => (.error e, self)
    | .ok encrypted =>
      (.ok (), { self with encryptedBody := some (rotateRight encrypted self.rrc.toNat), checksum := none })

def decryptPayload (self : WrapToken) (key : EncryptionKey) (keyUsage : UInt32) : Except Error Bytes := do
  ensure (self.isSealed = true) .gssTokenNotSealed
  let encryptedBody ← okOr self.encryptedBody .missingGssEncryptedBody
  let encrypted := rotateLeft encryptedBody self.rrc.toNat
  let etype ← etypeOfKey key
  let plaintext ← (etype.decryptMessage P key.value encrypted keyUsage).mapError .crypto
  let trailerLen := gssWrapHeaderLen + self.ec.toNat
  ensure (trailerLen ≤ plaintext.length) (.gssDecryptedTokenTooShort trailerLen plaintext.length)
  let headerStart := plaintext.length - gssWrapHeaderLen
  ensure (plaintext.drop headerStart = self.header 0) .invalidGssEncryptedHeader
  return plaintext.take (plaintext.length - trailerLen)

def decryptAndSetPayload (self : WrapToken) (key : EncryptionKey) (keyUsage : UInt32) :
    Except Error Bytes × WrapToken :=
  match self.decryptPayload P key keyUsage with
  | .error e => (.error e, self)
  | .ok payload => (.ok payload, { self with payload := some payload })

def verify (self : WrapToken) (key : EncryptionKey) (keyUsage : UInt32) : Except Error Bool :=
  if self.isSealed then do
    let _ ← self.decryptPayload P key keyUsage
    return true
  else do
    let expected ← self.computeChecksum P key keyUsage
    let actual ← okOr self.checksum .missingGssChecksum
    ensure (constantTimeEq expected actual = true) .gssChecksumMismatch
    return true

def newInitiator (payload : Bytes) (key : EncryptionKey) : Except Error WrapToken := do
  let etype ← etypeOfKey key
  let (result, token) := setChecksum P ⟨0, UInt16.ofNat etype.hmacLen, 0, 0, some payload, none, none⟩ key
    gssapiInitiatorSealUsage
  result
  return token

end WrapToken

end Gss

end Rskrb5
