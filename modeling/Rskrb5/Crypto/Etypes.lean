import Rskrb5.Crypto.Derivation
import Rskrb5.Lib.Results

namespace Rskrb5.Crypto

open Lib.Results

variable (P : Primitives)

/-- The key-length check that every encryption type starts with. -/
def validateKeyLen (expected : ℕ) (key : Bytes) : Except Error Unit :=
  ensure (key.length = expected) (.invalidKeyLength expected key.length)

def validateConfounderLen (expected : ℕ) (confounder : Bytes) : Except Error Unit :=
  ensure (confounder.length = expected) (.invalidConfounderLength expected confounder.length)

inductive AesSha1Etype
  | aes128
  | aes256
  deriving DecidableEq, Repr

namespace AesSha1Etype

def fromEtypeId (etypeId : Int32) : Option AesSha1Etype :=
  if etypeId = 17 then some aes128 else if etypeId = 18 then some aes256 else none

def etypeId : AesSha1Etype → Int32
  | aes128 => 17
  | aes256 => 18

def checksumTypeId : AesSha1Etype → Int32
  | aes128 => 15
  | aes256 => 16

def keyLen : AesSha1Etype → ℕ
  | aes128 => 16
  | aes256 => 32

def confounderLen (_ : AesSha1Etype) : ℕ := aesBlockSize

def hmacLen (_ : AesSha1Etype) : ℕ := hmacSha196Size

def validateKey (self : AesSha1Etype) (key : Bytes) : Except Error Unit :=
  validateKeyLen self.keyLen key

def encryptData (self : AesSha1Etype) (key plaintext : Bytes) : Except Error (Bytes × Bytes) := do
  self.validateKey key
  aesCtsEncrypt P key plaintext

def decryptData (self : AesSha1Etype) (key ciphertext : Bytes) : Except Error Bytes := do
  self.validateKey key
  aesCtsDecrypt P key ciphertext

def deriveRandom (self : AesSha1Etype) (protocolKey usage : Bytes) : Except Error Bytes := do
  self.validateKey protocolKey
  ensure (usage ≠ []) .emptyUsage
  let foldedUsage ← nfold usage (aesBlockSize * 8)
  let (_, block) ← self.encryptData P protocolKey foldedUsage
  deriveRandomLoop (self.encryptData P protocolKey) self.keyLen self.keyLen [] block

def deriveKey (self : AesSha1Etype) (protocolKey usage : Bytes) : Except Error Bytes := do
  self.validateKey protocolKey
  self.deriveRandom P protocolKey usage

def checksum (self : AesSha1Etype) (protocolKey data : Bytes) (usage : UInt32) :
    Except Error Bytes := do
  let key ← self.deriveKey P protocolKey (usageConstant usage 0x99)
  return hmacSha196 P key data

def encryptMessageWithConfounder (self : AesSha1Etype) (protocolKey message : Bytes)
    (usage : UInt32) (confounder : Bytes) : Except Error Bytes := do
  self.validateKey protocolKey
  validateConfounderLen self.confounderLen confounder
  let plain := confounder ++ message
  let encryptionKey ← self.deriveKey P protocolKey (usageConstant usage 0xaa)
  let (_, encrypted) ← self.encryptData P encryptionKey plain
  let integrityKey ← self.deriveKey P protocolKey (usageConstant usage 0x55)
  return encrypted ++ hmacSha196 P integrityKey plain

def decryptMessage (self : AesSha1Etype) (protocolKey ciphertext : Bytes) (usage : UInt32) :
    Except Error Bytes := do
  self.validateKey protocolKey
  ensure (self.hmacLen + self.confounderLen ≤ ciphertext.length)
    (.ciphertextTooShort (self.hmacLen + self.confounderLen) ciphertext.length)
  let encrypted := ciphertext.take (ciphertext.length - self.hmacLen)
  let mac := ciphertext.drop (ciphertext.length - self.hmacLen)
  let encryptionKey ← self.deriveKey P protocolKey (usageConstant usage 0xaa)
  let plain ← self.decryptData P encryptionKey encrypted
  ensure (self.confounderLen ≤ plain.length) (.plaintextTooShort self.confounderLen plain.length)
  let integrityKey ← self.deriveKey P protocolKey (usageConstant usage 0x55)
  ensure (constantTimeEq (hmacSha196 P integrityKey plain) mac = true) .integrityCheckFailed
  return plain.drop self.confounderLen

end AesSha1Etype

inductive AesSha2Etype
  | aes128
  | aes256
  deriving DecidableEq, Repr

namespace AesSha2Etype

def fromEtypeId (etypeId : Int32) : Option AesSha2Etype :=
  if etypeId = 19 then some aes128 else if etypeId = 20 then some aes256 else none

def etypeId : AesSha2Etype → Int32
  | aes128 => 19
  | aes256 => 20

def checksumTypeId : AesSha2Etype → Int32
  | aes128 => 19
  | aes256 => 20

def keyLen : AesSha2Etype → ℕ
  | aes128 => 16
  | aes256 => 32

def confounderLen (_ : AesSha2Etype) : ℕ := aesBlockSize

def hmacLen : AesSha2Etype → ℕ
  | aes128 => hmacSha256128Size
  | aes256 => hmacSha384192Size

def validateProtocolKey (self : AesSha2Etype) (key : Bytes) : Except Error Unit :=
  validateKeyLen self.keyLen key

def validateEncryptKey (self : AesSha2Etype) (key : Bytes) : Except Error Unit :=
  self.validateProtocolKey key

def deriveKeyBits (self : AesSha2Etype) (label : Bytes) : ℕ :=
  match self with
  | aes128 => 128
  | aes256 =>
    if label = kerberosConstant then 256 else if label.getLast? = some 0xaa then 256 else 192

def kdfHmacSha2 (self : AesSha2Etype) (protocolKey label context : Bytes) (outputBits : ℕ) : Bytes :=
  let input := u32ToBeBytes 1 ++ label ++ [0] ++ context ++ u32ToBeBytes (UInt32.ofNat outputBits)
  let output :=
    match self with
    | aes128 => P.hmacSha256 protocolKey input
    | aes256 => P.hmacSha384 protocolKey input
  output.take (outputBits / 8)

def deriveKey (self : AesSha2Etype) (protocolKey label : Bytes) : Except Error Bytes := do
  self.validateProtocolKey protocolKey
  ensure (label ≠ []) .emptyUsage
  return self.kdfHmacSha2 P protocolKey label [] (self.deriveKeyBits label)

def truncatedHmac (self : AesSha2Etype) (key data : Bytes) : Bytes :=
  match self with
  | aes128 => (P.hmacSha256 key data).take self.hmacLen
  | aes256 => (P.hmacSha384 key data).take self.hmacLen

def integrityHash (self : AesSha2Etype) (protocolKey : Bytes) (usage : UInt32) (encrypted : Bytes) :
    Except Error Bytes := do
  let integrityKey ← self.deriveKey P protocolKey (usageConstant usage 0x55)
  return self.truncatedHmac P integrityKey (zeros aesBlockSize ++ encrypted)

def checksum (self : AesSha2Etype) (protocolKey data : Bytes) (usage : UInt32) :
    Except Error Bytes := do
  let key ← self.deriveKey P protocolKey (usageConstant usage 0x99)
  return self.truncatedHmac P key data

def encryptData (self : AesSha2Etype) (key plaintext : Bytes) : Except Error (Bytes × Bytes) := do
  self.validateEncryptKey key
  aesCtsEncrypt P key plaintext

def decryptData (self : AesSha2Etype) (key ciphertext : Bytes) : Except Error Bytes := do
  self.validateEncryptKey key
  aesCtsDecrypt P key ciphertext

def encryptMessageWithConfounder (self : AesSha2Etype) (protocolKey message : Bytes)
    (usage : UInt32) (confounder : Bytes) : Except Error Bytes := do
  self.validateProtocolKey protocolKey
  validateConfounderLen self.confounderLen confounder
  let plain := confounder ++ message
  let encryptionKey ← self.deriveKey P protocolKey (usageConstant usage 0xaa)
  let (_, encrypted) ← self.encryptData P encryptionKey plain
  let mac ← self.integrityHash P protocolKey usage encrypted
  return encrypted ++ mac

def decryptMessage (self : AesSha2Etype) (protocolKey ciphertext : Bytes) (usage : UInt32) :
    Except Error Bytes := do
  self.validateProtocolKey protocolKey
  ensure (self.hmacLen + self.confounderLen ≤ ciphertext.length)
    (.ciphertextTooShort (self.hmacLen + self.confounderLen) ciphertext.length)
  let encrypted := ciphertext.take (ciphertext.length - self.hmacLen)
  let mac := ciphertext.drop (ciphertext.length - self.hmacLen)
  let encryptionKey ← self.deriveKey P protocolKey (usageConstant usage 0xaa)
  let plain ← self.decryptData P encryptionKey encrypted
  ensure (self.confounderLen ≤ plain.length) (.plaintextTooShort self.confounderLen plain.length)
  let expected ← self.integrityHash P protocolKey usage encrypted
  ensure (constantTimeEq expected mac = true) .integrityCheckFailed
  return plain.drop self.confounderLen

end AesSha2Etype

namespace Des3CbcSha1KdEtype

def etypeId : Int32 := 16
def checksumTypeId : Int32 := 12
def keyLen : ℕ := des3KeySize
def confounderLen : ℕ := des3BlockSize
def hmacLen : ℕ := hmacSha1Size

def validateKey (key : Bytes) : Except Error Unit := validateKeyLen keyLen key

def randomToKey (bytes : Bytes) : Except Error Bytes := des3RandomToKey bytes

def encryptData (key plaintext : Bytes) : Except Error (Bytes × Bytes) := do
  validateKey key
  des3CbcEncrypt P key plaintext

def decryptData (key ciphertext : Bytes) : Except Error Bytes := do
  validateKey key
  des3CbcDecrypt P key ciphertext

def deriveRandom (protocolKey usage : Bytes) : Except Error Bytes := do
  validateKey protocolKey
  ensure (usage ≠ []) .emptyUsage
  let foldedUsage ← nfold usage (des3BlockSize * 8)
  let (_, block) ← encryptData P protocolKey foldedUsage
  deriveRandomLoop (encryptData P protocolKey) des3SeedSize des3SeedSize [] block

def deriveKey (protocolKey usage : Bytes) : Except Error Bytes := do
  let random ← deriveRandom P protocolKey usage
  randomToKey random

def checksum (protocolKey data : Bytes) (usage : UInt32) : Except Error Bytes := do
  let key ← deriveKey P protocolKey (usageConstant usage 0x99)
  return P.hmacSha1 key data

def encryptMessageWithConfounder (protocolKey message : Bytes) (usage : UInt32)
    (confounder : Bytes) : Except Error Bytes := do
  validateKey protocolKey
  validateConfounderLen confounderLen confounder
  let plain := zeroPad (confounder ++ message) des3BlockSize
  let encryptionKey ← deriveKey P protocolKey (usageConstant usage 0xaa)
  let (_, encrypted) ← encryptData P encryptionKey plain
  let integrityKey ← deriveKey P protocolKey (usageConstant usage 0x55)
  return encrypted ++ P.hmacSha1 integrityKey plain

def decryptMessage (protocolKey ciphertext : Bytes) (usage : UInt32) : Except Error Bytes := do
  validateKey protocolKey
  ensure (hmacLen + confounderLen ≤ ciphertext.length)
    (.ciphertextTooShort (hmacLen + confounderLen) ciphertext.length)
  let encrypted := ciphertext.take (ciphertext.length - hmacLen)
  let mac := ciphertext.drop (ciphertext.length - hmacLen)
  let encryptionKey ← deriveKey P protocolKey (usageConstant usage 0xaa)
  let plain ← decryptData P encryptionKey encrypted
  ensure (confounderLen ≤ plain.length) (.plaintextTooShort confounderLen plain.length)
  let integrityKey ← deriveKey P protocolKey (usageConstant usage 0x55)
  ensure (constantTimeEq (P.hmacSha1 integrityKey plain) mac = true) .integrityCheckFailed
  return plain.drop confounderLen

end Des3CbcSha1KdEtype

def kerbChecksumHmacMd5 (protocolKey data : Bytes) (usage : UInt32) : Bytes :=
  let signingKey := P.hmacMd5 protocolKey (asBytes "signaturekey" ++ [0])
  P.hmacMd5 signingKey (P.md5 (rc4HmacUsageToMsMsgType usage ++ data))

namespace Rc4HmacEtype

def etypeId : Int32 := 23
def checksumTypeId : Int32 := -138
def keyLen : ℕ := rc4HmacKeySize
def confounderLen : ℕ := rc4HmacConfounderSize
def hmacLen : ℕ := hmacMd5Size

def validateKey (key : Bytes) : Except Error Unit := validateKeyLen keyLen key

def checksum (protocolKey data : Bytes) (usage : UInt32) : Except Error Bytes := do
  validateKey protocolKey
  return kerbChecksumHmacMd5 P protocolKey data usage

def encryptMessageWithConfounder (protocolKey message : Bytes) (usage : UInt32)
    (confounder : Bytes) : Except Error Bytes := do
  validateKey protocolKey
  validateConfounderLen confounderLen confounder
  let plain := confounder ++ message
  let usageKey := P.hmacMd5 protocolKey (rc4HmacUsageToMsMsgType usage)
  let checksum := P.hmacMd5 usageKey plain
  let encryptionKey := P.hmacMd5 usageKey checksum
  let encrypted ← rc4HmacCrypt P encryptionKey plain
  return checksum ++ encrypted

def decryptMessage (protocolKey ciphertext : Bytes) (usage : UInt32) : Except Error Bytes := do
  validateKey protocolKey
  ensure (hmacLen + confounderLen ≤ ciphertext.length)
    (.ciphertextTooShort (hmacLen + confounderLen) ciphertext.length)
  let checksum := ciphertext.take hmacLen
  let encrypted := ciphertext.drop hmacLen
  let usageKey := P.hmacMd5 protocolKey (rc4HmacUsageToMsMsgType usage)
  let encryptionKey := P.hmacMd5 usageKey checksum
  let plain ← rc4HmacCrypt P encryptionKey encrypted
  ensure (confounderLen ≤ plain.length) (.plaintextTooShort confounderLen plain.length)
  ensure (constantTimeEq (P.hmacMd5 usageKey plain) checksum = true) .integrityCheckFailed
  return plain.drop confounderLen

end Rc4HmacEtype

inductive KerberosEtype
  | sha1 (etype : AesSha1Etype)
  | sha2 (etype : AesSha2Etype)
  | des3CbcSha1Kd
  | rc4Hmac
  deriving DecidableEq, Repr

namespace KerberosEtype

def fromEtypeId (etypeId : Int32) : Option KerberosEtype :=
  (AesSha1Etype.fromEtypeId etypeId).map sha1
    |>.or ((AesSha2Etype.fromEtypeId etypeId).map sha2)
    |>.or (if etypeId = 16 then some des3CbcSha1Kd else none)
    |>.or (if etypeId = 23 then some rc4Hmac else none)

def etypeId : KerberosEtype → Int32
  | sha1 etype => etype.etypeId
  | sha2 etype => etype.etypeId
  | des3CbcSha1Kd => Des3CbcSha1KdEtype.etypeId
  | rc4Hmac => Rc4HmacEtype.etypeId

def checksumTypeId : KerberosEtype → Int32
  | sha1 etype => etype.checksumTypeId
  | sha2 etype => etype.checksumTypeId
  | des3CbcSha1Kd => Des3CbcSha1KdEtype.checksumTypeId
  | rc4Hmac => Rc4HmacEtype.checksumTypeId

def keyLen : KerberosEtype → ℕ
  | sha1 etype => etype.keyLen
  | sha2 etype => etype.keyLen
  | des3CbcSha1Kd => Des3CbcSha1KdEtype.keyLen
  | rc4Hmac => Rc4HmacEtype.keyLen

def confounderLen : KerberosEtype → ℕ
  | sha1 etype => etype.confounderLen
  | sha2 etype => etype.confounderLen
  | des3CbcSha1Kd => Des3CbcSha1KdEtype.confounderLen
  | rc4Hmac => Rc4HmacEtype.confounderLen

def hmacLen : KerberosEtype → ℕ
  | sha1 etype => etype.hmacLen
  | sha2 etype => etype.hmacLen
  | des3CbcSha1Kd => Des3CbcSha1KdEtype.hmacLen
  | rc4Hmac => Rc4HmacEtype.hmacLen

def checksum (self : KerberosEtype) (protocolKey data : Bytes) (usage : UInt32) :
    Except Error Bytes :=
  match self with
  | sha1 etype => etype.checksum P protocolKey data usage
  | sha2 etype => etype.checksum P protocolKey data usage
  | des3CbcSha1Kd => Des3CbcSha1KdEtype.checksum P protocolKey data usage
  | rc4Hmac => Rc4HmacEtype.checksum P protocolKey data usage

def encryptMessageWithConfounder (self : KerberosEtype) (protocolKey message : Bytes)
    (usage : UInt32) (confounder : Bytes) : Except Error Bytes :=
  match self with
  | sha1 etype => etype.encryptMessageWithConfounder P protocolKey message usage confounder
  | sha2 etype => etype.encryptMessageWithConfounder P protocolKey message usage confounder
  | des3CbcSha1Kd =>
    Des3CbcSha1KdEtype.encryptMessageWithConfounder P protocolKey message usage confounder
  | rc4Hmac => Rc4HmacEtype.encryptMessageWithConfounder P protocolKey message usage confounder

def decryptMessage (self : KerberosEtype) (protocolKey ciphertext : Bytes) (usage : UInt32) :
    Except Error Bytes :=
  match self with
  | sha1 etype => etype.decryptMessage P protocolKey ciphertext usage
  | sha2 etype => etype.decryptMessage P protocolKey ciphertext usage
  | des3CbcSha1Kd => Des3CbcSha1KdEtype.decryptMessage P protocolKey ciphertext usage
  | rc4Hmac => Rc4HmacEtype.decryptMessage P protocolKey ciphertext usage

theorem confounderLen_pos (self : KerberosEtype) : 0 < self.confounderLen := by
  cases self <;> simp [confounderLen, AesSha1Etype.confounderLen, AesSha2Etype.confounderLen,
    Des3CbcSha1KdEtype.confounderLen, Rc4HmacEtype.confounderLen, aesBlockSize, des3BlockSize,
    rc4HmacConfounderSize]

@[simp] theorem fromEtypeId_etypeId (self : KerberosEtype) : fromEtypeId self.etypeId = some self := by
  cases self with
  | sha1 e => cases e <;> rfl
  | sha2 e => cases e <;> rfl
  | des3CbcSha1Kd => rfl
  | rc4Hmac => rfl

theorem fromEtypeId_eq_some {id : Int32} {e : KerberosEtype} : fromEtypeId id = some e ↔ id = e.etypeId := by
  refine ⟨fun h ↦ ?_, fun h ↦ h ▸ fromEtypeId_etypeId e⟩
  by_contra hne
  have hno : ∀ e' : KerberosEtype, id ≠ e'.etypeId := by
    intro e' heq
    subst heq
    rw [fromEtypeId_etypeId] at h
    exact hne (Option.some.inj h ▸ rfl)
  have h17 : id ≠ 17 := hno (.sha1 .aes128)
  have h18 : id ≠ 18 := hno (.sha1 .aes256)
  have h19 : id ≠ 19 := hno (.sha2 .aes128)
  have h20 : id ≠ 20 := hno (.sha2 .aes256)
  have h16 : id ≠ 16 := hno .des3CbcSha1Kd
  have h23 : id ≠ 23 := hno .rc4Hmac
  simp [fromEtypeId, AesSha1Etype.fromEtypeId, AesSha2Etype.fromEtypeId, h16, h17, h18, h19, h20, h23] at h

end KerberosEtype

end Rskrb5.Crypto
