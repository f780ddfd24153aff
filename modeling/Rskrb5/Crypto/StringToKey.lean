import Rskrb5.Crypto.Sealing

namespace Rskrb5.Crypto

open Lib.Results

def hexValue (byte : UInt8) : Except Error UInt8 :=
  if 0x30 ≤ byte ∧ byte ≤ 0x39 then .ok (byte - 0x30)
  else if 0x61 ≤ byte ∧ byte ≤ 0x66 then .ok (byte - 0x61 + 10)
  else if 0x41 ≤ byte ∧ byte ≤ 0x46 then .ok (byte - 0x41 + 10)
  else .error (.invalidS2kParamsHex (Char.ofNat byte.toNat))

def hexPair (high low : UInt8) : Except Error UInt8 := do
  let high ← hexValue high
  let low ← hexValue low
  return (high <<< 4) ||| low

def hexPairs : Bytes → Except Error Bytes
  | high :: low :: rest => do
    let byte ← hexPair high low
    let bytes ← hexPairs rest
    return byte :: bytes
  | _ => .ok []

def s2kparamsToIterations (s2kparams : String) : Except Error UInt32 := do
  let text := asBytes s2kparams
  ensure (text.length = 8) (.invalidS2kParamsLength text.length)
  let bytes ← hexPairs text
  let iterations := UInt32.ofNat (beNat bytes)
  ensure (iterations ≠ 0) .unsupportedIterationCountZero
  return iterations

def utf16le (c : Char) : Bytes :=
  let unit (n : ℕ) : Bytes := [UInt8.ofNat n, UInt8.ofNat (n / 256)]
  if c.toNat < 0x10000 then unit c.toNat
  else unit (0xd800 + (c.toNat - 0x10000) / 0x400) ++ unit (0xdc00 + (c.toNat - 0x10000) % 0x400)

variable (P : Primitives)

def AesSha1Etype.defaultS2kparams (_ : AesSha1Etype) : String := "00001000"

def AesSha1Etype.stringToKey (self : AesSha1Etype) (secret salt : Bytes) (s2kparams : String) :
    Except Error Bytes := do
  let iterations ← s2kparamsToIterations s2kparams
  let tkey := P.pbkdf2Sha1 secret salt iterations self.keyLen
  self.deriveKey P tkey kerberosConstant

def AesSha2Etype.defaultS2kparams (_ : AesSha2Etype) : String := "00008000"

def AesSha2Etype.ename : AesSha2Etype → String
  | aes128 => "aes128-cts-hmac-sha256-128"
  | aes256 => "aes256-cts-hmac-sha384-192"

def AesSha2Etype.saltp (self : AesSha2Etype) (salt : Bytes) : Bytes := asBytes self.ename ++ [0] ++ salt

def AesSha2Etype.stringToPbkdf2 (self : AesSha2Etype) (secret salt : Bytes) (iterations : UInt32) : Bytes :=
  match self with
  | aes128 => P.pbkdf2Sha256 secret salt iterations self.keyLen
  | aes256 => P.pbkdf2Sha384 secret salt iterations self.keyLen

def AesSha2Etype.stringToKey (self : AesSha2Etype) (secret salt : Bytes) (s2kparams : String) :
    Except Error Bytes := do
  let iterations ← s2kparamsToIterations s2kparams
  let tkey := self.stringToPbkdf2 P secret (self.saltp salt) iterations
  self.deriveKey P tkey kerberosConstant

def Des3CbcSha1KdEtype.defaultS2kparams : String := ""

def Des3CbcSha1KdEtype.stringToKey (secret salt : Bytes) (s2kparams : String) : Except Error Bytes := do
  ensure (s2kparams = "") .nonEmptyDes3S2kParams
  let folded ← nfold (secret ++ salt) (des3SeedSize * 8)
  let tkey ← Des3CbcSha1KdEtype.randomToKey folded
  Des3CbcSha1KdEtype.deriveKey P tkey kerberosConstant

def Rc4HmacEtype.defaultS2kparams : String := ""

/-- The salt and the parameters are ignored. -/
def Rc4HmacEtype.stringToKey (secret _salt : Bytes) (_s2kparams : String) : Except Error Bytes := do
  let password ← okOr (fromUtf8 secret) .invalidStringToKeySecret
  return P.md4 (password.toList.flatMap utf16le)

namespace KerberosEtype

def fromChecksumTypeId (checksumTypeId : Int32) : Option KerberosEtype :=
  if checksumTypeId = 12 then some .des3CbcSha1Kd
  else if checksumTypeId = 15 then some (.sha1 .aes128)
  else if checksumTypeId = 16 then some (.sha1 .aes256)
  else if checksumTypeId = 19 then some (.sha2 .aes128)
  else if checksumTypeId = 20 then some (.sha2 .aes256)
  else if checksumTypeId = -138 then some .rc4Hmac
  else none

def verifyChecksum (self : KerberosEtype) (protocolKey data checksum : Bytes) (usage : UInt32) : Bool :=
  match self.checksum P protocolKey data usage with
  | .ok expected => constantTimeEq expected checksum
  | .error _ => false

def defaultS2kparams : KerberosEtype → String
  | sha1 etype => etype.defaultS2kparams
  | sha2 etype => etype.defaultS2kparams
  | des3CbcSha1Kd => Des3CbcSha1KdEtype.defaultS2kparams
  | rc4Hmac => Rc4HmacEtype.defaultS2kparams

def stringToKey (self : KerberosEtype) (secret salt : Bytes) (s2kparams : String) : Except Error Bytes :=
  match self with
  | sha1 etype => etype.stringToKey P secret salt s2kparams
  | sha2 etype => etype.stringToKey P secret salt s2kparams
  | des3CbcSha1Kd => Des3CbcSha1KdEtype.stringToKey P secret salt s2kparams
  | rc4Hmac => Rc4HmacEtype.stringToKey P secret salt s2kparams

theorem defaultS2kparams_accepted (self : KerberosEtype) :
    (∃ iterations, s2kparamsToIterations self.defaultS2kparams = .ok iterations) ∨
      self.defaultS2kparams = "" := by
  rcases self with e | e | _ | _
  · exact .inl ⟨0x1000, (by decide : s2kparamsToIterations "00001000" = _)⟩
  · exact .inl ⟨0x8000, (by decide : s2kparamsToIterations "00008000" = _)⟩
  · exact .inr rfl
  · exact .inr rfl

/-- Every key from a password has the length that its encryption type expects. -/
theorem length_of_stringToKey {self : KerberosEtype} {secret salt : Bytes} {s2kparams : String} {key : Bytes}
    (h : self.stringToKey P secret salt s2kparams = .ok key) : key.length = self.keyLen := by
  have hne : kerberosConstant ≠ [] := by decide
  rcases self with e | e | _ | _
  · simp only [stringToKey, AesSha1Etype.stringToKey, bind_eq_ok] at h
    obtain ⟨iterations, -, h⟩ := h
    obtain ⟨derived, hd, hl⟩ := e.deriveKey_ok P (P.length_pbkdf2Sha1 secret salt iterations e.keyLen) hne
    obtain rfl := Except.ok.inj (hd.symm.trans h)
    exact hl
  · simp only [stringToKey, AesSha2Etype.stringToKey, bind_eq_ok] at h
    obtain ⟨iterations, -, h⟩ := h
    have htkey : (e.stringToPbkdf2 P secret (e.saltp salt) iterations).length = e.keyLen := by
      cases e <;> simp [AesSha2Etype.stringToPbkdf2, P.length_pbkdf2Sha256, P.length_pbkdf2Sha384]
    have hbits : e.deriveKeyBits kerberosConstant = e.keyLen * 8 := by cases e <;> rfl
    rw [e.deriveKey_of_length P htkey hne, hbits] at h
    obtain rfl := Except.ok.inj h
    rw [e.length_kdfHmacSha2 P _ _ _ le_rfl, Nat.mul_div_cancel _ (by decide)]
    rfl
  · simp only [stringToKey, Des3CbcSha1KdEtype.stringToKey, bind_eq_ok] at h
    obtain ⟨-, -, folded, -, tkey, ht, h⟩ := h
    have hseed : folded.length = des3SeedSize := by
      by_contra hne
      simp [Des3CbcSha1KdEtype.randomToKey, des3RandomToKey, hne] at ht
    obtain ⟨tkey', ht', hl⟩ := des3RandomToKey_ok hseed
    obtain rfl := Except.ok.inj (ht'.symm.trans ht)
    obtain ⟨derived, hd, hdl⟩ := Des3CbcSha1KdEtype.deriveKey_ok P hl hne
    obtain rfl := Except.ok.inj (hd.symm.trans h)
    exact hdl
  · simp only [stringToKey, Rc4HmacEtype.stringToKey, bind_eq_ok, pure_eq_ok, Except.ok.injEq] at h
    obtain ⟨password, -, rfl⟩ := h
    exact P.length_md4 _

end KerberosEtype

end Rskrb5.Crypto
