import Rskrb5.Crypto.Etypes

namespace Rskrb5.Crypto

open Lib.Results Lib.BlockModes

variable (P : Primitives)

/-- A relation between plaintexts with their confounder and ciphertexts that an encryption
and a decryption both follow; `pad` is what the encryption does to the message. -/
structure Sealing (n : ℕ) (pad : Bytes → Bytes) (encrypt : Bytes → Bytes → Except Error Bytes)
    (decrypt : Bytes → Except Error Bytes) where
  rel : Bytes → Bytes → Prop
  encrypt_iff : ∀ message confounder ciphertext, encrypt message confounder = .ok ciphertext ↔
    confounder.length = n ∧ rel (confounder ++ pad message) ciphertext
  decrypt_iff : ∀ message ciphertext, decrypt ciphertext = .ok message ↔
    ∃ confounder, confounder.length = n ∧ rel (confounder ++ message) ciphertext
  total : ∀ message confounder, confounder.length = n →
    ∃ ciphertext, rel (confounder ++ pad message) ciphertext
  pad_of_rel : ∀ message confounder ciphertext, confounder.length = n →
    rel (confounder ++ message) ciphertext → pad message = message

namespace Sealing

variable {n : ℕ} {pad : Bytes → Bytes} {encrypt : Bytes → Bytes → Except Error Bytes}
  {decrypt : Bytes → Except Error Bytes} (S : Sealing n pad encrypt decrypt)

include S

theorem decrypt_of_encrypt {message confounder ciphertext : Bytes}
    (h : encrypt message confounder = .ok ciphertext) : decrypt ciphertext = .ok (pad message) := by
  obtain ⟨hc, hr⟩ := (S.encrypt_iff _ _ _).mp h
  exact (S.decrypt_iff _ _).mpr ⟨confounder, hc, hr⟩

theorem encrypt_of_decrypt {message ciphertext : Bytes} (h : decrypt ciphertext = .ok message) :
    pad message = message ∧
      ∃ confounder, confounder.length = n ∧ encrypt message confounder = .ok ciphertext := by
  obtain ⟨confounder, hc, hr⟩ := (S.decrypt_iff _ _).mp h
  have hp := S.pad_of_rel _ _ _ hc hr
  refine ⟨hp, confounder, hc, (S.encrypt_iff _ _ _).mpr ⟨hc, ?_⟩⟩
  rw [hp]
  exact hr

theorem encrypt_total (message : Bytes) {confounder : Bytes} (hc : confounder.length = n) :
    ∃ ciphertext, encrypt message confounder = .ok ciphertext := by
  obtain ⟨ciphertext, hr⟩ := S.total message confounder hc
  exact ⟨ciphertext, (S.encrypt_iff _ _ _).mpr ⟨hc, hr⟩⟩

end Sealing

/-- A cipher with a code of `h` bytes behind it. `whole` holds of the plaintexts that the
cipher takes as they are. -/
structure MacParts (n h : ℕ) (pad : Bytes → Bytes) where
  enc : Bytes → Except Error (Bytes × Bytes)
  dec : Bytes → Except Error Bytes
  mac : Bytes → Bytes → Bytes
  whole : Bytes → Prop
  length_mac : ∀ plain x, (mac plain x).length = h
  dec_of_whole : ∀ plain, whole plain → ∃ iv x, enc plain = .ok (iv, x) ∧ dec x = .ok plain ∧ n ≤ x.length
  enc_of_dec : ∀ x plain, n ≤ x.length → dec x = .ok plain → whole plain ∧ ∃ iv, enc plain = .ok (iv, x)
  le_of_whole : ∀ plain, whole plain → n ≤ plain.length
  whole_pad : ∀ message confounder, confounder.length = n → whole (confounder ++ pad message)
  pad_of_whole : ∀ message confounder, confounder.length = n → whole (confounder ++ message) →
    pad message = message

namespace MacParts

variable {n h : ℕ} {pad : Bytes → Bytes} (M : MacParts n h pad)

def encrypt (message confounder : Bytes) : Except Error Bytes := do
  validateConfounderLen n confounder
  let plain := confounder ++ pad message
  let (_, encrypted) ← M.enc plain
  return encrypted ++ M.mac plain encrypted

def decrypt (ciphertext : Bytes) : Except Error Bytes := do
  ensure (h + n ≤ ciphertext.length) (.ciphertextTooShort (h + n) ciphertext.length)
  let encrypted := ciphertext.take (ciphertext.length - h)
  let plain ← M.dec encrypted
  ensure (n ≤ plain.length) (.plaintextTooShort n plain.length)
  ensure (constantTimeEq (M.mac plain encrypted) (ciphertext.drop (ciphertext.length - h)) = true)
    .integrityCheckFailed
  return plain.drop n

def rel (plain ciphertext : Bytes) : Prop :=
  M.whole plain ∧ ∃ iv x, M.enc plain = .ok (iv, x) ∧ ciphertext = x ++ M.mac plain x

theorem encrypt_iff (message confounder ciphertext : Bytes) :
    M.encrypt message confounder = .ok ciphertext ↔
      confounder.length = n ∧ M.rel (confounder ++ pad message) ciphertext := by
  simp only [encrypt, rel, bind_eq_ok, validateConfounderLen, ensure_eq_ok, pure_eq_ok, Except.ok.injEq,
    exists_const, Prod.exists]
  constructor
  · intro h
    obtain ⟨hc, iv, x, he, rfl⟩ := h
    exact ⟨hc, M.whole_pad _ _ hc, iv, x, he, rfl⟩
  · intro h
    obtain ⟨hc, -, iv, x, he, rfl⟩ := h
    exact ⟨hc, iv, x, he, rfl⟩

theorem decrypt_iff (message ciphertext : Bytes) : M.decrypt ciphertext = .ok message ↔
    ∃ confounder, confounder.length = n ∧ M.rel (confounder ++ message) ciphertext := by
  simp only [decrypt, rel, bind_eq_ok, ensure_eq_ok, pure_eq_ok, Except.ok.injEq, exists_const,
    constantTimeEq_iff]
  constructor
  · intro h
    obtain ⟨hl, plain, hd, hn, hm, rfl⟩ := h
    have hx : n ≤ (ciphertext.take (ciphertext.length - h)).length := by
      rw [List.length_take]; omega
    obtain ⟨hw, iv, he⟩ := M.enc_of_dec _ _ hx hd
    refine ⟨plain.take n, by rw [List.length_take]; omega, ?_⟩
    rw [List.take_append_drop]
    exact ⟨hw, iv, _, he, by rw [hm, List.take_append_drop]⟩
  · intro h
    obtain ⟨confounder, hc, hw, iv, x, he, rfl⟩ := h
    obtain ⟨iv', x', he', hd, hx⟩ := M.dec_of_whole _ hw
    obtain ⟨rfl, rfl⟩ := Prod.mk.inj (Except.ok.inj (he.symm.trans he'))
    have hml := M.length_mac (confounder ++ message) x
    have hlen : (x ++ M.mac (confounder ++ message) x).length - h = x.length := by
      rw [List.length_append]; omega
    refine ⟨by rw [List.length_append]; omega, confounder ++ message, ?_, M.le_of_whole _ hw, ?_, ?_⟩
    · rw [hlen, List.take_left]
      exact hd
    · rw [hlen, List.take_left, List.drop_left]
    · exact List.drop_left' hc

def sealing : Sealing n pad M.encrypt M.decrypt where
  rel := M.rel
  encrypt_iff := M.encrypt_iff
  decrypt_iff := M.decrypt_iff
  total message confounder hc := by
    have hw := M.whole_pad message confounder hc
    obtain ⟨iv, x, he, -, -⟩ := M.dec_of_whole _ hw
    exact ⟨_, hw, iv, x, he, rfl⟩
  pad_of_rel message confounder _ hc hr := M.pad_of_whole message confounder hc hr.1

end MacParts

theorem usageConstant_ne_nil (usage : UInt32) (suffix : UInt8) : usageConstant usage suffix ≠ [] := by
  simp [usageConstant]

@[simp] theorem validateKeyLen_eq_ok {n : ℕ} {key : Bytes} {u : Unit} :
    validateKeyLen n key = .ok u ↔ key.length = n := ensure_eq_ok

theorem validateKeyLen_of_length {n : ℕ} {key : Bytes} (h : key.length = n) :
    validateKeyLen n key = .ok () := ensure_of h _

def aesParts {key : Bytes} (hk : key.length = 16 ∨ key.length = 32) {h : ℕ}
    (mac : Bytes → Bytes → Bytes) (hm : ∀ plain x, (mac plain x).length = h) :
    MacParts aesBlockSize h id where
  enc := aesCtsEncrypt P key
  dec := aesCtsDecrypt P key
  mac := mac
  whole plain := aesBlockSize ≤ plain.length
  length_mac := hm
  dec_of_whole plain hw := by
    obtain ⟨iv, x, he, hl, hd⟩ := aesCtsDecrypt_aesCtsEncrypt P hk hw
    exact ⟨iv, x, he, hd, by omega⟩
  enc_of_dec x plain hx hd := by
    obtain ⟨iv, p, hd', hl, he⟩ := aesCtsEncrypt_aesCtsDecrypt P hk hx
    obtain rfl := Except.ok.inj (hd.symm.trans hd')
    exact ⟨by omega, iv, he⟩
  le_of_whole _ hw := hw
  whole_pad message confounder hc := by simp [hc]
  pad_of_whole _ _ _ _ := rfl

section AesSha1

variable (e : AesSha1Etype)

theorem AesSha1Etype.keyLen_cases : e.keyLen = 16 ∨ e.keyLen = 32 := by
  cases e <;> simp [AesSha1Etype.keyLen]

theorem AesSha1Etype.encryptData_of_length {key : Bytes} (hk : key.length = e.keyLen) :
    e.encryptData P key = aesCtsEncrypt P key := by
  funext plaintext
  simp [AesSha1Etype.encryptData, AesSha1Etype.validateKey, validateKeyLen, ensure, hk]

theorem AesSha1Etype.decryptData_of_length {key : Bytes} (hk : key.length = e.keyLen) :
    e.decryptData P key = aesCtsDecrypt P key := by
  funext ciphertext
  simp [AesSha1Etype.decryptData, AesSha1Etype.validateKey, validateKeyLen, ensure, hk]

theorem AesSha1Etype.deriveKey_ok {key usage : Bytes} (hk : key.length = e.keyLen)
    (hu : usage ≠ []) : ∃ derived, e.deriveKey P key usage = .ok derived ∧
      derived.length = e.keyLen := by
  have hk' : key.length = 16 ∨ key.length = 32 := hk ▸ e.keyLen_cases
  obtain ⟨folded, hf, hl⟩ := nfold_ok hu (by decide : 0 < aesBlockSize)
  have henc : ∀ b : Bytes, b.length = aesBlockSize →
      ∃ iv c, aesCtsEncrypt P key b = .ok (iv, c) ∧ c.length = aesBlockSize := by
    intro b hb
    obtain ⟨iv, c, he, hc, -⟩ := aesCtsDecrypt_aesCtsEncrypt P hk' hb.ge
    exact ⟨iv, c, he, hc.trans hb⟩
  obtain ⟨iv, block, hb, hbl⟩ := henc folded hl
  obtain ⟨derived, hd, hdl⟩ := deriveRandomLoop_ok (by decide) henc e.keyLen hbl
  refine ⟨derived, ?_, hdl⟩
  simp [AesSha1Etype.deriveKey, AesSha1Etype.deriveRandom, AesSha1Etype.validateKey, hk, hu, hf,
    e.encryptData_of_length P hk, hb, hd]

@[simp] theorem length_hmacSha196 (key data : Bytes) :
    (hmacSha196 P key data).length = hmacSha196Size := by
  simp [hmacSha196, P.length_hmacSha1, hmacSha196Size]

theorem AesSha1Etype.exists_parts {key : Bytes} (hk : key.length = e.keyLen) (usage : UInt32) :
    ∃ M : MacParts e.confounderLen e.hmacLen id,
      (fun message confounder ↦ e.encryptMessageWithConfounder P key message usage confounder) =
        M.encrypt ∧ (fun ciphertext ↦ e.decryptMessage P key ciphertext usage) = M.decrypt := by
  obtain ⟨ke, he, hke⟩ := e.deriveKey_ok P hk (usageConstant_ne_nil usage 0xaa)
  obtain ⟨ki, hi, -⟩ := e.deriveKey_ok P hk (usageConstant_ne_nil usage 0x55)
  have hke' : ke.length = 16 ∨ ke.length = 32 := hke ▸ e.keyLen_cases
  refine ⟨aesParts P hke' (fun plain _ ↦ hmacSha196 P ki plain) (fun plain _ ↦ length_hmacSha196 P ki plain),
    ?_, ?_⟩
  · funext message confounder
    simp only [AesSha1Etype.encryptMessageWithConfounder, AesSha1Etype.validateKey,
      validateKeyLen_of_length hk, ok_bind, he, hi, e.encryptData_of_length P hke]
    rfl
  · funext ciphertext
    simp only [AesSha1Etype.decryptMessage, AesSha1Etype.validateKey, validateKeyLen_of_length hk,
      ok_bind, he, hi, e.decryptData_of_length P hke]
    rfl

end AesSha1

section AesSha2

variable (e : AesSha2Etype)

theorem AesSha2Etype.keyLen_cases : e.keyLen = 16 ∨ e.keyLen = 32 := by
  cases e <;> simp [AesSha2Etype.keyLen]

theorem AesSha2Etype.deriveKeyBits_encryption (usage : UInt32) :
    e.deriveKeyBits (usageConstant usage 0xaa) = e.keyLen * 8 := by
  cases e <;> simp [AesSha2Etype.deriveKeyBits, AesSha2Etype.keyLen, usageConstant]

theorem AesSha2Etype.length_kdfHmacSha2 (key label context : Bytes) {bits : ℕ}
    (h : bits ≤ e.keyLen * 8) :
    (e.kdfHmacSha2 P key label context bits).length = bits / 8 := by
  cases e <;> simp only [AesSha2Etype.keyLen] at h <;>
    simp only [AesSha2Etype.kdfHmacSha2, List.length_take, P.length_hmacSha256,
      P.length_hmacSha384] <;> omega

theorem AesSha2Etype.deriveKey_of_length {key label : Bytes} (hk : key.length = e.keyLen)
    (hl : label ≠ []) :
    e.deriveKey P key label = .ok (e.kdfHmacSha2 P key label [] (e.deriveKeyBits label)) := by
  simp [AesSha2Etype.deriveKey, AesSha2Etype.validateProtocolKey, hk, hl]

theorem AesSha2Etype.length_truncatedHmac (key data : Bytes) :
    (e.truncatedHmac P key data).length = e.hmacLen := by
  cases e <;> simp [AesSha2Etype.truncatedHmac, AesSha2Etype.hmacLen, P.length_hmacSha256,
    P.length_hmacSha384, hmacSha256128Size, hmacSha384192Size]

theorem AesSha2Etype.exists_parts {key : Bytes} (hk : key.length = e.keyLen) (usage : UInt32) :
    ∃ M : MacParts e.confounderLen e.hmacLen id,
      (fun message confounder ↦ e.encryptMessageWithConfounder P key message usage confounder) =
        M.encrypt ∧ (fun ciphertext ↦ e.decryptMessage P key ciphertext usage) = M.decrypt := by
  have hE := e.deriveKey_of_length P hk (usageConstant_ne_nil usage 0xaa)
  have hI := e.deriveKey_of_length P hk (usageConstant_ne_nil usage 0x55)
  rw [e.deriveKeyBits_encryption usage] at hE
  set ke := e.kdfHmacSha2 P key (usageConstant usage 0xaa) [] (e.keyLen * 8) with hked
  set ki := e.kdfHmacSha2 P key (usageConstant usage 0x55) [] (e.deriveKeyBits (usageConstant usage 0x55))
  have hke : ke.length = e.keyLen := by
    rw [hked, e.length_kdfHmacSha2 P _ _ _ (Nat.le_refl _), Nat.mul_div_cancel _ (by decide)]
  have hke' : ke.length = 16 ∨ ke.length = 32 := hke ▸ e.keyLen_cases
  refine ⟨aesParts P hke' (fun _ x ↦ e.truncatedHmac P ki (zeros aesBlockSize ++ x))
    (fun _ x ↦ e.length_truncatedHmac P ki _), ?_, ?_⟩
  · funext message confounder
    simp only [AesSha2Etype.encryptMessageWithConfounder, AesSha2Etype.validateProtocolKey,
      validateKeyLen_of_length hk, ok_bind, hE, AesSha2Etype.integrityHash, hI, pure_eq_ok,
      AesSha2Etype.encryptData, AesSha2Etype.validateEncryptKey, validateKeyLen_of_length hke]
    rfl
  · funext ciphertext
    simp only [AesSha2Etype.decryptMessage, AesSha2Etype.validateProtocolKey,
      validateKeyLen_of_length hk, ok_bind, hE, AesSha2Etype.integrityHash, hI, pure_eq_ok,
      AesSha2Etype.decryptData, AesSha2Etype.validateEncryptKey, validateKeyLen_of_length hke]
    rfl

end AesSha2

namespace Des3CbcSha1KdEtype

theorem encryptData_of_length {key : Bytes} (hk : key.length = keyLen) :
    encryptData P key = des3CbcEncrypt P key := by
  funext plaintext
  simp only [encryptData, validateKey, validateKeyLen_of_length hk, ok_bind]

theorem decryptData_of_length {key : Bytes} (hk : key.length = keyLen) :
    decryptData P key = des3CbcDecrypt P key := by
  funext ciphertext
  simp only [decryptData, validateKey, validateKeyLen_of_length hk, ok_bind]

theorem deriveKey_ok {key usage : Bytes} (hk : key.length = keyLen) (hu : usage ≠ []) :
    ∃ derived, deriveKey P key usage = .ok derived ∧ derived.length = keyLen := by
  obtain ⟨folded, hf, hl⟩ := nfold_ok hu (by decide : 0 < des3BlockSize)
  have henc : ∀ b : Bytes, b.length = des3BlockSize →
      ∃ iv c, des3CbcEncrypt P key b = .ok (iv, c) ∧ c.length = des3BlockSize := by
    intro b hb
    obtain ⟨iv, c, he, hc, -⟩ := des3CbcEncrypt_ok P key (by rw [hb]; decide : 0 < b.length)
    rw [zeroPad_of_dvd (by rw [hb]), hb] at hc
    exact ⟨iv, c, he, hc⟩
  obtain ⟨iv, block, hb, hbl⟩ := henc folded hl
  obtain ⟨random, hr, hrl⟩ := deriveRandomLoop_ok (by decide) henc des3SeedSize hbl
  obtain ⟨derived, hd, hdl⟩ := des3RandomToKey_ok hrl
  refine ⟨derived, ?_, hdl⟩
  simp [deriveKey, deriveRandom, validateKey, validateKeyLen_of_length hk, hu, hf,
    encryptData_of_length P hk, hb, hr, randomToKey, hd]

def parts (key : Bytes) (mac : Bytes → Bytes → Bytes) (hm : ∀ plain x, (mac plain x).length = hmacLen) :
    MacParts confounderLen hmacLen (zeroPad · des3BlockSize) where
  enc := des3CbcEncrypt P key
  dec := des3CbcDecrypt P key
  mac := mac
  whole plain := des3BlockSize ≤ plain.length ∧ des3BlockSize ∣ plain.length
  length_mac := hm
  dec_of_whole plain hw := by
    obtain ⟨iv, x, he, hl, hd⟩ :=
      des3CbcEncrypt_ok P key (lt_of_lt_of_le (by decide : 0 < des3BlockSize) hw.1)
    rw [zeroPad_of_dvd hw.2] at hl hd
    exact ⟨iv, x, he, hd, hl.symm ▸ hw.1⟩
  enc_of_dec x plain _ hd := by
    obtain ⟨hpos, hdvd, -, he⟩ := des3CbcDecrypt_ok P key hd
    exact ⟨⟨Nat.le_of_dvd hpos hdvd, hdvd⟩, he⟩
  le_of_whole _ hw := hw.1
  whole_pad message confounder hc := by
    have hd := dvd_length_zeroPad message (by decide : 0 < des3BlockSize)
    rw [List.length_append, hc]
    exact ⟨Nat.le_add_right _ _, (Nat.dvd_add_right dvd_rfl).mpr hd⟩
  pad_of_whole message confounder hc hw := by
    rw [List.length_append, hc] at hw
    exact zeroPad_of_dvd ((Nat.dvd_add_right dvd_rfl).mp hw.2)

theorem exists_parts {key : Bytes} (hk : key.length = keyLen) (usage : UInt32) :
    ∃ M : MacParts confounderLen hmacLen (zeroPad · des3BlockSize),
      (fun message confounder ↦ encryptMessageWithConfounder P key message usage confounder) =
        M.encrypt ∧ (fun ciphertext ↦ decryptMessage P key ciphertext usage) = M.decrypt := by
  obtain ⟨ke, he, hke⟩ := deriveKey_ok P hk (usageConstant_ne_nil usage 0xaa)
  obtain ⟨ki, hi, -⟩ := deriveKey_ok P hk (usageConstant_ne_nil usage 0x55)
  refine ⟨parts P ke (fun plain _ ↦ P.hmacSha1 ki plain) (fun plain _ ↦ P.length_hmacSha1 ki plain),
    ?_, ?_⟩
  · funext message confounder
    simp only [encryptMessageWithConfounder, validateKey, validateKeyLen_of_length hk, ok_bind, he, hi,
      encryptData_of_length P hke]
    by_cases hc : confounder.length = confounderLen
    · rw [zeroPad_append_of_length (show confounder.length = des3BlockSize from hc)]
      rfl
    · simp [MacParts.encrypt, validateConfounderLen, ensure_of_not hc]
  · funext ciphertext
    simp only [decryptMessage, validateKey, validateKeyLen_of_length hk, ok_bind, he, hi,
      decryptData_of_length P hke]
    rfl

end Des3CbcSha1KdEtype

namespace Rc4HmacEtype

variable (key : Bytes) (usage : UInt32)

def rel (plain ciphertext : Bytes) : Prop :=
  let usageKey := P.hmacMd5 key (rc4HmacUsageToMsMsgType usage)
  let checksum := P.hmacMd5 usageKey plain
  ∃ encrypted, rc4HmacCrypt P (P.hmacMd5 usageKey checksum) plain = .ok encrypted ∧
    ciphertext = checksum ++ encrypted

theorem decryptMessage_iff (hk : key.length = keyLen) (message ciphertext : Bytes) :
    decryptMessage P key ciphertext usage = .ok message ↔
      ∃ confounder, confounder.length = confounderLen ∧
        rel P key usage (confounder ++ message) ciphertext := by
  simp only [decryptMessage, rel, validateKey, validateKeyLen_of_length hk, ok_bind, bind_eq_ok,
    ensure_eq_ok, pure_eq_ok, Except.ok.injEq, exists_const, constantTimeEq_iff]
  set usageKey := P.hmacMd5 key (rc4HmacUsageToMsMsgType usage)
  constructor
  · intro h
    obtain ⟨hl, plain, hd, hn, hm, rfl⟩ := h
    obtain ⟨p, hd', -, he⟩ := rc4HmacCrypt_ok P (P.length_hmacMd5 usageKey (ciphertext.take hmacLen))
      (ciphertext.drop hmacLen)
    obtain rfl := Except.ok.inj (hd'.symm.trans hd)
    refine ⟨p.take confounderLen, by rw [List.length_take]; omega, ciphertext.drop hmacLen, ?_, ?_⟩
    · rw [List.take_append_drop, hm]
      exact he
    · rw [List.take_append_drop, hm, List.take_append_drop]
  · intro h
    obtain ⟨confounder, hc, encrypted, he, rfl⟩ := h
    have hml : (P.hmacMd5 usageKey (confounder ++ message)).length = hmacLen := P.length_hmacMd5 _ _
    obtain ⟨x, he', hx, hd⟩ := rc4HmacCrypt_ok P
      (P.length_hmacMd5 usageKey (P.hmacMd5 usageKey (confounder ++ message))) (confounder ++ message)
    obtain rfl := Except.ok.inj (he'.symm.trans he)
    rw [List.length_append] at hx
    simp only [List.take_left' hml, List.drop_left' hml, List.length_append, hml, hx, hc]
    exact ⟨by omega, confounder ++ message, hd, by rw [List.length_append]; omega, rfl,
      List.drop_left' hc⟩

def sealing (hk : key.length = keyLen) : Sealing confounderLen id
    (fun message confounder ↦ encryptMessageWithConfounder P key message usage confounder)
    (fun ciphertext ↦ decryptMessage P key ciphertext usage) where
  rel := rel P key usage
  encrypt_iff message confounder ciphertext := by
    simp only [encryptMessageWithConfounder, rel, validateKey, validateKeyLen_of_length hk, ok_bind,
      validateConfounderLen, bind_eq_ok, ensure_eq_ok, pure_eq_ok, Except.ok.injEq, exists_const, id,
      eq_comm (a := ciphertext)]
  decrypt_iff := decryptMessage_iff P key usage hk
  total message confounder _ := by
    obtain ⟨x, he, -, -⟩ := rc4HmacCrypt_ok P (P.length_hmacMd5
      (P.hmacMd5 key (rc4HmacUsageToMsMsgType usage)) (P.hmacMd5
        (P.hmacMd5 key (rc4HmacUsageToMsMsgType usage)) (confounder ++ message))) (confounder ++ message)
    exact ⟨_, x, he, rfl⟩
  pad_of_rel _ _ _ _ _ := rfl

end Rc4HmacEtype

namespace KerberosEtype

variable (e : KerberosEtype)

/-- What a round trip through `encrypt_message` makes of a message. -/
def padded (message : Bytes) : Bytes :=
  match e with
  | des3CbcSha1Kd => zeroPad message des3BlockSize
  | _ => message

theorem exists_sealing {key : Bytes} (hk : key.length = e.keyLen) (usage : UInt32) :
    Nonempty (Sealing e.confounderLen e.padded
      (fun message confounder ↦ e.encryptMessageWithConfounder P key message usage confounder)
      (fun ciphertext ↦ e.decryptMessage P key ciphertext usage)) := by
  cases e with
  | sha1 e =>
    obtain ⟨M, he, hd⟩ := e.exists_parts P hk usage
    simp only [encryptMessageWithConfounder, decryptMessage, he, hd]
    exact ⟨M.sealing⟩
  | sha2 e =>
    obtain ⟨M, he, hd⟩ := e.exists_parts P hk usage
    simp only [encryptMessageWithConfounder, decryptMessage, he, hd]
    exact ⟨M.sealing⟩
  | des3CbcSha1Kd =>
    obtain ⟨M, he, hd⟩ := Des3CbcSha1KdEtype.exists_parts P hk usage
    simp only [encryptMessageWithConfounder, decryptMessage, he, hd]
    exact ⟨M.sealing⟩
  | rc4Hmac => exact ⟨Rc4HmacEtype.sealing P key usage hk⟩

theorem length_of_encrypt_ok {key message confounder ciphertext : Bytes} {usage : UInt32}
    (h : e.encryptMessageWithConfounder P key message usage confounder = .ok ciphertext) :
    key.length = e.keyLen ∧ confounder.length = e.confounderLen := by
  cases e <;>
    simp only [encryptMessageWithConfounder, AesSha1Etype.encryptMessageWithConfounder,
      AesSha2Etype.encryptMessageWithConfounder, Des3CbcSha1KdEtype.encryptMessageWithConfounder,
      Rc4HmacEtype.encryptMessageWithConfounder, bind_eq_ok, validateConfounderLen, ensure_eq_ok] at h <;>
    obtain ⟨_, hk, _, hc, -⟩ := h <;>
    exact ⟨validateKeyLen_eq_ok.mp hk, hc⟩

theorem length_of_decrypt_ok {key message ciphertext : Bytes} {usage : UInt32}
    (h : e.decryptMessage P key ciphertext usage = .ok message) : key.length = e.keyLen := by
  cases e <;>
    simp only [decryptMessage, AesSha1Etype.decryptMessage, AesSha2Etype.decryptMessage,
      Des3CbcSha1KdEtype.decryptMessage, Rc4HmacEtype.decryptMessage, bind_eq_ok] at h <;>
    obtain ⟨_, hk, -⟩ := h <;>
    exact validateKeyLen_eq_ok.mp hk

theorem le_length_of_decrypt_ok {key message ciphertext : Bytes} {usage : UInt32}
    (h : e.decryptMessage P key ciphertext usage = .ok message) :
    e.hmacLen + e.confounderLen ≤ ciphertext.length := by
  cases e <;>
    simp only [decryptMessage, AesSha1Etype.decryptMessage, AesSha2Etype.decryptMessage,
      Des3CbcSha1KdEtype.decryptMessage, Rc4HmacEtype.decryptMessage, bind_eq_ok, ensure_eq_ok] at h <;>
    obtain ⟨_, -, _, hl, -⟩ := h <;>
    exact hl

theorem encrypt_ok {key confounder : Bytes} (hk : key.length = e.keyLen)
    (hc : confounder.length = e.confounderLen) (message : Bytes) (usage : UInt32) :
    ∃ ciphertext, e.encryptMessageWithConfounder P key message usage confounder = .ok ciphertext := by
  obtain ⟨S⟩ := e.exists_sealing P hk usage
  exact S.encrypt_total message hc

theorem decrypt_of_encrypt {key message confounder ciphertext : Bytes} {usage : UInt32}
    (h : e.encryptMessageWithConfounder P key message usage confounder = .ok ciphertext) :
    e.decryptMessage P key ciphertext usage = .ok (e.padded message) := by
  obtain ⟨S⟩ := e.exists_sealing P (e.length_of_encrypt_ok P h).1 usage
  exact S.decrypt_of_encrypt h

/-- Every checksum has the length that its encryption type announces. -/
theorem checksum_ok {key : Bytes} (hk : key.length = e.keyLen) (data : Bytes) (usage : UInt32) :
    ∃ mac, e.checksum P key data usage = .ok mac ∧ mac.length = e.hmacLen := by
  have husage := usageConstant_ne_nil usage 0x99
  cases e with
  | sha1 e =>
    obtain ⟨derived, hderived, -⟩ := e.deriveKey_ok P hk husage
    exact ⟨_, by rw [checksum, AesSha1Etype.checksum, hderived]; rfl, length_hmacSha196 P derived data⟩
  | sha2 e =>
    have hderived := e.deriveKey_of_length P hk husage
    exact ⟨_, by rw [checksum, AesSha2Etype.checksum, hderived]; rfl, e.length_truncatedHmac P _ data⟩
  | des3CbcSha1Kd =>
    obtain ⟨derived, hderived, -⟩ := Des3CbcSha1KdEtype.deriveKey_ok P hk husage
    exact ⟨_, by rw [checksum, Des3CbcSha1KdEtype.checksum, hderived]; rfl, P.length_hmacSha1 derived data⟩
  | rc4Hmac =>
    refine ⟨kerbChecksumHmacMd5 P key data usage, ?_, P.length_hmacMd5 _ _⟩
    have hkey : key.length = Rc4HmacEtype.keyLen := hk
    rw [checksum, Rc4HmacEtype.checksum, Rc4HmacEtype.validateKey, validateKeyLen_of_length hkey]
    rfl

theorem padded_eq_self_iff (message : Bytes) :
    e.padded message = message ↔ (e = des3CbcSha1Kd → des3BlockSize ∣ message.length) := by
  cases e with
  | des3CbcSha1Kd =>
    refine ⟨fun h _ ↦ ?_, fun h ↦ zeroPad_of_dvd (h rfl)⟩
    have hd := dvd_length_zeroPad message (by decide : 0 < des3BlockSize)
    rwa [show zeroPad message des3BlockSize = message from h] at hd
  | _ => simp [padded]

/-- Decryption accepts the image of encryption and nothing else; what it returns is the
message, which DES3 completes with zeros to whole blocks. -/
theorem decryptMessage_exact (key : Bytes) (usage : UInt32) :
    (∀ ciphertext message, e.decryptMessage P key ciphertext usage = .ok message ↔
      (e = des3CbcSha1Kd → des3BlockSize ∣ message.length) ∧
        ∃ confounder, confounder.length = e.confounderLen ∧
          e.encryptMessageWithConfounder P key message usage confounder = .ok ciphertext) ∧
    (∀ message confounder ciphertext,
      e.encryptMessageWithConfounder P key message usage confounder = .ok ciphertext →
        e.decryptMessage P key ciphertext usage =
          .ok (if e = des3CbcSha1Kd then zeroPad message des3BlockSize else message)) := by
  have hpad : ∀ message : Bytes, e.padded message =
      if e = des3CbcSha1Kd then zeroPad message des3BlockSize else message := by
    intro message
    cases e <;> simp [padded]
  refine ⟨fun ciphertext message ↦ ⟨fun h ↦ ?_, ?_⟩, fun message confounder ciphertext h ↦ ?_⟩
  · obtain ⟨S⟩ := e.exists_sealing P (e.length_of_decrypt_ok P h) usage
    obtain ⟨hp, he⟩ := S.encrypt_of_decrypt h
    exact ⟨(e.padded_eq_self_iff message).mp hp, he⟩
  · intro h
    obtain ⟨hd, confounder, -, he⟩ := h
    rw [e.decrypt_of_encrypt P he, (e.padded_eq_self_iff message).mpr hd]
  · rw [e.decrypt_of_encrypt P h, hpad]

end KerberosEtype

end Rskrb5.Crypto
