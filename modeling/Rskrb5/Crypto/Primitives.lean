import Rskrb5.Bytes
import Rskrb5.Lib.BlockModes

namespace Rskrb5.Crypto

open Lib.BlockModes

inductive Error
  | invalidKeyLength (expected actual : ℕ)
  | invalidConfounderLength (expected actual : ℕ)
  | ciphertextTooShort (minimum actual : ℕ)
  | plaintextTooShort (minimum actual : ℕ)
  | integrityCheckFailed
  | invalidS2kParamsLength (actual : ℕ)
  | invalidS2kParamsHex (byte : Char)
  | unsupportedIterationCountZero
  | invalidStringToKeySecret
  | nonEmptyDes3S2kParams
  | invalidSeedLength (expected actual : ℕ)
  | emptyNfoldInput
  | emptyUsage
  | invalidNfoldOutputBits (bits : ℕ)
  | emptyPlaintext
  | invalidCiphertextBlockSize (blockSize actual : ℕ)
  deriving DecidableEq, Repr

/-- The cipher, hash and key-stretching crates. Block ciphers are permutations
of their blocks, RC4 adds a stream that depends only on the key, and the
hashes have fixed output lengths; nothing else is known about them. -/
structure Primitives where
  aes128 : Bytes → BlockPerm UInt8 16
  aes256 : Bytes → BlockPerm UInt8 16
  tdesEde3 : Bytes → BlockPerm UInt8 8
  /-- The keystream, when the crate accepts the key length. -/
  rc4 : Bytes → Option (ℕ → UInt8)
  rc4_accepts : ∀ key, key.length = 16 → (rc4 key).isSome
  hmacSha1 : Bytes → Bytes → Bytes
  length_hmacSha1 : ∀ key data, (hmacSha1 key data).length = 20
  hmacMd5 : Bytes → Bytes → Bytes
  length_hmacMd5 : ∀ key data, (hmacMd5 key data).length = 16
  hmacSha256 : Bytes → Bytes → Bytes
  length_hmacSha256 : ∀ key data, (hmacSha256 key data).length = 32
  hmacSha384 : Bytes → Bytes → Bytes
  length_hmacSha384 : ∀ key data, (hmacSha384 key data).length = 48
  md4 : Bytes → Bytes
  length_md4 : ∀ data, (md4 data).length = 16
  md5 : Bytes → Bytes
  length_md5 : ∀ data, (md5 data).length = 16
  /-- PBKDF2 with HMAC-SHA1, HMAC-SHA256 and HMAC-SHA384: secret, salt, rounds, output length. -/
  pbkdf2Sha1 : Bytes → Bytes → UInt32 → ℕ → Bytes
  length_pbkdf2Sha1 : ∀ secret salt rounds n, (pbkdf2Sha1 secret salt rounds n).length = n
  pbkdf2Sha256 : Bytes → Bytes → UInt32 → ℕ → Bytes
  length_pbkdf2Sha256 : ∀ secret salt rounds n, (pbkdf2Sha256 secret salt rounds n).length = n
  pbkdf2Sha384 : Bytes → Bytes → UInt32 → ℕ → Bytes
  length_pbkdf2Sha384 : ∀ secret salt rounds n, (pbkdf2Sha384 secret salt rounds n).length = n

def aesBlockSize : ℕ := 16
def des3BlockSize : ℕ := 8
def des3KeySize : ℕ := 24
def des3SeedSize : ℕ := 21
def rc4HmacKeySize : ℕ := 16
def rc4HmacConfounderSize : ℕ := 8
def hmacSha196Size : ℕ := 12
def hmacSha1Size : ℕ := 20
def hmacSha256128Size : ℕ := 16
def hmacSha384192Size : ℕ := 24
def hmacMd5Size : ℕ := 16
def kerberosConstant : Bytes := [0x6b, 0x65, 0x72, 0x62, 0x65, 0x72, 0x6f, 0x73]

def xorMask : Mask UInt8 where
  op a b := a ^^^ b
  zero := 0
  op_op a b := by rw [UInt8.xor_assoc, UInt8.xor_self, UInt8.xor_zero]
  op_zero _ := UInt8.xor_zero
  zero_op _ := UInt8.zero_xor
  op_self _ := UInt8.xor_self

def zeros (n : ℕ) : Bytes := List.replicate n 0

theorem zeros_eq (n : ℕ) : zeros n = xorMask.zeros n := rfl

@[simp] theorem length_zeros (n : ℕ) : (zeros n).length = n := List.length_replicate

def zeroPad (bytes : Bytes) (blockSize : ℕ) : Bytes :=
  let remainder := bytes.length % blockSize
  if remainder ≠ 0 then bytes ++ zeros (blockSize - remainder) else bytes

theorem zeroPad_of_dvd {bytes : Bytes} {blockSize : ℕ} (h : blockSize ∣ bytes.length) :
    zeroPad bytes blockSize = bytes := by
  simp [zeroPad, Nat.mod_eq_zero_of_dvd h]

theorem dvd_length_zeroPad (bytes : Bytes) {blockSize : ℕ} (hb : 0 < blockSize) :
    blockSize ∣ (zeroPad bytes blockSize).length := by
  by_cases h : bytes.length % blockSize = 0
  · rw [zeroPad_of_dvd (Nat.dvd_of_mod_eq_zero h)]
    exact Nat.dvd_of_mod_eq_zero h
  · have hlt := Nat.mod_lt bytes.length hb
    have hdiv := Nat.div_add_mod bytes.length blockSize
    simp only [zeroPad, ne_eq, h, not_false_eq_true, if_true, List.length_append, length_zeros]
    exact ⟨bytes.length / blockSize + 1, by rw [Nat.mul_succ]; omega⟩

theorem zeroPad_append_of_length {a : Bytes} {blockSize : ℕ} (ha : a.length = blockSize) (b : Bytes) :
    zeroPad (a ++ b) blockSize = a ++ zeroPad b blockSize := by
  have hm : (a ++ b).length % blockSize = b.length % blockSize := by
    rw [List.length_append, ha, Nat.add_mod_left]
  simp only [zeroPad, hm]
  split <;> simp

theorem zeroPad_eq_append (bytes : Bytes) (blockSize : ℕ) :
    ∃ k, zeroPad bytes blockSize = bytes ++ zeros k := by
  simp only [zeroPad]
  split
  · exact ⟨_, rfl⟩
  · exact ⟨0, by simp [zeros]⟩

def constantTimeEq (a b : Bytes) : Bool :=
  if a.length ≠ b.length then false
  else ((a.zip b).foldl (fun diff pair ↦ diff ||| (pair.1 ^^^ pair.2)) 0) == 0

theorem foldl_or_eq_zero (pairs : List (UInt8 × UInt8)) (diff : UInt8) :
    pairs.foldl (fun diff pair ↦ diff ||| (pair.1 ^^^ pair.2)) diff = 0 ↔
      diff = 0 ∧ ∀ pair ∈ pairs, pair.1 = pair.2 := by
  induction pairs generalizing diff with
  | nil => simp
  | cons pair pairs ih =>
    rw [List.foldl_cons, ih, UInt8.or_eq_zero_iff, UInt8.xor_eq_zero_iff, List.forall_mem_cons,
      and_assoc]

theorem constantTimeEq_iff (a b : Bytes) : constantTimeEq a b = true ↔ a = b := by
  by_cases hl : a.length = b.length
  · simp only [constantTimeEq, ne_eq, hl, not_true_eq_false, if_false, beq_iff_eq, foldl_or_eq_zero,
      true_and]
    constructor
    · intro h
      apply List.ext_getElem hl
      intro i hi hi'
      exact h (a[i], b[i]) (by rw [List.mem_iff_getElem]; exact ⟨i, by simp [hi, hi'], by simp⟩)
    · intro heq pair hp
      subst heq
      obtain ⟨i, hi, rfl⟩ := List.mem_iff_getElem.mp hp
      simp
  · have hne : a ≠ b := fun h ↦ hl (congrArg List.length h)
    simp [constantTimeEq, hl, hne]

def usageConstant (usage : UInt32) (suffix : UInt8) : Bytes := u32ToBeBytes usage ++ [suffix]

/-- The byte loop of `rc4_hmac_usage_to_ms_msg_type`, with `count` output bytes left. -/
def msMsgTypeBytes : ℕ → UInt32 → Bytes
  | 0, _ => []
  | count + 1, usage =>
    if usage < 0x80 then usage.toUInt8 :: zeros count
    else ((usage.toUInt8 &&& 0x7f) ||| 0x80) :: msMsgTypeBytes count (usage >>> 7)

def rc4HmacUsageToMsMsgType (usage : UInt32) : Bytes :=
  msMsgTypeBytes 4 (if usage = 3 ∨ usage = 9 then 8 else if usage = 23 then 13 else usage)

section Wrappers

variable (P : Primitives)

def hmacSha196 (key data : Bytes) : Bytes := (P.hmacSha1 key data).take hmacSha196Size

/-- The AES block functions; other key lengths are unreachable in the source. -/
def encryptBlock (key block : Bytes) : Bytes :=
  if key.length = 16 then (P.aes128 key).enc block
  else if key.length = 32 then (P.aes256 key).enc block
  else []

def decryptBlock (key block : Bytes) : Bytes :=
  if key.length = 16 then (P.aes128 key).dec block
  else if key.length = 32 then (P.aes256 key).dec block
  else []

def des3EncryptBlock (key block : Bytes) : Bytes := (P.tdesEde3 key).enc block

def des3DecryptBlock (key block : Bytes) : Bytes := (P.tdesEde3 key).dec block

def rc4HmacCrypt (key input : Bytes) : Except Error Bytes :=
  match P.rc4 key with
  | none => .error (.invalidKeyLength rc4HmacKeySize key.length)
  | some stream => .ok (xorMask.apply input ((List.range input.length).map stream))

theorem exists_aesPerm {key : Bytes} (hk : key.length = 16 ∨ key.length = 32) :
    ∃ B : BlockPerm UInt8 aesBlockSize, encryptBlock P key = B.enc ∧ decryptBlock P key = B.dec := by
  rcases hk with hk | hk
  · exact ⟨P.aes128 key, by funext b; simp [encryptBlock, hk], by funext b; simp [decryptBlock, hk]⟩
  · exact ⟨P.aes256 key, by funext b; simp [encryptBlock, hk], by funext b; simp [decryptBlock, hk]⟩

theorem rc4HmacCrypt_ok {key : Bytes} (hk : key.length = 16) (input : Bytes) :
    ∃ output, rc4HmacCrypt P key input = .ok output ∧ output.length = input.length ∧
      rc4HmacCrypt P key output = .ok input := by
  obtain ⟨stream, hs⟩ := Option.isSome_iff_exists.mp (P.rc4_accepts key hk)
  have hl : (xorMask.apply input ((List.range input.length).map stream)).length = input.length := by
    simp
  refine ⟨_, by simp only [rc4HmacCrypt, hs], hl, ?_⟩
  simp only [rc4HmacCrypt, hs, hl]
  rw [xorMask.apply_cancel _ _ (by simp)]

end Wrappers

section Tables

def fit (n : ℕ) (bytes : Bytes) : Bytes := (bytes ++ zeros n).take n

@[simp] theorem length_fit (n : ℕ) (bytes : Bytes) : (fit n bytes).length = n := by
  simp [fit]

def swapPerm (n : ℕ) (x y : Bytes) (hx : x.length = n) (hy : y.length = n) : BlockPerm UInt8 n where
  enc b := if b = x then y else if b = y then x else b
  dec b := if b = x then y else if b = y then x else b
  length_enc b hb := by split_ifs <;> assumption
  length_dec b hb := by split_ifs <;> assumption
  dec_enc b hb := by split_ifs <;> simp_all
  enc_dec b hb := by split_ifs <;> simp_all

/-- Known answers of the crates: block pairs of the block ciphers, keystreams
and hash values. -/
structure KnownAnswers where
  aes128 : Bytes → Bytes × Bytes := fun _ ↦ ([], [])
  aes256 : Bytes → Bytes × Bytes := fun _ ↦ ([], [])
  tdesEde3 : Bytes → Bytes × Bytes := fun _ ↦ ([], [])
  rc4 : List (Bytes × Bytes) := []
  hmacMd5 : List ((Bytes × Bytes) × Bytes) := []

structure Rc4Sealed where
  key : Bytes
  usage : UInt32
  confounder : Bytes
  message : Bytes
  usageKey : Bytes
  encryptionKey : Bytes
  cipher : Bytes

def KnownAnswers.ofRc4Sealed (messages : List Rc4Sealed) : KnownAnswers where
  rc4 := messages.map fun m ↦
    (m.encryptionKey, xorMask.apply (m.confounder ++ m.message) (m.cipher.drop hmacMd5Size))
  hmacMd5 := messages.flatMap fun m ↦
    [((m.key, rc4HmacUsageToMsMsgType m.usage), m.usageKey),
     ((m.usageKey, m.confounder ++ m.message), m.cipher.take hmacMd5Size),
     ((m.usageKey, m.cipher.take hmacMd5Size), m.encryptionKey)]

/-- Primitives that give the known answers and are constant elsewhere. -/
def Primitives.ofKnownAnswers (t : KnownAnswers) : Primitives where
  aes128 key := swapPerm 16 (fit 16 (t.aes128 key).1) (fit 16 (t.aes128 key).2) (by simp) (by simp)
  aes256 key := swapPerm 16 (fit 16 (t.aes256 key).1) (fit 16 (t.aes256 key).2) (by simp) (by simp)
  tdesEde3 key := swapPerm 8 (fit 8 (t.tdesEde3 key).1) (fit 8 (t.tdesEde3 key).2) (by simp) (by simp)
  rc4 key := some fun i ↦ ((t.rc4.lookup key).getD []).getD i 0
  rc4_accepts _ _ := rfl
  hmacSha1 _ _ := zeros 20
  length_hmacSha1 _ _ := length_zeros 20
  hmacMd5 key data := fit 16 ((t.hmacMd5.lookup (key, data)).getD [])
  length_hmacMd5 _ _ := length_fit 16 _
  hmacSha256 _ _ := zeros 32
  length_hmacSha256 _ _ := length_zeros 32
  hmacSha384 _ _ := zeros 48
  length_hmacSha384 _ _ := length_zeros 48
  md4 _ := zeros 16
  length_md4 _ := length_zeros 16
  md5 _ := zeros 16
  length_md5 _ := length_zeros 16
  pbkdf2Sha1 _ _ _ n := zeros n
  length_pbkdf2Sha1 _ _ _ n := length_zeros n
  pbkdf2Sha256 _ _ _ n := zeros n
  length_pbkdf2Sha256 _ _ _ n := length_zeros n
  pbkdf2Sha384 _ _ _ n := zeros n
  length_pbkdf2Sha384 _ _ _ n := length_zeros n

end Tables

end Rskrb5.Crypto
