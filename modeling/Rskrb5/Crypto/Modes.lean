import Rskrb5.Crypto.Primitives

namespace Rskrb5.Crypto

open Lib.BlockModes

variable (P : Primitives)

def cbcEncrypt (key iv plaintext : Bytes) : Bytes :=
  (Lib.BlockModes.cbcEncrypt xorMask (encryptBlock P key) iv (chunksExact aesBlockSize plaintext)).2

def cbcDecrypt (key iv ciphertext : Bytes) : Bytes :=
  (Lib.BlockModes.cbcDecrypt xorMask (decryptBlock P key) iv (chunksExact aesBlockSize ciphertext)).2

def swapLastTwoBlocks (bytes : Bytes) : Bytes :=
  let len := bytes.length
  (List.range aesBlockSize).foldl
    (fun bytes i ↦ swapAt bytes (len - 2 * aesBlockSize + i) (len - aesBlockSize + i)) bytes

def chainIv (iv regularCipher : Bytes) : Bytes :=
  if regularCipher.isEmpty then iv else regularCipher.drop (regularCipher.length - aesBlockSize)

/-- The branch of `aes_cts_encrypt` for more than one block and a short tail. -/
def aesCtsEncryptTail (key iv plaintext : Bytes) : Bytes × Bytes :=
  let originalLen := plaintext.length
  let padded := zeroPad plaintext aesBlockSize
  let regularLen := padded.length - 2 * aesBlockSize
  let regularPlain := padded.take regularLen
  let tail := padded.drop regularLen
  let penultimatePlain := tail.take aesBlockSize
  let lastPlain := tail.drop aesBlockSize
  let regularCipher := cbcEncrypt P key iv regularPlain
  let penultimateBlock := cbcEncrypt P key (chainIv iv regularCipher) penultimatePlain
  let lastBlock := cbcEncrypt P key penultimateBlock lastPlain
  (lastBlock, (regularCipher ++ lastBlock ++ penultimateBlock).take originalLen)

def aesCtsEncrypt (key plaintext : Bytes) : Except Error (Bytes × Bytes) :=
  if plaintext.isEmpty then .error .emptyPlaintext
  else
    let iv := zeros aesBlockSize
    if plaintext.length ≤ aesBlockSize then
      let encrypted := cbcEncrypt P key iv (zeroPad plaintext aesBlockSize)
      .ok (encrypted, encrypted)
    else if plaintext.length % aesBlockSize = 0 then
      let encrypted := cbcEncrypt P key iv plaintext
      .ok (encrypted.drop (encrypted.length - aesBlockSize), swapLastTwoBlocks encrypted)
    else .ok (aesCtsEncryptTail P key iv plaintext)

/-- The branch of `aes_cts_decrypt` for a length that is not a whole number of blocks. -/
def aesCtsDecryptTail (key iv ciphertext : Bytes) : Bytes :=
  let shortLen := ciphertext.length % aesBlockSize
  let regularLen := ciphertext.length - aesBlockSize - shortLen
  let regularCipher := ciphertext.take regularLen
  let tail := ciphertext.drop regularLen
  let penultimateCipher := tail.take aesBlockSize
  let lastCipher := tail.drop aesBlockSize
  let regularPlain := cbcDecrypt P key iv regularCipher
  let padLen := aesBlockSize - shortLen
  let completedLastCipher :=
    lastCipher ++ (cbcDecrypt P key iv penultimateCipher).drop (aesBlockSize - padLen)
  let lastPlain := cbcDecrypt P key (chainIv iv regularCipher) completedLastCipher
  let penultimatePlain := cbcDecrypt P key completedLastCipher penultimateCipher
  (regularPlain ++ lastPlain ++ penultimatePlain).take ciphertext.length

def aesCtsDecrypt (key ciphertext : Bytes) : Except Error Bytes :=
  if ciphertext.length < aesBlockSize then
    .error (.ciphertextTooShort aesBlockSize ciphertext.length)
  else
    let iv := zeros aesBlockSize
    if ciphertext.length % aesBlockSize = 0 then
      if ciphertext.length = aesBlockSize then .ok (cbcDecrypt P key iv ciphertext)
      else .ok (cbcDecrypt P key iv (swapLastTwoBlocks ciphertext))
    else .ok (aesCtsDecryptTail P key iv ciphertext)

def des3CbcEncrypt (key plaintext : Bytes) : Except Error (Bytes × Bytes) :=
  if plaintext.isEmpty then .error .emptyPlaintext
  else
    let padded := zeroPad plaintext des3BlockSize
    .ok (Lib.BlockModes.cbcEncrypt xorMask (des3EncryptBlock P key) (zeros des3BlockSize)
      (chunksExact des3BlockSize padded))

def des3CbcDecrypt (key ciphertext : Bytes) : Except Error Bytes :=
  if ciphertext.length < des3BlockSize then
    .error (.ciphertextTooShort des3BlockSize ciphertext.length)
  else if ciphertext.length % des3BlockSize ≠ 0 then
    .error (.invalidCiphertextBlockSize des3BlockSize ciphertext.length)
  else
    .ok (Lib.BlockModes.cbcDecrypt xorMask (des3DecryptBlock P key) (zeros des3BlockSize)
      (chunksExact des3BlockSize ciphertext)).2

section Cbc

variable {key : Bytes} (hk : key.length = 16 ∨ key.length = 32) {iv : Bytes}
  (hiv : iv.length = aesBlockSize)

include hk hiv

theorem length_cbcEncrypt {xs : Bytes} (h : aesBlockSize ∣ xs.length) :
    (cbcEncrypt P key iv xs).length = xs.length := by
  obtain ⟨B, hE, -⟩ := exists_aesPerm P hk
  rw [cbcEncrypt, hE]
  exact Lib.BlockModes.length_cbcEncrypt xorMask B (by decide) hiv xs h

theorem length_cbcDecrypt {xs : Bytes} (h : aesBlockSize ∣ xs.length) :
    (cbcDecrypt P key iv xs).length = xs.length := by
  obtain ⟨B, -, hD⟩ := exists_aesPerm P hk
  rw [cbcDecrypt, hD]
  exact Lib.BlockModes.length_cbcDecrypt xorMask B (by decide) hiv xs h

theorem cbcDecrypt_cbcEncrypt {xs : Bytes} (h : aesBlockSize ∣ xs.length) :
    cbcDecrypt P key iv (cbcEncrypt P key iv xs) = xs := by
  obtain ⟨B, hE, hD⟩ := exists_aesPerm P hk
  rw [cbcDecrypt, cbcEncrypt, hE, hD]
  exact Lib.BlockModes.cbcDecrypt_cbcEncrypt xorMask B (by decide) hiv xs h

theorem cbcEncrypt_cbcDecrypt {xs : Bytes} (h : aesBlockSize ∣ xs.length) :
    cbcEncrypt P key iv (cbcDecrypt P key iv xs) = xs := by
  obtain ⟨B, hE, hD⟩ := exists_aesPerm P hk
  rw [cbcDecrypt, cbcEncrypt, hE, hD]
  exact Lib.BlockModes.cbcEncrypt_cbcDecrypt xorMask B (by decide) hiv xs h

omit hk hiv

theorem cbcEncrypt_block {b : Bytes} (hb : b.length = aesBlockSize) :
    cbcEncrypt P key iv b = encryptBlock P key (xorMask.apply b iv) := by
  have hc : chunksExact aesBlockSize b = [b] := by
    simpa [chunksExact_nil] using chunksExact_append (by decide : 0 < aesBlockSize) hb []
  simp [cbcEncrypt, hc, Lib.BlockModes.cbcEncrypt]

theorem cbcDecrypt_block {b : Bytes} (hb : b.length = aesBlockSize) :
    cbcDecrypt P key iv b = xorMask.apply (decryptBlock P key b) iv := by
  have hc : chunksExact aesBlockSize b = [b] := by
    simpa [chunksExact_nil] using chunksExact_append (by decide : 0 < aesBlockSize) hb []
  simp [cbcDecrypt, hc, Lib.BlockModes.cbcDecrypt]

include hiv

theorem length_chainIv {xs : Bytes} (h : aesBlockSize ∣ xs.length) :
    (chainIv iv xs).length = aesBlockSize := by
  unfold chainIv
  split
  · exact hiv
  · next hne =>
    have hpos : 0 < xs.length := by
      rw [List.isEmpty_iff] at hne
      exact List.length_pos_iff.mpr hne
    have hle := Nat.le_of_dvd hpos h
    rw [List.length_drop]
    omega

end Cbc

section Swap

theorem swapLastTwoBlocks_append (pre : Bytes) {a b : Bytes} (ha : a.length = aesBlockSize)
    (hb : b.length = aesBlockSize) : swapLastTwoBlocks (pre ++ a ++ b) = pre ++ b ++ a := by
  have hl : (pre ++ a ++ b).length = pre.length + 2 * aesBlockSize := by
    simp only [List.length_append, ha, hb]; omega
  have h1 : pre.length + 2 * aesBlockSize - 2 * aesBlockSize = pre.length := by omega
  have h2 : pre.length + 2 * aesBlockSize - aesBlockSize = pre.length + aesBlockSize := by omega
  simp only [swapLastTwoBlocks, hl, h1, h2]
  exact foldl_swapAt pre a b aesBlockSize ha hb

theorem exists_last_two_blocks {xs : Bytes} (h : 2 * aesBlockSize ≤ xs.length) :
    ∃ pre a b, xs = pre ++ a ++ b ∧ a.length = aesBlockSize ∧ b.length = aesBlockSize := by
  refine ⟨xs.take (xs.length - 2 * aesBlockSize),
    (xs.drop (xs.length - 2 * aesBlockSize)).take aesBlockSize,
    (xs.drop (xs.length - 2 * aesBlockSize)).drop aesBlockSize, ?_, ?_, ?_⟩
  · rw [List.append_assoc, List.take_append_drop, List.take_append_drop]
  · simp only [List.length_take, List.length_drop]; omega
  · simp only [List.length_drop]; omega

theorem swapLastTwoBlocks_involutive {xs : Bytes} (h : 2 * aesBlockSize ≤ xs.length) :
    swapLastTwoBlocks (swapLastTwoBlocks xs) = xs := by
  obtain ⟨pre, a, b, rfl, ha, hb⟩ := exists_last_two_blocks h
  rw [swapLastTwoBlocks_append pre ha hb, swapLastTwoBlocks_append pre hb ha]

theorem length_swapLastTwoBlocks {xs : Bytes} (h : 2 * aesBlockSize ≤ xs.length) :
    (swapLastTwoBlocks xs).length = xs.length := by
  obtain ⟨pre, a, b, rfl, ha, hb⟩ := exists_last_two_blocks h
  rw [swapLastTwoBlocks_append pre ha hb]
  simp only [List.length_append]
  omega

end Swap

section Cts

variable {key : Bytes} (hk : key.length = 16 ∨ key.length = 32)

theorem take_add_append {a : Bytes} {n : ℕ} (h : a.length = n) (k : ℕ) (b : Bytes) :
    (a ++ b).take (n + k) = a ++ b.take k := by
  subst h
  exact List.take_length_add_append ..

theorem exists_short_tail {xs : Bytes} (h : aesBlockSize < xs.length)
    (hm : xs.length % aesBlockSize ≠ 0) :
    ∃ regular full short, xs = regular ++ full ++ short ∧ aesBlockSize ∣ regular.length ∧
      full.length = aesBlockSize ∧ 0 < short.length ∧ short.length < aesBlockSize := by
  have hlt := Nat.mod_lt xs.length (by decide : aesBlockSize > 0)
  have hdiv := Nat.div_add_mod xs.length aesBlockSize
  set r := xs.length - aesBlockSize - xs.length % aesBlockSize with hr
  have hq : 1 ≤ xs.length / aesBlockSize := Nat.div_pos h.le (by decide)
  have hreg : r = aesBlockSize * (xs.length / aesBlockSize - 1) := by
    rw [Nat.mul_sub, Nat.mul_one]; omega
  refine ⟨xs.take r, (xs.drop r).take aesBlockSize, (xs.drop r).drop aesBlockSize, ?_, ?_, ?_, ?_, ?_⟩
  · rw [List.append_assoc, List.take_append_drop, List.take_append_drop]
  · rw [List.length_take, Nat.min_eq_left (by omega), hreg]
    exact Nat.dvd_mul_right _ _
  all_goals simp only [List.length_take, List.length_drop]; omega

section Tail

variable {iv regular full short : Bytes} (hiv : iv.length = aesBlockSize)
  (hr : aesBlockSize ∣ regular.length) (hf : full.length = aesBlockSize) (hs : 0 < short.length)
  (hs' : short.length < aesBlockSize)

include hr hf hs'

theorem length_short_tail_mod :
    (regular ++ full ++ short).length % aesBlockSize = short.length := by
  obtain ⟨q, hq⟩ := hr
  have hl : (regular ++ full ++ short).length = short.length + aesBlockSize * (q + 1) := by
    simp only [List.length_append, hq, hf, Nat.mul_succ]; omega
  rw [hl, Nat.add_mul_mod_self_left, Nat.mod_eq_of_lt hs']

include hs

theorem zeroPad_short_tail : zeroPad (regular ++ full ++ short) aesBlockSize =
    regular ++ (full ++ (short ++ zeros (aesBlockSize - short.length))) := by
  have hm := length_short_tail_mod hr hf hs'
  rw [zeroPad, hm, if_pos (Nat.ne_of_gt hs), List.append_assoc, List.append_assoc]

include hk hiv

theorem aesCtsEncryptTail_eq : (aesCtsEncryptTail P key iv (regular ++ full ++ short)).2 =
    cbcEncrypt P key iv regular ++ stealEncrypt xorMask aesBlockSize (encryptBlock P key)
      (chainIv iv (cbcEncrypt P key iv regular)) full short := by
  obtain ⟨B, hE, -⟩ := exists_aesPerm P hk
  have hC := length_cbcEncrypt P hk hiv hr
  have hch := length_chainIv hiv (by rwa [hC] : aesBlockSize ∣ (cbcEncrypt P key iv regular).length)
  have hpad : (short ++ zeros (aesBlockSize - short.length)).length = aesBlockSize := by
    simp; omega
  have hreg : (regular ++ (full ++ (short ++ zeros (aesBlockSize - short.length)))).length -
      2 * aesBlockSize = regular.length := by
    rw [List.length_append, List.length_append, hpad, hf]
    omega
  simp only [aesCtsEncryptTail, zeroPad_short_tail hr hf hs hs', hreg, List.take_left,
    List.drop_left, List.take_left' hf, List.drop_left' hf]
  rw [cbcEncrypt_block P hf, cbcEncrypt_block P hpad, hE]
  set C := cbcEncrypt P key iv regular with hCd
  have hl1 := B.length_enc (xorMask.apply full (chainIv iv C)) (by simp [hf, hch])
  have hl2 := B.length_enc (xorMask.apply (short ++ zeros (aesBlockSize - short.length))
    (B.enc (xorMask.apply full (chainIv iv C)))) (by rw [Mask.length_apply, hpad, hl1]; simp)
  have hlen : (regular ++ full ++ short).length = C.length + (aesBlockSize + short.length) := by
    simp only [List.length_append, hC, hf]; omega
  rw [hlen, List.append_assoc, List.take_length_add_append, take_add_append hl2]
  rfl

omit hiv

theorem aesCtsDecryptTail_eq : aesCtsDecryptTail P key (zeros aesBlockSize) (regular ++ full ++ short) =
    cbcDecrypt P key (zeros aesBlockSize) regular ++ stealDecrypt xorMask (decryptBlock P key)
      (chainIv (zeros aesBlockSize) regular) full short := by
  obtain ⟨B, -, hD⟩ := exists_aesPerm P hk
  have hm := length_short_tail_mod hr hf hs'
  have hreg : (regular ++ full ++ short).length - aesBlockSize - short.length = regular.length := by
    simp only [List.length_append, hf]; omega
  have hpad : aesBlockSize - (aesBlockSize - short.length) = short.length := by omega
  have hz : cbcDecrypt P key (zeros aesBlockSize) full = B.dec full := by
    rw [cbcDecrypt_block P hf, hD, zeros_eq, xorMask.apply_zeros _ _ (B.length_dec full hf).le]
  have hw : (short ++ (B.dec full).drop short.length).length = aesBlockSize := by
    rw [List.length_append, List.length_drop, B.length_dec full hf]; omega
  have hlp : (xorMask.apply (B.dec (short ++ (B.dec full).drop short.length))
      (chainIv (zeros aesBlockSize) regular)).length = aesBlockSize := by
    rw [Mask.length_apply, B.length_dec _ hw, length_chainIv (length_zeros _) hr, Nat.min_self]
  have hC := length_cbcDecrypt P hk (length_zeros aesBlockSize) hr
  have hlen : (regular ++ full ++ short).length =
      (cbcDecrypt P key (zeros aesBlockSize) regular).length + (aesBlockSize + short.length) := by
    simp only [List.length_append, hC, hf]; omega
  have hsplit : regular ++ full ++ short = regular ++ (full ++ short) := List.append_assoc ..
  simp only [aesCtsDecryptTail, hm, hreg, hpad]
  rw [hlen, hsplit]
  simp only [List.take_left, List.drop_left, List.take_left' hf, List.drop_left' hf, hz]
  rw [cbcDecrypt_block P hw, cbcDecrypt_block P hf, hD, List.append_assoc,
    List.take_length_add_append, take_add_append hlp]
  rfl

end Tail

section Branches

variable (key) {xs : Bytes}

theorem aesCtsEncrypt_of_le (h0 : 0 < xs.length) (h : xs.length ≤ aesBlockSize) :
    aesCtsEncrypt P key xs =
      .ok (cbcEncrypt P key (zeros aesBlockSize) (zeroPad xs aesBlockSize),
        cbcEncrypt P key (zeros aesBlockSize) (zeroPad xs aesBlockSize)) := by
  have hne := List.length_pos_iff.mp h0
  simp only [aesCtsEncrypt, List.isEmpty_iff, hne, if_false, h, if_true]

theorem aesCtsEncrypt_of_blocks (h : aesBlockSize < xs.length) (hm : xs.length % aesBlockSize = 0) :
    ∃ nextIv, aesCtsEncrypt P key xs =
      .ok (nextIv, swapLastTwoBlocks (cbcEncrypt P key (zeros aesBlockSize) xs)) := by
  have hne := List.length_pos_iff.mp (Nat.zero_lt_of_lt h)
  simp [aesCtsEncrypt, hne, Nat.not_le.mpr h, hm]

theorem aesCtsEncrypt_of_tail (h : aesBlockSize < xs.length) (hm : xs.length % aesBlockSize ≠ 0) :
    aesCtsEncrypt P key xs = .ok (aesCtsEncryptTail P key (zeros aesBlockSize) xs) := by
  have hne := List.length_pos_iff.mp (Nat.zero_lt_of_lt h)
  simp only [aesCtsEncrypt, List.isEmpty_iff, hne, if_false, Nat.not_le.mpr h, hm]

theorem aesCtsDecrypt_of_block (h : xs.length = aesBlockSize) :
    aesCtsDecrypt P key xs = .ok (cbcDecrypt P key (zeros aesBlockSize) xs) := by
  simp only [aesCtsDecrypt, h, lt_irrefl, if_false, Nat.mod_self, if_true]

theorem aesCtsDecrypt_of_blocks (h : aesBlockSize < xs.length) (hm : xs.length % aesBlockSize = 0) :
    aesCtsDecrypt P key xs =
      .ok (cbcDecrypt P key (zeros aesBlockSize) (swapLastTwoBlocks xs)) := by
  simp only [aesCtsDecrypt, Nat.not_lt.mpr h.le, if_false, hm, if_true, h.ne']

theorem aesCtsDecrypt_of_tail (h : aesBlockSize < xs.length) (hm : xs.length % aesBlockSize ≠ 0) :
    aesCtsDecrypt P key xs = .ok (aesCtsDecryptTail P key (zeros aesBlockSize) xs) := by
  simp only [aesCtsDecrypt, Nat.not_lt.mpr h.le, if_false, hm]

theorem two_blocks_le (h : aesBlockSize < xs.length) (hm : xs.length % aesBlockSize = 0) :
    2 * aesBlockSize ≤ xs.length := by
  simp only [aesBlockSize] at *
  omega

theorem cts_cases (h : aesBlockSize ≤ xs.length) :
    xs.length = aesBlockSize ∨ (aesBlockSize < xs.length ∧ xs.length % aesBlockSize = 0) ∨
      (aesBlockSize < xs.length ∧ xs.length % aesBlockSize ≠ 0) := by
  omega

end Branches

include hk

theorem aesCtsDecrypt_aesCtsEncrypt {p : Bytes} (h : aesBlockSize ≤ p.length) :
    ∃ nextIv c, aesCtsEncrypt P key p = .ok (nextIv, c) ∧ c.length = p.length ∧
      aesCtsDecrypt P key c = .ok p := by
  have hz := length_zeros aesBlockSize
  rcases cts_cases h with h1 | ⟨h1, hm⟩ | ⟨h1, hm⟩
  · have hd : aesBlockSize ∣ p.length := by rw [h1]
    have hC := length_cbcEncrypt P hk hz hd
    refine ⟨_, _, aesCtsEncrypt_of_le P key (by rw [h1]; decide) h1.le, ?_⟩
    rw [zeroPad_of_dvd hd, aesCtsDecrypt_of_block P key (hC.trans h1), cbcDecrypt_cbcEncrypt P hk hz hd]
    exact ⟨hC, rfl⟩
  · have hd := Nat.dvd_of_mod_eq_zero hm
    have hC := length_cbcEncrypt P hk hz hd
    have h2 : 2 * aesBlockSize ≤ (cbcEncrypt P key (zeros aesBlockSize) p).length := by
      rw [hC]; exact two_blocks_le h1 hm
    have hS := (length_swapLastTwoBlocks h2).trans hC
    obtain ⟨nextIv, he⟩ := aesCtsEncrypt_of_blocks P key h1 hm
    refine ⟨nextIv, _, he, hS, ?_⟩
    rw [aesCtsDecrypt_of_blocks P key (hS.symm ▸ h1) (hS.symm ▸ hm), swapLastTwoBlocks_involutive h2,
      cbcDecrypt_cbcEncrypt P hk hz hd]
  · have he := aesCtsEncrypt_of_tail P key h1 hm
    obtain ⟨regular, full, short, rfl, hr, hf, hs, hs'⟩ := exists_short_tail h1 hm
    obtain ⟨B, hE, hD⟩ := exists_aesPerm P hk
    have hC := length_cbcEncrypt P hk hz hr
    have hCr : aesBlockSize ∣ (cbcEncrypt P key (zeros aesBlockSize) regular).length := by rwa [hC]
    have hch := length_chainIv hz hCr
    have hlen := length_stealEncrypt xorMask B hch hf hs'.le
    have hinv := stealDecrypt_stealEncrypt xorMask B hch hf hs'.le
    have htail := aesCtsEncryptTail_eq P hk hz hr hf hs hs'
    rw [hE] at htail
    set C := cbcEncrypt P key (zeros aesBlockSize) regular with hCd
    set S := stealEncrypt xorMask aesBlockSize B.enc (chainIv (zeros aesBlockSize) C) full short
    have hl : (C ++ S).length = (regular ++ full ++ short).length := by
      simp only [List.length_append, hlen, hC, hf]; omega
    have hsp : C ++ S = C ++ S.take aesBlockSize ++ S.drop aesBlockSize := by
      rw [List.append_assoc, List.take_append_drop]
    have hdec := aesCtsDecryptTail_eq P hk hCr
      (by rw [List.length_take, hlen]; omega : (S.take aesBlockSize).length = aesBlockSize)
      (by rw [List.length_drop, hlen]; omega : 0 < (S.drop aesBlockSize).length)
      (by rw [List.length_drop, hlen]; omega)
    rw [← hsp, hD, hinv, cbcDecrypt_cbcEncrypt P hk hz hr, ← List.append_assoc] at hdec
    refine ⟨(aesCtsEncryptTail P key (zeros aesBlockSize) (regular ++ full ++ short)).1, C ++ S, ?_, hl, ?_⟩
    · rw [he, ← htail]
    · rw [aesCtsDecrypt_of_tail P key (hl.symm ▸ h1) (hl.symm ▸ hm), hdec]

theorem aesCtsEncrypt_aesCtsDecrypt {c : Bytes} (h : aesBlockSize ≤ c.length) :
    ∃ nextIv p, aesCtsDecrypt P key c = .ok p ∧ p.length = c.length ∧
      aesCtsEncrypt P key p = .ok (nextIv, c) := by
  have hz := length_zeros aesBlockSize
  rcases cts_cases h with h1 | ⟨h1, hm⟩ | ⟨h1, hm⟩
  · have hd : aesBlockSize ∣ c.length := by rw [h1]
    have hP := (length_cbcDecrypt P hk hz hd).trans h1
    refine ⟨c, _, aesCtsDecrypt_of_block P key h1, hP.trans h1.symm, ?_⟩
    rw [aesCtsEncrypt_of_le P key (by rw [hP]; decide) hP.le, zeroPad_of_dvd (by rw [hP]),
      cbcEncrypt_cbcDecrypt P hk hz hd]
  · have h2 := two_blocks_le h1 hm
    have hS := length_swapLastTwoBlocks h2
    have hd : aesBlockSize ∣ (swapLastTwoBlocks c).length := by
      rw [hS]; exact Nat.dvd_of_mod_eq_zero hm
    have hP := (length_cbcDecrypt P hk hz hd).trans hS
    have hgt : aesBlockSize < (cbcDecrypt P key (zeros aesBlockSize) (swapLastTwoBlocks c)).length :=
      hP.symm ▸ h1
    obtain ⟨nextIv, he⟩ := aesCtsEncrypt_of_blocks P key hgt (hP.symm ▸ hm)
    refine ⟨nextIv, _, aesCtsDecrypt_of_blocks P key h1 hm, hP, ?_⟩
    rw [he, cbcEncrypt_cbcDecrypt P hk hz hd, swapLastTwoBlocks_involutive h2]
  · have he := aesCtsDecrypt_of_tail P key h1 hm
    obtain ⟨regular, first, second, rfl, hr, hf, hs, hs'⟩ := exists_short_tail h1 hm
    obtain ⟨B, hE, hD⟩ := exists_aesPerm P hk
    have hC := length_cbcDecrypt P hk hz hr
    have hCr : aesBlockSize ∣ (cbcDecrypt P key (zeros aesBlockSize) regular).length := by rwa [hC]
    have hch := length_chainIv hz hr
    have hlen := length_stealDecrypt xorMask B hch hf hs'.le
    have hinv := stealEncrypt_stealDecrypt xorMask B hch hf hs'.le
    rw [aesCtsDecryptTail_eq P hk hr hf hs hs', hD] at he
    set C := cbcDecrypt P key (zeros aesBlockSize) regular with hCd
    set S := stealDecrypt xorMask B.dec (chainIv (zeros aesBlockSize) regular) first second
    have hl : (C ++ S).length = (regular ++ first ++ second).length := by
      simp only [List.length_append, hlen, hC, hf]; omega
    have hsp : C ++ S = C ++ S.take aesBlockSize ++ S.drop aesBlockSize := by
      rw [List.append_assoc, List.take_append_drop]
    have henc := aesCtsEncryptTail_eq P hk hz hCr
      (by rw [List.length_take, hlen]; omega : (S.take aesBlockSize).length = aesBlockSize)
      (by rw [List.length_drop, hlen]; omega : 0 < (S.drop aesBlockSize).length)
      (by rw [List.length_drop, hlen]; omega)
    rw [← hsp, hE, hCd, cbcEncrypt_cbcDecrypt P hk hz hr, hinv, ← List.append_assoc, ← hCd] at henc
    refine ⟨(aesCtsEncryptTail P key (zeros aesBlockSize) (C ++ S)).1, C ++ S, he, hl, ?_⟩
    rw [aesCtsEncrypt_of_tail P key (hl.symm ▸ h1) (hl.symm ▸ hm), ← henc]

theorem aesCtsDecrypt_aesCtsEncrypt_short {p : Bytes} (h0 : 0 < p.length)
    (h : p.length < aesBlockSize) :
    ∃ nextIv c, aesCtsEncrypt P key p = .ok (nextIv, c) ∧
      aesCtsDecrypt P key c = .ok (p ++ zeros (aesBlockSize - p.length)) := by
  have hz := length_zeros aesBlockSize
  have hpad : zeroPad p aesBlockSize = p ++ zeros (aesBlockSize - p.length) := by
    rw [zeroPad, Nat.mod_eq_of_lt h, if_pos (Nat.ne_of_gt h0)]
  have hl : (zeroPad p aesBlockSize).length = aesBlockSize := by
    rw [hpad, List.length_append, length_zeros]; omega
  have hd : aesBlockSize ∣ (zeroPad p aesBlockSize).length := by rw [hl]
  refine ⟨_, _, aesCtsEncrypt_of_le P key h0 h.le, ?_⟩
  rw [aesCtsDecrypt_of_block P key ((length_cbcEncrypt P hk hz hd).trans hl),
    cbcDecrypt_cbcEncrypt P hk hz hd, hpad]

end Cts

/-- Ciphertext stealing permutes the strings of each length from one block on, and a
shorter string comes back completed by zeros to a block. -/
theorem aesCts_bijective {key : Bytes} (hk : key.length = 16 ∨ key.length = 32) :
    (∀ p : Bytes, aesBlockSize ≤ p.length → ∃ nextIv c, aesCtsEncrypt P key p = .ok (nextIv, c) ∧
      c.length = p.length ∧ aesCtsDecrypt P key c = .ok p) ∧
    (∀ c : Bytes, aesBlockSize ≤ c.length → ∃ nextIv p, aesCtsDecrypt P key c = .ok p ∧
      p.length = c.length ∧ aesCtsEncrypt P key p = .ok (nextIv, c)) ∧
    (∀ p : Bytes, 0 < p.length → p.length < aesBlockSize →
      ∃ nextIv c, aesCtsEncrypt P key p = .ok (nextIv, c) ∧
        aesCtsDecrypt P key c = .ok (p ++ zeros (aesBlockSize - p.length))) :=
  ⟨fun _ ↦ aesCtsDecrypt_aesCtsEncrypt P hk, fun _ ↦ aesCtsEncrypt_aesCtsDecrypt P hk,
    fun _ ↦ aesCtsDecrypt_aesCtsEncrypt_short P hk⟩

/-- The example vector of the AES-128 standard. -/
def fips197Key : Bytes := (List.range 16).map UInt8.ofNat
def fips197Plain : Bytes := (List.range 16).map fun i ↦ UInt8.ofNat (0x11 * i)
def fips197Cipher : Bytes :=
  [0x69, 0xc4, 0xe0, 0xd8, 0x6a, 0x7b, 0x04, 0x30, 0xd8, 0xcd, 0xb7, 0x80, 0x70, 0xb4, 0xc5, 0x5a]

def fips197 : Primitives := .ofKnownAnswers { aes128 := fun _ ↦ (fips197Plain, fips197Cipher) }

theorem aesCts_bijective_fips197 :
    aesCtsEncrypt fips197 fips197Key fips197Plain = .ok (fips197Cipher, fips197Cipher) ∧
      fips197Cipher.length = fips197Plain.length ∧
      aesCtsDecrypt fips197 fips197Key fips197Cipher = .ok fips197Plain := by
  have he : aesCtsEncrypt fips197 fips197Key fips197Plain = .ok (fips197Cipher, fips197Cipher) := by
    decide
  obtain ⟨nextIv, c, h, hl, hd⟩ :=
    (aesCts_bijective fips197 (.inl rfl : fips197Key.length = 16 ∨ _)).1 fips197Plain (by decide)
  obtain ⟨rfl, rfl⟩ := Prod.mk.inj (Except.ok.inj (he.symm.trans h))
  exact ⟨he, hl, hd⟩

section Des3

variable (key : Bytes)

theorem des3CbcEncrypt_ok {plaintext : Bytes} (h : 0 < plaintext.length) :
    ∃ nextIv c, des3CbcEncrypt P key plaintext = .ok (nextIv, c) ∧
      c.length = (zeroPad plaintext des3BlockSize).length ∧
      des3CbcDecrypt P key c = .ok (zeroPad plaintext des3BlockSize) := by
  have hne := List.length_pos_iff.mp h
  have hd := dvd_length_zeroPad plaintext (by decide : 0 < des3BlockSize)
  have hz := length_zeros des3BlockSize
  obtain ⟨k, hk⟩ := zeroPad_eq_append plaintext des3BlockSize
  have hpos : 0 < (zeroPad plaintext des3BlockSize).length := by
    rw [hk, List.length_append]; omega
  have hl := Lib.BlockModes.length_cbcEncrypt xorMask (P.tdesEde3 key) (by decide) hz _ hd
  have hinv := Lib.BlockModes.cbcDecrypt_cbcEncrypt xorMask (P.tdesEde3 key) (by decide) hz _ hd
  refine ⟨_, _, by simp only [des3CbcEncrypt, List.isEmpty_iff, hne, if_false]; rfl, hl, ?_⟩
  have hge : ¬ (zeroPad plaintext des3BlockSize).length < des3BlockSize :=
    Nat.not_lt.mpr (Nat.le_of_dvd hpos hd)
  have hmod := Nat.mod_eq_zero_of_dvd hd
  simp only [des3CbcDecrypt]
  rw [if_neg (by exact hl.symm ▸ hge), if_neg (by exact hl.symm ▸ (not_not.mpr hmod))]
  exact congrArg Except.ok hinv

theorem des3CbcDecrypt_ok {ciphertext plaintext : Bytes}
    (h : des3CbcDecrypt P key ciphertext = .ok plaintext) :
    0 < plaintext.length ∧ des3BlockSize ∣ plaintext.length ∧ plaintext.length = ciphertext.length ∧
      ∃ nextIv, des3CbcEncrypt P key plaintext = .ok (nextIv, ciphertext) := by
  simp only [des3CbcDecrypt] at h
  split_ifs at h with hlt hmod
  have hd := Nat.dvd_of_mod_eq_zero (not_not.mp hmod)
  have hz := length_zeros des3BlockSize
  have hP := Except.ok.inj h
  have hl : plaintext.length = ciphertext.length := by
    rw [← hP]
    exact Lib.BlockModes.length_cbcDecrypt xorMask (P.tdesEde3 key) (by decide) hz _ hd
  have hinv : (Lib.BlockModes.cbcEncrypt xorMask (des3EncryptBlock P key) (zeros des3BlockSize)
      (chunksExact des3BlockSize plaintext)).2 = ciphertext := by
    rw [← hP]
    exact Lib.BlockModes.cbcEncrypt_cbcDecrypt xorMask (P.tdesEde3 key) (by decide) hz _ hd
  have hpos : 0 < plaintext.length := by
    rw [hl]; exact lt_of_lt_of_le (by decide) (Nat.not_lt.mp hlt)
  have hd' : des3BlockSize ∣ plaintext.length := by rw [hl]; exact hd
  refine ⟨hpos, hd', hl, ?_⟩
  have hne := List.length_pos_iff.mp hpos
  simp only [des3CbcEncrypt, List.isEmpty_iff, hne, if_false, zeroPad_of_dvd hd']
  exact ⟨_, congrArg Except.ok (Prod.ext rfl hinv)⟩

end Des3

end Rskrb5.Crypto
