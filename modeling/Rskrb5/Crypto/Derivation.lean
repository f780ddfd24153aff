import Rskrb5.Crypto.Modes

namespace Rskrb5.Crypto

open Lib.BlockModes

section Nfold

def getBit (bytes : Bytes) (position : ℕ) : UInt8 :=
  (bytes.getD (position / 8) 0 >>> UInt8.ofNat (7 - position % 8)) &&& 1

def setBit (bytes : Bytes) (position : ℕ) (value : UInt8) : Bytes :=
  bytes.modify (position / 8) fun byte ↦ byte ||| (value <<< UInt8.ofNat (7 - position % 8))

def rotateRight (bytes : Bytes) (steps : ℕ) : Bytes :=
  let bitLen := bytes.length * 8
  (List.range bitLen).foldl (fun out i ↦ setBit out ((i + steps) % bitLen) (getBit bytes i))
    (zeros bytes.length)

def addBit (left right : Bytes) (s : Bytes × UInt8) (bitIndex : ℕ) : Bytes × UInt8 :=
  match (getBit left bitIndex + getBit right bitIndex + s.2).toNat with
  | 0 => (s.1, 0)
  | 1 => (setBit s.1 bitIndex 1, 0)
  | 2 => (s.1, 1)
  | _ => (setBit s.1 bitIndex 1, 1)

def addBits (left right : Bytes) : Bytes × UInt8 :=
  (List.range (left.length * 8)).reverse.foldl (addBit left right) (zeros left.length, 0)

/-- The addition and its call on the carry; `passes` bounds the calls. -/
def onesComplementPasses : ℕ → Bytes → Bytes → Bytes
  | 0, left, _ => left
  | passes + 1, left, right =>
    let (out, carry) := addBits left right
    if carry = 1 then onesComplementPasses passes out (zeros (left.length - 1) ++ [1]) else out

/-- The end-around carry cannot carry again, so there are at most two passes. -/
def onesComplementAddition (left right : Bytes) : Bytes := onesComplementPasses 2 left right

def lcm (left right : ℕ) : ℕ := left * right / Nat.gcd left right

def nfold (input : Bytes) (outputBits : ℕ) : Except Error Bytes :=
  if input.isEmpty then .error .emptyNfoldInput
  else if outputBits = 0 ∨ outputBits % 8 ≠ 0 then .error (.invalidNfoldOutputBits outputBits)
  else
    let inputBits := input.length * 8
    let lcmBits := lcm outputBits inputBits
    let replicate := lcmBits / inputBits
    let sumBytes := (List.range replicate).foldl (fun sum i ↦ sum ++ rotateRight input (13 * i)) []
    let outputLen := outputBits / 8
    .ok ((chunksExact outputLen sumBytes).foldl onesComplementAddition (zeros outputLen))

@[simp] theorem length_setBit (bytes : Bytes) (position : ℕ) (value : UInt8) :
    (setBit bytes position value).length = bytes.length := by
  simp [setBit]

theorem length_addBit (left right : Bytes) (s : Bytes × UInt8) (bitIndex : ℕ) :
    (addBit left right s bitIndex).1.length = s.1.length := by
  unfold addBit
  split <;> simp

theorem length_addBits (left right : Bytes) : (addBits left right).1.length = left.length := by
  have step : ∀ (indices : List ℕ) (s : Bytes × UInt8),
      (indices.foldl (addBit left right) s).1.length = s.1.length := by
    intro indices
    induction indices with
    | nil => exact fun _ ↦ rfl
    | cons i indices ih => exact fun s ↦ (ih _).trans (length_addBit left right s i)
  exact (step _ _).trans (length_zeros left.length)

theorem length_onesComplementAddition (left right : Bytes) :
    (onesComplementAddition left right).length = left.length := by
  have step : ∀ (passes : ℕ) (left right : Bytes),
      (onesComplementPasses passes left right).length = left.length := by
    intro passes
    induction passes with
    | zero => exact fun _ _ ↦ rfl
    | succ passes ih =>
      intro left right
      simp only [onesComplementPasses]
      split
      · rw [ih, length_addBits]
      · exact length_addBits left right
  exact step 2 left right

theorem length_foldl_onesComplementAddition (chunks : List Bytes) (folded : Bytes) :
    (chunks.foldl onesComplementAddition folded).length = folded.length := by
  induction chunks generalizing folded with
  | nil => rfl
  | cons chunk chunks ih => rw [List.foldl_cons, ih, length_onesComplementAddition]

theorem nfold_ok {input : Bytes} (h : input ≠ []) {n : ℕ} (hn : 0 < n) :
    ∃ folded, nfold input (n * 8) = .ok folded ∧ folded.length = n := by
  have hb : ¬ (n * 8 = 0 ∨ n * 8 % 8 ≠ 0) := by omega
  refine ⟨_, by simp only [nfold, List.isEmpty_iff, h, hb, if_false]; rfl, ?_⟩
  rw [length_foldl_onesComplementAddition, length_zeros, Nat.mul_div_cancel _ (by decide)]

end Nfold

section DeriveRandom

/-- The output loop of `derive_random`; every turn adds at least a byte, so `fuel` is
the output length. -/
def deriveRandomLoop (encryptData : Bytes → Except Error (Bytes × Bytes)) (len : ℕ) :
    ℕ → Bytes → Bytes → Except Error Bytes
  | 0, out, _ => .ok out
  | fuel + 1, out, block =>
    if out.length < len then
      let remaining := len - out.length
      let out := out ++ block.take (min remaining block.length)
      if out.length < len then
        match encryptData block with
        | .error e => .error e
        | .ok (_, next) => deriveRandomLoop encryptData len fuel out next
      else deriveRandomLoop encryptData len fuel out block
    else .ok out

variable {encryptData : Bytes → Except Error (Bytes × Bytes)} {n : ℕ} (hn : 0 < n)
  (henc : ∀ b : Bytes, b.length = n → ∃ iv c, encryptData b = .ok (iv, c) ∧ c.length = n)

include hn henc

theorem deriveRandomLoop_fills {len : ℕ} (fuel : ℕ) {out block : Bytes} (hb : block.length = n)
    (ho : out.length ≤ len)
    (hf : len - out.length ≤ fuel) :
    ∃ random, deriveRandomLoop encryptData len fuel out block = .ok random ∧
      random.length = len := by
  induction fuel generalizing out block with
  | zero => exact ⟨out, rfl, by omega⟩
  | succ fuel ih =>
    rw [deriveRandomLoop]
    split
    · next hlt =>
      have hl : (out ++ block.take (min (len - out.length) block.length)).length =
          out.length + min (len - out.length) n := by
        rw [List.length_append, List.length_take, hb]; omega
      simp only
      split
      · obtain ⟨iv, c, he, hc⟩ := henc block hb
        rw [he]
        exact ih hc (by omega) (by omega)
      · exact ih hb (by omega) (by omega)
    · exact ⟨out, rfl, by omega⟩

theorem deriveRandomLoop_ok (len : ℕ) {block : Bytes} (hb : block.length = n) :
    ∃ random, deriveRandomLoop encryptData len len [] block = .ok random ∧ random.length = len :=
  deriveRandomLoop_fills hn henc len hb (Nat.zero_le len) (Nat.sub_le len 0)

end DeriveRandom

section Des3Key

def des3CalcOddParity (byte : UInt8) : UInt8 × UInt8 :=
  let lowestBit := byte &&& 0x01
  let count := ((List.range 7).map (· + 1)).countP fun position ↦
    byte &&& (1 <<< UInt8.ofNat position) ≠ 0
  (lowestBit, if count % 2 = 0 then byte ||| 1 else byte &&& ~~~1)

def des3Stretch56Bits (bytes : Bytes) : Bytes :=
  let lastByte := bytes.zipIdx.foldl (fun last (byte, idx) ↦
    if (des3CalcOddParity byte).1 ≠ 0 then last ||| (1 <<< UInt8.ofNat (idx + 1)) else last) 0
  bytes.map (fun byte ↦ (des3CalcOddParity byte).2) ++ [(des3CalcOddParity lastByte).2]

def weakKeys : List Bytes :=
  [[0x01, 0x01, 0x01, 0x01, 0x01, 0x01, 0x01, 0x01],
   [0xfe, 0xfe, 0xfe, 0xfe, 0xfe, 0xfe, 0xfe, 0xfe],
   [0xe0, 0xe0, 0xe0, 0xe0, 0xf1, 0xf1, 0xf1, 0xf1],
   [0x1f, 0x1f, 0x1f, 0x1f, 0x0e, 0x0e, 0x0e, 0x0e],
   [0x01, 0x1f, 0x01, 0x1f, 0x01, 0x0e, 0x01, 0x0e],
   [0x1f, 0x01, 0x1f, 0x01, 0x0e, 0x01, 0x0e, 0x01],
   [0x01, 0xe0, 0x01, 0xe0, 0x01, 0xf1, 0x01, 0xf1],
   [0xe0, 0x01, 0xe0, 0x01, 0xf1, 0x01, 0xf1, 0x01],
   [0x01, 0xfe, 0x01, 0xfe, 0x01, 0xfe, 0x01, 0xfe],
   [0xfe, 0x01, 0xfe, 0x01, 0xfe, 0x01, 0xfe, 0x01],
   [0x1f, 0xe0, 0x1f, 0xe0, 0x0e, 0xf1, 0x0e, 0xf1],
   [0xe0, 0x1f, 0xe0, 0x1f, 0xf1, 0x0e, 0xf1, 0x0e],
   [0x1f, 0xfe, 0x1f, 0xfe, 0x0e, 0xfe, 0x0e, 0xfe],
   [0xfe, 0x1f, 0xfe, 0x1f, 0xfe, 0x0e, 0xfe, 0x0e],
   [0xe0, 0xfe, 0xe0, 0xfe, 0xf1, 0xfe, 0xf1, 0xfe],
   [0xfe, 0xe0, 0xfe, 0xe0, 0xfe, 0xf1, 0xfe, 0xf1]]

def des3IsWeakKey (block : Bytes) : Bool := weakKeys.contains block

def des3FixWeakKey (block : Bytes) : Bytes :=
  if des3IsWeakKey block then block.modify (des3BlockSize - 1) (· ^^^ 0xf0) else block

def des3RandomToKey (bytes : Bytes) : Except Error Bytes :=
  if bytes.length ≠ des3SeedSize then .error (.invalidSeedLength des3SeedSize bytes.length)
  else .ok ((chunksExact 7 bytes).flatMap fun seed ↦ des3FixWeakKey (des3Stretch56Bits seed))

@[simp] theorem length_des3Stretch56Bits (bytes : Bytes) :
    (des3Stretch56Bits bytes).length = bytes.length + 1 := by
  simp [des3Stretch56Bits]

@[simp] theorem length_des3FixWeakKey (block : Bytes) :
    (des3FixWeakKey block).length = block.length := by
  unfold des3FixWeakKey
  split <;> simp

theorem length_flatMap_chunks (seed : Bytes) (h : 7 ∣ seed.length) :
    ((chunksExact 7 seed).flatMap fun seed ↦ des3FixWeakKey (des3Stretch56Bits seed)).length * 7 =
      seed.length * 8 := by
  induction seed, h using block_induction with
  | nil => simp [chunksExact_nil]
  | block b seed hb _ _ ih =>
    rw [chunksExact_append (by decide) hb, List.flatMap_cons, List.length_append, Nat.add_mul, ih]
    simp only [length_des3FixWeakKey, length_des3Stretch56Bits, List.length_append, hb]
    omega

theorem des3RandomToKey_ok {bytes : Bytes} (h : bytes.length = des3SeedSize) :
    ∃ key, des3RandomToKey bytes = .ok key ∧ key.length = des3KeySize := by
  have hl := length_flatMap_chunks bytes (by rw [h]; decide)
  refine ⟨_, if_neg (not_not.mpr h), ?_⟩
  rw [h] at hl
  simp only [des3SeedSize, des3KeySize] at hl ⊢
  omega

end Des3Key

end Rskrb5.Crypto
