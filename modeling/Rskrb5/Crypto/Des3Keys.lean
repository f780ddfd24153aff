import Rskrb5.Crypto.Derivation

namespace Rskrb5.Crypto

open Lib.BlockModes

section Parity

/-- An odd number of the eight bits is set. -/
def OddParity (byte : UInt8) : Prop := (List.range 8).countP (byte.toNat.testBit ·) % 2 = 1

instance (byte : UInt8) : Decidable (OddParity byte) :=
  inferInstanceAs (Decidable ((List.range 8).countP (byte.toNat.testBit ·) % 2 = 1))

theorem forall_byte (p : UInt8 → Prop) (h : ∀ n < 256, p (UInt8.ofNat n)) (byte : UInt8) : p byte := by
  have hbyte := h byte.toNat byte.toNat_lt
  rwa [UInt8.ofNat_toNat] at hbyte

theorem oddParity_adjusted (byte : UInt8) : OddParity (des3CalcOddParity byte).2 :=
  forall_byte (fun byte ↦ OddParity (des3CalcOddParity byte).2) (by decide +kernel) byte

/-- The adjustment is in the lowest bit only. -/
theorem adjusted_div_two (byte : UInt8) : (des3CalcOddParity byte).2.toNat / 2 = byte.toNat / 2 :=
  forall_byte (fun byte ↦ (des3CalcOddParity byte).2.toNat / 2 = byte.toNat / 2) (by decide +kernel) byte

theorem lowestBit_ne_zero_iff (byte : UInt8) : (des3CalcOddParity byte).1 ≠ 0 ↔ byte.toNat % 2 = 1 :=
  forall_byte (fun byte ↦ (des3CalcOddParity byte).1 ≠ 0 ↔ byte.toNat % 2 = 1) (by decide +kernel) byte

theorem oddParity_xor {byte : UInt8} (h : OddParity byte) : OddParity (byte ^^^ 0xf0) :=
  forall_byte (fun byte ↦ OddParity byte → OddParity (byte ^^^ 0xf0)) (by decide +kernel) byte h

end Parity

section Stretch

/-- The lowest bits of some bytes, the first of them lowest. -/
def lowBits : Bytes → ℕ
  | [] => 0
  | byte :: bytes => byte.toNat % 2 + 2 * lowBits bytes

def collectLowBit (last : UInt8) (entry : UInt8 × ℕ) : UInt8 :=
  if (des3CalcOddParity entry.1).1 ≠ 0 then last ||| (1 <<< UInt8.ofNat (entry.2 + 1)) else last

theorem toNat_collectLowBit {last : UInt8} {idx : ℕ} (byte : UInt8) (hidx : idx < 7)
    (hlast : last.toNat < 2 ^ (idx + 1)) :
    (collectLowBit last (byte, idx)).toNat = last.toNat + 2 ^ (idx + 1) * (byte.toNat % 2) := by
  have hmod := Nat.mod_two_eq_zero_or_one byte.toNat
  unfold collectLowBit
  split
  · next hbit =>
    have hone := (lowestBit_ne_zero_iff byte).mp hbit
    have hshift : ((1 : UInt8) <<< UInt8.ofNat (idx + 1)).toNat = 2 ^ (idx + 1) * 1 := by
      have hshifts : ∀ idx < 7, ((1 : UInt8) <<< UInt8.ofNat (idx + 1)).toNat = 2 ^ (idx + 1) * 1 := by decide
      exact hshifts idx hidx
    rw [UInt8.toNat_or, hshift, Nat.or_comm, ← Nat.two_pow_add_eq_or_of_lt hlast, hone, Nat.add_comm]
  · next hbit =>
    have hzero := hmod.resolve_right (mt (lowestBit_ne_zero_iff byte).mpr hbit)
    rw [hzero, Nat.mul_zero, Nat.add_zero]

theorem toNat_collectLowBits {bytes : Bytes} {idx : ℕ} {last : UInt8} (hlen : idx + bytes.length ≤ 7)
    (hlast : last.toNat < 2 ^ (idx + 1)) :
    ((bytes.zipIdx idx).foldl collectLowBit last).toNat = last.toNat + 2 ^ (idx + 1) * lowBits bytes := by
  induction bytes generalizing idx last with
  | nil => simp [lowBits]
  | cons byte bytes ih =>
    rw [List.length_cons] at hlen
    have hstep := toNat_collectLowBit byte (by omega) hlast
    have hpow : 2 ^ (idx + 1 + 1) = 2 ^ (idx + 1) * 2 := pow_succ _ _
    have hlast' : (collectLowBit last (byte, idx)).toNat < 2 ^ (idx + 1 + 1) := by
      have hmod := Nat.mod_lt byte.toNat (by decide : 2 > 0)
      rw [hstep, hpow]
      nlinarith
    rw [List.zipIdx_cons, List.foldl_cons, ih (by omega) hlast', hstep, lowBits, hpow]
    ring

theorem eq_of_adjusted {bytes bytes' : Bytes}
    (hadjusted : bytes.map (fun byte ↦ (des3CalcOddParity byte).2) =
      bytes'.map fun byte ↦ (des3CalcOddParity byte).2)
    (hlow : lowBits bytes = lowBits bytes') : bytes = bytes' := by
  induction bytes generalizing bytes' with
  | nil => exact (List.map_eq_nil_iff.mp hadjusted.symm).symm
  | cons byte bytes ih =>
    cases bytes' with
    | nil => cases hadjusted
    | cons byte' bytes' =>
      obtain ⟨hbyte, hadjusted⟩ := List.cons.inj hadjusted
      dsimp only at hbyte
      have hhigh := adjusted_div_two byte
      rw [hbyte, adjusted_div_two byte'] at hhigh
      rw [lowBits, lowBits] at hlow
      have heq : byte.toNat = byte'.toNat := by omega
      rw [UInt8.toNat_inj.mp heq, ih hadjusted (by omega)]

/-- The seven bytes come back from the stretched form: it keeps the high bits in place, and the lowest
bits in the byte behind them. -/
theorem des3Stretch56Bits_injective {seed seed' : Bytes} (h : seed.length = 7) (h' : seed'.length = 7)
    (heq : des3Stretch56Bits seed = des3Stretch56Bits seed') : seed = seed' := by
  have hlow : ∀ seed : Bytes, seed.length = 7 →
      ((seed.zipIdx.foldl collectLowBit 0).toNat) / 2 = lowBits seed := by
    intro seed h
    rw [toNat_collectLowBits (by omega) (by decide)]
    simp
  obtain ⟨hadjusted, hlast⟩ := List.append_inj heq (by simp [h, h'])
  have hlast := congrArg (fun byte : UInt8 ↦ byte.toNat / 2) (List.head_eq_of_cons_eq hlast)
  dsimp only at hlast
  rw [adjusted_div_two, adjusted_div_two] at hlast
  exact eq_of_adjusted hadjusted ((hlow seed h).symm.trans (hlast.trans (hlow seed' h')))

end Stretch

section Keys

/-- The block of a key that a seventh of a seed becomes. -/
def keyBlock (seed : Bytes) : Bytes := des3FixWeakKey (des3Stretch56Bits seed)

theorem oddParity_stretched {seed : Bytes} : ∀ byte ∈ des3Stretch56Bits seed, OddParity byte := by
  intro byte hbyte
  rcases List.mem_append.mp hbyte with hbyte | hbyte
  · obtain ⟨source, -, rfl⟩ := List.mem_map.mp hbyte
    exact oddParity_adjusted source
  · rw [List.mem_singleton.mp hbyte]
    exact oddParity_adjusted _

theorem oddParity_keyBlock (seed : Bytes) : ∀ byte ∈ keyBlock seed, OddParity byte := by
  unfold keyBlock des3FixWeakKey
  split
  · intro byte hbyte
    obtain ⟨i, hi⟩ := List.mem_iff_getElem?.mp hbyte
    rw [List.getElem?_modify] at hi
    obtain ⟨source, hsource, rfl⟩ := Option.map_eq_some_iff.mp hi
    have hodd := oddParity_stretched source (List.mem_of_getElem? hsource)
    split
    · exact oddParity_xor hodd
    · exact hodd
  · exact oddParity_stretched

theorem keyBlock_not_mem_weakKeys (seed : Bytes) : keyBlock seed ∉ weakKeys := by
  have hfixed : ∀ block ∈ weakKeys, block.modify (des3BlockSize - 1) (· ^^^ 0xf0) ∉ weakKeys := by decide
  unfold keyBlock des3FixWeakKey
  split
  · next hweak => exact hfixed _ (List.contains_iff_mem.mp hweak)
  · next hweak => exact fun hmem ↦ hweak (List.contains_iff_mem.mpr hmem)

theorem keyBlock_of_not_mem {seed : Bytes} (h : des3Stretch56Bits seed ∉ weakKeys) :
    keyBlock seed = des3Stretch56Bits seed := if_neg (mt List.contains_iff_mem.mp h)

theorem length_keyBlock {seed : Bytes} (h : seed.length = 7) : (keyBlock seed).length = des3BlockSize := by
  rw [keyBlock, length_des3FixWeakKey, length_des3Stretch56Bits, h]
  rfl

/-- A key from a seed of 21 bytes has odd parity and no weak block, and but for the blocks that were
weak nothing of the seed is lost. -/
theorem des3RandomToKey_wellFormed :
    (∀ seed : Bytes, seed.length = 21 → ∃ key, des3RandomToKey seed = .ok key ∧ key.length = 24 ∧
      (∀ byte ∈ key, OddParity byte) ∧
      chunksExact 8 key = (chunksExact 7 seed).map keyBlock ∧ ∀ block ∈ chunksExact 8 key, block ∉ weakKeys) ∧
    (∀ part part' : Bytes, part.length = 7 → part'.length = 7 →
      des3Stretch56Bits part = des3Stretch56Bits part' → part = part') ∧
    (∀ part part' : Bytes, part.length = 7 → part'.length = 7 → des3Stretch56Bits part ∉ weakKeys →
      keyBlock part = keyBlock part' → part = part' ∨ des3Stretch56Bits part' ∈ weakKeys) ∧
    ∀ seed : Bytes, seed.length ≠ 21 → des3RandomToKey seed = .error (.invalidSeedLength 21 seed.length) := by
  refine ⟨fun seed h ↦ ?_, fun part part' h h' ↦ des3Stretch56Bits_injective h h', fun part part' h h' hweak heq ↦ ?_,
    fun seed h ↦ if_pos h⟩
  · obtain ⟨key, hkey, hlength⟩ := des3RandomToKey_ok h
    have hblocks : key = (chunksExact 7 seed).flatMap keyBlock :=
      Except.ok.inj (hkey.symm.trans (if_neg (not_not.mpr h)))
    have hchunks : chunksExact 8 key = (chunksExact 7 seed).map keyBlock := by
      rw [hblocks]
      exact chunksExact_flatMap (by decide) _ fun part hpart ↦ length_keyBlock (length_of_mem_chunksExact hpart)
    refine ⟨key, hkey, hlength, fun byte hbyte ↦ ?_, hchunks, fun block hblock ↦ ?_⟩
    · rw [hblocks] at hbyte
      obtain ⟨part, -, hbyte⟩ := List.mem_flatMap.mp hbyte
      exact oddParity_keyBlock part byte hbyte
    · rw [hchunks] at hblock
      obtain ⟨part, -, rfl⟩ := List.mem_map.mp hblock
      exact keyBlock_not_mem_weakKeys part
  · by_cases hweak' : des3Stretch56Bits part' ∈ weakKeys
    · exact .inr hweak'
    · rw [keyBlock_of_not_mem hweak, keyBlock_of_not_mem hweak'] at heq
      exact .inl (des3Stretch56Bits_injective h h' heq)

/-- A seed whose block is repaired gets the block that another seed has of itself. -/
theorem repaired_block_not_unique :
    des3Stretch56Bits [0, 0, 0, 1, 1, 1, 1] ∉ weakKeys ∧
    keyBlock [0, 0, 0, 1, 1, 1, 1] = keyBlock [0, 0, 0, 0, 0, 0, 0] := by
  decide

end Keys

end Rskrb5.Crypto
