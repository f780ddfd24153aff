import Rskrb5.Crypto.Nfold

namespace Rskrb5.Crypto

open Lib.Arithmetic Lib.BlockModes

section Words

/-- A division, which panics on zero in every build. -/
def quotient (n divisor : ℕ) : Option ℕ := if divisor = 0 then none else some (n / divisor)

def rotateRightWords (build : Build) (bytes : Bytes) (steps : ℕ) : Option Bytes := do
  let bitLen ← build.usize (bytes.length * 8)
  (List.range bitLen).foldlM (fun out i ↦ do
    let position ← build.usize (i + steps)
    return setBit out (position % bitLen) (getBit bytes i)) (zeros bytes.length)

def lcmWords (build : Build) (left right : ℕ) : Option ℕ := do
  let product ← build.usize (left * right)
  quotient product (Nat.gcd left right)

/-- `nfold` with the machine arithmetic of its lengths. Memory is taken to suffice. -/
def nfoldWords (build : Build) (input : Bytes) (outputBits : ℕ) : Option (Except Error Bytes) :=
  if input.isEmpty then some (.error .emptyNfoldInput)
  else if outputBits = 0 ∨ outputBits % 8 ≠ 0 then some (.error (.invalidNfoldOutputBits outputBits))
  else do
    let inputBits ← build.usize (input.length * 8)
    let lcmBits ← lcmWords build outputBits inputBits
    let replicate ← quotient lcmBits inputBits
    let _capacity ← build.usize (input.length * replicate)
    let sumBytes ← (List.range replicate).foldlM (fun sum i ↦ do
      let steps ← build.usize (13 * i)
      let rotated ← rotateRightWords build input steps
      return sum ++ rotated) []
    let outputLen := outputBits / 8
    -- The addition counts the bits of its operands, `outputBits` again.
    return .ok ((chunksExact outputLen sumBytes).foldl onesComplementAddition (zeros outputLen))

end Words

section Fits

variable {input : Bytes} {n : ℕ}

theorem foldlM_eq_some {α σ : Type} {f : σ → α → Option σ} {g : σ → α → σ} {as : List α}
    (h : ∀ a ∈ as, ∀ s, f s a = some (g s a)) (s : σ) : as.foldlM f s = some (as.foldl g s) := by
  induction as generalizing s with
  | nil => rfl
  | cons a as ih =>
    rw [List.foldlM_cons, h a List.mem_cons_self s, List.foldl_cons]
    exact ih (fun b hb ↦ h b (List.mem_cons_of_mem a hb)) (g s a)

theorem rotateRightWords_eq (build : Build) {bytes : Bytes} {steps : ℕ} (h : bytes.length * 8 + steps < 2 ^ 64) :
    rotateRightWords build bytes steps = some (rotateRight bytes steps) := by
  rw [rotateRightWords, build.usize_of_lt (by omega)]
  refine foldlM_eq_some (fun i hi out ↦ ?_) _
  have hi := List.mem_range.mp hi
  rw [build.usize_of_lt (by omega)]
  rfl

theorem foldlM_rotateRightWords (build : Build) {bytes : Bytes} {copies : ℕ}
    (h : bytes.length * 8 + 13 * copies < 2 ^ 64) :
    (List.range copies).foldlM (fun sum i ↦ do
        let steps ← build.usize (13 * i)
        let rotated ← rotateRightWords build bytes steps
        return sum ++ rotated) [] = some ((List.range copies).flatMap fun i ↦ rotated bytes (13 * i)) := by
  rw [List.flatMap_eq_foldl]
  refine foldlM_eq_some (fun i hi sum ↦ ?_) _
  have hi := List.mem_range.mp hi
  rw [build.usize_of_lt (by omega), ← rotateRight_eq_rotated, Option.bind_eq_bind, Option.bind_some,
    rotateRightWords_eq build (by omega)]
  rfl

theorem quotient_of_ne_zero (n : ℕ) {divisor : ℕ} (h : divisor ≠ 0) : quotient n divisor = some (n / divisor) :=
  if_neg h

theorem copies_le (n k : ℕ) : Nat.lcm n k / k ≤ n :=
  Nat.div_le_of_le_mul (Nat.mul_comm k n ▸ Nat.div_le_self (n * k) (Nat.gcd n k))

/-- Past its two checks, the function is a run of fallible steps. -/
theorem nfoldWords_unfold (build : Build) (hinput : input ≠ []) (hn : 0 < n) :
    nfoldWords build input (n * 8) = (do
      let inputBits ← build.usize (input.length * 8)
      let lcmBits ← lcmWords build (n * 8) inputBits
      let replicate ← quotient lcmBits inputBits
      let _capacity ← build.usize (input.length * replicate)
      let sumBytes ← (List.range replicate).foldlM (fun sum i ↦ do
        let steps ← build.usize (13 * i)
        let rotated ← rotateRightWords build input steps
        return sum ++ rotated) []
      return .ok ((chunksExact (n * 8 / 8) sumBytes).foldl onesComplementAddition (zeros (n * 8 / 8)))) := by
  have hbits : ¬ (n * 8 = 0 ∨ n * 8 % 8 ≠ 0) := by omega
  have hempty : ¬ input.isEmpty = true := by rwa [List.isEmpty_iff]
  rw [nfoldWords, if_neg hempty, if_neg hbits]

theorem lcmWords_eq (build : Build) (hn : 0 < n) {k : ℕ} (h : n * k < 2 ^ 64) :
    lcmWords build n k = some (lcm n k) := by
  rw [lcmWords, build.usize_of_lt h]
  exact quotient_of_ne_zero _ (Nat.gcd_pos_of_pos_left k hn).ne'

/-- Where the product of the two lengths fits a machine word, all that is computed of them does. -/
theorem nfoldWords_eq (build : Build) (hinput : input ≠ []) (hn : 0 < n)
    (h : n * 8 * (input.length * 8) < 2 ^ 64) : nfoldWords build input (n * 8) = some (nfold input (n * 8)) := by
  have hpos := List.length_pos_iff.mpr hinput
  have hcopies := copies_le n input.length
  have hk : input.length ≤ n * input.length := Nat.le_mul_of_pos_left _ hn
  have hnk : n ≤ n * input.length := Nat.le_mul_of_pos_right n hpos
  have hprod : n * 8 * (input.length * 8) = 64 * (n * input.length) := by ring
  have hcapacity : input.length * (Nat.lcm n input.length / input.length) ≤ n * input.length :=
    (Nat.mul_le_mul_left _ hcopies).trans_eq (Nat.mul_comm _ _)
  rw [nfoldWords_unfold build hinput hn, build.usize_of_lt (by omega), Option.bind_eq_bind, Option.bind_some,
    lcmWords_eq build (by omega) h, Option.bind_some, quotient_of_ne_zero _ (by omega), Option.bind_some, copies_eq,
    build.usize_of_lt (by omega), Option.bind_some]
  have hrotations : (List.range (Nat.lcm n input.length / input.length)).foldlM (fun sum i ↦ do
        let steps ← build.usize (13 * i)
        let rotated ← rotateRightWords build input steps
        return sum ++ rotated) [] = some (replicated input n) := foldlM_rotateRightWords build (by omega)
  rw [hrotations, nfold_eq hinput hn, Nat.mul_div_cancel n (by decide)]
  rfl

end Fits

section Overflows

variable {input : Bytes} {n : ℕ}

theorem nfoldWords_checked (hinput : input ≠ []) (hn : 0 < n) (h : 2 ^ 64 ≤ n * 8 * (input.length * 8)) :
    nfoldWords .checked input (n * 8) = none := by
  rw [nfoldWords_unfold .checked hinput hn, Option.bind_eq_bind]
  by_cases hbits : input.length * 8 < 2 ^ 64
  · rw [Build.usize_of_lt _ hbits, Option.bind_some, lcmWords, Build.usize_checked h]
    rfl
  · rw [Build.usize_checked (not_lt.mp hbits)]
    rfl

/-- A product that is cut off to zero asks for no copies. -/
theorem nfoldWords_wrapping (hinput : input ≠ []) (hn : 0 < n) (hbits : input.length * 8 < 2 ^ 64)
    (h : 2 ^ 64 ∣ n * 8 * (input.length * 8)) : nfoldWords .wrapping input (n * 8) = some (.ok (zeros n)) := by
  have hpos := List.length_pos_iff.mpr hinput
  have hgcd : Nat.gcd (n * 8) (input.length * 8) ≠ 0 := (Nat.gcd_pos_of_pos_left _ (by omega)).ne'
  have hlcm : lcmWords .wrapping (n * 8) (input.length * 8) = some 0 := by
    rw [lcmWords, Build.usize_wrapping, Nat.mod_eq_zero_of_dvd h]
    exact (quotient_of_ne_zero 0 hgcd).trans (by rw [Nat.zero_div])
  rw [nfoldWords_unfold .wrapping hinput hn, Build.usize_of_lt _ hbits, Option.bind_eq_bind, Option.bind_some, hlcm,
    Option.bind_some, quotient_of_ne_zero 0 (by omega), Option.bind_some, Nat.zero_div, Nat.mul_zero,
    Build.usize_of_lt _ (by decide), Option.bind_some, Nat.mul_div_cancel n (by decide)]
  have hnone : (chunksExact n []).foldl onesComplementAddition (zeros n) = zeros n := by
    rw [chunksExact, List.length_nil, Nat.zero_div]
    rfl
  exact congrArg (fun folded ↦ some (Except.ok folded)) hnone

/-- Every build folds a string exactly where the product of the two lengths in bits fits a machine
word. The addition calls itself once at most, and its sum is the one modulo all ones. -/
theorem nfoldWords_iff (input : Bytes) (n : ℕ) (left right : Bytes) :
    (input ≠ [] → 0 < n →
      ((∀ build, ∃ folded, nfoldWords build input (n * 8) = some (.ok folded) ∧ IsNfold input n folded) ↔
        n * 8 * (input.length * 8) < 2 ^ 64)) ∧
    (left.length = right.length →
      (∃ calls ≤ 1, Adds calls left right (onesComplementAddition left right)) ∧
      beNat (onesComplementAddition left right) ≡ beNat left + beNat right [MOD 2 ^ (8 * left.length) - 1] ∧
      (beNat (onesComplementAddition left right) = 0 → beNat left = 0 ∧ beNat right = 0)) := by
  constructor
  · intro hinput hn
    constructor
    · intro h
      obtain ⟨folded, hfolded, -⟩ := h .checked
      by_contra hover
      rw [nfoldWords_checked hinput hn (not_lt.mp hover)] at hfolded
      cases hfolded
    · intro hfits build
      obtain ⟨folded, hfolded, hisNfold⟩ := isNfold_nfold hinput hn
      exact ⟨folded, by rw [nfoldWords_eq build hinput hn hfits, hfolded], hisNfold⟩
  · intro hlength
    refine ⟨adds_onesComplementAddition hlength, ?_, fun hzero ↦ ?_⟩
    · rw [beNat_onesComplementAddition hlength]
      exact endAround_modEq _ _ _
    · rw [beNat_onesComplementAddition hlength] at hzero
      exact eq_zero_of_endAround hzero

/-- Half a gibibyte of ones, folded to its own length: one build panics, the other makes zeros. -/
theorem nfold_of_product_overflow :
    nfoldWords .checked (List.replicate (2 ^ 29) 0xff) (2 ^ 29 * 8) = none ∧
    ∃ folded, nfoldWords .wrapping (List.replicate (2 ^ 29) 0xff) (2 ^ 29 * 8) = some (.ok folded) ∧
      ¬ IsNfold (List.replicate (2 ^ 29) 0xff) (2 ^ 29) folded := by
  have hlength : (List.replicate (2 ^ 29) (0xff : UInt8)).length = 2 ^ 29 := List.length_replicate
  have hinput : List.replicate (2 ^ 29) (0xff : UInt8) ≠ [] := by
    rw [← List.length_pos_iff, hlength]
    decide
  have hn : 0 < 2 ^ 29 := by decide
  have hbits : (List.replicate (2 ^ 29) (0xff : UInt8)).length * 8 < 2 ^ 64 := by
    rw [hlength]
    decide
  have hproduct : 2 ^ 29 * 8 * ((List.replicate (2 ^ 29) (0xff : UInt8)).length * 8) = 2 ^ 64 := by
    rw [hlength]
    norm_num
  refine ⟨nfoldWords_checked hinput hn hproduct.ge, zeros (2 ^ 29),
    nfoldWords_wrapping hinput hn hbits (dvd_of_eq hproduct.symm), fun hisNfold ↦ ?_⟩
  have hzero := (beNat_eq_zero_iff _).mp (hisNfold.eq_zero hinput hn (beNat_zeros _)) 0xff
  have hmem : (0xff : UInt8) ∈ List.replicate (2 ^ 29) 0xff := List.mem_replicate.mpr ⟨by decide, rfl⟩
  exact absurd (hzero hmem) (by decide)

end Overflows

end Rskrb5.Crypto
