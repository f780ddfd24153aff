import Mathlib.Data.Nat.ModEq
import Mathlib.Data.Int.Init

namespace Rskrb5.Lib.Arithmetic

section Words

/-- The two ways to build a program for machine words: results that leave their word are found out, or
they are cut off. -/
inductive Build
  | checked
  | wrapping
  deriving DecidableEq

namespace Build

/-- What a build makes of a number of 64 bits, with no result where it panics. -/
def usize (build : Build) (n : ℕ) : Option ℕ :=
  if n < 2 ^ 64 then some n
  else match build with
    | checked => none
    | wrapping => some (n % 2 ^ 64)

/-- What a build makes of a signed number of 32 bits. -/
def i32 (build : Build) (z : ℤ) : Option ℤ :=
  if -2 ^ 31 ≤ z ∧ z < 2 ^ 31 then some z
  else match build with
    | checked => none
    | wrapping => some (z.bmod (2 ^ 32))

theorem usize_of_lt (build : Build) {n : ℕ} (h : n < 2 ^ 64) : build.usize n = some n := if_pos h

theorem usize_checked {n : ℕ} (h : 2 ^ 64 ≤ n) : checked.usize n = none := if_neg (not_lt.mpr h)

theorem usize_wrapping (n : ℕ) : wrapping.usize n = some (n % 2 ^ 64) := by
  unfold usize
  split
  · next h => rw [Nat.mod_eq_of_lt h]
  · rfl

theorem i32_of_fits (build : Build) {z : ℤ} (hlow : -2 ^ 31 ≤ z) (hhigh : z < 2 ^ 31) : build.i32 z = some z :=
  if_pos ⟨hlow, hhigh⟩

theorem i32_checked {z : ℤ} (h : 2 ^ 31 ≤ z) : checked.i32 z = none := if_neg fun hfits ↦ by omega

/-- Past its largest number a word starts again at its smallest one. -/
theorem i32_wrapping {z : ℤ} (h : 2 ^ 31 ≤ z) (hlt : z < 2 ^ 32 + 2 ^ 31) : wrapping.i32 z = some (z - 2 ^ 32) := by
  have hbmod : z.bmod (2 ^ 32) = z - 2 ^ 32 := by
    rw [Int.bmod_def]
    omega
  rw [i32, if_neg (by omega), hbmod]

end Build

/-- A length as a signed number of 32 bits, which is cut off in every build. -/
def asI32 (n : ℕ) : ℤ := (n : ℤ).bmod (2 ^ 32)

theorem asI32_of_lt {n : ℕ} (h : n < 2 ^ 31) : asI32 n = n := by
  have hlow : -(2 ^ 32 : ℕ) ≤ (n : ℤ) * 2 := by omega
  have hhigh : (n : ℤ) * 2 < (2 ^ 32 : ℕ) := by omega
  exact Int.bmod_eq_of_le_mul_two hlow hhigh

end Words

section EndAround

/-- The sum of two numbers up to `m`, where what goes beyond `m` is carried round to the end. -/
def endAround (m a b : ℕ) : ℕ := if a + b ≤ m then a + b else a + b - m

def endAroundSum (m : ℕ) (as : List ℕ) : ℕ := as.foldl (endAround m) 0

variable {m a b : ℕ}

theorem endAround_modEq (m a b : ℕ) : endAround m a b ≡ a + b [MOD m] := by
  unfold endAround
  split
  · exact rfl
  · next h => exact (Nat.sub_modulus_modEq_iff (Nat.le_of_not_le h)).mpr rfl

/-- The carry that comes round leaves something. -/
theorem eq_zero_of_endAround (h : endAround m a b = 0) : a = 0 ∧ b = 0 := by
  unfold endAround at h
  split at h
  · exact Nat.add_eq_zero_iff.mp h
  · omega

theorem eq_zero_of_endAroundSum {as : List ℕ} (h : endAroundSum m as = 0) : ∀ a ∈ as, a = 0 := by
  have hfold : ∀ (as : List ℕ) (b : ℕ), as.foldl (endAround m) b = 0 → b = 0 ∧ ∀ a ∈ as, a = 0 := by
    intro as
    induction as with
    | nil => exact fun b hb ↦ ⟨hb, List.forall_mem_nil _⟩
    | cons a as ih =>
      intro b hb
      obtain ⟨hadd, has⟩ := ih _ hb
      obtain ⟨hb, ha⟩ := eq_zero_of_endAround hadd
      exact ⟨hb, List.forall_mem_cons.mpr ⟨ha, has⟩⟩
  exact (hfold as 0 h).2

end EndAround

end Rskrb5.Lib.Arithmetic
