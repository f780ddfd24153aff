import Rskrb5.Crypto.Derivation
import Rskrb5.Lib.Arithmetic
import Mathlib.Data.Nat.Bitwise

namespace Rskrb5.Crypto

open Lib.Arithmetic Lib.BlockModes

section Bits

theorem pow_octets (n : ℕ) : 256 ^ n = 2 ^ (8 * n) := by
  rw [pow_mul]
  norm_num

theorem beNat_lt_two_pow (bytes : Bytes) : beNat bytes < 2 ^ (8 * bytes.length) := by
  rw [← pow_octets]
  exact beNat_lt bytes

theorem beNat_div_mod (bytes : Bytes) {i : ℕ} (hi : i < bytes.length) :
    beNat bytes / 256 ^ (bytes.length - 1 - i) % 256 = (bytes.getD i 0).toNat := by
  induction bytes generalizing i with
  | nil => cases hi
  | cons byte bytes ih =>
    have hbyte := byte.toNat_lt
    cases i with
    | zero =>
      rw [beNat_cons, List.length_cons, Nat.add_sub_cancel, Nat.sub_zero, Nat.mul_comm,
        Nat.mul_add_div (Nat.pow_pos (by decide)), Nat.div_eq_of_lt (beNat_lt bytes), Nat.add_zero,
        Nat.mod_eq_of_lt hbyte]
      rfl
    | succ i =>
      rw [List.length_cons, Nat.succ_lt_succ_iff] at hi
      have hexp : bytes.length + 1 - 1 - (i + 1) = bytes.length - 1 - i := by omega
      have hsplit : byte.toNat * 256 ^ bytes.length =
          256 ^ (bytes.length - 1 - i) * (256 * (byte.toNat * 256 ^ i)) := by
        have hlen : bytes.length = bytes.length - 1 - i + 1 + i := by omega
        conv_lhs => rw [hlen, pow_add, pow_succ]
        ring
      rw [beNat_cons, List.length_cons, hexp, hsplit, Nat.mul_add_div (Nat.pow_pos (by decide)),
        Nat.mul_add_mod, ih hi]
      rfl

/-- The bits of a number are those of its bytes, the last byte lowest. -/
theorem testBit_beNat (bytes : Bytes) {j : ℕ} (hj : j < 8 * bytes.length) :
    (beNat bytes).testBit j = (bytes.getD (bytes.length - 1 - j / 8) 0).toNat.testBit (j % 8) := by
  have hexp : bytes.length - 1 - (bytes.length - 1 - j / 8) = j / 8 := by omega
  have hmod : 256 = 2 ^ 8 := by norm_num
  have hbyte := beNat_div_mod bytes (by omega : bytes.length - 1 - j / 8 < bytes.length)
  rw [hexp, pow_octets, hmod] at hbyte
  rw [← hbyte, Nat.testBit_mod_two_pow, decide_eq_true (Nat.mod_lt j (by decide)), Bool.true_and,
    Nat.testBit_div_two_pow, Nat.mod_add_div]

theorem toNat_getBit (bytes : Bytes) {i : ℕ} (hi : i < 8 * bytes.length) :
    (getBit bytes i).toNat = ((beNat bytes).testBit (8 * bytes.length - 1 - i)).toNat := by
  have hbyte : bytes.length - 1 - (8 * bytes.length - 1 - i) / 8 = i / 8 := by omega
  have hbit : (8 * bytes.length - 1 - i) % 8 = 7 - i % 8 := by omega
  have hshift : (UInt8.ofNat (7 - i % 8)).toNat % 8 = 7 - i % 8 := by
    rw [UInt8.toNat_ofNat']
    omega
  rw [testBit_beNat bytes (by omega), hbyte, hbit, Nat.toNat_testBit, getBit, UInt8.toNat_and,
    UInt8.toNat_shiftRight, hshift, Nat.shiftRight_eq_div_pow]
  exact Nat.and_one_is_mod _

theorem setBit_zero (bytes : Bytes) (i : ℕ) : setBit bytes i 0 = bytes := by
  have hid : (fun byte : UInt8 ↦ byte ||| (0 <<< UInt8.ofNat (7 - i % 8))) = id := by
    funext byte
    rw [UInt8.zero_shiftLeft, UInt8.or_zero, id]
  rw [setBit, hid, List.modify_id]

theorem toNat_or_one_shift (byte : UInt8) {k : ℕ} (hk : k < 8) :
    (byte ||| (1 <<< UInt8.ofNat k)).toNat = byte.toNat ||| 2 ^ k := by
  have hshift : ∀ k < 8, ((1 : UInt8) <<< UInt8.ofNat k).toNat = 2 ^ k := by decide
  rw [UInt8.toNat_or, hshift k hk]

theorem getD_setBit_one {bytes : Bytes} {i q : ℕ} (hq : q < bytes.length) :
    ((setBit bytes i 1).getD q 0).toNat =
      if i / 8 = q then (bytes.getD q 0).toNat ||| 2 ^ (7 - i % 8) else (bytes.getD q 0).toNat := by
  rw [setBit, List.getD_eq_getElem?_getD, List.getElem?_modify, List.getD_eq_getElem?_getD,
    List.getElem?_eq_getElem hq]
  dsimp only [Option.map_eq_map, Option.map_some, Option.getD_some]
  split
  · exact toNat_or_one_shift _ (by omega)
  · rfl

theorem testBit_of_length {bytes : Bytes} {n j : ℕ} (hlength : bytes.length = n) (hj : 8 * n ≤ j) :
    (beNat bytes).testBit j = false := by
  subst hlength
  exact Nat.testBit_lt_two_pow ((beNat_lt_two_pow bytes).trans_le (Nat.pow_le_pow_right (by decide) hj))

theorem beNat_setBit_one {bytes : Bytes} {i : ℕ} (hi : i < 8 * bytes.length) :
    beNat (setBit bytes i 1) = beNat bytes ||| 2 ^ (8 * bytes.length - 1 - i) := by
  have hlen := length_setBit bytes i 1
  refine Nat.eq_of_testBit_eq fun j ↦ ?_
  rw [Nat.testBit_or, Nat.testBit_two_pow]
  by_cases hj : j < 8 * bytes.length
  · rw [testBit_beNat bytes hj, testBit_beNat _ (by rwa [hlen]), hlen, getD_setBit_one (by omega)]
    by_cases hq : i / 8 = bytes.length - 1 - j / 8
    · have hiff : 7 - i % 8 = j % 8 ↔ 8 * bytes.length - 1 - i = j := by omega
      rw [if_pos hq, Nat.testBit_or, Nat.testBit_two_pow, decide_eq_decide.mpr hiff]
    · have hne : 8 * bytes.length - 1 - i ≠ j := by omega
      rw [if_neg hq, decide_eq_false hne, Bool.or_false]
  · have hne : 8 * bytes.length - 1 - i ≠ j := by omega
    rw [testBit_of_length hlen (not_lt.mp hj), testBit_of_length rfl (not_lt.mp hj), decide_eq_false hne,
      Bool.or_false]

end Bits

section Addition

/-- Where the addition stands behind the lowest `m` bits: what it has put out and what it carries. -/
structure Added (left right : Bytes) (m : ℕ) (s : Bytes × UInt8) : Prop where
  length : s.1.length = left.length
  carry : s.2.toNat ≤ 1
  lt : beNat s.1 < 2 ^ m
  value : beNat s.1 + 2 ^ m * s.2.toNat = beNat left % 2 ^ m + beNat right % 2 ^ m

theorem mod_two_pow_succ (n m : ℕ) : n % 2 ^ (m + 1) = n % 2 ^ m + 2 ^ m * (n.testBit m).toNat := by
  rw [Nat.mod_pow_succ, Nat.toNat_testBit]

/-- A bit above all those of a number is added to it. -/
theorem beNat_setBit_above {bytes : Bytes} {m : ℕ} (hm : m < 8 * bytes.length) (hlt : beNat bytes < 2 ^ m) :
    beNat (setBit bytes (8 * bytes.length - 1 - m) 1) = beNat bytes + 2 ^ m := by
  have hpos : 8 * bytes.length - 1 - (8 * bytes.length - 1 - m) = m := by omega
  have hor := Nat.two_pow_add_eq_or_of_lt hlt 1
  rw [Nat.mul_one] at hor
  rw [beNat_setBit_one (by omega), hpos, Nat.or_comm, ← hor, Nat.add_comm]

/-- The lowest bit of the total is put out, and the other one carried. -/
theorem addBit_of_total {left right : Bytes} {s : Bytes × UInt8} {bitIndex total : ℕ}
    (h : (getBit left bitIndex + getBit right bitIndex + s.2).toNat = total) (hle : total ≤ 3) :
    addBit left right s bitIndex =
      (if total % 2 = 1 then setBit s.1 bitIndex 1 else s.1, UInt8.ofNat (total / 2)) := by
  rw [addBit, h]
  obtain rfl | rfl | rfl | rfl : total = 0 ∨ total = 1 ∨ total = 2 ∨ total = 3 := by omega
  · rfl
  · rfl
  · rfl
  · rfl

theorem Added.addBit {left right : Bytes} {m : ℕ} {s : Bytes × UInt8} (h : Added left right m s)
    (hlength : left.length = right.length) (hm : m < 8 * left.length) :
    Added left right (m + 1) (addBit left right s (8 * left.length - 1 - m)) := by
  have hpos : 8 * left.length - 1 - (8 * left.length - 1 - m) = m := by omega
  have hl := toNat_getBit left (by omega : 8 * left.length - 1 - m < 8 * left.length)
  have hr := toNat_getBit right (by omega : 8 * left.length - 1 - m < 8 * right.length)
  rw [← hlength, hpos] at hr
  rw [hpos] at hl
  have hx := Bool.toNat_le ((beNat left).testBit m)
  have hy := Bool.toNat_le ((beNat right).testBit m)
  have hc := h.carry
  have htotal : (getBit left (8 * left.length - 1 - m) + getBit right (8 * left.length - 1 - m) + s.2).toNat =
      ((beNat left).testBit m).toNat + ((beNat right).testBit m).toNat + s.2.toNat := by
    rw [UInt8.toNat_add, UInt8.toNat_add, hl, hr]
    omega
  rw [addBit_of_total htotal (by omega)]
  generalize hsum : ((beNat left).testBit m).toNat + ((beNat right).testBit m).toNat + s.2.toNat = total
  have hcarry : (UInt8.ofNat (total / 2)).toNat = total / 2 := by
    rw [UInt8.toNat_ofNat']
    omega
  have hpow : 2 ^ (m + 1) = 2 ^ m * 2 := pow_succ 2 m
  have hvalue := h.value
  have hlt := h.lt
  have hdigits : 2 ^ m * (total % 2) + 2 ^ m * 2 * (total / 2) = 2 ^ m * total := by
    rw [Nat.mul_assoc, ← Nat.mul_add, Nat.mod_add_div]
  have hdist : 2 ^ m * total = 2 ^ m * ((beNat left).testBit m).toNat + 2 ^ m * ((beNat right).testBit m).toNat +
      2 ^ m * s.2.toNat := by
    rw [← hsum]
    ring
  have hout : beNat (if total % 2 = 1 then setBit s.1 (8 * left.length - 1 - m) 1 else s.1) =
      beNat s.1 + 2 ^ m * (total % 2) := by
    split
    · next hodd => rw [← h.length, beNat_setBit_above (by rwa [h.length]) hlt, hodd, Nat.mul_one]
    · next heven => rw [Nat.mod_two_ne_one.mp heven, Nat.mul_zero, Nat.add_zero]
  refine ⟨?_, by rw [hcarry]; omega, ?_, ?_⟩
  · dsimp only
    split
    · rw [length_setBit, h.length]
    · exact h.length
  · have hbit : 2 ^ m * (total % 2) ≤ 2 ^ m * 1 := Nat.mul_le_mul_left _ (by omega)
    rw [hout, hpow]
    omega
  · rw [hout, hcarry, mod_two_pow_succ, mod_two_pow_succ, hpow]
    omega

theorem beNat_zeros (n : ℕ) : beNat (zeros n) = 0 := by
  induction n with
  | zero => rfl
  | succ n ih =>
    change beNat (0 :: zeros n) = 0
    rw [beNat_cons, ih, UInt8.toNat_zero, Nat.zero_mul]

theorem added_zeros (left right : Bytes) : Added left right 0 (zeros left.length, 0) := by
  refine ⟨length_zeros _, Nat.zero_le 1, ?_, ?_⟩
  · rw [beNat_zeros]
    decide
  · rw [beNat_zeros, pow_zero, Nat.mod_one, Nat.mod_one]
    rfl

theorem added_addBits {left right : Bytes} (hlength : left.length = right.length) :
    Added left right (8 * left.length) (addBits left right) := by
  have hrun : ∀ m ≤ 8 * left.length, Added left right m
      (((List.range m).map fun i ↦ 8 * left.length - 1 - i).foldl (addBit left right) (zeros left.length, 0)) := by
    intro m hm
    induction m with
    | zero => exact added_zeros left right
    | succ m ih =>
      rw [List.range_succ, List.map_append, List.foldl_append]
      exact (ih (Nat.le_of_succ_le hm)).addBit hlength hm
  have hreverse : (List.range (left.length * 8)).reverse =
      (List.range (8 * left.length)).map fun i ↦ 8 * left.length - 1 - i := by
    rw [List.range_eq_range', List.reverse_range', Nat.zero_add, Nat.mul_comm]
  rw [addBits, hreverse]
  exact hrun _ le_rfl

/-- The addition is exact, its last carry counted. -/
theorem beNat_addBits {left right : Bytes} (hlength : left.length = right.length) :
    beNat (addBits left right).1 + 2 ^ (8 * left.length) * (addBits left right).2.toNat =
      beNat left + beNat right := by
  have h := (added_addBits hlength).value
  have hright := beNat_lt_two_pow right
  rw [← hlength] at hright
  rwa [Nat.mod_eq_of_lt (beNat_lt_two_pow left), Nat.mod_eq_of_lt hright] at h

/-- The calls of the addition on itself, counted: it adds the carry of a sum to the sum. -/
inductive Adds : ℕ → Bytes → Bytes → Bytes → Prop
  | sum {left right : Bytes} (h : (addBits left right).2 ≠ 1) : Adds 0 left right (addBits left right).1
  | again {left right out : Bytes} {calls : ℕ} (h : (addBits left right).2 = 1)
      (hcarry : Adds calls (addBits left right).1 (zeros (left.length - 1) ++ [1]) out) :
      Adds (calls + 1) left right out

theorem beNat_addBits_of_ne_one {left right : Bytes} (hlength : left.length = right.length)
    (h : (addBits left right).2 ≠ 1) :
    beNat (addBits left right).1 = beNat left + beNat right ∧ beNat left + beNat right < 2 ^ (8 * left.length) := by
  have hadded := added_addBits hlength
  have hvalue := beNat_addBits hlength
  have hzero : (addBits left right).2.toNat = 0 := by
    have hcarry := hadded.carry
    have hne : (addBits left right).2.toNat ≠ (1 : UInt8).toNat := fun heq ↦ h (UInt8.toNat_inj.mp heq)
    rw [UInt8.toNat_one] at hne
    omega
  rw [hzero, Nat.mul_zero, Nat.add_zero] at hvalue
  exact ⟨hvalue, hvalue ▸ hadded.lt⟩

theorem beNat_addBits_of_eq_one {left right : Bytes} (hlength : left.length = right.length)
    (h : (addBits left right).2 = 1) :
    beNat (addBits left right).1 + 2 ^ (8 * left.length) = beNat left + beNat right ∧ 0 < left.length := by
  have hvalue := beNat_addBits hlength
  rw [h, UInt8.toNat_one, Nat.mul_one] at hvalue
  refine ⟨hvalue, List.length_pos_iff.mpr fun hnil ↦ ?_⟩
  subst hnil
  cases h

/-- A sum with a carry is below the greatest number, so that its carry can be added to it. -/
theorem carried_once {left right : Bytes} (hlength : left.length = right.length)
    (h : (addBits left right).2 = 1) :
    (addBits (addBits left right).1 (zeros (left.length - 1) ++ [1])).2 ≠ 1 ∧
      beNat (addBits (addBits left right).1 (zeros (left.length - 1) ++ [1])).1 = beNat (addBits left right).1 + 1 := by
  obtain ⟨hvalue, hpos⟩ := beNat_addBits_of_eq_one hlength h
  have hleft := beNat_lt_two_pow left
  have hright := beNat_lt_two_pow right
  rw [← hlength] at hright
  have hout := length_addBits left right
  have hone : beNat (zeros (left.length - 1) ++ [1]) = 1 := by
    rw [beNat_append_singleton, beNat_zeros, Nat.zero_mul, Nat.zero_add]
    rfl
  have hlength' : (addBits left right).1.length = (zeros (left.length - 1) ++ [1]).length := by
    rw [hout, List.length_append, length_zeros, List.length_singleton]
    omega
  have hne : (addBits (addBits left right).1 (zeros (left.length - 1) ++ [1])).2 ≠ 1 := by
    intro hagain
    have hagain := (beNat_addBits_of_eq_one hlength' hagain).1
    rw [hone, hout] at hagain
    omega
  exact ⟨hne, by rw [(beNat_addBits_of_ne_one hlength' hne).1, hone]⟩

theorem onesComplementPasses_succ (passes : ℕ) (left right : Bytes) :
    onesComplementPasses (passes + 1) left right =
      if (addBits left right).2 = 1 then
        onesComplementPasses passes (addBits left right).1 (zeros (left.length - 1) ++ [1])
      else (addBits left right).1 := rfl

theorem adds_onesComplementAddition {left right : Bytes} (hlength : left.length = right.length) :
    ∃ calls ≤ 1, Adds calls left right (onesComplementAddition left right) := by
  rw [onesComplementAddition, onesComplementPasses_succ]
  split
  · next h =>
    have hagain := (carried_once hlength h).1
    rw [onesComplementPasses_succ, if_neg hagain]
    exact ⟨1, le_rfl, .again h (.sum hagain)⟩
  · next h => exact ⟨0, Nat.zero_le 1, .sum h⟩

/-- The addition is the one with an end-around carry. -/
theorem beNat_onesComplementAddition {left right : Bytes} (hlength : left.length = right.length) :
    beNat (onesComplementAddition left right) =
      endAround (2 ^ (8 * left.length) - 1) (beNat left) (beNat right) := by
  rw [onesComplementAddition, onesComplementPasses_succ, endAround]
  by_cases h : (addBits left right).2 = 1
  · obtain ⟨hvalue, hpos⟩ := beNat_addBits_of_eq_one hlength h
    have hpow : 0 < 2 ^ (8 * left.length) := Nat.two_pow_pos _
    obtain ⟨hagain, hsum⟩ := carried_once hlength h
    rw [if_pos h, onesComplementPasses_succ, if_neg hagain, hsum, if_neg (by omega)]
    omega
  · obtain ⟨hvalue, hlt⟩ := beNat_addBits_of_ne_one hlength h
    rw [if_neg h, hvalue, if_pos (by omega)]

end Addition

section Rotation

/-- A string whose bits, read as one word, are rotated to the right. -/
def rotated (bytes : Bytes) (steps : ℕ) : Bytes :=
  beBytes bytes.length ((BitVec.ofNat (8 * bytes.length) (beNat bytes)).rotateRight steps).toNat

theorem add_mod_of_lt {i steps n : ℕ} (hi : i < n) :
    (i + steps) % n = if i + steps % n < n then i + steps % n else i + steps % n - n := by
  have hmod : steps % n < n := Nat.mod_lt _ (by omega)
  have hsum : (i + steps) % n = (i + steps % n) % n := by rw [Nat.add_mod_mod]
  rw [hsum]
  split
  · next h => exact Nat.mod_eq_of_lt h
  · next h => rw [Nat.mod_eq_sub_mod (not_lt.mp h), Nat.mod_eq_of_lt (by omega)]

theorem testBit_rotated (bytes : Bytes) (steps : ℕ) {j : ℕ} (hj : j < 8 * bytes.length) :
    (beNat (rotated bytes steps)).testBit j = (beNat bytes).testBit ((j + steps) % (8 * bytes.length)) := by
  have hmod : steps % (8 * bytes.length) < 8 * bytes.length := Nat.mod_lt _ (by omega)
  rw [rotated, beNat_beBytes, pow_octets, Nat.mod_eq_of_lt (BitVec.isLt _), BitVec.testBit_toNat,
    BitVec.getLsbD_rotateRight, Bool.cond_decide, add_mod_of_lt hj]
  by_cases hwrap : j + steps % (8 * bytes.length) < 8 * bytes.length
  · rw [if_pos hwrap, if_pos (by omega), BitVec.getLsbD_ofNat, Nat.add_comm, decide_eq_true hwrap, Bool.true_and]
  · have hback : j - (8 * bytes.length - steps % (8 * bytes.length)) =
        j + steps % (8 * bytes.length) - 8 * bytes.length := by omega
    have hlt : j + steps % (8 * bytes.length) - 8 * bytes.length < 8 * bytes.length := by omega
    rw [if_neg hwrap, if_neg (by omega), BitVec.getLsbD_ofNat, hback, decide_eq_true hlt, decide_eq_true hj,
      Bool.true_and, Bool.true_and]

theorem getBit_eq (bytes : Bytes) {i : ℕ} (hi : i < 8 * bytes.length) :
    getBit bytes i = if (beNat bytes).testBit (8 * bytes.length - 1 - i) then 1 else 0 := by
  rw [← UInt8.toNat_inj, toNat_getBit bytes hi]
  cases (beNat bytes).testBit (8 * bytes.length - 1 - i) <;> rfl

/-- The rotation behind its first `m` bits. -/
def turned (bytes : Bytes) (steps m : ℕ) : Bytes :=
  (List.range m).foldl (fun out i ↦ setBit out ((i + steps) % (bytes.length * 8)) (getBit bytes i)) (zeros bytes.length)

theorem turned_succ (bytes : Bytes) (steps m : ℕ) : turned bytes steps (m + 1) =
    setBit (turned bytes steps m) ((m + steps) % (bytes.length * 8)) (getBit bytes m) := by
  rw [turned, List.range_succ, List.foldl_append]
  rfl

theorem length_turned (bytes : Bytes) (steps m : ℕ) : (turned bytes steps m).length = bytes.length := by
  induction m with
  | zero => exact length_zeros _
  | succ m ih => rw [turned_succ, length_setBit, ih]

theorem testBit_turned {bytes : Bytes} {steps m : ℕ} (hm : m ≤ 8 * bytes.length) (j : ℕ) :
    (beNat (turned bytes steps m)).testBit j = true ↔
      ∃ i < m, 8 * bytes.length - 1 - (i + steps) % (8 * bytes.length) = j ∧
        (beNat bytes).testBit (8 * bytes.length - 1 - i) = true := by
  induction m with
  | zero =>
    change (beNat (zeros bytes.length)).testBit j = true ↔ _
    simp [beNat_zeros]
  | succ m ih =>
    have hlength := length_turned bytes steps m
    have hpos : (m + steps) % (bytes.length * 8) < 8 * bytes.length := by
      rw [Nat.mul_comm]
      exact Nat.mod_lt _ (by omega)
    rw [turned_succ, getBit_eq bytes hm]
    have ih := ih (Nat.le_of_succ_le hm)
    split
    · next hbit =>
      rw [beNat_setBit_one (by rwa [hlength]), hlength, Nat.testBit_or, Nat.testBit_two_pow, Bool.or_eq_true, ih,
        decide_eq_true_eq, Nat.mul_comm bytes.length 8]
      constructor
      · intro h
        rcases h with ⟨i, hi, hij⟩ | hj
        · exact ⟨i, Nat.lt_succ_of_lt hi, hij⟩
        · exact ⟨m, Nat.lt_succ_self m, hj, hbit⟩
      · intro h
        obtain ⟨i, hi, hij, hset⟩ := h
        rcases Nat.lt_succ_iff_lt_or_eq.mp hi with hi | rfl
        · exact .inl ⟨i, hi, hij, hset⟩
        · exact .inr hij
    · next hbit =>
      rw [setBit_zero, ih]
      constructor
      · intro h
        obtain ⟨i, hi, hij⟩ := h
        exact ⟨i, Nat.lt_succ_of_lt hi, hij⟩
      · intro h
        obtain ⟨i, hi, hij, hset⟩ := h
        rcases Nat.lt_succ_iff_lt_or_eq.mp hi with hi | rfl
        · exact ⟨i, hi, hij, hset⟩
        · exact absurd hset hbit

/-- The place that a bit comes to, counted from the left, and the place that it comes from. -/
theorem place_eq_iff {n i j steps : ℕ} (hi : i < n) (hj : j < n) :
    n - 1 - (i + steps) % n = j ↔ n - 1 - i = (j + steps) % n := by
  have hmod : steps % n < n := Nat.mod_lt _ (by omega)
  rw [add_mod_of_lt hi, add_mod_of_lt hj]
  split <;> split <;> omega

theorem rotateRight_eq_rotated (bytes : Bytes) (steps : ℕ) : rotateRight bytes steps = rotated bytes steps := by
  have hturned : rotateRight bytes steps = turned bytes steps (8 * bytes.length) := by
    rw [rotateRight, turned, Nat.mul_comm 8]
  have hlength : (rotateRight bytes steps).length = bytes.length := by rw [hturned, length_turned]
  have hlength' : (rotated bytes steps).length = bytes.length := length_beBytes _ _
  refine beNat_injective (hlength.trans hlength'.symm) (Nat.eq_of_testBit_eq fun j ↦ ?_)
  by_cases hj : j < 8 * bytes.length
  · rw [hturned, Bool.eq_iff_iff, testBit_turned le_rfl, testBit_rotated bytes steps hj]
    constructor
    · intro h
      obtain ⟨i, hi, hplace, hset⟩ := h
      rwa [(place_eq_iff hi hj).mp hplace] at hset
    · intro hset
      have hmod : (j + steps) % (8 * bytes.length) < 8 * bytes.length := Nat.mod_lt _ (by omega)
      have hi : 8 * bytes.length - 1 - (8 * bytes.length - 1 - (j + steps) % (8 * bytes.length)) =
          (j + steps) % (8 * bytes.length) := by omega
      refine ⟨8 * bytes.length - 1 - (j + steps) % (8 * bytes.length), by omega, ?_, by rwa [hi]⟩
      exact (place_eq_iff (by omega) hj).mpr hi
  · rw [testBit_of_length hlength (not_lt.mp hj), testBit_of_length hlength' (not_lt.mp hj)]

end Rotation

section Folding

/-- Copies of a string up to the least common multiple of two lengths, each rotated by thirteen bits
more than the one before it. -/
def replicated (input : Bytes) (n : ℕ) : Bytes :=
  (List.range (Nat.lcm n input.length / input.length)).flatMap fun i ↦ rotated input (13 * i)

/-- The n-fold of a string: the sum, with an end-around carry, of the blocks that its copies make. -/
structure IsNfold (input : Bytes) (n : ℕ) (folded : Bytes) : Prop where
  length : folded.length = n
  sum : ∃ blocks : List Bytes, blocks.length = Nat.lcm n input.length / n ∧
    (∀ block ∈ blocks, block.length = n) ∧ blocks.flatten = replicated input n ∧
    beNat folded = endAroundSum (2 ^ (8 * n) - 1) (blocks.map beNat)

variable {input : Bytes} {n : ℕ}

theorem length_replicated (input : Bytes) (n : ℕ) : (replicated input n).length = Nat.lcm n input.length := by
  have hrotated : ∀ steps, (rotated input steps).length = input.length := fun _ ↦ length_beBytes _ _
  have hdvd : input.length ∣ Nat.lcm n input.length := Nat.dvd_lcm_right n input.length
  rw [replicated, List.length_flatMap]
  simp only [hrotated, List.map_const', List.sum_replicate_nat, List.length_range]
  exact Nat.div_mul_cancel hdvd

/-- The lengths in bits ask for as many copies as those in bytes. -/
theorem copies_eq (n k : ℕ) : lcm (n * 8) (k * 8) / (k * 8) = Nat.lcm n k / k := by
  have hlcm : lcm (n * 8) (k * 8) = Nat.lcm n k * 8 := Nat.lcm_mul_right n 8 k
  rw [hlcm, Nat.mul_div_mul_right _ _ (by decide)]

theorem nfold_eq (h : input ≠ []) (hn : 0 < n) : nfold input (n * 8) =
    .ok ((chunksExact n (replicated input n)).foldl onesComplementAddition (zeros n)) := by
  have hbits : ¬ (n * 8 = 0 ∨ n * 8 % 8 ≠ 0) := by omega
  have hempty : ¬ input.isEmpty = true := by rwa [List.isEmpty_iff]
  rw [nfold, if_neg hempty, if_neg hbits]
  dsimp only
  rw [copies_eq, ← List.flatMap_eq_foldl, Nat.mul_div_cancel n (by decide)]
  simp only [rotateRight_eq_rotated, replicated]

theorem beNat_foldl_onesComplementAddition {blocks : List Bytes} {folded : Bytes}
    (h : ∀ block ∈ blocks, block.length = folded.length) :
    beNat (blocks.foldl onesComplementAddition folded) =
      (blocks.map beNat).foldl (endAround (2 ^ (8 * folded.length) - 1)) (beNat folded) := by
  induction blocks generalizing folded with
  | nil => rfl
  | cons block blocks ih =>
    have hlength := length_onesComplementAddition folded block
    rw [List.foldl_cons, ih fun b hb ↦ hlength ▸ h b (List.mem_cons_of_mem _ hb), hlength,
      beNat_onesComplementAddition (h block List.mem_cons_self).symm, List.map_cons, List.foldl_cons]

theorem isNfold_nfold (h : input ≠ []) (hn : 0 < n) :
    ∃ folded, nfold input (n * 8) = .ok folded ∧ IsNfold input n folded := by
  have hdvd : n ∣ (replicated input n).length := by
    rw [length_replicated]
    exact Nat.dvd_lcm_left n input.length
  have hblocks : ∀ block ∈ chunksExact n (replicated input n), block.length = (zeros n).length := by
    intro block hblock
    rw [length_of_mem_chunksExact hblock, length_zeros]
  refine ⟨_, nfold_eq h hn, ?_, chunksExact n (replicated input n), ?_, fun block hblock ↦ ?_, ?_, ?_⟩
  · rw [length_foldl_onesComplementAddition, length_zeros]
  · rw [chunksExact, List.length_map, List.length_range, length_replicated]
  · exact length_of_mem_chunksExact hblock
  · exact flatten_chunksExact hn _ hdvd
  · rw [beNat_foldl_onesComplementAddition hblocks, length_zeros, beNat_zeros]
    rfl

theorem beNat_eq_zero_iff (bytes : Bytes) : beNat bytes = 0 ↔ ∀ byte ∈ bytes, byte = 0 := by
  rw [← List.eq_replicate_length, ← zeros]
  constructor
  · intro h
    exact beNat_injective (length_zeros _).symm (h.trans (beNat_zeros _).symm)
  · intro h
    rw [h, beNat_zeros]

theorem rotated_zero (bytes : Bytes) : rotated bytes 0 = bytes := by
  have hlength : (rotated bytes 0).length = bytes.length := length_beBytes _ _
  refine beNat_injective hlength (Nat.eq_of_testBit_eq fun j ↦ ?_)
  by_cases hj : j < 8 * bytes.length
  · rw [testBit_rotated bytes 0 hj, Nat.add_zero, Nat.mod_eq_of_lt hj]
  · rw [testBit_of_length hlength (not_lt.mp hj), testBit_of_length rfl (not_lt.mp hj)]

/-- Only a string of zeros is folded to zero. -/
theorem IsNfold.eq_zero {folded : Bytes} (h : IsNfold input n folded) (hinput : input ≠ []) (hn : 0 < n)
    (hzero : beNat folded = 0) : beNat input = 0 := by
  obtain ⟨blocks, -, -, hflatten, hsum⟩ := h.sum
  rw [hzero] at hsum
  have hblocks : ∀ byte ∈ blocks.flatten, byte = 0 := by
    intro byte hbyte
    obtain ⟨block, hblock, hmem⟩ := List.mem_flatten.mp hbyte
    exact (beNat_eq_zero_iff block).mp (eq_zero_of_endAroundSum hsum.symm _ (List.mem_map_of_mem hblock)) byte hmem
  -- The first copy is the input itself.
  have hpos := List.length_pos_iff.mpr hinput
  have hcopies : 0 < Nat.lcm n input.length / input.length :=
    Nat.div_pos (Nat.le_of_dvd (Nat.lcm_pos hn hpos) (Nat.dvd_lcm_right n input.length)) hpos
  refine (beNat_eq_zero_iff input).mpr fun byte hbyte ↦ hblocks byte ?_
  rw [hflatten, replicated, List.mem_flatMap]
  exact ⟨0, List.mem_range.mpr hcopies, by rwa [Nat.mul_zero, rotated_zero]⟩

end Folding

end Rskrb5.Crypto
