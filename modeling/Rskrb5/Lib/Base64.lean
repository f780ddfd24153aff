import Mathlib.Data.List.Basic
import Mathlib.Data.Nat.Notation

namespace Rskrb5.Lib.Base64

def alphabet : List Char := "ABCDEFGHIJKLMNOPQRSTUVWXYZabcdefghijklmnopqrstuvwxyz0123456789+/".toList

def digit (n : ℕ) : Char :=
  if n < 26 then .ofNat ('A'.toNat + n)
  else if n < 52 then .ofNat ('a'.toNat + (n - 26))
  else if n < 62 then .ofNat ('0'.toNat + (n - 52))
  else if n = 62 then '+'
  else '/'

def value (c : Char) : Option ℕ :=
  if 'A' ≤ c ∧ c ≤ 'Z' then some (c.toNat - 'A'.toNat)
  else if 'a' ≤ c ∧ c ≤ 'z' then some (c.toNat - 'a'.toNat + 26)
  else if '0' ≤ c ∧ c ≤ '9' then some (c.toNat - '0'.toNat + 52)
  else if c = '+' then some 62
  else if c = '/' then some 63
  else none

theorem value_digit : ∀ n < 64, value (digit n) = some n := by decide

theorem digit_mem : ∀ n < 64, digit n ∈ alphabet := by decide

theorem digit_ne_pad : ∀ n < 64, digit n ≠ '=' := by decide

section Groups

/-- Three bytes are four numbers of six bits. -/
def sextets (a b c : UInt8) : List ℕ :=
  [a.toNat / 4, a.toNat % 4 * 16 + b.toNat / 16, b.toNat % 16 * 4 + c.toNat / 64, c.toNat % 64]

def octets (w x y z : ℕ) : List UInt8 :=
  [UInt8.ofNat (w * 4 + x / 16), UInt8.ofNat (x % 16 * 16 + y / 4), UInt8.ofNat (y % 4 * 64 + z)]

variable (a b c : UInt8)

theorem sextets_lt : ∀ n ∈ sextets a b c, n < 64 := by
  have ha := a.toNat_lt
  have hb := b.toNat_lt
  have hc := c.toNat_lt
  simp only [sextets, List.forall_mem_cons, List.not_mem_nil, false_implies, implies_true, and_true]
  omega

theorem ofNat_eq {n : ℕ} (byte : UInt8) (h : n = byte.toNat) : UInt8.ofNat n = byte := by
  rw [h, UInt8.ofNat_toNat]

theorem octets_sextets : octets (a.toNat / 4) (a.toNat % 4 * 16 + b.toNat / 16)
    (b.toNat % 16 * 4 + c.toNat / 64) (c.toNat % 64) = [a, b, c] := by
  have ha := a.toNat_lt
  have hb := b.toNat_lt
  have hc := c.toNat_lt
  rw [octets, ofNat_eq a (by omega), ofNat_eq b (by omega), ofNat_eq c (by omega)]

end Groups

def encode : List UInt8 → List Char
  | [] => []
  | [a] => ((sextets a 0 0).take 2).map digit ++ ['=', '=']
  | [a, b] => ((sextets a b 0).take 3).map digit ++ ['=']
  | a :: b :: c :: rest => (sextets a b c).map digit ++ encode rest

def decodeGroup (w x y z : Char) : Option (List UInt8) := do
  let w ← value w
  let x ← value x
  let y ← value y
  let z ← value z
  return octets w x y z

/-- The bits behind the last byte have to be zero. -/
def decodePadded (w x y z : Char) : Option (List UInt8) := do
  if z ≠ '=' then decodeGroup w x y z
  else if y ≠ '=' then
    let bytes ← decodeGroup w x y 'A'
    if bytes.drop 2 = [0] then some (bytes.take 2) else none
  else
    let bytes ← decodeGroup w x 'A' 'A'
    if bytes.drop 1 = [0, 0] then some (bytes.take 1) else none

def decode : List Char → Option (List UInt8)
  | [] => some []
  | [w, x, y, z] => decodePadded w x y z
  | w :: x :: y :: z :: rest => do
    let bytes ← decodeGroup w x y z
    let others ← decode rest
    return bytes ++ others
  | _ => none

section RoundTrip

theorem decodeGroup_sextets (a b c : UInt8) : decodeGroup (digit (a.toNat / 4))
    (digit (a.toNat % 4 * 16 + b.toNat / 16)) (digit (b.toNat % 16 * 4 + c.toNat / 64))
    (digit (c.toNat % 64)) = some [a, b, c] := by
  have hlt := sextets_lt a b c
  simp only [sextets, List.forall_mem_cons, List.not_mem_nil, false_implies, implies_true, and_true] at hlt
  obtain ⟨hw, hx, hy, hz⟩ := hlt
  rw [decodeGroup, value_digit _ hw, value_digit _ hx, value_digit _ hy, value_digit _ hz]
  exact congrArg some (octets_sextets a b c)

theorem decode_append (a b c : UInt8) {text : List Char} {bytes : List UInt8} (h : decode text = some bytes) :
    decode ((sextets a b c).map digit ++ text) = some (a :: b :: c :: bytes) := by
  have hgroup := decodeGroup_sextets a b c
  have hz : digit (c.toNat % 64) ≠ '=' := digit_ne_pad _ (Nat.mod_lt _ (by omega))
  cases text with
  | nil =>
    obtain rfl := Option.some.inj h
    rw [List.append_nil, sextets]
    simp only [List.map_cons, List.map_nil, decode, decodePadded, if_pos hz]
    exact hgroup
  | cons d text =>
    simp only [sextets, List.map_cons, List.map_nil, List.cons_append, List.nil_append, decode, hgroup, h]
    rfl

theorem decode_encode (bytes : List UInt8) : decode (encode bytes) = some bytes := by
  fun_induction encode bytes with
  | case1 => rfl
  | case2 a =>
    have hgroup := decodeGroup_sextets a 0 0
    simp only [sextets, List.take_succ_cons, List.take_zero, List.map_cons, List.map_nil, List.cons_append,
      List.nil_append, decode, decodePadded]
    rw [if_neg (by simp), if_neg (by simp)]
    change (decodeGroup _ _ (digit ((0 : UInt8).toNat % 16 * 4 + (0 : UInt8).toNat / 64))
      (digit ((0 : UInt8).toNat % 64)) >>= _) = _
    rw [hgroup]
    rfl
  | case3 a b =>
    have hgroup := decodeGroup_sextets a b 0
    have hlt := sextets_lt a b 0 (b.toNat % 16 * 4 + (0 : UInt8).toNat / 64) (by simp [sextets])
    simp only [sextets, List.take_succ_cons, List.take_zero, List.map_cons, List.map_nil, List.cons_append,
      List.nil_append, decode, decodePadded]
    rw [if_neg (by simp), if_pos (digit_ne_pad _ hlt)]
    change (decodeGroup _ _ _ (digit ((0 : UInt8).toNat % 64)) >>= _) = _
    rw [hgroup]
    rfl
  | case4 a b c rest ih => exact decode_append a b c ih

theorem length_encode (bytes : List UInt8) : (encode bytes).length = (bytes.length + 2) / 3 * 4 := by
  fun_induction encode bytes with
  | case1 => rfl
  | case2 a => simp [sextets]
  | case3 a b => simp [sextets]
  | case4 a b c rest ih =>
    rw [List.length_append, ih, List.length_map]
    simp only [sextets, List.length_cons, List.length_nil]
    omega

theorem mem_map_digit {numbers : List ℕ} (h : ∀ n ∈ numbers, n < 64) {c : Char} (hc : c ∈ numbers.map digit) :
    c ∈ alphabet := by
  obtain ⟨n, hn, rfl⟩ := List.mem_map.mp hc
  exact digit_mem n (h n hn)

theorem mem_encode (bytes : List UInt8) : ∀ c ∈ encode bytes, c ∈ alphabet ∨ c = '=' := by
  intro c hc
  fun_induction encode bytes with
  | case1 => cases hc
  | case2 a =>
    rcases List.mem_append.mp hc with hc | hc
    · exact .inl (mem_map_digit (fun n hn ↦ sextets_lt a 0 0 n (List.mem_of_mem_take hn)) hc)
    · exact .inr (by simpa using hc)
  | case3 a b =>
    rcases List.mem_append.mp hc with hc | hc
    · exact .inl (mem_map_digit (fun n hn ↦ sextets_lt a b 0 n (List.mem_of_mem_take hn)) hc)
    · exact .inr (by simpa using hc)
  | case4 a b d rest ih =>
    rcases List.mem_append.mp hc with hc | hc
    · exact .inl (mem_map_digit (sextets_lt a b d) hc)
    · exact ih hc

end RoundTrip

end Rskrb5.Lib.Base64
