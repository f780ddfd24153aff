import Mathlib.Data.List.Basic
import Mathlib.Tactic.Linarith
import Mathlib.Tactic.Ring

namespace Rskrb5

abbrev Bytes := List UInt8

def beBytes : ℕ → ℕ → Bytes
  | 0, _ => []
  | width + 1, value => beBytes width (value / 256) ++ [UInt8.ofNat value]

def beNat (bytes : Bytes) : ℕ := bytes.foldl (fun value byte ↦ value * 256 + byte.toNat) 0

@[simp] theorem length_beBytes (width value : ℕ) : (beBytes width value).length = width := by
  induction width generalizing value with
  | zero => rfl
  | succ width ih => simp [beBytes, ih]

theorem beNat_append_singleton (bytes : Bytes) (byte : UInt8) :
    beNat (bytes ++ [byte]) = beNat bytes * 256 + byte.toNat := by
  simp [beNat, List.foldl_append]

theorem beNat_beBytes (width value : ℕ) : beNat (beBytes width value) = value % 256 ^ width := by
  induction width generalizing value with
  | zero => simp [beBytes, beNat, Nat.mod_one]
  | succ width ih =>
    have hmod : value % 256 ^ (width + 1) = value % 256 + 256 * (value / 256 % 256 ^ width) := by
      rw [Nat.pow_succ', Nat.mod_mul]
    rw [beBytes, beNat_append_singleton, ih, UInt8.toNat_ofNat', hmod]
    omega

theorem beNat_cons (byte : UInt8) (bytes : Bytes) :
    beNat (byte :: bytes) = byte.toNat * 256 ^ bytes.length + beNat bytes := by
  have hfoldl : ∀ (bytes : Bytes) (value : ℕ),
      bytes.foldl (fun value byte ↦ value * 256 + byte.toNat) value =
        value * 256 ^ bytes.length + beNat bytes := by
    intro bytes
    induction bytes with
    | nil => simp [beNat]
    | cons byte bytes ih =>
      intro value
      rw [beNat, List.foldl_cons, List.foldl_cons, ih, ih (0 * 256 + byte.toNat), List.length_cons]
      ring
  rw [beNat, List.foldl_cons, hfoldl]
  simp

theorem beNat_lt (bytes : Bytes) : beNat bytes < 256 ^ bytes.length := by
  induction bytes with
  | nil => simp [beNat]
  | cons byte bytes ih =>
    have hbyte := byte.toNat_lt
    rw [beNat_cons, List.length_cons, pow_succ]
    nlinarith

theorem beNat_injective {as bs : Bytes} (hlength : as.length = bs.length) (h : beNat as = beNat bs) : as = bs := by
  induction as generalizing bs with
  | nil => exact (List.eq_nil_of_length_eq_zero hlength.symm).symm
  | cons a as ih =>
    cases bs with
    | nil => cases hlength
    | cons b bs =>
      have htails : as.length = bs.length := Nat.succ.inj hlength
      have has := beNat_lt as
      have hbs := beNat_lt bs
      rw [beNat_cons, beNat_cons, htails] at h
      rw [htails] at has
      have hbyte : a.toNat = b.toNat := by
        have hdiv := congrArg (· / 256 ^ bs.length) h
        simpa [Nat.mul_add_div, Nat.mul_comm, Nat.div_eq_of_lt has, Nat.div_eq_of_lt hbs] using hdiv
      have htail : beNat as = beNat bs := by
        rw [hbyte] at h
        exact Nat.add_left_cancel h
      rw [UInt8.toNat_inj.mp hbyte, ih htails htail]

theorem beNat_dropWhile_zero (bytes : Bytes) : beNat (bytes.dropWhile (· = 0)) = beNat bytes := by
  induction bytes with
  | nil => rfl
  | cons byte bytes ih =>
    rw [List.dropWhile_cons]
    split
    · next h =>
      rw [ih, beNat_cons, of_decide_eq_true h]
      simp
    · rfl

theorem beBytes_beNat {bytes : Bytes} {width : ℕ} (h : bytes.length = width) :
    beBytes width (beNat bytes) = bytes := by
  subst h
  apply beNat_injective (length_beBytes _ _)
  rw [beNat_beBytes, Nat.mod_eq_of_lt (beNat_lt bytes)]

/-- Without leading zeros no shorter string has the same value. -/
theorem length_dropWhile_zero_le {bytes : Bytes} {count : ℕ} (h : beNat bytes < 256 ^ count) :
    (bytes.dropWhile (· = 0)).length ≤ count := by
  rw [← beNat_dropWhile_zero] at h
  cases hd : bytes.dropWhile (· = 0) with
  | nil => simp
  | cons byte rest =>
    have hne : byte ≠ 0 := by
      have hhead := List.head?_dropWhile_not (fun b : UInt8 ↦ decide (b = 0)) bytes
      simpa [hd] using hhead
    have hpos : 1 ≤ byte.toNat := by
      rw [Nat.one_le_iff_ne_zero, ← UInt8.toNat_zero]
      exact fun heq ↦ hne (UInt8.toNat_inj.mp heq)
    by_contra hlt
    rw [hd, beNat_cons] at h
    have hpow : 256 ^ count ≤ 256 ^ rest.length :=
      Nat.pow_le_pow_right (by norm_num) (by rw [List.length_cons] at hlt; omega)
    have hbyte := Nat.le_mul_of_pos_left (256 ^ rest.length) hpos
    omega

/-- `to_be_bytes` and `from_be_bytes` of the fixed-width integers. -/
def u16ToBeBytes (value : UInt16) : Bytes := beBytes 2 value.toNat
def u16FromBeBytes (bytes : Bytes) : UInt16 := UInt16.ofNat (beNat bytes)
def u32ToBeBytes (value : UInt32) : Bytes := beBytes 4 value.toNat
def u64ToBeBytes (value : UInt64) : Bytes := beBytes 8 value.toNat
def u64FromBeBytes (bytes : Bytes) : UInt64 := UInt64.ofNat (beNat bytes)

@[simp] theorem length_u16ToBeBytes (value : UInt16) : (u16ToBeBytes value).length = 2 :=
  length_beBytes 2 _

@[simp] theorem length_u32ToBeBytes (value : UInt32) : (u32ToBeBytes value).length = 4 :=
  length_beBytes 4 _

@[simp] theorem length_u64ToBeBytes (value : UInt64) : (u64ToBeBytes value).length = 8 :=
  length_beBytes 8 _

theorem u16FromBeBytes_toBeBytes (value : UInt16) : u16FromBeBytes (u16ToBeBytes value) = value := by
  have hlt := value.toNat_lt
  rw [u16FromBeBytes, u16ToBeBytes, beNat_beBytes, Nat.mod_eq_of_lt (by norm_num; omega)]
  exact UInt16.ofNat_toNat

theorem u16ToBeBytes_fromBeBytes {bytes : Bytes} (h : bytes.length = 2) :
    u16ToBeBytes (u16FromBeBytes bytes) = bytes := by
  have hlt := beNat_lt bytes
  rw [h] at hlt
  rw [u16FromBeBytes, u16ToBeBytes, UInt16.toNat_ofNat', Nat.mod_eq_of_lt (by norm_num at hlt ⊢; omega)]
  exact beBytes_beNat h

theorem u16FromBeBytes_pair_eq_zero {a b : UInt8} : u16FromBeBytes [a, b] = 0 ↔ a = 0 ∧ b = 0 := by
  have ha := a.toNat_lt
  have hb := b.toNat_lt
  have hnat : beNat [a, b] = a.toNat * 256 + b.toNat := by simp [beNat]
  rw [u16FromBeBytes, ← UInt16.toNat_inj, UInt16.toNat_ofNat', hnat, ← UInt8.toNat_inj, ← UInt8.toNat_inj]
  simp only [UInt16.toNat_zero, UInt8.toNat_zero]
  omega

theorem u64FromBeBytes_toBeBytes (value : UInt64) : u64FromBeBytes (u64ToBeBytes value) = value := by
  have hlt := value.toNat_lt
  rw [u64FromBeBytes, u64ToBeBytes, beNat_beBytes, Nat.mod_eq_of_lt (by norm_num; omega)]
  exact UInt64.ofNat_toNat

theorem u64ToBeBytes_fromBeBytes {bytes : Bytes} (h : bytes.length = 8) :
    u64ToBeBytes (u64FromBeBytes bytes) = bytes := by
  have hlt := beNat_lt bytes
  rw [h] at hlt
  rw [u64FromBeBytes, u64ToBeBytes, UInt64.toNat_ofNat', Nat.mod_eq_of_lt (by norm_num at hlt ⊢; omega)]
  exact beBytes_beNat h

/-- `str::as_bytes`. -/
def asBytes (s : String) : Bytes := s.toByteArray.data.toList

/-- `std::str::from_utf8`. -/
def fromUtf8 (bytes : Bytes) : Option String := String.fromUTF8? ⟨bytes.toArray⟩

theorem asBytes_of_fromUtf8 {bytes : Bytes} {s : String} (h : fromUtf8 bytes = some s) :
    asBytes s = bytes := by
  rw [fromUtf8, String.fromUTF8?] at h
  split at h
  · cases h
    simp [asBytes, String.fromUTF8]
  · cases h

theorem fromUtf8_asBytes (s : String) : fromUtf8 (asBytes s) = some s := by
  have hvalid : s.toByteArray.IsValidUTF8 := s.isValidUTF8
  simp [fromUtf8, asBytes, String.fromUTF8?, String.fromUTF8, hvalid]

end Rskrb5
