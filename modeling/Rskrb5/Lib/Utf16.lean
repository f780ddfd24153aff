import Mathlib.Data.List.Basic

namespace Rskrb5.Lib.Utf16

/-- The code units of a character: one, or a leading and a trailing surrogate. -/
def unitsOf (c : Char) : List UInt16 :=
  if c.toNat < 0x10000 then [UInt16.ofNat c.toNat]
  else [UInt16.ofNat (0xd800 + (c.toNat - 0x10000) / 0x400),
    UInt16.ofNat (0xdc00 + (c.toNat - 0x10000) % 0x400)]

def encode (s : String) : List UInt16 := s.toList.flatMap unitsOf

def combine (lead trail : UInt16) : ℕ :=
  0x10000 + (lead.toNat - 0xd800) * 0x400 + (trail.toNat - 0xdc00)

def decodeChars : List UInt16 → Option (List Char)
  | [] => some []
  | unit :: units =>
    if unit.toNat < 0xd800 ∨ 0xdfff < unit.toNat then
      (decodeChars units).map (Char.ofNat unit.toNat :: ·)
    else if 0xdc00 ≤ unit.toNat then none
    else match units with
      | [] => none
      | trail :: units =>
        if 0xdc00 ≤ trail.toNat ∧ trail.toNat ≤ 0xdfff then
          (decodeChars units).map (Char.ofNat (combine unit trail) :: ·)
        else none

/-- A lone surrogate stands for nothing. -/
def decode (units : List UInt16) : Option String := (decodeChars units).map String.ofList

theorem toNat_lt_of_char (c : Char) : c.toNat < 0xd800 ∨ 0xdfff < c.toNat ∧ c.toNat < 0x110000 := c.valid

theorem decodeChars_of_plain {unit : UInt16} (h : unit.toNat < 0xd800 ∨ 0xdfff < unit.toNat)
    (units : List UInt16) :
    decodeChars (unit :: units) = (decodeChars units).map (Char.ofNat unit.toNat :: ·) := by
  cases units with
  | nil => simp only [decodeChars, if_pos h, Option.map_some]
  | cons trail units => rw [decodeChars, if_pos h]

theorem decodeChars_of_pair {lead trail : UInt16} (hlead : 0xd800 ≤ lead.toNat ∧ lead.toNat < 0xdc00)
    (htrail : 0xdc00 ≤ trail.toNat ∧ trail.toNat ≤ 0xdfff) (units : List UInt16) :
    decodeChars (lead :: trail :: units) =
      (decodeChars units).map (Char.ofNat (combine lead trail) :: ·) := by
  rw [decodeChars, if_neg (by omega), if_neg (by omega), if_pos htrail]

theorem toNat_lead {n : ℕ} (h : n < 0x400) : (UInt16.ofNat (0xd800 + n)).toNat = 0xd800 + n :=
  UInt16.toNat_ofNat_of_lt (by simp only [UInt16.size]; omega)

theorem toNat_trail {n : ℕ} (h : n < 0x400) : (UInt16.ofNat (0xdc00 + n)).toNat = 0xdc00 + n :=
  UInt16.toNat_ofNat_of_lt (by simp only [UInt16.size]; omega)

theorem combine_surrogates {high low : ℕ} (hhigh : high < 0x400) (hlow : low < 0x400) :
    combine (UInt16.ofNat (0xd800 + high)) (UInt16.ofNat (0xdc00 + low)) =
      0x10000 + high * 0x400 + low := by
  unfold combine
  rw [toNat_lead hhigh, toNat_trail hlow]
  omega

theorem decodeChars_unitsOf_append (c : Char) (units : List UInt16) :
    decodeChars (unitsOf c ++ units) = (decodeChars units).map (c :: ·) := by
  have hc := toNat_lt_of_char c
  rw [unitsOf]
  split
  · next hlt =>
    have hunit : (UInt16.ofNat c.toNat).toNat = c.toNat := UInt16.toNat_ofNat_of_lt hlt
    rw [List.singleton_append, decodeChars_of_plain (by omega), hunit, Char.ofNat_toNat]
  · next hge =>
    have hhigh : (c.toNat - 0x10000) / 0x400 < 0x400 := by omega
    have hlow : (c.toNat - 0x10000) % 0x400 < 0x400 := Nat.mod_lt _ (by decide)
    have hvalue : 0x10000 + (c.toNat - 0x10000) / 0x400 * 0x400 + (c.toNat - 0x10000) % 0x400 = c.toNat := by
      omega
    rw [List.cons_append, List.singleton_append, decodeChars_of_pair, combine_surrogates hhigh hlow, hvalue,
      Char.ofNat_toNat]
    · rw [toNat_lead hhigh]
      omega
    · rw [toNat_trail hlow]
      omega

theorem decodeChars_flatMap (cs : List Char) : decodeChars (cs.flatMap unitsOf) = some cs := by
  induction cs with
  | nil => rfl
  | cons c cs ih => rw [List.flatMap_cons, decodeChars_unitsOf_append, ih, Option.map_some]

theorem decode_encode (s : String) : decode (encode s) = some s := by
  rw [decode, encode, decodeChars_flatMap, Option.map_some, String.ofList_toList]

theorem length_le_of_decodeChars {units : List UInt16} {cs : List Char} (h : decodeChars units = some cs) :
    cs.length ≤ units.length := by
  induction units using decodeChars.induct generalizing cs with
  | case1 =>
    cases h
    exact Nat.le_refl 0
  | case2 unit units hunit ih =>
    rw [decodeChars_of_plain hunit, Option.map_eq_some_iff] at h
    obtain ⟨rest, hrest, rfl⟩ := h
    exact Nat.succ_le_succ (ih hrest)
  | case3 unit units hunit htrail =>
    cases units <;> simp [decodeChars, hunit, htrail] at h
  | case4 unit hunit htrail => rw [decodeChars, if_neg hunit, if_neg htrail] at h; cases h
  | case5 unit hunit htrail trail units hpair ih =>
    rw [decodeChars, if_neg hunit, if_neg htrail] at h
    simp only [hpair, and_self, if_true, Option.map_eq_some_iff] at h
    obtain ⟨rest, hrest, rfl⟩ := h
    exact Nat.succ_le_succ (Nat.le_succ_of_le (ih hrest))
  | case6 unit hunit htrail trail units hpair => simp [decodeChars, hunit, htrail, hpair] at h

/-- A text has no more characters than code units. -/
theorem length_le_of_decode {units : List UInt16} {s : String} (h : decode units = some s) :
    s.length ≤ units.length := by
  obtain ⟨cs, hcs, rfl⟩ := Option.map_eq_some_iff.mp h
  rw [String.length_ofList]
  exact length_le_of_decodeChars hcs

end Rskrb5.Lib.Utf16
