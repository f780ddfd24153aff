import Mathlib.Algebra.Order.Ring.Nat
import Mathlib.Data.List.Basic

namespace Rskrb5.Lib.Offsets

/-- The number of octets of a text in UTF-8. -/
def byteLen : List Char → ℕ
  | [] => 0
  | c :: text => c.utf8Size + byteLen text

/-- `str::split_at`, with no result where the offset is not at the start of a character. -/
def splitAt? : List Char → ℕ → Option (List Char × List Char)
  | text, 0 => some ([], text)
  | [], _ + 1 => none
  | c :: text, offset + 1 =>
    if c.utf8Size ≤ offset + 1 then
      (splitAt? text (offset + 1 - c.utf8Size)).map fun parts ↦ (c :: parts.1, parts.2)
    else none

/-- `&text[start..stop]`. -/
def slice? (text : List Char) (start stop : ℕ) : Option (List Char) := do
  let (_, rest) ← splitAt? text start
  guard (start ≤ stop)
  let (middle, _) ← splitAt? rest (stop - start)
  return middle

def charIndicesFrom (offset : ℕ) : List Char → List (ℕ × Char)
  | [] => []
  | c :: text => (offset, c) :: charIndicesFrom (offset + c.utf8Size) text

/-- `str::char_indices`. -/
def charIndices (text : List Char) : List (ℕ × Char) := charIndicesFrom 0 text

@[simp] theorem byteLen_nil : byteLen [] = 0 := rfl

@[simp] theorem byteLen_cons (c : Char) (text : List Char) : byteLen (c :: text) = c.utf8Size + byteLen text := rfl

@[simp] theorem byteLen_append (text more : List Char) : byteLen (text ++ more) = byteLen text + byteLen more := by
  induction text with
  | nil => exact (Nat.zero_add _).symm
  | cons c text ih => rw [List.cons_append, byteLen_cons, byteLen_cons, ih, Nat.add_assoc]

theorem byteLen_pos {text : List Char} (h : text ≠ []) : 0 < byteLen text := by
  obtain ⟨c, text, rfl⟩ := List.exists_cons_of_ne_nil h
  exact Nat.add_pos_left c.utf8Size_pos _

theorem splitAt?_append (text more : List Char) : splitAt? (text ++ more) (byteLen text) = some (text, more) := by
  induction text with
  | nil =>
    rw [List.nil_append, byteLen_nil, splitAt?]
  | cons c text ih =>
    obtain ⟨n, hn⟩ := Nat.exists_eq_succ_of_ne_zero (Nat.add_pos_left c.utf8Size_pos (byteLen text)).ne'
    rw [List.cons_append, byteLen_cons, hn, splitAt?, if_pos (by omega)]
    have hrest : n + 1 - c.utf8Size = byteLen text := by omega
    rw [hrest, ih]
    rfl

theorem append_of_splitAt? {text before after : List Char} {offset : ℕ}
    (h : splitAt? text offset = some (before, after)) : text = before ++ after := by
  induction text generalizing offset before with
  | nil =>
    cases offset with
    | zero =>
      obtain ⟨rfl, rfl⟩ := Prod.mk.inj (Option.some.inj h)
      rfl
    | succ offset => cases h
  | cons c text ih =>
    cases offset with
    | zero =>
      obtain ⟨rfl, rfl⟩ := Prod.mk.inj (Option.some.inj h)
      rfl
    | succ offset =>
      rw [splitAt?] at h
      split at h
      · obtain ⟨⟨front, back⟩, hparts, heq⟩ := Option.map_eq_some_iff.mp h
        obtain ⟨rfl, rfl⟩ := Prod.mk.inj heq
        rw [ih hparts, List.cons_append]
      · cases h

theorem byteLen_of_ascii {text : List Char} (h : ∀ c ∈ text, c.utf8Size = 1) : byteLen text = text.length := by
  induction text with
  | nil => rfl
  | cons c text ih =>
    obtain ⟨hc, htext⟩ := List.forall_mem_cons.mp h
    rw [byteLen_cons, hc, ih htext, List.length_cons, Nat.add_comm]

theorem slice?_append (before middle after : List Char) :
    slice? (before ++ (middle ++ after)) (byteLen before) (byteLen before + byteLen middle) = some middle := by
  rw [slice?, splitAt?_append]
  simp [splitAt?_append, guard]

theorem charIndicesFrom_append (offset : ℕ) (text more : List Char) :
    charIndicesFrom offset (text ++ more) =
      charIndicesFrom offset text ++ charIndicesFrom (offset + byteLen text) more := by
  induction text generalizing offset with
  | nil => rfl
  | cons c text ih =>
    rw [List.cons_append, charIndicesFrom, charIndicesFrom, ih, byteLen_cons, Nat.add_assoc, List.cons_append]

section Utf8

/-- `str::as_bytes`. -/
def utf8 (text : List Char) : List UInt8 := text.flatMap String.utf8EncodeChar

/-- A byte literal of Rust, such as `b','`. -/
def asciiByte (c : Char) : UInt8 := c.val.toUInt8

@[simp] theorem utf8_nil : utf8 [] = [] := rfl

@[simp] theorem utf8_cons (c : Char) (text : List Char) : utf8 (c :: text) = String.utf8EncodeChar c ++ utf8 text := rfl

@[simp] theorem utf8_append (text more : List Char) : utf8 (text ++ more) = utf8 text ++ utf8 more :=
  List.flatMap_append

@[simp] theorem length_utf8 (text : List Char) : (utf8 text).length = byteLen text := by
  induction text with
  | nil => rfl
  | cons c text ih => rw [utf8_cons, List.length_append, String.length_utf8EncodeChar, ih, byteLen_cons]

theorem drop_utf8 (text more : List Char) : (utf8 (text ++ more)).drop (byteLen text) = utf8 more := by
  rw [utf8_append, ← length_utf8, List.drop_left]

variable {c d : Char} {b : UInt8}

theorem utf8EncodeChar_of_ascii (h : c.utf8Size = 1) : String.utf8EncodeChar c = [asciiByte c] :=
  String.utf8EncodeChar_eq_singleton h

theorem toNat_asciiByte (h : c.utf8Size = 1) : (asciiByte c).toNat = c.val.toNat := by
  rw [Char.utf8Size_eq_one_iff, UInt32.le_iff_toNat_le] at h
  rw [asciiByte, UInt32.toNat_toUInt8]
  exact Nat.mod_eq_of_lt (Nat.lt_of_le_of_lt h (by decide))

theorem asciiByte_lt (h : c.utf8Size = 1) : (asciiByte c).toNat < 128 := by
  rw [toNat_asciiByte h]
  rw [Char.utf8Size_eq_one_iff, UInt32.le_iff_toNat_le] at h
  exact Nat.lt_of_le_of_lt h (by decide)

theorem asciiByte_inj (hc : c.utf8Size = 1) (hd : d.utf8Size = 1) : asciiByte c = asciiByte d ↔ c = d := by
  refine ⟨fun h ↦ ?_, fun h ↦ h ▸ rfl⟩
  have hval : c.val.toNat = d.val.toNat := by rw [← toNat_asciiByte hc, ← toNat_asciiByte hd, h]
  exact Char.ext (UInt32.toNat_inj.mp hval)

/-- No byte of a character outside ASCII is one of ASCII. -/
theorem le_toNat_of_mem (h : c.utf8Size ≠ 1) (hb : b ∈ String.utf8EncodeChar c) : 128 ≤ b.toNat := by
  have hor : ∀ x y : UInt8, 128 ≤ y.toNat → 128 ≤ (x ||| y).toNat := by
    intro x y hy
    rw [UInt8.toNat_or]
    exact Nat.le_trans hy Nat.right_le_or
  rcases c.utf8Size_eq with h' | h' | h' | h'
  · exact absurd h' h
  · rw [String.utf8EncodeChar_eq_cons_cons h'] at hb
    simp only [List.mem_cons, List.not_mem_nil, or_false] at hb
    rcases hb with rfl | rfl <;> exact hor _ _ (by decide)
  · rw [String.utf8EncodeChar_eq_cons_cons_cons h'] at hb
    simp only [List.mem_cons, List.not_mem_nil, or_false] at hb
    rcases hb with rfl | rfl | rfl <;> exact hor _ _ (by decide)
  · rw [String.utf8EncodeChar_eq_cons_cons_cons_cons h'] at hb
    simp only [List.mem_cons, List.not_mem_nil, or_false] at hb
    rcases hb with rfl | rfl | rfl | rfl <;> exact hor _ _ (by decide)

theorem ne_asciiByte_of_mem (h : c.utf8Size ≠ 1) (hb : b ∈ String.utf8EncodeChar c) (hd : d.utf8Size = 1) :
    b ≠ asciiByte d := by
  intro heq
  subst heq
  exact absurd (le_toNat_of_mem h hb) (Nat.not_le.mpr (asciiByte_lt hd))

end Utf8

end Rskrb5.Lib.Offsets
