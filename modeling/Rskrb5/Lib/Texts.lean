import Mathlib.Algebra.Order.Ring.Int
import Mathlib.Data.List.TakeWhile

namespace Rskrb5.Lib.Texts

def toAsciiLowercase (text : List Char) : List Char := text.map Char.toLower

/-- The text before the first separator and the text behind it. -/
def splitOnce (separator : Char) (text : List Char) : Option (List Char × List Char) :=
  match text.dropWhile (· ≠ separator) with
  | [] => none
  | _ :: after => some (text.takeWhile (· ≠ separator), after)

/-- The text before the last separator and the text behind it. -/
def rsplitOnce (separator : Char) (text : List Char) : Option (List Char × List Char) :=
  (splitOnce separator text.reverse).map fun parts ↦ (parts.2.reverse, parts.1.reverse)

def trimEndMatches (isTrimmed : Char → Bool) (text : List Char) : List Char :=
  (text.reverse.dropWhile isTrimmed).reverse

def stripSuffix (c : Char) (text : List Char) : Option (List Char) :=
  match text.reverse with
  | last :: before => if last = c then some before.reverse else none
  | [] => none

/-- Lines end at a line feed, with a carriage return that stands before it. The last one need not
have an end. -/
def lines (text : List Char) : List (List Char) :=
  let pieces := text.splitOnP (· = '\n')
  let ended := pieces.dropLast.map fun line ↦ (stripSuffix '\r' line).getD line
  ended ++ (pieces.getLast?.toList.filter (· ≠ []))

theorem splitOnce_append {separator : Char} {before : List Char} (h : separator ∉ before) (after : List Char) :
    splitOnce separator (before ++ separator :: after) = some (before, after) := by
  have hbefore : ∀ c ∈ before, decide (c ≠ separator) = true := by
    intro c hc
    exact decide_eq_true fun heq ↦ h (heq ▸ hc)
  rw [splitOnce, List.dropWhile_append_of_pos hbefore, List.dropWhile_cons_of_neg (by simp),
    List.takeWhile_append_of_pos hbefore, List.takeWhile_cons_of_neg (by simp), List.append_nil]

theorem splitOnce_of_not_mem {separator : Char} {text : List Char} (h : separator ∉ text) :
    splitOnce separator text = none := by
  have hnil : text.dropWhile (· ≠ separator) = [] := by
    rw [List.dropWhile_eq_nil_iff]
    intro c hc
    exact decide_eq_true fun heq ↦ h (heq ▸ hc)
  rw [splitOnce, hnil]

theorem eq_of_splitOnce {separator : Char} {text before after : List Char}
    (h : splitOnce separator text = some (before, after)) : text = before ++ separator :: after := by
  rw [splitOnce] at h
  have htext := List.takeWhile_append_dropWhile (p := fun c ↦ decide (c ≠ separator)) (l := text)
  have hhead := List.head?_dropWhile_not (fun c ↦ decide (c ≠ separator)) text
  split at h
  · cases h
  · next first rest heq =>
    obtain ⟨rfl, rfl⟩ := Prod.mk.inj (Option.some.inj h)
    rw [heq] at htext hhead
    obtain rfl : first = separator := by simpa using hhead
    exact htext.symm

theorem not_mem_of_splitOnce {separator : Char} {text before after : List Char}
    (h : splitOnce separator text = some (before, after)) : separator ∉ before := by
  rw [splitOnce] at h
  split at h
  · cases h
  · obtain ⟨rfl, -⟩ := Prod.mk.inj (Option.some.inj h)
    intro hm
    have hne := List.mem_takeWhile_imp hm
    exact of_decide_eq_true hne rfl

theorem rsplitOnce_append {separator : Char} {after : List Char} (h : separator ∉ after) (before : List Char) :
    rsplitOnce separator (before ++ separator :: after) = some (before, after) := by
  have hreverse : (before ++ separator :: after).reverse = after.reverse ++ separator :: before.reverse := by
    simp
  rw [rsplitOnce, hreverse, splitOnce_append (by simpa using h)]
  simp

theorem rsplitOnce_eq_some {separator : Char} {text before after : List Char}
    (h : rsplitOnce separator text = some (before, after)) :
    text = before ++ separator :: after ∧ separator ∉ after := by
  obtain ⟨⟨behind, front⟩, hsplit, heq⟩ := Option.map_eq_some_iff.mp h
  obtain ⟨rfl, rfl⟩ := Prod.mk.inj heq
  refine ⟨?_, by simpa using not_mem_of_splitOnce hsplit⟩
  have htext := congrArg List.reverse (eq_of_splitOnce hsplit)
  simpa using htext

section Trimming

variable {p : Char → Bool} {text : List Char}

/-- Nothing is to be trimmed from either end. -/
structure Trimmed (p : Char → Bool) (text : List Char) : Prop where
  head : ∀ c ∈ text.head?, p c = false
  last : ∀ c ∈ text.getLast?, p c = false

theorem dropWhile_of_head? (h : ∀ c ∈ text.head?, p c = false) : text.dropWhile p = text := by
  cases text with
  | nil => rfl
  | cons c text => rw [List.dropWhile_cons_of_neg (by simp [h c rfl])]

theorem head?_dropWhile (p : Char → Bool) (text : List Char) : ∀ c ∈ (text.dropWhile p).head?, p c = false := by
  intro c hc
  have hnot := List.head?_dropWhile_not p text
  rw [Option.mem_def.mp hc] at hnot
  exact hnot

theorem trimEndMatches_of_getLast? (h : ∀ c ∈ text.getLast?, p c = false) : trimEndMatches p text = text := by
  rw [trimEndMatches, dropWhile_of_head? (by rwa [List.head?_reverse]), List.reverse_reverse]

theorem getLast?_trimEndMatches (p : Char → Bool) (text : List Char) :
    ∀ c ∈ (trimEndMatches p text).getLast?, p c = false := by
  rw [trimEndMatches, List.getLast?_reverse]
  exact head?_dropWhile p text.reverse

theorem trimEndMatches_start (p : Char → Bool) (text : List Char) : trimEndMatches p text <+: text := by
  rw [trimEndMatches, ← List.reverse_suffix, List.reverse_reverse]
  exact List.dropWhile_suffix p

theorem trimEndMatches_append_of_all {more : List Char} (h : ∀ c ∈ more, p c = true) :
    trimEndMatches p (text ++ more) = trimEndMatches p text := by
  rw [trimEndMatches, trimEndMatches, List.reverse_append, List.dropWhile_append_of_pos (by simpa using h)]

theorem head?_of_start {start : List Char} (h : start <+: text) : ∀ c ∈ start.head?, c ∈ text.head? := by
  obtain ⟨rest, rfl⟩ := h
  cases start with
  | nil => simp
  | cons c start => simp

theorem trimmed_trimEndMatches (h : ∀ c ∈ text.head?, p c = false) : Trimmed p (trimEndMatches p text) :=
  ⟨fun c hc ↦ h c (head?_of_start (trimEndMatches_start p text) c hc), getLast?_trimEndMatches p text⟩

theorem stripSuffix_append (c : Char) (text : List Char) : stripSuffix c (text ++ [c]) = some text := by
  simp [stripSuffix]

theorem stripSuffix_of_getLast? {c : Char} (h : text.getLast? ≠ some c) : stripSuffix c text = none := by
  rw [stripSuffix]
  rw [← List.head?_reverse] at h
  split
  · next last before heq =>
    rw [heq, List.head?_cons] at h
    exact if_neg fun hc ↦ h (congrArg some hc)
  · rfl

end Trimming

section Casing

theorem toLower_of_upper {c : Char} (h : c.val ≥ 'A'.val ∧ c.val ≤ 'Z'.val) :
    c.toLower.val = c.val + ('a'.val - 'A'.val) := congrArg Char.val (dif_pos h)

theorem toLower_of_not_upper {c : Char} (h : ¬ (c.val ≥ 'A'.val ∧ c.val ≤ 'Z'.val)) : c.toLower = c := dif_neg h

theorem toLower_eq_self_or (c : Char) : c.toLower = c ∨ ('a'.val ≤ c.toLower.val ∧ c.toLower.val ≤ 'z'.val) := by
  by_cases h : c.val ≥ 'A'.val ∧ c.val ≤ 'Z'.val
  · have hlow : 65 ≤ c.val.toNat := UInt32.le_iff_toNat_le.mp h.1
    have hhigh : c.val.toNat ≤ 90 := UInt32.le_iff_toNat_le.mp h.2
    have hval : (c.val + ('a'.val - 'A'.val)).toNat = c.val.toNat + 32 := by
      rw [UInt32.toNat_add]
      change (c.val.toNat + 32) % 2 ^ 32 = _
      omega
    rw [toLower_of_upper h, UInt32.le_iff_toNat_le, UInt32.le_iff_toNat_le, hval]
    change _ ∨ 97 ≤ _ ∧ _ ≤ 122
    omega
  · exact .inl (toLower_of_not_upper h)

@[simp] theorem toLower_toLower (c : Char) : c.toLower.toLower = c.toLower := by
  rcases toLower_eq_self_or c with h | ⟨h, -⟩
  · rw [h, h]
  · generalize c.toLower = c at *
    refine toLower_of_not_upper ?_
    intro h
    obtain ⟨-, h'⟩ := h
    have hle : 97 ≤ 90 := Nat.le_trans (UInt32.le_iff_toNat_le.mp h) (UInt32.le_iff_toNat_le.mp h')
    omega

/-- What is not a letter comes from itself only. -/
theorem toLower_eq_iff {c c' : Char} (hself : c'.toLower = c') (hlow : ¬ ('a'.val ≤ c'.val ∧ c'.val ≤ 'z'.val)) :
    c.toLower = c' ↔ c = c' := by
  constructor
  · intro h
    rcases toLower_eq_self_or c with hc | hc
    · exact hc.symm.trans h
    · exact absurd (h ▸ hc) hlow
  · intro heq
    subst heq
    exact hself

@[simp] theorem toAsciiLowercase_toAsciiLowercase (text : List Char) :
    toAsciiLowercase (toAsciiLowercase text) = toAsciiLowercase text := by
  simp [toAsciiLowercase, Function.comp_def]

end Casing

section Numbers

def digitValue (radix : ℕ) (c : Char) : Option ℕ :=
  let value :=
    if c.isDigit then c.toNat - '0'.toNat
    else if c.isLower then c.toNat - 'a'.toNat + 10
    else if c.isUpper then c.toNat - 'A'.toNat + 10
    else radix
  if value < radix then some value else none

def natOfDigits (radix : ℕ) (digits : List Char) : Option ℕ :=
  if digits = [] then none
  else digits.foldlM (fun value c ↦ (digitValue radix c).map (value * radix + ·)) 0

/-- An unsigned integer of the given width, with or without a plus sign. -/
def parseUnsigned (radix bits : ℕ) (text : List Char) : Option ℕ := do
  let value ← match text with
    | '+' :: digits => natOfDigits radix digits
    | digits => natOfDigits radix digits
  if value < 2 ^ bits then some value else none

/-- A decimal integer of the given width, with or without a sign. -/
def parseSigned (bits : ℕ) (text : List Char) : Option ℤ := do
  let value ← match text with
    | '+' :: digits => (natOfDigits 10 digits).map fun value ↦ (value : ℤ)
    | '-' :: digits => (natOfDigits 10 digits).map fun value ↦ -(value : ℤ)
    | digits => (natOfDigits 10 digits).map fun value ↦ (value : ℤ)
  if -2 ^ (bits - 1) ≤ value ∧ value < 2 ^ (bits - 1) then some value else none

/-- The digits of a decimal number, of any length. -/
def IsDigits (digits : List Char) : Prop := digits ≠ [] ∧ ∀ c ∈ digits, c.isDigit = true
  deriving Decidable

def digitsValue (digits : List Char) : ℕ := digits.foldl (fun value c ↦ value * 10 + (c.toNat - '0'.toNat)) 0

/-- What stands behind a plus sign, if there is one. -/
def unsigned : List Char → List Char
  | '+' :: digits => digits
  | digits => digits

variable {digits text : List Char} {n bits : ℕ}

theorem digitValue_of_isDigit {c : Char} (h : c.isDigit = true) : digitValue 10 c = some (c.toNat - '0'.toNat) := by
  have hlt : c.toNat - '0'.toNat < 10 := by
    have hle : c.val.toNat ≤ 57 := by
      simp only [Char.isDigit, Bool.and_eq_true, decide_eq_true_eq] at h
      exact UInt32.le_iff_toNat_le.mp h.2
    change c.val.toNat - 48 < 10
    omega
  simp only [digitValue, h, if_true, hlt]

theorem digitValue_of_not_isDigit {c : Char} (h : c.isDigit = false) : digitValue 10 c = none := by
  simp only [digitValue, h, Bool.false_eq_true, if_false]
  refine if_neg ?_
  split
  · omega
  · split <;> omega

theorem foldlM_digitValue (start : ℕ) (digits : List Char) :
    digits.foldlM (fun value c ↦ (digitValue 10 c).map (value * 10 + ·)) start = some n ↔
      (∀ c ∈ digits, c.isDigit = true) ∧
        digits.foldl (fun value c ↦ value * 10 + (c.toNat - '0'.toNat)) start = n := by
  induction digits generalizing start with
  | nil => simp
  | cons c digits ih =>
    rw [List.foldlM_cons, List.foldl_cons, List.forall_mem_cons]
    by_cases h : c.isDigit = true
    · rw [digitValue_of_isDigit h]
      simpa [h] using ih _
    · rw [digitValue_of_not_isDigit (by simpa using h)]
      simp [h]

theorem natOfDigits_eq_some_iff : natOfDigits 10 digits = some n ↔ IsDigits digits ∧ digitsValue digits = n := by
  rw [natOfDigits, IsDigits, and_assoc, digitsValue]
  by_cases h : digits = []
  · simp [h]
  · rw [if_neg h, foldlM_digitValue]
    simp [h]

theorem parseUnsigned_eq (radix bits : ℕ) (text : List Char) : parseUnsigned radix bits text =
    (natOfDigits radix (unsigned text)).bind fun value ↦ if value < 2 ^ bits then some value else none := by
  unfold parseUnsigned unsigned
  split <;> rfl

/-- An unsigned decimal number of a fixed width: digits behind at most one plus sign. -/
theorem parseUnsigned_eq_some_iff : parseUnsigned 10 bits text = some n ↔
    IsDigits (unsigned text) ∧ digitsValue (unsigned text) = n ∧ n < 2 ^ bits := by
  rw [parseUnsigned_eq, Option.bind_eq_some_iff]
  constructor
  · intro h
    obtain ⟨value, hvalue, hfits⟩ := h
    obtain ⟨hdigits, rfl⟩ := natOfDigits_eq_some_iff.mp hvalue
    split at hfits
    · next hlt =>
      obtain rfl := Option.some.inj hfits
      exact ⟨hdigits, rfl, hlt⟩
    · cases hfits
  · intro h
    obtain ⟨hdigits, rfl, hlt⟩ := h
    exact ⟨_, natOfDigits_eq_some_iff.mpr ⟨hdigits, rfl⟩, if_pos hlt⟩

theorem unsigned_of_not_mem (h : '+' ∉ text) : unsigned text = text := by
  unfold unsigned
  split
  · exact absurd List.mem_cons_self h
  · rfl

end Numbers

end Rskrb5.Lib.Texts
