import Rskrb5.Crypto.Primitives

namespace Rskrb5.Der

open Crypto

def tagOctets : Bytes → Option ℕ
  | [] => none
  | byte :: bytes => if byte &&& 0x80 = 0 then some 1 else (tagOctets bytes).map (· + 1)

def tagEnd (bytes : Bytes) : Option ℕ :=
  match bytes with
  | [] => none
  | first :: rest => if first &&& 0x1f = 0x1f then (tagOctets rest).map (· + 1) else some 1

def lengthEnd (bytes : Bytes) (offset : ℕ) : Option (ℕ × ℕ) := do
  let firstLen ← bytes[offset]?
  let offset := offset + 1
  if firstLen &&& 0x80 = 0 then some (offset, firstLen.toNat)
  else
    let count := (firstLen &&& 0x7f).toNat
    if count = 0 ∨ 8 < count then none
    else if offset + count ≤ bytes.length then
      some (offset + count, beNat ((bytes.drop offset).take count))
    else none

def topLevelDerEnd (bytes : Bytes) : Option ℕ := do
  let offset ← tagEnd bytes
  let (offset, len) ← lengthEnd bytes offset
  let endOffset := offset + len
  if 2 ^ 64 ≤ endOffset then none
  else if endOffset ≤ bytes.length then some endOffset
  else none

def trimZeroPaddedDer (bytes : Bytes) : Bytes :=
  match topLevelDerEnd bytes with
  | none => bytes
  | some endOffset => if (bytes.drop endOffset).all (· == 0) then bytes.take endOffset else bytes

/-- A tag: one octet, or an escape octet and continuation octets of which only the last
has its high bit clear. -/
inductive IsTag : Bytes → Prop
  | low {first : UInt8} (h : first &&& 0x1f ≠ 0x1f) : IsTag [first]
  | high {first last : UInt8} {octets : Bytes} (h : first &&& 0x1f = 0x1f)
      (hc : ∀ octet ∈ octets, octet &&& 0x80 ≠ 0) (hl : last &&& 0x80 = 0) :
      IsTag (first :: (octets ++ [last]))

/-- The octets of a definite length, in the short form or with one to eight length octets. -/
inductive IsLength : Bytes → ℕ → Prop
  | short {first : UInt8} (h : first &&& 0x80 = 0) : IsLength [first] first.toNat
  | long {first : UInt8} {octets : Bytes} (h : first &&& 0x80 ≠ 0)
      (hc : (first &&& 0x7f).toNat = octets.length) (h0 : 0 < octets.length) (h8 : octets.length ≤ 8) :
      IsLength (first :: octets) (beNat octets)

/-- One value in definite-length encoding, with nothing behind it. A slice is shorter than
the address space. -/
def IsDefinite (d : Bytes) : Prop :=
  d.length < 2 ^ 64 ∧ ∃ tag len content,
    IsTag tag ∧ IsLength len content.length ∧ d = tag ++ len ++ content

theorem IsDefinite.ne_nil {d : Bytes} (h : IsDefinite d) : d ≠ [] := by
  obtain ⟨-, tag, len, content, htag, -, rfl⟩ := h
  cases htag <;> simp

theorem tagOctets_append {octets : Bytes} {last : UInt8} (hc : ∀ octet ∈ octets, octet &&& 0x80 ≠ 0)
    (hl : last &&& 0x80 = 0) (rest : Bytes) :
    tagOctets (octets ++ [last] ++ rest) = some (octets.length + 1) := by
  induction octets with
  | nil => simp [tagOctets, hl]
  | cons octet octets ih =>
    have ho := hc octet List.mem_cons_self
    have ht := ih fun o h ↦ hc o (List.mem_cons_of_mem _ h)
    simp only [List.cons_append, tagOctets, ho, if_false, ht, Option.map_some, List.length_cons]

theorem tagEnd_append {tag : Bytes} (h : IsTag tag) (rest : Bytes) :
    tagEnd (tag ++ rest) = some tag.length := by
  cases h with
  | low h => simp [tagEnd, h]
  | high h hc hl =>
    have ht := tagOctets_append hc hl rest
    simp only [List.cons_append, tagEnd, h, if_true, ht, Option.map_some, List.length_cons,
      List.length_append, List.length_nil]

theorem lengthEnd_append {len : Bytes} {n : ℕ} (h : IsLength len n) (tag rest : Bytes) :
    lengthEnd (tag ++ (len ++ rest)) tag.length = some (tag.length + len.length, n) := by
  cases h with
  | short h => simp [lengthEnd, h]
  | @long first octets h hc h0 h8 =>
    have hd : (tag ++ (first :: octets ++ rest)).drop (tag.length + 1) = octets ++ rest := by
      rw [← List.drop_drop, List.drop_left]
      rfl
    have hle : tag.length + 1 + octets.length ≤ (tag ++ (first :: octets ++ rest)).length := by
      simp; omega
    have hcount : ¬ (octets.length = 0 ∨ 8 < octets.length) := by omega
    simp only [lengthEnd, List.getElem?_append_right (Nat.le_refl tag.length), Nat.sub_self,
      List.cons_append, List.getElem?_cons_zero, Option.bind_eq_bind, Option.bind_some, h, if_false, hc,
      hcount]
    simp only [List.cons_append] at hle hd
    rw [if_pos hle, hd, List.take_left, List.length_cons, Nat.add_assoc, Nat.add_comm 1]

theorem topLevelDerEnd_append {d : Bytes} (h : IsDefinite d) (rest : Bytes) :
    topLevelDerEnd (d ++ rest) = some d.length := by
  obtain ⟨hlt, tag, len, content, ht, hl, rfl⟩ := h
  have hsp : tag ++ len ++ content ++ rest = tag ++ (len ++ (content ++ rest)) := by
    simp only [List.append_assoc]
  have hn : tag.length + len.length + content.length = (tag ++ len ++ content).length := by
    simp only [List.length_append]
  simp only [topLevelDerEnd, hsp, tagEnd_append ht, lengthEnd_append hl, Option.bind_eq_bind,
    Option.bind_some, hn]
  rw [if_neg (by omega), if_pos (by simp only [List.length_append]; omega)]

theorem trimZeroPaddedDer_append_zeros {d : Bytes} (h : IsDefinite d) (k : ℕ) :
    trimZeroPaddedDer (d ++ zeros k) = d := by
  have hall : (zeros k).all (· == 0) = true := by simp [zeros]
  rw [trimZeroPaddedDer, topLevelDerEnd_append h]
  simp only [List.drop_left, hall, if_true, List.take_left]

theorem trimZeroPaddedDer_zeroPad {d : Bytes} (h : IsDefinite d) (blockSize : ℕ) :
    trimZeroPaddedDer (zeroPad d blockSize) = d := by
  obtain ⟨k, hk⟩ := zeroPad_eq_append d blockSize
  rw [hk, trimZeroPaddedDer_append_zeros h]

theorem trimZeroPaddedDer_of_isDefinite {d : Bytes} (h : IsDefinite d) : trimZeroPaddedDer d = d := by
  simpa [zeros] using trimZeroPaddedDer_append_zeros h 0

theorem tagOctets_eq_some {bytes : Bytes} {n : ℕ} (h : tagOctets bytes = some n) :
    ∃ octets last rest, bytes = octets ++ [last] ++ rest ∧ n = octets.length + 1 ∧
      (∀ octet ∈ octets, octet &&& 0x80 ≠ 0) ∧ last &&& 0x80 = 0 := by
  induction bytes generalizing n with
  | nil => simp [tagOctets] at h
  | cons byte bytes ih =>
    rw [tagOctets] at h
    split at h
    · next hb =>
      obtain rfl := Option.some.inj h
      exact ⟨[], byte, bytes, rfl, rfl, by simp, hb⟩
    · next hb =>
      obtain ⟨m, hm, rfl⟩ := Option.map_eq_some_iff.mp h
      obtain ⟨octets, last, rest, rfl, rfl, hc, hl⟩ := ih hm
      exact ⟨byte :: octets, last, rest, rfl, rfl, List.forall_mem_cons.mpr ⟨hb, hc⟩, hl⟩

theorem tagEnd_eq_some {bytes : Bytes} {n : ℕ} (h : tagEnd bytes = some n) :
    ∃ tag rest, bytes = tag ++ rest ∧ IsTag tag ∧ tag.length = n := by
  cases bytes with
  | nil => simp [tagEnd] at h
  | cons first bytes =>
    simp only [tagEnd] at h
    split at h
    · next hf =>
      obtain ⟨m, hm, rfl⟩ := Option.map_eq_some_iff.mp h
      obtain ⟨octets, last, rest, rfl, rfl, hc, hl⟩ := tagOctets_eq_some hm
      exact ⟨first :: (octets ++ [last]), rest, by simp, .high hf hc hl, by simp⟩
    · next hf =>
      obtain rfl := Option.some.inj h
      exact ⟨[first], bytes, rfl, .low hf, rfl⟩

theorem lengthEnd_eq_some {tag rest : Bytes} {offset n : ℕ}
    (h : lengthEnd (tag ++ rest) tag.length = some (offset, n)) :
    ∃ len content, rest = len ++ content ∧ IsLength len n ∧ offset = tag.length + len.length := by
  cases rest with
  | nil => simp [lengthEnd] at h
  | cons first rest =>
    have hdrop : (tag ++ first :: rest).drop (tag.length + 1) = rest := by
      rw [← List.drop_drop, List.drop_left]
      rfl
    simp only [lengthEnd, List.getElem?_append_right (Nat.le_refl tag.length), Nat.sub_self,
      List.getElem?_cons_zero, Option.bind_eq_bind, Option.bind_some, hdrop] at h
    split_ifs at h with hs hz hle
    · obtain ⟨rfl, rfl⟩ := Prod.mk.inj (Option.some.inj h)
      exact ⟨[first], rest, rfl, .short hs, rfl⟩
    · obtain ⟨rfl, rfl⟩ := Prod.mk.inj (Option.some.inj h)
      have hlen : (rest.take (first &&& 0x7f).toNat).length = (first &&& 0x7f).toNat := by
        rw [List.length_take]
        simp only [List.length_append, List.length_cons] at hle
        omega
      refine ⟨first :: rest.take (first &&& 0x7f).toNat, rest.drop (first &&& 0x7f).toNat, ?_, ?_, ?_⟩
      · simp
      · exact .long hs hlen.symm (by omega) (by omega)
      · simp only [List.length_cons, hlen]
        omega

theorem isDefinite_of_topLevelDerEnd {d : Bytes} (h : topLevelDerEnd d = some d.length) :
    IsDefinite d := by
  simp only [topLevelDerEnd, Option.bind_eq_bind, Option.bind_eq_some_iff] at h
  obtain ⟨n, ht, ⟨offset, count⟩, hl, h⟩ := h
  obtain ⟨tag, rest, rfl, htag, rfl⟩ := tagEnd_eq_some ht
  obtain ⟨len, content, rfl, hlen, rfl⟩ := lengthEnd_eq_some hl
  split_ifs at h with hlt hle
  have hn := Option.some.inj h
  simp only [List.length_append] at hn hlt
  obtain rfl : count = content.length := by omega
  exact ⟨by simp only [List.length_append]; omega, tag, len, content, htag, hlen, by simp⟩

theorem trimZeroPaddedDer_eq (b : Bytes) : trimZeroPaddedDer b = b ∨
    ∃ endOffset, trimZeroPaddedDer b = b.take endOffset ∧ ∀ byte ∈ b.drop endOffset, byte = 0 := by
  unfold trimZeroPaddedDer
  split
  · exact .inl rfl
  · next endOffset _ =>
    split
    · next hzeros =>
      refine .inr ⟨endOffset, rfl, fun byte hbyte ↦ ?_⟩
      exact beq_iff_eq.mp (List.all_eq_true.mp hzeros byte hbyte)
    · exact .inl rfl

/-- Padding with zeros is taken off again, also from a value that ends in zeros. Whatever the bytes,
nothing but zeros is taken off, and only behind the rest. -/
theorem trimZeroPaddedDer_exact :
    (∀ (d : Bytes) (k : ℕ), IsDefinite d → trimZeroPaddedDer (d ++ zeros k) = d) ∧
    ∀ b, ∃ removed, b = trimZeroPaddedDer b ++ removed ∧ ∀ byte ∈ removed, byte = 0 := by
  refine ⟨fun d k h ↦ trimZeroPaddedDer_append_zeros h k, fun b ↦ ?_⟩
  rcases trimZeroPaddedDer_eq b with heq | ⟨endOffset, heq, hzeros⟩
  · exact ⟨[], by rw [heq, List.append_nil], by simp⟩
  · exact ⟨b.drop endOffset, by rw [heq, List.take_append_drop], hzeros⟩

end Rskrb5.Der
