import Mathlib.Data.List.Infix
import Mathlib.Data.String.Basic

namespace Rskrb5.Lib.Suffixes

section Lists

variable {α β : Type} [DecidableEq α]

/-- The suffixes of a list that start with a separator, the longest first. -/
def marked (sep : α) (l : List α) : List (List α) := l.tails.filter fun s ↦ s.head? = some sep

/-- A list of pieces behind a separator, with a separator between them. -/
def rejoin (sep : α) (pieces : List (List α)) : Option (List α) :=
  if pieces = [] then none else some (sep :: [sep].intercalate pieces)

variable {sep : α} {l s : List α}

theorem mem_marked : s ∈ marked sep l ↔ s <:+ l ∧ s.head? = some sep := by
  simp [marked]

theorem marked_cons_self (sep : α) (l : List α) : marked sep (sep :: l) = (sep :: l) :: marked sep l := by
  simp [marked]

theorem marked_cons_of_ne {a : α} (h : a ≠ sep) (l : List α) : marked sep (a :: l) = marked sep l := by
  simp [marked, h]

theorem findSome?_marked_tail {f : List α → Option β} (h : f l = none) :
    (marked sep l).findSome? f = (marked sep l.tail).findSome? f := by
  cases l with
  | nil => rfl
  | cons a l =>
    by_cases ha : a = sep
    · subst ha
      rw [marked_cons_self, List.findSome?_cons, h, List.tail_cons]
    · rw [marked_cons_of_ne ha, List.tail_cons]

theorem rejoin_splitOn (sep : α) (l : List α) : rejoin sep (l.splitOn sep) = some (sep :: l) := by
  rw [rejoin, if_neg (List.splitOn_ne_nil sep l), List.intercalate_splitOn]

/-- The pieces between separators, from the second one on, give the suffixes that start with one. -/
theorem filterMap_rejoin_tails (sep : α) (l : List α) :
    (l.splitOn sep).tails.tail.filterMap (rejoin sep) = marked sep l := by
  induction l with
  | nil => simp [rejoin, marked]
  | cons a l ih =>
    obtain ⟨piece, pieces, hpieces⟩ := List.exists_cons_of_ne_nil (List.splitOn_ne_nil sep l)
    by_cases h : a = sep
    · subst h
      have hsplit : (a :: l).splitOn a = [] :: l.splitOn a := by
        simp [List.splitOn_cons_eq_if_modifyHead]
      have htails : (l.splitOn a).tails = l.splitOn a :: (l.splitOn a).tails.tail := by
        rw [hpieces, List.tails_cons, List.tail_cons]
      rw [hsplit, List.tails_cons, List.tail_cons, htails, List.filterMap_cons_some (rejoin_splitOn a l), ih,
        marked_cons_self]
    · have hsplit : (a :: l).splitOn sep = (a :: piece) :: pieces := by
        simp [List.splitOn_cons_eq_if_modifyHead, h, hpieces]
      rw [hpieces] at ih
      rw [hsplit, marked_cons_of_ne h, ← ih, List.tails_cons, List.tails_cons, List.tail_cons, List.tail_cons]

theorem pairwise_marked (sep : α) (l : List α) :
    (marked sep l).Pairwise fun s t ↦ t.length < s.length := by
  induction l with
  | nil => simp [marked]
  | cons a l ih =>
    by_cases h : a = sep
    · subst h
      rw [marked_cons_self, List.pairwise_cons]
      refine ⟨fun s hs ↦ ?_, ih⟩
      have hle := (mem_marked.mp hs).1.length_le
      rw [List.length_cons]
      omega
    · rwa [marked_cons_of_ne h]

theorem marked_map {f : α → α} (hf : ∀ a, f a = sep ↔ a = sep) (l : List α) :
    marked sep (l.map f) = (marked sep l).map (List.map f) := by
  induction l with
  | nil => simp [marked]
  | cons a l ih =>
    by_cases h : a = sep
    · have hfa := (hf a).mpr h
      subst h
      rw [List.map_cons, hfa, marked_cons_self, marked_cons_self, ih, List.map_cons, List.map_cons, hfa]
    · rw [List.map_cons, marked_cons_of_ne h, marked_cons_of_ne (mt (hf a).mp h), ih]

end Lists

section Search

variable {α β : Type} {size : α → ℕ} {f : α → Option β} {l : List α} {b : β}

/-- In a list that descends by size, a search finds what the largest element with a result gives. -/
theorem findSome?_eq_some_iff_of_pairwise (hl : l.Pairwise fun a a' ↦ size a' < size a) :
    l.findSome? f = some b ↔ ∃ a ∈ l, f a = some b ∧ ∀ a' ∈ l, size a < size a' → f a' = none := by
  rw [List.findSome?_eq_some_iff]
  constructor
  · intro h
    obtain ⟨before, a, after, rfl, hfa, hbefore⟩ := h
    refine ⟨a, List.mem_append_right _ List.mem_cons_self, hfa, fun a' ha' hlt ↦ ?_⟩
    rcases List.mem_append.mp ha' with ha' | ha'
    · exact hbefore a' ha'
    · rcases List.mem_cons.mp ha' with rfl | ha'
      · exact absurd hlt (lt_irrefl _)
      · have hafter := (List.pairwise_cons.mp (List.pairwise_append.mp hl).2.1).1 a' ha'
        exact absurd hlt (lt_asymm hafter)
  · intro h
    obtain ⟨a, ha, hfa, hall⟩ := h
    obtain ⟨before, after, rfl⟩ := List.append_of_mem ha
    refine ⟨before, a, after, rfl, hfa, fun x hx ↦ ?_⟩
    have hlt := (List.pairwise_append.mp hl).2.2 x hx a List.mem_cons_self
    exact hall x (List.mem_append_left _ hx) hlt

end Search

section Strings

open String

/-- The invariant of a split: what is behind the last separator, and what is left. -/
theorem splitOnAux_singleton (c : Char) (l m r : List Char) (acc : List String) :
    splitOnAux (ofList (l ++ m ++ r)) (ofList [c]) ⟨utf8Len l⟩ ⟨utf8Len l + utf8Len m⟩ 0 acc =
      acc.reverse ++ (List.splitOnPPrepend (· == c) r m.reverse).map ofList := by
  unfold splitOnAux
  simp only [List.append_assoc, atEnd_iff, rawEndPos_ofList, utf8Len_append, Pos.Raw.mk_le_mk,
    Nat.add_le_add_iff_left, (by omega : utf8Len m + utf8Len r ≤ utf8Len m ↔ utf8Len r = 0),
    utf8Len_eq_zero, List.reverse_cons]
  split
  · subst r
    simpa using extract_of_valid l m []
  · obtain ⟨x, r, rfl⟩ := r.exists_cons_of_ne_nil ‹_›
    have hget : Pos.Raw.get (ofList (l ++ (m ++ x :: r))) ⟨utf8Len l + utf8Len m⟩ = x := by
      simpa [-ofList_append] using get_of_valid (l ++ m) (x :: r)
    have hnext : Pos.Raw.next (ofList (l ++ (m ++ x :: r))) ⟨utf8Len l + utf8Len m⟩ =
        ⟨utf8Len l + utf8Len m + x.utf8Size⟩ := by
      simpa [-ofList_append] using next_of_valid (l ++ m) x r
    have hgetSep : Pos.Raw.get (ofList [c]) 0 = c := by
      simpa [-ofList_append] using get_of_valid [] [c]
    have hnextSep : Pos.Raw.next (ofList [c]) 0 = ⟨c.utf8Size⟩ := by
      simpa [-ofList_append] using next_of_valid [] c []
    have hextract : Pos.Raw.extract (ofList (l ++ (m ++ x :: r))) ⟨utf8Len l⟩ ⟨utf8Len l + utf8Len m⟩ =
        ofList m := by
      simpa [-ofList_append] using extract_of_valid l m (x :: r)
    rw [hget, hgetSep, hnext, hnextSep]
    by_cases hx : x = c
    · subst hx
      have hback : (⟨utf8Len l + utf8Len m + x.utf8Size⟩ : Pos.Raw).unoffsetBy ⟨x.utf8Size⟩ =
          ⟨utf8Len l + utf8Len m⟩ := by
        simp [Pos.Raw.unoffsetBy]
      have ih := splitOnAux_singleton x (l ++ m ++ [x]) [] r (ofList m :: acc)
      simp only [beq_self_eq_true, if_true, hback, hextract]
      simpa [-ofList_append, Nat.add_assoc, List.splitOnPPrepend_cons_eq_if] using ih
    · have hback : (⟨utf8Len l + utf8Len m⟩ : Pos.Raw).unoffsetBy 0 = ⟨utf8Len l + utf8Len m⟩ := by simp
      have ih := splitOnAux_singleton c l (m ++ [x]) r acc
      rw [hback, hnext]
      simpa [-ofList_append, hx, Nat.add_assoc, List.splitOnPPrepend_cons_eq_if] using ih
  termination_by r.length

theorem splitOn_singleton (s : String) (c : Char) :
    s.splitOn (ofList [c]) = (s.toList.splitOn c).map ofList := by
  have h := splitOnAux_singleton c [] [] s.toList []
  rw [List.splitOn_eq_splitOnP]
  simpa [splitOn] using h

theorem findSome?_filterMap {α β γ : Type} (g : α → Option β) (f : β → Option γ) (l : List α) :
    (l.filterMap g).findSome? f = l.findSome? fun a ↦ (g a).bind f := by
  induction l with
  | nil => rfl
  | cons a l ih =>
    cases h : g a with
    | none => rw [List.filterMap_cons_none h, ih, List.findSome?_cons, h]; rfl
    | some b => rw [List.filterMap_cons_some h, List.findSome?_cons, List.findSome?_cons, h, ih]; rfl

/-- The strings that a dotted name is searched by, from its pieces. -/
theorem findSome?_tails_splitOn {β : Type} (s : String) (f : String → Option β) :
    ((s.splitOn ".").tails.tail.findSome? fun parts ↦
      if parts = [] then none else f ("." ++ ".".intercalate parts)) =
      (marked '.' s.toList).findSome? fun suffix ↦ f (ofList suffix) := by
  have hsplit : s.splitOn "." = (s.toList.splitOn '.').map ofList := splitOn_singleton s '.'
  have hjoin : ∀ parts : List (List Char), "." ++ ".".intercalate (parts.map ofList) =
      ofList ('.' :: ['.'].intercalate parts) := by
    intro parts
    rw [← String.toList_inj]
    simp [String.toList_intercalate, Function.comp_def]
  rw [hsplit, List.map_tails, ← List.map_tail, List.findSome?_map, ← filterMap_rejoin_tails, findSome?_filterMap]
  congr 1
  funext parts
  by_cases h : parts = []
  · simp [h, rejoin]
  · simp [h, rejoin, hjoin]

end Strings

end Rskrb5.Lib.Suffixes
