import Mathlib.Data.List.Basic
import Mathlib.Data.List.Nodup

namespace Rskrb5.Lib.Lists

variable {α β : Type*}

section Separated

/-- The fields in order, each behind a separator. -/
def separated (sep : α) (fields : List (List α)) : List α := fields.flatMap (sep :: ·)

variable {sep : α} {fields fields' : List (List α)} {field field' rest rest' : List α}

@[simp] theorem separated_nil : separated sep [] = [] := rfl

@[simp] theorem separated_cons :
    separated sep (field :: fields) = sep :: (field ++ separated sep fields) := rfl

/-- What follows a list without the separator either is empty or starts with the separator. -/
theorem append_inj_of_notMem (h : sep ∉ field) (h' : sep ∉ field')
    (hrest : ∀ a ∈ rest.head?, a = sep) (hrest' : ∀ a ∈ rest'.head?, a = sep)
    (heq : field ++ rest = field' ++ rest') : field = field' ∧ rest = rest' := by
  induction field generalizing field' with
  | nil =>
    cases field' with
    | nil => exact ⟨rfl, heq⟩
    | cons a field' =>
      rw [List.nil_append] at heq
      subst heq
      exact absurd (hrest a rfl ▸ List.mem_cons_self) h'
  | cons a field ih =>
    cases field' with
    | nil =>
      rw [List.nil_append] at heq
      subst heq
      exact absurd (hrest' a rfl ▸ List.mem_cons_self) h
    | cons b field' =>
      obtain ⟨rfl, htail⟩ := List.cons.inj heq
      obtain ⟨rfl, hrest⟩ := ih (fun hmem ↦ h (.tail _ hmem)) (fun hmem ↦ h' (.tail _ hmem)) htail
      exact ⟨rfl, hrest⟩

theorem head?_separated (sep : α) (fields : List (List α)) : ∀ a ∈ (separated sep fields).head?, a = sep := by
  intro a ha
  cases fields with
  | nil => cases ha
  | cons field fields => exact (Option.some.inj ha).symm

theorem separated_injective (h : ∀ field ∈ fields, sep ∉ field) (h' : ∀ field ∈ fields', sep ∉ field)
    (heq : separated sep fields = separated sep fields') : fields = fields' := by
  induction fields generalizing fields' with
  | nil =>
    cases fields' with
    | nil => rfl
    | cons field fields' => cases heq
  | cons field fields ih =>
    cases fields' with
    | nil => cases heq
    | cons field' fields' =>
      obtain ⟨rfl, htail⟩ := append_inj_of_notMem (h _ List.mem_cons_self) (h' _ List.mem_cons_self)
        (head?_separated _ _) (head?_separated _ _) (List.cons.inj heq).2
      rw [ih (fun f hf ↦ h f (.tail _ hf)) (fun f hf ↦ h' f (.tail _ hf)) htail]

theorem append_separated_injective (h : sep ∉ field) (h' : sep ∉ field')
    (hfields : ∀ field ∈ fields, sep ∉ field) (hfields' : ∀ field ∈ fields', sep ∉ field)
    (heq : field ++ separated sep fields = field' ++ separated sep fields') :
    field = field' ∧ fields = fields' := by
  obtain ⟨hfield, htail⟩ := append_inj_of_notMem h h' (head?_separated _ _) (head?_separated _ _) heq
  exact ⟨hfield, separated_injective hfields hfields' htail⟩

variable (sep) in
theorem exists_separated (l : List α) :
    ∃ field fields, l = field ++ separated sep fields ∧ sep ∉ field ∧ ∀ field ∈ fields, sep ∉ field := by
  induction l with
  | nil => exact ⟨[], [], rfl, List.not_mem_nil, by simp⟩
  | cons a l ih =>
    obtain ⟨field, fields, rfl, hfield, hfields⟩ := ih
    by_cases ha : sep = a
    · subst ha
      exact ⟨[], field :: fields, rfl, List.not_mem_nil, List.forall_mem_cons.mpr ⟨hfield, hfields⟩⟩
    · refine ⟨a :: field, fields, rfl, ?_, hfields⟩
      rw [List.mem_cons, not_or]
      exact ⟨ha, hfield⟩

/-- Pieces of one length need no separator. -/
theorem flatMap_injective_of_length {f : α → List β} {n : ℕ} (hlength : ∀ a, (f a).length = n)
    (hf : f.Injective) {xs ys : List α} (h : xs.length = ys.length) (heq : xs.flatMap f = ys.flatMap f) :
    xs = ys := by
  induction xs generalizing ys with
  | nil => exact (List.eq_nil_of_length_eq_zero h.symm).symm
  | cons x xs ih =>
    cases ys with
    | nil => cases h
    | cons y ys =>
      obtain ⟨hhead, htail⟩ := List.append_inj heq ((hlength x).trans (hlength y).symm)
      rw [hf hhead, ih (Nat.succ.inj h) htail]

end Separated

section Unions

variable [DecidableEq α]

/-- One more element, if it is not there yet. -/
def pushNew (xs : List α) (x : α) : List α := if x ∈ xs then xs else xs ++ [x]

theorem mem_pushNew {xs : List α} {x a : α} : a ∈ pushNew xs x ↔ a ∈ xs ∨ a = x := by
  rw [pushNew]
  split
  · next h => exact ⟨.inl, fun ha ↦ ha.elim id (· ▸ h)⟩
  · rw [List.mem_append, List.mem_singleton]

theorem nodup_pushNew {xs : List α} {x : α} : (pushNew xs x).Nodup ↔ xs.Nodup := by
  rw [pushNew]
  split
  · rfl
  · next h =>
    refine ⟨fun hnodup ↦ hnodup.sublist (List.sublist_append_left _ _), fun hnodup ↦ ?_⟩
    exact hnodup.append (List.nodup_singleton x) (List.disjoint_singleton.mpr h)

theorem mem_foldl_pushNew {xs ys : List α} {a : α} : a ∈ ys.foldl pushNew xs ↔ a ∈ xs ∨ a ∈ ys := by
  induction ys generalizing xs with
  | nil => simp
  | cons y ys ih => rw [List.foldl_cons, ih, mem_pushNew, List.mem_cons, or_assoc]

theorem nodup_foldl_pushNew {xs ys : List α} : (ys.foldl pushNew xs).Nodup ↔ xs.Nodup := by
  induction ys generalizing xs with
  | nil => rfl
  | cons y ys ih => rw [List.foldl_cons, ih, nodup_pushNew]

end Unions

section Put

/-- The first element that makes way for the new one is replaced by it, or it goes to the end. -/
def put (replaces : α → Bool) (new : α) : List α → List α
  | [] => [new]
  | a :: as => if replaces a then new :: as else a :: put replaces new as

variable {replaces p : α → Bool} {new : α}

/-- An element that is not looked for, in the place of another such, is not seen. -/
theorem filter_put (hnew : p new = false) (hreplaced : ∀ a, replaces a = true → p a = false) (as : List α) :
    (put replaces new as).filter p = as.filter p := by
  induction as with
  | nil => rw [put, List.filter_cons, if_neg (ne_true_of_eq_false hnew)]
  | cons a as ih =>
    rw [put]
    split
    · next h =>
      rw [List.filter_cons, if_neg (ne_true_of_eq_false hnew), List.filter_cons,
        if_neg (ne_true_of_eq_false (hreplaced a h))]
    · rw [List.filter_cons, List.filter_cons, ih]

theorem find?_put_of_not (hnew : p new = false) (hreplaced : ∀ a, replaces a = true → p a = false) (as : List α) :
    (put replaces new as).find? p = as.find? p := by
  rw [← List.head?_filter, filter_put hnew hreplaced, List.head?_filter]

/-- What is found first is the new element, unless an element comes first that does not make way for it. -/
theorem find?_put (hnew : p new = true) (hreplaced : ∀ a, replaces a = true → p a = true) (as : List α) :
    (put replaces new as).find? p =
      some ((as.find? p).elim new fun first ↦ if replaces first then new else first) := by
  induction as with
  | nil => rw [put, List.find?_cons_of_pos hnew]; rfl
  | cons a as ih =>
    rw [put]
    by_cases h : replaces a = true
    · rw [if_pos h, List.find?_cons_of_pos hnew, List.find?_cons_of_pos (hreplaced a h), Option.elim_some,
        if_pos h]
    · rw [if_neg h]
      by_cases ha : p a = true
      · rw [List.find?_cons_of_pos ha, List.find?_cons_of_pos ha, Option.elim_some, if_neg h]
      · rw [List.find?_cons_of_neg ha, List.find?_cons_of_neg ha, ih]

end Put

section Sorting

open Std

variable {γ : Type} {cmp : γ → γ → Ordering} [TransCmp cmp]

variable (cmp) in
theorem pairwise_mergeSort_isLE (l : List γ) :
    (l.mergeSort fun a b ↦ (cmp a b).isLE).Pairwise fun a b ↦ (cmp a b).isLE = true := by
  refine List.pairwise_mergeSort (fun _ _ _ ↦ TransCmp.isLE_trans) (fun a b ↦ ?_) l
  cases h : (cmp a b).isLE with
  | true => rfl
  | false =>
    have hlt : cmp b a = .lt := OrientedCmp.lt_of_not_isLE (by rw [h]; exact Bool.false_ne_true)
    rw [hlt]
    rfl

/-- Sorting by an order that tells all elements apart forgets how they were listed. -/
theorem mergeSort_eq_of_perm [LawfulEqCmp cmp] {l l' : List γ} (h : l.Perm l') :
    (l.mergeSort fun a b ↦ (cmp a b).isLE) = l'.mergeSort fun a b ↦ (cmp a b).isLE := by
  refine List.Perm.eq_of_pairwise (fun a b _ _ hab hba ↦ ?_) (pairwise_mergeSort_isLE cmp l)
    (pairwise_mergeSort_isLE cmp l') ?_
  · exact LawfulEqCmp.eq_of_compare (OrientedCmp.isLE_antisymm hab hba)
  · exact ((List.mergeSort_perm l _).trans h).trans (List.mergeSort_perm l' _).symm

end Sorting

end Rskrb5.Lib.Lists
