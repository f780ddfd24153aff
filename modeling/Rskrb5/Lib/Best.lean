import Mathlib.Data.List.MinMax
import Mathlib.Logic.Function.Basic

namespace Rskrb5.Lib.Best

variable {α β κ : Type*} [LinearOrder β] {f : α → β} {l l' : List α} {a : α}

section Lists

/-- The first of the elements that are the best by `f`. -/
def best (f : α → β) (l : List α) : Option α := l.argmax f

theorem best_eq_none : best f l = none ↔ l = [] := List.argmax_eq_none

theorem mem_of_best (h : a ∈ best f l) : a ∈ l := List.argmax_mem h

theorem le_of_best {b : α} (h : a ∈ best f l) (hb : b ∈ l) : f b ≤ f a := List.le_of_mem_argmax hb h

/-- Of an element that is held and one that is offered, the better; a tie keeps the one that is held. -/
def better (f : α → β) (held : Option α) (offered : α) : α :=
  match held with
  | none => offered
  | some held => if f held < f offered then offered else held

theorem best_append_singleton (f : α → β) (l : List α) (a : α) :
    best f (l ++ [a]) = some (better f (best f l) a) := by
  rw [best, best, List.argmax_concat]
  cases hbest : l.argmax f with
  | none => rfl
  | some held =>
    simp only [better]
    split <;> rfl

theorem better_eq_held {held : α} (h : f a ≤ f held) : better f (some held) a = held := if_neg (not_lt_of_ge h)

theorem better_eq_offered {held : Option α} (h : ∀ b ∈ held, f b < f a) : better f held a = a := by
  cases held with
  | none => rfl
  | some held => exact if_pos (h held rfl)

theorem best_append_singleton_of_le {b : α} (h : ∃ a ∈ l, f b ≤ f a) : best f (l ++ [b]) = best f l := by
  obtain ⟨a, ha, hle⟩ := h
  rw [best_append_singleton]
  cases hbest : best f l with
  | none => exact absurd (best_eq_none.mp hbest ▸ ha) List.not_mem_nil
  | some held => rw [better_eq_held (hle.trans (le_of_best hbest ha))]

/-- The first of the best elements of a list stays when none that comes after it is better. -/
theorem best_append_of_le (h : ∀ b ∈ l', ∃ a ∈ l, f b ≤ f a) : best f (l ++ l') = best f l := by
  induction l' using List.reverseRecOn with
  | nil => rw [List.append_nil]
  | append_singleton l' b ih =>
    obtain ⟨a, ha, hle⟩ := h b (List.mem_append_right _ List.mem_cons_self)
    rw [← List.append_assoc, best_append_singleton_of_le ⟨a, List.mem_append_left _ ha, hle⟩]
    exact ih fun b hb ↦ h b (List.mem_append_left _ hb)

theorem best_append_of_mem (h : a ∈ l) : best f (l ++ [a]) = best f l :=
  best_append_singleton_of_le ⟨a, h, le_rfl⟩

/-- The first of the best elements is better than all that come before it. -/
theorem exists_split_of_mem_best {p : α → Bool} (h : a ∈ best f (l.filter p)) :
    ∃ before after, l = before ++ a :: after ∧ p a ∧
      (∀ b ∈ before, p b → f b < f a) ∧ ∀ b ∈ after, p b → f b ≤ f a := by
  induction l using List.reverseRecOn with
  | nil => cases h
  | append_singleton l x ih =>
    have hkeep : a ∈ best f (l.filter p) → (p x → f x ≤ f a) →
        ∃ before after, l ++ [x] = before ++ a :: after ∧ p a ∧
          (∀ b ∈ before, p b → f b < f a) ∧ ∀ b ∈ after, p b → f b ≤ f a := by
      intro h hx
      obtain ⟨before, after, rfl, ha, hbefore, hafter⟩ := ih h
      refine ⟨before, after ++ [x], by simp, ha, hbefore, ?_⟩
      rw [List.forall_mem_append]
      exact ⟨hafter, by simpa using hx⟩
    rw [List.filter_append] at h
    by_cases hp : p x
    · rw [List.filter_cons_of_pos hp, List.filter_nil, best_append_singleton] at h
      by_cases hlt : ∀ b ∈ best f (l.filter p), f b < f x
      · rw [better_eq_offered hlt] at h
        obtain rfl := Option.some.inj h
        refine ⟨l, [], rfl, hp, fun b hb hpb ↦ ?_, by simp⟩
        have hmem := List.mem_filter.mpr ⟨hb, hpb⟩
        cases hbest : best f (l.filter p) with
        | none => exact absurd (best_eq_none.mp hbest ▸ hmem) List.not_mem_nil
        | some held => exact lt_of_le_of_lt (le_of_best hbest hmem) (hlt held hbest)
      · simp only [not_forall, not_lt] at hlt
        obtain ⟨held, hbest, hle⟩ := hlt
        rw [Option.mem_def.mp hbest, better_eq_held hle] at h
        obtain rfl := Option.some.inj h
        exact hkeep hbest fun _ ↦ hle
    · rw [List.filter_cons_of_neg hp, List.filter_nil, List.append_nil] at h
      exact hkeep h fun hx ↦ absurd hx hp

theorem mem_best_of_split {p : α → Bool} {before after : List α} (ha : p a)
    (hbefore : ∀ b ∈ before, p b → f b < f a) (hafter : ∀ b ∈ after, p b → f b ≤ f a) :
    a ∈ best f ((before ++ a :: after).filter p) := by
  have hfirst : best f (before.filter p ++ [a]) = some a := by
    rw [best_append_singleton, better_eq_offered fun b hb ↦ ?_]
    obtain ⟨hb, hpb⟩ := List.mem_filter.mp (mem_of_best hb)
    exact hbefore b hb hpb
  have hrest : best f (before.filter p ++ [a] ++ after.filter p) = best f (before.filter p ++ [a]) := by
    refine best_append_of_le fun b hb ↦ ?_
    obtain ⟨hb, hpb⟩ := List.mem_filter.mp hb
    exact ⟨a, List.mem_append_right _ List.mem_cons_self, hafter b hb hpb⟩
  rw [List.filter_append, List.filter_cons_of_pos ha, List.append_cons, hrest, hfirst]
  rfl

theorem mem_best_filter_iff {p : α → Bool} :
    a ∈ best f (l.filter p) ↔ ∃ before after, l = before ++ a :: after ∧ p a ∧
      (∀ b ∈ before, p b → f b < f a) ∧ ∀ b ∈ after, p b → f b ≤ f a := by
  constructor
  · exact exists_split_of_mem_best
  · intro h
    obtain ⟨before, after, rfl, ha, hbefore, hafter⟩ := h
    exact mem_best_of_split ha hbefore hafter

theorem map_best_eq_of_perm (h : l.Perm l') : (best f l).map f = (best f l').map f := by
  cases hbest : best f l with
  | none =>
    rw [best_eq_none] at hbest
    subst hbest
    rw [List.nil_perm.mp h]
    rfl
  | some a =>
    cases hbest' : best f l' with
    | none =>
      rw [best_eq_none] at hbest'
      subst hbest'
      exact absurd (h.subset (mem_of_best hbest)) List.not_mem_nil
    | some a' =>
      have hle := le_of_best hbest' (h.subset (mem_of_best hbest))
      have hge := le_of_best hbest (h.symm.subset (mem_of_best hbest'))
      exact congrArg some (le_antisymm hle hge)

end Lists

section Stores

theorem better_self (f : α → β) (held : Option α) (offered : α) :
    better f held (better f held offered) = better f held offered := by
  cases held with
  | none => rfl
  | some held =>
    by_cases h : f held < f offered
    · simp only [better, h, if_true]
    · simp only [better, h, if_false, ite_self]

theorem foldl_better (l : List α) : l.foldl (fun held a ↦ some (better f held a)) none = best f l := by
  induction l using List.reverseRecOn with
  | nil => rfl
  | append_singleton l a ih =>
    rw [List.foldl_append, List.foldl_cons, List.foldl_nil, ih, best_append_singleton]

variable [DecidableEq κ]

/-- A store of one element under each key, to which a better one is offered. -/
def offer (f : α → β) (store : κ → Option α) (entry : κ × α) : κ → Option α :=
  Function.update store entry.1 (some (better f (store entry.1) entry.2))

/-- What was offered under a key, in order. -/
def under (k : κ) (entries : List (κ × α)) : List α := (entries.filter fun entry ↦ entry.1 = k).map Prod.snd

theorem mem_under {k : κ} {entries : List (κ × α)} : a ∈ under k entries ↔ (k, a) ∈ entries := by
  simp [under]

theorem under_append (k : κ) (entries entries' : List (κ × α)) :
    under k (entries ++ entries') = under k entries ++ under k entries' := by
  simp [under]

theorem under_perm {entries entries' : List (κ × α)} (h : entries.Perm entries') (k : κ) :
    (under k entries).Perm (under k entries') :=
  (h.filter _).map _

/-- A store that was empty has, under each key, the first of the best that were offered under it. -/
theorem foldl_offer (entries : List (κ × α)) (k : κ) :
    entries.foldl (offer f) (fun _ ↦ none) k = best f (under k entries) := by
  induction entries using List.reverseRecOn with
  | nil => rfl
  | append_singleton entries entry ih =>
    rw [List.foldl_append, List.foldl_cons, List.foldl_nil, under_append]
    obtain ⟨k', a⟩ := entry
    by_cases h : k' = k
    · subst h
      have hunder : under k' [(k', a)] = [a] := by simp [under]
      rw [offer, Function.update_self, hunder, best_append_singleton, ih]
    · have hunder : under k [(k', a)] = [] := by simp [under, h]
      rw [offer, Function.update_of_ne (Ne.symm h), hunder, List.append_nil, ih]

theorem offer_of_mem {entries : List (κ × α)} {entry : κ × α} (h : entry ∈ entries) :
    offer f (entries.foldl (offer f) fun _ ↦ none) entry = entries.foldl (offer f) fun _ ↦ none := by
  have happend : offer f (entries.foldl (offer f) fun _ ↦ none) entry =
      (entries ++ [entry]).foldl (offer f) fun _ ↦ none := by
    rw [List.foldl_append, List.foldl_cons, List.foldl_nil]
  rw [happend]
  funext k
  rw [foldl_offer, foldl_offer, under_append]
  by_cases hk : entry.1 = k
  · have hunder : under k [entry] = [entry.2] := by simp [under, hk]
    rw [hunder]
    exact best_append_of_mem (mem_under.mpr (hk ▸ h))
  · have hunder : under k [entry] = [] := by simp [under, hk]
    rw [hunder, List.append_nil]

theorem map_foldl_offer_of_perm {entries entries' : List (κ × α)} (h : entries.Perm entries') (k : κ) :
    (entries.foldl (offer f) (fun _ ↦ none) k).map f = (entries'.foldl (offer f) (fun _ ↦ none) k).map f := by
  rw [foldl_offer, foldl_offer]
  exact map_best_eq_of_perm (under_perm h k)

end Stores

end Rskrb5.Lib.Best
