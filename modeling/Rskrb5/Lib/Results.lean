import Mathlib.Data.List.Basic
import Mathlib.Data.List.Forall2

namespace Rskrb5.Lib.Results

variable {ε ε' α β : Type}

def ensure (c : Prop) [Decidable c] (e : ε) : Except ε Unit := if c then .ok () else .error e

/-- `Option::ok_or`. -/
def okOr (x : Option α) (e : ε) : Except ε α :=
  match x with
  | some a => .ok a
  | none => .error e

@[simp] theorem bind_eq_ok {x : Except ε α} {f : α → Except ε β} {b : β} :
    (x >>= f) = .ok b ↔ ∃ a, x = .ok a ∧ f a = .ok b := by
  cases x with
  | error e => exact ⟨nofun, fun ⟨_, h, _⟩ ↦ nomatch h⟩
  | ok a => exact ⟨fun h ↦ ⟨a, rfl, h⟩, fun ⟨_, h, hf⟩ ↦ Except.ok.inj h ▸ hf⟩

@[simp] theorem ok_bind (a : α) (f : α → Except ε β) : (Except.ok a >>= f) = f a := rfl

@[simp] theorem error_bind (e : ε) (f : α → Except ε β) : (Except.error e >>= f) = .error e := rfl

@[simp] theorem pure_eq_ok (a : α) : (pure a : Except ε α) = .ok a := rfl

@[simp] theorem ensure_eq_ok {c : Prop} [Decidable c] {e : ε} {u : Unit} :
    ensure c e = .ok u ↔ c := by
  by_cases h : c <;> simp [ensure, h]

theorem ensure_of {c : Prop} [Decidable c] (h : c) (e : ε) : ensure c e = .ok () := if_pos h

theorem ensure_of_not {c : Prop} [Decidable c] (h : ¬ c) (e : ε) : ensure c e = .error e := if_neg h

@[simp] theorem okOr_eq_ok {x : Option α} {e : ε} {a : α} : okOr x e = .ok a ↔ x = some a := by
  cases x <;> simp [okOr]

@[simp] theorem mapError_eq_ok {f : ε → ε'} {x : Except ε α} {a : α} :
    x.mapError f = .ok a ↔ x = .ok a := by
  cases x <;> simp [Except.mapError]

theorem exists_of_toOption_map {x : Except ε α} {f : α → β} {b : β} (h : x.toOption.map f = some b) :
    ∃ a, x = .ok a ∧ f a = b := by
  cases x with
  | error e => cases h
  | ok a => exact ⟨a, rfl, Option.some.inj h⟩

theorem mapM_eq_ok_some {f : α → Except ε β} {x : Option α} {b : β} :
    x.mapM f = .ok (some b) ↔ ∃ a, x = some a ∧ f a = .ok b := by
  cases x with
  | none => simp
  | some a => cases h : f a <;> simp [h]

theorem mapM_eq_ok {f : α → Except ε β} {as : List α} {bs : List β} :
    as.mapM f = .ok bs ↔ List.Forall₂ (fun a b ↦ f a = .ok b) as bs := by
  induction as generalizing bs with
  | nil =>
    rw [List.mapM_nil, List.forall₂_nil_left_iff, pure_eq_ok, Except.ok.injEq, eq_comm]
  | cons a as ih =>
    simp only [List.mapM_cons, bind_eq_ok, pure_eq_ok, Except.ok.injEq, List.forall₂_cons_left_iff, ih]
    constructor
    · intro h
      obtain ⟨b, hb, bs', hbs, rfl⟩ := h
      exact ⟨b, bs', hb, hbs, rfl⟩
    · intro h
      obtain ⟨b, bs', hb, hbs, rfl⟩ := h
      exact ⟨b, hb, bs', hbs, rfl⟩

theorem exists_mapM_iff {f : α → Except ε β} {as : List α} :
    (∃ bs, as.mapM f = .ok bs) ↔ ∀ a ∈ as, ∃ b, f a = .ok b := by
  induction as with
  | nil => exact ⟨fun _ ↦ nofun, fun _ ↦ ⟨[], rfl⟩⟩
  | cons a as ih =>
    rw [List.forall_mem_cons, ← ih]
    constructor
    · intro h
      obtain ⟨bs, h⟩ := h
      simp only [List.mapM_cons, bind_eq_ok] at h
      obtain ⟨b, hb, bs', hbs, -⟩ := h
      exact ⟨⟨b, hb⟩, bs', hbs⟩
    · intro h
      obtain ⟨⟨b, hb⟩, bs, hbs⟩ := h
      exact ⟨b :: bs, by rw [List.mapM_cons, hb, hbs]; rfl⟩

/-- What a conversion gives comes from a member of the list. -/
theorem exists_mem_of_mapM {f : α → Except ε β} {as : List α} {bs : List β} (h : as.mapM f = .ok bs)
    {b : β} (hb : b ∈ bs) : ∃ a ∈ as, f a = .ok b := by
  rw [mapM_eq_ok] at h
  induction h with
  | nil => cases hb
  | cons hf _ ih =>
    rcases List.mem_cons.mp hb with rfl | hb
    · exact ⟨_, List.mem_cons_self, hf⟩
    · obtain ⟨a, ha, hfa⟩ := ih hb
      exact ⟨a, List.mem_cons_of_mem _ ha, hfa⟩

theorem pairwise_of_mapM {f : α → Except ε β} {r : α → α → Prop} {s : β → β → Prop} {as : List α}
    {bs : List β} (h : as.mapM f = .ok bs) (hr : as.Pairwise r)
    (hrs : ∀ a a' b b', f a = .ok b → f a' = .ok b' → r a a' → s b b') : bs.Pairwise s := by
  induction as generalizing bs with
  | nil =>
    rw [List.mapM_nil, pure_eq_ok, Except.ok.injEq] at h
    exact h ▸ List.Pairwise.nil
  | cons a as ih =>
    simp only [List.mapM_cons, bind_eq_ok, pure_eq_ok, Except.ok.injEq] at h
    obtain ⟨b, hb, bs', hbs, rfl⟩ := h
    obtain ⟨hhead, htail⟩ := List.pairwise_cons.mp hr
    refine List.pairwise_cons.mpr ⟨fun b' hb' ↦ ?_, ih hbs htail⟩
    obtain ⟨a', ha', hfa'⟩ := exists_mem_of_mapM hbs hb'
    exact hrs a a' b b' hb hfa' (hhead a' ha')

/-- A conversion that can be undone on every member of a list goes through, and is undone member by member. -/
theorem exists_mapM {f : α → Except ε β} {g : β → α} {post : β → Prop} {as : List α}
    (h : ∀ a ∈ as, ∃ b, f a = .ok b ∧ g b = a ∧ post b) :
    ∃ bs, as.mapM f = .ok bs ∧ bs.map g = as ∧ ∀ b ∈ bs, post b := by
  induction as with
  | nil => exact ⟨[], rfl, rfl, nofun⟩
  | cons a as ih =>
    obtain ⟨b, hf, hg, hb⟩ := h a List.mem_cons_self
    obtain ⟨bs, hfs, hgs, hbs⟩ := ih fun a' ha ↦ h a' (List.mem_cons_of_mem a ha)
    refine ⟨b :: bs, ?_, ?_, ?_⟩
    · rw [List.mapM_cons, hf, hfs]
      rfl
    · rw [List.map_cons, hg, hgs]
    · exact List.forall_mem_cons.mpr ⟨hb, hbs⟩

end Rskrb5.Lib.Results
