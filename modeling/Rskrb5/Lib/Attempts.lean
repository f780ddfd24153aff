import Rskrb5.Lib.Programs

namespace Rskrb5.Lib.Attempts

open Programs

variable {ι σ ε α : Type}

/-- Try one after the other until one returns. What has failed is kept in order. -/
def tryEach (attempt : ι → Program σ ε α) : List ι → Program σ (List (ι × ε)) α
  | [] => throw []
  | i :: rest => .ofExec fun s ↦
    match (attempt i).exec s with
    | (.ok a, s') => (.ok a, s')
    | (.error e, s') => (Program.mapStop ((i, e) :: ·) (tryEach attempt rest)).exec s'

variable {attempt : ι → Program σ ε α}

variable (attempt) in
/-- Attempts that fail one after the other, with what they failed with. -/
inductive AllFail : List ι → σ → List (ι × ε) → σ → Prop
  | nil (s : σ) : AllFail [] s [] s
  | cons {i : ι} {rest : List ι} {s s' s'' : σ} {e : ε} {failures : List (ι × ε)}
      (h : (attempt i).exec s = (.error e, s')) (hrest : AllFail rest s' failures s'') :
      AllFail (i :: rest) s ((i, e) :: failures) s''

section Exact

variable {is : List ι} {s s' : σ} {a : α} {failures : List (ι × ε)}

theorem exec_tryEach_cons (i : ι) (rest : List ι) (s : σ) : (tryEach attempt (i :: rest)).exec s =
    match (attempt i).exec s with
    | (.ok a, s') => (.ok a, s')
    | (.error e, s') =>
      (((tryEach attempt rest).exec s').1.mapError ((i, e) :: ·), ((tryEach attempt rest).exec s').2) :=
  rfl

/-- All attempts fail exactly when each of them does, where the one before has left off. -/
theorem exec_tryEach_eq_error :
    (tryEach attempt is).exec s = (.error failures, s') ↔ AllFail attempt is s failures s' := by
  induction is generalizing s failures with
  | nil =>
    constructor
    · intro h
      obtain ⟨hfailures, rfl⟩ := Prod.mk.inj h
      obtain rfl := Except.error.inj hfailures
      exact .nil _
    · rintro ⟨⟩
      rfl
  | cons i rest ih =>
    rw [exec_tryEach_cons]
    rcases hi : (attempt i).exec s with ⟨e | a, s₁⟩
    · dsimp only
      constructor
      · intro h
        rcases hrest : (tryEach attempt rest).exec s₁ with ⟨more | a, s₂⟩
        · rw [hrest] at h
          obtain ⟨hfailures, rfl⟩ := Prod.mk.inj h
          obtain rfl := Except.error.inj hfailures
          exact .cons hi (ih.mp hrest)
        · rw [hrest] at h
          cases h
      · rintro (_ | ⟨hfail, hrest⟩)
        obtain ⟨he, rfl⟩ := Prod.mk.inj (hi.symm.trans hfail)
        obtain rfl := Except.error.inj he
        rw [ih.mpr hrest]
        rfl
    · constructor
      · intro h
        cases h
      · rintro (_ | ⟨hfail, -⟩)
        cases hi.symm.trans hfail

/-- What is returned is the result of the first attempt that does not fail. -/
theorem exec_tryEach_eq_ok : (tryEach attempt is).exec s = (.ok a, s') ↔
    ∃ before i after failures s₁, is = before ++ i :: after ∧ AllFail attempt before s failures s₁ ∧
      (attempt i).exec s₁ = (.ok a, s') := by
  induction is generalizing s with
  | nil =>
    constructor
    · intro h
      cases h
    · rintro ⟨before, i, after, _, _, heq, -⟩
      cases before <;> cases heq
  | cons i rest ih =>
    rw [exec_tryEach_cons]
    constructor
    · intro h
      rcases hi : (attempt i).exec s with ⟨e | b, s₁⟩
      · rw [hi] at h
        dsimp only at h
        rcases hrest : (tryEach attempt rest).exec s₁ with ⟨more | b, s₂⟩
        · rw [hrest] at h
          cases h
        · rw [hrest] at h
          obtain ⟨before, j, after, failures, s₃, rfl, hfails, hj⟩ := ih.mp (hrest.trans h)
          exact ⟨i :: before, j, after, _, s₃, rfl, .cons hi hfails, hj⟩
      · rw [hi] at h
        obtain ⟨hb, rfl⟩ := Prod.mk.inj h
        obtain rfl := Except.ok.inj hb
        exact ⟨[], i, rest, [], s, rfl, .nil s, hi⟩
    · rintro ⟨before, j, after, failures, s₁, heq, hfails, hj⟩
      cases hfails with
      | nil =>
        obtain ⟨rfl, rfl⟩ := List.cons.inj heq
        rw [hj]
      | cons hfail hmore =>
        obtain ⟨rfl, rfl⟩ := List.cons.inj heq
        rw [hfail]
        dsimp only
        rw [ih.mpr ⟨_, j, after, _, s₁, rfl, hmore, hj⟩]
        rfl

end Exact

end Rskrb5.Lib.Attempts
