import Mathlib.Data.List.Nodup
import Mathlib.Logic.Function.Basic
import Mathlib.Logic.Relation
import Mathlib.Tactic.Linarith

namespace Rskrb5.Lib.Once

/-- An invariant of the steps holds in every state that a run reaches. -/
theorem invariant_of_step {σ : Type} {Step : σ → σ → Prop} (Inv : σ → Prop)
    (hstep : ∀ s s', Inv s → Step s s' → Inv s') {s s' : σ} (hs : Inv s)
    (hrun : Relation.ReflTransGen Step s s') : Inv s' := by
  induction hrun with
  | refl => exact hs
  | tail _ h ih => exact hstep _ _ ih h

variable {κ τ : Type}

/-- A memory of presented keys with a stamp each, and the keys that it accepted: those it
did not have when they were presented. -/
structure Memory (κ τ : Type) where
  stamp : κ → Option τ
  accepted : List κ

namespace Memory

def empty : Memory κ τ := ⟨fun _ ↦ none, []⟩

def present [DecidableEq κ] (m : Memory κ τ) (k : κ) (t : τ) : Memory κ τ where
  stamp := Function.update m.stamp k (some t)
  accepted := if (m.stamp k).isNone then k :: m.accepted else m.accepted

def retain (m : Memory κ τ) (keep : τ → Bool) : Memory κ τ where
  stamp k := (m.stamp k).filter keep
  accepted := m.accepted

/-- No key was accepted twice, and an accepted key is remembered or will not come again. -/
def Guarded (closed : κ → Prop) (m : Memory κ τ) : Prop :=
  m.accepted.Nodup ∧ ∀ k ∈ m.accepted, (m.stamp k).isSome ∨ closed k

theorem guarded_empty (closed : κ → Prop) : (empty : Memory κ τ).Guarded closed :=
  ⟨List.nodup_nil, by simp [empty]⟩

theorem Guarded.mono {closed closed' : κ → Prop} {m : Memory κ τ} (h : m.Guarded closed)
    (hc : ∀ k, closed k → closed' k) : m.Guarded closed' :=
  ⟨h.1, fun k hk ↦ (h.2 k hk).imp_right (hc k)⟩

theorem Guarded.present [DecidableEq κ] {closed : κ → Prop} {m : Memory κ τ} (h : m.Guarded closed) {k : κ}
    (hk : ¬ closed k) (t : τ) : (m.present k t).Guarded closed := by
  have hmem : ∀ k' ∈ (m.present k t).accepted, k' = k ∨ k' ∈ m.accepted := by
    intro k' hk'
    simp only [Memory.present] at hk'
    split at hk'
    · exact List.mem_cons.mp hk'
    · exact .inr hk'
  refine ⟨?_, fun k' hk' ↦ ?_⟩
  · simp only [Memory.present]
    split
    · next hn =>
      refine List.nodup_cons.mpr ⟨fun hin ↦ ?_, h.1⟩
      rcases h.2 k hin with hs | hc
      · rw [Option.isNone_iff_eq_none] at hn
        simp [hn] at hs
      · exact hk hc
    · exact h.1
  · by_cases he : k' = k
    · simp [Memory.present, he]
    · rcases hmem k' hk' with rfl | hin
      · exact absurd rfl he
      · simpa [Memory.present, Function.update_of_ne he] using h.2 k' hin

theorem Guarded.retain {closed : κ → Prop} {m : Memory κ τ} (h : m.Guarded closed) {keep : τ → Bool}
    (hd : ∀ k t, m.stamp k = some t → keep t = false → closed k) : (m.retain keep).Guarded closed := by
  refine ⟨h.1, fun k hk ↦ ?_⟩
  rcases h.2 k hk with hs | hc
  · obtain ⟨t, ht⟩ := Option.isSome_iff_exists.mp hs
    cases hkeep : keep t with
    | true => exact .inl (by simp [Memory.retain, ht, Option.filter, hkeep])
    | false => exact .inr (hd k t ht hkeep)
  · exact .inr hc

section Window

/-- The memory guards a window of width `S` around the time that belongs to each key: a key
is closed once the clock has passed its window, and no stamp precedes it. -/
def Windowed (stampTime : τ → ℤ) (time : κ → ℤ) (S last : ℤ) (m : Memory κ τ) : Prop :=
  m.Guarded (fun k ↦ time k + S < last) ∧ ∀ k t, m.stamp k = some t → time k - S ≤ stampTime t

variable {stampTime : τ → ℤ} {time : κ → ℤ} {S last now : ℤ} {m : Memory κ τ}

theorem windowed_empty (stampTime : τ → ℤ) (time : κ → ℤ) (S last : ℤ) :
    (empty : Memory κ τ).Windowed stampTime time S last :=
  ⟨guarded_empty _, by simp [empty]⟩

theorem Windowed.mono (h : m.Windowed stampTime time S last) (hn : last ≤ now) :
    m.Windowed stampTime time S now :=
  ⟨h.1.mono fun _ hk ↦ hk.trans_le hn, h.2⟩

theorem Windowed.present [DecidableEq κ] (h : m.Windowed stampTime time S last) {t : τ}
    (hn : last ≤ stampTime t) {k : κ} (hk : |stampTime t - time k| ≤ S) :
    (m.present k t).Windowed stampTime time S (stampTime t) := by
  obtain ⟨hlow, hhigh⟩ := abs_le.mp hk
  refine ⟨(h.mono hn).1.present (by omega) t, fun k' p hp ↦ ?_⟩
  by_cases he : k' = k
  · subst he
    simp only [Memory.present, Function.update_self, Option.some.injEq] at hp
    subst hp
    omega
  · simp only [Memory.present, Function.update_of_ne he] at hp
    exact h.2 k' p hp

theorem Windowed.retain (h : m.Windowed stampTime time S last) (hn : last ≤ now) {keep : τ → Bool}
    (hkeep : ∀ t, keep t = false → stampTime t + 2 * S < now) :
    (m.retain keep).Windowed stampTime time S now := by
  refine ⟨(h.mono hn).1.retain fun k p hp hd ↦ ?_, fun k p hp ↦ ?_⟩
  · have hlow := h.2 k p hp
    have hold := hkeep p hd
    omega
  · obtain ⟨hs, -⟩ := Option.filter_eq_some_iff.mp hp
    exact h.2 k p hs

end Window

end Memory

end Rskrb5.Lib.Once
