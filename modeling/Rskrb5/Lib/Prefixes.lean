import Rskrb5.Lib.Readers

namespace Rskrb5.Lib.Readers

open Results

variable {β ε α γ σ : Type}

def Cursor.followedBy (c : Cursor β) (rest : List β) : Cursor β := ⟨c.offset, c.rest ++ rest⟩

/-- A reader that has succeeded does the same when more input follows. -/
def Stable (r : Reader β ε α) : Prop :=
  ∀ c a c', r.run c = .ok (a, c') → ∀ rest, r.run (c.followedBy rest) = .ok (a, c'.followedBy rest)

namespace Stable

variable {r : Reader β ε α} {f : α → Reader β ε γ}

theorem pure (a : α) : Stable (pure a : Reader β ε α) := by
  intro c b c' h rest
  obtain ⟨rfl, rfl⟩ := Prod.mk.inj (Except.ok.inj h)
  rfl

theorem lift (x : Except ε α) : Stable (liftM x : Reader β ε α) := by
  intro c a c' h rest
  obtain ⟨hx, rfl⟩ := run_lift_eq_ok.mp h
  exact run_lift_eq_ok.mpr ⟨hx, rfl⟩

theorem bind (hr : Stable r) (hf : ∀ a, Stable (f a)) : Stable (r >>= f) := by
  intro c b c'' h rest
  obtain ⟨a, c', hfirst, hsecond⟩ := run_bind_eq_ok.mp h
  rw [run_bind_of_ok (hr c a c' hfirst rest)]
  exact hf a c' b c'' hsecond rest

/-- The position may be looked at freely; of what is left, only that there was enough of it. -/
theorem get_bind {f : Cursor β → Reader β ε γ}
    (hf : ∀ c a c', (f c).run c = .ok (a, c') → ∀ rest,
      (f (c.followedBy rest)).run (c.followedBy rest) = .ok (a, c'.followedBy rest)) :
    Stable ((MonadState.get : Reader β ε (Cursor β)) >>= f) := by
  intro c a c' h rest
  exact hf c a c' h rest

theorem takeItems (truncated : ℕ → ℕ → ℕ → ε) (len : ℕ) :
    Stable (takeItems truncated len : Reader β ε (List β)) := by
  intro c bs c' h rest
  simp only [Readers.takeItems, StateT.run, Cursor.followedBy, List.length_append] at h ⊢
  split at h
  · next hlen =>
    obtain ⟨rfl, rfl⟩ := Prod.mk.inj (Except.ok.inj h)
    rw [if_pos (by omega), List.take_append_of_le_length hlen, List.drop_append_of_le_length hlen]
  · cases h

theorem times (hr : Stable r) (n : ℕ) : Stable (times r n) := by
  induction n with
  | zero => exact .pure []
  | succ n ih => exact hr.bind fun a ↦ ih.bind fun as ↦ .pure (a :: as)

/-- A loop whose condition looks at the position only. -/
theorem loop {more : Cursor β → Bool} {body : σ → Reader β ε (ForInStep σ)}
    (hmore : ∀ c rest, more (c.followedBy rest) = more c) (hbody : ∀ s, Stable (body s))
    (hne : ∀ s, Parses (body s) fun _ used ↦ used ≠ []) (s : σ) : Stable (loop more body s) := by
  intro c
  induction hn : c.rest.length using Nat.strongRecOn generalizing s c with
  | _ n ih =>
    intro a c' h rest
    rw [run_loop hne] at h ⊢
    rw [hmore]
    by_cases hc : more c = true
    · rw [if_pos hc] at h ⊢
      obtain ⟨turn, c₁, hturn, hnext⟩ := run_bind_eq_ok.mp h
      obtain ⟨used, hused, -, hpos⟩ := hne s c turn c₁ hturn
      rw [run_bind_of_ok (hbody s c turn c₁ hturn rest)]
      cases turn with
      | done s' => exact Stable.pure s' c₁ a c' hnext rest
      | yield s' =>
        have hlt : c₁.rest.length < n := by
          have := List.length_pos_iff.mpr hpos
          rw [← hn, hused, List.length_append]
          omega
        exact ih _ hlt s' c₁ rfl a c' hnext rest
    · rw [if_neg hc] at h ⊢
      obtain ⟨rfl, rfl⟩ := Prod.mk.inj (Except.ok.inj h)
      rfl

/-- A reader that succeeds on a cut of what it reads and of what comes behind has all of its own part. -/
theorem split {bs cs input : List β} {a a' : α} {offset : ℕ} {c : Cursor β} (hr : Stable r) (hreads : Reads r bs a)
    (hinput : input <+: bs ++ cs) (h : r.run ⟨offset, input⟩ = .ok (a', c)) :
    a' = a ∧ c = ⟨offset + bs.length, c.rest⟩ ∧ input = bs ++ c.rest ∧ c.rest <+: cs := by
  obtain ⟨rest, hrest⟩ := hinput
  have hmore := hr _ _ _ h rest
  rw [Cursor.followedBy, hrest, hreads offset cs] at hmore
  obtain ⟨ha, hc⟩ := Prod.mk.inj (Except.ok.inj hmore)
  obtain ⟨hoffset, hcs⟩ := Cursor.mk.inj hc
  refine ⟨ha.symm, by rw [hoffset], ?_, rest, hcs.symm⟩
  rw [hcs, ← List.append_assoc] at hrest
  exact List.append_cancel_right hrest

end Stable

/-- What is read to the end of a cut of a list of items is the items that are whole, and no item is cut. -/
theorem untilEnd_of_isPrefix {r : Reader β ε α} {enc : α → List β} {as : List α} (hr : Stable r)
    (hne : Parses r fun _ used ↦ used ≠ []) (hreads : ∀ a ∈ as, Reads r (enc a) a) {input : List β}
    (hinput : input <+: as.flatMap enc) {offset : ℕ} {result : List α} {c : Cursor β}
    (h : (untilEnd r).run ⟨offset, input⟩ = .ok (result, c)) :
    ∃ k ≤ as.length, input = (as.take k).flatMap enc ∧ result = as.take k := by
  have hbody : ∀ s : List α,
      Parses (do return .yield (s ++ [← r]) : Reader β ε (ForInStep (List α))) fun _ used ↦ used ≠ [] :=
    fun s ↦ hne.bind fun a used hu ↦ .pure (by simpa using hu)
  have hloop : ∀ s, (loop hasRest (fun s ↦ do return .yield (s ++ [← r])) s).run ⟨offset, input⟩ = .ok (result, c) →
      ∃ k ≤ as.length, input = (as.take k).flatMap enc ∧ result = s ++ as.take k := by
    clear h
    induction as generalizing input offset with
    | nil =>
      intro s h
      obtain rfl := List.prefix_nil.mp hinput
      rw [run_loop hbody] at h
      obtain ⟨rfl, -⟩ := Prod.mk.inj (Except.ok.inj h)
      exact ⟨0, Nat.le_refl 0, rfl, (List.append_nil s).symm⟩
    | cons a as ih =>
      intro s h
      rw [run_loop hbody] at h
      split at h
      · obtain ⟨turn, c₁, hturn, hnext⟩ := run_bind_eq_ok.mp h
        obtain ⟨a', c₂, hread, hyield⟩ := run_bind_eq_ok.mp hturn
        obtain ⟨rfl, rfl⟩ := Prod.mk.inj (Except.ok.inj hyield)
        rw [List.flatMap_cons] at hinput
        obtain ⟨rfl, hc, hall, hrest⟩ := hr.split (hreads _ List.mem_cons_self) hinput hread
        rw [hc] at hnext
        obtain ⟨k, hk, hcut, hresult⟩ := ih (fun b hb ↦ hreads b (List.mem_cons_of_mem _ hb)) hrest _ hnext
        refine ⟨k + 1, Nat.succ_le_succ hk, ?_, ?_⟩
        · rw [List.take_succ_cons, List.flatMap_cons, ← hcut]
          exact hall
        · rw [hresult, List.take_succ_cons, List.append_assoc, List.singleton_append]
      · next hend =>
        have hnil : input = [] := by simpa [hasRest] using hend
        obtain ⟨rfl, -⟩ := Prod.mk.inj (Except.ok.inj h)
        exact ⟨0, Nat.zero_le _, hnil, (List.append_nil s).symm⟩
  exact hloop [] h

end Rskrb5.Lib.Readers
