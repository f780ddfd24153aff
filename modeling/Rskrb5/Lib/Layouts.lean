import Rskrb5.Lib.Readers

namespace Rskrb5.Lib.Readers

open Results

variable {β ε α γ δ ι : Type}

theorem run_pure_eq_ok {a b : α} {c c' : Cursor β} :
    (pure a : Reader β ε α).run c = .ok (b, c') ↔ a = b ∧ c = c' := by
  rw [StateT.run_pure, pure_eq_ok, Except.ok.injEq, Prod.mk.injEq]

/-- How far the next multiple of `unit` is from `n`. -/
def padding (unit n : ℕ) : ℕ := (unit - n % unit) % unit

theorem padding_of_dvd {unit n : ℕ} (h : unit ∣ n) : padding unit n = 0 := by
  rw [padding, Nat.mod_eq_zero_of_dvd h, Nat.sub_zero, Nat.mod_self]

theorem padding_congr {unit n m : ℕ} (h : n % unit = m % unit) : padding unit n = padding unit m := by
  rw [padding, padding, h]

theorem dvd_add_padding {unit : ℕ} (h : 0 < unit) (n : ℕ) : unit ∣ n + padding unit n := by
  have hlt := Nat.mod_lt n h
  have hsum : n % unit + (unit - n % unit) = unit := Nat.add_sub_cancel' (Nat.le_of_lt hlt)
  rw [Nat.dvd_iff_mod_eq_zero, padding, Nat.add_mod, Nat.mod_mod, Nat.add_mod_mod, hsum, Nat.mod_self]

/-- Rounding up to a multiple adds the padding. -/
theorem roundUp_eq_add_padding {unit : ℕ} (h : 0 < unit) (n : ℕ) :
    (n + unit - 1) / unit * unit = n + padding unit n := by
  have hlt := Nat.mod_lt n h
  have hn := Nat.mod_add_div n unit
  rw [padding]
  rcases Nat.eq_zero_or_pos (n % unit) with hz | hz
  · have hdiv : (n + unit - 1) / unit = n / unit := by
      rw [Nat.div_eq_iff h]
      rw [hz, Nat.zero_add] at hn
      rw [Nat.mul_comm]
      omega
    rw [hdiv, hz, Nat.sub_zero, Nat.mod_self, Nat.div_mul_cancel (Nat.dvd_of_mod_eq_zero hz), Nat.add_zero]
  · have hdiv : (n + unit - 1) / unit = n / unit + 1 := by
      rw [Nat.div_eq_iff h, Nat.add_mul, Nat.one_mul, Nat.mul_comm]
      omega
    rw [hdiv, Nat.mod_eq_of_lt (by omega), Nat.add_mul, Nat.one_mul, Nat.mul_comm]
    omega

/-- The reader reads `a` off `bs` wherever the offset leaves the remainder of `phase`. -/
def ReadsAt (unit phase : ℕ) (r : Reader β ε α) (bs : List β) (a : α) : Prop :=
  ∀ offset rest, offset % unit = phase % unit →
    r.run ⟨offset, bs ++ rest⟩ = .ok (a, ⟨offset + bs.length, rest⟩)

theorem Reads.readsAt {r : Reader β ε α} {bs : List β} {a : α} (h : Reads r bs a) (unit phase : ℕ) :
    ReadsAt unit phase r bs a := fun offset rest _ ↦ h offset rest

namespace ReadsAt

variable {unit phase : ℕ}

theorem congr {phase' : ℕ} {r : Reader β ε α} {bs : List β} {a : α} (h : ReadsAt unit phase r bs a)
    (hphase : phase % unit = phase' % unit) : ReadsAt unit phase' r bs a :=
  fun offset rest hoffset ↦ h offset rest (hoffset.trans hphase.symm)

theorem pure (a : α) : ReadsAt unit phase (pure a : Reader β ε α) [] a := (Reads.pure a).readsAt _ _

theorem lift {x : Except ε α} {a : α} (h : x = .ok a) : ReadsAt unit phase (liftM x : Reader β ε α) [] a :=
  (Reads.lift h).readsAt _ _

theorem bind {r : Reader β ε α} {f : α → Reader β ε γ} {bs cs : List β} {a : α} {b : γ}
    (hr : ReadsAt unit phase r bs a) (hf : ReadsAt unit (phase + bs.length) (f a) cs b) :
    ReadsAt unit phase (r >>= f) (bs ++ cs) b := by
  intro offset rest hoffset
  have hnext : (offset + bs.length) % unit = (phase + bs.length) % unit := by
    rw [Nat.add_mod, hoffset, ← Nat.add_mod]
  rw [List.append_assoc, run_bind_of_ok (hr offset _ hoffset), hf _ _ hnext, List.length_append,
    Nat.add_assoc]

theorem map {r : Reader β ε α} {bs : List β} {a : α} (f : α → γ) (hr : ReadsAt unit phase r bs a) :
    ReadsAt unit phase (f <$> r) bs (f a) := by
  intro offset rest hoffset
  rw [StateT.run_map, hr offset rest hoffset]
  rfl

theorem skip {r : Reader β ε α} {f : α → Reader β ε γ} {cs : List β} {a : α} {b : γ}
    (hr : Reads r [] a) (hf : ReadsAt unit phase (f a) cs b) : ReadsAt unit phase (r >>= f) cs b :=
  (hr.readsAt unit phase).bind hf

theorem last {r : Reader β ε α} {f : α → Reader β ε γ} {bs : List β} {a : α} {b : γ}
    (hr : ReadsAt unit phase r bs a) (hf : ReadsAt unit (phase + bs.length) (f a) [] b) :
    ReadsAt unit phase (r >>= f) bs b := by
  have h := hr.bind hf
  rwa [List.append_nil] at h

/-- Blocks that keep the phase follow each other at the same phase. -/
theorem bind_block {r : Reader β ε α} {f : α → Reader β ε γ} {bs cs : List β} {a : α} {b : γ}
    (hr : ReadsAt unit phase r bs a) (hbs : unit ∣ bs.length) (hf : ReadsAt unit phase (f a) cs b) :
    ReadsAt unit phase (r >>= f) (bs ++ cs) b := by
  refine hr.bind (hf.congr ?_)
  rw [Nat.add_mod, Nat.mod_eq_zero_of_dvd hbs, Nat.add_zero, Nat.mod_mod]

theorem times {r : Reader β ε α} {enc : α → List β} {as : List α}
    (h : ∀ a ∈ as, ReadsAt unit phase r (enc a) a) (hunit : ∀ a ∈ as, unit ∣ (enc a).length) :
    ReadsAt unit phase (times r as.length) (as.flatMap enc) as := by
  induction as with
  | nil => exact .pure []
  | cons a as ih =>
    have ha := h a List.mem_cons_self
    have hlength := hunit a List.mem_cons_self
    have has := ih (fun b hb ↦ h b (List.mem_cons_of_mem a hb)) fun b hb ↦ hunit b (List.mem_cons_of_mem a hb)
    exact ha.bind_block hlength (has.last (.pure _))

/-- A pass over descriptors that reads, for each, the block of the item it describes. -/
theorem each {f : δ → Reader β ε γ} {describe : ι → δ} {enc : ι → List β} {item : ι → γ} {items : List ι}
    (h : ∀ i ∈ items, ReadsAt unit phase (f (describe i)) (enc i) (item i))
    (hunit : ∀ i ∈ items, unit ∣ (enc i).length) :
    ReadsAt unit phase ((items.map describe).mapM f) (items.flatMap enc) (items.map item) := by
  induction items with
  | nil => exact .pure []
  | cons i items ih =>
    have hi := h i List.mem_cons_self
    have hlength := hunit i List.mem_cons_self
    have hitems := ih (fun j hj ↦ h j (List.mem_cons_of_mem i hj)) fun j hj ↦ hunit j (List.mem_cons_of_mem i hj)
    rw [List.map_cons, List.mapM_cons]
    exact hi.bind_block hlength (hitems.last (.pure _))

end ReadsAt

theorem dvd_length_flatMap {unit : ℕ} {enc : α → List β} {as : List α}
    (h : ∀ a ∈ as, unit ∣ (enc a).length) : unit ∣ (as.flatMap enc).length := by
  induction as with
  | nil => simp
  | cons a as ih =>
    rw [List.flatMap_cons, List.length_append]
    exact Nat.dvd_add (h a List.mem_cons_self) (ih fun b hb ↦ h b (List.mem_cons_of_mem a hb))

end Rskrb5.Lib.Readers
