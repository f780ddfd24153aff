import Rskrb5.Lib.Results

namespace Rskrb5.Lib.Readers

open Results

/-- Where a reader stands: how much of its input it has read, and what is left of it. -/
structure Cursor (β : Type) where
  offset : ℕ
  rest : List β
  deriving DecidableEq

abbrev Reader (β ε : Type) := StateT (Cursor β) (Except ε)

variable {β ε α γ σ ι : Type}

def readInput (r : Reader β ε α) (input : List β) : Except ε (α × Cursor β) := r.run ⟨0, input⟩

/-- Read a given number of items, or fail with the offset, that number and what is left. -/
def takeItems (truncated : ℕ → ℕ → ℕ → ε) (len : ℕ) : Reader β ε (List β) := fun c ↦
  if len ≤ c.rest.length then .ok (c.rest.take len, ⟨c.offset + len, c.rest.drop len⟩)
  else .error (truncated c.offset len c.rest.length)

def times (r : Reader β ε α) : ℕ → Reader β ε (List α)
  | 0 => return []
  | n + 1 => do
    let a ← r
    let as ← times r n
    return a :: as

def goOn (next : σ → Reader β ε σ) : ForInStep σ → Reader β ε σ
  | .done s => return s
  | .yield s => next s

def loopFuel (more : Cursor β → Bool) (body : σ → Reader β ε (ForInStep σ)) : ℕ → σ → Reader β ε σ
  | 0, s => return s
  | fuel + 1, s => do
    let c ← get
    if more c then body s >>= goOn (loopFuel more body fuel) else return s

/-- A loop over the input. A turn that goes on has read something, so what is left bounds the
number of turns. -/
def loop (more : Cursor β → Bool) (body : σ → Reader β ε (ForInStep σ)) (s : σ) : Reader β ε σ := do
  let c ← get
  loopFuel more body (c.rest.length + 1) s

def hasRest (c : Cursor β) : Bool := !c.rest.isEmpty

/-- The loop that reads one value after the other up to the end. -/
def untilEnd (r : Reader β ε α) : Reader β ε (List α) :=
  loop hasRest (fun as ↦ do return .yield (as ++ [← r])) []

/-- What a writer that may refuse has written. -/
def written (write : α → Except ε (List β)) (a : α) : List β := (write a).toOption.getD []

def writeAll (write : α → Except ε (List β)) (as : List α) : Except ε (List β) := do
  return (← as.mapM write).flatten

theorem run_bind_eq_ok {r : Reader β ε α} {f : α → Reader β ε γ} {c c'' : Cursor β} {b : γ} :
    (r >>= f).run c = .ok (b, c'') ↔
      ∃ a c', r.run c = .ok (a, c') ∧ (f a).run c' = .ok (b, c'') := by
  rw [StateT.run_bind, bind_eq_ok]
  constructor
  · intro h
    obtain ⟨⟨a, c'⟩, h, hf⟩ := h
    exact ⟨a, c', h, hf⟩
  · intro h
    obtain ⟨a, c', h, hf⟩ := h
    exact ⟨⟨a, c'⟩, h, hf⟩

theorem run_bind_of_ok {r : Reader β ε α} {f : α → Reader β ε γ} {c c' : Cursor β} {a : α}
    (h : r.run c = .ok (a, c')) : (r >>= f).run c = (f a).run c' := by
  rw [StateT.run_bind, h, ok_bind]

theorem run_get_bind (f : Cursor β → Reader β ε γ) (c : Cursor β) :
    ((get : Reader β ε (Cursor β)) >>= f).run c = (f c).run c := rfl

theorem run_lift_bind {x : Except ε α} {a : α} (h : x = .ok a) (f : α → Reader β ε γ) (c : Cursor β) :
    ((liftM x : Reader β ε α) >>= f).run c = (f a).run c := by
  subst h
  rfl

theorem run_lift_eq_ok {x : Except ε α} {a : α} {c c' : Cursor β} :
    (liftM x : Reader β ε α).run c = .ok (a, c') ↔ x = .ok a ∧ c = c' := by
  cases x with
  | error e => exact ⟨nofun, fun h ↦ nomatch h.1⟩
  | ok b =>
    change Except.ok (b, c) = Except.ok (a, c') ↔ _
    simp

/-- The reader reads `a` off `bs`, whatever stands before and after it. -/
def Reads (r : Reader β ε α) (bs : List β) (a : α) : Prop :=
  ∀ offset rest, r.run ⟨offset, bs ++ rest⟩ = .ok (a, ⟨offset + bs.length, rest⟩)

namespace Reads

theorem run_bind {r : Reader β ε α} {f : α → Reader β ε γ} {bs : List β} {a : α} (hr : Reads r bs a)
    (offset : ℕ) (rest : List β) :
    (r >>= f).run ⟨offset, bs ++ rest⟩ = (f a).run ⟨offset + bs.length, rest⟩ :=
  run_bind_of_ok (hr offset rest)

theorem pure (a : α) : Reads (pure a : Reader β ε α) [] a := fun _ _ ↦ rfl

theorem bind {r : Reader β ε α} {f : α → Reader β ε γ} {bs cs : List β} {a : α} {b : γ}
    (hr : Reads r bs a) (hf : Reads (f a) cs b) : Reads (r >>= f) (bs ++ cs) b := by
  intro offset rest
  rw [List.append_assoc, run_bind_of_ok (hr offset _), hf, List.length_append, Nat.add_assoc]

theorem lift {x : Except ε α} {a : α} (h : x = .ok a) : Reads (liftM x : Reader β ε α) [] a := by
  subst h
  exact fun _ _ ↦ rfl

/-- A step that reads nothing does not show in what is read. -/
theorem skip {r : Reader β ε α} {f : α → Reader β ε γ} {cs : List β} {a : α} {b : γ}
    (hr : Reads r [] a) (hf : Reads (f a) cs b) : Reads (r >>= f) cs b := hr.bind hf

theorem last {r : Reader β ε α} {f : α → Reader β ε γ} {bs : List β} {a : α} {b : γ}
    (hr : Reads r bs a) (hf : Reads (f a) [] b) : Reads (r >>= f) bs b := by
  have h := hr.bind hf
  rwa [List.append_nil] at h

theorem takeItems (truncated : ℕ → ℕ → ℕ → ε) {bs : List β} {len : ℕ} (h : bs.length = len) :
    Reads (takeItems truncated len) bs bs := by
  subst h
  intro offset rest
  simp [Readers.takeItems, StateT.run]

theorem times {r : Reader β ε α} {enc : α → List β} {as : List α} (h : ∀ a ∈ as, Reads r (enc a) a) :
    Reads (times r as.length) (as.flatMap enc) as := by
  induction as with
  | nil => exact .pure []
  | cons a as ih =>
    have ha := h a List.mem_cons_self
    have has := ih fun b hb ↦ h b (List.mem_cons_of_mem a hb)
    exact ha.bind (has.last (.pure _))

end Reads

/-- Whatever the reader returns is related by `post` to the part of the input that it read. -/
def Parses (r : Reader β ε α) (post : α → List β → Prop) : Prop :=
  ∀ c a c', r.run c = .ok (a, c') →
    ∃ used, c.rest = used ++ c'.rest ∧ c'.offset = c.offset + used.length ∧ post a used

namespace Parses

theorem mono {r : Reader β ε α} {post post' : α → List β → Prop} (h : Parses r post)
    (hpost : ∀ a used, post a used → post' a used) : Parses r post' := by
  intro c a c' hr
  obtain ⟨used, hrest, hoffset, hp⟩ := h c a c' hr
  exact ⟨used, hrest, hoffset, hpost a used hp⟩

theorem pure {a : α} {post : α → List β → Prop} (h : post a []) :
    Parses (pure a : Reader β ε α) post := by
  intro c b c' hr
  cases hr
  exact ⟨[], rfl, rfl, h⟩

theorem get : Parses (get : Reader β ε (Cursor β)) fun _ used ↦ used = [] := by
  intro c a c' h
  cases h
  exact ⟨[], rfl, rfl, rfl⟩

theorem lift {x : Except ε α} {post : α → List β → Prop} (h : ∀ a, x = .ok a → post a []) :
    Parses (liftM x : Reader β ε α) post := by
  cases x with
  | error e => exact nofun
  | ok a => exact .pure (h a rfl)

theorem bind {r : Reader β ε α} {f : α → Reader β ε γ} {mid : α → List β → Prop}
    {post : γ → List β → Prop} (hr : Parses r mid)
    (hf : ∀ a used, mid a used → Parses (f a) fun b used' ↦ post b (used ++ used')) :
    Parses (r >>= f) post := by
  intro c b c'' h
  obtain ⟨a, c', h₁, h₂⟩ := run_bind_eq_ok.mp h
  obtain ⟨used, hrest, hoffset, hmid⟩ := hr c a c' h₁
  obtain ⟨used', hrest', hoffset', hpost⟩ := hf a used hmid c' b c'' h₂
  refine ⟨used ++ used', ?_, ?_, hpost⟩
  · rw [hrest, hrest', List.append_assoc]
  · rw [hoffset', hoffset, List.length_append, Nat.add_assoc]

theorem skip {x : Except ε α} {f : α → Reader β ε γ} {post : γ → List β → Prop}
    (hf : ∀ a, x = .ok a → Parses (f a) post) : Parses (liftM x >>= f) post := by
  have hx : Parses (liftM x : Reader β ε α) fun a used ↦ used = [] ∧ x = .ok a := .lift fun _ h ↦ ⟨rfl, h⟩
  refine hx.bind fun a used h ↦ ?_
  obtain ⟨rfl, h⟩ := h
  exact hf a h

theorem and {r : Reader β ε α} {post post' : α → List β → Prop} (h : Parses r post)
    (h' : Parses r post') : Parses r fun a used ↦ post a used ∧ post' a used := by
  intro c a c' hr
  obtain ⟨used, hrest, hoffset, hp⟩ := h c a c' hr
  obtain ⟨used', hrest', -, hp'⟩ := h' c a c' hr
  obtain rfl : used = used' := List.append_cancel_right (hrest.symm.trans hrest')
  exact ⟨used, hrest, hoffset, hp, hp'⟩

theorem takeItems (truncated : ℕ → ℕ → ℕ → ε) (len : ℕ) :
    Parses (takeItems truncated len : Reader β ε (List β)) fun bs used ↦ bs = used ∧ used.length = len := by
  intro c bs c' h
  simp only [Readers.takeItems, StateT.run] at h
  split at h
  · next hlen =>
    cases h
    exact ⟨c.rest.take len, (List.take_append_drop len c.rest).symm, by simp [hlen], rfl, by simp [hlen]⟩
  · cases h

theorem times {r : Reader β ε α} {p : α → Prop} (h : Parses r fun a _ ↦ p a) (n : ℕ) :
    Parses (times r n) fun as _ ↦ as.length = n ∧ ∀ a ∈ as, p a := by
  induction n with
  | zero => exact .pure (by simp)
  | succ n ih =>
    refine h.bind fun a _ ha ↦ ih.bind fun as _ has ↦ .pure ?_
    simpa [has.1] using ⟨ha, has.2⟩

end Parses

/-- What holds of whatever the reader returns. -/
def Yields (r : Reader β ε α) (p : α → Prop) : Prop := ∀ c a c', r.run c = .ok (a, c') → p a

namespace Yields

variable {r : Reader β ε α} {f : α → Reader β ε γ} {p q : α → Prop} {post : γ → Prop}

theorem of_parses (h : Parses r fun a _ ↦ p a) : Yields r p := by
  intro c a c' hr
  obtain ⟨-, -, -, hp⟩ := h c a c' hr
  exact hp

theorem mono (h : Yields r p) (hpost : ∀ a, p a → q a) : Yields r q := fun c a c' hr ↦ hpost a (h c a c' hr)

theorem pure {a : α} (h : p a) : Yields (pure a : Reader β ε α) p := of_parses (.pure h)

theorem lift {x : Except ε α} (h : ∀ a, x = .ok a → p a) : Yields (liftM x : Reader β ε α) p :=
  of_parses (.lift h)

theorem throw {e : ε} : Yields (throw e : Reader β ε α) p := by
  intro c a c' h
  cases h

theorem bind (hr : Yields r p) (hf : ∀ a, p a → Yields (f a) post) : Yields (r >>= f) post := by
  intro c b c'' h
  obtain ⟨a, c', h₁, h₂⟩ := run_bind_eq_ok.mp h
  exact hf a (hr c a c' h₁) c' b c'' h₂

/-- Nothing need be known of what the result does not depend on. -/
theorem after (hf : ∀ a, Yields (f a) post) : Yields (r >>= f) post := by
  have hr : Yields r fun _ ↦ True := fun _ _ _ _ ↦ trivial
  exact hr.bind fun a _ ↦ hf a

theorem skip {x : Except ε α} (hf : ∀ a, x = .ok a → Yields (f a) post) : Yields (liftM x >>= f) post := by
  have hx : Yields (liftM x : Reader β ε α) fun a ↦ x = .ok a := .lift fun _ h ↦ h
  exact hx.bind hf

theorem map {g : α → γ} (h : Yields r fun a ↦ post (g a)) : Yields (g <$> r) post := by
  rw [map_eq_pure_bind]
  exact h.bind fun _ ha ↦ .pure ha

theorem times (h : Yields r p) (n : ℕ) : Yields (times r n) fun as ↦ as.length = n ∧ ∀ a ∈ as, p a := by
  induction n with
  | zero => exact .pure (by simp)
  | succ n ih =>
    refine h.bind fun a ha ↦ ih.bind fun as has ↦ .pure ?_
    simpa [has.1] using ⟨ha, has.2⟩

theorem each {as : List α} (h : ∀ a ∈ as, Yields (f a) post) :
    Yields (as.mapM f) fun bs ↦ bs.length = as.length ∧ ∀ b ∈ bs, post b := by
  induction as with
  | nil => exact .pure (by simp)
  | cons a as ih =>
    have ha := h a List.mem_cons_self
    have has := ih fun b hb ↦ h b (List.mem_cons_of_mem a hb)
    rw [List.mapM_cons]
    refine ha.bind fun b hb ↦ has.bind fun bs hbs ↦ .pure ?_
    simpa [hbs.1] using ⟨hb, hbs.2⟩

end Yields

section Loops

variable {more : Cursor β → Bool} {body : σ → Reader β ε (ForInStep σ)}

theorem run_loopFuel (n : ℕ) (s : σ) (c : Cursor β) :
    (loopFuel more body (n + 1) s).run c =
      if more c then (body s >>= goOn (loopFuel more body n)).run c else .ok (s, c) := by
  rw [loopFuel, StateT.run_bind, StateT.run_get, pure_eq_ok, ok_bind]
  dsimp only
  split <;> rfl

/-- Two continuations of a turn that agree on every shorter input agree after the turn. -/
theorem run_bind_goOn (hbody : ∀ s, Parses (body s) fun _ used ↦ used ≠ [])
    {next next' : σ → Reader β ε σ} {s : σ} {c : Cursor β}
    (h : ∀ s c', c'.rest.length < c.rest.length → (next s).run c' = (next' s).run c') :
    (body s >>= goOn next).run c = (body s >>= goOn next').run c := by
  rw [StateT.run_bind, StateT.run_bind]
  cases hx : (body s).run c with
  | error e => rfl
  | ok p =>
    obtain ⟨used, hrest, -, hne⟩ := hbody s c p.1 p.2 hx
    have hlt : p.2.rest.length < c.rest.length := by
      have hpos := List.length_pos_iff.mpr hne
      rw [hrest, List.length_append]
      omega
    rw [ok_bind, ok_bind]
    cases p.1 with
    | done s => rfl
    | yield s => exact h s p.2 hlt

theorem loopFuel_eq (hbody : ∀ s, Parses (body s) fun _ used ↦ used ≠ []) (n m : ℕ) (s : σ)
    (c : Cursor β) (hn : c.rest.length < n) (hm : c.rest.length < m) :
    (loopFuel more body n s).run c = (loopFuel more body m s).run c := by
  induction n generalizing m s c with
  | zero => omega
  | succ n ih =>
    obtain ⟨m, rfl⟩ : ∃ k, m = k + 1 := ⟨m - 1, by omega⟩
    rw [run_loopFuel, run_loopFuel]
    congr 1
    exact run_bind_goOn hbody fun s c' hlt ↦ ih m s c' (by omega) (by omega)

/-- A loop is its first turn and the loop again. -/
theorem run_loop (hbody : ∀ s, Parses (body s) fun _ used ↦ used ≠ []) (s : σ) (c : Cursor β) :
    (loop more body s).run c =
      if more c then (body s >>= goOn (loop more body)).run c else .ok (s, c) := by
  change (loopFuel more body (c.rest.length + 1) s).run c = _
  rw [run_loopFuel]
  congr 1
  exact run_bind_goOn hbody fun s c' hlt ↦ loopFuel_eq hbody _ _ s c' hlt (Nat.lt_succ_self _)

/-- What holds at the start and is kept by every turn holds at the end. -/
theorem Parses.loop {inv : σ → List β → Prop} {s : σ} (hinit : inv s [])
    (hstep : ∀ s used, inv s used → Parses (body s) fun x used' ↦ inv x.value (used ++ used')) :
    Parses (loop more body s) inv := by
  have hfuel : ∀ n s used, inv s used →
      Parses (loopFuel more body n s) fun s' used' ↦ inv s' (used ++ used') := by
    intro n
    induction n with
    | zero => exact fun s used h ↦ .pure (by simpa using h)
    | succ n ih =>
      intro s used h c s' c'' hrun
      have hturn : Parses (body s >>= goOn (loopFuel more body n)) fun s' used' ↦ inv s' (used ++ used') := by
        refine (hstep s used h).bind fun x used' hx ↦ ?_
        cases x with
        | done s => exact .pure (by simpa using hx)
        | yield s => exact (ih s _ hx).mono fun _ _ h ↦ by rwa [List.append_assoc] at h
      rw [run_loopFuel] at hrun
      split at hrun
      · exact hturn c s' c'' hrun
      · cases hrun
        exact ⟨[], rfl, rfl, by simpa using h⟩
  intro c s' c' h
  exact hfuel _ s [] hinit c s' c' h

/-- A loop with its exit at the end of a turn reads what one turn reads at least. -/
theorem Parses.loop_ne_nil (hbody : ∀ s, Parses (body s) fun _ used ↦ used ≠ [])
    (hmore : ∀ c, more c = true) (s : σ) : Parses (Readers.loop more body s) fun _ used ↦ used ≠ [] := by
  have hany : ∀ s, Parses (Readers.loop more body s) fun _ _ ↦ True :=
    fun s ↦ .loop trivial fun s _ _ ↦ (hbody s).mono fun _ _ _ ↦ trivial
  have hturn : Parses (body s >>= goOn (Readers.loop more body)) fun _ used ↦ used ≠ [] := by
    refine (hbody s).bind fun x used hne ↦ ?_
    cases x with
    | done s => exact .pure (by simpa using hne)
    | yield s => exact (hany s).mono fun _ _ _ ↦ by simp [hne]
  intro c s' c' h
  rw [run_loop hbody, if_pos (hmore c)] at h
  exact hturn c s' c' h

theorem Reads.loop_turn (hbody : ∀ s, Parses (body s) fun _ used ↦ used ≠ [])
    (hmore : ∀ c, more c = true) {s s' : σ} {bs : List β}
    (h : Reads (body s >>= goOn (loop more body)) bs s') : Reads (loop more body s) bs s' := by
  intro offset rest
  rw [run_loop hbody, if_pos (hmore _)]
  exact h offset rest

/-- A loop reads a list of items back when every turn reads one of them. -/
theorem run_loop_items {enc : ι → List β} {upd : σ → ι → σ} {rest : List β} {total : ℕ} {items : List ι}
    (hbody : ∀ s, Parses (body s) fun _ used ↦ used ≠ [])
    (hread : ∀ s, ∀ x ∈ items, Reads (body s) (enc x) (.yield (upd s x)))
    (hmore : ∀ offset xs, xs <:+ items → offset + (xs.flatMap enc).length = total →
      more ⟨offset, xs.flatMap enc ++ rest⟩ = !xs.isEmpty)
    {s : σ} {offset : ℕ} (htotal : offset + (items.flatMap enc).length = total) :
    (loop more body s).run ⟨offset, items.flatMap enc ++ rest⟩ =
      .ok (items.foldl upd s, ⟨total, rest⟩) := by
  induction items generalizing s offset with
  | nil =>
    have h := hmore offset [] List.suffix_rfl htotal
    simp only [List.flatMap_nil, List.nil_append, List.length_nil, Nat.add_zero] at h htotal ⊢
    rw [run_loop hbody, h, htotal]
    rfl
  | cons x items ih =>
    rw [run_loop hbody, hmore offset _ List.suffix_rfl htotal]
    simp only [List.isEmpty_cons, Bool.not_false, if_true, List.flatMap_cons, List.append_assoc]
    rw [run_bind_of_ok (hread s x List.mem_cons_self offset _)]
    refine ih (fun s y hy ↦ hread s y (List.mem_cons_of_mem _ hy))
      (fun offset xs hxs ↦ hmore offset xs (hxs.trans (List.suffix_cons x items))) ?_
    rw [← htotal, List.flatMap_cons, List.length_append]
    omega

/-- A loop that goes on before each of the items is the loop behind them. -/
theorem run_loop_append {enc : ι → List β} {upd : σ → ι → σ} {items : List ι}
    (hbody : ∀ s, Parses (body s) fun _ used ↦ used ≠ [])
    (hread : ∀ s, ∀ x ∈ items, Reads (body s) (enc x) (.yield (upd s x)))
    (hmore : ∀ x ∈ items, ∀ offset rest, more ⟨offset, enc x ++ rest⟩ = true) (s : σ) (offset : ℕ)
    (rest : List β) :
    (loop more body s).run ⟨offset, items.flatMap enc ++ rest⟩ =
      (loop more body (items.foldl upd s)).run ⟨offset + (items.flatMap enc).length, rest⟩ := by
  induction items generalizing s offset with
  | nil => rfl
  | cons x items ih =>
    have hturn := hread s x List.mem_cons_self
    have hrest := ih (fun s y hy ↦ hread s y (List.mem_cons_of_mem _ hy))
      (fun y hy ↦ hmore y (List.mem_cons_of_mem _ hy)) (upd s x) (offset + (enc x).length)
    rw [run_loop hbody, List.flatMap_cons, List.append_assoc, if_pos (hmore x List.mem_cons_self _ _),
      run_bind_of_ok (hturn offset _), List.length_append, ← Nat.add_assoc]
    exact hrest

theorem foldl_append_singleton (as bs : List α) : bs.foldl (fun as a ↦ as ++ [a]) as = as ++ bs := by
  induction bs generalizing as with
  | nil => simp
  | cons b bs ih => simp [ih]

end Loops

theorem Parses.of_readInput {r : Reader β ε α} {post : α → List β → Prop} (h : Parses r post)
    {input : List β} {a : α} {c : Cursor β} (hr : readInput r input = .ok (a, c)) :
    ∃ used, input = used ++ c.rest ∧ post a used := by
  obtain ⟨used, hrest, -, hp⟩ := h _ a c hr
  exact ⟨used, hrest, hp⟩

theorem Reads.readInput_eq {r : Reader β ε α} {bs : List β} {a : α} (h : Reads r bs a) :
    readInput r bs = .ok (a, ⟨bs.length, []⟩) := by
  have hr := h 0 []
  rwa [List.append_nil, Nat.zero_add] at hr

theorem length_le_flatMap {enc : α → List β} {as : List α} {a : α} (h : a ∈ as) :
    (enc a).length ≤ (as.flatMap enc).length := by
  obtain ⟨before, after, rfl⟩ := List.append_of_mem h
  rw [List.flatMap_append, List.flatMap_cons, List.length_append, List.length_append]
  omega

theorem length_flatMap_le {enc : α → List β} {as : List α} {n : ℕ} (h : ∀ a ∈ as, (enc a).length ≤ n) :
    (as.flatMap enc).length ≤ as.length * n := by
  induction as with
  | nil => simp
  | cons a as ih =>
    have ha := h a List.mem_cons_self
    have has := ih fun b hb ↦ h b (List.mem_cons_of_mem a hb)
    rw [List.flatMap_cons, List.length_append, List.length_cons, Nat.succ_mul]
    omega

section Writers

variable {write : α → Except ε (List β)}

theorem written_eq {a : α} {bs : List β} (h : write a = .ok bs) : written write a = bs := by
  rw [written, h]
  rfl

theorem write_eq_written {a : α} (h : ∃ bs, write a = .ok bs) : write a = .ok (written write a) := by
  obtain ⟨bs, h⟩ := h
  rw [written_eq h, h]

theorem writeAll_eq_ok {as : List α} {bs : List β} (h : writeAll write as = .ok bs) :
    bs = as.flatMap (written write) ∧ ∀ a ∈ as, write a = .ok (written write a) := by
  obtain ⟨bss, hm, hbs⟩ := bind_eq_ok.mp h
  obtain rfl := Except.ok.inj hbs
  clear h hbs
  induction as generalizing bss with
  | nil =>
    obtain rfl := Except.ok.inj hm
    simp
  | cons a as ih =>
    simp only [List.mapM_cons, bind_eq_ok, pure_eq_ok, Except.ok.injEq] at hm
    obtain ⟨b, ha, bss, hm, rfl⟩ := hm
    obtain ⟨hflat, has⟩ := ih bss hm
    simp only [List.flatten_cons, List.flatMap_cons, hflat, written_eq ha, List.mem_cons,
      forall_eq_or_imp, true_and]
    exact ⟨ha, has⟩

theorem writeAll_of_forall {as : List α} (h : ∀ a ∈ as, write a = .ok (written write a)) :
    writeAll write as = .ok (as.flatMap (written write)) := by
  have hm : as.mapM write = .ok (as.map (written write)) := by
    induction as with
    | nil => rfl
    | cons a as ih =>
      have ha := h a List.mem_cons_self
      have has := ih fun b hb ↦ h b (List.mem_cons_of_mem a hb)
      rw [List.mapM_cons, ha, has]
      rfl
  rw [writeAll, hm, ok_bind, List.flatMap]
  rfl

end Writers

section UntilEnd

variable {r : Reader β ε α} {p : α → Prop}

theorem parses_untilEnd (h : Parses r fun a _ ↦ p a) :
    Parses (untilEnd r) fun as _ ↦ ∀ a ∈ as, p a := by
  refine .loop (by simp) fun as _ has ↦ h.bind fun a _ ha ↦ .pure ?_
  simpa [or_imp, forall_and] using ⟨has, ha⟩

theorem parses_untilEnd_length {enc : α → List β} (h : Parses r fun a used ↦ (enc a).length ≤ used.length) :
    Parses (untilEnd r) fun as used ↦ (as.flatMap enc).length ≤ used.length := by
  refine .loop (by simp) fun as used has ↦ h.bind fun a used' ha ↦ .pure ?_
  simp only [ForInStep.value, List.flatMap_append, List.flatMap_singleton, List.length_append,
    List.append_nil]
  omega

theorem ne_nil_of_reads (hr : Parses r fun _ used ↦ used ≠ []) {bs : List β} {a : α} (h : Reads r bs a) :
    bs ≠ [] := by
  intro heq
  subst heq
  obtain ⟨used, hrest, -, hne⟩ := hr _ _ _ (h 0 [])
  exact hne (List.append_eq_nil_iff.mp hrest.symm).1

theorem run_untilEnd {enc : α → List β} {as : List α} (hr : Parses r fun _ used ↦ used ≠ [])
    (hread : ∀ a ∈ as, Reads r (enc a) a) (offset : ℕ) :
    (untilEnd r).run ⟨offset, as.flatMap enc⟩ = .ok (as, ⟨offset + (as.flatMap enc).length, []⟩) := by
  have hbody : ∀ s : List α,
      Parses (do return .yield (s ++ [← r]) : Reader β ε (ForInStep (List α))) fun _ used ↦ used ≠ [] :=
    fun s ↦ hr.bind fun a used hu ↦ .pure (by simpa using hu)
  have hmore : ∀ o xs, xs <:+ as → o + (xs.flatMap enc).length = offset + (as.flatMap enc).length →
      hasRest ⟨o, xs.flatMap enc ++ []⟩ = !xs.isEmpty := by
    intro o xs hxs _
    cases xs with
    | nil => rfl
    | cons a xs =>
      have ha := ne_nil_of_reads hr (hread a (hxs.subset List.mem_cons_self))
      simp [hasRest, ha]
  have h := run_loop_items hbody (fun s a ha ↦ (hread a ha).last (.pure _)) hmore (s := []) rfl
  rwa [List.append_nil, foldl_append_singleton] at h

end UntilEnd

end Rskrb5.Lib.Readers
