import Mathlib.Data.List.Basic
import Mathlib.Logic.Relation

namespace Rskrb5.Lib.Programs

/-- Programs with a state that they keep when they stop with an error. -/
abbrev Program (σ ε : Type) := ExceptT ε (StateM σ)

variable {σ τ ε ε' α β : Type}

namespace Program

def exec (x : Program σ ε α) (s : σ) : Except ε α × σ := x.run.run s

def ofExec (f : σ → Except ε α × σ) : Program σ ε α := ExceptT.mk (StateT.mk f)

/-- Hand the result on, an error included. -/
def attempt (x : Program σ ε α) : Program σ ε (Except ε α) :=
  ofExec fun s ↦ (.ok (x.exec s).1, (x.exec s).2)

def onSnd (f : ε → ε') (x : Program τ ε α) : Program (σ × τ) ε' α :=
  ofExec fun s ↦ ((x.exec s.2).1.mapError f, (s.1, (x.exec s.2).2))

def onFst (f : ε → ε') (x : Program σ ε α) : Program (σ × τ) ε' α :=
  ofExec fun s ↦ ((x.exec s.1).1.mapError f, ((x.exec s.1).2, s.2))

def mapStop (f : ε → ε') (x : Program σ ε α) : Program σ ε' α :=
  ofExec fun s ↦ ((x.exec s).1.mapError f, (x.exec s).2)

def read : Program (σ × τ) ε σ := ofExec fun s ↦ (.ok s.1, s)

def update (f : σ → σ) : Program (σ × τ) ε Unit := ofExec fun s ↦ (.ok (), (f s.1, s.2))

@[simp] theorem exec_ofExec (f : σ → Except ε α × σ) (s : σ) : (ofExec f).exec s = f s := rfl

@[simp] theorem exec_pure (a : α) (s : σ) : (pure a : Program σ ε α).exec s = (.ok a, s) := rfl

@[simp] theorem exec_throw (e : ε) (s : σ) : (throw e : Program σ ε α).exec s = (.error e, s) := rfl

@[simp] theorem exec_liftExcept (x : Except ε α) (s : σ) :
    (liftM x : Program σ ε α).exec s = (x, s) := rfl

theorem exec_bind (x : Program σ ε α) (f : α → Program σ ε β) (s : σ) :
    (x >>= f).exec s = match x.exec s with
      | (.ok a, s') => (f a).exec s'
      | (.error e, s') => (.error e, s') := by
  change StateT.run (ExceptT.bindCont f (x.exec s).1) (x.exec s).2 = _
  rcases x.exec s with ⟨e | a, s'⟩ <;> rfl

theorem exec_bind_ok {x : Program σ ε α} {s s' : σ} {a : α} (h : x.exec s = (.ok a, s'))
    (f : α → Program σ ε β) : (x >>= f).exec s = (f a).exec s' := by
  rw [exec_bind, h]

theorem exec_bind_eq_ok {x : Program σ ε α} {f : α → Program σ ε β} {s s'' : σ} {b : β} :
    (x >>= f).exec s = (.ok b, s'') ↔ ∃ a s', x.exec s = (.ok a, s') ∧ (f a).exec s' = (.ok b, s'') := by
  rw [exec_bind]
  rcases x.exec s with ⟨e | a, s'⟩ <;> simp

theorem exec_liftExcept_eq_ok {x : Except ε α} {s s' : σ} {a : α} :
    (liftM x : Program σ ε α).exec s = (.ok a, s') ↔ x = .ok a ∧ s = s' := by
  simp

theorem exec_onSnd_eq_ok {f : ε → ε'} {x : Program τ ε α} {s s' : σ × τ} {a : α} :
    (onSnd f x : Program (σ × τ) ε' α).exec s = (.ok a, s') ↔ x.exec s.2 = (.ok a, s'.2) ∧ s.1 = s'.1 := by
  rw [onSnd, exec_ofExec, Prod.mk.injEq, Prod.ext_iff, Prod.ext_iff]
  rcases x.exec s.2 with ⟨e | b, t⟩ <;> simp [Except.mapError, and_comm, and_assoc]

theorem exec_onFst_eq_ok {f : ε → ε'} {x : Program σ ε α} {s s' : σ × τ} {a : α} :
    (onFst f x : Program (σ × τ) ε' α).exec s = (.ok a, s') ↔ x.exec s.1 = (.ok a, s'.1) ∧ s.2 = s'.2 := by
  rw [onFst, exec_ofExec, Prod.mk.injEq, Prod.ext_iff, Prod.ext_iff]
  rcases x.exec s.1 with ⟨e | b, t⟩ <;> simp [Except.mapError, and_assoc]

theorem exec_mapStop_eq_ok {f : ε → ε'} {x : Program σ ε α} {s s' : σ} {a : α} :
    (mapStop f x).exec s = (.ok a, s') ↔ x.exec s = (.ok a, s') := by
  rw [mapStop, exec_ofExec]
  rcases x.exec s with ⟨e | b, t⟩ <;> simp [Except.mapError]

theorem exec_read_bind (f : σ → Program (σ × τ) ε α) (s : σ × τ) : (read >>= f).exec s = (f s.1).exec s := rfl

theorem ext {x y : Program σ ε α} (h : ∀ s, x.exec s = y.exec s) : x = y := funext h

theorem lift_bind (x : Except ε α) (f : α → Except ε β) :
    (liftM (x >>= f) : Program σ ε β) = liftM x >>= fun a ↦ liftM (f a) := by
  cases x <;> rfl

theorem onSnd_bind (f : ε → ε') (x : Program τ ε α) (g : α → Program τ ε β) :
    (onSnd f (x >>= g) : Program (σ × τ) ε' β) = onSnd f x >>= fun a ↦ onSnd f (g a) := by
  refine ext fun s ↦ ?_
  simp only [onSnd, exec_ofExec, exec_bind]
  rcases x.exec s.2 with ⟨e | a, t⟩ <;> rfl

end Program

open Program

/-- From a state in `pre` a program ends in `post`, or stops with an error in `stop`. -/
def Triple (pre : σ → Prop) (x : Program σ ε α) (post : α → σ → Prop) (stop : ε → σ → Prop) : Prop :=
  ∀ s, pre s → match x.exec s with
    | (.ok a, s') => post a s'
    | (.error e, s') => stop e s'

namespace Triple

variable {pre pre' : σ → Prop} {post : α → σ → Prop} {stop stop' : ε → σ → Prop}

theorem weaken {post' : α → σ → Prop} {x : Program σ ε α} (h : Triple pre x post stop)
    (hpre : ∀ s, pre' s → pre s) (hpost : ∀ a s, post a s → post' a s)
    (hstop : ∀ e s, stop e s → stop' e s) : Triple pre' x post' stop' := by
  intro s hs
  have hx := h s (hpre s hs)
  revert hx
  rcases x.exec s with ⟨e | a, s'⟩
  · exact hstop e s'
  · exact hpost a s'

theorem pure {a : α} (h : ∀ s, pre s → post a s) : Triple pre (pure a) post stop := h

theorem throw {e : ε} (h : ∀ s, pre s → stop e s) :
    Triple pre (MonadExcept.throw e : Program σ ε α) post stop := h

theorem lift {x : Except ε α} (hok : ∀ a, x = .ok a → ∀ s, pre s → post a s)
    (herror : ∀ e, x = .error e → ∀ s, pre s → stop e s) :
    Triple pre (liftM x : Program σ ε α) post stop := by
  intro s hs
  rw [exec_liftExcept]
  cases x with
  | ok a => exact hok a rfl s hs
  | error e => exact herror e rfl s hs

theorem bind {mid : α → σ → Prop} {post : β → σ → Prop} {x : Program σ ε α} {f : α → Program σ ε β}
    (hx : Triple pre x mid stop) (hf : ∀ a, Triple (mid a) (f a) post stop) :
    Triple pre (x >>= f) post stop := by
  intro s hs
  have h := hx s hs
  rw [exec_bind]
  revert h
  rcases x.exec s with ⟨e | a, s'⟩
  · exact id
  · exact hf a s'

end Triple

/-- Whatever the state, every result of a program satisfies a predicate. -/
def Returns (x : Program σ ε α) (post : α → Prop) : Prop :=
  Triple (fun _ ↦ True) x (fun a _ ↦ post a) fun _ _ ↦ True

namespace Returns

variable {post : α → Prop}

theorem any (x : Program σ ε α) : Returns x fun _ ↦ True := by
  intro s _
  rcases x.exec s with ⟨e | a, s'⟩ <;> trivial

theorem pure {a : α} (h : post a) : Returns (pure a : Program σ ε α) post := Triple.pure fun _ _ ↦ h

theorem lift {x : Except ε α} (h : ∀ a, x = .ok a → post a) : Returns (liftM x : Program σ ε α) post :=
  Triple.lift (fun a ha _ _ ↦ h a ha) fun _ _ _ _ ↦ trivial

theorem bind {post : β → Prop} {mid : α → Prop} {x : Program σ ε α} {f : α → Program σ ε β}
    (hx : Returns x mid) (hf : ∀ a, mid a → Returns (f a) post) : Returns (x >>= f) post :=
  Triple.bind hx fun a s ha ↦ hf a ha s trivial

theorem of_exec {x : Program σ ε α} (h : Returns x post) {s : σ} {a : α} (hx : (x.exec s).1 = .ok a) :
    post a := by
  have hs := h s trivial
  revert hs hx
  rcases x.exec s with ⟨e | b, s'⟩
  · exact nofun
  · intro hx hs
    cases hx
    exact hs

theorem seq {post : β → Prop} {x : Program σ ε α} {f : α → Program σ ε β}
    (hf : ∀ a, Returns (f a) post) : Returns (x >>= f) post :=
  (any x).bind fun a _ ↦ hf a

theorem mapM {γ : Type} {rel : γ → α → Prop} {f : γ → Program σ ε α} (hf : ∀ c, Returns (f c) (rel c)) (cs : List γ) :
    Returns (cs.mapM f) (List.Forall₂ rel cs) := by
  induction cs with
  | nil =>
    rw [List.mapM_nil]
    exact .pure .nil
  | cons c cs ih =>
    rw [List.mapM_cons]
    exact (hf c).bind fun a ha ↦ ih.bind fun as has ↦ .pure (.cons ha has)

end Returns

/-- However a program ends, what `f` reads of the state is as it was. -/
def Leaves {γ : Type} (f : σ → γ) (x : Program σ ε α) : Prop := ∀ s, f (x.exec s).2 = f s

namespace Leaves

variable {γ : Type} {f : σ → γ}

theorem pure (a : α) : Leaves f (pure a : Program σ ε α) := fun _ ↦ rfl

theorem throw (e : ε) : Leaves f (MonadExcept.throw e : Program σ ε α) := fun _ ↦ rfl

theorem lift (x : Except ε α) : Leaves f (liftM x : Program σ ε α) := fun _ ↦ rfl

theorem bind {x : Program σ ε α} {g : α → Program σ ε β} (hx : Leaves f x) (hg : ∀ a, Leaves f (g a)) :
    Leaves f (x >>= g) := by
  intro s
  have h := hx s
  rw [exec_bind]
  revert h
  rcases x.exec s with ⟨e | a, s'⟩
  · exact id
  · exact fun h ↦ (hg a s').trans h

/-- What comes after a program that never returns is not reached. -/
theorem bind_of_stops {x : Program σ ε α} {g : α → Program σ ε β} (hx : Leaves f x)
    (h : Returns x fun _ ↦ False) : Leaves f (x >>= g) := by
  intro s
  have hleaves := hx s
  have hstops := h s trivial
  rw [exec_bind]
  revert hleaves hstops
  rcases x.exec s with ⟨e | a, s'⟩
  · exact fun hleaves _ ↦ hleaves
  · exact fun _ hstops ↦ hstops.elim

theorem attempt {x : Program σ ε α} (hx : Leaves f x) : Leaves f (attempt x) := hx

theorem read : Leaves (fun s ↦ f s.1) (read : Program (σ × τ) ε σ) := fun _ ↦ rfl

theorem update {g : σ → σ} (h : ∀ s, f (g s) = f s) :
    Leaves (fun s ↦ f s.1) (update g : Program (σ × τ) ε Unit) :=
  fun s ↦ h s.1

theorem onSnd (g : ε' → ε) (x : Program τ ε' α) :
    Leaves (fun s : σ × τ ↦ f s.1) (onSnd g x) :=
  fun _ ↦ rfl

/-- What a program leaves as it was, it leaves so whether it returns or stops. -/
theorem triple {x : Program σ ε α} {post : α → Prop} (hx : Leaves f x) (h : Returns x post) (c : γ) :
    Triple (fun s ↦ f s = c) x (fun a s ↦ f s = c ∧ post a) fun _ s ↦ f s = c := by
  intro s hs
  have hleaves := hx s
  have hpost := h s trivial
  revert hleaves hpost
  rcases x.exec s with ⟨e | a, s'⟩
  · exact fun hleaves _ ↦ hleaves.trans hs
  · exact fun hleaves hpost ↦ ⟨hleaves.trans hs, hpost⟩

end Leaves

/-- A program on a larger state that does what another does on a part of it. -/
def Mirrors (f : σ → τ) (x : Program σ ε α) (y : Program τ ε α) : Prop :=
  ∀ s, y.exec (f s) = ((x.exec s).1, f (x.exec s).2)

namespace Mirrors

variable {f : σ → τ}

theorem pure (a : α) : Mirrors f (pure a : Program σ ε α) (pure a) := fun _ ↦ rfl

theorem throw (e : ε) : Mirrors f (MonadExcept.throw e : Program σ ε α) (MonadExcept.throw e) := fun _ ↦ rfl

theorem lift (x : Except ε α) : Mirrors f (liftM x : Program σ ε α) (liftM x) := fun _ ↦ rfl

theorem bind {x : Program σ ε α} {y : Program τ ε α} {g : α → Program σ ε β} {h : α → Program τ ε β}
    (hx : Mirrors f x y) (hg : ∀ a, Mirrors f (g a) (h a)) : Mirrors f (x >>= g) (y >>= h) := by
  intro s
  rw [exec_bind, exec_bind, hx s]
  rcases x.exec s with ⟨e | a, s'⟩
  · rfl
  · exact hg a s'

end Mirrors

/-- However a program ends, the state has gone along a relation. It ends in `post`, or with an error in `stop`. -/
def Goes (r : σ → σ → Prop) (pre : σ → Prop) (x : Program σ ε α) (post : α → σ → Prop) (stop : ε → Prop) : Prop :=
  ∀ s, pre s → r s (x.exec s).2 ∧ match x.exec s with
    | (.ok a, s') => post a s'
    | (.error e, _) => stop e

namespace Goes

variable {r : σ → σ → Prop} {pre : σ → Prop} {x : Program σ ε α} {post : α → σ → Prop} {stop : ε → Prop}

theorem of_ok (h : ∀ s, pre s → ∃ a s', x.exec s = (.ok a, s') ∧ r s s' ∧ post a s') : Goes r pre x post stop := by
  intro s hs
  obtain ⟨a, s', hx, hr, ha⟩ := h s hs
  rw [hx]
  exact ⟨hr, ha⟩

theorem ok (h : Goes r pre x post stop) {s : σ} (hs : pre s) {a : α} (ha : (x.exec s).1 = .ok a) :
    post a (x.exec s).2 := by
  have hx := (h s hs).2
  revert hx ha
  rcases x.exec s with ⟨e | b, s'⟩
  · exact nofun
  · intro ha hx
    exact Except.ok.inj ha ▸ hx

theorem error (h : Goes r pre x post stop) {s : σ} (hs : pre s) {e : ε} (he : (x.exec s).1 = .error e) : stop e := by
  have hx := (h s hs).2
  revert hx he
  rcases x.exec s with ⟨e' | b, s'⟩
  · intro he hx
    exact Except.error.inj he ▸ hx
  · exact nofun

theorem weaken {pre' : σ → Prop} {post' : α → σ → Prop} (h : Goes r pre x post stop)
    (hpre : ∀ s, pre' s → pre s) (hpost : ∀ a s, post a s → post' a s) : Goes r pre' x post' stop := by
  intro s hs
  obtain ⟨hr, hx⟩ := h s (hpre s hs)
  refine ⟨hr, ?_⟩
  revert hx
  rcases x.exec s with ⟨e | a, s'⟩
  · exact id
  · exact hpost a s'

/-- What holds in all later states holds when a program has ended, too. -/
theorem frame (inv : σ → Prop) (hinv : ∀ s s', inv s → r s s' → inv s') (h : Goes r pre x post stop) :
    Goes r (fun s ↦ pre s ∧ inv s) x (fun a s ↦ post a s ∧ inv s) stop := by
  intro s hs
  obtain ⟨hr, hx⟩ := h s hs.1
  have hlater := hinv s _ hs.2 hr
  refine ⟨hr, ?_⟩
  revert hx hlater
  rcases x.exec s with ⟨e | a, s'⟩
  · exact fun hx _ ↦ hx
  · exact fun hx hlater ↦ ⟨hx, hlater⟩

theorem bind [IsTrans σ r] {mid : α → σ → Prop} {post : β → σ → Prop} {f : α → Program σ ε β}
    (hx : Goes r pre x mid stop) (hf : ∀ a, Goes r (mid a) (f a) post stop) : Goes r pre (x >>= f) post stop := by
  intro s hs
  have h := hx s hs
  rw [exec_bind]
  revert h
  rcases x.exec s with ⟨e | a, s'⟩
  · exact id
  · intro h
    have h' := hf a s' h.2
    exact ⟨IsTrans.trans _ _ _ h.1 h'.1, h'.2⟩

theorem attempt {stop' : ε → Prop} (h : Goes r pre x post stop) :
    Goes r pre (attempt x) (fun result s ↦ ∀ a, result = .ok a → post a s) stop' := by
  intro s hs
  obtain ⟨hr, hx⟩ := h s hs
  refine ⟨hr, fun a ha ↦ ?_⟩
  revert hx ha
  rcases x.exec s with ⟨e | b, s'⟩
  · exact nofun
  · intro hx ha
    exact Except.ok.inj ha ▸ hx

section Still

variable [Std.Refl r]

theorem pure {a : α} (h : ∀ s, pre s → post a s) : Goes r pre (pure a : Program σ ε α) post stop :=
  fun s hs ↦ ⟨refl s, h s hs⟩

theorem throw {e : ε} (h : stop e) : Goes r pre (MonadExcept.throw e : Program σ ε α) post stop :=
  fun s _ ↦ ⟨refl s, h⟩

theorem lift {x : Except ε α} (hok : ∀ a, x = .ok a → ∀ s, pre s → post a s) (herror : ∀ e, x = .error e → stop e) :
    Goes r pre (liftM x : Program σ ε α) post stop := by
  intro s hs
  rw [exec_liftExcept]
  refine ⟨refl s, ?_⟩
  cases x with
  | ok a => exact hok a rfl s hs
  | error e => exact herror e rfl

end Still

section Parts

variable {r : σ × τ → σ × τ → Prop} {pre : σ × τ → Prop}

theorem read {f : σ → Program (σ × τ) ε α} {post : α → σ × τ → Prop}
    (h : ∀ s₀, pre s₀ → Goes r (fun s ↦ s = s₀) (f s₀.1) post stop) : Goes r pre (read >>= f) post stop :=
  fun s hs ↦ h s hs s rfl

/-- A program of one part, which takes what is known of it there and leaves the other part alone. -/
theorem onSnd {q : τ → τ → Prop} {stop' : ε' → Prop} {f : ε → ε'} {x : Program τ ε α} {result : α → τ → Prop}
    (hr : ∀ c t t', q t t' → r (c, t) (c, t')) (hpre : ∀ c t t', pre (c, t) → q t t' → pre (c, t'))
    (hstop : ∀ e, stop e → stop' (f e)) (h : Goes q (fun _ ↦ True) x result stop) :
    Goes r pre (onSnd f x : Program (σ × τ) ε' α) (fun a s ↦ pre s ∧ result a s.2) stop' := by
  intro s hs
  obtain ⟨hq, hresult⟩ := h s.2 trivial
  simp only [Program.onSnd, exec_ofExec]
  refine ⟨hr s.1 s.2 _ hq, ?_⟩
  have hpre' := hpre s.1 s.2 _ hs hq
  revert hresult hpre'
  rcases x.exec s.2 with ⟨e | a, t⟩
  · exact fun he _ ↦ hstop e he
  · exact fun ha hpre ↦ ⟨hpre, ha⟩

theorem update {f : σ → σ} {post : Unit → σ × τ → Prop}
    (h : ∀ s, pre s → r s (f s.1, s.2) ∧ post () (f s.1, s.2)) :
    Goes r pre (update f : Program (σ × τ) ε Unit) post stop :=
  h

end Parts

end Goes

end Rskrb5.Lib.Programs
