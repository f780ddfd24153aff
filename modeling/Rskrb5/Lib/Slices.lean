import Mathlib.Algebra.Order.Ring.Nat
import Rskrb5.Lib.Programs
import Rskrb5.Lib.Readers

namespace Rskrb5.Lib.Slices

open Results Readers Programs Program

/-- A slice, whose length fits a signed machine word. -/
structure Slice (β : Type) where
  items : List β
  length_lt : items.length < 2 ^ 63

/-- Where a reader stands that keeps an index into its input. -/
structure Position (β : Type) where
  slice : Slice β
  offset : ℕ

/-- Why a reader stops: with an error of its own, or because an index is out of range or a sum does
not fit a machine word. -/
inductive Stop (ε : Type)
  | panicked
  | failed (e : ε)

abbrev IndexedReader (β ε : Type) := Program (Position β) (Stop ε)

variable {β ε α γ σ : Type}

def check (c : Prop) [Decidable c] (e : Stop ε) : IndexedReader β ε Unit := liftM (ensure c e)

def add (a b : ℕ) : IndexedReader β ε ℕ := do
  check (a + b < 2 ^ 64) .panicked
  return a + b

def checkedAdd (e : ε) (a b : ℕ) : IndexedReader β ε ℕ := do
  check (a + b < 2 ^ 64) (.failed e)
  return a + b

/-- `slice[i]`. -/
def index (s : Slice β) (i : ℕ) : IndexedReader β ε β := liftM (okOr s.items[i]? (Stop.panicked : Stop ε))

/-- `&slice[start..stop]`. -/
def range (s : Slice β) (start stop : ℕ) : IndexedReader β ε (List β) := do
  check (start ≤ stop ∧ stop ≤ s.items.length) .panicked
  return (s.items.take stop).drop start

def position : IndexedReader β ε (Position β) := get

def moveTo (offset : ℕ) : IndexedReader β ε Unit := modify fun p ↦ { p with offset }

section Exec

variable {p : Position β}

theorem exec_position_bind (f : Position β → IndexedReader β ε α) : (position >>= f).exec p = (f p).exec p := rfl

theorem exec_moveTo (offset : ℕ) :
    (moveTo offset : IndexedReader β ε Unit).exec p = (.ok (), { p with offset }) := rfl

theorem exec_check {c : Prop} [Decidable c] (h : c) (e : Stop ε) :
    (check c e : IndexedReader β ε Unit).exec p = (.ok (), p) := by
  rw [check, ensure_of h]
  rfl

theorem exec_check_of_not {c : Prop} [Decidable c] (h : ¬ c) (e : Stop ε) :
    (check c e : IndexedReader β ε Unit).exec p = (.error e, p) := by
  rw [check, ensure_of_not h]
  rfl

theorem exec_add {a b : ℕ} (h : a + b < 2 ^ 64) : (add a b : IndexedReader β ε ℕ).exec p = (.ok (a + b), p) := by
  rw [add, exec_bind_ok (exec_check h _)]
  rfl

theorem exec_index {s : Slice β} {i : ℕ} {item : β} (h : s.items[i]? = some item) :
    (index s i : IndexedReader β ε β).exec p = (.ok item, p) := by
  rw [index, h]
  rfl

theorem exec_range {s : Slice β} {start stop : ℕ} (h : start ≤ stop ∧ stop ≤ s.items.length) :
    (range s start stop : IndexedReader β ε (List β)).exec p =
      (.ok ((s.items.take stop).drop start), p) := by
  rw [range, exec_bind_ok (exec_check h _)]
  rfl

end Exec

/-- The item at the offset, which moves behind it. -/
def nextItem (e : ε) : IndexedReader β ε β := do
  let p ← position
  check (p.offset < p.slice.items.length) (.failed e)
  let item ← index p.slice p.offset
  let offset ← add p.offset 1
  moveTo offset
  return item

/-- The items up to where `plus` puts the end of so many of them, and the offset behind them. -/
def nextItems (plus : ℕ → ℕ → IndexedReader β ε ℕ) (len : ℕ) (e : ε) : IndexedReader β ε (List β) := do
  let p ← position
  let stop ← plus p.offset len
  check (stop ≤ p.slice.items.length) (.failed e)
  let items ← range p.slice p.offset stop
  moveTo stop
  return items

/-- `&slice[offset..]`. -/
def remaining : IndexedReader β ε (List β) := do
  let p ← position
  range p.slice p.offset p.slice.items.length

def Position.Within (p : Position β) : Prop := p.offset ≤ p.slice.items.length

def Position.cursor (p : Position β) : Cursor β := ⟨p.offset, p.slice.items.drop p.offset⟩

theorem run_takeItems_cursor {p : Position β} {len : ℕ} (e : ε) (h : p.offset + len ≤ p.slice.items.length) :
    (takeItems (fun _ _ _ ↦ e) len).run p.cursor =
      .ok ((p.slice.items.take (p.offset + len)).drop p.offset,
        ({ p with offset := p.offset + len } : Position β).cursor) := by
  have hlen : len ≤ (p.slice.items.drop p.offset).length := by
    rw [List.length_drop]
    omega
  rw [List.drop_take, Nat.add_sub_cancel_left]
  simp only [takeItems, StateT.run, Position.cursor, if_pos hlen, List.drop_drop]

theorem run_takeItems_cursor_of_lt {p : Position β} {len : ℕ} (e : ε) (hp : p.Within)
    (h : p.slice.items.length < p.offset + len) :
    (takeItems (fun _ _ _ ↦ e) len : Reader β ε (List β)).run p.cursor = .error e := by
  have hlen : ¬ len ≤ (p.slice.items.drop p.offset).length := by
    have hp : p.offset ≤ p.slice.items.length := hp
    rw [List.length_drop]
    omega
  exact if_neg hlen

theorem exec_remaining {p : Position β} (hp : p.Within) :
    (remaining : IndexedReader β ε (List β)).exec p = (.ok p.cursor.rest, p) := by
  rw [remaining, exec_position_bind, exec_range ⟨hp, Nat.le_refl _⟩, List.take_length]
  rfl

/-- A step of a reader is within its input, which stays the same, and does not go back. -/
structure Onward (p p' : Position β) : Prop where
  slice : p'.slice = p.slice
  within : p'.Within
  le : p.offset ≤ p'.offset

namespace Onward

theorem refl {p : Position β} (h : p.Within) : Onward p p := ⟨rfl, h, Nat.le_refl _⟩

theorem trans {p p' p'' : Position β} (h : Onward p p') (h' : Onward p' p'') : Onward p p'' :=
  ⟨h'.slice.trans h.slice, h'.within, Nat.le_trans h.le h'.le⟩

end Onward

/-- How an indexed reader ends, told by how a reader of the same input ends: it never panics. -/
def Agrees (p : Position β) (y : Except ε (α × Cursor β)) : Except (Stop ε) α × Position β → Prop
  | (.ok a, p') => Onward p p' ∧ y = .ok (a, p'.cursor)
  | (.error (.failed e), p') => Onward p p' ∧ y = .error e
  | (.error .panicked, _) => False

theorem Agrees.of_onward {p p' : Position β} {y : Except ε (α × Cursor β)}
    {result : Except (Stop ε) α × Position β} (h : Onward p p') (hy : Agrees p' y result) : Agrees p y result := by
  revert hy
  rcases result with ⟨(_ | e) | a, p''⟩
  · exact id
  · exact fun hy ↦ ⟨h.trans hy.1, hy.2⟩
  · exact fun hy ↦ ⟨h.trans hy.1, hy.2⟩

theorem Agrees.ne_panicked {p : Position β} {y : Except ε (α × Cursor β)}
    {result : Except (Stop ε) α × Position β} (h : Agrees p y result) : result.1 ≠ .error .panicked := by
  revert h
  rcases result with ⟨(_ | e) | a, p'⟩
  · exact False.elim
  · exact fun _ ↦ nofun
  · exact fun _ ↦ nofun

theorem Agrees.onward {p : Position β} {y : Except ε (α × Cursor β)}
    {result : Except (Stop ε) α × Position β} (h : Agrees p y result) : Onward p result.2 := by
  revert h
  rcases result with ⟨(_ | e) | a, p'⟩
  · exact False.elim
  · exact fun h ↦ h.1
  · exact fun h ↦ h.1

/-- From within its input, an indexed reader does what a reader does that has no index to get wrong. -/
def Follows (x : IndexedReader β ε α) (y : Reader β ε α) : Prop :=
  ∀ p : Position β, p.Within → Agrees p (y.run p.cursor) (x.exec p)

namespace Follows

theorem pure (a : α) : Follows (pure a : IndexedReader β ε α) (pure a) := fun _ hp ↦ ⟨.refl hp, rfl⟩

/-- What is known of whatever the reader returns may be used of what comes after it. -/
theorem bind_of_yields {x : IndexedReader β ε α} {y : Reader β ε α} {f : α → IndexedReader β ε γ}
    {g : α → Reader β ε γ} {post : α → Prop} (hx : Follows x y) (hy : Yields y post)
    (hf : ∀ a, post a → Follows (f a) (g a)) : Follows (x >>= f) (y >>= g) := by
  intro p hp
  have h := hx p hp
  rw [exec_bind, StateT.run_bind]
  revert h
  rcases x.exec p with ⟨(_ | e) | a, p'⟩
  · exact id
  · intro h
    exact ⟨h.1, by rw [h.2, error_bind]⟩
  · intro h
    have hpost := hy _ _ _ h.2
    rw [h.2, ok_bind]
    exact (hf a hpost p' h.1.within).of_onward h.1

theorem bind {x : IndexedReader β ε α} {y : Reader β ε α} {f : α → IndexedReader β ε γ}
    {g : α → Reader β ε γ} (hx : Follows x y) (hf : ∀ a, Follows (f a) (g a)) :
    Follows (x >>= f) (y >>= g) := by
  have hy : Yields y fun _ ↦ True := fun _ _ _ _ ↦ trivial
  exact hx.bind_of_yields hy fun a _ ↦ hf a

theorem check {c : Prop} [Decidable c] {e : ε} {f : IndexedReader β ε α} {g : Reader β ε α}
    (h : c → Follows f g) : Follows (check c (.failed e) >>= fun _ ↦ f) (liftM (ensure c e) >>= fun _ ↦ g) := by
  intro p hp
  by_cases hc : c
  · rw [exec_bind_ok (exec_check hc _), run_lift_bind (ensure_of hc e)]
    exact h hc p hp
  · rw [exec_bind, exec_check_of_not hc, ensure_of_not hc]
    exact ⟨.refl hp, rfl⟩

/-- The index is within the slice, and one more than it fits a machine word. -/
theorem nextItem (e : ε) (d : β) :
    Follows (nextItem e) (do return (← takeItems (fun _ _ _ ↦ e) 1).getD 0 d) := by
  intro p hp
  have hlength := p.slice.length_lt
  by_cases h : p.offset < p.slice.items.length
  · have hitem : ((p.slice.items.take (p.offset + 1)).drop p.offset).getD 0 d = p.slice.items[p.offset] := by
      simp [h]
    rw [StateT.run_bind, run_takeItems_cursor e h, Slices.nextItem, exec_position_bind,
      exec_bind_ok (exec_check h _), exec_bind_ok (exec_index (List.getElem?_eq_getElem h)),
      exec_bind_ok (exec_add (by omega)), exec_bind_ok (exec_moveTo _), ok_bind, hitem]
    exact ⟨⟨rfl, h, Nat.le_succ _⟩, rfl⟩
  · rw [StateT.run_bind, run_takeItems_cursor_of_lt e hp (by omega), Slices.nextItem, exec_position_bind,
      exec_bind, exec_check_of_not h]
    exact ⟨.refl hp, rfl⟩

theorem nextItems {plus : ℕ → ℕ → IndexedReader β ε ℕ} {len : ℕ} {e : ε}
    (hplus : ∀ p : Position β, p.Within → (plus p.offset len).exec p = (.ok (p.offset + len), p) ∨
      (plus p.offset len).exec p = (.error (.failed e), p) ∧ 2 ^ 64 ≤ p.offset + len) :
    Follows (nextItems plus len e) (takeItems (fun _ _ _ ↦ e) len) := by
  intro p hp
  have hlength := p.slice.length_lt
  rw [Slices.nextItems, exec_position_bind]
  rcases hplus p hp with hsum | ⟨hsum, hlarge⟩
  · rw [exec_bind_ok hsum]
    by_cases h : p.offset + len ≤ p.slice.items.length
    · rw [run_takeItems_cursor e h, exec_bind_ok (exec_check h _),
        exec_bind_ok (exec_range ⟨Nat.le_add_right _ _, h⟩), exec_bind_ok (exec_moveTo _)]
      exact ⟨⟨rfl, h, Nat.le_add_right _ _⟩, rfl⟩
    · rw [run_takeItems_cursor_of_lt e hp (Nat.lt_of_not_le h), exec_bind, exec_check_of_not h]
      exact ⟨.refl hp, rfl⟩
  · rw [run_takeItems_cursor_of_lt e hp (by omega), exec_bind, hsum]
    exact ⟨.refl hp, rfl⟩

/-- A sum that need not fit a machine word is asked whether it does. -/
theorem nextItems_checkedAdd (len : ℕ) (e : ε) :
    Follows (Slices.nextItems (checkedAdd e) len e : IndexedReader β ε (List β)) (takeItems (fun _ _ _ ↦ e) len) := by
  refine nextItems fun p _ ↦ ?_
  rw [checkedAdd]
  by_cases h : p.offset + len < 2 ^ 64
  · rw [exec_bind_ok (exec_check h _)]
    exact .inl rfl
  · rw [exec_bind, exec_check_of_not h]
    exact .inr ⟨rfl, Nat.le_of_not_lt h⟩

/-- An index into a slice and a number as small fit a machine word together. -/
theorem nextItems_add {len : ℕ} (hlen : len < 2 ^ 63) (e : ε) :
    Follows (Slices.nextItems add len e : IndexedReader β ε (List β)) (takeItems (fun _ _ _ ↦ e) len) := by
  refine nextItems fun p hp ↦ .inl (exec_add ?_)
  have hlength := p.slice.length_lt
  have hp : p.offset ≤ p.slice.items.length := hp
  omega

theorem onward {x : IndexedReader β ε α} {y : Reader β ε α} (h : Follows x y) {p : Position β} (hp : p.Within) :
    (x.exec p).1 ≠ .error .panicked ∧ Onward p (x.exec p).2 :=
  ⟨(h p hp).ne_panicked, (h p hp).onward⟩

theorem run_of_ok {x : IndexedReader β ε α} {y : Reader β ε α} (h : Follows x y) {p p' : Position β}
    (hp : p.Within) {a : α} (hx : x.exec p = (.ok a, p')) : y.run p.cursor = .ok (a, p'.cursor) := by
  have hy := h p hp
  rw [hx] at hy
  exact hy.2

/-- What a reader reads off the rest of a slice, one that follows it reads there too. -/
theorem exec_of_reads {x : IndexedReader β ε α} {y : Reader β ε α} (h : Follows x y) {bs rest : List β} {a : α}
    (hreads : Reads y bs a) {p : Position β} (hp : p.Within) (hbs : p.cursor.rest = bs ++ rest) :
    x.exec p = (.ok a, { p with offset := p.offset + bs.length }) := by
  have hx := h p hp
  have hrun : y.run p.cursor = .ok (a, ⟨p.offset + bs.length, rest⟩) := by
    rw [← hreads p.offset rest, ← hbs]
    rfl
  rw [hrun] at hx
  revert hx
  rcases x.exec p with ⟨(_ | e) | b, ⟨slice, offset⟩⟩
  · exact False.elim
  · exact fun hx ↦ nomatch hx.2
  · intro hx
    obtain ⟨⟨rfl, -, -⟩, hok⟩ := hx
    obtain ⟨rfl, hcursor⟩ := Prod.mk.inj (Except.ok.inj hok)
    rw [(Cursor.mk.inj hcursor).1]

end Follows

section Loops

/-- A turn of a loop that goes on while something is left. -/
def turn (body : σ → IndexedReader β ε (ForInStep σ)) (s : σ) : IndexedReader β ε (ForInStep σ) := do
  let rest ← remaining
  if rest.isEmpty then return .done s else body s

/-- How such a loop ends, if it does. -/
inductive Ends (body : σ → IndexedReader β ε (ForInStep σ)) :
    Position β → σ → Except (Stop ε) σ × Position β → Prop
  | done {p p' : Position β} {s s' : σ} (h : (turn body s).exec p = (.ok (.done s'), p')) :
      Ends body p s (.ok s', p')
  | stop {p p' : Position β} {s : σ} {e : Stop ε} (h : (turn body s).exec p = (.error e, p')) :
      Ends body p s (.error e, p')
  | next {p p' : Position β} {s s' : σ} {result : Except (Stop ε) σ × Position β}
      (h : (turn body s).exec p = (.ok (.yield s'), p')) (hrest : Ends body p' s' result) : Ends body p s result

variable {body : σ → IndexedReader β ε (ForInStep σ)} {read : σ → Reader β ε (ForInStep σ)}

theorem exec_turn {p : Position β} (hp : p.Within) (s : σ) :
    (turn body s).exec p = if hasRest p.cursor then (body s).exec p else (.ok (.done s), p) := by
  rw [turn, exec_bind_ok (exec_remaining hp), hasRest]
  cases p.cursor.rest.isEmpty <;> rfl

/-- A loop whose turns read something ends, and as the loop of a reader does that it follows. The
induction is on what is left. -/
theorem exists_ends (hfollows : ∀ s, Follows (body s) (read s))
    (hread : ∀ s, Parses (read s) fun _ used ↦ used ≠ []) (s : σ) {p : Position β} (hp : p.Within) :
    ∃ result, Ends body p s result ∧ Agrees p ((loop hasRest read s).run p.cursor) result := by
  generalize hn : p.cursor.rest.length = n
  induction n using Nat.strongRecOn generalizing p s with
  | ind n ih =>
    have hturn : (turn body s).exec p = _ := exec_turn hp s
    rw [run_loop hread]
    split at hturn
    · next hmore =>
      rw [if_pos hmore, StateT.run_bind]
      have hx := hfollows s p hp
      rcases hbody : (body s).exec p with ⟨(_ | e) | step, p'⟩
      · rw [hbody] at hx
        exact hx.elim
      · rw [hbody] at hx hturn
        exact ⟨_, .stop hturn, hx.1, by rw [hx.2, error_bind]⟩
      · rw [hbody] at hx hturn
        rw [hx.2, ok_bind]
        cases step with
        | done s' => exact ⟨_, .done hturn, hx.1, rfl⟩
        | yield s' =>
          obtain ⟨used, hused, -, hne⟩ := hread s _ _ _ hx.2
          have hlt : p'.cursor.rest.length < n := by
            have hpos := List.length_pos_iff.mpr hne
            rw [← hn, hused, List.length_append]
            omega
          obtain ⟨result, hends, hagrees⟩ := ih _ hlt s' hx.1.within rfl
          exact ⟨result, .next hturn hends, hagrees.of_onward hx.1⟩
    · next hmore =>
      rw [if_neg hmore]
      exact ⟨_, .done hturn, .refl hp, rfl⟩

end Loops

end Rskrb5.Lib.Slices
