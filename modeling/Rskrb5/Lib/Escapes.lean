import Mathlib.Data.List.Basic

namespace Rskrb5.Lib.Escapes

variable {α : Type} {escape : α}

/-- One unit of a text in which one character takes the next one as it is. -/
inductive Token (escape : α)
  | plain (c : α) (h : c ≠ escape)
  | escaped (c : α)
  deriving DecidableEq

def Token.char : Token escape → α
  | plain c _ => c
  | escaped c => c

def Token.write : Token escape → List α
  | plain c _ => [c]
  | escaped c => [escape, c]

def chars (tokens : List (Token escape)) : List α := tokens.map Token.char

def write (tokens : List (Token escape)) : List α := tokens.flatMap Token.write

@[simp] theorem write_nil : write ([] : List (Token escape)) = [] := rfl

@[simp] theorem write_cons (token : Token escape) (tokens : List (Token escape)) :
    write (token :: tokens) = token.write ++ write tokens := rfl

@[simp] theorem write_append (tokens more : List (Token escape)) :
    write (tokens ++ more) = write tokens ++ write more := List.flatMap_append

@[simp] theorem chars_cons (token : Token escape) (tokens : List (Token escape)) :
    chars (token :: tokens) = token.char :: chars tokens := rfl

@[simp] theorem chars_eq_nil {tokens : List (Token escape)} : chars tokens = [] ↔ tokens = [] := List.map_eq_nil_iff

@[simp] theorem write_eq_nil {tokens : List (Token escape)} : write tokens = [] ↔ tokens = [] := by
  cases tokens with
  | nil => simp
  | cons token tokens => cases token <;> simp [Token.write]

section Tokenize

variable [DecidableEq α]

/-- The units of a text, unless it ends behind an escape. -/
def tokenize (escape : α) : List α → Option (List (Token escape))
  | [] => some []
  | [c] => if h : c = escape then none else some [.plain c h]
  | c :: next :: text =>
    if h : c = escape then (tokenize escape text).map (.escaped next :: ·)
    else (tokenize escape (next :: text)).map (.plain c h :: ·)

theorem tokenize_plain {c : α} (h : c ≠ escape) (text : List α) :
    tokenize escape (c :: text) = (tokenize escape text).map (.plain c h :: ·) := by
  cases text with
  | nil => simp [tokenize, h]
  | cons next text => rw [tokenize, dif_neg h]

theorem tokenize_escaped (c : α) (text : List α) :
    tokenize escape (escape :: c :: text) = (tokenize escape text).map (.escaped c :: ·) := by
  rw [tokenize, dif_pos rfl]

theorem tokenize_write (tokens : List (Token escape)) : tokenize escape (write tokens) = some tokens := by
  induction tokens with
  | nil => rfl
  | cons token tokens ih =>
    cases token with
    | plain c h =>
      have hcons : write (.plain c h :: tokens) = c :: write tokens := rfl
      rw [hcons, tokenize_plain h, ih]
      rfl
    | escaped c =>
      have hcons : write (.escaped c :: tokens) = escape :: c :: write tokens := rfl
      rw [hcons, tokenize_escaped, ih]
      rfl

variable (escape) in
/-- A text is written with units, but for one escape that may dangle at its end. -/
theorem exists_write (text : List α) :
    ∃ tokens : List (Token escape), text = write tokens ∨ text = write tokens ++ [escape] := by
  induction text using tokenize.induct escape with
  | case1 => exact ⟨[], .inl rfl⟩
  | case2 => exact ⟨[], .inr rfl⟩
  | case3 c h => exact ⟨[.plain c h], .inl rfl⟩
  | case4 next text ih =>
    obtain ⟨tokens, ih⟩ := ih
    refine ⟨.escaped next :: tokens, ih.imp (fun ih ↦ ?_) fun ih ↦ ?_⟩ <;> simp [Token.write, ih]
  | case5 c next text h ih =>
    obtain ⟨tokens, ih⟩ := ih
    refine ⟨.plain c h :: tokens, ih.imp (fun ih ↦ ?_) fun ih ↦ ?_⟩ <;> simp [Token.write, ih]

theorem tokenize_dangling (tokens : List (Token escape)) : tokenize escape (write tokens ++ [escape]) = none := by
  induction tokens with
  | nil => simp [tokenize]
  | cons token tokens ih =>
    cases token with
    | plain c h =>
      have hcons : write (.plain c h :: tokens) ++ [escape] = c :: (write tokens ++ [escape]) := rfl
      rw [hcons, tokenize_plain h, ih]
      rfl
    | escaped c =>
      have hcons : write (.escaped c :: tokens) ++ [escape] = escape :: c :: (write tokens ++ [escape]) := rfl
      rw [hcons, tokenize_escaped, ih]
      rfl

theorem write_of_tokenize {text : List α} {tokens : List (Token escape)} (h : tokenize escape text = some tokens) :
    write tokens = text := by
  obtain ⟨written, rfl | rfl⟩ := exists_write escape text
  · rw [tokenize_write] at h
    rw [Option.some.inj h]
  · rw [tokenize_dangling] at h
    cases h

theorem tokenize_eq_some_iff {text : List α} {tokens : List (Token escape)} :
    tokenize escape text = some tokens ↔ write tokens = text :=
  ⟨write_of_tokenize, fun h ↦ h ▸ tokenize_write tokens⟩

end Tokenize

section Escape

variable (isSpecial : α → Prop) [DecidablePred isSpecial] (hescape : isSpecial escape)

/-- The unit that a character is written as, where the special ones are escaped. -/
def Token.of (c : α) : Token escape :=
  if h : isSpecial c then .escaped c else .plain c fun heq ↦ h (heq ▸ hescape)

@[simp] theorem Token.char_of (c : α) : (Token.of isSpecial hescape c).char = c := by
  unfold Token.of
  split <;> rfl

theorem chars_map_of (text : List α) : chars (text.map (Token.of isSpecial hescape)) = text := by
  rw [chars, List.map_map]
  exact List.map_id'' (Token.char_of isSpecial hescape) text

variable {isSpecial} in
theorem plain_not_mem_map_of {c : α} (hc : isSpecial c) (h : c ≠ escape) (text : List α) :
    Token.plain c h ∉ text.map (Token.of isSpecial hescape) := by
  intro hm
  obtain ⟨c', -, heq⟩ := List.mem_map.mp hm
  unfold Token.of at heq
  split at heq
  · cases heq
  · next hplain =>
    obtain rfl := (Token.plain.inj heq)
    exact hplain hc

end Escape

end Rskrb5.Lib.Escapes
