import Mathlib.Data.List.Basic

namespace Rskrb5.Lib.Scanners

/-- A scan over a text that finds out where to cut it. It starts afresh behind every cut. -/
structure Scanner (σ α : Type) where
  start : σ
  step : σ → α → σ
  cuts : σ → α → Bool
  step_of_cuts : ∀ {s c}, cuts s c = true → step s c = start

namespace Scanner

variable {σ α : Type} (S : Scanner σ α)

def run (s : σ) (text : List α) : σ := text.foldl S.step s

/-- The text between the cuts of one scan. -/
def pieces : σ → List α → List (List α)
  | _, [] => [[]]
  | s, c :: text =>
    if S.cuts s c then [] :: pieces (S.step s c) text
    else (pieces (S.step s c) text).modifyHead (c :: ·)

/-- No cut is within the text. -/
def Whole (s : σ) (text : List α) : Prop :=
  ∀ before c after, text = before ++ c :: after → S.cuts (S.run s before) c = false

variable {S} {s : σ} {c : α} {text before after : List α}

@[simp] theorem run_nil : S.run s [] = s := rfl

@[simp] theorem run_cons : S.run s (c :: text) = S.run (S.step s c) text := rfl

theorem run_append (before after : List α) : S.run s (before ++ after) = S.run (S.run s before) after :=
  List.foldl_append

theorem run_of_cuts (h : S.cuts (S.run s before) c = true) : S.run s (before ++ [c]) = S.start := by
  rw [run_append, run_cons, run_nil, S.step_of_cuts h]

theorem whole_nil : S.Whole s [] := by
  intro before c after h
  cases before <;> cases h

theorem whole_cons : S.Whole s (c :: text) ↔ S.cuts s c = false ∧ S.Whole (S.step s c) text := by
  constructor
  · intro h
    refine ⟨h [] c text rfl, fun before c' after heq ↦ ?_⟩
    exact h (c :: before) c' after (by rw [heq, List.cons_append])
  · intro h before c' after heq
    obtain ⟨hcuts, h⟩ := h
    cases before with
    | nil =>
      obtain ⟨rfl, rfl⟩ := List.cons.inj heq
      exact hcuts
    | cons first before =>
      obtain ⟨rfl, rfl⟩ := List.cons.inj heq
      exact h before c' after rfl

/-- A text is whole, or it has a first cut. -/
theorem whole_or_exists_cut (s : σ) (text : List α) :
    S.Whole s text ∨ ∃ before c after, text = before ++ c :: after ∧ S.Whole s before ∧
      S.cuts (S.run s before) c = true := by
  induction text generalizing s with
  | nil => exact .inl whole_nil
  | cons c text ih =>
    cases hcuts : S.cuts s c with
    | true => exact .inr ⟨[], c, text, rfl, whole_nil, hcuts⟩
    | false =>
      rcases ih (S.step s c) with h | ⟨before, c', after, rfl, hwhole, hcut⟩
      · exact .inl (whole_cons.mpr ⟨hcuts, h⟩)
      · exact .inr ⟨c :: before, c', after, rfl, whole_cons.mpr ⟨hcuts, hwhole⟩, hcut⟩

theorem pieces_ne_nil (s : σ) (text : List α) : S.pieces s text ≠ [] := by
  induction text generalizing s with
  | nil => exact List.cons_ne_nil _ _
  | cons c text ih =>
    rw [pieces]
    split
    · exact List.cons_ne_nil _ _
    · rw [ne_eq, List.modifyHead_eq_nil_iff]
      exact ih (S.step s c)

theorem pieces_of_not_cuts (h : S.cuts s c = false) (text : List α) :
    S.pieces s (c :: text) = (S.pieces (S.step s c) text).modifyHead (c :: ·) := by
  rw [pieces, if_neg (by simp [h])]

theorem pieces_of_whole (h : S.Whole s text) : S.pieces s text = [text] := by
  induction text generalizing s with
  | nil => rfl
  | cons c text ih =>
    obtain ⟨hcuts, h⟩ := whole_cons.mp h
    rw [pieces_of_not_cuts hcuts, ih h, List.modifyHead_cons]

theorem pieces_append_cons (h : S.Whole s before) (hcut : S.cuts (S.run s before) c = true) (after : List α) :
    S.pieces s (before ++ c :: after) = before :: S.pieces S.start after := by
  induction before generalizing s with
  | nil =>
    rw [run_nil] at hcut
    rw [List.nil_append, pieces, if_pos hcut, S.step_of_cuts hcut]
  | cons first before ih =>
    obtain ⟨hcuts, h⟩ := whole_cons.mp h
    rw [List.cons_append, pieces_of_not_cuts hcuts, ih h hcut, List.modifyHead_cons]

/-- To prove something of the pieces of a text, take them one by one. -/
@[elab_as_elim]
theorem piece_induction {motive : List α → Prop} (text : List α)
    (whole : ∀ text, S.Whole S.start text → motive text)
    (cut : ∀ before c after, S.Whole S.start before → S.cuts (S.run S.start before) c = true → motive after →
      motive (before ++ c :: after)) : motive text := by
  induction hlength : text.length using Nat.strongRecOn generalizing text with
  | _ n ih =>
    rcases whole_or_exists_cut S.start text with h | ⟨before, c, after, rfl, h, hcut⟩
    · exact whole text h
    · refine cut before c after h hcut (ih after.length ?_ after rfl)
      rw [← hlength, List.length_append, List.length_cons]
      omega

/-- Characters at the front of a text that leave the scan where it stands can be left out. -/
theorem modifyHead_dropWhile_pieces {p : α → Bool}
    (h : ∀ c, p c = true → S.cuts s c = false ∧ S.step s c = s) (text : List α) :
    (S.pieces s text).modifyHead (List.dropWhile p) = S.pieces s (text.dropWhile p) := by
  induction text with
  | nil => rfl
  | cons c text ih =>
    cases hc : p c with
    | true =>
      obtain ⟨hcuts, hstep⟩ := h c hc
      rw [pieces_of_not_cuts hcuts, hstep, List.modifyHead_modifyHead, List.dropWhile_cons_of_pos hc, ← ih]
      congr 1
      funext piece
      exact List.dropWhile_cons_of_pos hc
    | false =>
      rw [List.dropWhile_cons_of_neg (by simp [hc])]
      cases hcuts : S.cuts s c with
      | true =>
        rw [pieces, if_pos hcuts]
        rfl
      | false =>
        obtain ⟨piece, more, hmore⟩ := List.exists_cons_of_ne_nil (pieces_ne_nil (S.step s c) text)
        rw [pieces_of_not_cuts hcuts, hmore, List.modifyHead_cons, List.modifyHead_cons,
          List.dropWhile_cons_of_neg (by simp [hc])]

section Separator

variable {sep : α} (hsep : ∀ {s c}, S.cuts s c = true → c = sep)

include hsep

theorem intercalate_pieces (text : List α) : [sep].intercalate (S.pieces S.start text) = text := by
  induction text using piece_induction (S := S) with
  | whole text h => rw [pieces_of_whole h, List.intercalate_singleton]
  | cut before c after h hcut ih =>
    obtain rfl := hsep hcut
    rw [pieces_append_cons h hcut, List.intercalate_cons_of_ne_nil (pieces_ne_nil _ _), ih, List.append_assoc]
    rfl

/-- One scan over the text, without a new start, is at its start before each piece, and finds no cut within it. -/
theorem run_front_pieces {front back : List (List α)} {piece : List α}
    (h : S.pieces S.start text = front ++ piece :: back) :
    S.run S.start (front.flatMap (· ++ [sep])) = S.start ∧ S.Whole S.start piece := by
  induction text using piece_induction (S := S) generalizing front with
  | whole text hwhole =>
    rw [pieces_of_whole hwhole, eq_comm, List.append_eq_singleton_iff] at h
    rcases h with ⟨rfl, heq⟩ | ⟨-, heq⟩
    · obtain ⟨rfl, -⟩ := List.cons.inj heq
      exact ⟨rfl, hwhole⟩
    · cases heq
  | cut before c after hwhole hcut ih =>
    obtain rfl := hsep hcut
    rw [pieces_append_cons hwhole hcut] at h
    cases front with
    | nil =>
      obtain ⟨rfl, -⟩ := List.cons.inj h
      exact ⟨rfl, hwhole⟩
    | cons first front =>
      rw [List.cons_append] at h
      obtain ⟨rfl, hback⟩ := List.cons.inj h
      rw [List.flatMap_cons, run_append, run_of_cuts hcut]
      exact ih hback

end Separator

end Scanner

end Rskrb5.Lib.Scanners
