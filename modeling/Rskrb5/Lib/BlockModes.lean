import Mathlib.Data.List.Basic
import Mathlib.Tactic.Linarith

namespace Rskrb5.Lib.BlockModes

variable {α : Type}

/-- A symbolwise combination that a second application undoes, with a neutral
symbol, as exclusive or on bytes. -/
structure Mask (α : Type) where
  op : α → α → α
  zero : α
  op_op : ∀ a b, op (op a b) b = a
  op_zero : ∀ a, op a zero = a
  zero_op : ∀ a, op zero a = a
  op_self : ∀ a, op a a = zero

namespace Mask

variable (M : Mask α)

def apply (xs ys : List α) : List α := List.zipWith M.op xs ys

def zeros (n : ℕ) : List α := List.replicate n M.zero

@[simp] theorem length_zeros (n : ℕ) : (M.zeros n).length = n := List.length_replicate

@[simp] theorem length_apply (xs ys : List α) :
    (M.apply xs ys).length = min xs.length ys.length := List.length_zipWith

theorem drop_apply (n : ℕ) (xs ys : List α) :
    (M.apply xs ys).drop n = M.apply (xs.drop n) (ys.drop n) := List.drop_zipWith

theorem apply_cancel (xs ys : List α) (h : xs.length ≤ ys.length) :
    M.apply (M.apply xs ys) ys = xs := by
  induction xs generalizing ys with
  | nil => rfl
  | cons x xs ih =>
    cases ys with
    | nil => simp at h
    | cons y ys =>
      have ht := ih ys (by simpa using h)
      simp only [apply, List.zipWith_cons_cons, M.op_op] at ht ⊢
      rw [ht]

theorem apply_zeros (xs : List α) (n : ℕ) (h : xs.length ≤ n) : M.apply xs (M.zeros n) = xs := by
  induction xs generalizing n with
  | nil => rfl
  | cons x xs ih =>
    cases n with
    | zero => simp at h
    | succ n =>
      have ht := ih n (by simpa using h)
      simp only [apply, zeros, List.replicate_succ, List.zipWith_cons_cons, M.op_zero] at ht ⊢
      rw [ht]

theorem zeros_apply (ys : List α) (n : ℕ) (h : ys.length ≤ n) : M.apply (M.zeros n) ys = ys := by
  induction ys generalizing n with
  | nil => simp [apply]
  | cons y ys ih =>
    cases n with
    | zero => simp at h
    | succ n =>
      have ht := ih n (by simpa using h)
      simp only [apply, zeros, List.replicate_succ, List.zipWith_cons_cons, M.zero_op] at ht ⊢
      rw [ht]

theorem apply_self (xs : List α) : M.apply xs xs = M.zeros xs.length := by
  induction xs with
  | nil => rfl
  | cons x xs ih =>
    simp only [apply, zeros, List.zipWith_cons_cons, M.op_self, List.length_cons,
      List.replicate_succ] at ih ⊢
    rw [ih]

end Mask

def chunksExact (n : ℕ) (xs : List α) : List (List α) :=
  (List.range (xs.length / n)).map fun i ↦ (xs.drop (i * n)).take n

theorem chunksExact_nil (n : ℕ) : chunksExact n ([] : List α) = [] := by simp [chunksExact]

theorem chunksExact_append {n : ℕ} (hn : 0 < n) {b : List α} (hb : b.length = n) (xs : List α) :
    chunksExact n (b ++ xs) = b :: chunksExact n xs := by
  have hq : (b ++ xs).length / n = xs.length / n + 1 := by
    rw [List.length_append, hb, Nat.add_comm, Nat.add_div_right _ hn]
  simp only [chunksExact, hq, List.range_succ_eq_map, List.map_cons, List.map_map, Nat.zero_mul,
    List.drop_zero]
  congr 1
  · rw [← hb, List.take_left]
  · apply List.map_congr_left
    intro i _
    have hd : (i + 1) * n = b.length + i * n := by rw [hb, Nat.add_mul, Nat.one_mul, Nat.add_comm]
    simp only [Function.comp_apply, Nat.succ_eq_add_one, hd, ← List.drop_drop, List.drop_left]

theorem block_induction {n : ℕ} {motive : (xs : List α) → n ∣ xs.length → Prop}
    (nil : motive [] (Nat.dvd_zero n))
    (block : ∀ (b xs : List α) (_ : b.length = n) (h : n ∣ xs.length) (h' : n ∣ (b ++ xs).length),
      motive xs h → motive (b ++ xs) h')
    (xs : List α) (h : n ∣ xs.length) : motive xs h := by
  obtain ⟨q, hq⟩ := h
  induction q generalizing xs with
  | zero =>
    obtain rfl : xs = [] := List.eq_nil_of_length_eq_zero (by simpa using hq)
    exact nil
  | succ q ih =>
    rw [Nat.mul_succ] at hq
    have hd : (xs.drop n).length = n * q := by rw [List.length_drop]; omega
    have ht : (xs.take n).length = n := by rw [List.length_take]; omega
    have he := List.take_append_drop n xs
    have hr := block (xs.take n) (xs.drop n) ht ⟨q, hd⟩ (by rw [he]; exact ⟨q + 1, by omega⟩) (ih _ hd)
    simp only [he] at hr
    exact hr

theorem flatten_chunksExact {n : ℕ} (hn : 0 < n) (xs : List α) (h : n ∣ xs.length) :
    (chunksExact n xs).flatten = xs := by
  induction xs, h using block_induction with
  | nil => rw [chunksExact_nil, List.flatten_nil]
  | block b xs hb _ _ ih => rw [chunksExact_append hn hb, List.flatten_cons, ih]

theorem length_of_mem_chunksExact {n : ℕ} {xs b : List α} (hb : b ∈ chunksExact n xs) : b.length = n := by
  obtain ⟨i, hi, rfl⟩ := List.mem_map.mp hb
  have hle := Nat.mul_le_of_le_div n (i + 1) xs.length (List.mem_range.mp hi)
  rw [Nat.succ_mul] at hle
  rw [List.length_take, List.length_drop]
  omega

theorem chunksExact_flatMap {β : Type} {n : ℕ} (hn : 0 < n) {f : β → List α} (bs : List β)
    (hf : ∀ b ∈ bs, (f b).length = n) : chunksExact n (bs.flatMap f) = bs.map f := by
  induction bs with
  | nil => exact chunksExact_nil n
  | cons b bs ih =>
    have hrest := ih fun c hc ↦ hf c (List.mem_cons_of_mem b hc)
    rw [List.flatMap_cons, chunksExact_append hn (hf b List.mem_cons_self), hrest, List.map_cons]

/-- A permutation of the strings of one block length, given with its inverse. -/
structure BlockPerm (α : Type) (n : ℕ) where
  enc : List α → List α
  dec : List α → List α
  length_enc : ∀ b, b.length = n → (enc b).length = n
  length_dec : ∀ b, b.length = n → (dec b).length = n
  dec_enc : ∀ b, b.length = n → dec (enc b) = b
  enc_dec : ∀ b, b.length = n → enc (dec b) = b

section Chaining

variable (M : Mask α) {n : ℕ}

/-- The chaining loop of an encryption: each block is masked with the previous
output block. Returns the last output block and the output. -/
def cbcEncrypt (enc : List α → List α) (iv : List α) (chunks : List (List α)) : List α × List α :=
  chunks.foldl (fun s chunk ↦ (enc (M.apply chunk s.1), s.2 ++ enc (M.apply chunk s.1))) (iv, [])

/-- The chaining loop of a decryption: each output block is unmasked with the
previous input block. -/
def cbcDecrypt (dec : List α → List α) (iv : List α) (chunks : List (List α)) : List α × List α :=
  chunks.foldl (fun s chunk ↦ (chunk, s.2 ++ M.apply (dec chunk) s.1)) (iv, [])

theorem cbcEncrypt_acc (enc : List α → List α) (iv out : List α) (chunks : List (List α)) :
    chunks.foldl (fun s chunk ↦ (enc (M.apply chunk s.1), s.2 ++ enc (M.apply chunk s.1))) (iv, out) =
      ((cbcEncrypt M enc iv chunks).1, out ++ (cbcEncrypt M enc iv chunks).2) := by
  induction chunks generalizing iv out with
  | nil => simp [cbcEncrypt]
  | cons chunk chunks ih =>
    simp only [cbcEncrypt, List.foldl_cons]
    rw [ih _ (out ++ _), ih _ ([] ++ _)]
    simp

theorem cbcDecrypt_acc (dec : List α → List α) (iv out : List α) (chunks : List (List α)) :
    chunks.foldl (fun s chunk ↦ (chunk, s.2 ++ M.apply (dec chunk) s.1)) (iv, out) =
      ((cbcDecrypt M dec iv chunks).1, out ++ (cbcDecrypt M dec iv chunks).2) := by
  induction chunks generalizing iv out with
  | nil => simp [cbcDecrypt]
  | cons chunk chunks ih =>
    simp only [cbcDecrypt, List.foldl_cons]
    rw [ih _ (out ++ _), ih _ ([] ++ _)]
    simp

@[simp] theorem cbcEncrypt_nil (enc : List α → List α) (iv : List α) :
    cbcEncrypt M enc iv [] = (iv, []) := rfl

@[simp] theorem cbcDecrypt_nil (dec : List α → List α) (iv : List α) :
    cbcDecrypt M dec iv [] = (iv, []) := rfl

theorem cbcEncrypt_cons (enc : List α → List α) (iv chunk : List α) (chunks : List (List α)) :
    (cbcEncrypt M enc iv (chunk :: chunks)).2 = enc (M.apply chunk iv) ++
      (cbcEncrypt M enc (enc (M.apply chunk iv)) chunks).2 := by
  rw [cbcEncrypt, List.foldl_cons, cbcEncrypt_acc]
  simp

theorem cbcDecrypt_cons (dec : List α → List α) (iv chunk : List α) (chunks : List (List α)) :
    (cbcDecrypt M dec iv (chunk :: chunks)).2 =
      M.apply (dec chunk) iv ++ (cbcDecrypt M dec chunk chunks).2 := by
  rw [cbcDecrypt, List.foldl_cons, cbcDecrypt_acc]
  simp

variable (B : BlockPerm α n)

theorem length_cbcEncrypt (hn : 0 < n) {iv : List α} (hiv : iv.length = n) (xs : List α)
    (h : n ∣ xs.length) : (cbcEncrypt M B.enc iv (chunksExact n xs)).2.length = xs.length := by
  induction xs, h using block_induction generalizing iv with
  | nil => simp [chunksExact_nil]
  | block b xs hb _ _ ih =>
    have hc := B.length_enc (M.apply b iv) (by simp [hb, hiv])
    rw [chunksExact_append hn hb, cbcEncrypt_cons, List.length_append, List.length_append, hc, hb,
      ih hc]

theorem length_cbcDecrypt (hn : 0 < n) {iv : List α} (hiv : iv.length = n) (xs : List α)
    (h : n ∣ xs.length) : (cbcDecrypt M B.dec iv (chunksExact n xs)).2.length = xs.length := by
  induction xs, h using block_induction generalizing iv with
  | nil => simp [chunksExact_nil]
  | block b xs hb _ _ ih =>
    have hp := B.length_dec b hb
    rw [chunksExact_append hn hb, cbcDecrypt_cons, List.length_append, List.length_append, ih hb]
    simp [hp, hb, hiv]

theorem cbcDecrypt_cbcEncrypt (hn : 0 < n) {iv : List α} (hiv : iv.length = n) (xs : List α)
    (h : n ∣ xs.length) :
    (cbcDecrypt M B.dec iv (chunksExact n (cbcEncrypt M B.enc iv (chunksExact n xs)).2)).2 = xs := by
  induction xs, h using block_induction generalizing iv with
  | nil => simp [chunksExact_nil]
  | block b xs hb _ _ ih =>
    have hm : (M.apply b iv).length = n := by simp [hb, hiv]
    have hc := B.length_enc _ hm
    rw [chunksExact_append hn hb, cbcEncrypt_cons, chunksExact_append hn hc, cbcDecrypt_cons, ih hc,
      B.dec_enc _ hm, M.apply_cancel b iv (by omega)]

theorem cbcEncrypt_cbcDecrypt (hn : 0 < n) {iv : List α} (hiv : iv.length = n) (xs : List α)
    (h : n ∣ xs.length) :
    (cbcEncrypt M B.enc iv (chunksExact n (cbcDecrypt M B.dec iv (chunksExact n xs)).2)).2 = xs := by
  induction xs, h using block_induction generalizing iv with
  | nil => simp [chunksExact_nil]
  | block b xs hb _ _ ih =>
    have hp := B.length_dec b hb
    have hm : (M.apply (B.dec b) iv).length = n := by simp [hp, hiv]
    rw [chunksExact_append hn hb, cbcDecrypt_cons, chunksExact_append hn hm, cbcEncrypt_cons,
      M.apply_cancel _ iv (by omega), B.enc_dec b hb, ih hb]

end Chaining

section Stealing

variable (M : Mask α) {n : ℕ}

/-- The last two blocks of a string whose final block is short: the short
block is padded, encrypted after the full one, and sent first; the full one
gives up the symbols that the padding took. -/
def stealEncrypt (n : ℕ) (enc : List α → List α) (iv full short : List α) : List α :=
  let c := enc (M.apply full iv)
  enc (M.apply (short ++ M.zeros (n - short.length)) c) ++ c.take short.length

/-- Undo `stealEncrypt`: the symbols missing from the second part are read off
the decryption of the first. -/
def stealDecrypt (dec : List α → List α) (iv first second : List α) : List α :=
  let completed := second ++ (dec first).drop second.length
  M.apply (dec completed) iv ++ (M.apply (dec first) completed).take second.length

variable (B : BlockPerm α n)

theorem length_stealEncrypt {iv full short : List α} (hiv : iv.length = n) (hf : full.length = n)
    (hs : short.length ≤ n) :
    (stealEncrypt M n B.enc iv full short).length = n + short.length := by
  have hc := B.length_enc (M.apply full iv) (by simp [hf, hiv])
  have hl := B.length_enc (M.apply (short ++ M.zeros (n - short.length)) (B.enc (M.apply full iv)))
    (by simp [hc]; omega)
  simp only [stealEncrypt, List.length_append, hl, List.length_take, hc]
  omega

theorem length_stealDecrypt {iv first second : List α} (hiv : iv.length = n)
    (hf : first.length = n) (hs : second.length ≤ n) :
    (stealDecrypt M B.dec iv first second).length = n + second.length := by
  have hd := B.length_dec first hf
  have hw : (second ++ (B.dec first).drop second.length).length = n := by simp [hd]; omega
  have hw' := B.length_dec _ hw
  simp only [stealDecrypt, List.length_append, List.length_take, Mask.length_apply, hw', hiv, hd] at *
  omega

theorem stealDecrypt_stealEncrypt {iv full short : List α} (hiv : iv.length = n)
    (hf : full.length = n) (hs : short.length ≤ n) :
    stealDecrypt M B.dec iv ((stealEncrypt M n B.enc iv full short).take n)
      ((stealEncrypt M n B.enc iv full short).drop n) = full ++ short := by
  have hm : (M.apply full iv).length = n := by simp [hf, hiv]
  have hc := B.length_enc _ hm
  set c := B.enc (M.apply full iv) with hcd
  have hpad : (short ++ M.zeros (n - short.length)).length = n := by simp; omega
  have hml : (M.apply (short ++ M.zeros (n - short.length)) c).length = n := by
    simp [hpad, hc]
  have hl := B.length_enc _ hml
  have htake : (stealEncrypt M n B.enc iv full short).take n =
      B.enc (M.apply (short ++ M.zeros (n - short.length)) c) := by
    rw [stealEncrypt, ← hcd, List.take_append_of_le_length (by omega), List.take_of_length_le (by omega)]
  have hdrop : (stealEncrypt M n B.enc iv full short).drop n = c.take short.length := by
    rw [stealEncrypt, ← hcd, List.drop_append_of_le_length (by omega), List.drop_of_length_le (by omega),
      List.nil_append]
  have hlen : (c.take short.length).length = short.length := by rw [List.length_take]; omega
  -- the padding symbols are neutral, so the stolen symbols of `c` reappear behind them
  have hrest : (M.apply (short ++ M.zeros (n - short.length)) c).drop short.length =
      c.drop short.length := by
    rw [M.drop_apply, List.drop_left]
    exact M.zeros_apply _ _ (by rw [List.length_drop]; omega)
  rw [htake, hdrop]
  simp only [stealDecrypt, B.dec_enc _ hml, hlen, hrest, List.take_append_drop]
  rw [hcd, B.dec_enc _ hm, M.apply_cancel _ _ (by omega), ← hcd, M.apply_cancel _ _ (by omega),
    List.take_left]

theorem stealEncrypt_stealDecrypt {iv first second : List α} (hiv : iv.length = n)
    (hf : first.length = n) (hs : second.length ≤ n) :
    stealEncrypt M n B.enc iv ((stealDecrypt M B.dec iv first second).take n)
      ((stealDecrypt M B.dec iv first second).drop n) = first ++ second := by
  have hd := B.length_dec first hf
  set z := B.dec first with hz
  have hw : (second ++ z.drop second.length).length = n := by simp [hd]; omega
  set w := second ++ z.drop second.length with hwd
  have hdw := B.length_dec w hw
  have hml : (M.apply (B.dec w) iv).length = n := by simp [hdw, hiv]
  have htake : (stealDecrypt M B.dec iv first second).take n = M.apply (B.dec w) iv := by
    rw [stealDecrypt, ← hz, ← hwd, List.take_append_of_le_length (by omega),
      List.take_of_length_le (by omega)]
  have hdrop : (stealDecrypt M B.dec iv first second).drop n = (M.apply z w).take second.length := by
    rw [stealDecrypt, ← hz, ← hwd, List.drop_append_of_le_length (by omega),
      List.drop_of_length_le (by omega), List.nil_append]
  have hlen : ((M.apply z w).take second.length).length = second.length := by
    simp [hd, hw]; omega
  -- behind the short part both blocks carry the same symbols, so their mask is zero
  have hrest : (M.apply z w).drop second.length = M.zeros (n - second.length) := by
    rw [M.drop_apply, hwd, List.drop_left, M.apply_self, List.length_drop, hd]
  rw [htake, hdrop]
  simp only [stealEncrypt, hlen, ← hrest, List.take_append_drop]
  rw [M.apply_cancel _ _ (by omega), B.enc_dec w hw, M.apply_cancel _ _ (by omega), hz,
    B.enc_dec first hf, hwd, List.take_left]

end Stealing

section Swapping

def swapAt [Inhabited α] (xs : List α) (i j : ℕ) : List α := (xs.set i xs[j]!).set j xs[i]!

theorem swapAt_blocks [Inhabited α] (pre mid post : List α) (x y : α) :
    swapAt (pre ++ x :: mid ++ y :: post) pre.length (pre.length + mid.length + 1) =
      pre ++ y :: mid ++ x :: post := by
  have hi : (pre ++ x :: mid ++ y :: post)[pre.length]! = x := by simp
  have hj : (pre ++ x :: mid ++ y :: post)[pre.length + mid.length + 1]! = y := by
    have hl : pre.length + mid.length + 1 = (pre ++ x :: mid).length := by
      simp only [List.length_append, List.length_cons]; omega
    rw [hl]
    simp
  rw [swapAt, hi, hj]
  have hset : (pre ++ x :: mid ++ y :: post).set pre.length y = pre ++ y :: mid ++ y :: post := by
    simp
  have hl : pre.length + mid.length + 1 = (pre ++ y :: mid).length := by
    simp only [List.length_append, List.length_cons]; omega
  rw [hset, hl, List.set_append_right _ _ (Nat.le_refl _)]
  simp

theorem foldl_swapAt [Inhabited α] (pre a b : List α) (n : ℕ) (ha : a.length = n)
    (hb : b.length = n) :
    (List.range n).foldl (fun xs i ↦ swapAt xs (pre.length + i) (pre.length + n + i))
      (pre ++ a ++ b) = pre ++ b ++ a := by
  have step : ∀ k, k ≤ n →
      (List.range k).foldl (fun xs i ↦ swapAt xs (pre.length + i) (pre.length + n + i))
        (pre ++ a ++ b) = pre ++ (b.take k ++ a.drop k) ++ (a.take k ++ b.drop k) := by
    intro k
    induction k with
    | zero => simp
    | succ k ih =>
      intro hk
      rw [List.range_succ, List.foldl_append, ih (by omega), List.foldl_cons, List.foldl_nil]
      have hak : k < a.length := by omega
      have hbk : k < b.length := by omega
      have hs := swapAt_blocks (pre ++ b.take k) (a.drop (k + 1) ++ a.take k) (b.drop (k + 1))
        a[k] b[k]
      have h1 : (pre ++ b.take k).length = pre.length + k := by
        rw [List.length_append, List.length_take]; omega
      have h2 : (pre ++ b.take k).length + (a.drop (k + 1) ++ a.take k).length + 1 =
          pre.length + n + k := by
        rw [h1, List.length_append, List.length_take, List.length_drop]; omega
      rw [h1] at hs
      rw [h1] at h2
      rw [h2] at hs
      rw [List.drop_eq_getElem_cons hak, List.drop_eq_getElem_cons hbk,
        List.take_succ_eq_append_getElem hak, List.take_succ_eq_append_getElem hbk]
      simpa only [List.append_assoc, List.cons_append, List.nil_append] using hs
  rw [step n (Nat.le_refl n), List.take_of_length_le hb.le, List.take_of_length_le ha.le,
    List.drop_of_length_le ha.le, List.drop_of_length_le hb.le, List.append_nil, List.append_nil]

end Swapping

end Rskrb5.Lib.BlockModes
