import Rskrb5.Lib.Slices
import Rskrb5.Spnego.Fields

namespace Rskrb5.Spnego.Indexed

open Lib.Results Lib.Readers Lib.Programs Lib.Slices

/-- The reader of the source, with the offset that it keeps into its bytes. -/
abbrev DerReader := IndexedReader UInt8 Error

def DerReader.new (bytes : Slice UInt8) : Position UInt8 := ⟨bytes, 0⟩

/-- A length is put together in a machine word. -/
def shiftIn (length : UInt64) (byte : UInt8) : UInt64 := (length <<< 8) ||| byte.toUInt64

def readLen : DerReader ℕ := do
  let first ← nextItem .truncatedDer
  if first &&& 0x80 = 0 then return first.toNat
  else
    let count := (first &&& 0x7f).toNat
    check (count ≠ 0) (.failed .indefiniteLength)
    check (count ≤ 8) (.failed .lengthExceedsInput)
    let octets ← nextItems add count .lengthExceedsInput
    return (octets.foldl shiftIn 0).toNat

def readTlv : DerReader Tlv := do
  let tag ← nextItem .truncatedDer
  check (tag &&& 0x1f ≠ 0x1f) (.failed .highTagNumber)
  let length ← readLen
  let value ← nextItems (checkedAdd .lengthExceedsInput) length .lengthExceedsInput
  return { tag, value }

def readBytes (len : ℕ) : DerReader Bytes := nextItems (checkedAdd .truncatedDer) len .truncatedDer

/-- A turn of a loop over fields, whose body works a field into what has been seen so far: that of a
NegTokenInit, of its list of mechanisms or of a NegTokenResp. -/
def fieldTurn {σ : Type} (set : σ → Tlv → Except Error σ) (fields : σ) : DerReader (ForInStep σ) := do
  let field ← readTlv
  match set fields field with
  | .ok fields => return .yield fields
  | .error e => throw (.failed e)

section Follows

/-- No bit of a length is shifted out. -/
theorem toNat_shiftIn {length : UInt64} {n : ℕ} (h : length.toNat < 256 ^ n) (hn : n < 8) (byte : UInt8) :
    (shiftIn length byte).toNat = length.toNat * 256 + byte.toNat := by
  have hbyte := byte.toNat_lt
  have hpow : 256 ^ n * 256 ≤ 256 ^ 8 := by
    rw [← pow_succ]
    exact Nat.pow_le_pow_right (by decide) hn
  have hfits : length.toNat * 256 < 2 ^ 64 := by
    have hlarge : 256 ^ 8 = 2 ^ 64 := by norm_num
    rw [← hlarge]
    exact (Nat.mul_lt_mul_of_pos_right h (by decide)).trans_le hpow
  have hshift : (length <<< 8).toNat = 2 ^ 8 * length.toNat := by
    rw [UInt64.toNat_shiftLeft]
    change length.toNat <<< 8 % 2 ^ 64 = _
    rw [Nat.shiftLeft_eq, Nat.mod_eq_of_lt (by omega), Nat.mul_comm]
  rw [shiftIn, UInt64.toNat_or, hshift, UInt8.toNat_toUInt64, ← Nat.two_pow_add_eq_or_of_lt (by omega)]
  omega

theorem toNat_foldl_shiftIn {octets : Bytes} {length : UInt64} {n : ℕ} (h : length.toNat < 256 ^ n)
    (hn : n + octets.length ≤ 8) :
    (octets.foldl shiftIn length).toNat = length.toNat * 256 ^ octets.length + beNat octets := by
  induction octets generalizing length n with
  | nil => simp [beNat]
  | cons byte octets ih =>
    rw [List.length_cons] at hn
    have hbyte := byte.toNat_lt
    have hstep := toNat_shiftIn h (by omega) byte
    have hlt : (shiftIn length byte).toNat < 256 ^ (n + 1) := by
      rw [hstep, pow_succ]
      omega
    rw [List.foldl_cons, ih hlt (by omega), hstep, beNat_cons, List.length_cons, pow_succ]
    ring

theorem follows_readLen : Follows readLen Spnego.readLen := by
  refine (Follows.nextItem _ 0).bind fun first ↦ ?_
  split
  · exact .pure _
  · refine .check fun _ ↦ .check fun hcount ↦ ?_
    have hoctets : Yields (takeItems (fun _ _ _ ↦ Error.lengthExceedsInput) (first &&& 0x7f).toNat)
        fun octets : Bytes ↦ octets.length ≤ 8 :=
      .of_parses ((Parses.takeItems _ _).mono fun octets used h ↦ by rw [h.1, h.2]; exact hcount)
    refine (Follows.nextItems_add (by omega) _).bind_of_yields hoctets fun octets hlen ↦ ?_
    have hzero : (0 : UInt64).toNat < 256 ^ 0 := by decide
    rw [toNat_foldl_shiftIn hzero (by simpa using hlen), UInt64.toNat_zero, Nat.zero_mul, Nat.zero_add]
    exact .pure _

theorem follows_readTlv : Follows readTlv Spnego.readTlv := by
  refine (Follows.nextItem _ 0).bind fun tag ↦ .check fun _ ↦ follows_readLen.bind fun length ↦ ?_
  exact (Follows.nextItems_checkedAdd length _).bind fun value ↦ .pure _

theorem follows_readBytes (len : ℕ) :
    Follows (readBytes len) (takeItems (fun _ _ _ ↦ Error.truncatedDer) len) :=
  Follows.nextItems_checkedAdd len _

theorem follows_fieldTurn {σ : Type} (set : σ → Tlv → Except Error σ) (fields : σ) :
    Follows (fieldTurn set fields) (Spnego.fieldTurn set fields) := by
  refine follows_readTlv.bind fun field ↦ fun p hp ↦ ?_
  cases set fields field with
  | ok fields' => exact ⟨.refl hp, rfl⟩
  | error e => exact ⟨.refl hp, rfl⟩

end Follows

section Calls

/-- What may be called of a reader that moves its offset. -/
inductive Call
  | readTlv
  | readBytes (len : ℕ)
  | readLen

def Call.run : Call → DerReader Unit
  | readTlv => do
    let _ ← Indexed.readTlv
    return ()
  | readBytes len => do
    let _ ← Indexed.readBytes len
    return ()
  | readLen => do
    let _ ← Indexed.readLen
    return ()

/-- Where a reader stands after some calls, whether they return or fail. -/
def after (calls : List Call) (p : Position UInt8) : Position UInt8 :=
  calls.foldl (fun p call ↦ (call.run.exec p).2) p

theorem Call.onward (call : Call) {p : Position UInt8} (hp : p.Within) :
    (call.run.exec p).1 ≠ .error .panicked ∧ Onward p (call.run.exec p).2 := by
  cases call with
  | readTlv => exact (follows_readTlv.bind fun _ ↦ .pure ()).onward hp
  | readBytes len => exact ((follows_readBytes len).bind fun _ ↦ .pure ()).onward hp
  | readLen => exact (follows_readLen.bind fun _ ↦ .pure ()).onward hp

theorem onward_after (calls : List Call) {p : Position UInt8} (hp : p.Within) : Onward p (after calls p) := by
  induction calls generalizing p with
  | nil => exact .refl hp
  | cons call calls ih =>
    have hcall := (call.onward hp).2
    exact hcall.trans (ih hcall.within)

theorem within_new (input : Slice UInt8) : (DerReader.new input).Within := Nat.zero_le _

theorem readTlv_advances {p p' : Position UInt8} {tlv : Tlv} (hp : p.Within)
    (h : readTlv.exec p = (.ok tlv, p')) : p.offset < p'.offset := by
  obtain ⟨used, -, hoffset, hne, -⟩ := parses_readTlv _ _ _ (follows_readTlv.run_of_ok hp h)
  have hpos := List.length_pos_iff.mpr hne
  change p'.offset = p.offset + used.length at hoffset
  omega

/-- A loop over fields ends, and as the loop of the reader without an index does. -/
theorem exists_ends_fields {σ : Type} (set : σ → Tlv → Except Error σ) (fields : σ) {p : Position UInt8}
    (hp : p.Within) : ∃ result, Ends (fieldTurn set) p fields result ∧
      Agrees p ((loop hasRest (Spnego.fieldTurn set) fields).run p.cursor) result :=
  exists_ends (follows_fieldTurn set) parses_fieldTurn fields hp

/-- Reading inverts writing and leaves what stands behind. Whatever the bytes, and whatever has been
called before, the offset stays within them and never goes back, no index is out of range and no sum
overflows. A value that is read moves the offset, so that every loop over fields ends. -/
theorem derReader_exact :
    (∀ (tag : UInt8) (value rest : Bytes) (input : Slice UInt8), tag &&& 0x1f ≠ 0x1f →
      input.items = encodeTlv tag value ++ rest → ∃ p, readTlv.exec (DerReader.new input) = (.ok ⟨tag, value⟩, p) ∧
        remaining.exec p = ((.ok rest : Except (Stop Error) Bytes), p)) ∧
    (∀ (input : Slice UInt8) (calls : List Call) (call : Call),
      (after calls (DerReader.new input)).slice = input ∧ (after calls (DerReader.new input)).Within ∧
        (call.run.exec (after calls (DerReader.new input))).1 ≠ .error .panicked) ∧
    (∀ p : Position UInt8, p.Within → ∀ call : Call,
      (call.run.exec p).1 ≠ .error .panicked ∧ Onward p (call.run.exec p).2) ∧
    (∀ (p p' : Position UInt8) (tlv : Tlv), p.Within → readTlv.exec p = (.ok tlv, p') → p.offset < p'.offset) ∧
    ∀ (σ : Type) (set : σ → Tlv → Except Error σ) (fields : σ) (p : Position UInt8), p.Within →
      ∃ result, Ends (fieldTurn set) p fields result ∧ result.1 ≠ .error .panicked := by
  refine ⟨fun tag value rest input htag hinput ↦ ?_, fun input calls call ↦ ?_, fun p hp call ↦ call.onward hp,
    fun p p' tlv hp h ↦ readTlv_advances hp h, fun σ set fields p hp ↦ ?_⟩
  · have hlength : value.length < 2 ^ 64 := by
      have hlt := input.length_lt
      rw [hinput, List.length_append] at hlt
      have hwritten : (encodeTlv tag value).length < 2 ^ 64 := by omega
      exact lt_of_encodeTlv hwritten
    have hread := follows_readTlv.exec_of_reads (reads_readTlv htag hlength) (within_new input) hinput
    have hend := (follows_readTlv.onward (within_new input)).2.within
    rw [hread] at hend
    have hrest : (input.items.drop (0 + (encodeTlv tag value).length)) = rest := by
      rw [hinput, Nat.zero_add, List.drop_left]
    refine ⟨_, hread, (exec_remaining hend).trans ?_⟩
    rw [← hrest]
    rfl
  · have honward := onward_after calls (within_new input)
    exact ⟨honward.slice, honward.within, (call.onward honward.within).1⟩
  · obtain ⟨result, hends, hagrees⟩ := exists_ends_fields set fields hp
    exact ⟨result, hends, hagrees.ne_panicked⟩

end Calls

end Rskrb5.Spnego.Indexed
