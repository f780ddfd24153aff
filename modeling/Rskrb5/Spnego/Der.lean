import Rskrb5.Bytes
import Rskrb5.Lib.Readers

namespace Rskrb5.Spnego

open Lib.Results Lib.Readers

def validArcs (arcs : List UInt32) : Bool :=
  match arcs with
  | first :: second :: _ => first ≤ 2 ∧ (first < 2 → second < 40)
  | _ => false

/-- The arcs are private to the source's type, and no constructor of it leaves them unchecked. -/
structure ObjectIdentifier where
  arcs : List UInt32
  valid : validArcs arcs = true
  deriving DecidableEq

namespace ObjectIdentifier

/-- The number that the first two arcs share in an encoding. -/
def leading (oid : ObjectIdentifier) : ℕ :=
  match oid.arcs with
  | first :: second :: _ => first.toNat * 40 + second.toNat
  | _ => 0

def krb5 : ObjectIdentifier := ⟨[1, 2, 840, 113554, 1, 2, 2], by decide⟩
def spnego : ObjectIdentifier := ⟨[1, 3, 6, 1, 5, 5, 2], by decide⟩

end ObjectIdentifier

inductive Error
  | emptyInput
  | truncatedDer
  | highTagNumber
  | indefiniteLength
  | lengthExceedsInput
  | unexpectedTag (expected actual : UInt8)
  | trailingData
  | invalidOid
  | invalidOidEncoding
  | unexpectedSpnegoOid (oid : ObjectIdentifier)
  | unsupportedMechanism (oid : ObjectIdentifier)
  | unknownKrb5TokenId (actual : Bytes)
  | missingKerberosMessage
  | invalidInteger
  | invalidNegState (actual : UInt32)
  | missingMechTypes
  | wrongNegotiationToken (expected actual : String)
  | invalidNegotiateHeader
  | base64 (message : String)
  deriving DecidableEq

def tagSequence : UInt8 := 0x30
def tagObjectIdentifier : UInt8 := 0x06
def tagOctetString : UInt8 := 0x04
def tagBitString : UInt8 := 0x03
def tagEnumerated : UInt8 := 0x0a
def tagApplication0 : UInt8 := 0x60
def tagContext0 : UInt8 := 0xa0
def tagContext1 : UInt8 := 0xa1
def tagContext2 : UInt8 := 0xa2
def tagContext3 : UInt8 := 0xa3

structure Tlv where
  tag : UInt8
  value : Bytes
  deriving DecidableEq

abbrev DerReader := Reader UInt8 Error

section Reader

def readByte (e : Error) : DerReader UInt8 := do
  let raw ← takeItems (fun _ _ _ ↦ e) 1
  return raw.getD 0 0

def readLen : DerReader ℕ := do
  let first ← readByte .truncatedDer
  if first &&& 0x80 = 0 then return first.toNat
  else
    let count := (first &&& 0x7f).toNat
    ensure (count ≠ 0) Error.indefiniteLength
    ensure (count ≤ 8) Error.lengthExceedsInput
    let octets ← takeItems (fun _ _ _ ↦ Error.lengthExceedsInput) count
    return beNat octets

/-- The end of a value is compared with the end of the input, which no sum that overflows reaches. -/
def readTlv : DerReader Tlv := do
  let tag ← readByte .truncatedDer
  ensure (tag &&& 0x1f ≠ 0x1f) Error.highTagNumber
  let length ← readLen
  let value ← takeItems (fun _ _ _ ↦ Error.lengthExceedsInput) length
  return { tag, value }

/-- A value with nothing behind it. -/
def readWhole (bytes : Bytes) : Except Error Tlv := do
  let (tlv, c) ← readInput readTlv bytes
  ensure (c.rest = []) .trailingData
  return tlv

def expectTag (tlv : Tlv) (expected : UInt8) : Except Error Unit :=
  ensure (tlv.tag = expected) (.unexpectedTag expected tlv.tag)

def readSingleTlv (bytes : Bytes) (expectedTag : UInt8) : Except Error Tlv := do
  let tlv ← readWhole bytes
  expectTag tlv expectedTag
  return tlv

end Reader

section Oids

def fromArcs (arcs : List UInt32) : Except Error ObjectIdentifier :=
  if h : validArcs arcs = true then .ok ⟨arcs, h⟩ else .error .invalidOid

/-- The bits that a shift moves out of an arc are lost. -/
def readArcTurn (arc : UInt32) : DerReader (ForInStep UInt32) := do
  let byte ← readByte .invalidOidEncoding
  let arc := (arc <<< 7) ||| (byte &&& 0x7f).toUInt32
  return if byte &&& 0x80 = 0 then .done arc else .yield arc

def readArc : DerReader UInt32 := loop (fun _ ↦ true) readArcTurn 0

def decodeOidValue (value : Bytes) : Except Error ObjectIdentifier :=
  match value with
  | [] => .error .invalidOidEncoding
  | first :: rest => do
    let (arcs, _) ← readInput (untilEnd readArc) rest
    fromArcs ((first / 40).toUInt32 :: (first % 40).toUInt32 :: arcs)

def decodeOidTlv (tlv : Tlv) : Except Error ObjectIdentifier := do
  expectTag tlv tagObjectIdentifier
  decodeOidValue tlv.value

def readOid : DerReader ObjectIdentifier := do
  let tlv ← readTlv
  decodeOidTlv tlv

end Oids

section Writer

def encodeLen (len : ℕ) : Bytes :=
  if len < 128 then [UInt8.ofNat len]
  else
    let octets := (beBytes 8 len).dropWhile (· = 0)
    (0x80 ||| UInt8.ofNat octets.length) :: octets

def encodeTlv (tag : UInt8) (value : Bytes) : Bytes := tag :: (encodeLen value.length ++ value)

/-- The groups of seven bits above the last one, of which the source's stack holds four. -/
def highGroups : ℕ → UInt32 → Bytes
  | 0, _ => []
  | n + 1, value =>
    if value = 0 then [] else highGroups n (value >>> 7) ++ [(value &&& 0x7f).toUInt8 ||| 0x80]

def encodeBase128 (value : UInt32) : Bytes :=
  highGroups 4 (value >>> 7) ++ [(value &&& 0x7f).toUInt8]

def oidValue (first : UInt32) (arcs : List UInt32) : Bytes :=
  encodeBase128 first ++ arcs.flatMap encodeBase128

/-- The first two arcs share a number, which has to fit 32 bits. -/
def encodeOid (oid : ObjectIdentifier) : Except Error Bytes :=
  match oid.arcs with
  | first :: second :: arcs => do
    let base := first.toNat * 40 + second.toNat
    ensure (base < 2 ^ 32) .invalidOid
    return encodeTlv tagObjectIdentifier (oidValue (UInt32.ofNat base) arcs)
  | _ => .error .invalidOid

def decodeU32 (bytes : Bytes) : Except Error UInt32 := do
  ensure (bytes ≠ [] ∧ bytes.length ≤ 5) .invalidInteger
  ensure (bytes.getD 0 0 &&& 0x80 = 0) .invalidInteger
  return bytes.foldl (fun value byte ↦ (value <<< 8) ||| byte.toUInt32) 0

def encodeU32 (value : UInt32) : Bytes :=
  let nonzero := (beBytes 4 value.toNat).dropWhile (· = 0)
  let encoded := if nonzero = [] then [0] else nonzero
  if encoded.getD 0 0 &&& 0x80 ≠ 0 then 0 :: encoded else encoded

end Writer

section Reads

theorem reads_readByte (e : Error) (byte : UInt8) : Reads (readByte e) [byte] byte := by
  have h : Reads (takeItems (fun _ _ _ ↦ e) 1) [byte] [byte] := .takeItems _ rfl
  exact h.last (.pure byte)

theorem parses_readByte (e : Error) : Parses (readByte e) fun byte used ↦ used = [byte] := by
  refine (Parses.takeItems _ 1).bind fun raw used hraw ↦ .pure ?_
  obtain ⟨rfl, hlen⟩ := hraw
  obtain ⟨byte, rfl⟩ := List.length_eq_one_iff.mp hlen
  rfl

theorem low_and_high : ∀ n < 128, UInt8.ofNat n &&& 0x80 = 0 := by decide

theorem lt_of_and_high {byte : UInt8} (h : byte &&& 0x80 = 0) : byte.toNat < 128 := by
  have hbits : ∀ n < 256, UInt8.ofNat n &&& 0x80 = 0 → n < 128 := by decide +kernel
  exact hbits byte.toNat byte.toNat_lt (by rwa [UInt8.ofNat_toNat])

theorem octets_of_long {n : ℕ} (h128 : 128 ≤ n) (hlt : n < 2 ^ 64) :
    beNat ((beBytes 8 n).dropWhile (· = 0)) = n ∧ 1 ≤ ((beBytes 8 n).dropWhile (· = 0)).length ∧
      ((beBytes 8 n).dropWhile (· = 0)).length ≤ 8 := by
  have hn : beNat ((beBytes 8 n).dropWhile (· = 0)) = n := by
    rw [beNat_dropWhile_zero, beNat_beBytes, Nat.mod_eq_of_lt (by norm_num; omega)]
  refine ⟨hn, ?_, ?_⟩
  · by_contra h0
    have hnil := List.length_eq_zero_iff.mp (Nat.lt_one_iff.mp (not_le.mp h0))
    rw [hnil] at hn
    simp [beNat] at hn
    omega
  · exact length_dropWhile_zero_le (by rw [beNat_beBytes]; exact Nat.mod_lt _ (by norm_num))

theorem reads_readLen {n : ℕ} (h : n < 2 ^ 64) : Reads readLen (encodeLen n) n := by
  rw [encodeLen]
  split
  · next hlt =>
    refine (reads_readByte _ _).last ?_
    have hnat : (UInt8.ofNat n).toNat = n := by rw [UInt8.toNat_ofNat', Nat.mod_eq_of_lt (by omega)]
    rw [if_pos (low_and_high n hlt), hnat]
    exact .pure n
  · next h128 =>
    obtain ⟨hn, hpos, hle⟩ := octets_of_long (not_lt.mp h128) h
    have hbits : ∀ count, count ≤ 8 → (0x80 ||| UInt8.ofNat count) &&& 0x80 ≠ 0 ∧
        ((0x80 ||| UInt8.ofNat count) &&& 0x7f).toNat = count := by
      decide
    obtain ⟨hlong, hcount⟩ := hbits _ hle
    refine (reads_readByte _ _).bind ?_
    rw [if_neg hlong, hcount]
    refine .skip (.lift (ensure_of (by omega) _)) (.skip (.lift (ensure_of hle _)) ?_)
    refine (Reads.takeItems _ rfl).last ?_
    rw [hn]
    exact .pure n

theorem reads_readTlv {tag : UInt8} {value : Bytes} (ht : tag &&& 0x1f ≠ 0x1f)
    (h : value.length < 2 ^ 64) : Reads readTlv (encodeTlv tag value) ⟨tag, value⟩ := by
  refine (reads_readByte _ tag).bind (.skip (.lift (ensure_of ht _)) ?_)
  exact (reads_readLen h).bind ((Reads.takeItems _ rfl).last (.pure _))

theorem lt_of_encodeTlv {tag : UInt8} {value : Bytes} {n : ℕ} (h : (encodeTlv tag value).length < n) :
    value.length < n := by
  rw [encodeTlv, List.length_cons, List.length_append] at h
  omega

theorem readWhole_encodeTlv {tag : UInt8} {value : Bytes} (ht : tag &&& 0x1f ≠ 0x1f)
    (h : value.length < 2 ^ 64) : readWhole (encodeTlv tag value) = .ok ⟨tag, value⟩ := by
  rw [readWhole, (reads_readTlv ht h).readInput_eq]
  rfl

theorem readSingleTlv_encodeTlv {tag : UInt8} {value : Bytes} (ht : tag &&& 0x1f ≠ 0x1f)
    (h : value.length < 2 ^ 64) : readSingleTlv (encodeTlv tag value) tag = .ok ⟨tag, value⟩ := by
  rw [readSingleTlv, readWhole_encodeTlv ht h, ok_bind, expectTag, ensure_of rfl]
  rfl

theorem toUInt8_and_low (value : UInt32) :
    (value &&& 0x7f).toUInt8 = UInt8.ofNat (value.toNat % 128) := by
  rw [← UInt8.toNat_inj, UInt32.toNat_toUInt8, UInt32.toNat_and, UInt8.toNat_ofNat']
  change (value.toNat &&& (2 ^ 7 - 1)) % 2 ^ 8 = _
  rw [Nat.and_two_pow_sub_one_eq_mod]

theorem shift_or_low (value : UInt32) {low : UInt32} (h : low.toNat = value.toNat % 128) :
    (value >>> 7) <<< 7 ||| low = value := by
  have hlt := value.toNat_lt
  have hshift : ((value >>> 7) <<< 7).toNat = 2 ^ 7 * (value.toNat / 128) := by
    rw [UInt32.toNat_shiftLeft, UInt32.toNat_shiftRight]
    change (value.toNat >>> 7) <<< 7 % 2 ^ 32 = _
    rw [Nat.shiftRight_eq_div_pow, Nat.shiftLeft_eq]
    omega
  rw [← UInt32.toNat_inj, UInt32.toNat_or, hshift, h, ← Nat.two_pow_add_eq_or_of_lt (by omega)]
  omega

theorem toNat_shift_or_lt {arc low : UInt32} {n : ℕ} (harc : arc.toNat < 128 ^ n)
    (hlow : low.toNat < 128) : (arc <<< 7 ||| low).toNat < 128 ^ (n + 1) := by
  have hpow : 128 ^ (n + 1) = 2 ^ (7 * (n + 1)) := by
    rw [pow_mul]
    norm_num
  have hsucc : 128 ^ (n + 1) = 128 ^ n * 128 := pow_succ _ _
  have hshift : (arc <<< 7).toNat ≤ arc.toNat * 128 := by
    rw [UInt32.toNat_shiftLeft]
    change arc.toNat <<< 7 % 2 ^ 32 ≤ _
    rw [Nat.shiftLeft_eq]
    exact Nat.mod_le _ _
  rw [UInt32.toNat_or, hpow]
  refine Nat.or_lt_two_pow ?_ ?_ <;> omega

theorem parses_readArcTurn (arc : UInt32) : Parses (readArcTurn arc) fun x used ↦
    used ≠ [] ∧ ∀ n, arc.toNat < 128 ^ n → x.value.toNat < 128 ^ (n + used.length) := by
  refine (parses_readByte _).bind fun byte used hused ↦ .pure ?_
  subst hused
  refine ⟨by simp, fun n hn ↦ ?_⟩
  have hlow : (byte &&& 0x7f).toUInt32.toNat < 128 := by
    rw [UInt8.toNat_toUInt32, UInt8.toNat_and]
    exact Nat.lt_of_le_of_lt Nat.and_le_right (by decide)
  split <;> exact toNat_shift_or_lt hn hlow

theorem ne_nil_of_readArcTurn (arc : UInt32) :
    Parses (readArcTurn arc) fun _ used ↦ used ≠ [] :=
  (parses_readArcTurn arc).mono fun _ _ h ↦ h.1

theorem reads_readArcTurn_last (value : UInt32) :
    Reads (readArcTurn (value >>> 7)) [(value &&& 0x7f).toUInt8] (.done value) := by
  have hbits : ∀ n < 128, (UInt8.ofNat n &&& 0x7f).toUInt32.toNat = n := by decide
  have hlow : value.toNat % 128 < 128 := Nat.mod_lt _ (by decide)
  refine (reads_readByte _ _).last ?_
  dsimp only
  rw [toUInt8_and_low, if_pos (low_and_high _ hlow), shift_or_low value (hbits _ hlow)]
  exact .pure _

theorem reads_readArcTurn_high (value : UInt32) :
    Reads (readArcTurn (value >>> 7)) [(value &&& 0x7f).toUInt8 ||| 0x80] (.yield value) := by
  have hbits : ∀ n < 128, (UInt8.ofNat n ||| 0x80) &&& 0x80 ≠ 0 ∧
      ((UInt8.ofNat n ||| 0x80) &&& 0x7f).toUInt32.toNat = n := by
    decide
  obtain ⟨hhigh, hnat⟩ := hbits (value.toNat % 128) (Nat.mod_lt _ (by decide))
  refine (reads_readByte _ _).last ?_
  dsimp only
  rw [toUInt8_and_low, if_neg hhigh, shift_or_low value hnat]
  exact .pure _

theorem toNat_shift_lt {value : UInt32} {k : ℕ} (h : value.toNat < 128 ^ (k + 1)) :
    (value >>> 7).toNat < 128 ^ k := by
  rw [UInt32.toNat_shiftRight]
  change value.toNat >>> 7 < _
  rw [Nat.shiftRight_eq_div_pow, Nat.div_lt_iff_lt_mul (by norm_num)]
  rwa [pow_succ] at h

/-- Groups written before a number come to the bits above those it has read itself. -/
theorem reads_highGroups {n : ℕ} {value result : UInt32} {bs : Bytes} (hlt : value.toNat < 128 ^ n)
    (h : Reads (loop (fun _ ↦ true) readArcTurn value) bs result) :
    Reads readArc (highGroups n value ++ bs) result := by
  induction n generalizing value bs with
  | zero =>
    obtain rfl : value = 0 := by
      rw [← UInt32.toNat_inj, UInt32.toNat_zero]
      omega
    exact h
  | succ n ih =>
    rw [highGroups]
    split
    · next hzero =>
      subst hzero
      exact h
    · next hzero =>
      rw [List.append_assoc]
      refine ih (toNat_shift_lt hlt) (.loop_turn ne_nil_of_readArcTurn (fun _ ↦ rfl) ?_)
      exact (reads_readArcTurn_high value).bind h

theorem reads_readArc (value : UInt32) : Reads readArc (encodeBase128 value) value := by
  have hlt : value.toNat < 128 ^ (4 + 1) := value.toNat_lt.trans (by norm_num)
  refine reads_highGroups (toNat_shift_lt hlt) (.loop_turn ne_nil_of_readArcTurn (fun _ ↦ rfl) ?_)
  exact (reads_readArcTurn_last value).last (.pure value)

theorem parses_readArc : Parses readArc fun arc used ↦
    used ≠ [] ∧ arc.toNat < 128 ^ used.length := by
  refine (Parses.loop_ne_nil ne_nil_of_readArcTurn (fun _ ↦ rfl) 0).and (.loop (by decide) ?_)
  intro arc used harc
  refine (parses_readArcTurn arc).mono fun x used' h ↦ ?_
  rw [List.length_append]
  exact h.2 _ harc

theorem length_highGroups_le {n k : ℕ} {value : UInt32} (h : value.toNat < 128 ^ k) :
    (highGroups n value).length ≤ k := by
  induction n generalizing k value with
  | zero => simp [highGroups]
  | succ n ih =>
    rw [highGroups]
    split
    · simp
    · next hne =>
      cases k with
      | zero =>
        refine absurd ?_ hne
        rw [← UInt32.toNat_inj, UInt32.toNat_zero]
        omega
      | succ k =>
        have hle := ih (toNat_shift_lt h)
        rw [List.length_append, List.length_singleton]
        omega

theorem length_encodeBase128_le {k : ℕ} {value : UInt32} (hk : k ≠ 0) (h : value.toNat < 128 ^ k) :
    (encodeBase128 value).length ≤ k := by
  obtain ⟨k, rfl⟩ := Nat.exists_eq_succ_of_ne_zero hk
  have hle := length_highGroups_le (n := 4) (toNat_shift_lt h)
  rw [encodeBase128, List.length_append, List.length_singleton]
  omega

theorem encodeBase128_of_lt {n : ℕ} (h : n < 128) : encodeBase128 (UInt32.ofNat n) = [UInt8.ofNat n] := by
  have hnat : (UInt32.ofNat n).toNat = n := by
    rw [UInt32.toNat_ofNat', Nat.mod_eq_of_lt (by omega)]
  have hhigh : UInt32.ofNat n >>> 7 = 0 := by
    rw [← UInt32.toNat_inj, UInt32.toNat_zero, ← Nat.lt_one_iff]
    exact toNat_shift_lt (k := 0) (by rwa [hnat])
  rw [encodeBase128, hhigh, toUInt8_and_low, hnat, Nat.mod_eq_of_lt h]
  rfl

end Reads

section OidReads

theorem exists_arcs (oid : ObjectIdentifier) : ∃ first second rest, oid.arcs = first :: second :: rest ∧
    first ≤ 2 ∧ (first < 2 → second < 40) ∧ oid.leading = first.toNat * 40 + second.toNat := by
  obtain ⟨arcs, hvalid⟩ := oid
  match arcs, hvalid with
  | first :: second :: rest, hvalid =>
    have h := of_decide_eq_true hvalid
    exact ⟨first, second, rest, rfl, h.1, h.2, rfl⟩

theorem encodeOid_of_leading {oid : ObjectIdentifier} (h : oid.leading < 120) :
    encodeOid oid =
      .ok (encodeTlv tagObjectIdentifier (oidValue (UInt32.ofNat oid.leading) (oid.arcs.drop 2))) := by
  obtain ⟨first, second, rest, harcs, -, -, hleading⟩ := exists_arcs oid
  rw [encodeOid, harcs]
  dsimp only
  rw [ensure_of (by omega), hleading]
  rfl

theorem decodeOidValue_oidValue {oid : ObjectIdentifier} (h : oid.leading < 120) :
    decodeOidValue (oidValue (UInt32.ofNat oid.leading) (oid.arcs.drop 2)) = .ok oid := by
  obtain ⟨first, second, rest, harcs, hfirst, hsecond, hleading⟩ := exists_arcs oid
  have hbyte : (UInt8.ofNat oid.leading).toNat = oid.leading := by
    rw [UInt8.toNat_ofNat', Nat.mod_eq_of_lt (by omega)]
  rw [UInt32.le_iff_toNat_le] at hfirst
  rw [UInt32.lt_iff_toNat_lt, UInt32.lt_iff_toNat_lt] at hsecond
  have hsecond : second.toNat < 40 := by
    by_cases hlt : first.toNat < 2
    · exact hsecond hlt
    · omega
  have hdiv : (UInt8.ofNat oid.leading / 40).toUInt32 = first := by
    rw [← UInt32.toNat_inj, UInt8.toNat_toUInt32, UInt8.toNat_div, hbyte]
    change oid.leading / 40 = _
    omega
  have hmod : (UInt8.ofNat oid.leading % 40).toUInt32 = second := by
    rw [← UInt32.toNat_inj, UInt8.toNat_toUInt32, UInt8.toNat_mod, hbyte]
    change oid.leading % 40 = _
    omega
  have hread : (untilEnd readArc).run ⟨0, rest.flatMap encodeBase128⟩ = _ :=
    run_untilEnd (parses_readArc.mono fun _ _ h ↦ h.1) (fun arc _ ↦ reads_readArc arc) 0
  have hvalid : fromArcs (first :: second :: rest) = .ok oid := by
    rw [← harcs, fromArcs, dif_pos oid.valid]
  rw [oidValue, encodeBase128_of_lt (by omega), List.singleton_append, decodeOidValue, harcs]
  change (readInput (untilEnd readArc) (rest.flatMap encodeBase128) >>= _) = _
  rw [readInput, hread, ok_bind, hdiv, hmod]
  exact hvalid

theorem fromArcs_eq_ok {arcs : List UInt32} {oid : ObjectIdentifier} (h : fromArcs arcs = .ok oid) :
    oid.arcs = arcs := by
  rw [fromArcs] at h
  split at h
  · cases h
    rfl
  · cases h

/-- An identifier is never longer than what it was read from, and its first two arcs come from
one byte. -/
theorem oidValue_of_decodeOidValue {value : Bytes} {oid : ObjectIdentifier}
    (h : decodeOidValue value = .ok oid) : oid.leading < 120 ∧
      (oidValue (UInt32.ofNat oid.leading) (oid.arcs.drop 2)).length ≤ value.length := by
  cases value with
  | nil => cases h
  | cons byte rest =>
    obtain ⟨⟨arcs, c⟩, hread, hfrom⟩ := bind_eq_ok.mp h
    have harcs := fromArcs_eq_ok hfrom
    obtain ⟨first, second, tail, htail, hfirst, -, hleading⟩ := exists_arcs oid
    rw [harcs] at htail
    obtain ⟨rfl, rfl, rfl⟩ : (byte / 40).toUInt32 = first ∧ (byte % 40).toUInt32 = second ∧ arcs = tail := by
      simpa only [List.cons.injEq] using htail
    rw [UInt8.toNat_toUInt32, UInt8.toNat_div, UInt8.toNat_toUInt32, UInt8.toNat_mod] at hleading
    rw [UInt32.le_iff_toNat_le, UInt8.toNat_toUInt32, UInt8.toNat_div] at hfirst
    change byte.toNat / 40 ≤ 2 at hfirst
    change oid.leading = byte.toNat / 40 * 40 + byte.toNat % 40 at hleading
    have hlt : oid.leading < 120 := by omega
    have hlength : Parses (untilEnd readArc) fun arcs used ↦
        (arcs.flatMap encodeBase128).length ≤ used.length :=
      parses_untilEnd_length (parses_readArc.mono fun arc used h ↦
        length_encodeBase128_le (List.length_pos_iff.mpr h.1).ne' h.2)
    obtain ⟨used, hused, hle⟩ := hlength.of_readInput hread
    refine ⟨hlt, ?_⟩
    rw [oidValue, encodeBase128_of_lt (by omega), harcs, hused]
    simp only [List.singleton_append, List.length_cons, List.drop_succ_cons, List.drop_zero,
      List.length_append]
    omega

theorem length_encodeLen_le {m n count : ℕ} (hle : m ≤ n) (h : n < 256 ^ count) :
    (encodeLen m).length ≤ count + 1 := by
  rw [encodeLen]
  split
  · simp
  · have hmod := Nat.mod_le m (256 ^ 8)
    rw [List.length_cons, Nat.add_le_add_iff_right]
    exact length_dropWhile_zero_le (by rw [beNat_beBytes]; omega)

theorem parses_readLen : Parses readLen fun n used ↦ ∀ m ≤ n, (encodeLen m).length ≤ used.length := by
  refine (parses_readByte _).bind fun first used hfirst ↦ ?_
  subst hfirst
  split
  · next hshort =>
    refine .pure fun m hm ↦ ?_
    have hlt := lt_of_and_high hshort
    rw [encodeLen, if_pos (by omega)]
    simp
  · dsimp only
    refine .skip fun _ _ ↦ .skip fun _ _ ↦ ?_
    refine (Parses.takeItems _ _).bind fun octets used hoctets ↦ .pure fun m hm ↦ ?_
    obtain ⟨rfl, hlen⟩ := hoctets
    have hle := length_encodeLen_le hm (beNat_lt octets)
    simpa using hle

/-- A value no longer than the one read is written in no more than what was read. -/
theorem parses_readTlv : Parses readTlv fun tlv used ↦ used ≠ [] ∧
    ∀ tag value, value.length ≤ tlv.value.length → (encodeTlv tag value).length ≤ used.length := by
  refine (parses_readByte _).bind fun tag used htag ↦ ?_
  subst htag
  refine .skip fun _ _ ↦ parses_readLen.bind fun length used hlength ↦ ?_
  refine (Parses.takeItems _ _).bind fun value used' hvalue ↦ .pure ⟨by simp, fun tag' value' hle ↦ ?_⟩
  obtain ⟨rfl, hlen⟩ := hvalue
  have hprefix := hlength value'.length (by rw [← hlen]; exact hle)
  simp only [encodeTlv, List.length_cons, List.length_append, List.length_nil, List.append_nil] at hle ⊢
  omega

theorem length_of_readWhole {bytes : Bytes} {tlv : Tlv} (h : readWhole bytes = .ok tlv) (tag : UInt8)
    (value : Bytes) (hle : value.length ≤ tlv.value.length) : (encodeTlv tag value).length ≤ bytes.length := by
  obtain ⟨⟨tlv, c⟩, hread, h⟩ := bind_eq_ok.mp h
  obtain ⟨_, -, h⟩ := bind_eq_ok.mp h
  obtain rfl := Except.ok.inj h
  obtain ⟨used, hused, -, hlength⟩ := parses_readTlv.of_readInput hread
  have hused' := hlength tag value hle
  rw [hused, List.length_append]
  omega

theorem length_of_readSingleTlv {bytes : Bytes} {expected : UInt8} {tlv : Tlv}
    (h : readSingleTlv bytes expected = .ok tlv) (tag : UInt8) (value : Bytes)
    (hle : value.length ≤ tlv.value.length) : (encodeTlv tag value).length ≤ bytes.length := by
  obtain ⟨tlv, hread, h⟩ := bind_eq_ok.mp h
  obtain ⟨_, -, h⟩ := bind_eq_ok.mp h
  obtain rfl := Except.ok.inj h
  exact length_of_readWhole hread tag value hle

theorem parses_readOid : Parses readOid fun oid used ↦ used ≠ [] ∧ oid.leading < 120 ∧
    (written encodeOid oid).length ≤ used.length := by
  refine parses_readTlv.bind fun tlv used htlv ↦ .lift fun oid h ↦ ?_
  obtain ⟨_, -, hvalue⟩ := bind_eq_ok.mp h
  obtain ⟨hlt, hle⟩ := oidValue_of_decodeOidValue hvalue
  rw [List.append_nil, written_eq (encodeOid_of_leading hlt)]
  exact ⟨htlv.1, hlt, htlv.2 _ _ hle⟩

theorem reads_readOid {oid : ObjectIdentifier} (h : oid.leading < 120)
    (hlength : (written encodeOid oid).length < 2 ^ 64) : Reads readOid (written encodeOid oid) oid := by
  rw [written_eq (encodeOid_of_leading h)] at hlength ⊢
  refine (reads_readTlv (by decide) (lt_of_encodeTlv hlength)).last (.lift ?_)
  rw [decodeOidTlv, expectTag, ensure_of rfl]
  exact decodeOidValue_oidValue h

end OidReads

end Rskrb5.Spnego
