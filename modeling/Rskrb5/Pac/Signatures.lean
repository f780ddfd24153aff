import Rskrb5.Pac

namespace Rskrb5.Pac

open Lib Lib.Results Lib.Readers Lib.Patches Crypto

/-- A signature buffer starts with its type, and its signature is as long as the type says. -/
theorem signatureData_parse {bytes : Bytes} {checksum : SignatureData}
    (h : SignatureData.parse bytes = .ok checksum) :
    checksum.signatureType = u32FromLeBytes (bytes.take 4) ∧
      ∃ len, checksumSignatureLen checksum.signatureType = some len ∧ 4 + len ≤ bytes.length ∧
        checksum.signature = slice bytes 4 len ∧
        checksum.zeroedData = overwrite bytes 4 (List.replicate len 0) := by
  simp only [SignatureData.parse, bind_eq_ok, pure_eq_ok, Except.ok.injEq, parseWith_eq_ok] at h
  obtain ⟨⟨signatureType, signature, rodcIdentifier⟩, ⟨_, h⟩, rfl⟩ := h
  simp only [readSignature, run_bind_eq_ok, run_readU32_eq_ok, run_lift_eq_ok, okOr_eq_ok,
    run_readBytes_eq_ok, run_pure_eq_ok, Prod.mk.injEq] at h
  obtain ⟨_, _, ⟨hfour, rfl, rfl⟩, len, _, ⟨hlen, rfl⟩, _, _, ⟨hfit, rfl, rfl⟩, _, _, -, ⟨rfl, rfl, rfl⟩, -⟩ := h
  simp only [List.length_drop] at hfit
  refine ⟨rfl, len, hlen, by omega, rfl, ?_⟩
  simp only [List.length_take, List.length_drop, Nat.min_eq_left hfit]

namespace InfoBuffer

variable {buffer : InfoBuffer} {data bytes : Bytes}

def Covers (buffer : InfoBuffer) (i : ℕ) : Prop :=
  buffer.offset.toNat ≤ i ∧ i < buffer.offset.toNat + buffer.cbBufferSize.toNat

/-- The signature stands behind the type, and is as long as the type says. -/
def IsSignatureByte (buffer : InfoBuffer) (data : Bytes) (i : ℕ) : Prop :=
  ∃ len, checksumSignatureLen (u32FromLeBytes (Patches.slice data buffer.offset.toNat 4)) = some len ∧
    buffer.offset.toNat + 4 ≤ i ∧ i < buffer.offset.toNat + 4 + len

theorem slice_eq_ok : buffer.slice data = .ok bytes ↔
    buffer.offset.toNat % 8 = 0 ∧ buffer.offset.toNat + buffer.cbBufferSize.toNat ≤ data.length ∧
      bytes = Patches.slice data buffer.offset.toNat buffer.cbBufferSize.toNat := by
  simp only [InfoBuffer.slice, validate, bind_eq_ok, ensure_eq_ok, exists_const, pure_eq_ok,
    Except.ok.injEq, and_assoc]
  rw [eq_comm (a := bytes)]

theorem copyZeroedSignature_eq_ok {zeroSignatureData out : Bytes} {signature : SignatureData}
    (h : buffer.copyZeroedSignature zeroSignatureData signature = .ok out) :
    out = overwrite zeroSignatureData buffer.offset.toNat signature.zeroedData := by
  simp only [copyZeroedSignature, bind_eq_ok, ensure_eq_ok, exists_const, pure_eq_ok, Except.ok.injEq] at h
  exact h.2.2.symm

/-- What is put back for a signature buffer is its slice with the signature bytes zeroed. -/
theorem isFilled_zeroedData {checksum : SignatureData}
    (hfit : buffer.offset.toNat + buffer.cbBufferSize.toNat ≤ data.length)
    (h : SignatureData.parse (Patches.slice data buffer.offset.toNat buffer.cbBufferSize.toNat) = .ok checksum) :
    IsFilled 0 (Patches.slice data buffer.offset.toNat buffer.cbBufferSize.toNat) checksum.zeroedData
        (fun i ↦ buffer.IsSignatureByte data (buffer.offset.toNat + i)) ∧
      4 ≤ buffer.cbBufferSize.toNat ∧ ∀ i, buffer.IsSignatureByte data i → buffer.Covers i := by
  obtain ⟨htype, len, hlen, hsize, -, hzeroed⟩ := signatureData_parse h
  have hslice := length_slice hfit
  rw [hslice] at hsize
  have htake : (Patches.slice data buffer.offset.toNat buffer.cbBufferSize.toNat).take 4 =
      Patches.slice data buffer.offset.toNat 4 := by
    rw [Patches.slice, Patches.slice, List.take_take, Nat.min_eq_left (by omega)]
  have hiff : ∀ i, buffer.IsSignatureByte data i ↔
      buffer.offset.toNat + 4 ≤ i ∧ i < buffer.offset.toNat + 4 + len := by
    intro i
    rw [IsSignatureByte, ← htake, ← htype, hlen]
    simp
  refine ⟨?_, by omega, ?_⟩
  · rw [hzeroed]
    refine (IsFilled.fill (by omega)).congr fun i ↦ ?_
    rw [hiff]
    omega
  · intro i hi
    rw [hiff] at hi
    exact ⟨by omega, by omega⟩

end InfoBuffer

def IsSignatureType (ulType : UInt32) : Prop :=
  ulType = infoTypePacServerSignatureData ∨ ulType = infoTypePacKdcSignatureData

instance (ulType : UInt32) : Decidable (IsSignatureType ulType) := inferInstanceAs (Decidable (_ ∨ _))

def checksumOf (self : Pac) (ulType : UInt32) : Option SignatureData :=
  if ulType = infoTypePacServerSignatureData then self.serverChecksum
  else if ulType = infoTypePacKdcSignatureData then self.kdcChecksum
  else none

/-- The places of the known types, and whether they are empty. -/
def places (self : Pac) : List (UInt32 × Bool) :=
  [(infoTypeKerbValidationInfo, self.kerbValidationInfo.isNone),
    (infoTypePacServerSignatureData, self.serverChecksum.isNone),
    (infoTypePacKdcSignatureData, self.kdcChecksum.isNone),
    (infoTypeCredentials, self.credentialsInfo.isNone),
    (infoTypePacClientInfo, self.clientInfo.isNone),
    (infoTypeUpnDnsInfo, self.upnDnsInfo.isNone),
    (infoTypeS4uDelegationInfo, self.s4uDelegationInfo.isNone),
    (infoTypePacDeviceInfo, self.deviceInfo.isNone),
    (infoTypePacClientClaimsInfo, self.clientClaimsInfo.isNone),
    (infoTypePacDeviceClaimsInfo, self.deviceClaimsInfo.isNone)]

/-- Nothing is left to do for a type: its place is filled, or it has none. -/
def IsSettled (pac : Pac) (ulType : UInt32) : Prop := ∀ place ∈ pac.places, place.1 = ulType → place.2 = false

/-- What one turn of the loop can do to the signatures. -/
inductive Turn (buffer : InfoBuffer) (pac pac' : Pac) : Prop
  | signature (checksum : SignatureData) (htype : IsSignatureType buffer.ulType)
      (hnone : pac.checksumOf buffer.ulType = none)
      (hparse : SignatureData.parse
        (Patches.slice pac.data buffer.offset.toNat buffer.cbBufferSize.toNat) = .ok checksum)
      (hzero : pac'.zeroSignatureData =
        overwrite pac.zeroSignatureData buffer.offset.toNat checksum.zeroedData)
      (hchecksums : ∀ ulType, pac'.checksumOf ulType =
        if ulType = buffer.ulType then some checksum else pac.checksumOf ulType)
  | other (hzero : pac'.zeroSignatureData = pac.zeroSignatureData)
      (hchecksums : ∀ ulType, pac'.checksumOf ulType = pac.checksumOf ulType)
      (hseen : IsSignatureType buffer.ulType → pac.checksumOf buffer.ulType ≠ none)

section Turns

variable {Z : Compcol} {pac pac' : Pac} {buffer : InfoBuffer}

theorem checksumOf_ne_none {ulType : UInt32}
    (hserver : ¬ (ulType = infoTypePacServerSignatureData ∧ pac.serverChecksum.isNone))
    (hkdc : ¬ (ulType = infoTypePacKdcSignatureData ∧ pac.kdcChecksum.isNone))
    (h : IsSignatureType ulType) : pac.checksumOf ulType ≠ none := by
  rcases h with rfl | rfl
  · simpa [checksumOf] using hserver
  · have hne : infoTypePacKdcSignatureData ≠ infoTypePacServerSignatureData := by decide
    simpa [checksumOf, hne] using hkdc

theorem nodup_places : (pac.places.map Prod.fst).Nodup := by
  have h : ([1, 6, 7, 2, 10, 12, 11, 14, 13, 15] : List UInt32).Nodup := by decide
  exact h

/-- The place of the type is filled, and no other changes. -/
def Fills (pac pac' : Pac) (ulType : UInt32) : Prop :=
  ∃ k, (pac.places.map Prod.fst)[k]? = some ulType ∧ pac'.places = pac.places.set k (ulType, false)

/-- Filling a place settles its type and unsettles none. -/
theorem Fills.isSettled {ulType : UInt32} (h : Fills pac pac' ulType) :
    IsSettled pac' ulType ∧ ∀ other, IsSettled pac other → IsSettled pac' other := by
  obtain ⟨k, hplace, h⟩ := h
  constructor
  · intro place hmem htype
    obtain ⟨i, hi⟩ := List.getElem?_of_mem hmem
    have hfst : (pac.places.map Prod.fst)[i]? = some ulType := by
      have hset : pac'.places.map Prod.fst = pac.places.map Prod.fst := by
        obtain ⟨hk, hget⟩ := List.getElem?_eq_some_iff.mp hplace
        rw [h, List.map_set, ← hget]
        exact List.set_getElem_self hk
      rw [← hset, List.getElem?_map, hi, Option.map_some, htype]
    have hlt : i < (pac.places.map Prod.fst).length := (List.getElem?_eq_some_iff.mp hfst).1
    obtain rfl : i = k := (List.getElem?_inj hlt nodup_places).mp (hfst.trans hplace.symm)
    rw [h, List.getElem?_set_self (by simpa using hlt)] at hi
    exact (Option.some.inj hi) ▸ rfl
  · intro other hother place hmem htype
    rw [h] at hmem
    rcases List.mem_or_eq_of_mem_set hmem with hmem | rfl
    · exact hother place hmem htype
    · rfl

/-- A turn that only fills another place leaves the bytes and the signatures. -/
structure Keeps (pac pac' : Pac) : Prop where
  data : pac'.data = pac.data
  buffers : pac'.buffers = pac.buffers
  zero : pac'.zeroSignatureData = pac.zeroSignatureData
  checksums : ∀ ulType, pac'.checksumOf ulType = pac.checksumOf ulType

/-- All that one turn of the loop can do. -/
theorem cases_of_processBuffer (h : pac.processBuffer Z buffer = .ok pac') :
    buffer.offset.toNat + buffer.cbBufferSize.toNat ≤ pac.data.length ∧ pac'.data = pac.data ∧
      pac'.buffers = pac.buffers ∧ Turn buffer pac pac' ∧
      (Fills pac pac' buffer.ulType ∨ pac' = pac ∧ IsSettled pac buffer.ulType) := by
  obtain ⟨bytes, hslice, h⟩ := bind_eq_ok.mp h
  obtain ⟨-, hfit, rfl⟩ := InfoBuffer.slice_eq_ok.mp hslice
  refine ⟨hfit, ?_⟩
  have hplain (k : ℕ) {ulType : UInt32} {empty : Prop} (hcase : buffer.ulType = ulType ∧ empty)
      {α : Type} {x : Except Error α} {f : α → Pac} (h : (do return f (← x)) = Except.ok pac')
      (htype : ¬ IsSignatureType ulType) (hplace : (pac.places.map Prod.fst)[k]? = some ulType)
      (hf : ∀ a, Keeps pac (f a) ∧ (f a).places = pac.places.set k (ulType, false)) :
      pac'.data = pac.data ∧ pac'.buffers = pac.buffers ∧ Turn buffer pac pac' ∧
        (Fills pac pac' buffer.ulType ∨ pac' = pac ∧ IsSettled pac buffer.ulType) := by
    obtain ⟨a, -, ha⟩ := bind_eq_ok.mp h
    obtain rfl := Except.ok.inj ha
    obtain ⟨hk, hplaces⟩ := hf a
    obtain ⟨rfl, -⟩ := hcase
    exact ⟨hk.data, hk.buffers, .other hk.zero hk.checksums fun h ↦ absurd h htype, .inl ⟨k, hplace, hplaces⟩⟩
  rcases ite_eq_iff.mp h with ⟨hcase, h⟩ | ⟨hkvi, h⟩
  · exact hplain 0 hcase h (by decide) rfl fun _ ↦ ⟨⟨rfl, rfl, rfl, fun _ ↦ rfl⟩, rfl⟩
  rcases ite_eq_iff.mp h with ⟨hcase, h⟩ | ⟨hserver, h⟩
  · simp only [bind_eq_ok, pure_eq_ok, Except.ok.injEq] at h
    obtain ⟨checksum, hparse, zero, hzero, rfl⟩ := h
    refine ⟨rfl, rfl, .signature checksum (.inl hcase.1) ?_ hparse (InfoBuffer.copyZeroedSignature_eq_ok hzero)
      fun ulType ↦ ?_, .inl ⟨1, congrArg some hcase.1.symm, by rw [hcase.1]; rfl⟩⟩
    · simpa [checksumOf, hcase.1] using hcase.2
    · simp only [checksumOf, hcase.1]
      split <;> rfl
  rcases ite_eq_iff.mp h with ⟨hcase, h⟩ | ⟨hkdc, h⟩
  · simp only [bind_eq_ok, pure_eq_ok, Except.ok.injEq] at h
    obtain ⟨checksum, hparse, zero, hzero, rfl⟩ := h
    have hne : infoTypePacKdcSignatureData ≠ infoTypePacServerSignatureData := by decide
    refine ⟨rfl, rfl, .signature checksum (.inr hcase.1) ?_ hparse (InfoBuffer.copyZeroedSignature_eq_ok hzero)
      fun ulType ↦ ?_, .inl ⟨2, congrArg some hcase.1.symm, by rw [hcase.1]; rfl⟩⟩
    · simpa [checksumOf, hcase.1, hne] using hcase.2
    · simp only [checksumOf, hcase.1]
      by_cases h6 : ulType = infoTypePacServerSignatureData
      · rw [if_pos h6, if_neg (h6 ▸ hne.symm), if_pos h6]
      · rw [if_neg h6, if_neg h6]
        split <;> rfl
  rcases ite_eq_iff.mp h with ⟨hcase, h⟩ | ⟨hcredentials, h⟩
  · exact hplain 3 hcase h (by decide) rfl fun _ ↦ ⟨⟨rfl, rfl, rfl, fun _ ↦ rfl⟩, rfl⟩
  rcases ite_eq_iff.mp h with ⟨hcase, h⟩ | ⟨hclient, h⟩
  · exact hplain 4 hcase h (by decide) rfl fun _ ↦ ⟨⟨rfl, rfl, rfl, fun _ ↦ rfl⟩, rfl⟩
  rcases ite_eq_iff.mp h with ⟨hcase, h⟩ | ⟨hupn, h⟩
  · exact hplain 5 hcase h (by decide) rfl fun _ ↦ ⟨⟨rfl, rfl, rfl, fun _ ↦ rfl⟩, rfl⟩
  rcases ite_eq_iff.mp h with ⟨hcase, h⟩ | ⟨hs4u, h⟩
  · exact hplain 6 hcase h (by decide) rfl fun _ ↦ ⟨⟨rfl, rfl, rfl, fun _ ↦ rfl⟩, rfl⟩
  rcases ite_eq_iff.mp h with ⟨hcase, h⟩ | ⟨hdevice, h⟩
  · exact hplain 7 hcase h (by decide) rfl fun _ ↦ ⟨⟨rfl, rfl, rfl, fun _ ↦ rfl⟩, rfl⟩
  rcases ite_eq_iff.mp h with ⟨hcase, h⟩ | ⟨hclientClaims, h⟩
  · exact hplain 8 hcase h (by decide) rfl fun _ ↦ ⟨⟨rfl, rfl, rfl, fun _ ↦ rfl⟩, rfl⟩
  rcases ite_eq_iff.mp h with ⟨hcase, h⟩ | ⟨hdeviceClaims, h⟩
  · exact hplain 9 hcase h (by decide) rfl fun _ ↦ ⟨⟨rfl, rfl, rfl, fun _ ↦ rfl⟩, rfl⟩
  -- what is left is a buffer of an unknown type, or a later one of a type that has been seen
  obtain rfl := Except.ok.inj h
  have hno {ulType : UInt32} {empty : Bool} (h : ¬ (buffer.ulType = ulType ∧ empty = true)) :
      ulType = buffer.ulType → empty = false := by
    intro htype
    exact Bool.eq_false_of_not_eq_true fun hempty ↦ h ⟨htype.symm, hempty⟩
  refine ⟨rfl, rfl, .other rfl (fun _ ↦ rfl) (checksumOf_ne_none hserver hkdc), .inr ⟨rfl, ?_⟩⟩
  simp only [IsSettled, places, List.forall_mem_cons]
  exact ⟨hno hkvi, hno hserver, hno hkdc, hno hcredentials, hno hclient, hno hupn, hno hs4u, hno hdevice,
    hno hclientClaims, hno hdeviceClaims, List.forall_mem_nil _⟩

theorem turn_of_processBuffer (h : pac.processBuffer Z buffer = .ok pac') :
    buffer.offset.toNat + buffer.cbBufferSize.toNat ≤ pac.data.length ∧ pac'.data = pac.data ∧
      pac'.buffers = pac.buffers ∧ Turn buffer pac pac' := by
  obtain ⟨hfit, hdata, hbuffers, hturn, -⟩ := cases_of_processBuffer h
  exact ⟨hfit, hdata, hbuffers, hturn⟩

theorem isSettled_of_processBuffer (h : pac.processBuffer Z buffer = .ok pac') :
    IsSettled pac' buffer.ulType ∧ ∀ ulType, IsSettled pac ulType → IsSettled pac' ulType := by
  obtain ⟨-, -, -, -, hfills | ⟨rfl, hsettled⟩⟩ := cases_of_processBuffer h
  · exact hfills.isSettled
  · exact ⟨hsettled, fun _ ↦ id⟩

end Turns

def firstOf (ulType : UInt32) (buffers : List InfoBuffer) : Option InfoBuffer :=
  buffers.find? fun buffer ↦ buffer.ulType = ulType

/-- The bytes of the signatures in the first server and the first KDC buffer. -/
def IsSignatureByte (data : Bytes) (buffers : List InfoBuffer) (i : ℕ) : Prop :=
  ∃ ulType buffer, IsSignatureType ulType ∧ firstOf ulType buffers = some buffer ∧
    buffer.IsSignatureByte data i

/-- The first server and the first KDC buffer share no byte. -/
def SignaturesApart (buffers : List InfoBuffer) : Prop :=
  ∀ server kdc, firstOf infoTypePacServerSignatureData buffers = some server →
    firstOf infoTypePacKdcSignatureData buffers = some kdc → ∀ i, ¬ (server.Covers i ∧ kdc.Covers i)

/-- The state of the loop when some of the buffers are done. -/
structure Processed (data : Bytes) (done : List InfoBuffer) (pac : Pac) : Prop where
  data_eq : pac.data = data
  seen : ∀ ulType, IsSignatureType ulType →
    (pac.checksumOf ulType = none ↔ firstOf ulType done = none)
  covered : ∀ ulType buffer, IsSignatureType ulType → firstOf ulType done = some buffer →
    4 ≤ buffer.cbBufferSize.toNat ∧ ∀ i, buffer.IsSignatureByte data i → buffer.Covers i
  filled : IsFilled 0 data pac.zeroSignatureData (IsSignatureByte data done)

section Runs

variable {Z : Compcol} {pac pac' : Pac} {data : Bytes} {buffer : InfoBuffer} {done buffers : List InfoBuffer}

theorem firstOf_append_singleton {ulType : UInt32} : firstOf ulType (done ++ [buffer]) =
    (firstOf ulType done).or (if buffer.ulType = ulType then some buffer else none) := by
  rw [firstOf, List.find?_append, List.find?_singleton]
  simp [firstOf]

theorem firstOf_append_of_some {ulType : UInt32} {first : InfoBuffer} (h : firstOf ulType done = some first)
    (rest : List InfoBuffer) : firstOf ulType (done ++ rest) = some first := by
  rw [firstOf, List.find?_append]
  rw [firstOf] at h
  rw [h, Option.some_or]

theorem SignaturesApart.of_append {rest : List InfoBuffer} (h : SignaturesApart (done ++ rest)) :
    SignaturesApart done :=
  fun server kdc hserver hkdc ↦
    h server kdc (firstOf_append_of_some hserver rest) (firstOf_append_of_some hkdc rest)

/-- The signature buffers of two types are apart. -/
theorem SignaturesApart.not_covers (h : SignaturesApart buffers) {ulType ulType' : UInt32}
    (hne : ulType ≠ ulType') (htype : IsSignatureType ulType) (htype' : IsSignatureType ulType')
    {first first' : InfoBuffer} (hfirst : firstOf ulType buffers = some first)
    (hfirst' : firstOf ulType' buffers = some first') {i : ℕ} (hi : first.Covers i) : ¬ first'.Covers i := by
  rcases htype with rfl | rfl <;> rcases htype' with rfl | rfl
  · exact absurd rfl hne
  · exact fun hi' ↦ h _ _ hfirst hfirst' i ⟨hi, hi'⟩
  · exact fun hi' ↦ h _ _ hfirst' hfirst i ⟨hi', hi⟩
  · exact absurd rfl hne

theorem processed_nil (hdata : pac.data = data) (hzero : pac.zeroSignatureData = data)
    (hserver : pac.serverChecksum = none) (hkdc : pac.kdcChecksum = none) : Processed data [] pac := by
  refine ⟨hdata, fun ulType htype ↦ ?_, nofun, ?_⟩
  · rw [checksumOf, hserver, hkdc]
    simp [firstOf]
  · rw [hzero]
    refine (IsFilled.refl 0 data).congr fun i ↦ ?_
    simp [IsSignatureByte, firstOf]

theorem firstOf_append_of_seen {ulType : UInt32} (h : buffer.ulType = ulType → firstOf ulType done ≠ none) :
    firstOf ulType (done ++ [buffer]) = firstOf ulType done := by
  rw [firstOf_append_singleton]
  split
  · next heq =>
    obtain ⟨first, hfirst⟩ := Option.ne_none_iff_exists'.mp (h heq)
    rw [hfirst, Option.some_or]
  · exact Option.or_none

theorem firstOf_append_of_first {ulType : UInt32} (h : firstOf buffer.ulType done = none) :
    firstOf ulType (done ++ [buffer]) = if ulType = buffer.ulType then some buffer else firstOf ulType done := by
  rw [firstOf_append_singleton]
  by_cases heq : ulType = buffer.ulType
  · rw [heq, h, if_pos rfl, Option.none_or]
  · rw [if_neg heq, if_neg (Ne.symm heq), Option.or_none]

theorem Processed.of_seen (h : Processed data done pac) (hdata : pac'.data = pac.data)
    (hzero : pac'.zeroSignatureData = pac.zeroSignatureData)
    (hchecksums : ∀ ulType, pac'.checksumOf ulType = pac.checksumOf ulType)
    (hseen : IsSignatureType buffer.ulType → pac.checksumOf buffer.ulType ≠ none) :
    Processed data (done ++ [buffer]) pac' := by
  have hfirst : ∀ ulType, IsSignatureType ulType → firstOf ulType (done ++ [buffer]) = firstOf ulType done := by
    intro ulType htype
    refine firstOf_append_of_seen ?_
    intro heq
    subst heq
    exact fun hnone ↦ hseen htype ((h.seen _ htype).mpr hnone)
  refine ⟨hdata.trans h.data_eq, fun ulType htype ↦ ?_, fun ulType first htype ↦ ?_, ?_⟩
  · rw [hchecksums, hfirst ulType htype]
    exact h.seen ulType htype
  · rw [hfirst ulType htype]
    exact h.covered ulType first htype
  · rw [hzero]
    refine h.filled.congr fun i ↦ exists_congr fun ulType ↦ exists_congr fun first ↦ ?_
    refine and_congr_right fun htype ↦ ?_
    rw [hfirst ulType htype]

theorem isSignatureByte_append_of_first (htype : IsSignatureType buffer.ulType)
    (hfresh : firstOf buffer.ulType done = none) (i : ℕ) :
    IsSignatureByte data (done ++ [buffer]) i ↔ IsSignatureByte data done i ∨ buffer.IsSignatureByte data i := by
  constructor
  · intro h
    obtain ⟨ulType, first, hkind, hf, hi⟩ := h
    rw [firstOf_append_of_first hfresh] at hf
    split at hf
    · exact .inr (Option.some.inj hf ▸ hi)
    · exact .inl ⟨ulType, first, hkind, hf, hi⟩
  · rintro (⟨ulType, first, hkind, hf, hi⟩ | hi)
    · exact ⟨ulType, first, hkind, firstOf_append_of_some hf [buffer], hi⟩
    · exact ⟨buffer.ulType, buffer, htype, by rw [firstOf_append_of_first hfresh, if_pos rfl], hi⟩

/-- What is zeroed already is not in a buffer that is the first of its type. -/
theorem Processed.not_covers_of_first (h : Processed data done pac)
    (hapart : SignaturesApart (done ++ [buffer])) (htype : IsSignatureType buffer.ulType)
    (hfresh : firstOf buffer.ulType done = none) {i : ℕ} (hi : IsSignatureByte data done i) :
    ¬ buffer.Covers i := by
  obtain ⟨ulType, first, hkind, hf, hi⟩ := hi
  have hne : ulType ≠ buffer.ulType := by
    intro heq
    subst heq
    rw [hfresh] at hf
    cases hf
  have hlast : firstOf buffer.ulType (done ++ [buffer]) = some buffer := by
    rw [firstOf_append_of_first hfresh, if_pos rfl]
  have hcovers : first.Covers i := (h.covered ulType first hkind hf).2 i hi
  exact hapart.not_covers hne hkind htype (firstOf_append_of_some hf [buffer]) hlast hcovers

/-- The first signature of its type is zeroed, and zeroing it does not undo the other one. -/
theorem Processed.of_first (h : Processed data done pac) (hapart : SignaturesApart (done ++ [buffer]))
    (hfit : buffer.offset.toNat + buffer.cbBufferSize.toNat ≤ data.length) {checksum : SignatureData}
    (htype : IsSignatureType buffer.ulType) (hnone : pac.checksumOf buffer.ulType = none)
    (hparse : SignatureData.parse (Patches.slice data buffer.offset.toNat buffer.cbBufferSize.toNat) =
      .ok checksum)
    (hdata : pac'.data = pac.data)
    (hzero : pac'.zeroSignatureData = overwrite pac.zeroSignatureData buffer.offset.toNat checksum.zeroedData)
    (hchecksums : ∀ ulType, pac'.checksumOf ulType =
      if ulType = buffer.ulType then some checksum else pac.checksumOf ulType) :
    Processed data (done ++ [buffer]) pac' := by
  obtain ⟨hfilled, hsize, hcovers⟩ := InfoBuffer.isFilled_zeroedData hfit hparse
  have hfresh : firstOf buffer.ulType done = none := (h.seen _ htype).mp hnone
  refine ⟨hdata.trans h.data_eq, fun ulType hkind ↦ ?_, fun ulType first hkind hf ↦ ?_, ?_⟩
  · rw [hchecksums, firstOf_append_of_first hfresh]
    split
    · simp
    · exact h.seen ulType hkind
  · rw [firstOf_append_of_first hfresh] at hf
    split at hf
    · exact Option.some.inj hf ▸ ⟨hsize, hcovers⟩
    · exact h.covered ulType first hkind hf
  · rw [hzero]
    have hapart' : ∀ i, IsSignatureByte data done i →
        i < buffer.offset.toNat ∨ buffer.offset.toNat + buffer.cbBufferSize.toNat ≤ i := by
      intro i hi
      have hnot := h.not_covers_of_first hapart htype hfresh hi
      rw [InfoBuffer.Covers] at hnot
      omega
    refine (h.filled.overwrite_slice hfit hfilled hapart' fun i hi ↦ ?_).congr fun i ↦ ?_
    · have hi' := (hcovers _ hi).2
      omega
    · rw [isSignatureByte_append_of_first htype hfresh]
      refine or_congr_right ⟨fun ⟨hge, hi⟩ ↦ by rwa [Nat.add_sub_cancel' hge] at hi, fun hi ↦ ?_⟩
      have hge := (hcovers _ hi).1
      exact ⟨hge, by rwa [Nat.add_sub_cancel' hge]⟩

theorem Processed.turn (h : Processed data done pac) (hapart : SignaturesApart (done ++ [buffer]))
    (hturn : pac.processBuffer Z buffer = .ok pac') : Processed data (done ++ [buffer]) pac' := by
  obtain ⟨hfit, hdata, -, hturn⟩ := turn_of_processBuffer hturn
  rw [h.data_eq] at hfit
  cases hturn with
  | signature checksum htype hnone hparse hzero hchecksums =>
    rw [h.data_eq] at hparse
    exact h.of_first hapart hfit htype hnone hparse hdata hzero hchecksums
  | other hzero hchecksums hseen => exact h.of_seen hdata hzero hchecksums hseen

theorem Processed.run (h : Processed data done pac) (hapart : SignaturesApart (done ++ buffers))
    (hrun : buffers.foldlM (processBuffer Z) pac = .ok pac') : Processed data (done ++ buffers) pac' := by
  induction buffers generalizing done pac with
  | nil =>
    obtain rfl := Except.ok.inj hrun
    rwa [List.append_nil]
  | cons buffer buffers ih =>
    obtain ⟨next, hnext, hrest⟩ := bind_eq_ok.mp hrun
    rw [List.append_cons] at hapart ⊢
    exact ih (h.turn hapart.of_append hnext) hapart hrest

end Runs

section Settled

variable {Z : Compcol} {pac pac' : Pac} {buffer : InfoBuffer} {buffers : List InfoBuffer} {bytes : Bytes}

theorem processBuffer_of_isSettled (hslice : buffer.slice pac.data = .ok bytes)
    (h : IsSettled pac buffer.ulType) : pac.processBuffer Z buffer = .ok pac := by
  have hno (k : ℕ) {ulType : UInt32} {empty : Bool} (hplace : pac.places[k]? = some (ulType, empty)) :
      ¬ (buffer.ulType = ulType ∧ empty = true) := by
    intro h
    obtain ⟨htype, hempty⟩ := h
    have hfilled : empty = false := h _ (List.mem_of_getElem? hplace) htype.symm
    rw [hfilled] at hempty
    cases hempty
  rw [processBuffer, hslice, ok_bind, if_neg (hno 0 rfl), if_neg (hno 1 rfl), if_neg (hno 2 rfl),
    if_neg (hno 3 rfl), if_neg (hno 4 rfl), if_neg (hno 5 rfl), if_neg (hno 6 rfl), if_neg (hno 7 rfl),
    if_neg (hno 8 rfl), if_neg (hno 9 rfl)]
  rfl

theorem keeps_of_run (hrun : buffers.foldlM (processBuffer Z) pac = .ok pac') :
    pac'.data = pac.data ∧ pac'.buffers = pac.buffers ∧
      ∀ ulType, IsSettled pac ulType → IsSettled pac' ulType := by
  induction buffers generalizing pac with
  | nil =>
    obtain rfl := Except.ok.inj hrun
    exact ⟨rfl, rfl, fun _ ↦ id⟩
  | cons buffer buffers ih =>
    obtain ⟨next, hnext, hrest⟩ := bind_eq_ok.mp hrun
    obtain ⟨-, hdata, hbuffers, -⟩ := turn_of_processBuffer hnext
    obtain ⟨hdata', hbuffers', hsettled⟩ := ih hrest
    exact ⟨hdata'.trans hdata, hbuffers'.trans hbuffers,
      fun ulType h ↦ hsettled ulType ((isSettled_of_processBuffer hnext).2 ulType h)⟩

/-- After the loop there is nothing left to do for any of its buffers. -/
theorem processBuffer_eq_self_of_run (hrun : buffers.foldlM (processBuffer Z) pac = .ok pac')
    (hbuffer : buffer ∈ buffers) : pac'.processBuffer Z buffer = .ok pac' := by
  induction buffers generalizing pac with
  | nil => cases hbuffer
  | cons head buffers ih =>
    obtain ⟨next, hnext, hrest⟩ := bind_eq_ok.mp hrun
    rcases List.mem_cons.mp hbuffer with rfl | hmem
    · obtain ⟨hdata, -, hsettled⟩ := keeps_of_run hrest
      obtain ⟨-, hnextdata, -, -⟩ := turn_of_processBuffer hnext
      obtain ⟨bytes, hslice, -⟩ := bind_eq_ok.mp hnext
      rw [← hnextdata, ← hdata] at hslice
      exact processBuffer_of_isSettled hslice (hsettled _ (isSettled_of_processBuffer hnext).1)
    · exact ih hrest hmem

theorem foldlM_eq_self (h : ∀ buffer ∈ buffers, pac.processBuffer Z buffer = .ok pac) :
    buffers.foldlM (processBuffer Z) pac = .ok pac := by
  induction buffers with
  | nil => rfl
  | cons buffer buffers ih =>
    rw [List.foldlM_cons, h buffer List.mem_cons_self, ok_bind]
    exact ih fun other hmem ↦ h other (List.mem_cons_of_mem buffer hmem)

theorem processBuffers_again (h : pac.processBuffers Z = .ok pac') : pac'.processBuffers Z = .ok pac' := by
  have hbuffers := (keeps_of_run h).2.1
  rw [processBuffers, hbuffers]
  exact foldlM_eq_self fun _ hmem ↦ processBuffer_eq_self_of_run h hmem

end Settled

section Exactness

variable {Z : Compcol} {bytes bytes' : Bytes} {pac pac' fresh : Pac} {buffers table : List InfoBuffer}

theorem parse_unprocessed (h : Pac.parse bytes = .ok fresh) :
    fresh.data = bytes ∧ fresh.zeroSignatureData = bytes ∧ fresh.serverChecksum = none ∧
      fresh.kdcChecksum = none := by
  simp only [Pac.parse, bind_eq_ok, pure_eq_ok, Except.ok.injEq] at h
  obtain ⟨_, -, _, -, rfl⟩ := h
  exact ⟨rfl, rfl, rfl, rfl⟩

/-- Whatever table is processed, the first signature buffers in it decide what is zeroed. -/
theorem processed_of_table (h : Pac.parse bytes = .ok fresh) (hapart : SignaturesApart table)
    (hrun : processBuffers Z { fresh with buffers := table } = .ok pac) : Processed bytes table pac := by
  obtain ⟨hdata, hzero, hserver, hkdc⟩ := parse_unprocessed h
  have hinit : Processed bytes [] { fresh with buffers := table } := processed_nil hdata hzero hserver hkdc
  exact hinit.run hapart hrun

theorem processed_of_parseAndProcess (h : Pac.parseAndProcess Z bytes = .ok pac)
    (hapart : SignaturesApart pac.buffers) : Processed bytes pac.buffers pac := by
  obtain ⟨fresh, hparse, hrun⟩ := bind_eq_ok.mp h
  have hbuffers : pac.buffers = fresh.buffers := (keeps_of_run hrun).2.1
  rw [hbuffers] at hapart ⊢
  exact processed_of_table hparse hapart hrun

def SameFirst (buffers buffers' : List InfoBuffer) : Prop :=
  ∀ ulType, IsSignatureType ulType → firstOf ulType buffers = firstOf ulType buffers'

theorem SameFirst.isSignatureByte_iff (h : SameFirst buffers table) (i : ℕ) :
    IsSignatureByte bytes buffers i ↔ IsSignatureByte bytes table i := by
  refine exists_congr fun ulType ↦ exists_congr fun first ↦ and_congr_right fun htype ↦ ?_
  rw [h ulType htype]

theorem SameFirst.apart (h : SameFirst buffers table) (hapart : SignaturesApart table) :
    SignaturesApart buffers := by
  intro server kdc hserver hkdc
  rw [h _ (.inl rfl)] at hserver
  rw [h _ (.inr rfl)] at hkdc
  exact hapart server kdc hserver hkdc

theorem Processed.isSignatureByte_congr (h : Processed bytes buffers pac) (hfirst : SameFirst table buffers)
    (hsame : ∀ ulType first, IsSignatureType ulType → firstOf ulType buffers = some first →
      ∀ i, first.Covers i → bytes'[i]? = bytes[i]?) (i : ℕ) :
    IsSignatureByte bytes' table i ↔ IsSignatureByte bytes buffers i := by
  rw [hfirst.isSignatureByte_iff]
  refine exists_congr fun ulType ↦ exists_congr fun first ↦ and_congr_right fun htype ↦
    and_congr_right fun hf ↦ ?_
  have hsize := (h.covered ulType first htype hf).1
  have hslice : Patches.slice bytes' first.offset.toNat 4 = Patches.slice bytes first.offset.toNat 4 :=
    slice_congr fun j hj ↦ hsame ulType first htype hf _ ⟨by omega, by omega⟩
  rw [InfoBuffer.IsSignatureByte, InfoBuffer.IsSignatureByte, hslice]

/-- The zeroed copy differs from the bytes of the PAC in the signatures of the first server and the
first KDC buffer only. Neither the order of the table nor its other buffers matter. -/
theorem zeroSignatureData_exact (h : Pac.parseAndProcess Z bytes = .ok pac)
    (hapart : SignaturesApart pac.buffers) :
    IsFilled 0 bytes pac.zeroSignatureData (IsSignatureByte bytes pac.buffers) ∧
      (∀ fresh table pac', Pac.parse bytes = .ok fresh → SameFirst table pac.buffers →
        processBuffers Z { fresh with buffers := table } = .ok pac' →
          pac'.zeroSignatureData = pac.zeroSignatureData) ∧
      (∀ (bytes' : Bytes) (pac' : Pac), Pac.parseAndProcess Z bytes' = .ok pac' → SameFirst pac'.buffers pac.buffers →
        (∀ ulType first, IsSignatureType ulType → firstOf ulType pac.buffers = some first →
          ∀ i, first.Covers i → bytes'[i]? = bytes[i]?) →
        ∀ i : ℕ, bytes'[i]? = bytes[i]? → pac'.zeroSignatureData[i]? = pac.zeroSignatureData[i]?) ∧
      pac.processBuffers Z = .ok pac := by
  have hprocessed := processed_of_parseAndProcess h hapart
  refine ⟨hprocessed.filled, fun fresh table pac' hparse hfirst hrun ↦ ?_,
    fun bytes' pac' h' hfirst hsame i hi ↦ ?_, ?_⟩
  · have htable := processed_of_table hparse (hfirst.apart hapart) hrun
    exact htable.filled.unique (hprocessed.filled.congr fun i ↦ (hfirst.isSignatureByte_iff i).symm)
  · have hprocessed' := processed_of_parseAndProcess h' (hfirst.apart hapart)
    exact hprocessed'.filled.getElem?_congr hprocessed.filled
      (hprocessed.isSignatureByte_congr hfirst hsame i) hi
  · obtain ⟨_, -, hrun⟩ := bind_eq_ok.mp h
    exact processBuffers_again hrun

def noCompcol : Compcol := ⟨fun _ _ ↦ .error "", fun _ _ ↦ .error "", fun _ _ ↦ .error ""⟩

/-- A KDC and a server signature, a buffer of an unknown type over both and a second server signature
over the KDC one. -/
def sharedPac : Bytes :=
  [4, 0, 0, 0, 0, 0, 0, 0, 0x63, 0, 0, 0, 0x28, 0, 0, 0, 0x48, 0, 0, 0, 0, 0, 0, 0, 7, 0, 0, 0, 0x12,
   0, 0, 0, 0x48, 0, 0, 0, 0, 0, 0, 0, 6, 0, 0, 0, 0x10, 0, 0, 0, 0x60, 0, 0, 0, 0, 0, 0, 0, 6, 0, 0,
   0, 0x10, 0, 0, 0, 0x48, 0, 0, 0, 0, 0, 0, 0, 0x10, 0, 0, 0, 0x21, 0x22, 0x23, 0x24, 0x25, 0x26,
   0x27, 0x28, 0x29, 0x2a, 0x2b, 0x2c, 7, 0, 0, 0, 0, 0, 0, 0, 0x0f, 0, 0, 0, 0x41, 0x42, 0x43, 0x44,
   0x45, 0x46, 0x47, 0x48, 0x49, 0x4a, 0x4b, 0x4c]

def sharedTable : List InfoBuffer := [⟨99, 40, 72⟩, ⟨7, 18, 72⟩, ⟨6, 16, 96⟩, ⟨6, 16, 72⟩]

def sharedZeroed : Bytes :=
  [4, 0, 0, 0, 0, 0, 0, 0, 0x63, 0, 0, 0, 0x28, 0, 0, 0, 0x48, 0, 0, 0, 0, 0, 0, 0, 7, 0, 0, 0, 0x12,
   0, 0, 0, 0x48, 0, 0, 0, 0, 0, 0, 0, 6, 0, 0, 0, 0x10, 0, 0, 0, 0x60, 0, 0, 0, 0, 0, 0, 0, 6, 0, 0,
   0, 0x10, 0, 0, 0, 0x48, 0, 0, 0, 0, 0, 0, 0, 0x10, 0, 0, 0, 0, 0, 0, 0, 0, 0, 0, 0, 0, 0, 0, 0, 7,
   0, 0, 0, 0, 0, 0, 0, 0x0f, 0, 0, 0, 0, 0, 0, 0, 0, 0, 0, 0, 0, 0, 0, 0]

theorem parseAndProcess_sharedPac : ∃ pac, Pac.parseAndProcess noCompcol sharedPac = .ok pac ∧
    pac.buffers = sharedTable ∧ pac.zeroSignatureData = sharedZeroed := by
  have h : (Pac.parseAndProcess noCompcol sharedPac).toOption.map (fun pac ↦ (pac.buffers, pac.zeroSignatureData)) =
      some (sharedTable, sharedZeroed) := by decide +kernel
  obtain ⟨pac, hpac, hvalues⟩ := exists_of_toOption_map h
  obtain ⟨hbuffers, hzero⟩ := Prod.mk.inj hvalues
  exact ⟨pac, hpac, hbuffers, hzero⟩

theorem signaturesApart_sharedTable : SignaturesApart sharedTable := by
  intro server kdc hserver hkdc i
  have h6 : firstOf infoTypePacServerSignatureData sharedTable = some ⟨6, 16, 96⟩ := by decide
  have h7 : firstOf infoTypePacKdcSignatureData sharedTable = some ⟨7, 18, 72⟩ := by decide
  obtain rfl := Option.some.inj (h6.symm.trans hserver)
  obtain rfl := Option.some.inj (h7.symm.trans hkdc)
  intro h
  obtain ⟨⟨hge, -⟩, -, hlt⟩ := h
  exact absurd (Nat.lt_of_le_of_lt hge hlt) (by decide)

theorem zeroSignatureData_exact_shared : ∃ pac : Pac, pac.buffers = sharedTable ∧
    pac.zeroSignatureData = sharedZeroed ∧
    IsFilled 0 sharedPac pac.zeroSignatureData (IsSignatureByte sharedPac pac.buffers) ∧
    pac.processBuffers noCompcol = .ok pac := by
  obtain ⟨pac, hpac, hbuffers, hzero⟩ := parseAndProcess_sharedPac
  have h := zeroSignatureData_exact hpac (hbuffers ▸ signaturesApart_sharedTable)
  exact ⟨pac, hbuffers, hzero, h.1, h.2.2.2⟩

end Exactness

end Rskrb5.Pac
