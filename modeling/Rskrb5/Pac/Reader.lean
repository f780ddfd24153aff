import Mathlib.Data.Vector.Basic
import Rskrb5.Crypto.Primitives
import Rskrb5.Lib.Layouts

namespace Rskrb5.Pac

open Lib.Results Lib.Readers

/-- The failures of PAC parsing. -/
inductive Error
  | tooShort (target : String) (minimum actual : ℕ)
  | truncated (offset needed remaining : ℕ)
  | lengthOverflow
  | bufferOffsetNotAligned (ulType : UInt32) (offset : UInt64)
  | bufferOutOfBounds (ulType : UInt32) (offset : UInt64) (len : UInt32) (totalLen : ℕ)
  | outOfBounds (target : String) (offset len totalLen : ℕ)
  | unsupportedChecksumType (signatureType : UInt32)
  | unsupportedEncryptionType (encryptionType : Int32)
  | unsupportedClaimsCompressionFormat (compressionFormat : UInt16)
  | claimsDecompression (compressionFormat : UInt16) (message : String)
  | claimsDecompressedSizeMismatch (compressionFormat : UInt16) (expected actual : ℕ)
  | unsupportedClaimType (claimType : UInt16)
  | invalidClaimUnionTag (claimType unionTag : UInt16)
  | missingRequiredBuffer (buffer : String)
  | invalidCredentialsInfoVersion (version : UInt32)
  | serverChecksumVerificationFailed
  | invalidNdrHeader
  | invalidNdrObjectLength (objectLen remaining : ℕ)
  | missingNdrPointer (target : String)
  | unreasonableNdrCount (target : String) (count : UInt32)
  | invalidNdrArrayBounds (target : String) (maxCount offset actualCount : UInt32)
  | countMismatch (target : String) (expected actual : UInt32)
  | invalidRpcUnicodeString (target : String) (length maximumLength : UInt16)
  | invalidRpcUnicodeStringData (target : String) (expectedUnits actualUnits : ℕ)
  | invalidUtf16Length (target : String) (bytes : ℕ)
  | invalidUtf16 (target message : String)
  | invalidSidRevision (revision : UInt8)
  | invalidSidSubAuthorityCount (target : String) (maxCount : UInt32) (actualCount : UInt8)
  | trailingNdrBytes (remaining : ℕ)
  | trailingNdrBytesAfter (target : String) (remaining : ℕ)
  | invalidAlignment (alignment : ℕ)
  | crypto (error : Crypto.Error)
  deriving DecidableEq

/-- Ticks of 100 ns since 1601. -/
structure FileTime where
  ticks : UInt64
  deriving DecidableEq

abbrev PacReader := Reader UInt8 Error

/-- What is read is at most a 32-bit length away, so its end does not overflow. -/
def readBytes (len : ℕ) : PacReader Bytes := takeItems .truncated len

/-- `read_bytes` into an array of a fixed length. -/
def readArray (len : ℕ) : PacReader (List.Vector UInt8 len) := fun c ↦
  if h : len ≤ c.rest.length then
    .ok (⟨c.rest.take len, List.length_take_of_le h⟩, ⟨c.offset + len, c.rest.drop len⟩)
  else .error (.truncated c.offset len c.rest.length)

def readUnsigned (width : ℕ) : PacReader ℕ := do
  let raw ← readBytes width
  return beNat raw.reverse

def readU8 : PacReader UInt8 := do return UInt8.ofNat (← readUnsigned 1)

def readU16 : PacReader UInt16 := do return UInt16.ofNat (← readUnsigned 2)

def readU32 : PacReader UInt32 := do return UInt32.ofNat (← readUnsigned 4)

def readU64 : PacReader UInt64 := do return UInt64.ofNat (← readUnsigned 8)

def readFiletime : PacReader FileTime := do return ⟨← readU64⟩

/-- Skip to a multiple of a power of two; what is skipped is not looked at. -/
def align (alignment : ℕ) : PacReader Unit := do
  ensure (alignment ≠ 0 ∧ 2 ^ Nat.log2 alignment = alignment) (Error.invalidAlignment alignment)
  let c ← get
  let aligned := (c.offset + alignment - 1) / alignment * alignment
  let _ ← readBytes (aligned - c.offset)

def leBytes (width value : ℕ) : Bytes := (beBytes width value).reverse

def u16ToLeBytes (value : UInt16) : Bytes := leBytes 2 value.toNat

def u32ToLeBytes (value : UInt32) : Bytes := leBytes 4 value.toNat

def u64ToLeBytes (value : UInt64) : Bytes := leBytes 8 value.toNat

def u32FromLeBytes (bytes : Bytes) : UInt32 := UInt32.ofNat (beNat bytes.reverse)

section Runs

variable {c c' : Cursor UInt8}

theorem run_readBytes_eq_ok {len : ℕ} {bytes : Bytes} :
    (readBytes len).run c = .ok (bytes, c') ↔
      len ≤ c.rest.length ∧ bytes = c.rest.take len ∧ c' = ⟨c.offset + len, c.rest.drop len⟩ := by
  simp only [readBytes, takeItems, StateT.run]
  split
  · next h =>
    rw [Except.ok.injEq, Prod.mk.injEq]
    exact ⟨fun hc ↦ ⟨h, hc.1.symm, hc.2.symm⟩, fun hc ↦ ⟨hc.2.1.symm, hc.2.2.symm⟩⟩
  · next h => simp [h]

theorem run_readU32_eq_ok {value : UInt32} :
    readU32.run c = .ok (value, c') ↔
      4 ≤ c.rest.length ∧ value = u32FromLeBytes (c.rest.take 4) ∧ c' = ⟨c.offset + 4, c.rest.drop 4⟩ := by
  simp only [readU32, readUnsigned, run_bind_eq_ok, run_readBytes_eq_ok, run_pure_eq_ok, u32FromLeBytes]
  constructor
  · intro h
    obtain ⟨_, _, ⟨_, _, ⟨hlen, rfl, rfl⟩, rfl, rfl⟩, rfl, rfl⟩ := h
    exact ⟨hlen, rfl, rfl⟩
  · intro h
    obtain ⟨hlen, rfl, rfl⟩ := h
    exact ⟨_, _, ⟨_, _, ⟨hlen, rfl, rfl⟩, rfl, rfl⟩, rfl, rfl⟩

end Runs

section RoundTrips

@[simp] theorem length_leBytes (width value : ℕ) : (leBytes width value).length = width := by
  simp [leBytes]

@[simp] theorem length_u16ToLeBytes (value : UInt16) : (u16ToLeBytes value).length = 2 := length_leBytes 2 _

@[simp] theorem length_u32ToLeBytes (value : UInt32) : (u32ToLeBytes value).length = 4 := length_leBytes 4 _

@[simp] theorem length_u64ToLeBytes (value : UInt64) : (u64ToLeBytes value).length = 8 := length_leBytes 8 _

theorem reads_readBytes (bytes : Bytes) : Reads (readBytes bytes.length) bytes bytes :=
  Reads.takeItems Error.truncated rfl

theorem reads_readArray {len : ℕ} (array : List.Vector UInt8 len) :
    Reads (readArray len) array.toList array := by
  intro offset rest
  have hlen : len ≤ (array.toList ++ rest).length := by simp
  have htake : (array.toList ++ rest).take len = array.toList := List.take_left' array.toList_length
  have hdrop : (array.toList ++ rest).drop len = rest := List.drop_left' array.toList_length
  have harray : (⟨(array.toList ++ rest).take len, List.length_take_of_le hlen⟩ : List.Vector UInt8 len) = array :=
    Subtype.ext htake
  change readArray len ⟨offset, array.toList ++ rest⟩ = _
  rw [readArray, dif_pos hlen, harray, hdrop, array.toList_length]

theorem reads_readUnsigned {width value : ℕ} (h : value < 256 ^ width) :
    Reads (readUnsigned width) (leBytes width value) value := by
  have hvalue : beNat (leBytes width value).reverse = value := by
    rw [leBytes, List.reverse_reverse, beNat_beBytes, Nat.mod_eq_of_lt h]
  refine (Reads.takeItems Error.truncated (length_leBytes width value)).last ?_
  rw [hvalue]
  exact .pure value

theorem reads_readU8 (value : UInt8) : Reads readU8 [value] value := by
  have hread : Reads readU8 (leBytes 1 value.toNat) (UInt8.ofNat value.toNat) :=
    (reads_readUnsigned (by simpa using value.toNat_lt)).last (.pure _)
  simpa [leBytes, beBytes] using hread

theorem reads_readU16 (value : UInt16) : Reads readU16 (u16ToLeBytes value) value := by
  have hread : Reads readU16 (u16ToLeBytes value) (UInt16.ofNat value.toNat) :=
    (reads_readUnsigned (by simpa using value.toNat_lt)).last (.pure _)
  rwa [UInt16.ofNat_toNat] at hread

theorem reads_readU32 (value : UInt32) : Reads readU32 (u32ToLeBytes value) value := by
  have hread : Reads readU32 (u32ToLeBytes value) (UInt32.ofNat value.toNat) :=
    (reads_readUnsigned (by simpa using value.toNat_lt)).last (.pure _)
  rwa [UInt32.ofNat_toNat] at hread

theorem reads_readU64 (value : UInt64) : Reads readU64 (u64ToLeBytes value) value := by
  have hread : Reads readU64 (u64ToLeBytes value) (UInt64.ofNat value.toNat) :=
    (reads_readUnsigned (by simpa using value.toNat_lt)).last (.pure _)
  rwa [UInt64.ofNat_toNat] at hread

theorem reads_readFiletime (time : FileTime) : Reads readFiletime (u64ToLeBytes time.ticks) time :=
  (reads_readU64 time.ticks).last (.pure _)

theorem run_align {alignment : ℕ} (hpos : alignment ≠ 0) (hpow : 2 ^ Nat.log2 alignment = alignment)
    (c : Cursor UInt8) : (align alignment).run c =
      (readBytes (padding alignment c.offset) >>= fun _ ↦ pure ()).run c := by
  have haligned : (c.offset + alignment - 1) / alignment * alignment - c.offset = padding alignment c.offset := by
    rw [roundUp_eq_add_padding (Nat.pos_of_ne_zero hpos), Nat.add_sub_cancel_left]
  rw [align, run_lift_bind (ensure_of ⟨hpos, hpow⟩ _), run_get_bind, ← haligned]

/-- Any bytes may stand where a reader skips. -/
theorem readsAt_align {unit alignment phase : ℕ} {skipped : Bytes} (hpos : alignment ≠ 0)
    (hpow : 2 ^ Nat.log2 alignment = alignment) (hdvd : alignment ∣ unit)
    (hskipped : skipped.length = padding alignment phase) :
    ReadsAt unit phase (align alignment) skipped () := by
  intro offset rest hoffset
  have hphase : padding alignment offset = skipped.length := by
    rw [hskipped]
    refine padding_congr ?_
    rw [← Nat.mod_mod_of_dvd offset hdvd, hoffset, Nat.mod_mod_of_dvd phase hdvd]
  rw [run_align hpos hpow, hphase]
  exact ((reads_readBytes skipped).last (.pure ())) offset rest

end RoundTrips

section Progress

theorem parses_readBytes (len : ℕ) :
    Parses (readBytes len) fun bytes used ↦ bytes = used ∧ used.length = len :=
  Parses.takeItems Error.truncated len

theorem parses_readUnsigned (width : ℕ) : Parses (readUnsigned width) fun _ used ↦ used.length = width :=
  (parses_readBytes width).bind fun _ _ h ↦ .pure (by simpa using h.2)

theorem parses_readU8 : Parses readU8 fun _ used ↦ used.length = 1 :=
  (parses_readUnsigned 1).bind fun _ _ h ↦ .pure (by simpa using h)

theorem parses_readU32 : Parses readU32 fun _ used ↦ used.length = 4 :=
  (parses_readUnsigned 4).bind fun _ _ h ↦ .pure (by simpa using h)

end Progress

end Rskrb5.Pac
