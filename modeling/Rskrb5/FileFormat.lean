import Rskrb5.Bytes
import Rskrb5.Lib.Readers

namespace Rskrb5.FileFormat

open Lib.Results Lib.Readers

/-- The failures of the two file formats, keytabs and credential caches. -/
inductive FileError
  | tooShort (actual : ℕ)
  | invalidFirstByte (actual : UInt8)
  | invalidVersion (actual : UInt8)
  | truncated (offset needed remaining : ℕ)
  | negativeLength (length : Int32)
  | lengthOverflow
  | invalidString
  | invalidHeaderField (tag : UInt16) (length : ℕ)
  | invalidHeaderLength
  deriving DecidableEq

inductive Endian
  | big
  | little
  deriving DecidableEq

def Endian.order (endian : Endian) (bytes : Bytes) : Bytes :=
  match endian with
  | .big => bytes
  | .little => bytes.reverse

abbrev FileReader := Reader UInt8 FileError

section Readers

variable (endian : Endian)

/-- The end of what is read is at most a 32-bit length away, so it does not overflow. -/
def readBytes (len : ℕ) : FileReader Bytes := takeItems .truncated len

def readUnsigned (width : ℕ) : FileReader ℕ := do
  let raw ← readBytes width
  return beNat (endian.order raw)

def readU8 : FileReader UInt8 := do return UInt8.ofNat (← readUnsigned .big 1)

def readU16 : FileReader UInt16 := do return UInt16.ofNat (← readUnsigned endian 2)

def readI16 : FileReader Int16 := do return (UInt16.ofNat (← readUnsigned endian 2)).toInt16

def readU32 : FileReader UInt32 := do return UInt32.ofNat (← readUnsigned endian 4)

def readI32 : FileReader Int32 := do return (UInt32.ofNat (← readUnsigned endian 4)).toInt32

def nonNegative (length : Int32) : Except FileError ℕ := do
  ensure (0 ≤ length.toInt) (.negativeLength length)
  return length.toInt.toNat

/-- Version 1 of both formats counts the realm among the components. -/
def componentCount (version : UInt8) (least count : ℤ) : Except FileError ℕ := do
  let count := if version = 1 then count - 1 else count
  ensure (least ≤ count) .lengthOverflow
  nonNegative (Int32.ofInt count)

def readNameType (version : UInt8) : FileReader Int32 :=
  if version = 1 then return 0 else readI32 endian

/-- `std::str::from_utf8`, with its error. -/
def utf8String (raw : Bytes) : Except FileError String := okOr (fromUtf8 raw) .invalidString

end Readers

section Writers

variable (endian : Endian)

def writtenCount (version : UInt8) (components : List String) : ℕ :=
  if version = 1 then components.length + 1 else components.length

def writeUnsigned (width value : ℕ) : Bytes := endian.order (beBytes width value)

def writeU16 (value : UInt16) : Bytes := writeUnsigned endian 2 value.toNat

def writeU32 (value : UInt32) : Bytes := writeUnsigned endian 4 value.toNat

def writeI32 (value : Int32) : Bytes := writeU32 endian value.toUInt32

def writeNameType (version : UInt8) (nameType : Int32) : Bytes :=
  if version = 1 then [] else writeI32 endian nameType

def writeI16Checked (value : ℤ) : Except FileError Bytes := do
  ensure (-2 ^ 15 ≤ value ∧ value < 2 ^ 15) .lengthOverflow
  return writeU16 endian (Int16.ofInt value).toUInt16

def writeU16Checked (value : ℤ) : Except FileError Bytes := do
  ensure (0 ≤ value ∧ value < 2 ^ 16) .lengthOverflow
  return writeU16 endian (UInt16.ofNat value.toNat)

def writeI32LenChecked (value : ℤ) : Except FileError Bytes := do
  ensure (-2 ^ 31 ≤ value ∧ value < 2 ^ 31) .lengthOverflow
  return writeI32 endian (Int32.ofInt value)

end Writers

section RoundTrips

variable {endian : Endian}

@[simp] theorem Endian.order_order (bytes : Bytes) : endian.order (endian.order bytes) = bytes := by
  cases endian <;> simp [Endian.order]

@[simp] theorem Endian.length_order (bytes : Bytes) : (endian.order bytes).length = bytes.length := by
  cases endian <;> simp [Endian.order]

@[simp] theorem length_writeUnsigned (width value : ℕ) :
    (writeUnsigned endian width value).length = width := by
  simp [writeUnsigned]

@[simp] theorem length_writeU16 (value : UInt16) : (writeU16 endian value).length = 2 :=
  length_writeUnsigned 2 _

@[simp] theorem length_writeU32 (value : UInt32) : (writeU32 endian value).length = 4 :=
  length_writeUnsigned 4 _

@[simp] theorem length_writeI32 (value : Int32) : (writeI32 endian value).length = 4 :=
  length_writeU32 _

theorem reads_readUnsigned {width value : ℕ} (h : value < 256 ^ width) :
    Reads (readUnsigned endian width) (writeUnsigned endian width value) value := by
  have hvalue : beNat (endian.order (writeUnsigned endian width value)) = value := by
    rw [writeUnsigned, Endian.order_order, beNat_beBytes, Nat.mod_eq_of_lt h]
  refine (Reads.takeItems FileError.truncated (length_writeUnsigned width value)).last ?_
  rw [hvalue]
  exact .pure value

theorem reads_readU8 (value : UInt8) : Reads readU8 [value] value := by
  have hread : Reads readU8 (writeUnsigned .big 1 value.toNat) (UInt8.ofNat value.toNat) :=
    (reads_readUnsigned (by simpa using value.toNat_lt)).last (.pure _)
  simpa [writeUnsigned, Endian.order, beBytes] using hread

theorem reads_readU16 (value : UInt16) : Reads (readU16 endian) (writeU16 endian value) value := by
  have hread : Reads (readU16 endian) (writeU16 endian value) (UInt16.ofNat value.toNat) :=
    (reads_readUnsigned (by simpa using value.toNat_lt)).last (.pure _)
  rwa [UInt16.ofNat_toNat] at hread

theorem reads_readI16 (value : UInt16) :
    Reads (readI16 endian) (writeU16 endian value) value.toInt16 := by
  have hread : Reads (readI16 endian) (writeU16 endian value) (UInt16.ofNat value.toNat).toInt16 :=
    (reads_readUnsigned (by simpa using value.toNat_lt)).last (.pure _)
  rwa [UInt16.ofNat_toNat] at hread

theorem reads_readU32 (value : UInt32) : Reads (readU32 endian) (writeU32 endian value) value := by
  have hread : Reads (readU32 endian) (writeU32 endian value) (UInt32.ofNat value.toNat) :=
    (reads_readUnsigned (by simpa using value.toNat_lt)).last (.pure _)
  rwa [UInt32.ofNat_toNat] at hread

theorem reads_readI32 (value : Int32) : Reads (readI32 endian) (writeI32 endian value) value := by
  have hread : Reads (readI32 endian) (writeI32 endian value)
      (UInt32.ofNat value.toUInt32.toNat).toInt32 :=
    (reads_readUnsigned (by simpa using value.toUInt32.toNat_lt)).last (.pure _)
  rwa [UInt32.ofNat_toNat, Int32.toInt32_toUInt32] at hread

theorem reads_readNameType {version : UInt8} {nameType : Int32} (h : version = 1 → nameType = 0) :
    Reads (readNameType endian version) (writeNameType endian version nameType) nameType := by
  rw [readNameType, writeNameType]
  split
  · next hv => exact h hv ▸ .pure _
  · exact reads_readI32 _

theorem writeI16Checked_eq_ok {value : ℤ} {bs : Bytes} :
    writeI16Checked endian value = .ok bs ↔
      (-2 ^ 15 ≤ value ∧ value < 2 ^ 15) ∧ writeU16 endian (Int16.ofInt value).toUInt16 = bs := by
  simp [writeI16Checked]

theorem writeU16Checked_eq_ok {value : ℤ} {bs : Bytes} :
    writeU16Checked endian value = .ok bs ↔
      (0 ≤ value ∧ value < 2 ^ 16) ∧ writeU16 endian (UInt16.ofNat value.toNat) = bs := by
  simp [writeU16Checked]

theorem writeU16Checked_of_lt (endian : Endian) {value : ℤ} (h0 : 0 ≤ value) (hlt : value < 2 ^ 16) :
    writeU16Checked endian value = .ok (writeU16 endian (UInt16.ofNat value.toNat)) :=
  writeU16Checked_eq_ok.mpr ⟨⟨h0, hlt⟩, rfl⟩

theorem writeI32LenChecked_eq_ok {value : ℤ} {bs : Bytes} :
    writeI32LenChecked endian value = .ok bs ↔
      (-2 ^ 31 ≤ value ∧ value < 2 ^ 31) ∧ writeI32 endian (Int32.ofInt value) = bs := by
  simp [writeI32LenChecked]

theorem writeI32LenChecked_of_lt (endian : Endian) {n : ℕ} (h : n < 2 ^ 31) :
    writeI32LenChecked endian n = .ok (writeI32 endian (Int32.ofInt n)) :=
  writeI32LenChecked_eq_ok.mpr ⟨⟨by omega, by exact_mod_cast h⟩, rfl⟩

theorem nonNegative_eq_ok {length : Int32} {n : ℕ} :
    nonNegative length = .ok n ↔ length.toInt = n := by
  simp only [nonNegative, bind_eq_ok, ensure_eq_ok, pure_eq_ok, Except.ok.injEq, exists_const]
  omega

theorem componentCount_eq_ok {version : UInt8} {least count : ℤ} {n : ℕ} (hleast : -2 ^ 31 ≤ least)
    (hzero : least ≤ 0) (hcount : least ≤ count) (hlt : count < 2 ^ 31) :
    componentCount version least count = .ok n ↔ count = if version = 1 then n + 1 else n := by
  simp only [componentCount, bind_eq_ok, ensure_eq_ok, exists_const, nonNegative_eq_ok]
  split
  · constructor
    · intro h
      obtain ⟨hle, h⟩ := h
      rw [Int32.toInt_ofInt_of_le (by omega) (by omega)] at h
      omega
    · intro h
      have hle : least ≤ count - 1 := by omega
      rw [Int32.toInt_ofInt_of_le (by omega) (by omega)]
      omega
  · rw [Int32.toInt_ofInt_of_le (by omega) (by omega)]
    simp [hcount]

theorem utf8String_eq_ok {raw : Bytes} {s : String} : utf8String raw = .ok s ↔ raw = asBytes s := by
  rw [utf8String, okOr_eq_ok]
  constructor
  · exact fun h ↦ (asBytes_of_fromUtf8 h).symm
  · intro heq
    subst heq
    exact fromUtf8_asBytes s

end RoundTrips

section Progress

variable {endian : Endian}

theorem parses_readUnsigned (width : ℕ) :
    Parses (readUnsigned endian width) fun _ used ↦ used.length = width :=
  (Parses.takeItems _ width).bind fun _ _ h ↦ .pure (by simpa using h.2)

theorem parses_readU8 : Parses readU8 fun _ used ↦ used.length = 1 :=
  (parses_readUnsigned 1).bind fun _ _ h ↦ .pure (by simpa using h)

theorem parses_readU16 : Parses (readU16 endian) fun _ used ↦ used.length = 2 :=
  (parses_readUnsigned 2).bind fun _ _ h ↦ .pure (by simpa using h)

theorem parses_readI16 : Parses (readI16 endian) fun _ used ↦ used.length = 2 :=
  (parses_readUnsigned 2).bind fun _ _ h ↦ .pure (by simpa using h)

theorem parses_readU32 : Parses (readU32 endian) fun _ used ↦ used.length = 4 :=
  (parses_readUnsigned 4).bind fun _ _ h ↦ .pure (by simpa using h)

theorem parses_readI32 : Parses (readI32 endian) fun _ used ↦ used.length = 4 :=
  (parses_readUnsigned 4).bind fun _ _ h ↦ .pure (by simpa using h)

theorem parses_readNameType (version : UInt8) :
    Parses (readNameType endian version) fun nameType _ ↦ version = 1 → nameType = 0 := by
  rw [readNameType]
  split
  · exact .pure fun _ ↦ rfl
  · next hv => exact parses_readI32.mono fun _ _ _ h ↦ absurd h hv

end Progress

end Rskrb5.FileFormat
