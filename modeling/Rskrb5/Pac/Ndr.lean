import Rskrb5.Lib.Utf16
import Rskrb5.Pac.Reader

namespace Rskrb5.Pac

open Lib Lib.Results Lib.Readers

structure RpcUnicodeString where
  length : UInt16
  maximumLength : UInt16
  value : String
  deriving DecidableEq

structure GroupMembership where
  relativeId : UInt32
  attributes : UInt32
  deriving DecidableEq

structure Sid where
  revision : UInt8
  identifierAuthority : List.Vector UInt8 6
  subAuthorities : List UInt32
  deriving DecidableEq

structure SidAndAttributes where
  sid : Sid
  attributes : UInt32
  deriving DecidableEq

structure DomainGroupMembership where
  domainId : Sid
  groupCount : UInt32
  groupIds : List GroupMembership
  deriving DecidableEq

inductive ClaimValues
  | int64 (values : List Int64)
  | uint64 (values : List UInt64)
  | string (values : List String)
  | boolean (values : List Bool)
  deriving DecidableEq

structure ClaimEntry where
  id : String
  claimType : UInt16
  values : ClaimValues
  deriving DecidableEq

structure ClaimsArray where
  claimsSourceType : UInt16
  claimsCount : UInt32
  claimEntries : List ClaimEntry
  deriving DecidableEq

structure SecpkgSupplementalCredential where
  packageName : RpcUnicodeString
  credentialSize : UInt32
  credentials : Bytes
  deriving DecidableEq

def claimTypeIdInt64 : UInt16 := 1
def claimTypeIdUint64 : UInt16 := 2
def claimTypeIdString : UInt16 := 3
def claimTypeIdBoolean : UInt16 := 6
def maxReasonableNdrCount : UInt32 := 1000000

structure RpcUnicodeStringDescriptor where
  length : UInt16
  maximumLength : UInt16
  referentId : UInt32

def RpcUnicodeStringDescriptor.read : PacReader RpcUnicodeStringDescriptor := do
  return { length := ← readU16, maximumLength := ← readU16, referentId := ← readU32 }

structure ClaimsArrayDescriptor where
  claimsSourceType : UInt16
  claimsCount : UInt32
  claimEntriesRef : UInt32

structure ClaimEntryDescriptor where
  idRef : UInt32
  claimType : UInt16
  valueCount : UInt32
  valuesRef : UInt32

def readNdrHeader (len : ℕ) (target : String) : PacReader Unit := do
  ensure (20 ≤ len) (Error.tooShort target 20 len)
  let integerEndian ← readU8
  let characterSet ← readU8
  let floatingPoint ← readU8
  let reserved ← readU8
  ensure (integerEndian = 1 ∧ characterSet = 0x10 ∧ floatingPoint = 0x08 ∧ reserved = 0) Error.invalidNdrHeader
  let _fill ← readU32
  let objectLen ← readU32
  let _reserved ← readU32
  ensure (objectLen.toNat ≤ len - 16) (Error.invalidNdrObjectLength objectLen.toNat (len - 16))
  let topLevelReferent ← readU32
  ensure (topLevelReferent ≠ 0) (Error.missingNdrPointer target)

def readNdrWrapper (target : String) : PacReader Unit := do
  let c ← get
  readNdrHeader (c.offset + c.rest.length) target

def readNdrU16 : PacReader UInt16 := do
  align 2
  readU16

def readNdrU32 : PacReader UInt32 := do
  align 4
  readU32

def readNdrU64 : PacReader UInt64 := do
  align 8
  readU64

def reasonable (target : String) (count : UInt32) : Except Error UInt32 := do
  ensure (count ≤ maxReasonableNdrCount) (.unreasonableNdrCount target count)
  return count

def readNdrReasonableCount (target : String) : PacReader UInt32 := do
  let count ← readNdrU32
  reasonable target count

def readReasonableCount (target : String) : PacReader UInt32 := do
  let count ← readU32
  reasonable target count

/-- The form that all deferred arrays share: nothing behind a null pointer, else a count of its own
that must be the announced one, and then the items. -/
def readDeferredArray {α : Type} (readCount : String → PacReader UInt32) (items : ℕ → PacReader (List α))
    (referentId count : UInt32) (target : String) : PacReader (List α) :=
  if referentId = 0 then
    if count = 0 then return [] else throw (.missingNdrPointer target)
  else do
    let maxCount ← readCount target
    ensure (maxCount = count) (Error.countMismatch target count maxCount)
    items count.toNat

/-- Items whose fixed parts all come first, and what they point to after that. -/
def readInTwoPasses {δ α : Type} (descriptor : PacReader δ) (deferred : δ → PacReader α) (count : ℕ) :
    PacReader (List α) := do
  let descriptors ← times descriptor count
  descriptors.mapM deferred

/-- `String::from_utf16`. -/
def fromUtf16 (target : String) (units : List UInt16) : Except Error String :=
  okOr (Utf16.decode units) (.invalidUtf16 target "invalid utf-16: lone surrogate found")

/-- The code units of a conformant and varying array. -/
def readVaryingUnits (readCount : String → PacReader UInt32) (readOffset : PacReader UInt32)
    (target : String) : PacReader (List UInt16) := do
  let maxCount ← readCount target
  let offset ← readOffset
  let actualCount ← readCount target
  ensure (offset ≤ maxCount ∧ actualCount ≤ maxCount - offset)
    (Error.invalidNdrArrayBounds target maxCount offset actualCount)
  let units ← times readU16 actualCount.toNat
  align 4
  return units

def readDeferredUnicodeString (descriptor : RpcUnicodeStringDescriptor) (target : String) :
    PacReader RpcUnicodeString := do
  ensure (descriptor.length ≤ descriptor.maximumLength)
    (Error.invalidRpcUnicodeString target descriptor.length descriptor.maximumLength)
  ensure (descriptor.length.toNat % 2 = 0) (Error.invalidUtf16Length target descriptor.length.toNat)
  if descriptor.referentId = 0 then
    return { length := descriptor.length, maximumLength := descriptor.maximumLength, value := "" }
  else do
    let units ← readVaryingUnits readReasonableCount readU32 target
    let logicalLen := descriptor.length.toNat / 2
    ensure (logicalLen ≤ units.length) (Error.invalidRpcUnicodeStringData target logicalLen units.length)
    let value ← fromUtf16 target (units.take logicalLen)
    return { length := descriptor.length, maximumLength := descriptor.maximumLength, value }

def withoutTerminator (units : List UInt16) : List UInt16 :=
  if units.getLast? = some 0 then units.dropLast else units

def readDeferredClaimString (referentId : UInt32) (target : String) : PacReader String := do
  ensure (referentId ≠ 0) (Error.missingNdrPointer target)
  let units ← readVaryingUnits readNdrReasonableCount readNdrU32 target
  fromUtf16 target (withoutTerminator units)

def readGroupMembership : PacReader GroupMembership := do
  return { relativeId := ← readU32, attributes := ← readU32 }

def readDeferredGroupMemberships : UInt32 → UInt32 → String → PacReader (List GroupMembership) :=
  readDeferredArray readReasonableCount (times readGroupMembership)

def readSid (target : String) : PacReader Sid := do
  let maxSubAuthorityCount ← readReasonableCount target
  let revision ← readU8
  let subAuthorityCount ← readU8
  ensure (revision = 1) (Error.invalidSidRevision revision)
  ensure (subAuthorityCount.toNat ≤ maxSubAuthorityCount.toNat ∧ subAuthorityCount ≤ 15)
    (Error.invalidSidSubAuthorityCount target maxSubAuthorityCount subAuthorityCount)
  let identifierAuthority ← readArray 6
  let subAuthorities ← times readU32 subAuthorityCount.toNat
  align 4
  return { revision, identifierAuthority, subAuthorities }

def readDeferredSid (referentId : UInt32) (target : String) : PacReader (Option Sid) :=
  if referentId = 0 then return none else some <$> readSid target

/-- A SID that must be there. -/
def readRequiredSid (referentId : UInt32) (target : String) : PacReader Sid := do
  let sid ← readDeferredSid referentId target
  okOr sid (Error.missingNdrPointer target)

def readSidAndAttributes (target : String) (entry : UInt32 × UInt32) : PacReader SidAndAttributes := do
  return { sid := ← readRequiredSid entry.1 target, attributes := entry.2 }

def readDeferredSidAndAttributes (referentId count : UInt32) (target : String) :
    PacReader (List SidAndAttributes) :=
  readDeferredArray readReasonableCount
    (readInTwoPasses (do return (← readU32, ← readU32)) (readSidAndAttributes target))
    referentId count target

def readDeferredDomainGroupMemberships (referentId count : UInt32) (target : String) :
    PacReader (List DomainGroupMembership) :=
  readDeferredArray readReasonableCount
    (readInTwoPasses (do return (← readU32, ← readU32, ← readU32))
      fun (domainIdRef, groupCount, groupIdsRef) ↦ do
        let domainId ← readRequiredSid domainIdRef target
        let groupIds ← readDeferredGroupMemberships groupIdsRef groupCount target
        return { domainId, groupCount, groupIds })
    referentId count target

def readDeferredU8Array : UInt32 → UInt32 → String → PacReader Bytes :=
  readDeferredArray readNdrReasonableCount fun len ↦ do
    let bytes ← readBytes len
    align 4
    return bytes

def readSupplementalCredential (packageName : RpcUnicodeStringDescriptor) (credentialSize credentialsRef : UInt32) :
    PacReader SecpkgSupplementalCredential := do
  let packageName ← readDeferredUnicodeString packageName "SECPKGSupplementalCred.PackageName"
  let credentials ← readDeferredU8Array credentialsRef credentialSize "SECPKGSupplementalCred.Credentials"
  return { packageName, credentialSize, credentials }

/-- The count is taken as it is. -/
def readCountedSupplementalCredentials (count : UInt32) : PacReader (List SecpkgSupplementalCredential) :=
  if count = 0 then return []
  else readInTwoPasses (do return (← RpcUnicodeStringDescriptor.read, ← readNdrU32, ← readNdrU32))
    (fun (packageName, credentialSize, credentialsRef) ↦
      readSupplementalCredential packageName credentialSize credentialsRef) count.toNat

def readDeferredRpcUnicodeStrings (referentId count : UInt32) (target : String) :
    PacReader (List RpcUnicodeString) :=
  readDeferredArray readNdrReasonableCount
    (readInTwoPasses RpcUnicodeStringDescriptor.read (readDeferredUnicodeString · target))
    referentId count target

def readDeferredI64Array : UInt32 → UInt32 → String → PacReader (List Int64) :=
  readDeferredArray readNdrReasonableCount (times do return (← readNdrU64).toInt64)

def readDeferredU64Array : UInt32 → UInt32 → String → PacReader (List UInt64) :=
  readDeferredArray readNdrReasonableCount (times readNdrU64)

def readDeferredBoolArray : UInt32 → UInt32 → String → PacReader (List Bool) :=
  readDeferredArray readNdrReasonableCount fun count ↦ do
    let values ← times (do return (← readU8) != 0) count
    align 4
    return values

def readDeferredLpwstrArray (referentId count : UInt32) (target : String) : PacReader (List String) :=
  readDeferredArray readNdrReasonableCount
    (readInTwoPasses readNdrU32 (readDeferredClaimString · target)) referentId count target

def readClaimEntryDescriptor : PacReader ClaimEntryDescriptor := do
  let idRef ← readNdrU32
  let claimType ← readNdrU16
  let unionTag ← readNdrU16
  ensure (unionTag = claimType) (Error.invalidClaimUnionTag claimType unionTag)
  let valueCount ← readNdrU32
  let valuesRef ← readNdrU32
  return { idRef, claimType, valueCount, valuesRef }

def readClaimValues (claimType : UInt16) (valuesRef valueCount : UInt32) : PacReader ClaimValues :=
  if claimType = claimTypeIdInt64 then
    .int64 <$> readDeferredI64Array valuesRef valueCount "ClaimEntry.Int64Values"
  else if claimType = claimTypeIdUint64 then
    .uint64 <$> readDeferredU64Array valuesRef valueCount "ClaimEntry.UInt64Values"
  else if claimType = claimTypeIdString then
    .string <$> readDeferredLpwstrArray valuesRef valueCount "ClaimEntry.StringValues"
  else if claimType = claimTypeIdBoolean then
    .boolean <$> readDeferredBoolArray valuesRef valueCount "ClaimEntry.BooleanValues"
  else throw (.unsupportedClaimType claimType)

def readDeferredClaimEntries : UInt32 → UInt32 → String → PacReader (List ClaimEntry) :=
  readDeferredArray readNdrReasonableCount
    (readInTwoPasses readClaimEntryDescriptor fun descriptor ↦ do
      let id ← readDeferredClaimString descriptor.idRef "ClaimEntry.ID"
      let values ← readClaimValues descriptor.claimType descriptor.valuesRef descriptor.valueCount
      return { id, claimType := descriptor.claimType, values })

def readClaimsArrayDescriptor : PacReader ClaimsArrayDescriptor := do
  return { claimsSourceType := ← readNdrU16, claimsCount := ← readNdrU32, claimEntriesRef := ← readNdrU32 }

def readDeferredClaimsArrays : UInt32 → UInt32 → String → PacReader (List ClaimsArray) :=
  readDeferredArray readNdrReasonableCount
    (readInTwoPasses readClaimsArrayDescriptor fun descriptor ↦ do
      let claimEntries ←
        readDeferredClaimEntries descriptor.claimEntriesRef descriptor.claimsCount "ClaimsArray.ClaimEntries"
      return ⟨descriptor.claimsSourceType, descriptor.claimsCount, claimEntries⟩)

/-- All that is left after the alignment must be zero. -/
def ensureZeros (trailing : ℕ → Error) : PacReader Unit := do
  align 4
  let c ← get
  ensure (c.rest.all (· = 0) = true) (trailing c.rest.length)

def ensureZeroTrailing (target : String) : PacReader Unit := ensureZeros (.trailingNdrBytesAfter target)

/-- A reader run over a buffer from its start. -/
def parseWith {α : Type} (r : PacReader α) (bytes : Bytes) : Except Error α := do
  let (value, _) ← readInput r bytes
  return value

section Parses

variable {α : Type} {r : PacReader α} {bytes : Bytes} {a : α}

theorem parseWith_eq_ok : parseWith r bytes = .ok a ↔ ∃ c, r.run ⟨0, bytes⟩ = .ok (a, c) := by
  simp only [parseWith, readInput, bind_eq_ok, pure_eq_ok, Except.ok.injEq]
  constructor
  · intro h
    obtain ⟨⟨_, c⟩, h, rfl⟩ := h
    exact ⟨c, h⟩
  · intro h
    obtain ⟨c, h⟩ := h
    exact ⟨(a, c), h, rfl⟩

theorem of_parseWith {p : α → Prop} (hr : Yields r p) (h : parseWith r bytes = .ok a) : p a := by
  obtain ⟨c, hc⟩ := parseWith_eq_ok.mp h
  exact hr _ _ _ hc

/-- The wrapper takes the header and the pointer to the object. -/
theorem parses_readNdrWrapper (target : String) :
    Parses (readNdrWrapper target) fun _ used ↦ used.length = 20 := by
  refine Parses.get.bind fun c _ hc ↦ .skip fun _ _ ↦ ?_
  refine parses_readU8.bind fun _ _ h₁ ↦ parses_readU8.bind fun _ _ h₂ ↦ parses_readU8.bind fun _ _ h₃ ↦
    parses_readU8.bind fun _ _ h₄ ↦ .skip fun _ _ ↦ ?_
  refine parses_readU32.bind fun _ _ h₅ ↦ parses_readU32.bind fun _ _ h₆ ↦
    parses_readU32.bind fun _ _ h₇ ↦ .skip fun _ _ ↦ parses_readU32.bind fun _ _ h₈ ↦ .lift fun _ _ ↦ ?_
  simp [hc, h₁, h₂, h₃, h₄, h₅, h₆, h₇, h₈]

theorem run_readNdrU32 {c : Cursor UInt8} (h : 4 ∣ c.offset) : readNdrU32.run c = readU32.run c := by
  have halign : (align 4).run c = .ok ((), c) := by
    rw [run_align (by decide) (by decide), padding_of_dvd h]
    rfl
  rw [readNdrU32, run_bind_of_ok halign]

end Parses

end Rskrb5.Pac
