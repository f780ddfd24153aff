import Rskrb5.Pac

namespace Rskrb5.Pac

open Lib Lib.Results Lib.Readers Crypto

/-- What stands in place for a value that is deferred. -/
abbrev Referent := { id : UInt32 // id ≠ 0 }

def pointer (present : Prop) [Decidable present] (referent : Referent) : UInt32 :=
  if present then referent.val else 0

def padded (bytes : Bytes) : Bytes := bytes ++ zeros (padding 4 bytes.length)

def RpcUnicodeStringDescriptor.encode (descriptor : RpcUnicodeStringDescriptor) : Bytes :=
  u16ToLeBytes descriptor.length ++ (u16ToLeBytes descriptor.maximumLength ++
    u32ToLeBytes descriptor.referentId)

namespace RpcUnicodeString

def descriptor (self : RpcUnicodeString) (referent : Referent) : RpcUnicodeStringDescriptor where
  length := self.length
  maximumLength := self.maximumLength
  referentId := pointer (self.value ≠ "") referent

/-- The counts are in code units, and there is nothing behind the pointer of an empty string. -/
def deferred (self : RpcUnicodeString) : Bytes :=
  if self.value = "" then []
  else padded (u32ToLeBytes (UInt32.ofNat (self.maximumLength.toNat / 2)) ++ (u32ToLeBytes 0 ++
    (u32ToLeBytes (UInt32.ofNat (self.length.toNat / 2)) ++
      (Utf16.encode self.value).flatMap u16ToLeBytes)))

structure Encodable (string : RpcUnicodeString) : Prop where
  length_eq : string.length.toNat = 2 * (Utf16.encode string.value).length
  le_maximum : string.length ≤ string.maximumLength

end RpcUnicodeString

namespace Sid

def encode (self : Sid) : Bytes :=
  padded (u32ToLeBytes (UInt32.ofNat self.subAuthorities.length) ++ ([self.revision] ++
    ([UInt8.ofNat self.subAuthorities.length] ++ (self.identifierAuthority.toList ++
      self.subAuthorities.flatMap u32ToLeBytes))))

def deferred (sid : Option Sid) : Bytes := (sid.map encode).getD []

structure Encodable (sid : Sid) : Prop where
  revision_eq : sid.revision = 1
  length_le : sid.subAuthorities.length ≤ 15

end Sid

def GroupMembership.encode (self : GroupMembership) : Bytes :=
  u32ToLeBytes self.relativeId ++ u32ToLeBytes self.attributes

def GroupMembership.deferred (groups : List GroupMembership) : Bytes :=
  if groups = [] then []
  else u32ToLeBytes (UInt32.ofNat groups.length) ++ groups.flatMap encode

/-- All the pointers come first, with the attributes, and then all the SIDs. -/
def SidAndAttributes.deferred (referents : ℕ → Referent) (sids : List SidAndAttributes) : Bytes :=
  if sids = [] then []
  else u32ToLeBytes (UInt32.ofNat sids.length) ++
    (sids.zipIdx.flatMap (fun indexed ↦
        u32ToLeBytes (referents indexed.2).val ++ u32ToLeBytes indexed.1.attributes) ++
      sids.zipIdx.flatMap fun indexed ↦ indexed.1.sid.encode)

namespace KerbValidationInfo

def Fixed.encode (self : Fixed) : Bytes :=
  u64ToLeBytes self.logonTime.ticks ++ (u64ToLeBytes self.logoffTime.ticks ++
  (u64ToLeBytes self.kickoffTime.ticks ++ (u64ToLeBytes self.passwordLastSet.ticks ++
  (u64ToLeBytes self.passwordCanChange.ticks ++ (u64ToLeBytes self.passwordMustChange.ticks ++
  (self.effectiveName.encode ++ (self.fullName.encode ++ (self.logonScript.encode ++
  (self.profilePath.encode ++ (self.homeDirectory.encode ++ (self.homeDirectoryDrive.encode ++
  (u16ToLeBytes self.logonCount ++ (u16ToLeBytes self.badPasswordCount ++
  (u32ToLeBytes self.userId ++ (u32ToLeBytes self.primaryGroupId ++ (u32ToLeBytes self.groupCount ++
  (u32ToLeBytes self.groupIdsRef ++ (u32ToLeBytes self.userFlags ++ (self.userSessionKey.toList ++
  (self.logonServer.encode ++ (self.logonDomainName.encode ++ (u32ToLeBytes self.logonDomainIdRef ++
  (u32ToLeBytes self.reserved1.1 ++ (u32ToLeBytes self.reserved1.2 ++
  (u32ToLeBytes self.userAccountControl ++ (u32ToLeBytes self.subAuthStatus ++
  (u64ToLeBytes self.lastSuccessfulIlogon.ticks ++ (u64ToLeBytes self.lastFailedIlogon.ticks ++
  (u32ToLeBytes self.failedIlogonCount ++ (u32ToLeBytes self.reserved3 ++
  (u32ToLeBytes self.sidCount ++ (u32ToLeBytes self.extraSidsRef ++
  (u32ToLeBytes self.resourceGroupDomainSidRef ++ (u32ToLeBytes self.resourceGroupCount ++
  u32ToLeBytes self.resourceGroupIdsRef))))))))))))))))))))))))))))))))))

/-- The choices that an encoding leaves open: what is not looked at, the values of the pointers,
and how much zero padding follows, within the length of the object and behind it. -/
structure Layout where
  fill : UInt32
  reserved : UInt32
  referents : ℕ → Referent
  objectPadding : ℕ
  padding : ℕ

variable (layout : Layout) (self : KerbValidationInfo)

/-- The pointers are numbered in the order of the fields, the extra SIDs behind all the others. -/
def fixed : Fixed where
  logonTime := self.logonTime
  logoffTime := self.logoffTime
  kickoffTime := self.kickoffTime
  passwordLastSet := self.passwordLastSet
  passwordCanChange := self.passwordCanChange
  passwordMustChange := self.passwordMustChange
  effectiveName := self.effectiveName.descriptor (layout.referents 1)
  fullName := self.fullName.descriptor (layout.referents 2)
  logonScript := self.logonScript.descriptor (layout.referents 3)
  profilePath := self.profilePath.descriptor (layout.referents 4)
  homeDirectory := self.homeDirectory.descriptor (layout.referents 5)
  homeDirectoryDrive := self.homeDirectoryDrive.descriptor (layout.referents 6)
  logonCount := self.logonCount
  badPasswordCount := self.badPasswordCount
  userId := self.userId
  primaryGroupId := self.primaryGroupId
  groupCount := self.groupCount
  groupIdsRef := pointer (self.groupIds ≠ []) (layout.referents 7)
  userFlags := self.userFlags
  userSessionKey := self.userSessionKey
  logonServer := self.logonServer.descriptor (layout.referents 8)
  logonDomainName := self.logonDomainName.descriptor (layout.referents 9)
  logonDomainIdRef := pointer self.logonDomainId.isSome (layout.referents 10)
  reserved1 := self.reserved1
  userAccountControl := self.userAccountControl
  subAuthStatus := self.subAuthStatus
  lastSuccessfulIlogon := self.lastSuccessfulIlogon
  lastFailedIlogon := self.lastFailedIlogon
  failedIlogonCount := self.failedIlogonCount
  reserved3 := self.reserved3
  sidCount := self.sidCount
  extraSidsRef := pointer (self.extraSids ≠ []) (layout.referents 11)
  resourceGroupDomainSidRef := pointer self.resourceGroupDomainSid.isSome (layout.referents 12)
  resourceGroupCount := self.resourceGroupCount
  resourceGroupIdsRef := pointer (self.resourceGroupIds ≠ []) (layout.referents 13)

def deferred : Bytes :=
  self.effectiveName.deferred ++ (self.fullName.deferred ++ (self.logonScript.deferred ++
  (self.profilePath.deferred ++ (self.homeDirectory.deferred ++ (self.homeDirectoryDrive.deferred ++
  (GroupMembership.deferred self.groupIds ++ (self.logonServer.deferred ++
  (self.logonDomainName.deferred ++ (Sid.deferred self.logonDomainId ++
  (SidAndAttributes.deferred (fun i ↦ layout.referents (14 + i)) self.extraSids ++
  (Sid.deferred self.resourceGroupDomainSid ++
  GroupMembership.deferred self.resourceGroupIds)))))))))))

/-- The header with the object length, a pointer to the object, its fixed and its deferred part. -/
def encode : Bytes :=
  let object := u32ToLeBytes (layout.referents 0).val ++ ((self.fixed layout).encode ++
    (self.deferred layout ++ zeros layout.objectPadding))
  [0x01, 0x10, 0x08, 0x00] ++ (u32ToLeBytes layout.fill ++ (u32ToLeBytes (UInt32.ofNat object.length) ++
    (u32ToLeBytes layout.reserved ++ (object ++ zeros layout.padding))))

def strings : List RpcUnicodeString :=
  [self.effectiveName, self.fullName, self.logonScript, self.profilePath, self.homeDirectory,
    self.homeDirectoryDrive, self.logonServer, self.logonDomainName]

def sids : List Sid :=
  self.logonDomainId.toList ++ self.extraSids.map SidAndAttributes.sid ++ self.resourceGroupDomainSid.toList

structure Encodable (info : KerbValidationInfo) : Prop where
  strings : ∀ string ∈ info.strings, string.Encodable
  sids : ∀ sid ∈ info.sids, sid.Encodable
  groupCount : info.groupCount.toNat = info.groupIds.length
  sidCount : info.sidCount.toNat = info.extraSids.length
  resourceGroupCount : info.resourceGroupCount.toNat = info.resourceGroupIds.length
  groups_le : info.groupIds.length ≤ maxReasonableNdrCount.toNat
  sids_le : info.extraSids.length ≤ maxReasonableNdrCount.toNat
  resourceGroups_le : info.resourceGroupIds.length ≤ maxReasonableNdrCount.toNat

end KerbValidationInfo

section Blocks

theorem dvd_length_padded (bytes : Bytes) : 4 ∣ (padded bytes).length := by
  rw [padded, List.length_append, length_zeros]
  exact dvd_add_padding (by decide) _

theorem readsAt_align4 {phase : ℕ} {bytes : Bytes} (h : bytes.length % 4 = phase % 4) :
    ReadsAt 4 phase (align 4) (zeros (padding 4 bytes.length)) () :=
  readsAt_align (by decide) (by decide) (Nat.dvd_refl 4) (by rw [length_zeros]; exact padding_congr h)

theorem reads_reasonable (target : String) {count : UInt32} (h : count ≤ maxReasonableNdrCount) :
    Reads (readReasonableCount target) (u32ToLeBytes count) count := by
  have hcount : reasonable target count = .ok count := by
    rw [reasonable, ensure_of h, ok_bind]
    rfl
  exact (reads_readU32 count).last (.lift hcount)

theorem reads_descriptor (descriptor : RpcUnicodeStringDescriptor) :
    Reads RpcUnicodeStringDescriptor.read descriptor.encode descriptor :=
  (reads_readU16 _).bind ((reads_readU16 _).bind ((reads_readU32 _).last (.pure _)))

theorem reads_group (group : GroupMembership) : Reads readGroupMembership group.encode group :=
  (reads_readU32 _).bind ((reads_readU32 _).last (.pure _))

theorem toNat_ofNat_length {n : ℕ} (h : n < 2 ^ 32) : (UInt32.ofNat n).toNat = n :=
  UInt32.toNat_ofNat_of_lt h

/-- A string that is there reads back with its code units. -/
theorem readsAt_varyingUnits (target : String) {maximum : ℕ} {units : List UInt16}
    (hunits : units.length ≤ maximum) (hmaximum : maximum ≤ maxReasonableNdrCount.toNat) :
    ReadsAt 4 0 (readVaryingUnits readReasonableCount readU32 target)
      (padded (u32ToLeBytes (UInt32.ofNat maximum) ++ (u32ToLeBytes 0 ++
        (u32ToLeBytes (UInt32.ofNat units.length) ++ units.flatMap u16ToLeBytes)))) units := by
  have hcap : maxReasonableNdrCount.toNat < 2 ^ 32 := by decide
  have hmax : (UInt32.ofNat maximum).toNat = maximum := toNat_ofNat_length (by omega)
  have hactual : (UInt32.ofNat units.length).toNat = units.length := toNat_ofNat_length (by omega)
  have hbounds : (0 : UInt32) ≤ UInt32.ofNat maximum ∧
      UInt32.ofNat units.length ≤ UInt32.ofNat maximum - 0 := by
    rw [UInt32.sub_zero, UInt32.le_iff_toNat_le, UInt32.le_iff_toNat_le, hmax, hactual]
    exact ⟨Nat.zero_le _, hunits⟩
  have hread : Reads (times readU16 (UInt32.ofNat units.length).toNat) (units.flatMap u16ToLeBytes) units := by
    rw [hactual]
    exact .times fun unit _ ↦ reads_readU16 unit
  rw [padded, List.append_assoc, List.append_assoc, List.append_assoc]
  have hmaximum' : UInt32.ofNat maximum ≤ maxReasonableNdrCount := by
    rw [UInt32.le_iff_toNat_le, hmax]
    exact hmaximum
  have hunits' : UInt32.ofNat units.length ≤ maxReasonableNdrCount := by
    rw [UInt32.le_iff_toNat_le, hactual]
    exact hunits.trans hmaximum
  refine ((reads_reasonable target hmaximum').readsAt _ _).bind ?_
  refine ((reads_readU32 0).readsAt _ _).bind ?_
  refine ((reads_reasonable target hunits').readsAt _ _).bind ?_
  refine .skip (.lift (ensure_of hbounds _)) ?_
  refine (hread.readsAt _ _).bind ((readsAt_align4 ?_).last (.pure units))
  simp only [List.length_append, length_u32ToLeBytes]
  omega

theorem readsAt_string (target : String) {string : RpcUnicodeString} (h : string.Encodable)
    (referent : Referent) :
    ReadsAt 4 0 (readDeferredUnicodeString (string.descriptor referent) target) string.deferred string := by
  have heven : string.length.toNat % 2 = 0 := by
    rw [h.length_eq]
    omega
  have hhalf : string.length.toNat / 2 = (Utf16.encode string.value).length := by
    rw [h.length_eq]
    omega
  rw [readDeferredUnicodeString]
  refine .skip (.lift (ensure_of h.le_maximum _)) (.skip (.lift (ensure_of heven _)) ?_)
  by_cases hempty : string.value = ""
  · have hpointer : (string.descriptor referent).referentId = 0 := by
      rw [RpcUnicodeString.descriptor, pointer, if_neg (not_not.mpr hempty)]
    rw [if_pos hpointer, RpcUnicodeString.deferred, if_pos hempty, ← hempty]
    exact .pure string
  · have hpointer : (string.descriptor referent).referentId ≠ 0 := by
      rw [RpcUnicodeString.descriptor, pointer, if_pos hempty]
      exact referent.property
    have hmaximum : string.maximumLength.toNat / 2 ≤ maxReasonableNdrCount.toNat := by
      have hlt := string.maximumLength.toNat_lt
      have hcap : maxReasonableNdrCount.toNat = 1000000 := rfl
      omega
    have hunits : (Utf16.encode string.value).length ≤ string.maximumLength.toNat / 2 := by
      have hle := UInt16.le_iff_toNat_le.mp h.le_maximum
      omega
    have hlogical : string.length.toNat / 2 ≤ (Utf16.encode string.value).length := Nat.le_of_eq hhalf
    have hvalue : fromUtf16 target ((Utf16.encode string.value).take (string.length.toNat / 2)) =
        .ok string.value := by
      rw [hhalf, List.take_length, fromUtf16, Utf16.decode_encode]
      rfl
    rw [if_neg hpointer, RpcUnicodeString.deferred, if_neg hempty, hhalf]
    refine (readsAt_varyingUnits target hunits hmaximum).last ?_
    refine .skip (.lift (ensure_of hlogical _)) (.skip (.lift hvalue) (.pure string))

theorem readsAt_readSid (target : String) {sid : Sid} (h : sid.Encodable) :
    ReadsAt 4 0 (readSid target) sid.encode sid := by
  obtain ⟨hrevision, hlength⟩ := h
  have hcap : maxReasonableNdrCount.toNat = 1000000 := rfl
  have hmax : (UInt32.ofNat sid.subAuthorities.length).toNat = sid.subAuthorities.length :=
    toNat_ofNat_length (by omega)
  have hcount : (UInt8.ofNat sid.subAuthorities.length).toNat = sid.subAuthorities.length :=
    UInt8.toNat_ofNat_of_lt (by simp only [UInt8.size]; omega)
  have hreasonable : UInt32.ofNat sid.subAuthorities.length ≤ maxReasonableNdrCount := by
    rw [UInt32.le_iff_toNat_le, hmax]
    omega
  have hbounds : (UInt8.ofNat sid.subAuthorities.length).toNat ≤
      (UInt32.ofNat sid.subAuthorities.length).toNat ∧ UInt8.ofNat sid.subAuthorities.length ≤ 15 := by
    rw [UInt8.le_iff_toNat_le, hmax, hcount]
    exact ⟨Nat.le_refl _, hlength⟩
  have hsubs : Reads (times readU32 (UInt8.ofNat sid.subAuthorities.length).toNat)
      (sid.subAuthorities.flatMap u32ToLeBytes) sid.subAuthorities := by
    rw [hcount]
    exact .times fun sub _ ↦ reads_readU32 sub
  rw [Sid.encode, padded, List.append_assoc, List.append_assoc, List.append_assoc, List.append_assoc]
  refine ((reads_reasonable target hreasonable).readsAt _ _).bind ?_
  refine ((reads_readU8 sid.revision).readsAt _ _).bind ?_
  refine ((reads_readU8 _).readsAt _ _).bind ?_
  refine .skip (.lift (ensure_of hrevision _)) (.skip (.lift (ensure_of hbounds _)) ?_)
  refine ((reads_readArray sid.identifierAuthority).readsAt _ _).bind ?_
  refine (hsubs.readsAt _ _).bind ((readsAt_align4 ?_).last (.pure sid))
  simp only [List.length_append, length_u32ToLeBytes, List.length_singleton]
  omega

theorem readsAt_deferredSid (target : String) {sid : Option Sid} (h : ∀ s ∈ sid, s.Encodable)
    (referent : Referent) :
    ReadsAt 4 0 (readDeferredSid (pointer sid.isSome referent) target) (Sid.deferred sid) sid := by
  cases sid with
  | none => exact .pure none
  | some sid =>
    have hpointer : pointer (some sid).isSome referent ≠ 0 := referent.property
    rw [readDeferredSid, if_neg hpointer]
    exact ReadsAt.map some (readsAt_readSid target (h sid rfl))

/-- An array reads back when its items do. -/
theorem readsAt_deferredArray {α : Type} {items : ℕ → PacReader (List α)} {as : List α} {bytes : Bytes}
    {count : UInt32} (target : String) (referent : Referent) [Decidable (as = [])]
    (hcount : count.toNat = as.length) (hcap : as.length ≤ maxReasonableNdrCount.toNat)
    (hitems : ReadsAt 4 0 (items as.length) bytes as) :
    ReadsAt 4 0 (readDeferredArray readReasonableCount items (pointer (as ≠ []) referent) count target)
      (if as = [] then [] else u32ToLeBytes (UInt32.ofNat as.length) ++ bytes) as := by
  have hlength : UInt32.ofNat as.length = count := by rw [← hcount, UInt32.ofNat_toNat]
  rw [readDeferredArray]
  by_cases hempty : as = []
  · have hzero : count = 0 := by
      rw [← hlength, hempty]
      rfl
    have hpointer : pointer (as ≠ []) referent = 0 := if_neg (not_not.mpr hempty)
    rw [if_pos hpointer, if_pos hzero, if_pos hempty, hempty]
    exact .pure []
  · have hpointer : pointer (as ≠ []) referent ≠ 0 := by
      rw [pointer, if_pos hempty]
      exact referent.property
    have hreasonable : count ≤ maxReasonableNdrCount := by
      rw [UInt32.le_iff_toNat_le, hcount]
      exact hcap
    rw [if_neg hpointer, if_neg hempty, hlength]
    refine ((reads_reasonable target hreasonable).readsAt _ _).bind_block (by simp) ?_
    refine .skip (.lift (ensure_of rfl _)) ?_
    rw [hcount]
    exact hitems

theorem readsAt_groups (target : String) {groups : List GroupMembership} {count : UInt32}
    (hcount : count.toNat = groups.length) (hcap : groups.length ≤ maxReasonableNdrCount.toNat)
    (referent : Referent) :
    ReadsAt 4 0 (readDeferredGroupMemberships (pointer (groups ≠ []) referent) count target)
      (GroupMembership.deferred groups) groups :=
  readsAt_deferredArray target referent hcount hcap
    ((Reads.times fun group _ ↦ reads_group group).readsAt 4 0)

theorem reads_pair (pair : UInt32 × UInt32) :
    Reads (do return (← readU32, ← readU32)) (u32ToLeBytes pair.1 ++ u32ToLeBytes pair.2) pair :=
  (reads_readU32 pair.1).bind ((reads_readU32 pair.2).last (.pure (pair.1, pair.2)))

theorem readsAt_requiredSid (target : String) {sid : Sid} (h : sid.Encodable) (referent : Referent) :
    ReadsAt 4 0 (readRequiredSid referent.val target) sid.encode sid := by
  have hsome : ∀ s ∈ some sid, s.Encodable := by simpa using h
  exact (readsAt_deferredSid target hsome referent).last (.lift rfl)

theorem readsAt_sids (target : String) {sids : List SidAndAttributes} {count : UInt32}
    (hsids : ∀ sid ∈ sids, sid.sid.Encodable) (hcount : count.toNat = sids.length)
    (hcap : sids.length ≤ maxReasonableNdrCount.toNat) (referent : Referent) (referents : ℕ → Referent) :
    ReadsAt 4 0 (readDeferredSidAndAttributes (pointer (sids ≠ []) referent) count target)
      (SidAndAttributes.deferred referents sids) sids := by
  refine readsAt_deferredArray target referent hcount hcap ?_
  let describe (indexed : SidAndAttributes × ℕ) : UInt32 × UInt32 :=
    ((referents indexed.2).val, indexed.1.attributes)
  have hpairs : Reads (times (do return (← readU32, ← readU32)) sids.length)
      (sids.zipIdx.flatMap fun indexed ↦
        u32ToLeBytes (referents indexed.2).val ++ u32ToLeBytes indexed.1.attributes)
      (sids.zipIdx.map describe) := by
    have htimes : Reads (times (do return (← readU32, ← readU32)) (sids.zipIdx.map describe).length)
        ((sids.zipIdx.map describe).flatMap fun pair ↦ u32ToLeBytes pair.1 ++ u32ToLeBytes pair.2)
        (sids.zipIdx.map describe) := .times fun pair _ ↦ reads_pair pair
    rwa [List.length_map, List.length_zipIdx, List.flatMap_map] at htimes
  have hsid : ∀ indexed ∈ sids.zipIdx,
      ReadsAt 4 0 (readSidAndAttributes target (describe indexed)) indexed.1.sid.encode indexed.1 := by
    intro indexed hmem
    have hin : indexed.1 ∈ sids := by
      rw [← List.zipIdx_map_fst 0 sids]
      exact List.mem_map_of_mem hmem
    exact (readsAt_requiredSid target (hsids _ hin) _).last (.pure indexed.1)
  have hpass : ReadsAt 4 0 ((sids.zipIdx.map describe).mapM (readSidAndAttributes target))
      (sids.zipIdx.flatMap fun indexed ↦ indexed.1.sid.encode) (sids.zipIdx.map Prod.fst) :=
    .each hsid fun _ _ ↦ dvd_length_padded _
  rw [List.zipIdx_map_fst] at hpass
  exact (hpairs.readsAt 4 0).bind_block (dvd_length_flatMap fun _ _ ↦ by simp) hpass

end Blocks

section Layouts

variable {info : KerbValidationInfo} {layout : KerbValidationInfo.Layout}

theorem reads_readFixed (fixed : KerbValidationInfo.Fixed) :
    Reads KerbValidationInfo.readFixed fixed.encode fixed :=
  (reads_readFiletime _).bind <| (reads_readFiletime _).bind <| (reads_readFiletime _).bind <|
  (reads_readFiletime _).bind <| (reads_readFiletime _).bind <| (reads_readFiletime _).bind <|
  (reads_descriptor _).bind <| (reads_descriptor _).bind <| (reads_descriptor _).bind <|
  (reads_descriptor _).bind <| (reads_descriptor _).bind <| (reads_descriptor _).bind <|
  (reads_readU16 _).bind <| (reads_readU16 _).bind <| (reads_readU32 _).bind <| (reads_readU32 _).bind <|
  (reads_readU32 _).bind <| (reads_readU32 _).bind <| (reads_readU32 _).bind <| (reads_readArray _).bind <|
  (reads_descriptor _).bind <| (reads_descriptor _).bind <| (reads_readU32 _).bind <|
  (reads_readU32 _).bind <| (reads_readU32 _).bind <| (reads_readU32 _).bind <| (reads_readU32 _).bind <|
  (reads_readFiletime _).bind <| (reads_readFiletime _).bind <| (reads_readU32 _).bind <|
  (reads_readU32 _).bind <| (reads_readU32 _).bind <| (reads_readU32 _).bind <| (reads_readU32 _).bind <|
  (reads_readU32 _).bind <| (reads_readU32 _).last <| .pure fixed

theorem dvd_length_string (string : RpcUnicodeString) : 4 ∣ string.deferred.length := by
  rw [RpcUnicodeString.deferred]
  split
  · exact Nat.dvd_zero 4
  · exact dvd_length_padded _

theorem dvd_length_sid (sid : Option Sid) : 4 ∣ (Sid.deferred sid).length := by
  cases sid with
  | none => exact Nat.dvd_zero 4
  | some sid => exact dvd_length_padded _

theorem dvd_length_groups (groups : List GroupMembership) : 4 ∣ (GroupMembership.deferred groups).length := by
  rw [GroupMembership.deferred]
  split
  · exact Nat.dvd_zero 4
  · rw [List.length_append]
    exact Nat.dvd_add (by simp) (dvd_length_flatMap fun group _ ↦ by simp [GroupMembership.encode])

theorem dvd_length_sids (referents : ℕ → Referent) (sids : List SidAndAttributes) :
    4 ∣ (SidAndAttributes.deferred referents sids).length := by
  rw [SidAndAttributes.deferred]
  split
  · exact Nat.dvd_zero 4
  · rw [List.length_append, List.length_append]
    refine Nat.dvd_add (by simp) (Nat.dvd_add ?_ ?_)
    · exact dvd_length_flatMap fun _ _ ↦ by simp
    · exact dvd_length_flatMap fun _ _ ↦ dvd_length_padded _

/-- The deferred values are read in the order in which they are written. -/
theorem readsAt_readDeferred (h : info.Encodable) :
    ReadsAt 4 0 (KerbValidationInfo.readDeferred (info.fixed layout)) (info.deferred layout) info := by
  have hstring {string : RpcUnicodeString} (hmem : string ∈ info.strings) (target : String) (i : ℕ) :=
    readsAt_string target (h.strings string hmem) (layout.referents i)
  have hsids := h.sids
  simp only [KerbValidationInfo.sids, List.mem_append, List.mem_map, Option.mem_toList] at hsids
  have hdomain : ∀ sid ∈ info.logonDomainId, sid.Encodable := fun sid hmem ↦ hsids sid (.inl (.inl hmem))
  have hextra : ∀ sid ∈ info.extraSids, sid.sid.Encodable :=
    fun sid hmem ↦ hsids sid.sid (.inl (.inr ⟨sid, hmem, rfl⟩))
  have hresource : ∀ sid ∈ info.resourceGroupDomainSid, sid.Encodable := fun sid hmem ↦ hsids sid (.inr hmem)
  exact (hstring (by simp [KerbValidationInfo.strings]) _ 1).bind_block (dvd_length_string _) <|
    (hstring (by simp [KerbValidationInfo.strings]) _ 2).bind_block (dvd_length_string _) <|
    (hstring (by simp [KerbValidationInfo.strings]) _ 3).bind_block (dvd_length_string _) <|
    (hstring (by simp [KerbValidationInfo.strings]) _ 4).bind_block (dvd_length_string _) <|
    (hstring (by simp [KerbValidationInfo.strings]) _ 5).bind_block (dvd_length_string _) <|
    (hstring (by simp [KerbValidationInfo.strings]) _ 6).bind_block (dvd_length_string _) <|
    (readsAt_groups _ h.groupCount h.groups_le (layout.referents 7)).bind_block (dvd_length_groups _) <|
    (hstring (by simp [KerbValidationInfo.strings]) _ 8).bind_block (dvd_length_string _) <|
    (hstring (by simp [KerbValidationInfo.strings]) _ 9).bind_block (dvd_length_string _) <|
    (readsAt_deferredSid _ hdomain (layout.referents 10)).bind_block (dvd_length_sid _) <|
    (readsAt_sids _ hextra h.sidCount h.sids_le (layout.referents 11) _).bind_block (dvd_length_sids _ _) <|
    (readsAt_deferredSid _ hresource (layout.referents 12)).bind_block (dvd_length_sid _) <|
    (readsAt_groups _ h.resourceGroupCount h.resourceGroups_le (layout.referents 13)).last <| .pure info

theorem length_descriptor (descriptor : RpcUnicodeStringDescriptor) : descriptor.encode.length = 8 := by
  simp [RpcUnicodeStringDescriptor.encode]

theorem length_fixed (fixed : KerbValidationInfo.Fixed) : fixed.encode.length = 216 := by
  simp only [KerbValidationInfo.Fixed.encode, List.length_append, length_u64ToLeBytes, length_u32ToLeBytes,
    length_u16ToLeBytes, length_descriptor, List.Vector.toList_length]

theorem reads_readNdrHeader (target : String) {len : ℕ} {fill objectLen reserved referent : UInt32}
    (hlen : 20 ≤ len) (hobject : objectLen.toNat ≤ len - 16) (hreferent : referent ≠ 0) :
    Reads (readNdrHeader len target)
      ([0x01] ++ ([0x10] ++ ([0x08] ++ ([0x00] ++ (u32ToLeBytes fill ++ (u32ToLeBytes objectLen ++
        (u32ToLeBytes reserved ++ u32ToLeBytes referent))))))) () := by
  have hheader : (1 : UInt8) = 1 ∧ (0x10 : UInt8) = 0x10 ∧ (0x08 : UInt8) = 0x08 ∧ (0 : UInt8) = 0 :=
    ⟨rfl, rfl, rfl, rfl⟩
  refine .skip (.lift (ensure_of hlen _)) ?_
  refine (reads_readU8 _).bind <| (reads_readU8 _).bind <| (reads_readU8 _).bind <| (reads_readU8 _).bind ?_
  refine .skip (.lift (ensure_of hheader _)) ?_
  refine (reads_readU32 _).bind <| (reads_readU32 _).bind <| (reads_readU32 _).bind ?_
  refine .skip (.lift (ensure_of hobject _)) ?_
  exact (reads_readU32 _).last (.lift (ensure_of hreferent _))

theorem run_readNdrWrapper (target : String) {fill objectLen reserved referent : UInt32} {rest : Bytes}
    (hobject : objectLen.toNat ≤ 4 + rest.length) (hreferent : referent ≠ 0) :
    (readNdrWrapper target).run ⟨0, [0x01, 0x10, 0x08, 0x00] ++ (u32ToLeBytes fill ++
      (u32ToLeBytes objectLen ++ (u32ToLeBytes reserved ++ (u32ToLeBytes referent ++ rest))))⟩ =
      .ok ((), ⟨20, rest⟩) := by
  have hlength : ([0x01, 0x10, 0x08, 0x00] ++ (u32ToLeBytes fill ++ (u32ToLeBytes objectLen ++
      (u32ToLeBytes reserved ++ (u32ToLeBytes referent ++ rest))))).length = 20 + rest.length := by
    simp only [List.length_append, length_u32ToLeBytes, List.length_cons, List.length_nil]
    omega
  have hread : Reads (readNdrHeader (20 + rest.length) target)
      ([0x01] ++ ([0x10] ++ ([0x08] ++ ([0x00] ++ (u32ToLeBytes fill ++ (u32ToLeBytes objectLen ++
        (u32ToLeBytes reserved ++ u32ToLeBytes referent))))))) () :=
    reads_readNdrHeader target (by omega) (by omega) hreferent
  rw [readNdrWrapper, run_get_bind, hlength, Nat.zero_add]
  simpa using hread 0 rest

theorem dvd_length_deferred (info : KerbValidationInfo) (layout : KerbValidationInfo.Layout) :
    4 ∣ (info.deferred layout).length := by
  simp only [KerbValidationInfo.deferred, List.length_append]
  exact Nat.dvd_add (dvd_length_string _) <| Nat.dvd_add (dvd_length_string _) <|
    Nat.dvd_add (dvd_length_string _) <| Nat.dvd_add (dvd_length_string _) <|
    Nat.dvd_add (dvd_length_string _) <| Nat.dvd_add (dvd_length_string _) <|
    Nat.dvd_add (dvd_length_groups _) <| Nat.dvd_add (dvd_length_string _) <|
    Nat.dvd_add (dvd_length_string _) <| Nat.dvd_add (dvd_length_sid _) <|
    Nat.dvd_add (dvd_length_sids _ _) <| Nat.dvd_add (dvd_length_sid _) (dvd_length_groups _)

theorem run_ensureZeros (trailing : ℕ → Error) {offset n : ℕ} (h : 4 ∣ offset) :
    (ensureZeros trailing).run ⟨offset, zeros n⟩ = .ok ((), ⟨offset, zeros n⟩) := by
  have halign : (align 4).run ⟨offset, zeros n⟩ = .ok ((), ⟨offset, zeros n⟩) := by
    rw [run_align (by decide) (by decide), padding_of_dvd h]
    rfl
  have hzeros : (zeros n).all (· = 0) = true :=
    List.all_eq_true.mpr fun byte hmem ↦ decide_eq_true (List.eq_of_mem_replicate hmem)
  rw [ensureZeros, run_bind_of_ok halign, run_get_bind]
  exact run_lift_eq_ok.mpr ⟨ensure_of hzeros _, rfl⟩

/-- Parsing gives back every value from its encoding, with any choice of what an encoding leaves open. -/
theorem kerbValidationInfo_roundTrip (h : info.Encodable) (layout : KerbValidationInfo.Layout) :
    KerbValidationInfo.parse (info.encode layout) = .ok info := by
  generalize hrest : (info.fixed layout).encode ++ (info.deferred layout ++
    zeros (layout.objectPadding + layout.padding)) = rest
  have hzeros : zeros (layout.objectPadding + layout.padding) =
      zeros layout.objectPadding ++ zeros layout.padding := by simp [zeros]
  obtain ⟨objectLen, hobjectLen⟩ : ∃ n, n = (u32ToLeBytes (layout.referents 0).val ++
      ((info.fixed layout).encode ++ (info.deferred layout ++ zeros layout.objectPadding))).length := ⟨_, rfl⟩
  have hencode : info.encode layout = [0x01, 0x10, 0x08, 0x00] ++ (u32ToLeBytes layout.fill ++
      (u32ToLeBytes (UInt32.ofNat objectLen) ++ (u32ToLeBytes layout.reserved ++
        (u32ToLeBytes (layout.referents 0).val ++ rest)))) := by
    rw [hobjectLen, ← hrest, hzeros]
    simp only [KerbValidationInfo.encode, List.append_assoc]
  have hobject : (UInt32.ofNat objectLen).toNat ≤ 4 + rest.length := by
    have hmod : (UInt32.ofNat objectLen).toNat ≤ objectLen := by
      rw [UInt32.toNat_ofNat']
      exact Nat.mod_le _ _
    have hlength : objectLen ≤ 4 + rest.length := by
      rw [hobjectLen, ← hrest, hzeros]
      simp only [List.length_append, length_u32ToLeBytes]
      omega
    exact hmod.trans hlength
  have hdvd : 4 ∣ 20 + (info.fixed layout).encode.length := by
    rw [length_fixed]
    decide
  have hend : 4 ∣ 20 + (info.fixed layout).encode.length + (info.deferred layout).length :=
    Nat.dvd_add hdvd (dvd_length_deferred info layout)
  rw [KerbValidationInfo.parse, hencode, parseWith_eq_ok]
  refine ⟨⟨20 + (info.fixed layout).encode.length + (info.deferred layout).length,
    zeros (layout.objectPadding + layout.padding)⟩, ?_⟩
  rw [run_bind_of_ok (run_readNdrWrapper _ hobject (layout.referents 0).property), ← hrest,
    run_bind_of_ok (reads_readFixed _ _ _),
    run_bind_of_ok (readsAt_readDeferred h _ _ (Nat.mod_eq_zero_of_dvd hdvd)),
    run_bind_of_ok (run_ensureZeros _ hend)]
  rfl

def stringOf (value : String) : RpcUnicodeString :=
  let length := UInt16.ofNat (2 * (Utf16.encode value).length)
  { length, maximumLength := length + 2, value }

def domainSid : Sid := ⟨1, ⟨[0, 0, 0, 0, 0, 5], rfl⟩, [21, 3167651404, 3865080224, 2280184895]⟩

def sampleInfo : KerbValidationInfo where
  logonTime := ⟨131385824862920000⟩
  logoffTime := ⟨0x7fffffffffffffff⟩
  kickoffTime := ⟨0x7fffffffffffffff⟩
  passwordLastSet := ⟨131385768000000000⟩
  passwordCanChange := ⟨131386632000000000⟩
  passwordMustChange := ⟨0x7fffffffffffffff⟩
  effectiveName := stringOf "testuser1"
  fullName := stringOf "Zoë 😀"
  logonScript := stringOf ""
  profilePath := stringOf ""
  homeDirectory := stringOf ""
  homeDirectoryDrive := stringOf ""
  logonCount := 216
  badPasswordCount := 0
  userId := 1105
  primaryGroupId := 513
  groupCount := 2
  groupIds := [⟨513, 7⟩, ⟨1110, 7⟩]
  userFlags := 544
  userSessionKey := ⟨zeros 16, length_zeros 16⟩
  logonServer := stringOf "ADDC"
  logonDomainName := stringOf "TEST"
  logonDomainId := some domainSid
  reserved1 := (0, 0)
  userAccountControl := 16
  subAuthStatus := 0
  lastSuccessfulIlogon := ⟨0⟩
  lastFailedIlogon := ⟨0⟩
  failedIlogonCount := 0
  reserved3 := 0
  sidCount := 1
  extraSids := [⟨⟨1, ⟨[0, 0, 0, 0, 0, 18], rfl⟩, [1]⟩, 7⟩]
  resourceGroupDomainSid := none
  resourceGroupCount := 0
  resourceGroupIds := []

def sampleLayout : KerbValidationInfo.Layout where
  fill := 0xcccccccc
  reserved := 0
  referents i := if h : UInt32.ofNat (0x20000 + 4 * i) ≠ 0 then ⟨_, h⟩ else ⟨1, by decide⟩
  objectPadding := 4
  padding := 0

theorem encodable_sampleInfo : sampleInfo.Encodable := by
  have hstrings : ∀ string ∈ sampleInfo.strings, string.length.toNat = 2 * (Utf16.encode string.value).length ∧
      string.length ≤ string.maximumLength := by decide
  have hsids : ∀ sid ∈ sampleInfo.sids, sid.revision = 1 ∧ sid.subAuthorities.length ≤ 15 := by decide
  exact {
    strings := fun string hmem ↦ ⟨(hstrings string hmem).1, (hstrings string hmem).2⟩
    sids := fun sid hmem ↦ ⟨(hsids sid hmem).1, (hsids sid hmem).2⟩
    groupCount := rfl
    sidCount := rfl
    resourceGroupCount := rfl
    groups_le := by decide
    sids_le := by decide
    resourceGroups_le := by decide }

theorem kerbValidationInfo_roundTrip_sample :
    KerbValidationInfo.parse (sampleInfo.encode sampleLayout) = .ok sampleInfo :=
  kerbValidationInfo_roundTrip encodable_sampleInfo sampleLayout

end Layouts

end Rskrb5.Pac
