import Rskrb5.Lib.Lists
import Rskrb5.Pac.ValidationInfo

namespace Rskrb5.Pac

open Lib.Lists

section Text

def hexByte (byte : UInt8) : String :=
  String.ofList [Nat.digitChar (byte.toNat / 16), Nat.digitChar (byte.toNat % 16)]

def Sid.authority (self : Sid) : ℕ := beNat self.identifierAuthority.toList

def Sid.authorityText (self : Sid) : String :=
  if 0xffffffff < self.authority then "0x" ++ String.join (self.identifierAuthority.toList.map hexByte)
  else toString self.authority

def Sid.toString (self : Sid) : String :=
  s!"S-{self.revision}-{self.authorityText}" ++
    String.join (self.subAuthorities.map fun subAuthority ↦ s!"-{subAuthority}")

instance : ToString Sid := ⟨Sid.toString⟩

/-- The account that a relative identifier names in a domain. -/
def Sid.extend (domain : Sid) (relativeId : UInt32) : Sid :=
  { domain with subAuthorities := domain.subAuthorities ++ [relativeId] }

end Text

section Unions

/-- The group identifiers under a domain, when there is a domain. -/
def extendedSids (domain : Option Sid) (groups : List GroupMembership) : List String :=
  domain.toList.flatMap fun domain ↦ groups.map fun group ↦ s!"{domain}-{group.relativeId}"

/-- Only what comes behind the first list is tested for being there already. -/
def uniteSids (sids : List String) (extraSids : List SidAndAttributes) (groupSids : List String) : List String :=
  groupSids.foldl pushNew ((extraSids.map fun extraSid ↦ toString extraSid.sid).foldl pushNew sids)

def KerbValidationInfo.groupMembershipSids (self : KerbValidationInfo) : List String :=
  uniteSids (extendedSids self.logonDomainId self.groupIds) self.extraSids
    (extendedSids self.resourceGroupDomainSid self.resourceGroupIds)

def DeviceInfo.groupMembershipSids (self : DeviceInfo) : List String :=
  uniteSids (extendedSids self.accountDomainId self.accountGroupIds) self.extraSids
    (self.domainGroup.flatMap fun domainGroup ↦ extendedSids (some domainGroup.domainId) domainGroup.groupIds)

end Unions

section Rendering

/-- The decimal digits of a number. -/
def digits (n : ℕ) : List Char := (toString n).toList

theorem digits_injective : Function.Injective digits := by
  intro m n h
  have hdigits : Nat.toDigits 10 m = Nat.toDigits 10 n := by
    rw [← Nat.toList_repr, ← Nat.toList_repr]
    exact h
  rw [← Nat.ofDigitChars_ten_toDigits (n := m), hdigits, Nat.ofDigitChars_ten_toDigits]

theorem isDigit_of_mem_digits {n : ℕ} {c : Char} (h : c ∈ digits n) : c.isDigit := by
  have hc : c ∈ Nat.toDigits 10 n := by
    rw [← Nat.toList_repr]
    exact h
  exact Nat.isDigit_of_mem_toDigits (by decide) (by decide) hc

theorem notMem_digits {n : ℕ} {c : Char} (h : c.isDigit = false) : c ∉ digits n :=
  fun hmem ↦ by simp [isDigit_of_mem_digits hmem] at h

theorem digitChar_injective : ∀ m < 16, ∀ n < 16, Nat.digitChar m = Nat.digitChar n → m = n := by decide

theorem hexByte_injective : Function.Injective fun byte ↦ (hexByte byte).toList := by
  intro a b h
  have ha := a.toNat_lt
  have hb := b.toNat_lt
  simp only [hexByte, String.toList_ofList, List.cons.injEq, and_true] at h
  have hhigh := digitChar_injective _ (by omega) _ (by omega) h.1
  have hlow := digitChar_injective _ (by omega) _ (by omega) h.2
  exact UInt8.toNat_inj.mp (by omega)

theorem dash_notMem_hexByte (byte : UInt8) : '-' ∉ (hexByte byte).toList := by
  have hdigit : ∀ n < 16, Nat.digitChar n ≠ '-' := by decide
  have hbyte := byte.toNat_lt
  simp only [hexByte, String.toList_ofList, List.mem_cons, List.not_mem_nil, or_false, not_or]
  exact ⟨(hdigit _ (by omega)).symm, (hdigit _ (by omega)).symm⟩

theorem toList_hexBytes (bytes : Bytes) :
    (String.join (bytes.map hexByte)).toList = bytes.flatMap fun byte ↦ (hexByte byte).toList := by
  rw [String.toList_join, List.flatMap_map]

/-- A decimal text and a hexadecimal one differ in their second character. -/
theorem authorityText_injective {sid sid' : Sid} (h : sid.authorityText.toList = sid'.authorityText.toList) :
    sid.identifierAuthority = sid'.identifierAuthority := by
  have hmixed : ∀ (n : ℕ) (text : String), (toString n).toList ≠ ("0x" ++ text).toList := by
    intro n text heq
    have hx : 'x' ∈ digits n := by
      rw [digits, heq]
      simp
    exact notMem_digits rfl hx
  apply List.Vector.toList_injective
  have hlength : sid.identifierAuthority.toList.length = sid'.identifierAuthority.toList.length := by simp
  rw [Sid.authorityText, Sid.authorityText] at h
  split at h <;> split at h
  · rw [String.toList_append, String.toList_append, toList_hexBytes, toList_hexBytes] at h
    exact flatMap_injective_of_length (n := 2) (fun byte ↦ by simp [hexByte]) hexByte_injective hlength
      (List.append_cancel_left h)
  · exact absurd h.symm (hmixed _ _)
  · exact absurd h (hmixed _ _)
  · exact beNat_injective hlength (digits_injective h)

theorem dash_notMem_authorityText (sid : Sid) : '-' ∉ sid.authorityText.toList := by
  rw [Sid.authorityText]
  split
  · rw [String.toList_append, toList_hexBytes, List.mem_append, List.mem_flatMap, not_or, not_exists]
    exact ⟨by decide, fun byte h ↦ dash_notMem_hexByte byte h.2⟩
  · exact notMem_digits rfl

/-- The text of an identifier as the fields between its dashes. -/
def Sid.fields (sid : Sid) : List (List Char) :=
  digits sid.revision.toNat :: sid.authorityText.toList :: sid.subAuthorities.map fun sub ↦ digits sub.toNat

theorem dash_notMem_fields (sid : Sid) : ∀ field ∈ sid.fields, '-' ∉ field := by
  intro field hfield
  obtain rfl | hfield := List.mem_cons.mp hfield
  · exact notMem_digits rfl
  obtain rfl | hfield := List.mem_cons.mp hfield
  · exact dash_notMem_authorityText sid
  obtain ⟨sub, -, rfl⟩ := List.mem_map.mp hfield
  exact notMem_digits rfl

theorem toList_toString (sid : Sid) : sid.toString.toList = 'S' :: separated '-' sid.fields := by
  have hsubs : (String.join (sid.subAuthorities.map fun sub ↦ s!"-{sub}")).toList =
      separated '-' (sid.subAuthorities.map fun sub ↦ digits sub.toNat) := by
    rw [String.toList_join, List.flatMap_map, separated, List.flatMap_map]
    apply List.flatMap_congr
    intro sub _
    simp [digits, toString]
  rw [Sid.toString, String.toList_append, hsubs]
  simp [Sid.fields, digits, toString]

/-- The rendering tells all identifiers apart. -/
theorem toString_injective : Function.Injective Sid.toString := by
  intro a b h
  have hlists : a.toString.toList = b.toString.toList := congrArg String.toList h
  rw [toList_toString, toList_toString] at hlists
  have hfields := separated_injective (dash_notMem_fields a) (dash_notMem_fields b) (List.cons.inj hlists).2
  obtain ⟨hrevision, hrest⟩ := List.cons.inj hfields
  obtain ⟨hauthority, hsubs⟩ := List.cons.inj hrest
  have hsub : Function.Injective fun sub : UInt32 ↦ digits sub.toNat :=
    fun _ _ hdigits ↦ UInt32.toNat_inj.mp (digits_injective hdigits)
  cases a
  cases b
  congr
  · exact UInt8.toNat_inj.mp (digits_injective hrevision)
  · exact authorityText_injective hauthority
  · exact List.map_injective_iff.mpr hsub hsubs

theorem toString_extend (domain : Sid) (relativeId : UInt32) :
    (domain.extend relativeId).toString = s!"{domain}-{relativeId}" := by
  apply String.toList_inj.mp
  have hfields : (domain.extend relativeId).fields = domain.fields ++ [digits relativeId.toNat] := by
    rw [Sid.fields, Sid.extend, List.map_append]
    rfl
  have hdomain : (toString domain).toList = 'S' :: separated '-' domain.fields := toList_toString domain
  rw [toList_toString, hfields, separated, List.flatMap_append]
  simp only [String.toList_append, hdomain]
  simp [separated, digits, toString]

end Rendering

section Exactness

/-- Each identifier of a set stands in the list once, and nothing else stands there. -/
structure IsExactUnion (sids : List String) (IsMember : Sid → Prop) : Prop where
  nodup : sids.Nodup
  mem_iff : ∀ text, text ∈ sids ↔ ∃ sid, IsMember sid ∧ text = sid.toString
  toString_mem_iff : ∀ sid : Sid, sid.toString ∈ sids ↔ IsMember sid

def IsExtended (domain : Option Sid) (groups : List GroupMembership) (sid : Sid) : Prop :=
  ∃ base ∈ domain, ∃ group ∈ groups, sid = base.extend group.relativeId

def KerbValidationInfo.IsMember (info : KerbValidationInfo) (sid : Sid) : Prop :=
  IsExtended info.logonDomainId info.groupIds sid ∨ (∃ extraSid ∈ info.extraSids, sid = extraSid.sid) ∨
    IsExtended info.resourceGroupDomainSid info.resourceGroupIds sid

def DeviceInfo.IsMember (info : DeviceInfo) (sid : Sid) : Prop :=
  IsExtended info.accountDomainId info.accountGroupIds sid ∨ (∃ extraSid ∈ info.extraSids, sid = extraSid.sid) ∨
    ∃ domainGroup ∈ info.domainGroup, IsExtended (some domainGroup.domainId) domainGroup.groupIds sid

/-- No group is listed twice under a domain. -/
def GroupsDistinct (domain : Option Sid) (groups : List GroupMembership) : Prop :=
  domain.isSome → (groups.map GroupMembership.relativeId).Nodup

theorem mem_extendedSids {domain : Option Sid} {groups : List GroupMembership} {text : String} :
    text ∈ extendedSids domain groups ↔ ∃ sid, IsExtended domain groups sid ∧ text = sid.toString := by
  rw [extendedSids, List.mem_flatMap]
  constructor
  · intro h
    obtain ⟨base, hbase, htext⟩ := h
    obtain ⟨group, hgroup, rfl⟩ := List.mem_map.mp htext
    exact ⟨_, ⟨base, Option.mem_toList.mp hbase, group, hgroup, rfl⟩, (toString_extend _ _).symm⟩
  · intro h
    obtain ⟨_, ⟨base, hbase, group, hgroup, rfl⟩, rfl⟩ := h
    exact ⟨base, Option.mem_toList.mpr hbase, List.mem_map.mpr ⟨group, hgroup, (toString_extend _ _).symm⟩⟩

theorem extend_injective (domain : Sid) : Function.Injective domain.extend := by
  intro a b h
  have hsubs := List.append_cancel_left (congrArg Sid.subAuthorities h)
  exact (List.cons.inj hsubs).1

theorem nodup_extendedSids {domain : Option Sid} {groups : List GroupMembership} :
    (extendedSids domain groups).Nodup ↔ GroupsDistinct domain groups := by
  cases domain with
  | none => simp [extendedSids, GroupsDistinct]
  | some base =>
    have hmap : extendedSids (some base) groups =
        (groups.map GroupMembership.relativeId).map fun relativeId ↦ (base.extend relativeId).toString := by
      simp [extendedSids, toString_extend]
    have hinjective : Function.Injective fun relativeId ↦ (base.extend relativeId).toString :=
      toString_injective.comp (extend_injective base)
    rw [hmap, List.nodup_map_iff hinjective, GroupsDistinct]
    simp

theorem mem_uniteSids {sids groupSids : List String} {extraSids : List SidAndAttributes} {text : String} :
    text ∈ uniteSids sids extraSids groupSids ↔
      text ∈ sids ∨ (∃ extraSid ∈ extraSids, text = extraSid.sid.toString) ∨ text ∈ groupSids := by
  rw [uniteSids, mem_foldl_pushNew, mem_foldl_pushNew, List.mem_map, or_assoc]
  exact or_congr_right (or_congr_left ⟨fun ⟨extraSid, h, heq⟩ ↦ ⟨extraSid, h, heq.symm⟩,
    fun ⟨extraSid, h, heq⟩ ↦ ⟨extraSid, h, heq.symm⟩⟩)

/-- The union is exact but for what its first list holds twice. -/
theorem isExactUnion_iff {sids groupSids : List String} {extraSids : List SidAndAttributes}
    {IsFirst IsLast : Sid → Prop} (hsids : ∀ text, text ∈ sids ↔ ∃ sid, IsFirst sid ∧ text = sid.toString)
    (hgroupSids : ∀ text, text ∈ groupSids ↔ ∃ sid, IsLast sid ∧ text = sid.toString) :
    IsExactUnion (uniteSids sids extraSids groupSids)
      (fun sid ↦ IsFirst sid ∨ (∃ extraSid ∈ extraSids, sid = extraSid.sid) ∨ IsLast sid) ↔ sids.Nodup := by
  have hmem : ∀ text, text ∈ uniteSids sids extraSids groupSids ↔
      ∃ sid, (IsFirst sid ∨ (∃ extraSid ∈ extraSids, sid = extraSid.sid) ∨ IsLast sid) ∧ text = sid.toString := by
    intro text
    rw [mem_uniteSids, hsids, hgroupSids]
    constructor
    · rintro (⟨sid, h, rfl⟩ | ⟨extraSid, h, rfl⟩ | ⟨sid, h, rfl⟩)
      · exact ⟨sid, .inl h, rfl⟩
      · exact ⟨extraSid.sid, .inr (.inl ⟨extraSid, h, rfl⟩), rfl⟩
      · exact ⟨sid, .inr (.inr h), rfl⟩
    · rintro ⟨sid, h | ⟨extraSid, h, rfl⟩ | h, rfl⟩
      · exact .inl ⟨sid, h, rfl⟩
      · exact .inr (.inl ⟨extraSid, h, rfl⟩)
      · exact .inr (.inr ⟨sid, h, rfl⟩)
  have hnodup : (uniteSids sids extraSids groupSids).Nodup ↔ sids.Nodup := by
    rw [uniteSids, nodup_foldl_pushNew, nodup_foldl_pushNew]
  constructor
  · intro h
    exact hnodup.mp h.nodup
  · intro h
    refine ⟨hnodup.mpr h, hmem, fun sid ↦ (hmem _).trans ⟨?_, fun hsid ↦ ⟨sid, hsid, rfl⟩⟩⟩
    intro h
    obtain ⟨sid', hsid', heq⟩ := h
    rwa [toString_injective heq]

/-- The lists are exact unions as long as the groups of the first domain are distinct. -/
theorem groupMembershipSids_exact (info : KerbValidationInfo) (device : DeviceInfo) :
    (IsExactUnion info.groupMembershipSids info.IsMember ↔ GroupsDistinct info.logonDomainId info.groupIds) ∧
    (IsExactUnion device.groupMembershipSids device.IsMember ↔
      GroupsDistinct device.accountDomainId device.accountGroupIds) := by
  constructor
  · rw [← nodup_extendedSids]
    exact isExactUnion_iff (fun _ ↦ mem_extendedSids) fun _ ↦ mem_extendedSids
  · rw [← nodup_extendedSids]
    refine isExactUnion_iff (fun _ ↦ mem_extendedSids) fun text ↦ ?_
    rw [List.mem_flatMap]
    constructor
    · intro h
      obtain ⟨domainGroup, hmem, htext⟩ := h
      obtain ⟨sid, hsid, heq⟩ := mem_extendedSids.mp htext
      exact ⟨sid, ⟨domainGroup, hmem, hsid⟩, heq⟩
    · intro h
      obtain ⟨sid, ⟨domainGroup, hmem, hsid⟩, heq⟩ := h
      exact ⟨domainGroup, hmem, mem_extendedSids.mpr ⟨sid, hsid, heq⟩⟩

/-- A domain group that stands in the list twice. -/
def repeatedGroupInfo : KerbValidationInfo := { sampleInfo with groupIds := [⟨513, 7⟩, ⟨513, 7⟩] }

theorem groupMembershipSids_repeated :
    repeatedGroupInfo.groupMembershipSids = ["S-1-5-21-3167651404-3865080224-2280184895-513",
      "S-1-5-21-3167651404-3865080224-2280184895-513", "S-1-18-1"] ∧
    ¬ IsExactUnion repeatedGroupInfo.groupMembershipSids repeatedGroupInfo.IsMember := by
  have hsids : repeatedGroupInfo.groupMembershipSids = ["S-1-5-21-3167651404-3865080224-2280184895-513",
      "S-1-5-21-3167651404-3865080224-2280184895-513", "S-1-18-1"] := by decide
  refine ⟨hsids, fun h ↦ ?_⟩
  have hnodup := h.nodup
  rw [hsids] at hnodup
  exact absurd hnodup (by decide)

end Exactness

end Rskrb5.Pac
