import Rskrb5.Pac.ValidationInfo

namespace Rskrb5.Pac

open Lib Lib.Results Lib.Readers Crypto

section Caps

def WithinCap (n : ℕ) : Prop := n ≤ maxReasonableNdrCount.toNat

instance (n : ℕ) : Decidable (WithinCap n) := inferInstanceAs (Decidable (_ ≤ _))

/-- A list with the count that was announced for it, within the cap. -/
def Counted {α : Type} (count : UInt32) (as : List α) : Prop := count.toNat = as.length ∧ WithinCap as.length

def RpcUnicodeString.Capped (string : RpcUnicodeString) : Prop := WithinCap string.value.length

def Sid.Capped (sid : Sid) : Prop := WithinCap sid.subAuthorities.length

def DomainGroupMembership.Capped (group : DomainGroupMembership) : Prop :=
  group.domainId.Capped ∧ Counted group.groupCount group.groupIds

def ClaimValues.Capped : ClaimValues → Prop
  | .int64 values => WithinCap values.length
  | .uint64 values => WithinCap values.length
  | .string values => WithinCap values.length ∧ ∀ value ∈ values, WithinCap value.length
  | .boolean values => WithinCap values.length

def ClaimEntry.Capped (entry : ClaimEntry) : Prop := WithinCap entry.id.length ∧ entry.values.Capped

def ClaimsArray.Capped (array : ClaimsArray) : Prop :=
  Counted array.claimsCount array.claimEntries ∧ ∀ entry ∈ array.claimEntries, entry.Capped

def SecpkgSupplementalCredential.Capped (credential : SecpkgSupplementalCredential) : Prop :=
  credential.packageName.Capped ∧ Counted credential.credentialSize credential.credentials

/-- Every list, at any depth, has at most the capped number of members, and the number that was
announced for it. -/
structure KerbValidationInfo.Capped (info : KerbValidationInfo) : Prop where
  strings : ∀ string ∈ info.strings, string.Capped
  sids : ∀ sid ∈ info.sids, sid.Capped
  groupIds : Counted info.groupCount info.groupIds
  extraSids : Counted info.sidCount info.extraSids
  resourceGroupIds : Counted info.resourceGroupCount info.resourceGroupIds

structure DeviceInfo.Capped (info : DeviceInfo) : Prop where
  accountDomainId : ∀ sid ∈ info.accountDomainId, sid.Capped
  accountGroupIds : Counted info.accountGroupCount info.accountGroupIds
  extraSids : Counted info.sidCount info.extraSids ∧ ∀ sid ∈ info.extraSids, sid.sid.Capped
  domainGroup : Counted info.domainGroupCount info.domainGroup ∧ ∀ group ∈ info.domainGroup, group.Capped

structure S4UDelegationInfo.Capped (info : S4UDelegationInfo) : Prop where
  s4u2proxyTarget : info.s4u2proxyTarget.Capped
  s4uTransitedServices : Counted info.transitedListSize info.s4uTransitedServices ∧
    ∀ service ∈ info.s4uTransitedServices, service.Capped

structure ClaimsSetMetadata.Capped (metadata : ClaimsSetMetadata) : Prop where
  claimsSetBytes : Counted metadata.claimsSetSize metadata.claimsSetBytes
  reservedField : Counted metadata.reservedFieldSize metadata.reservedField

structure ClaimsSet.Capped (set : ClaimsSet) : Prop where
  claimsArrays : Counted set.claimsArrayCount set.claimsArrays ∧ ∀ array ∈ set.claimsArrays, array.Capped
  reservedField : Counted set.reservedFieldSize set.reservedField

structure CredentialData.Capped (data : CredentialData) : Prop where
  credentials : Counted data.credentialCount data.credentials
  each : ∀ credential ∈ data.credentials, credential.Capped

end Caps

section Readers

variable {α δ : Type} {q : α → Prop}

theorem withinCap_of_reasonable {target : String} {count count' : UInt32}
    (h : reasonable target count = .ok count') : WithinCap count'.toNat := by
  simp only [reasonable, bind_eq_ok, ensure_eq_ok, exists_const, pure_eq_ok, Except.ok.injEq] at h
  exact h.2 ▸ UInt32.le_iff_toNat_le.mp h.1

theorem yields_reasonable (target : String) :
    Yields (readReasonableCount target) fun count ↦ WithinCap count.toNat :=
  .after fun _ ↦ .lift fun _ h ↦ withinCap_of_reasonable h

theorem yields_ndrReasonable (target : String) :
    Yields (readNdrReasonableCount target) fun count ↦ WithinCap count.toNat :=
  .after fun _ ↦ .lift fun _ h ↦ withinCap_of_reasonable h

/-- An array is as long as announced and within the cap: its own count is capped and must be the
announced one, and behind a null pointer there is no other array than the empty one. -/
theorem yields_deferredArray {readCount : String → PacReader UInt32} {items : ℕ → PacReader (List α)}
    {referentId count : UInt32} {target : String}
    (hcap : Yields (readCount target) fun count ↦ WithinCap count.toNat)
    (hitems : ∀ n, Yields (items n) fun as ↦ as.length = n ∧ ∀ a ∈ as, q a) :
    Yields (readDeferredArray readCount items referentId count target) fun as ↦
      Counted count as ∧ ∀ a ∈ as, q a := by
  rw [readDeferredArray]
  split
  · split
    · next hzero => exact .pure ⟨⟨by rw [hzero]; rfl, Nat.zero_le _⟩, List.forall_mem_nil q⟩
    · exact .throw
  · refine hcap.bind fun maxCount hmax ↦ .skip fun _ hcount ↦ (hitems count.toNat).mono fun as has ↦ ?_
    obtain rfl := ensure_eq_ok.mp hcount
    exact ⟨⟨has.1.symm, by rw [has.1]; exact hmax⟩, has.2⟩

theorem yields_inTwoPasses {descriptor : PacReader δ} {deferred : δ → PacReader α}
    (hdeferred : ∀ d, Yields (deferred d) q) (n : ℕ) :
    Yields (readInTwoPasses descriptor deferred n) fun as ↦ as.length = n ∧ ∀ a ∈ as, q a := by
  refine (Yields.times (p := fun _ ↦ True) (fun _ _ _ _ ↦ trivial) n).bind fun descriptors hn ↦ ?_
  exact (Yields.each fun d _ ↦ hdeferred d).mono fun as has ↦ ⟨has.1.trans hn.1, has.2⟩

theorem yields_length_times (r : PacReader α) (n : ℕ) :
    Yields (times r n) fun as ↦ as.length = n ∧ ∀ a ∈ as, True :=
  .times (fun _ _ _ _ ↦ trivial) n

theorem length_le_of_fromUtf16 {target value : String} {units : List UInt16}
    (h : fromUtf16 target units = .ok value) : value.length ≤ units.length :=
  Utf16.length_le_of_decode (okOr_eq_ok.mp h)

theorem yields_varyingUnits {readCount : String → PacReader UInt32} {readOffset : PacReader UInt32}
    {target : String} (hcap : Yields (readCount target) fun count ↦ WithinCap count.toNat) :
    Yields (readVaryingUnits readCount readOffset target) fun units ↦ WithinCap units.length := by
  refine .after fun _ ↦ .after fun _ ↦ hcap.bind fun actual hactual ↦ .skip fun _ _ ↦ ?_
  refine (yields_length_times _ _).bind fun units hunits ↦ .after fun _ ↦ .pure ?_
  rw [hunits.1]
  exact hactual

theorem yields_deferredUnicodeString (descriptor : RpcUnicodeStringDescriptor) (target : String) :
    Yields (readDeferredUnicodeString descriptor target) RpcUnicodeString.Capped := by
  refine .skip fun _ _ ↦ .skip fun _ _ ↦ ?_
  split
  · exact .pure (Nat.zero_le _)
  · refine (yields_varyingUnits (yields_reasonable target)).bind fun units hunits ↦ ?_
    refine .skip fun _ _ ↦ .skip fun value hvalue ↦ .pure ?_
    exact (length_le_of_fromUtf16 hvalue).trans ((List.length_take_le' _ _).trans hunits)

theorem yields_deferredClaimString (referentId : UInt32) (target : String) :
    Yields (readDeferredClaimString referentId target) fun value ↦ WithinCap value.length := by
  refine .skip fun _ _ ↦ ?_
  refine (yields_varyingUnits (yields_ndrReasonable target)).bind fun units hunits ↦ ?_
  refine .lift fun value hvalue ↦ (length_le_of_fromUtf16 hvalue).trans ?_
  have hle : (withoutTerminator units).length ≤ units.length := by
    rw [withoutTerminator]
    split <;> simp
  exact hle.trans hunits

theorem yields_deferredGroupMemberships (referentId count : UInt32) (target : String) :
    Yields (readDeferredGroupMemberships referentId count target) (Counted count) :=
  (yields_deferredArray (yields_reasonable target) (yields_length_times _)).mono fun _ h ↦ h.1

theorem yields_readSid (target : String) : Yields (readSid target) Sid.Capped := by
  refine (yields_reasonable target).bind fun _ hmax ↦ .after fun _ ↦ .after fun count ↦ .skip fun _ _ ↦
    .skip fun _ hcount ↦ .after fun _ ↦ (yields_length_times _ _).bind fun subs hsubs ↦ .after fun _ ↦ .pure ?_
  rw [Sid.Capped, hsubs.1]
  exact (ensure_eq_ok.mp hcount).1.trans hmax

theorem yields_deferredSid (referentId : UInt32) (target : String) :
    Yields (readDeferredSid referentId target) fun sid ↦ ∀ s ∈ sid, s.Capped := by
  rw [readDeferredSid]
  split
  · exact .pure (by simp)
  · exact .map ((yields_readSid target).mono fun sid h s hs ↦ Option.some.inj hs ▸ h)

theorem yields_requiredSid (referentId : UInt32) (target : String) :
    Yields (readRequiredSid referentId target) Sid.Capped :=
  (yields_deferredSid referentId target).bind fun _ h ↦ .lift fun sid hsid ↦ h sid (okOr_eq_ok.mp hsid)

theorem yields_deferredSids (referentId count : UInt32) (target : String) :
    Yields (readDeferredSidAndAttributes referentId count target) fun sids ↦
      Counted count sids ∧ ∀ sid ∈ sids, sid.sid.Capped :=
  yields_deferredArray (yields_reasonable target)
    (yields_inTwoPasses fun entry ↦ (yields_requiredSid entry.1 target).bind fun _ hsid ↦ .pure hsid)

theorem yields_domainGroups (referentId count : UInt32) (target : String) :
    Yields (readDeferredDomainGroupMemberships referentId count target) fun groups ↦
      Counted count groups ∧ ∀ group ∈ groups, group.Capped := by
  refine yields_deferredArray (yields_reasonable target) (yields_inTwoPasses fun entry ↦ ?_)
  refine (yields_requiredSid entry.1 target).bind fun _ hsid ↦ ?_
  exact (yields_deferredGroupMemberships entry.2.2 entry.2.1 target).bind fun _ hgroups ↦ .pure ⟨hsid, hgroups⟩

theorem yields_u8Array (referentId count : UInt32) (target : String) :
    Yields (readDeferredU8Array referentId count target) (Counted count) := by
  refine (yields_deferredArray (q := fun _ ↦ True) (yields_ndrReasonable target) fun n ↦ ?_).mono fun _ h ↦ h.1
  have hbytes : Yields (readBytes n) fun bytes ↦ bytes.length = n :=
    .of_parses ((parses_readBytes n).mono fun _ _ h ↦ h.1 ▸ h.2)
  exact hbytes.bind fun _ hn ↦ .after fun _ ↦ .pure ⟨hn, fun _ _ ↦ trivial⟩

theorem yields_rpcUnicodeStrings (referentId count : UInt32) (target : String) :
    Yields (readDeferredRpcUnicodeStrings referentId count target) fun strings ↦
      Counted count strings ∧ ∀ string ∈ strings, string.Capped :=
  yields_deferredArray (yields_ndrReasonable target)
    (yields_inTwoPasses fun descriptor ↦ yields_deferredUnicodeString descriptor target)

theorem yields_i64Array (referentId count : UInt32) (target : String) :
    Yields (readDeferredI64Array referentId count target) fun values ↦ WithinCap values.length :=
  (yields_deferredArray (yields_ndrReasonable target) (yields_length_times _)).mono fun _ h ↦ h.1.2

theorem yields_u64Array (referentId count : UInt32) (target : String) :
    Yields (readDeferredU64Array referentId count target) fun values ↦ WithinCap values.length :=
  (yields_deferredArray (yields_ndrReasonable target) (yields_length_times _)).mono fun _ h ↦ h.1.2

theorem yields_boolArray (referentId count : UInt32) (target : String) :
    Yields (readDeferredBoolArray referentId count target) fun values ↦ WithinCap values.length := by
  refine (yields_deferredArray (q := fun _ ↦ True) (yields_ndrReasonable target) fun n ↦ ?_).mono fun _ h ↦ h.1.2
  exact (yields_length_times _ n).bind fun _ hvalues ↦ .after fun _ ↦ .pure hvalues

theorem yields_lpwstrArray (referentId count : UInt32) (target : String) :
    Yields (readDeferredLpwstrArray referentId count target) fun values ↦
      WithinCap values.length ∧ ∀ value ∈ values, WithinCap value.length :=
  (yields_deferredArray (yields_ndrReasonable target)
    (yields_inTwoPasses fun ref ↦ yields_deferredClaimString ref target)).mono fun _ h ↦ ⟨h.1.2, h.2⟩

theorem yields_claimValues (claimType : UInt16) (valuesRef valueCount : UInt32) :
    Yields (readClaimValues claimType valuesRef valueCount) ClaimValues.Capped := by
  rw [readClaimValues]
  split
  · exact .map (yields_i64Array valuesRef valueCount _)
  · split
    · exact .map (yields_u64Array valuesRef valueCount _)
    · split
      · exact .map (yields_lpwstrArray valuesRef valueCount _)
      · split
        · exact .map (yields_boolArray valuesRef valueCount _)
        · exact .throw

theorem yields_claimEntries (referentId count : UInt32) (target : String) :
    Yields (readDeferredClaimEntries referentId count target) fun entries ↦
      Counted count entries ∧ ∀ entry ∈ entries, entry.Capped := by
  refine yields_deferredArray (yields_ndrReasonable target) (yields_inTwoPasses fun descriptor ↦ ?_)
  refine (yields_deferredClaimString descriptor.idRef _).bind fun _ hid ↦ ?_
  exact (yields_claimValues descriptor.claimType descriptor.valuesRef descriptor.valueCount).bind fun _ hvalues ↦
    .pure ⟨hid, hvalues⟩

theorem yields_claimsArrays (referentId count : UInt32) (target : String) :
    Yields (readDeferredClaimsArrays referentId count target) fun arrays ↦
      Counted count arrays ∧ ∀ array ∈ arrays, array.Capped := by
  refine yields_deferredArray (yields_ndrReasonable target) (yields_inTwoPasses fun descriptor ↦ ?_)
  exact (yields_claimEntries descriptor.claimEntriesRef descriptor.claimsCount _).bind fun _ hentries ↦
    .pure hentries

/-- Each credential is capped, but there are as many as the count says. -/
theorem yields_supplementalCredentials (count : UInt32) :
    Yields (readCountedSupplementalCredentials count) fun credentials ↦
      credentials.length = count.toNat ∧ ∀ credential ∈ credentials, credential.Capped := by
  rw [readCountedSupplementalCredentials]
  split
  · next hzero =>
    rw [hzero]
    exact .pure ⟨rfl, List.forall_mem_nil _⟩
  · refine yields_inTwoPasses (fun descriptor ↦ ?_) _
    refine (yields_deferredUnicodeString descriptor.1 _).bind fun _ hname ↦ ?_
    exact (yields_u8Array descriptor.2.2 descriptor.2.1 _).bind fun _ hcredentials ↦ .pure ⟨hname, hcredentials⟩

end Readers

section Parsers

variable {bytes : Bytes}

theorem yields_readDeferred (fixed : KerbValidationInfo.Fixed) :
    Yields (KerbValidationInfo.readDeferred fixed) KerbValidationInfo.Capped :=
  (yields_deferredUnicodeString _ _).bind fun _ hname ↦
  (yields_deferredUnicodeString _ _).bind fun _ hfull ↦
  (yields_deferredUnicodeString _ _).bind fun _ hscript ↦
  (yields_deferredUnicodeString _ _).bind fun _ hprofile ↦
  (yields_deferredUnicodeString _ _).bind fun _ hhome ↦
  (yields_deferredUnicodeString _ _).bind fun _ hdrive ↦
  (yields_deferredGroupMemberships _ _ _).bind fun _ hgroups ↦
  (yields_deferredUnicodeString _ _).bind fun _ hserver ↦
  (yields_deferredUnicodeString _ _).bind fun _ hdomain ↦
  (yields_deferredSid _ _).bind fun _ hdomainId ↦
  (yields_deferredSids _ _ _).bind fun _ hextra ↦
  (yields_deferredSid _ _).bind fun _ hresource ↦
  (yields_deferredGroupMemberships _ _ _).bind fun _ hresourceGroups ↦ .pure {
    strings := by
      simp only [KerbValidationInfo.strings, List.forall_mem_cons]
      exact ⟨hname, hfull, hscript, hprofile, hhome, hdrive, hserver, hdomain, List.forall_mem_nil _⟩
    sids := by
      simp only [KerbValidationInfo.sids, List.mem_append, List.mem_map, Option.mem_toList]
      rintro _ ((h | ⟨sid, hsid, rfl⟩) | h)
      exacts [hdomainId _ h, hextra.2 sid hsid, hresource _ h]
    groupIds := hgroups
    extraSids := hextra.1
    resourceGroupIds := hresourceGroups }

theorem capped_kerbValidationInfo {info : KerbValidationInfo} (h : KerbValidationInfo.parse bytes = .ok info) :
    info.Capped := by
  refine of_parseWith ?_ h
  exact .after fun _ ↦ .after fun fixed ↦ (yields_readDeferred fixed).bind fun _ hinfo ↦ .after fun _ ↦ .pure hinfo

theorem capped_deviceInfo {info : DeviceInfo} (h : DeviceInfo.parse bytes = .ok info) : info.Capped := by
  refine of_parseWith ?_ h
  refine .after fun _ ↦ .after fun _ ↦ .after fun _ ↦ .after fun _ ↦ .after fun _ ↦ .after fun _ ↦
    .after fun _ ↦ .after fun _ ↦ .after fun _ ↦ .after fun _ ↦ ?_
  exact (yields_deferredSid _ _).bind fun _ hdomain ↦
    (yields_deferredGroupMemberships _ _ _).bind fun _ hgroups ↦
    (yields_deferredSids _ _ _).bind fun _ hsids ↦
    (yields_domainGroups _ _ _).bind fun _ hdomainGroups ↦
    .after fun _ ↦ .pure ⟨hdomain, hgroups, hsids, hdomainGroups⟩

theorem capped_s4uDelegationInfo {info : S4UDelegationInfo} (h : S4UDelegationInfo.parse bytes = .ok info) :
    info.Capped := by
  refine of_parseWith ?_ h
  refine .after fun _ ↦ .after fun _ ↦ .after fun _ ↦ .after fun _ ↦ ?_
  exact (yields_deferredUnicodeString _ _).bind fun _ htarget ↦
    (yields_rpcUnicodeStrings _ _ _).bind fun _ hservices ↦ .after fun _ ↦ .pure ⟨htarget, hservices⟩

theorem capped_claimsSetMetadata {metadata : ClaimsSetMetadata}
    (h : ClaimsSetMetadata.parse bytes = .ok metadata) : metadata.Capped := by
  refine of_parseWith ?_ h
  refine .after fun _ ↦ .after fun _ ↦ .after fun _ ↦ .after fun _ ↦ .after fun _ ↦ .after fun _ ↦
    .after fun _ ↦ .after fun _ ↦ ?_
  exact (yields_u8Array _ _ _).bind fun _ hbytes ↦ (yields_u8Array _ _ _).bind fun _ hreserved ↦
    .after fun _ ↦ .pure ⟨hbytes, hreserved⟩

theorem capped_claimsSet {set : ClaimsSet} (h : ClaimsSet.parse bytes = .ok set) : set.Capped := by
  refine of_parseWith ?_ h
  refine .after fun _ ↦ .after fun _ ↦ .after fun _ ↦ .after fun _ ↦ .after fun _ ↦ .after fun _ ↦ ?_
  exact (yields_claimsArrays _ _ _).bind fun _ harrays ↦ (yields_u8Array _ _ _).bind fun _ hreserved ↦
    .after fun _ ↦ .pure ⟨harrays, hreserved⟩

/-- The credential count stands right behind the wrapper. -/
def credentialCountField (bytes : Bytes) : UInt32 := u32FromLeBytes ((bytes.drop 20).take 4)

theorem yields_credentials (count : UInt32) : Yields (do
      let credentials ← readCountedSupplementalCredentials count
      ensureZeroTrailing "CredentialData"
      return ({ credentialCount := count, credentials } : CredentialData)) fun data ↦
    data.credentialCount = count ∧ data.credentials.length = count.toNat ∧
      ∀ credential ∈ data.credentials, credential.Capped :=
  (yields_supplementalCredentials count).bind fun _ h ↦ .after fun _ ↦ .pure ⟨rfl, h⟩

theorem credentialCount_of_parse {data : CredentialData} (h : CredentialData.parse bytes = .ok data) :
    data.credentialCount = credentialCountField bytes ∧
      data.credentials.length = (credentialCountField bytes).toNat ∧
      ∀ credential ∈ data.credentials, credential.Capped := by
  obtain ⟨c, hrun⟩ := parseWith_eq_ok.mp h
  obtain ⟨_, c₁, hwrapper, hrun⟩ := run_bind_eq_ok.mp hrun
  obtain ⟨used, hrest, hoffset, hused⟩ := parses_readNdrWrapper _ _ _ _ hwrapper
  obtain ⟨count, c₂, hcount, hrun⟩ := run_bind_eq_ok.mp hrun
  have hdrop : c₁.rest = bytes.drop 20 := (List.drop_left' hused ▸ congrArg (List.drop 20) hrest).symm
  have hdvd : 4 ∣ c₁.offset := by simp [hoffset, hused]
  rw [run_readNdrU32 hdvd, run_readU32_eq_ok, hdrop] at hcount
  obtain ⟨-, rfl, -⟩ := hcount
  exact yields_credentials _ _ _ _ hrun

/-- Five of the six parsers cap all their lists. The sixth caps them if and only if the count in its
input is within the cap. -/
theorem ndrCounts_capped_iff (bytes : Bytes) :
    (∀ info, KerbValidationInfo.parse bytes = .ok info → info.Capped) ∧
    (∀ info, DeviceInfo.parse bytes = .ok info → info.Capped) ∧
    (∀ info, S4UDelegationInfo.parse bytes = .ok info → info.Capped) ∧
    (∀ metadata, ClaimsSetMetadata.parse bytes = .ok metadata → metadata.Capped) ∧
    (∀ set, ClaimsSet.parse bytes = .ok set → set.Capped) ∧
    ∀ data, CredentialData.parse bytes = .ok data →
      (data.Capped ↔ credentialCountField bytes ≤ maxReasonableNdrCount) := by
  refine ⟨fun _ ↦ capped_kerbValidationInfo, fun _ ↦ capped_deviceInfo, fun _ ↦ capped_s4uDelegationInfo,
    fun _ ↦ capped_claimsSetMetadata, fun _ ↦ capped_claimsSet, fun data h ↦ ?_⟩
  obtain ⟨hcount, hlength, heach⟩ := credentialCount_of_parse h
  rw [UInt32.le_iff_toNat_le, ← hlength]
  constructor
  · exact fun hcapped ↦ hcapped.credentials.2
  · exact fun hle ↦ ⟨⟨by rw [hcount, hlength], hle⟩, heach⟩

end Parsers

section Empties

def emptyCredential : SecpkgSupplementalCredential where
  packageName := ⟨0, 0, ""⟩
  credentialSize := 0
  credentials := []

/-- Credential data with nothing in it but the count and the zeroed entries it counts. -/
def emptyCredentials (n : ℕ) : Bytes :=
  [0x01, 0x10, 0x08, 0x00] ++ (u32ToLeBytes 0 ++ (u32ToLeBytes (UInt32.ofNat (8 + 16 * n)) ++
    (u32ToLeBytes 0 ++ (u32ToLeBytes 0x20000 ++ (u32ToLeBytes (UInt32.ofNat n) ++ zeros (16 * n))))))

theorem readsAt_readNdrU32 (value : UInt32) : ReadsAt 4 0 readNdrU32 (u32ToLeBytes value) value := by
  intro offset rest hoffset
  rw [run_readNdrU32 (Nat.dvd_of_mod_eq_zero hoffset)]
  exact reads_readU32 value offset rest

theorem flatMap_zeros {α : Type} (n m : ℕ) (a : α) :
    (List.replicate n a).flatMap (fun _ ↦ zeros m) = zeros (m * n) := by
  rw [List.flatMap, List.map_replicate, zeros, List.flatten_replicate_replicate, Nat.mul_comm]
  rfl

def emptyDescriptor : RpcUnicodeStringDescriptor × UInt32 × UInt32 := (⟨0, 0, 0⟩, 0, 0)

theorem readsAt_emptyDescriptor :
    ReadsAt 4 0 (do return (← RpcUnicodeStringDescriptor.read, ← readNdrU32, ← readNdrU32)) (zeros 16)
      emptyDescriptor := by
  have hzeros : zeros 16 = emptyDescriptor.1.encode ++ (u32ToLeBytes 0 ++ u32ToLeBytes 0) := by decide
  have hdvd : 4 ∣ emptyDescriptor.1.encode.length := by rw [length_descriptor]; decide
  have hdvd' : 4 ∣ (u32ToLeBytes 0).length := by rw [length_u32ToLeBytes]
  rw [hzeros]
  exact ((reads_descriptor _).readsAt _ _).bind_block hdvd <|
    (readsAt_readNdrU32 0).bind_block hdvd' <| (readsAt_readNdrU32 0).last (.pure _)

theorem reads_emptyCredential :
    Reads (readSupplementalCredential emptyDescriptor.1 emptyDescriptor.2.1 emptyDescriptor.2.2) []
      emptyCredential := fun _ _ ↦ rfl

theorem readsAt_emptyCredentials {n : ℕ} (hn : n < 2 ^ 32) :
    ReadsAt 4 0 (readCountedSupplementalCredentials (UInt32.ofNat n)) (zeros (16 * n))
      (List.replicate n emptyCredential) := by
  have hcount : (UInt32.ofNat n).toNat = n := toNat_ofNat_length hn
  rw [readCountedSupplementalCredentials]
  split
  · next hzero =>
    have hn : n = 0 := by rw [← hcount, hzero]; rfl
    rw [hn]
    exact .pure []
  · have hdescriptors : ReadsAt 4 0 (times _ (List.replicate n emptyDescriptor).length)
        ((List.replicate n emptyDescriptor).flatMap fun _ ↦ zeros 16) (List.replicate n emptyDescriptor) :=
      .times (fun d hd ↦ List.eq_of_mem_replicate hd ▸ readsAt_emptyDescriptor) fun _ _ ↦ by
        rw [length_zeros]; decide
    have hcredentials : ReadsAt 4 0 (((List.replicate n emptyCredential).map fun _ ↦ emptyDescriptor).mapM
          fun d ↦ readSupplementalCredential d.1 d.2.1 d.2.2)
        ((List.replicate n emptyCredential).flatMap fun _ ↦ []) ((List.replicate n emptyCredential).map id) :=
      .each (fun c hc ↦ List.eq_of_mem_replicate hc ▸ reads_emptyCredential.readsAt 4 0) fun _ _ ↦ Nat.dvd_zero 4
    rw [List.length_replicate, flatMap_zeros] at hdescriptors
    rw [List.map_replicate, List.map_id, List.flatMap_eq_nil_iff.mpr fun _ _ ↦ rfl] at hcredentials
    rw [readInTwoPasses, hcount]
    exact hdescriptors.last (hcredentials.congr (by rw [length_zeros, Nat.zero_add]; omega))

theorem parse_emptyCredentials {n : ℕ} (hn : n < 2 ^ 32) :
    CredentialData.parse (emptyCredentials n) = .ok ⟨UInt32.ofNat n, List.replicate n emptyCredential⟩ := by
  have hobject : (UInt32.ofNat (8 + 16 * n)).toNat ≤
      4 + (u32ToLeBytes (UInt32.ofNat n) ++ zeros (16 * n)).length := by
    rw [List.length_append, length_u32ToLeBytes, length_zeros, UInt32.toNat_ofNat']
    have hmod := Nat.mod_le (8 + 16 * n) (2 ^ 32)
    omega
  have hcount := readsAt_readNdrU32 (UInt32.ofNat n) 20 (zeros (16 * n)) rfl
  have hcredentials := readsAt_emptyCredentials hn 24 [] rfl
  rw [length_u32ToLeBytes] at hcount
  rw [List.append_nil] at hcredentials
  have hend : 4 ∣ 24 + (zeros (16 * n)).length := by
    rw [length_zeros]
    omega
  rw [CredentialData.parse, parseWith_eq_ok]
  refine ⟨⟨24 + (zeros (16 * n)).length, []⟩, ?_⟩
  rw [emptyCredentials, run_bind_of_ok (run_readNdrWrapper _ hobject (by decide)), run_bind_of_ok hcount,
    run_bind_of_ok hcredentials]
  exact run_bind_of_ok (run_ensureZeros (n := 0) _ hend)

theorem ndrCounts_capped_iff_one :
    CredentialData.parse (emptyCredentials 1) = .ok ⟨1, [emptyCredential]⟩ ∧
      CredentialData.Capped ⟨1, [emptyCredential]⟩ := by
  have hparse : CredentialData.parse (emptyCredentials 1) = .ok ⟨1, [emptyCredential]⟩ :=
    parse_emptyCredentials (by decide)
  have hcount : credentialCountField (emptyCredentials 1) ≤ maxReasonableNdrCount := by decide
  exact ⟨hparse, ((ndrCounts_capped_iff (emptyCredentials 1)).2.2.2.2.2 _ hparse).mpr hcount⟩

/-- One credential more than the cap, and all are read. -/
theorem credentials_beyondCap : ∃ data, CredentialData.parse (emptyCredentials 1000001) = .ok data ∧
    ¬WithinCap data.credentials.length := by
  refine ⟨_, parse_emptyCredentials (by decide), ?_⟩
  rw [WithinCap, List.length_replicate]
  decide

end Empties

end Rskrb5.Pac
