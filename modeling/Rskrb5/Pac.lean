import Rskrb5.Crypto.StringToKey
import Rskrb5.Lib.Patches
import Rskrb5.Messages
import Rskrb5.Pac.Ndr

namespace Rskrb5

open Lib Lib.Results Lib.Readers Lib.Patches Crypto

namespace Pac

def infoTypeKerbValidationInfo : UInt32 := 1
def infoTypeCredentials : UInt32 := 2
def infoTypePacServerSignatureData : UInt32 := 6
def infoTypePacKdcSignatureData : UInt32 := 7
def infoTypePacClientInfo : UInt32 := 10
def infoTypeS4uDelegationInfo : UInt32 := 11
def infoTypeUpnDnsInfo : UInt32 := 12
def infoTypePacClientClaimsInfo : UInt32 := 13
def infoTypePacDeviceInfo : UInt32 := 14
def infoTypePacDeviceClaimsInfo : UInt32 := 15

def checksumHmacMd5Unsigned : UInt32 := 0xffffff76
def checksumHmacSha196Aes128 : UInt32 := 15
def checksumHmacSha196Aes256 : UInt32 := 16
def checksumHmacSha256128Aes128 : UInt32 := 19
def checksumHmacSha384192Aes256 : UInt32 := 20

def claimsCompressionFormatNone : UInt16 := 0
def claimsCompressionFormatLznt1 : UInt16 := 2
def claimsCompressionFormatXpress : UInt16 := 3
def claimsCompressionFormatXpressHuff : UInt16 := 4

def pacHeaderLen : ℕ := 8
def pacInfoBufferLen : ℕ := 16
def pacServerChecksumKeyUsage : UInt32 := 17

/-- The decompression crate: what an algorithm makes of its input within an output limit, or its
error text. -/
structure Compcol where
  lznt1 : Bytes → ℕ → Except String Bytes
  xpress : Bytes → ℕ → Except String Bytes
  xpressHuffman : Bytes → ℕ → Except String Bytes

def checksumSignatureLen (signatureType : UInt32) : Option ℕ :=
  if signatureType = checksumHmacMd5Unsigned then some 16
  else if signatureType = checksumHmacSha196Aes128 ∨ signatureType = checksumHmacSha196Aes256 then some 12
  else if signatureType = checksumHmacSha256128Aes128 then some 16
  else if signatureType = checksumHmacSha384192Aes256 then some 24
  else none

/-- `i32::try_from`. -/
def toI32? (value : UInt32) : Option Int32 :=
  if value.toNat < 2 ^ 31 then some value.toInt32 else none

def kerberosEtypeForChecksumType (signatureType : UInt32) : Option KerberosEtype := do
  let checksumTypeId ← toI32? signatureType
  KerberosEtype.fromChecksumTypeId checksumTypeId

def checkedSlice (bytes : Bytes) (offset len : ℕ) (target : String) : Except Error Bytes := do
  ensure (offset + len ≤ bytes.length) (.outOfBounds target offset len bytes.length)
  return slice bytes offset len

def utf16leUnits : Bytes → List UInt16
  | low :: high :: rest => UInt16.ofNat (beNat [high, low]) :: utf16leUnits rest
  | _ => []

def utf16leBytesToString (bytes : Bytes) (target : String) : Except Error String := do
  ensure (bytes.length % 2 = 0) (.invalidUtf16Length target bytes.length)
  fromUtf16 target (utf16leUnits bytes)

structure SignatureData where
  signatureType : UInt32
  signature : Bytes
  rodcIdentifier : Option UInt16
  /-- The buffer with only the checksum bytes zeroed. -/
  zeroedData : Bytes
  deriving DecidableEq

/-- The identifier is there when two bytes are left for it. -/
def readRodcIdentifier : PacReader (Option UInt16) := do
  let c ← get
  if 2 ≤ c.rest.length then some <$> readU16 else return none

def readSignature : PacReader (UInt32 × Bytes × Option UInt16) := do
  let signatureType ← readU32
  let signatureLen ← okOr (checksumSignatureLen signatureType) (Error.unsupportedChecksumType signatureType)
  let signature ← readBytes signatureLen
  let rodcIdentifier ← readRodcIdentifier
  return (signatureType, signature, rodcIdentifier)

def SignatureData.parse (bytes : Bytes) : Except Error SignatureData := do
  let (signatureType, signature, rodcIdentifier) ← parseWith readSignature bytes
  return {
    signatureType, signature, rodcIdentifier
    zeroedData := overwrite bytes 4 (List.replicate signature.length 0) }

structure ClientInfo where
  clientId : FileTime
  nameLength : UInt16
  name : String
  deriving DecidableEq

def ClientInfo.parse : Bytes → Except Error ClientInfo := parseWith do
  let clientId ← readFiletime
  let nameLength ← readU16
  let nameBytes ← readBytes nameLength.toNat
  let name ← utf16leBytesToString nameBytes "ClientInfo.Name"
  return { clientId, nameLength, name }

structure UpnDnsInfo where
  upnLength : UInt16
  upnOffset : UInt16
  dnsDomainNameLength : UInt16
  dnsDomainNameOffset : UInt16
  flags : UInt32
  upn : String
  dnsDomain : String
  deriving DecidableEq

def UpnDnsInfo.parse (bytes : Bytes) : Except Error UpnDnsInfo := flip parseWith bytes do
  let upnLength ← readU16
  let upnOffset ← readU16
  let dnsDomainNameLength ← readU16
  let dnsDomainNameOffset ← readU16
  let flags ← readU32
  let upnBytes ← checkedSlice bytes upnOffset.toNat upnLength.toNat "UPN_DNS_INFO.UPN"
  let upn ← utf16leBytesToString upnBytes "UPN_DNS_INFO.UPN"
  let dnsBytes ← checkedSlice bytes dnsDomainNameOffset.toNat dnsDomainNameLength.toNat "UPN_DNS_INFO.DNSDomain"
  let dnsDomain ← utf16leBytesToString dnsBytes "UPN_DNS_INFO.DNSDomain"
  return { upnLength, upnOffset, dnsDomainNameLength, dnsDomainNameOffset, flags, upn, dnsDomain }

structure CredentialData where
  credentialCount : UInt32
  credentials : List SecpkgSupplementalCredential
  deriving DecidableEq

def CredentialData.parse : Bytes → Except Error CredentialData := parseWith do
  readNdrWrapper "CredentialData"
  let credentialCount ← readNdrU32
  let credentials ← readCountedSupplementalCredentials credentialCount
  ensureZeroTrailing "CredentialData"
  return { credentialCount, credentials }

structure CredentialsInfo where
  version : UInt32
  encryptionType : UInt32
  encryptedCredentialData : Bytes
  deriving DecidableEq

def CredentialsInfo.parse : Bytes → Except Error CredentialsInfo := parseWith do
  let version ← readU32
  ensure (version = 0) (Error.invalidCredentialsInfoVersion version)
  let encryptionType ← readU32
  let c ← get
  let encryptedCredentialData ← readBytes c.rest.length
  return { version, encryptionType, encryptedCredentialData }

structure S4UDelegationInfo where
  s4u2proxyTarget : RpcUnicodeString
  transitedListSize : UInt32
  s4uTransitedServices : List RpcUnicodeString
  deriving DecidableEq

def S4UDelegationInfo.parse : Bytes → Except Error S4UDelegationInfo := parseWith do
  readNdrWrapper "S4UDelegationInfo"
  let s4u2proxyTarget ← RpcUnicodeStringDescriptor.read
  let transitedListSize ← readNdrU32
  let s4uTransitedServicesRef ← readNdrU32
  let s4u2proxyTarget ← readDeferredUnicodeString s4u2proxyTarget "S4U2proxyTarget"
  let s4uTransitedServices ←
    readDeferredRpcUnicodeStrings s4uTransitedServicesRef transitedListSize "S4UTransitedServices"
  ensureZeroTrailing "S4UDelegationInfo"
  return { s4u2proxyTarget, transitedListSize, s4uTransitedServices }

structure DeviceInfo where
  userId : UInt32
  primaryGroupId : UInt32
  accountDomainId : Option Sid
  accountGroupCount : UInt32
  accountGroupIds : List GroupMembership
  sidCount : UInt32
  extraSids : List SidAndAttributes
  domainGroupCount : UInt32
  domainGroup : List DomainGroupMembership
  deriving DecidableEq

def DeviceInfo.parse : Bytes → Except Error DeviceInfo := parseWith do
  readNdrWrapper "DeviceInfo"
  let userId ← readNdrU32
  let primaryGroupId ← readNdrU32
  let accountDomainIdRef ← readNdrU32
  let accountGroupCount ← readNdrU32
  let accountGroupIdsRef ← readNdrU32
  let sidCount ← readNdrU32
  let extraSidsRef ← readNdrU32
  let domainGroupCount ← readNdrU32
  let domainGroupRef ← readNdrU32
  let accountDomainId ← readDeferredSid accountDomainIdRef "DeviceInfo.AccountDomainID"
  let accountGroupIds ←
    readDeferredGroupMemberships accountGroupIdsRef accountGroupCount "DeviceInfo.AccountGroupIDs"
  let extraSids ← readDeferredSidAndAttributes extraSidsRef sidCount "DeviceInfo.ExtraSIDs"
  let domainGroup ←
    readDeferredDomainGroupMemberships domainGroupRef domainGroupCount "DeviceInfo.DomainGroup"
  ensureZeroTrailing "DeviceInfo"
  return {
    userId, primaryGroupId, accountDomainId, accountGroupCount, accountGroupIds, sidCount, extraSids
    domainGroupCount, domainGroup }

structure ClaimsSet where
  claimsArrayCount : UInt32
  claimsArrays : List ClaimsArray
  reservedType : UInt16
  reservedFieldSize : UInt32
  reservedField : Bytes
  deriving DecidableEq

def ClaimsSet.parse : Bytes → Except Error ClaimsSet := parseWith do
  readNdrWrapper "ClaimsSet"
  let claimsArrayCount ← readNdrU32
  let claimsArraysRef ← readNdrU32
  let reservedType ← readNdrU16
  let reservedFieldSize ← readNdrU32
  let reservedFieldRef ← readNdrU32
  let claimsArrays ← readDeferredClaimsArrays claimsArraysRef claimsArrayCount "ClaimsSet.ClaimsArrays"
  let reservedField ← readDeferredU8Array reservedFieldRef reservedFieldSize "ClaimsSet.ReservedField"
  ensureZeroTrailing "ClaimsSet"
  return { claimsArrayCount, claimsArrays, reservedType, reservedFieldSize, reservedField }

structure ClaimsSetMetadata where
  claimsSetSize : UInt32
  claimsSetBytes : Bytes
  compressionFormat : UInt16
  uncompressedClaimsSetSize : UInt32
  reservedType : UInt16
  reservedFieldSize : UInt32
  reservedField : Bytes
  deriving DecidableEq

def ClaimsSetMetadata.parse : Bytes → Except Error ClaimsSetMetadata := parseWith do
  readNdrWrapper "ClaimsSetMetadata"
  let claimsSetSize ← readNdrU32
  let claimsSetBytesRef ← readNdrU32
  let compressionFormat ← readNdrU16
  let uncompressedClaimsSetSize ← readNdrU32
  let reservedType ← readNdrU16
  let reservedFieldSize ← readNdrU32
  let reservedFieldRef ← readNdrU32
  let claimsSetBytes ← readDeferredU8Array claimsSetBytesRef claimsSetSize "ClaimsSetMetadata.ClaimsSetBytes"
  let reservedField ← readDeferredU8Array reservedFieldRef reservedFieldSize "ClaimsSetMetadata.ReservedField"
  ensureZeroTrailing "ClaimsSetMetadata"
  return {
    claimsSetSize, claimsSetBytes, compressionFormat, uncompressedClaimsSetSize, reservedType
    reservedFieldSize, reservedField }

section Claims

variable (Z : Compcol)

def decompressClaimsSetBytes (decompress : Bytes → ℕ → Except String Bytes) (compressionFormat : UInt16)
    (bytes : Bytes) (uncompressedSize : UInt32) : Except Error Bytes := do
  let decoded ←
    (decompress bytes uncompressedSize.toNat).mapError (.claimsDecompression compressionFormat)
  ensure (decoded.length = uncompressedSize.toNat)
    (.claimsDecompressedSizeMismatch compressionFormat uncompressedSize.toNat decoded.length)
  return decoded

def ClaimsSetMetadata.decodedClaimsSetBytes (self : ClaimsSetMetadata) : Except Error Bytes :=
  if self.compressionFormat = claimsCompressionFormatNone then .ok self.claimsSetBytes
  else if self.compressionFormat = claimsCompressionFormatLznt1 then
    decompressClaimsSetBytes Z.lznt1 self.compressionFormat self.claimsSetBytes self.uncompressedClaimsSetSize
  else if self.compressionFormat = claimsCompressionFormatXpress then
    decompressClaimsSetBytes Z.xpress self.compressionFormat
      (u64ToLeBytes self.uncompressedClaimsSetSize.toUInt64 ++ self.claimsSetBytes) self.uncompressedClaimsSetSize
  else if self.compressionFormat = claimsCompressionFormatXpressHuff then
    decompressClaimsSetBytes Z.xpressHuffman self.compressionFormat
      (u32ToLeBytes self.uncompressedClaimsSetSize ++ self.claimsSetBytes) self.uncompressedClaimsSetSize
  else .error (.unsupportedClaimsCompressionFormat self.compressionFormat)

def ClaimsSetMetadata.claimsSet (self : ClaimsSetMetadata) : Except Error ClaimsSet := do
  ClaimsSet.parse (← self.decodedClaimsSetBytes Z)

structure ClaimsInfo where
  metadata : ClaimsSetMetadata
  claimsSet : ClaimsSet
  deriving DecidableEq

def ClaimsInfo.parse (bytes : Bytes) : Except Error ClaimsInfo := do
  let metadata ← ClaimsSetMetadata.parse bytes
  let claimsSet ← metadata.claimsSet Z
  return { metadata, claimsSet }

end Claims

structure KerbValidationInfo where
  logonTime : FileTime
  logoffTime : FileTime
  kickoffTime : FileTime
  passwordLastSet : FileTime
  passwordCanChange : FileTime
  passwordMustChange : FileTime
  effectiveName : RpcUnicodeString
  fullName : RpcUnicodeString
  logonScript : RpcUnicodeString
  profilePath : RpcUnicodeString
  homeDirectory : RpcUnicodeString
  homeDirectoryDrive : RpcUnicodeString
  logonCount : UInt16
  badPasswordCount : UInt16
  userId : UInt32
  primaryGroupId : UInt32
  groupCount : UInt32
  groupIds : List GroupMembership
  userFlags : UInt32
  userSessionKey : List.Vector UInt8 16
  logonServer : RpcUnicodeString
  logonDomainName : RpcUnicodeString
  logonDomainId : Option Sid
  reserved1 : UInt32 × UInt32
  userAccountControl : UInt32
  subAuthStatus : UInt32
  lastSuccessfulIlogon : FileTime
  lastFailedIlogon : FileTime
  failedIlogonCount : UInt32
  reserved3 : UInt32
  sidCount : UInt32
  extraSids : List SidAndAttributes
  resourceGroupDomainSid : Option Sid
  resourceGroupCount : UInt32
  resourceGroupIds : List GroupMembership
  deriving DecidableEq

/-- The fixed part: the values that stand in place, and what stands in place for the others. -/
structure KerbValidationInfo.Fixed where
  logonTime : FileTime
  logoffTime : FileTime
  kickoffTime : FileTime
  passwordLastSet : FileTime
  passwordCanChange : FileTime
  passwordMustChange : FileTime
  effectiveName : RpcUnicodeStringDescriptor
  fullName : RpcUnicodeStringDescriptor
  logonScript : RpcUnicodeStringDescriptor
  profilePath : RpcUnicodeStringDescriptor
  homeDirectory : RpcUnicodeStringDescriptor
  homeDirectoryDrive : RpcUnicodeStringDescriptor
  logonCount : UInt16
  badPasswordCount : UInt16
  userId : UInt32
  primaryGroupId : UInt32
  groupCount : UInt32
  groupIdsRef : UInt32
  userFlags : UInt32
  userSessionKey : List.Vector UInt8 16
  logonServer : RpcUnicodeStringDescriptor
  logonDomainName : RpcUnicodeStringDescriptor
  logonDomainIdRef : UInt32
  reserved1 : UInt32 × UInt32
  userAccountControl : UInt32
  subAuthStatus : UInt32
  lastSuccessfulIlogon : FileTime
  lastFailedIlogon : FileTime
  failedIlogonCount : UInt32
  reserved3 : UInt32
  sidCount : UInt32
  extraSidsRef : UInt32
  resourceGroupDomainSidRef : UInt32
  resourceGroupCount : UInt32
  resourceGroupIdsRef : UInt32

def KerbValidationInfo.readFixed : PacReader Fixed := do
  let logonTime ← readFiletime
  let logoffTime ← readFiletime
  let kickoffTime ← readFiletime
  let passwordLastSet ← readFiletime
  let passwordCanChange ← readFiletime
  let passwordMustChange ← readFiletime
  let effectiveName ← RpcUnicodeStringDescriptor.read
  let fullName ← RpcUnicodeStringDescriptor.read
  let logonScript ← RpcUnicodeStringDescriptor.read
  let profilePath ← RpcUnicodeStringDescriptor.read
  let homeDirectory ← RpcUnicodeStringDescriptor.read
  let homeDirectoryDrive ← RpcUnicodeStringDescriptor.read
  let logonCount ← readU16
  let badPasswordCount ← readU16
  let userId ← readU32
  let primaryGroupId ← readU32
  let groupCount ← readU32
  let groupIdsRef ← readU32
  let userFlags ← readU32
  let userSessionKey ← readArray 16
  let logonServer ← RpcUnicodeStringDescriptor.read
  let logonDomainName ← RpcUnicodeStringDescriptor.read
  let logonDomainIdRef ← readU32
  let reserved1 := (← readU32, ← readU32)
  let userAccountControl ← readU32
  let subAuthStatus ← readU32
  let lastSuccessfulIlogon ← readFiletime
  let lastFailedIlogon ← readFiletime
  let failedIlogonCount ← readU32
  let reserved3 ← readU32
  let sidCount ← readU32
  let extraSidsRef ← readU32
  let resourceGroupDomainSidRef ← readU32
  let resourceGroupCount ← readU32
  let resourceGroupIdsRef ← readU32
  return {
    logonTime, logoffTime, kickoffTime, passwordLastSet, passwordCanChange, passwordMustChange
    effectiveName, fullName, logonScript, profilePath, homeDirectory, homeDirectoryDrive, logonCount
    badPasswordCount, userId, primaryGroupId, groupCount, groupIdsRef, userFlags, userSessionKey
    logonServer, logonDomainName, logonDomainIdRef, reserved1, userAccountControl, subAuthStatus
    lastSuccessfulIlogon, lastFailedIlogon, failedIlogonCount, reserved3, sidCount, extraSidsRef
    resourceGroupDomainSidRef, resourceGroupCount, resourceGroupIdsRef }

def KerbValidationInfo.readDeferred (fixed : Fixed) : PacReader KerbValidationInfo := do
  let effectiveName ← readDeferredUnicodeString fixed.effectiveName "EffectiveName"
  let fullName ← readDeferredUnicodeString fixed.fullName "FullName"
  let logonScript ← readDeferredUnicodeString fixed.logonScript "LogonScript"
  let profilePath ← readDeferredUnicodeString fixed.profilePath "ProfilePath"
  let homeDirectory ← readDeferredUnicodeString fixed.homeDirectory "HomeDirectory"
  let homeDirectoryDrive ← readDeferredUnicodeString fixed.homeDirectoryDrive "HomeDirectoryDrive"
  let groupIds ← readDeferredGroupMemberships fixed.groupIdsRef fixed.groupCount "GroupIDs"
  let logonServer ← readDeferredUnicodeString fixed.logonServer "LogonServer"
  let logonDomainName ← readDeferredUnicodeString fixed.logonDomainName "LogonDomainName"
  let logonDomainId ← readDeferredSid fixed.logonDomainIdRef "LogonDomainID"
  let extraSids ← readDeferredSidAndAttributes fixed.extraSidsRef fixed.sidCount "ExtraSIDs"
  let resourceGroupDomainSid ← readDeferredSid fixed.resourceGroupDomainSidRef "ResourceGroupDomainSID"
  let resourceGroupIds ←
    readDeferredGroupMemberships fixed.resourceGroupIdsRef fixed.resourceGroupCount "ResourceGroupIDs"
  return {
    logonTime := fixed.logonTime, logoffTime := fixed.logoffTime, kickoffTime := fixed.kickoffTime
    passwordLastSet := fixed.passwordLastSet, passwordCanChange := fixed.passwordCanChange
    passwordMustChange := fixed.passwordMustChange
    effectiveName, fullName, logonScript, profilePath, homeDirectory, homeDirectoryDrive
    logonCount := fixed.logonCount, badPasswordCount := fixed.badPasswordCount, userId := fixed.userId
    primaryGroupId := fixed.primaryGroupId, groupCount := fixed.groupCount, groupIds
    userFlags := fixed.userFlags, userSessionKey := fixed.userSessionKey, logonServer, logonDomainName
    logonDomainId, reserved1 := fixed.reserved1, userAccountControl := fixed.userAccountControl
    subAuthStatus := fixed.subAuthStatus, lastSuccessfulIlogon := fixed.lastSuccessfulIlogon
    lastFailedIlogon := fixed.lastFailedIlogon, failedIlogonCount := fixed.failedIlogonCount
    reserved3 := fixed.reserved3, sidCount := fixed.sidCount, extraSids, resourceGroupDomainSid
    resourceGroupCount := fixed.resourceGroupCount, resourceGroupIds }

def KerbValidationInfo.parse : Bytes → Except Error KerbValidationInfo := parseWith do
  readNdrWrapper "KERB_VALIDATION_INFO"
  let fixed ← readFixed
  let info ← readDeferred fixed
  ensureZeros .trailingNdrBytes
  return info

structure InfoBuffer where
  ulType : UInt32
  cbBufferSize : UInt32
  offset : UInt64
  deriving DecidableEq

namespace InfoBuffer

/-- An end beyond 64 bits is out of bounds too. -/
def validate (self : InfoBuffer) (totalLen : ℕ) : Except Error Unit := do
  ensure (self.offset.toNat % 8 = 0) (.bufferOffsetNotAligned self.ulType self.offset)
  ensure (self.offset.toNat + self.cbBufferSize.toNat ≤ totalLen)
    (.bufferOutOfBounds self.ulType self.offset self.cbBufferSize totalLen)

def slice (self : InfoBuffer) (data : Bytes) : Except Error Bytes := do
  self.validate data.length
  return Patches.slice data self.offset.toNat self.cbBufferSize.toNat

def copyZeroedSignature (self : InfoBuffer) (zeroSignatureData : Bytes) (signature : SignatureData) :
    Except Error Bytes := do
  let offset := self.offset.toNat
  let len := self.cbBufferSize.toNat
  ensure (offset + len < 2 ^ 64) .lengthOverflow
  ensure (offset + len ≤ zeroSignatureData.length ∧ len = signature.zeroedData.length)
    (.bufferOutOfBounds self.ulType self.offset self.cbBufferSize zeroSignatureData.length)
  return overwrite zeroSignatureData offset signature.zeroedData

end InfoBuffer

end Pac

open Pac

structure Pac where
  cBuffers : UInt32
  version : UInt32
  buffers : List InfoBuffer
  data : Bytes
  zeroSignatureData : Bytes
  kerbValidationInfo : Option KerbValidationInfo
  serverChecksum : Option SignatureData
  kdcChecksum : Option SignatureData
  credentialsInfo : Option CredentialsInfo
  clientInfo : Option ClientInfo
  upnDnsInfo : Option UpnDnsInfo
  s4uDelegationInfo : Option S4UDelegationInfo
  deviceInfo : Option DeviceInfo
  clientClaimsInfo : Option ClaimsInfo
  deviceClaimsInfo : Option ClaimsInfo
  deriving DecidableEq

namespace Pac

def readInfoBuffer : PacReader InfoBuffer := do
  return { ulType := ← readU32, cbBufferSize := ← readU32, offset := ← readU64 }

def readTable : PacReader (UInt32 × UInt32 × List InfoBuffer) := do
  let c ← get
  let len := c.offset + c.rest.length
  let cBuffers ← readU32
  let version ← readU32
  let minimum := pacHeaderLen + cBuffers.toNat * pacInfoBufferLen
  ensure (minimum ≤ len) (Error.tooShort "PAC info buffer table" minimum len)
  let buffers ← times readInfoBuffer cBuffers.toNat
  return (cBuffers, version, buffers)

def parse (bytes : Bytes) : Except Error Pac := do
  let (cBuffers, version, buffers) ← parseWith readTable bytes
  buffers.forM (·.validate bytes.length)
  return {
    cBuffers, version, buffers
    data := bytes
    zeroSignatureData := bytes
    kerbValidationInfo := none
    serverChecksum := none
    kdcChecksum := none
    credentialsInfo := none
    clientInfo := none
    upnDnsInfo := none
    s4uDelegationInfo := none
    deviceInfo := none
    clientClaimsInfo := none
    deviceClaimsInfo := none }

variable (Z : Compcol)

/-- One turn of the loop over the buffers: the first of each known type is processed. -/
def processBuffer (self : Pac) (buffer : InfoBuffer) : Except Error Pac := do
  let bytes ← buffer.slice self.data
  if buffer.ulType = infoTypeKerbValidationInfo ∧ self.kerbValidationInfo.isNone then
    return { self with kerbValidationInfo := some (← KerbValidationInfo.parse bytes) }
  else if buffer.ulType = infoTypePacServerSignatureData ∧ self.serverChecksum.isNone then
    let checksum ← SignatureData.parse bytes
    let zeroSignatureData ← buffer.copyZeroedSignature self.zeroSignatureData checksum
    return { self with zeroSignatureData, serverChecksum := some checksum }
  else if buffer.ulType = infoTypePacKdcSignatureData ∧ self.kdcChecksum.isNone then
    let checksum ← SignatureData.parse bytes
    let zeroSignatureData ← buffer.copyZeroedSignature self.zeroSignatureData checksum
    return { self with zeroSignatureData, kdcChecksum := some checksum }
  else if buffer.ulType = infoTypeCredentials ∧ self.credentialsInfo.isNone then
    return { self with credentialsInfo := some (← CredentialsInfo.parse bytes) }
  else if buffer.ulType = infoTypePacClientInfo ∧ self.clientInfo.isNone then
    return { self with clientInfo := some (← ClientInfo.parse bytes) }
  else if buffer.ulType = infoTypeUpnDnsInfo ∧ self.upnDnsInfo.isNone then
    return { self with upnDnsInfo := some (← UpnDnsInfo.parse bytes) }
  else if buffer.ulType = infoTypeS4uDelegationInfo ∧ self.s4uDelegationInfo.isNone then
    return { self with s4uDelegationInfo := some (← S4UDelegationInfo.parse bytes) }
  else if buffer.ulType = infoTypePacDeviceInfo ∧ self.deviceInfo.isNone then
    return { self with deviceInfo := some (← DeviceInfo.parse bytes) }
  else if buffer.ulType = infoTypePacClientClaimsInfo ∧ self.clientClaimsInfo.isNone then
    return { self with clientClaimsInfo := some (← ClaimsInfo.parse Z bytes) }
  else if buffer.ulType = infoTypePacDeviceClaimsInfo ∧ self.deviceClaimsInfo.isNone then
    return { self with deviceClaimsInfo := some (← ClaimsInfo.parse Z bytes) }
  else return self

def processBuffers (self : Pac) : Except Error Pac := self.buffers.foldlM (processBuffer Z) self

def parseAndProcess (bytes : Bytes) : Except Error Pac := do
  let pac ← parse bytes
  pac.processBuffers Z

def verifyServerChecksum (P : Primitives) (self : Pac) (key : EncryptionKey) : Except Error Bool := do
  let checksum ← okOr self.serverChecksum (.missingRequiredBuffer "ServerChecksum")
  let etype ← okOr (kerberosEtypeForChecksumType checksum.signatureType)
    (.unsupportedChecksumType checksum.signatureType)
  if key.etype ≠ etype.etypeId then return false
  else return etype.verifyChecksum P key.value self.zeroSignatureData checksum.signature pacServerChecksumKeyUsage

def requireServiceBuffers (self : Pac) : Except Error Unit := do
  ensure self.kerbValidationInfo.isSome (.missingRequiredBuffer "KerbValidationInfo")
  ensure self.serverChecksum.isSome (.missingRequiredBuffer "ServerChecksum")
  ensure self.kdcChecksum.isSome (.missingRequiredBuffer "KDCChecksum")
  ensure self.clientInfo.isSome (.missingRequiredBuffer "ClientInfo")

def verify (P : Primitives) (self : Pac) (key : EncryptionKey) : Except Error Unit := do
  self.requireServiceBuffers
  let verified ← self.verifyServerChecksum P key
  ensure (verified = true) .serverChecksumVerificationFailed

end Pac

end Rskrb5
