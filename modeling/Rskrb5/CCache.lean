import Rskrb5.FileFormat
import Rskrb5.KrbCred

namespace Rskrb5.CCache

def xCacheconfRealm : String := "X-CACHECONF:"
def xCacheconfComponent : String := "krb5_ccache_conf_data"

def isConfigCredential (credential : Credential) : Bool :=
  credential.server.realm = xCacheconfRealm ∧
    (credential.server.components.length = 2 ∨ credential.server.components.length = 3) ∧
    credential.server.components.head? = some xCacheconfComponent

end Rskrb5.CCache

namespace Rskrb5

structure CCache where
  defaultPrincipal : Principal
  credentials : List CCache.Credential
  deriving DecidableEq

def CCache.entries (cache : CCache) : List CCache.Credential :=
  cache.credentials.filter fun credential ↦ !CCache.isConfigCredential credential

namespace CCache

open Lib.Results Lib.Readers FileFormat

structure HeaderField where
  tag : UInt16
  value : Bytes
  deriving DecidableEq

structure Header where
  fields : List HeaderField
  deriving DecidableEq

/-- A cache with what only its file has: the version of the format, and the header of version 4. -/
structure File extends CCache where
  version : UInt8
  header : Header
  deriving DecidableEq

def ccacheFirstByte : UInt8 := 5
def headerFieldTagKdcOffset : UInt16 := 1

def File.new (defaultPrincipal : Principal) : File where
  defaultPrincipal := defaultPrincipal
  credentials := []
  version := 4
  header := ⟨[]⟩

/-- The credential that was replaced, when there was one for the same principals. -/
def upsertCredential (credential : Credential) : List Credential → Option Credential × List Credential
  | [] => (none, [credential])
  | existing :: rest =>
    if existing.client = credential.client ∧ existing.server = credential.server then
      (some existing, credential :: rest)
    else ((upsertCredential credential rest).1, existing :: (upsertCredential credential rest).2)

def File.upsertCredential (file : File) (credential : Credential) : Option Credential × File :=
  let (replaced, credentials) := CCache.upsertCredential credential file.credentials
  (replaced, { file with credentials })

def samePrincipalIdentity (left right : Principal) : Bool :=
  left.realm = right.realm ∧ left.components = right.components

/-- A ticket of the client, and not what a cache keeps about itself. -/
def isOwnEntry (client : Principal) (credential : Credential) : Bool :=
  samePrincipalIdentity credential.client client && !isConfigCredential credential

/-- The credentials that are taken out of the list, and those that stay. -/
def removeEntriesForClient (client : Principal) : List Credential → List Credential × List Credential
  | [] => ([], [])
  | credential :: rest =>
    let (removed, kept) := removeEntriesForClient client rest
    if isOwnEntry client credential then (credential :: removed, kept)
    else (removed, credential :: kept)

def File.removeEntriesForClient (file : File) (client : Principal) : List Credential × File :=
  let (removed, credentials) := CCache.removeEntriesForClient client file.credentials
  (removed, { file with credentials })

/-- Versions 1 and 2 are written in the byte order of the target. -/
def endianForVersion (target : Endian) (version : UInt8) : Endian :=
  if (version = 1 ∨ version = 2) ∧ target = .little then .little else .big

def HeaderField.validate (field : HeaderField) : Except FileError Unit :=
  ensure (¬ (field.tag = headerFieldTagKdcOffset ∧ field.value.length ≠ 8))
    (.invalidHeaderField field.tag field.value.length)

section Parse

variable (version : UInt8) (endian : Endian)

def readCount : FileReader ℕ := do
  let count ← readI32 endian
  nonNegative count

def readData : FileReader Bytes := do
  let len ← readCount endian
  readBytes len

def readCountedString : FileReader String := do
  let raw ← readData endian
  utf8String raw

def readHeaderField : FileReader HeaderField := do
  let tag ← readU16 endian
  let fieldLength ← readU16 endian
  let value ← readBytes fieldLength.toNat
  let field : HeaderField := { tag, value }
  field.validate
  return field

def isBefore (stop : ℕ) (c : Cursor UInt8) : Bool := c.offset < stop

def readHeaderFields (stop : ℕ) : FileReader (List HeaderField) :=
  loop (isBefore stop) (fun fields ↦ do return .yield (fields ++ [← readHeaderField endian])) []

/-- The fields are not held back by the length of the header, which is compared afterwards. -/
def readHeader : FileReader Header := do
  let length ← readU16 endian
  let start ← get
  ensure (length.toNat ≤ start.rest.length) (FileError.truncated start.offset length.toNat start.rest.length)
  let stop := start.offset + length.toNat
  let fields ← readHeaderFields endian stop
  let c ← get
  ensure (c.offset = stop) FileError.invalidHeaderLength
  return { fields }

def readVersionHeader : FileReader Header := if version = 4 then readHeader endian else return { fields := [] }

def readPrincipal : FileReader Principal := do
  let nameType ← readNameType endian version
  let count ← readI32 endian
  let count ← componentCount version (-2 ^ 31) count.toInt
  let realm ← readCountedString endian
  let components ← times (readCountedString endian) count
  return { realm, nameType, components }

/-- Version 3 has the etype twice, and the second one counts. -/
def readEtype : FileReader Int32 := do
  let etype ← readI16 endian
  if version = 3 then return (← readI16 endian).toInt32 else return etype.toInt32

def readTimes : FileReader CredentialTimes := do
  let authTime ← readU32 endian
  let startTime ← readU32 endian
  let endTime ← readU32 endian
  let renewTill ← readU32 endian
  return { authTime, startTime, endTime, renewTill }

def readTicketFlags : FileReader (Vector UInt8 4) := do
  let raw ← readBytes 4
  return .ofFn fun i ↦ raw.getD i 0

def readHostAddress : FileReader HostAddress := do
  let addrType ← readI16 endian
  let address ← readData endian
  return { addrType := addrType.toInt32, address }

def readAuthorizationDataEntry : FileReader AuthorizationDataEntry := do
  let adType ← readI16 endian
  let data ← readData endian
  return { adType := adType.toInt32, data }

def readList {α : Type} (r : FileReader α) : FileReader (List α) := do
  let count ← readCount endian
  times r count

def readCredential : FileReader Credential := do
  let client ← readPrincipal version endian
  let server ← readPrincipal version endian
  let etype ← readEtype version endian
  let value ← readData endian
  let times ← readTimes endian
  let isSkey ← readU8
  let ticketFlags ← readTicketFlags
  let addresses ← readList endian (readHostAddress endian)
  let authData ← readList endian (readAuthorizationDataEntry endian)
  let ticket ← readData endian
  let secondTicket ← readData endian
  return {
    client
    server
    key := ⟨etype, value⟩
    times
    isSkey := isSkey != 0
    ticketFlags
    addresses
    authData
    ticket
    secondTicket }

def readFile : FileReader File := do
  let header ← readVersionHeader version endian
  let defaultPrincipal ← readPrincipal version endian
  let credentials ← untilEnd (readCredential version endian)
  return { version, header, defaultPrincipal, credentials }

end Parse

def parse (target : Endian) (bytes : Bytes) : Except FileError File := do
  ensure (2 ≤ bytes.length) (.tooShort bytes.length)
  let firstByte := bytes.getD 0 0
  ensure (firstByte = ccacheFirstByte) (.invalidFirstByte firstByte)
  let version := bytes.getD 1 0
  ensure (1 ≤ version ∧ version ≤ 4) (.invalidVersion version)
  let (file, _) ← (readFile version (endianForVersion target version)).run ⟨2, bytes.drop 2⟩
  return file

section Write

variable (version : UInt8) (endian : Endian)

def writeData (value : Bytes) : Except FileError Bytes := do
  let len ← writeI32LenChecked endian value.length
  return len ++ value

def writeCountedString (value : String) : Except FileError Bytes := writeData endian (asBytes value)

def writeHeaderField (field : HeaderField) : Except FileError Bytes := do
  field.validate
  let fieldLength ← writeU16Checked endian field.value.length
  return writeU16 endian field.tag ++ (fieldLength ++ field.value)

def writeHeader (header : Header) : Except FileError Bytes := do
  let body ← writeAll (writeHeaderField endian) header.fields
  let length ← writeU16Checked endian body.length
  return length ++ body

def writeVersionHeader (header : Header) : Except FileError Bytes :=
  if version = 4 then writeHeader endian header else return []

def writePrincipal (principal : Principal) : Except FileError Bytes := do
  let count ← writeI32LenChecked endian (writtenCount version principal.components)
  let realm ← writeCountedString endian principal.realm
  let components ← writeAll (writeCountedString endian) principal.components
  return writeNameType endian version principal.nameType ++ (count ++ (realm ++ components))

def writeEtype (etype : Int32) : Except FileError Bytes := do
  let once ← writeI16Checked endian etype.toInt
  return if version = 3 then once ++ once else once

def writeTimes (times : CredentialTimes) : Bytes :=
  writeU32 endian times.authTime ++ (writeU32 endian times.startTime ++
    (writeU32 endian times.endTime ++ writeU32 endian times.renewTill))

def writeHostAddress (address : HostAddress) : Except FileError Bytes := do
  let addrType ← writeI16Checked endian address.addrType.toInt
  let data ← writeData endian address.address
  return addrType ++ data

def writeAuthorizationDataEntry (entry : AuthorizationDataEntry) : Except FileError Bytes := do
  let adType ← writeI16Checked endian entry.adType.toInt
  let data ← writeData endian entry.data
  return adType ++ data

def writeList {α : Type} (write : α → Except FileError Bytes) (values : List α) : Except FileError Bytes := do
  let count ← writeI32LenChecked endian values.length
  let body ← writeAll write values
  return count ++ body

def writeCredential (credential : Credential) : Except FileError Bytes := do
  let client ← writePrincipal version endian credential.client
  let server ← writePrincipal version endian credential.server
  let etype ← writeEtype version endian credential.key.etype
  let value ← writeData endian credential.key.value
  let addresses ← writeList endian (writeHostAddress endian) credential.addresses
  let authData ← writeList endian (writeAuthorizationDataEntry endian) credential.authData
  let ticket ← writeData endian credential.ticket
  let secondTicket ← writeData endian credential.secondTicket
  return client ++ (server ++ (etype ++ (value ++ (writeTimes endian credential.times ++
    ([if credential.isSkey then 1 else 0] ++ (credential.ticketFlags.toList ++ (addresses ++ (authData ++
      (ticket ++ secondTicket)))))))))

end Write

def File.toBytes (target : Endian) (file : File) : Except FileError Bytes := do
  let endian := endianForVersion target file.version
  let header ← writeVersionHeader file.version endian file.header
  let defaultPrincipal ← writePrincipal file.version endian file.defaultPrincipal
  let credentials ← writeAll (writeCredential file.version endian) file.credentials
  return [ccacheFirstByte, file.version] ++ (header ++ (defaultPrincipal ++ credentials))

section Upserts

theorem upsertCredential_of_ne {credential : Credential} {credentials : List Credential}
    (h : ∀ existing ∈ credentials,
      ¬ (existing.client = credential.client ∧ existing.server = credential.server)) :
    upsertCredential credential credentials = (none, credentials ++ [credential]) := by
  induction credentials with
  | nil => rfl
  | cons existing rest ih =>
    rw [upsertCredential, if_neg (h existing List.mem_cons_self),
      ih fun other hm ↦ h other (List.mem_cons_of_mem existing hm)]
    rfl

/-- Credentials for distinct servers are put behind entries that none of them replaces. -/
theorem foldl_upsertCredential {credentials : List Credential} {file : File}
    (h : credentials.Pairwise fun a b ↦ a.server ≠ b.server)
    (hfile : ∀ existing ∈ file.credentials, ∀ credential ∈ credentials,
      ¬ (existing.client = credential.client ∧ existing.server = credential.server)) :
    credentials.foldl (fun file credential ↦ (file.upsertCredential credential).2) file =
      { file with credentials := file.credentials ++ credentials } := by
  induction credentials generalizing file with
  | nil => simp
  | cons credential credentials ih =>
    obtain ⟨hhead, htail⟩ := List.pairwise_cons.mp h
    have hput : (file.upsertCredential credential).2 =
        { file with credentials := file.credentials ++ [credential] } := by
      rw [File.upsertCredential,
        upsertCredential_of_ne fun existing hm ↦ hfile existing hm credential List.mem_cons_self]
    rw [List.foldl_cons, hput, ih htail]
    · simp
    · intro existing hm other hother
      rcases List.mem_append.mp hm with hm | hm
      · exact hfile existing hm other (List.mem_cons_of_mem credential hother)
      · rw [List.mem_singleton.mp hm]
        exact fun heq ↦ hhead other hother heq.2

theorem removeEntriesForClient_eq (client : Principal) (credentials : List Credential) :
    removeEntriesForClient client credentials =
      (credentials.filter (isOwnEntry client), credentials.filter fun other ↦ !isOwnEntry client other) := by
  induction credentials with
  | nil => rfl
  | cons credential rest ih =>
    rw [removeEntriesForClient, ih]
    by_cases h : isOwnEntry client credential = true
    · rw [List.filter_cons_of_pos h, List.filter_cons_of_neg (by simp [h])]
      exact if_pos h
    · rw [List.filter_cons_of_neg h, List.filter_cons_of_pos (by simpa using h)]
      exact if_neg h

end Upserts

section Lengths

/-- A name of which every length is within the 32-bit counts of the format. -/
structure CountedPrincipal (principal : Principal) : Prop where
  realm : (asBytes principal.realm).length < 2 ^ 31
  components : principal.components.length < 2 ^ 31
  component : ∀ component ∈ principal.components, (asBytes component).length < 2 ^ 31

theorem writeData_of_lt (endian : Endian) {value : Bytes} (h : value.length < 2 ^ 31) :
    ∃ bs, writeData endian value = .ok bs := by
  rw [writeData, writeI32LenChecked_of_lt endian h]
  exact ⟨_, rfl⟩

theorem lt_of_writeData {endian : Endian} {value bs : Bytes} (h : writeData endian value = .ok bs) :
    value.length < 2 ^ 31 := by
  obtain ⟨len, hlen, -⟩ := bind_eq_ok.mp h
  exact_mod_cast (writeI32LenChecked_eq_ok.mp hlen).1.2

theorem writePrincipal_of_counted (endian : Endian) {principal : Principal} (h : CountedPrincipal principal) :
    ∃ bs, writePrincipal 4 endian principal = .ok bs := by
  have hcount : writeI32LenChecked endian (writtenCount 4 principal.components) =
      .ok (writeI32 endian (Int32.ofInt principal.components.length)) :=
    writeI32LenChecked_of_lt endian h.components
  have hstring : ∀ text, (asBytes text).length < 2 ^ 31 → ∃ bs, writeCountedString endian text = .ok bs :=
    fun _ ht ↦ writeData_of_lt endian ht
  obtain ⟨realm, hrealm⟩ := hstring principal.realm h.realm
  have hcomponents := writeAll_of_forall fun component hm ↦
    write_eq_written (hstring component (h.component component hm))
  simp only [writePrincipal, hcount, hrealm, hcomponents, ok_bind]
  exact ⟨_, rfl⟩

theorem writeEtype_of_le (endian : Endian) {etype : Int32} (h : -2 ^ 15 ≤ etype.toInt ∧ etype.toInt < 2 ^ 15) :
    ∃ bs, writeEtype 4 endian etype = .ok bs := by
  rw [writeEtype, writeI16Checked_eq_ok.mpr ⟨h, rfl⟩]
  exact ⟨_, rfl⟩

theorem writeCredential_of_counted (endian : Endian) {credential : Credential}
    (hclient : CountedPrincipal credential.client) (hserver : CountedPrincipal credential.server)
    (hetype : -2 ^ 15 ≤ credential.key.etype.toInt ∧ credential.key.etype.toInt < 2 ^ 15)
    (hkey : credential.key.value.length < 2 ^ 31) (hticket : credential.ticket.length < 2 ^ 31)
    (haddresses : credential.addresses = []) (hauthData : credential.authData = [])
    (hsecond : credential.secondTicket = []) :
    ∃ bs, writeCredential 4 endian credential = .ok bs := by
  obtain ⟨client, hclient⟩ := writePrincipal_of_counted endian hclient
  obtain ⟨server, hserver⟩ := writePrincipal_of_counted endian hserver
  obtain ⟨etype, hetype⟩ := writeEtype_of_le endian hetype
  obtain ⟨key, hkey⟩ := writeData_of_lt endian hkey
  obtain ⟨ticket, hticket⟩ := writeData_of_lt endian hticket
  obtain ⟨second, hnil⟩ := writeData_of_lt endian (by norm_num : ([] : Bytes).length < 2 ^ 31)
  have hempty {α : Type} (write : α → Except FileError Bytes) :
      writeList endian write [] = .ok (writeI32 endian (Int32.ofInt ((0 : ℕ) : ℤ))) := by
    rw [writeList, List.length_nil, writeI32LenChecked_of_lt endian (by norm_num : 0 < 2 ^ 31)]
    simp [writeAll]
  simp only [writeCredential, hclient, hserver, hetype, hkey, hticket, haddresses, hauthData, hsecond, hnil,
    hempty, ok_bind]
  exact ⟨_, rfl⟩

theorem File.toBytes_of_counted (target : Endian) {file : File} (hversion : file.version = 4)
    (hheader : file.header.fields = []) (hprincipal : CountedPrincipal file.defaultPrincipal)
    (hcredentials : ∀ credential ∈ file.credentials,
      ∃ bs, writeCredential 4 (endianForVersion target 4) credential = .ok bs) :
    ∃ bytes, file.toBytes target = .ok bytes := by
  obtain ⟨principal, hprincipal⟩ := writePrincipal_of_counted (endianForVersion target 4) hprincipal
  have hall := writeAll_of_forall fun credential hm ↦ write_eq_written (hcredentials credential hm)
  have hempty : writeVersionHeader 4 (endianForVersion target 4) file.header =
      .ok (writeU16 (endianForVersion target 4) 0) := by
    rw [writeVersionHeader, if_pos rfl, writeHeader, hheader]
    rfl
  simp only [File.toBytes, hversion, hempty, hprincipal, hall, ok_bind]
  exact ⟨_, rfl⟩

theorem countedPrincipal_of_writePrincipal {endian : Endian} {principal : Principal} {bs : Bytes}
    (h : writePrincipal 4 endian principal = .ok bs) : CountedPrincipal principal := by
  simp only [writePrincipal, bind_eq_ok] at h
  obtain ⟨_, hcount, _, hrealm, _, hcomponents, -⟩ := h
  have hlt : (principal.components.length : ℤ) < 2 ^ 31 := (writeI32LenChecked_eq_ok.mp hcount).1.2
  exact ⟨lt_of_writeData hrealm, by exact_mod_cast hlt,
    fun component hm ↦ lt_of_writeData ((writeAll_eq_ok hcomponents).2 component hm)⟩

theorem counted_of_writeCredential {endian : Endian} {credential : Credential} {bs : Bytes}
    (h : writeCredential 4 endian credential = .ok bs) :
    CountedPrincipal credential.server ∧ credential.key.value.length < 2 ^ 31 ∧
      credential.ticket.length < 2 ^ 31 := by
  simp only [writeCredential, bind_eq_ok] at h
  obtain ⟨_, -, _, hserver, _, -, _, hkey, _, -, _, -, _, hticket, -⟩ := h
  exact ⟨countedPrincipal_of_writePrincipal hserver, lt_of_writeData hkey, lt_of_writeData hticket⟩

theorem File.writes_of_toBytes {target : Endian} {file : File} {bytes : Bytes}
    (hversion : file.version = 4) (h : file.toBytes target = .ok bytes) :
    CountedPrincipal file.defaultPrincipal ∧ ∀ credential ∈ file.credentials,
      ∃ bs, writeCredential 4 (endianForVersion target 4) credential = .ok bs := by
  simp only [File.toBytes, hversion, bind_eq_ok] at h
  obtain ⟨_, -, _, hprincipal, _, hall, -⟩ := h
  exact ⟨countedPrincipal_of_writePrincipal hprincipal,
    fun credential hm ↦ ⟨_, (writeAll_eq_ok hall).2 credential hm⟩⟩

end Lengths

section Reads

variable {version : UInt8} {endian : Endian}

theorem reads_readCount {n : ℕ} {bs : Bytes} (h : writeI32LenChecked endian n = .ok bs) :
    Reads (readCount endian) bs n := by
  obtain ⟨⟨hlow, hhigh⟩, rfl⟩ := writeI32LenChecked_eq_ok.mp h
  refine (reads_readI32 _).last (.lift ?_)
  rw [nonNegative_eq_ok, Int32.toInt_ofInt_of_le hlow hhigh]

theorem reads_readData {value bs : Bytes} (h : writeData endian value = .ok bs) :
    Reads (readData endian) bs value := by
  obtain ⟨len, hlen, hbs⟩ := bind_eq_ok.mp h
  obtain rfl := Except.ok.inj hbs
  exact (reads_readCount hlen).bind (.takeItems _ rfl)

theorem reads_readCountedString {s : String} {bs : Bytes} (h : writeCountedString endian s = .ok bs) :
    Reads (readCountedString endian) bs s :=
  (reads_readData h).last (.lift (utf8String_eq_ok.mpr rfl))

theorem reads_readI16_of_writeI16Checked {value : Int32} {bs : Bytes}
    (h : writeI16Checked endian value.toInt = .ok bs) :
    ∃ read : Int16, read.toInt32 = value ∧ Reads (readI16 endian) bs read := by
  obtain ⟨⟨hlow, hhigh⟩, rfl⟩ := writeI16Checked_eq_ok.mp h
  refine ⟨Int16.ofInt value.toInt, ?_, reads_readI16 _⟩
  rw [← Int32.toInt_inj, Int16.toInt_toInt32, Int16.toInt_ofInt_of_le hlow hhigh]

theorem reads_readPrincipal {principal : Principal} {bs : Bytes}
    (hname : version = 1 → principal.nameType = 0)
    (h : writePrincipal version endian principal = .ok bs) :
    Reads (readPrincipal version endian) bs principal := by
  simp only [writePrincipal, bind_eq_ok, pure_eq_ok, Except.ok.injEq] at h
  obtain ⟨count, hc, realm, hr, components, hs, rfl⟩ := h
  obtain ⟨rfl, hall⟩ := writeAll_eq_ok hs
  obtain ⟨⟨hlow, hhigh⟩, rfl⟩ := writeI32LenChecked_eq_ok.mp hc
  have hint := Int32.toInt_ofInt_of_le hlow hhigh
  have hcount : componentCount version (-2 ^ 31) (Int32.ofInt (writtenCount version
      principal.components : ℤ)).toInt = .ok principal.components.length := by
    rw [componentCount_eq_ok (by norm_num) (by norm_num) (Int32.le_toInt _) (Int32.toInt_lt _), hint,
      writtenCount]
  refine (reads_readNameType hname).bind ((reads_readI32 _).bind (.skip (.lift hcount) ?_))
  refine (reads_readCountedString hr).bind ?_
  exact (Reads.times fun s hs ↦ reads_readCountedString (hall s hs)).last (.pure _)

theorem reads_readEtype {etype : Int32} {bs : Bytes} (h : writeEtype version endian etype = .ok bs) :
    Reads (readEtype version endian) bs etype := by
  obtain ⟨once, hw, hbs⟩ := bind_eq_ok.mp h
  obtain rfl := Except.ok.inj hbs
  obtain ⟨read, rfl, hread⟩ := reads_readI16_of_writeI16Checked hw
  rw [readEtype]
  split
  · exact hread.bind (hread.last (.pure _))
  · exact hread.last (.pure _)

theorem reads_readTimes (times : CredentialTimes) :
    Reads (readTimes endian) (writeTimes endian times) times :=
  (reads_readU32 _).bind ((reads_readU32 _).bind ((reads_readU32 _).bind
    ((reads_readU32 _).last (.pure times))))

theorem reads_readTicketFlags (flags : Vector UInt8 4) : Reads readTicketFlags flags.toList flags := by
  have hflags : (Vector.ofFn fun i : Fin 4 ↦ flags.toList.getD i 0) = flags := by
    ext i hi
    simp
  refine (Reads.takeItems _ (by simp)).last ?_
  rw [hflags]
  exact .pure flags

theorem reads_readHostAddress {address : HostAddress} {bs : Bytes}
    (h : writeHostAddress endian address = .ok bs) : Reads (readHostAddress endian) bs address := by
  simp only [writeHostAddress, bind_eq_ok, pure_eq_ok, Except.ok.injEq] at h
  obtain ⟨addrType, ht, data, hd, rfl⟩ := h
  obtain ⟨read, hread, hreads⟩ := reads_readI16_of_writeI16Checked ht
  refine hreads.bind ((reads_readData hd).last ?_)
  rw [hread]
  exact .pure address

theorem reads_readAuthorizationDataEntry {entry : AuthorizationDataEntry} {bs : Bytes}
    (h : writeAuthorizationDataEntry endian entry = .ok bs) :
    Reads (readAuthorizationDataEntry endian) bs entry := by
  simp only [writeAuthorizationDataEntry, bind_eq_ok, pure_eq_ok, Except.ok.injEq] at h
  obtain ⟨adType, ht, data, hd, rfl⟩ := h
  obtain ⟨read, hread, hreads⟩ := reads_readI16_of_writeI16Checked ht
  refine hreads.bind ((reads_readData hd).last ?_)
  rw [hread]
  exact .pure entry

theorem reads_readList {α : Type} {r : FileReader α} {write : α → Except FileError Bytes}
    {values : List α} {bs : Bytes} (hr : ∀ value bs, write value = .ok bs → Reads r bs value)
    (h : writeList endian write values = .ok bs) : Reads (readList endian r) bs values := by
  simp only [writeList, bind_eq_ok, pure_eq_ok, Except.ok.injEq] at h
  obtain ⟨count, hc, body, hb, rfl⟩ := h
  obtain ⟨rfl, hall⟩ := writeAll_eq_ok hb
  exact (reads_readCount hc).bind (.times fun value hv ↦ hr value _ (hall value hv))

theorem reads_readCredential {credential : Credential} {bs : Bytes}
    (hclient : version = 1 → credential.client.nameType = 0)
    (hserver : version = 1 → credential.server.nameType = 0)
    (h : writeCredential version endian credential = .ok bs) :
    Reads (readCredential version endian) bs credential := by
  simp only [writeCredential, bind_eq_ok, pure_eq_ok, Except.ok.injEq] at h
  obtain ⟨client, hc, server, hs, etype, he, value, hv, addresses, ha, authData, hd, ticket, ht,
    secondTicket, h2, rfl⟩ := h
  have hskey : ((if credential.isSkey then 1 else 0 : UInt8) != 0) = credential.isSkey := by
    cases credential.isSkey <;> rfl
  refine (reads_readPrincipal hclient hc).bind ((reads_readPrincipal hserver hs).bind ?_)
  refine (reads_readEtype he).bind ((reads_readData hv).bind ((reads_readTimes _).bind ?_))
  refine (reads_readU8 _).bind ((reads_readTicketFlags _).bind ?_)
  refine (reads_readList (fun _ _ ↦ reads_readHostAddress) ha).bind ?_
  refine (reads_readList (fun _ _ ↦ reads_readAuthorizationDataEntry) hd).bind ?_
  refine (reads_readData ht).bind ((reads_readData h2).last ?_)
  rw [hskey]
  exact .pure credential

theorem reads_readHeaderField {field : HeaderField} {bs : Bytes}
    (h : writeHeaderField endian field = .ok bs) : Reads (readHeaderField endian) bs field := by
  simp only [writeHeaderField, bind_eq_ok, pure_eq_ok, Except.ok.injEq] at h
  obtain ⟨_, hvalid, length, hlen, rfl⟩ := h
  obtain ⟨⟨-, hlt⟩, rfl⟩ := writeU16Checked_eq_ok.mp hlen
  have hvalue : field.value.length = (UInt16.ofNat (field.value.length : ℤ).toNat).toNat := by
    rw [UInt16.toNat_ofNat', Nat.mod_eq_of_lt (by omega), Int.toNat_natCast]
  refine (reads_readU16 _).bind ((reads_readU16 _).bind ((Reads.takeItems _ hvalue).last ?_))
  exact .skip (.lift hvalid) (.pure field)

theorem writeHeaderField_of_lt (endian : Endian) {field : HeaderField} (hvalid : field.validate = .ok ())
    (hlt : field.value.length < 2 ^ 16) : writeHeaderField endian field =
      .ok (writeU16 endian field.tag ++ (writeU16 endian (UInt16.ofNat field.value.length) ++ field.value)) := by
  have hlen := writeU16Checked_of_lt endian (Int.natCast_nonneg field.value.length) (by omega)
  rw [writeHeaderField, hvalid, ok_bind, hlen]
  rfl

/-- A field that was read takes the same place when it is written. -/
theorem parses_readHeaderField : Parses (readHeaderField endian) fun field used ↦ used ≠ [] ∧
    writeHeaderField endian field = .ok (written (writeHeaderField endian) field) ∧
    (written (writeHeaderField endian) field).length = used.length := by
  refine parses_readU16.bind fun tag used htag ↦ parses_readU16.bind fun length used' hlen ↦ ?_
  refine (Parses.takeItems _ length.toNat).bind fun value used'' hvalue ↦ ?_
  have hvalid : Parses (liftM (HeaderField.validate ⟨tag, value⟩) : FileReader Unit) fun _ used ↦
      used = [] ∧ HeaderField.validate ⟨tag, value⟩ = .ok () := .lift fun _ h ↦ ⟨rfl, h⟩
  refine hvalid.bind fun _ used''' h ↦ .pure ?_
  obtain ⟨rfl, hvalid⟩ := h
  obtain ⟨rfl, hlength⟩ := hvalue
  have hlt := length.toNat_lt
  have hwrite := writeHeaderField_of_lt endian hvalid (by simp only; omega)
  refine ⟨?_, write_eq_written ⟨_, hwrite⟩, ?_⟩
  · intro h
    simp [(List.append_eq_nil_iff.mp h).1] at htag
  · rw [written_eq hwrite]
    simp [htag, hlen]

theorem parses_readHeaderTurn (fields : List HeaderField) :
    Parses (do return .yield (fields ++ [← readHeaderField endian]) : FileReader (ForInStep _))
      fun _ used ↦ used ≠ [] :=
  parses_readHeaderField.bind fun _ _ h ↦ .pure (by simpa using h.1)

theorem run_readHeaderFields {fields : List HeaderField} (hall : ∀ field ∈ fields,
      writeHeaderField endian field = .ok (written (writeHeaderField endian) field))
    (offset : ℕ) (rest : Bytes) :
    (readHeaderFields endian (offset + (fields.flatMap (written (writeHeaderField endian))).length)).run
        ⟨offset, fields.flatMap (written (writeHeaderField endian)) ++ rest⟩ =
      .ok (fields, ⟨offset + (fields.flatMap (written (writeHeaderField endian))).length, rest⟩) := by
  have hmore : ∀ o xs, xs <:+ fields → o + (xs.flatMap (written (writeHeaderField endian))).length =
        offset + (fields.flatMap (written (writeHeaderField endian))).length →
      isBefore (offset + (fields.flatMap (written (writeHeaderField endian))).length)
        ⟨o, xs.flatMap (written (writeHeaderField endian)) ++ rest⟩ = !xs.isEmpty := by
    intro o xs hxs htotal
    cases xs with
    | nil =>
      simp only [List.flatMap_nil, List.length_nil, Nat.add_zero] at htotal
      simp [isBefore, htotal]
    | cons field xs =>
      have hpos : 2 ≤ (written (writeHeaderField endian) field).length := by
        obtain ⟨_, -, hw⟩ := bind_eq_ok.mp (hall field (hxs.subset List.mem_cons_self))
        obtain ⟨length, -, heq⟩ := bind_eq_ok.mp hw
        rw [← Except.ok.inj heq, List.length_append, length_writeU16]
        omega
      rw [← htotal]
      simp only [isBefore, List.flatMap_cons, List.length_append, List.isEmpty_cons, Bool.not_false,
        decide_eq_true_eq]
      omega
  have hloop := run_loop_items parses_readHeaderTurn
    (fun fields field hfield ↦ (reads_readHeaderField (hall field hfield)).last (.pure _)) hmore
    (s := []) rfl
  rwa [foldl_append_singleton] at hloop

theorem reads_readHeader {header : Header} {bs : Bytes} (h : writeHeader endian header = .ok bs) :
    Reads (readHeader endian) bs header := by
  simp only [writeHeader, bind_eq_ok, pure_eq_ok, Except.ok.injEq] at h
  obtain ⟨body, hb, length, hlen, rfl⟩ := h
  obtain ⟨rfl, hall⟩ := writeAll_eq_ok hb
  obtain ⟨⟨-, hlt⟩, rfl⟩ := writeU16Checked_eq_ok.mp hlen
  intro offset rest
  have hnat :
      (UInt16.ofNat ((header.fields.flatMap (written (writeHeaderField endian))).length : ℤ).toNat).toNat =
      (header.fields.flatMap (written (writeHeaderField endian))).length := by
    rw [UInt16.toNat_ofNat', Nat.mod_eq_of_lt (by omega), Int.toNat_natCast]
  rw [readHeader, List.append_assoc, run_bind_of_ok (reads_readU16 _ offset _), run_get_bind, hnat,
    run_lift_bind (ensure_of (by simp) _)]
  dsimp only
  rw [run_bind_of_ok (run_readHeaderFields hall _ _), run_get_bind, run_lift_bind (ensure_of rfl _)]
  simp [Nat.add_assoc]

theorem parses_readHeaderFields (stop : ℕ) : Parses (readHeaderFields endian stop) fun fields used ↦
    (∀ field ∈ fields, writeHeaderField endian field = .ok (written (writeHeaderField endian) field)) ∧
    (fields.flatMap (written (writeHeaderField endian))).length = used.length := by
  refine .loop (by simp) fun fields used h ↦ parses_readHeaderField.bind fun field used' hf ↦ .pure ?_
  simp only [ForInStep.value, List.forall_mem_append, List.forall_mem_singleton, List.flatMap_append,
    List.flatMap_singleton, List.length_append, List.append_nil, h.2, hf.2.2, and_true]
  exact ⟨h.1, hf.2.1⟩

/-- The length of the header is the length of the fields that were read. -/
theorem parses_readHeader : Parses (readHeader endian) fun header _ ↦
    ∃ bs, writeHeader endian header = .ok bs := by
  intro c header c' h
  obtain ⟨length, c₁, hlength, h⟩ := run_bind_eq_ok.mp h
  obtain ⟨used, hrest, hoffset, -⟩ := parses_readU16 c length c₁ hlength
  rw [run_get_bind] at h
  obtain ⟨_, c₂, hensure, h⟩ := run_bind_eq_ok.mp h
  obtain ⟨-, rfl⟩ := run_lift_eq_ok.mp hensure
  obtain ⟨fields, c₃, hfields, h⟩ := run_bind_eq_ok.mp h
  obtain ⟨used', hrest', hoffset', hall, hused⟩ := parses_readHeaderFields _ _ fields c₃ hfields
  rw [run_get_bind] at h
  obtain ⟨_, c₄, hcheck, h⟩ := run_bind_eq_ok.mp h
  obtain ⟨hstop, rfl⟩ := run_lift_eq_ok.mp hcheck
  obtain ⟨rfl, rfl⟩ := Prod.mk.inj (Except.ok.inj h)
  rw [ensure_eq_ok] at hstop
  have hlt := length.toNat_lt
  have hlt16 : (fields.flatMap (written (writeHeaderField endian))).length < 2 ^ 16 := by
    rw [hused]
    omega
  have hlen := writeU16Checked_of_lt endian (Int.natCast_nonneg (fields.flatMap (written
    (writeHeaderField endian))).length) (by exact_mod_cast hlt16)
  refine ⟨used ++ used', ?_, ?_, ?_⟩
  · rw [hrest, hrest', List.append_assoc]
  · rw [hoffset', hoffset, List.length_append, Nat.add_assoc]
  · dsimp only
    rw [writeHeader, writeAll_of_forall hall, ok_bind, hlen]
    exact ⟨_, rfl⟩

end Reads

section Rewrites

variable {version : UInt8} {endian : Endian}

theorem parses_readCount : Parses (readCount endian) fun n used ↦ n < 2 ^ 31 ∧ used.length = 4 := by
  refine parses_readI32.bind fun count used hused ↦ .lift fun n hn ↦ ?_
  rw [nonNegative_eq_ok] at hn
  have hlt := count.toInt_lt
  refine ⟨by omega, by simpa using hused⟩

theorem parses_readData : Parses (readData endian) fun value used ↦
    (∃ bs, writeData endian value = .ok bs) ∧ used ≠ [] := by
  refine parses_readCount.bind fun n used hn ↦ (Parses.takeItems _ n).mono fun value used' hvalue ↦ ?_
  have hlt : value.length < 2 ^ 31 := by rw [hvalue.1, hvalue.2]; exact hn.1
  refine ⟨⟨_ ++ value, by rw [writeData, writeI32LenChecked_of_lt endian hlt]; rfl⟩, fun h ↦ ?_⟩
  simp [(List.append_eq_nil_iff.mp h).1] at hn

theorem parses_readCountedString : Parses (readCountedString endian) fun s _ ↦
    writeCountedString endian s = .ok (written (writeCountedString endian) s) := by
  refine parses_readData.bind fun raw _ hraw ↦ .lift fun s hs ↦ ?_
  obtain rfl := utf8String_eq_ok.mp hs
  exact write_eq_written hraw.1

theorem parses_readPrincipal : Parses (readPrincipal version endian) fun principal used ↦
    (∃ bs, writePrincipal version endian principal = .ok bs) ∧
    (version = 1 → principal.nameType = 0) ∧ used ≠ [] := by
  refine (parses_readNameType version).bind fun nameType used hname ↦ ?_
  refine parses_readI32.bind fun count used' hused ↦ ?_
  have hcount : Parses (liftM (componentCount version (-2 ^ 31) count.toInt) : FileReader ℕ) fun n _ ↦
      count.toInt = if version = 1 then n + 1 else n :=
    .lift fun n hn ↦ (componentCount_eq_ok (by norm_num) (by norm_num) count.le_toInt count.toInt_lt).mp hn
  refine hcount.bind fun n _ hn ↦ parses_readCountedString.bind fun realm _ hr ↦ ?_
  refine (parses_readCountedString.times n).bind fun components _ hc ↦ .pure ?_
  obtain ⟨hlength, hall⟩ := hc
  have hlt : writtenCount version components < 2 ^ 31 := by
    have hlt := count.toInt_lt
    rw [writtenCount, hlength]
    split at hn
    · next hv => rw [if_pos hv]; omega
    · next hv => rw [if_neg hv]; omega
  refine ⟨?_, hname, fun h ↦ ?_⟩
  · simp only [writePrincipal, writeI32LenChecked_of_lt endian hlt, hr, writeAll_of_forall hall, ok_bind,
      pure_eq_ok, Except.ok.injEq, exists_eq']
  · simp only [List.append_eq_nil_iff] at h
    simp [h.2.1] at hused

theorem parses_readI16_writeI16Checked : Parses (readI16 endian) fun value used ↦
    (∃ bs, writeI16Checked endian value.toInt32.toInt = .ok bs) ∧ used ≠ [] := by
  refine parses_readI16.mono fun value used hused ↦ ⟨⟨_, writeI16Checked_eq_ok.mpr ⟨?_, rfl⟩⟩, ?_⟩
  · rw [Int16.toInt_toInt32]
    exact ⟨value.le_toInt, value.toInt_lt⟩
  · intro h
    simp [h] at hused

theorem parses_readEtype : Parses (readEtype version endian) fun etype _ ↦
    ∃ bs, writeEtype version endian etype = .ok bs := by
  have hwrite : ∀ etype : Int16, (∃ bs, writeI16Checked endian etype.toInt32.toInt = .ok bs) →
      ∃ bs, writeEtype version endian etype.toInt32 = .ok bs := by
    intro etype h
    obtain ⟨once, h⟩ := h
    rw [writeEtype, h]
    exact ⟨_, rfl⟩
  refine parses_readI16_writeI16Checked.bind fun etype _ he ↦ ?_
  split
  · exact parses_readI16_writeI16Checked.bind fun etype _ he ↦ .pure (hwrite etype he.1)
  · exact .pure (hwrite etype he.1)

theorem parses_readTimes : Parses (readTimes endian) fun _ _ ↦ True :=
  parses_readU32.bind fun _ _ _ ↦ parses_readU32.bind fun _ _ _ ↦ parses_readU32.bind fun _ _ _ ↦
    parses_readU32.bind fun _ _ _ ↦ .pure trivial

theorem parses_readTicketFlags : Parses readTicketFlags fun _ _ ↦ True :=
  (Parses.takeItems _ 4).bind fun _ _ _ ↦ .pure trivial

theorem parses_readHostAddress : Parses (readHostAddress endian) fun address _ ↦
    writeHostAddress endian address = .ok (written (writeHostAddress endian) address) := by
  refine parses_readI16_writeI16Checked.bind fun addrType _ ht ↦ parses_readData.bind fun data _ hd ↦ .pure ?_
  obtain ⟨⟨bs, ht⟩, -⟩ := ht
  obtain ⟨⟨cs, hd⟩, -⟩ := hd
  refine write_eq_written ⟨bs ++ cs, ?_⟩
  simp only [writeHostAddress, ht, hd, ok_bind, pure_eq_ok]

theorem parses_readAuthorizationDataEntry : Parses (readAuthorizationDataEntry endian) fun entry _ ↦
    writeAuthorizationDataEntry endian entry =
      .ok (written (writeAuthorizationDataEntry endian) entry) := by
  refine parses_readI16_writeI16Checked.bind fun adType _ ht ↦ parses_readData.bind fun data _ hd ↦ .pure ?_
  obtain ⟨⟨bs, ht⟩, -⟩ := ht
  obtain ⟨⟨cs, hd⟩, -⟩ := hd
  refine write_eq_written ⟨bs ++ cs, ?_⟩
  simp only [writeAuthorizationDataEntry, ht, hd, ok_bind, pure_eq_ok]

theorem parses_readList {α : Type} {r : FileReader α} {write : α → Except FileError Bytes}
    (h : Parses r fun value _ ↦ write value = .ok (written write value)) :
    Parses (readList endian r) fun values _ ↦ ∃ bs, writeList endian write values = .ok bs := by
  refine parses_readCount.bind fun n _ hn ↦ (h.times n).mono fun values _ hv ↦ ?_
  obtain ⟨rfl, hall⟩ := hv
  rw [writeList, writeI32LenChecked_of_lt endian hn.1, ok_bind, writeAll_of_forall hall]
  exact ⟨_, rfl⟩

/-- What a version says of the names of a credential. -/
def Credential.Normal (version : UInt8) (credential : Credential) : Prop :=
  version = 1 → credential.client.nameType = 0 ∧ credential.server.nameType = 0

theorem parses_readCredential : Parses (readCredential version endian) fun credential used ↦
    (writeCredential version endian credential = .ok (written (writeCredential version endian) credential) ∧
      credential.Normal version) ∧ used ≠ [] := by
  refine parses_readPrincipal.bind fun client used hc ↦ parses_readPrincipal.bind fun server _ hs ↦ ?_
  refine parses_readEtype.bind fun etype _ he ↦ parses_readData.bind fun value _ hv ↦ ?_
  refine parses_readTimes.bind fun times _ _ ↦ parses_readU8.bind fun isSkey _ _ ↦ ?_
  refine parses_readTicketFlags.bind fun flags _ _ ↦ ?_
  refine (parses_readList parses_readHostAddress).bind fun addresses _ ha ↦ ?_
  refine (parses_readList parses_readAuthorizationDataEntry).bind fun authData _ hd ↦ ?_
  refine parses_readData.bind fun ticket _ ht ↦ parses_readData.bind fun secondTicket _ h2 ↦ .pure ?_
  obtain ⟨⟨bs₁, hc₁⟩, hc₂, hc₃⟩ := hc
  obtain ⟨⟨bs₂, hs₁⟩, hs₂, -⟩ := hs
  obtain ⟨bs₃, he⟩ := he
  obtain ⟨⟨bs₄, hv⟩, -⟩ := hv
  obtain ⟨bs₅, ha⟩ := ha
  obtain ⟨bs₆, hd⟩ := hd
  obtain ⟨⟨bs₇, ht⟩, -⟩ := ht
  obtain ⟨⟨bs₈, h2⟩, -⟩ := h2
  refine ⟨⟨?_, fun h ↦ ⟨hc₂ h, hs₂ h⟩⟩, fun h ↦ hc₃ (List.append_eq_nil_iff.mp h).1⟩
  refine write_eq_written ?_
  simp only [writeCredential, hc₁, hs₁, he, hv, ha, hd, ht, h2, ok_bind, pure_eq_ok]
  exact ⟨_, rfl⟩

end Rewrites

section Files

variable {target : Endian}

/-- A value that the file format of its version can tell apart from every other. -/
structure File.Normal (file : File) : Prop where
  version : 1 ≤ file.version ∧ file.version ≤ 4
  header : file.version ≠ 4 → file.header.fields = []
  defaultPrincipal : file.version = 1 → file.defaultPrincipal.nameType = 0
  credentials : ∀ credential ∈ file.credentials, credential.Normal file.version

theorem reads_readVersionHeader {version : UInt8} {endian : Endian} {header : Header} {bs : Bytes}
    (hn : version ≠ 4 → header.fields = []) (h : writeVersionHeader version endian header = .ok bs) :
    Reads (readVersionHeader version endian) bs header := by
  rw [writeVersionHeader] at h
  rw [readVersionHeader]
  split at h
  · next hv =>
    rw [if_pos hv]
    exact reads_readHeader h
  · next hv =>
    obtain rfl := Except.ok.inj h
    rw [if_neg hv, ← hn hv]
    exact .pure header

theorem reads_readCredential_of_normal {version : UInt8} {endian : Endian} {credential : Credential}
    {bs : Bytes} (hn : credential.Normal version) (h : writeCredential version endian credential = .ok bs) :
    Reads (readCredential version endian) bs credential :=
  reads_readCredential (fun hv ↦ (hn hv).1) (fun hv ↦ (hn hv).2) h

theorem parse_toBytes {file : File} {bytes : Bytes} (hn : file.Normal)
    (h : file.toBytes target = .ok bytes) : parse target bytes = .ok file := by
  simp only [File.toBytes, bind_eq_ok, pure_eq_ok, Except.ok.injEq] at h
  obtain ⟨header, hh, principal, hp, credentials, hc, rfl⟩ := h
  obtain ⟨rfl, hall⟩ := writeAll_eq_ok hc
  have hcredentials := run_untilEnd (parses_readCredential.mono fun _ _ h ↦ h.2)
    fun credential hm ↦ reads_readCredential_of_normal (hn.credentials credential hm) (hall credential hm)
  obtain ⟨c, hrun⟩ : ∃ c, (readFile file.version (endianForVersion target file.version)).run
      ⟨2, header ++ (principal ++ file.credentials.flatMap (written (writeCredential file.version
        (endianForVersion target file.version))))⟩ = .ok (file, c) := by
    rw [readFile, run_bind_of_ok (reads_readVersionHeader hn.header hh 2 _),
      run_bind_of_ok (reads_readPrincipal hn.defaultPrincipal hp _ _), run_bind_of_ok (hcredentials _)]
    exact ⟨_, rfl⟩
  simp [parse, hn.version, hrun, ensure_of]

theorem parses_readVersionHeader {version : UInt8} {endian : Endian} :
    Parses (readVersionHeader version endian) fun header _ ↦
      (version ≠ 4 → header.fields = []) ∧ ∃ bs, writeVersionHeader version endian header = .ok bs := by
  simp only [readVersionHeader, writeVersionHeader]
  split
  · next hv => exact parses_readHeader.mono fun _ _ h ↦ ⟨fun hne ↦ absurd hv hne, h⟩
  · exact .pure ⟨fun _ ↦ rfl, _, rfl⟩

/-- What was read is in normal form, and can be written. -/
theorem parse_eq_ok {bytes : Bytes} {file : File} (h : parse target bytes = .ok file) :
    file.Normal ∧ ∃ saved, file.toBytes target = .ok saved := by
  simp only [parse, bind_eq_ok, ensure_eq_ok, pure_eq_ok, Except.ok.injEq] at h
  obtain ⟨-, -, -, -, -, hversion, ⟨file', c⟩, hrun, rfl⟩ := h
  have hfile : Parses (readFile (bytes.getD 1 0) (endianForVersion target (bytes.getD 1 0)))
      fun file _ ↦ file.Normal ∧ ∃ saved, file.toBytes target = .ok saved := by
    refine parses_readVersionHeader.bind fun header _ hh ↦ parses_readPrincipal.bind fun principal _ hp ↦ ?_
    refine (parses_untilEnd (parses_readCredential.mono fun _ _ h ↦ h.1)).bind fun credentials _ hc ↦ .pure ?_
    obtain ⟨hheader, bs, hwrite⟩ := hh
    obtain ⟨⟨bs', hwrite'⟩, hname, -⟩ := hp
    refine ⟨⟨hversion, hheader, hname, fun credential hm ↦ (hc credential hm).2⟩, ?_⟩
    simp only [File.toBytes, hwrite, hwrite', writeAll_of_forall fun credential hm ↦ (hc credential hm).1,
      ok_bind]
    exact ⟨_, rfl⟩
  obtain ⟨_, -, -, hresult⟩ := hfile _ _ _ hrun
  exact hresult

/-- Reading undoes writing, and whatever was read can be written and read again. -/
theorem ccache_round_trip (target : Endian) :
    (∀ file : File, ∀ bytes, file.Normal → file.toBytes target = .ok bytes → parse target bytes = .ok file) ∧
    ∀ bytes file, parse target bytes = .ok file →
      ∃ saved, file.toBytes target = .ok saved ∧ parse target saved = .ok file := by
  refine ⟨fun file bytes hn h ↦ parse_toBytes hn h, fun bytes file h ↦ ?_⟩
  obtain ⟨hn, saved, hsaved⟩ := parse_eq_ok h
  exact ⟨saved, hsaved, parse_toBytes hn hsaved⟩

end Files

end CCache

end Rskrb5
