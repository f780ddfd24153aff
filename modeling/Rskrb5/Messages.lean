import Rskrb5.Der
import Rskrb5.Time
import Mathlib.Data.List.Nodup

namespace Rskrb5

abbrev KerberosString := Bytes
abbrev Realm := KerberosString

structure PrincipalName where
  nameType : Int32
  string : List KerberosString
  deriving DecidableEq

structure HostAddress where
  addrType : Int32
  address : Bytes
  deriving DecidableEq

structure AuthorizationDataValue where
  adType : Int32
  data : Bytes
  deriving DecidableEq

abbrev AuthorizationData := List AuthorizationDataValue

structure EncryptedData where
  etype : Int32
  kvno : Option UInt32
  cipher : Bytes
  deriving DecidableEq

structure EncryptionKey where
  etype : Int32
  value : Bytes
  deriving DecidableEq

structure Checksum where
  checksumType : Int32
  checksum : Bytes
  deriving DecidableEq

structure Ticket where
  tktVno : ℤ
  realm : Realm
  sname : PrincipalName
  encPart : EncryptedData
  deriving DecidableEq

structure TransitedEncoding where
  trType : Int32
  contents : Bytes
  deriving DecidableEq

abbrev KerberosFlags := List Bool

structure EncTicketPart where
  flags : KerberosFlags
  key : EncryptionKey
  crealm : Realm
  cname : PrincipalName
  transited : TransitedEncoding
  authTime : KerberosTime
  startTime : Option KerberosTime
  endTime : KerberosTime
  renewTill : Option KerberosTime
  caddr : Option (List HostAddress)
  authorizationData : Option AuthorizationData
  deriving DecidableEq

structure ApReq where
  pvno : ℤ
  msgType : ℤ
  apOptions : KerberosFlags
  ticket : Ticket
  authenticator : EncryptedData
  deriving DecidableEq

structure Authenticator where
  authenticatorVno : ℤ
  crealm : Realm
  cname : PrincipalName
  cksum : Option Checksum
  cusec : ℤ
  ctime : KerberosTime
  subkey : Option EncryptionKey
  seqNumber : Option UInt32
  authorizationData : Option AuthorizationData
  deriving DecidableEq

structure ApRep where
  pvno : ℤ
  msgType : ℤ
  encPart : EncryptedData
  deriving DecidableEq

structure EncApRepPart where
  ctime : KerberosTime
  cusec : ℤ
  subkey : Option EncryptionKey
  seqNumber : Option UInt32
  deriving DecidableEq

structure PaData where
  paType : Int32
  value : Bytes
  deriving DecidableEq

structure KdcReqBody where
  kdcOptions : KerberosFlags
  cname : Option PrincipalName
  realm : Realm
  sname : Option PrincipalName
  from_ : Option KerberosTime
  till : KerberosTime
  rtime : Option KerberosTime
  nonce : UInt32
  etype : List Int32
  addresses : Option (List HostAddress)
  encAuthorizationData : Option EncryptedData
  additionalTickets : Option (List Ticket)
  deriving DecidableEq

structure KdcReq where
  pvno : ℤ
  msgType : ℤ
  padata : Option (List PaData)
  reqBody : KdcReqBody
  deriving DecidableEq

structure PaEncTsEnc where
  patimestamp : KerberosTime
  pausec : Option ℤ
  deriving DecidableEq

structure EtypeInfo2Entry where
  etype : Int32
  salt : Option KerberosString
  s2kparams : Option Bytes
  deriving DecidableEq

structure EtypeInfoEntry where
  etype : Int32
  salt : Option Bytes
  deriving DecidableEq

structure PaReqEncPaRep where
  checksumType : Int32
  checksum : Bytes
  deriving DecidableEq

structure KdcRep where
  pvno : ℤ
  msgType : ℤ
  padata : Option (List PaData)
  crealm : Realm
  cname : PrincipalName
  ticket : Ticket
  encPart : EncryptedData
  deriving DecidableEq

structure LastReqValue where
  lrType : Int32
  value : KerberosTime
  deriving DecidableEq

structure EncKdcRepPart where
  key : EncryptionKey
  lastReq : List LastReqValue
  nonce : UInt32
  keyExpiration : Option KerberosTime
  flags : KerberosFlags
  authTime : KerberosTime
  startTime : Option KerberosTime
  endTime : KerberosTime
  renewTill : Option KerberosTime
  srealm : Realm
  sname : PrincipalName
  caddr : Option (List HostAddress)
  encryptedPaData : Option (List PaData)
  deriving DecidableEq

structure KrbPriv where
  pvno : ℤ
  msgType : ℤ
  encPart : EncryptedData
  deriving DecidableEq

structure EncKrbPrivPart where
  userData : Bytes
  timestamp : Option KerberosTime
  usec : Option ℤ
  seqNumber : Option UInt32
  senderAddress : HostAddress
  recipientAddress : Option HostAddress
  deriving DecidableEq

structure KrbCred where
  pvno : ℤ
  msgType : ℤ
  tickets : List Ticket
  encPart : EncryptedData
  deriving DecidableEq

structure KrbCredInfo where
  key : EncryptionKey
  prealm : Option Realm
  pname : Option PrincipalName
  flags : Option KerberosFlags
  authTime : Option KerberosTime
  startTime : Option KerberosTime
  endTime : Option KerberosTime
  renewTill : Option KerberosTime
  srealm : Option Realm
  sname : Option PrincipalName
  caddr : Option (List HostAddress)
  deriving DecidableEq

structure EncKrbCredPart where
  ticketInfo : List KrbCredInfo
  nonce : Option UInt32
  timestamp : Option KerberosTime
  usec : Option ℤ
  senderAddress : Option HostAddress
  recipientAddress : Option HostAddress
  deriving DecidableEq

structure KrbError where
  pvno : ℤ
  msgType : ℤ
  ctime : Option KerberosTime
  cusec : Option ℤ
  stime : KerberosTime
  susec : ℤ
  errorCode : Int32
  crealm : Option Realm
  cname : Option PrincipalName
  realm : Realm
  sname : PrincipalName
  eText : Option KerberosString
  eData : Option Bytes
  deriving DecidableEq

structure ChangePasswdData where
  newPasswd : Bytes
  targName : Option PrincipalName
  targRealm : Option Realm
  deriving DecidableEq

section Whole

/-- The values all of whose times are whole seconds, as the wire format has them. -/
def Authenticator.IsWhole (a : Authenticator) : Prop := a.ctime.IsWhole
def EncApRepPart.IsWhole (p : EncApRepPart) : Prop := p.ctime.IsWhole

def EncTicketPart.IsWhole (p : EncTicketPart) : Prop :=
  p.authTime.IsWhole ∧ (∀ t ∈ p.startTime, t.IsWhole) ∧ p.endTime.IsWhole ∧
    ∀ t ∈ p.renewTill, t.IsWhole

def EncKdcRepPart.IsWhole (p : EncKdcRepPart) : Prop :=
  (∀ r ∈ p.lastReq, r.value.IsWhole) ∧ (∀ t ∈ p.keyExpiration, t.IsWhole) ∧ p.authTime.IsWhole ∧
    (∀ t ∈ p.startTime, t.IsWhole) ∧ p.endTime.IsWhole ∧ ∀ t ∈ p.renewTill, t.IsWhole

def EncKrbPrivPart.IsWhole (p : EncKrbPrivPart) : Prop := ∀ t ∈ p.timestamp, t.IsWhole

def KrbCredInfo.IsWhole (i : KrbCredInfo) : Prop :=
  (∀ t ∈ i.authTime, t.IsWhole) ∧ (∀ t ∈ i.startTime, t.IsWhole) ∧ (∀ t ∈ i.endTime, t.IsWhole) ∧
    ∀ t ∈ i.renewTill, t.IsWhole

def EncKrbCredPart.IsWhole (p : EncKrbCredPart) : Prop :=
  (∀ i ∈ p.ticketInfo, i.IsWhole) ∧ ∀ t ∈ p.timestamp, t.IsWhole

end Whole

/-- One type's DER encoder and decoder; a failure carries the library's text. -/
structure Coder (α : Type) where
  encode : α → Except String Bytes
  decode : Bytes → Except String α

/-- What is known of a coder: an encoding of a value in `wire` is one definite-length
value and decodes to what was encoded. -/
structure Coder.Lawful {α : Type} (C : Coder α) (wire : α → Prop) : Prop where
  decode_encode : ∀ {v bytes}, wire v → C.encode v = .ok bytes → C.decode bytes = .ok v
  isDefinite : ∀ {v bytes}, C.encode v = .ok bytes → Der.IsDefinite bytes

section Tables

variable {α : Type} [DecidableEq α]

/-- A coder that knows finitely many values and their encodings. -/
def Coder.ofPairs (pairs : List (α × Bytes)) : Coder α where
  encode v := Lib.Results.okOr ((pairs.find? fun p ↦ p.1 = v).map Prod.snd) "unknown value"
  decode bytes := Lib.Results.okOr ((pairs.find? fun p ↦ p.2 = bytes).map Prod.fst) "unknown encoding"

theorem Coder.mem_of_ofPairs_decode {pairs : List (α × Bytes)} {bytes : Bytes} {v : α}
    (h : (Coder.ofPairs pairs).decode bytes = .ok v) : v ∈ pairs.map Prod.fst := by
  simp only [Coder.ofPairs, Lib.Results.okOr_eq_ok, Option.map_eq_some_iff] at h
  obtain ⟨p, hp, rfl⟩ := h
  exact List.mem_map_of_mem (List.mem_of_find?_eq_some hp)

theorem Coder.ofPairs_lawful {pairs : List (α × Bytes)} (hn : (pairs.map Prod.snd).Nodup)
    (hd : ∀ p ∈ pairs, Der.IsDefinite p.2) (wire : α → Prop) : (Coder.ofPairs pairs).Lawful wire := by
  have hmem : ∀ {v bytes}, (Coder.ofPairs pairs).encode v = .ok bytes → (v, bytes) ∈ pairs := by
    intro v bytes h
    simp only [Coder.ofPairs, Lib.Results.okOr_eq_ok, Option.map_eq_some_iff] at h
    obtain ⟨p, hp, rfl⟩ := h
    have hv : p.1 = v := of_decide_eq_true (List.find?_some (p := fun p : α × Bytes ↦ p.1 = v) hp)
    exact hv ▸ List.mem_of_find?_eq_some hp
  constructor
  · intro v bytes _ h
    have hin := hmem h
    obtain ⟨q, hq⟩ : ∃ q, pairs.find? (fun p ↦ p.2 = bytes) = some q := by
      rw [← Option.isSome_iff_exists, List.find?_isSome]
      exact ⟨(v, bytes), hin, by simp⟩
    have hq2 : q.2 = bytes := of_decide_eq_true (List.find?_some (p := fun p : α × Bytes ↦ p.2 = bytes) hq)
    have heq : q = (v, bytes) := List.inj_on_of_nodup_map hn (List.mem_of_find?_eq_some hq) hin hq2
    simp only [Coder.ofPairs, hq, heq, Option.map_some, Lib.Results.okOr]
  · intro v bytes h
    exact hd _ (hmem h)

def Coder.IsTable (pairs : List (α × Bytes)) : Prop :=
  (pairs.map Prod.snd).Nodup ∧ ∀ p ∈ pairs, Der.topLevelDerEnd p.2 = some p.2.length

instance (pairs : List (α × Bytes)) : Decidable (Coder.IsTable pairs) :=
  inferInstanceAs (Decidable (_ ∧ _))

omit [DecidableEq α] in
theorem Coder.isTable_nil : Coder.IsTable ([] : List (α × Bytes)) := ⟨List.nodup_nil, by simp⟩

theorem Coder.IsTable.lawful {pairs : List (α × Bytes)} (h : Coder.IsTable pairs) (wire : α → Prop) :
    (Coder.ofPairs pairs).Lawful wire :=
  Coder.ofPairs_lawful h.1 (fun p hp ↦ Der.isDefinite_of_topLevelDerEnd (h.2 p hp)) wire

end Tables

/-- The ASN.1 library: a coder for each message and part, and the alphabet check of
general strings, which gives an error text or nothing. -/
structure Rasn where
  kerberosStringError : Bytes → Option String
  apReq : Coder ApReq
  authenticator : Coder Authenticator
  ticket : Coder Ticket
  encTicketPart : Coder EncTicketPart
  apRep : Coder ApRep
  encApRepPart : Coder EncApRepPart
  asRep : Coder KdcRep
  tgsRep : Coder KdcRep
  encAsRepPart : Coder EncKdcRepPart
  encTgsRepPart : Coder EncKdcRepPart
  krbPriv : Coder KrbPriv
  encKrbPrivPart : Coder EncKrbPrivPart
  krbCred : Coder KrbCred
  encKrbCredPart : Coder EncKrbCredPart
  krbError : Coder KrbError
  asReq : Coder KdcReq
  tgsReq : Coder KdcReq
  kdcReqBody : Coder KdcReqBody
  paEncTsEnc : Coder PaEncTsEnc
  encryptedData : Coder EncryptedData
  methodData : Coder (List PaData)
  etypeInfo2 : Coder (List EtypeInfo2Entry)
  etypeInfo : Coder (List EtypeInfoEntry)
  paReqEncPaRep : Coder PaReqEncPaRep
  changePasswdData : Coder ChangePasswdData

structure Rasn.Table where
  apReq : List (ApReq × Bytes) := []
  authenticator : List (Authenticator × Bytes) := []
  ticket : List (Ticket × Bytes) := []
  encTicketPart : List (EncTicketPart × Bytes) := []
  apRep : List (ApRep × Bytes) := []
  encApRepPart : List (EncApRepPart × Bytes) := []
  asRep : List (KdcRep × Bytes) := []
  encAsRepPart : List (EncKdcRepPart × Bytes) := []
  krbPriv : List (KrbPriv × Bytes) := []
  krbError : List (KrbError × Bytes) := []

def Rasn.ofTable (t : Rasn.Table) : Rasn where
  kerberosStringError _ := none
  apReq := .ofPairs t.apReq
  authenticator := .ofPairs t.authenticator
  ticket := .ofPairs t.ticket
  encTicketPart := .ofPairs t.encTicketPart
  apRep := .ofPairs t.apRep
  encApRepPart := .ofPairs t.encApRepPart
  asRep := .ofPairs t.asRep
  tgsRep := .ofPairs []
  encAsRepPart := .ofPairs t.encAsRepPart
  encTgsRepPart := .ofPairs []
  krbPriv := .ofPairs t.krbPriv
  encKrbPrivPart := .ofPairs []
  krbCred := .ofPairs []
  encKrbCredPart := .ofPairs []
  krbError := .ofPairs t.krbError
  asReq := .ofPairs []
  tgsReq := .ofPairs []
  kdcReqBody := .ofPairs []
  paEncTsEnc := .ofPairs []
  encryptedData := .ofPairs []
  methodData := .ofPairs []
  etypeInfo2 := .ofPairs []
  etypeInfo := .ofPairs []
  paReqEncPaRep := .ofPairs []
  changePasswdData := .ofPairs []

/-- The library's laws. The two KDC reply parts have different application tags. -/
structure Rasn.Lawful (R : Rasn) : Prop where
  apReq : R.apReq.Lawful fun _ ↦ True
  authenticator : R.authenticator.Lawful Authenticator.IsWhole
  ticket : R.ticket.Lawful fun _ ↦ True
  encTicketPart : R.encTicketPart.Lawful EncTicketPart.IsWhole
  apRep : R.apRep.Lawful fun _ ↦ True
  encApRepPart : R.encApRepPart.Lawful EncApRepPart.IsWhole
  encAsRepPart : R.encAsRepPart.Lawful EncKdcRepPart.IsWhole
  encTgsRepPart : R.encTgsRepPart.Lawful EncKdcRepPart.IsWhole
  encAsRepPart_rejects : ∀ {v bytes}, R.encTgsRepPart.encode v = .ok bytes →
    ∃ e, R.encAsRepPart.decode bytes = .error e
  krbPriv : R.krbPriv.Lawful fun _ ↦ True
  encKrbPrivPart : R.encKrbPrivPart.Lawful EncKrbPrivPart.IsWhole
  encKrbCredPart : R.encKrbCredPart.Lawful EncKrbCredPart.IsWhole

theorem Rasn.ofTable_lawful {t : Rasn.Table} (hApReq : Coder.IsTable t.apReq)
    (hAuthenticator : Coder.IsTable t.authenticator) (hTicket : Coder.IsTable t.ticket)
    (hEncTicketPart : Coder.IsTable t.encTicketPart) (hApRep : Coder.IsTable t.apRep)
    (hEncApRepPart : Coder.IsTable t.encApRepPart) (hEncAsRepPart : Coder.IsTable t.encAsRepPart)
    (hKrbPriv : Coder.IsTable t.krbPriv) : (Rasn.ofTable t).Lawful where
  apReq := hApReq.lawful _
  authenticator := hAuthenticator.lawful _
  ticket := hTicket.lawful _
  encTicketPart := hEncTicketPart.lawful _
  apRep := hApRep.lawful _
  encApRepPart := hEncApRepPart.lawful _
  encAsRepPart := hEncAsRepPart.lawful _
  encTgsRepPart := Coder.isTable_nil.lawful _
  encAsRepPart_rejects h := by simp [Rasn.ofTable, Coder.ofPairs, Lib.Results.okOr] at h
  krbPriv := hKrbPriv.lawful _
  encKrbPrivPart := Coder.isTable_nil.lawful _
  encKrbCredPart := Coder.isTable_nil.lawful _

structure Principal where
  realm : String
  nameType : Int32
  components : List String
  deriving DecidableEq, Hashable, Repr

def Principal.name (p : Principal) : String := "/".intercalate p.components

section Strings

def kerberosString (R : Rasn) (value : String) : Except String KerberosString :=
  match R.kerberosStringError (asBytes value) with
  | none => .ok (asBytes value)
  | some e => .error e

def kerberosStringToString (value : KerberosString) : Option String := fromUtf8 value

/-- `none` stands for the UTF-8 error of each copy of this conversion. -/
def principalFromParts (realm : Realm) (name : PrincipalName) : Option Principal := do
  let realm ← kerberosStringToString realm
  let components ← name.string.mapM kerberosStringToString
  return ⟨realm, name.nameType, components⟩

def principalName (R : Rasn) (principal : Principal) : Except String PrincipalName := do
  let string ← principal.components.mapM (kerberosString R)
  return ⟨principal.nameType, string⟩

variable {R : Rasn}

theorem kerberosStringToString_kerberosString {value : String} {bytes : KerberosString}
    (h : kerberosString R value = .ok bytes) : kerberosStringToString bytes = some value := by
  rw [kerberosString] at h
  split at h
  · obtain rfl := Except.ok.inj h
    exact fromUtf8_asBytes value
  · cases h

theorem mapM_kerberosString {components : List String} {string : List KerberosString}
    (h : components.mapM (kerberosString R) = .ok string) :
    string.mapM kerberosStringToString = some components := by
  induction components generalizing string with
  | nil =>
    obtain rfl := Except.ok.inj h
    rfl
  | cons component components ih =>
    simp only [List.mapM_cons, Lib.Results.bind_eq_ok, Lib.Results.pure_eq_ok, Except.ok.injEq] at h
    obtain ⟨bytes, hbytes, rest, hrest, rfl⟩ := h
    rw [List.mapM_cons, kerberosStringToString_kerberosString hbytes, ih hrest]
    rfl

/-- A principal that was put into a message is read back from it. -/
theorem principalFromParts_principalName {principal : Principal} {realm : Realm} {name : PrincipalName}
    (hrealm : kerberosString R principal.realm = .ok realm) (hname : principalName R principal = .ok name) :
    principalFromParts realm name = some principal := by
  obtain ⟨string, hstring, h⟩ := Lib.Results.bind_eq_ok.mp hname
  obtain rfl := Except.ok.inj h
  rw [principalFromParts, kerberosStringToString_kerberosString hrealm]
  change (string.mapM kerberosStringToString >>= _) = _
  rw [mapM_kerberosString hstring]
  rfl

end Strings

end Rskrb5
