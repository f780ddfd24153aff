import Rskrb5.Client.Requests
import Rskrb5.Time.Instants

namespace Rskrb5.Client

open Lib.Results Crypto EncParts

variable (P : Primitives) (R : Rasn)

def checkedSystemTime (time : KerberosTime) : Except Error SystemTime :=
  okOr (systemTimeFromKerberosTime time) .timeOverflow

def checkedPrincipal (realm : Realm) (name : PrincipalName) : Except Error Principal :=
  okOr (principalFromParts realm name) .invalidString

section KdcErrors

def etypeInfo2KeyInfo (entry : EtypeInfo2Entry) : Except Error PreauthKeyInfo := do
  let salt ← entry.salt.mapM fun salt ↦ okOr (kerberosStringToString salt) .invalidString
  return ⟨entry.etype, salt, entry.s2kparams⟩

def etypeInfoKeyInfo (entry : EtypeInfoEntry) : Except Error PreauthKeyInfo := do
  let salt ← entry.salt.mapM fun salt ↦ okOr (fromUtf8 salt) .invalidString
  return ⟨entry.etype, salt, none⟩

def preauthKeyInfoFromMethodData (methodData : List PaData) : Except Error (List PreauthKeyInfo) := do
  let infos2 ← (methodData.filter fun padata ↦ padata.paType = paEtypeInfo2).mapM fun padata ↦ do
    let entries ← (R.etypeInfo2.decode padata.value).mapError (.decode "ETYPE-INFO2")
    entries.mapM etypeInfo2KeyInfo
  let infos ← (methodData.filter fun padata ↦ padata.paType = paEtypeInfo).mapM fun padata ↦ do
    let entries ← (R.etypeInfo.decode padata.value).mapError (.decode "ETYPE-INFO")
    entries.mapM etypeInfoKeyInfo
  return infos2.flatten ++ infos.flatten

def processKdcError (bytes : Bytes) : Except Error KdcError := do
  let krbError ← (KrbError.decodeKrbError R bytes).mapError krbErrorError
  let info ← (KrbError.krbErrorInfo krbError).mapError krbErrorError
  let methodData ← (KrbError.preauthMethodData R krbError kdcErrPreauthRequired).mapError krbErrorError
  let preauthKeyInfo ← preauthKeyInfoFromMethodData R methodData
  return {
    ctime := info.ctime
    cusec := info.cusec
    stime := info.stime
    susec := info.susec
    errorCode := info.errorCode
    text := info.eText
    client := info.client
    service := info.service
    eData := info.eData
    methodData
    preauthKeyInfo }

def rejectKdcError (bytes : Bytes) : Except Error Unit :=
  match processKdcError R bytes with
  | .ok error => .error (.kdc error)
  | .error _ => .ok ()

end KdcErrors

section Replies

def padataContains (padata : List PaData) (padataType : Int32) : Bool :=
  padata.any fun padata ↦ padata.paType = padataType

def asReqContainsPadata (request : BuiltAsReq) (padataType : Int32) : Bool :=
  request.message.padata.any fun padata ↦ padataContains padata padataType

def validateAsRepEncryptedPadata (request : BuiltAsReq) (encPart : EncKdcRepPart)
    (replyKey : EncryptionKey) : Except Error Unit :=
  if ¬ asReqContainsPadata request paReqEncPaRep ∨
      ¬ ticketFlagsContainBits encPart.flags ticketFlagEncPaRep then .ok ()
  else do
    let encryptedPaData ← okOr encPart.encryptedPaData .invalidFastNegotiationResponse
    ensure (2 ≤ encryptedPaData.length ∧ padataContains encryptedPaData paFxFast)
      .invalidFastNegotiationResponse
    let paData ← okOr (encryptedPaData.find? fun padata ↦ padata.paType = paReqEncPaRep)
      .invalidFastNegotiationResponse
    let checksum ← (R.paReqEncPaRep.decode paData.value).mapError (.message "PA-REQ-ENC-PA-REP")
    let etype ← okOr (KerberosEtype.fromChecksumTypeId checksum.checksumType)
      (.unsupportedChecksumType checksum.checksumType)
    ensure (etype.verifyChecksum P replyKey.value request.der checksum.checksum asReqChecksumUsage = true)
      .fastNegotiationChecksumMismatch

def sessionOf (kdcRep : KdcRep) (encPart : EncKdcRepPart) (client service : Principal) :
    Except Error AsRepSession := do
  let ticketService ← checkedPrincipal kdcRep.ticket.realm kdcRep.ticket.sname
  ensure (principalMatches ticketService service)
    (.servicePrincipalMismatch service.name ticketService.name)
  let ticket ← (encodeTicket R kdcRep.ticket).mapError ticketError
  let authTime ← checkedSystemTime encPart.authTime
  let startTime ← checkedSystemTime (encPart.startTime.getD encPart.authTime)
  let endTime ← checkedSystemTime encPart.endTime
  let renewTill ← encPart.renewTill.mapM checkedSystemTime
  let keyExpiration ← encPart.keyExpiration.mapM checkedSystemTime
  return {
    client
    service
    sessionKey := encPart.key
    ticket
    ticketFlags := ticketFlagsToBytes encPart.flags
    authTime
    startTime
    endTime
    renewTill
    keyExpiration }

def processAsRep (request : BuiltAsReq) (bytes : Bytes) (replyKey : EncryptionKey) :
    Except Error AsRepSession := do
  rejectKdcError R bytes
  let asRep ← (decodeAsRep R bytes).mapError kdcRepError
  let client ← checkedPrincipal asRep.crealm asRep.cname
  ensure (principalMatches client request.client)
    (.clientPrincipalMismatch request.client.name client.name)
  let encPart ← (decryptAsRepEncPart P R asRep replyKey).mapError kdcRepError
  validateAsRepEncryptedPadata P R request encPart replyKey
  ensure (encPart.nonce = request.nonce) (.nonceMismatch request.nonce encPart.nonce)
  let service ← checkedPrincipal encPart.srealm encPart.sname
  ensure (principalMatches service request.service)
    (.servicePrincipalMismatch request.service.name service.name)
  sessionOf R asRep encPart client service

/-- A referral is a TGT for another realm than the one that was asked for. -/
def processTgsRepInner (request : BuiltTgsReq) (bytes : Bytes) (tgsSessionKey : EncryptionKey)
    (allowReferral : Bool) : Except Error TgsRepSession := do
  rejectKdcError R bytes
  let tgsRep ← (decodeTgsRep R bytes).mapError kdcRepError
  let client ← checkedPrincipal tgsRep.crealm tgsRep.cname
  ensure (principalMatches client request.client)
    (.clientPrincipalMismatch request.client.name client.name)
  let encPart ← (decryptTgsRepEncPart P R tgsRep tgsSessionKey).mapError kdcRepError
  ensure (encPart.nonce = request.nonce) (.nonceMismatch request.nonce encPart.nonce)
  let service ← checkedPrincipal encPart.srealm encPart.sname
  let referral := allowReferral && isTgtPrincipal service && !principalMatches service request.service
  ensure (principalMatches service request.service ∨ referral)
    (.servicePrincipalMismatch request.service.name service.name)
  sessionOf R tgsRep encPart client service

def processTgsRep (request : BuiltTgsReq) (bytes : Bytes) (tgsSessionKey : EncryptionKey) :
    Except Error TgsRepSession :=
  processTgsRepInner P R request bytes tgsSessionKey false

def processTgsRepWithReferral (request : BuiltTgsReq) (bytes : Bytes) (tgsSessionKey : EncryptionKey) :
    Except Error TgsRepSession :=
  processTgsRepInner P R request bytes tgsSessionKey true

/-- What a client keeps of a reply. The name in the clear part of the ticket is the one in the sealed part. -/
structure SessionOf (reply : KdcRep) (encPart : EncKdcRepPart) (session : AsRepSession) : Prop where
  client_eq : principalFromParts reply.crealm reply.cname = some session.client
  service_eq : principalFromParts encPart.srealm encPart.sname = some session.service
  ticketService : ∃ ticketService, principalFromParts reply.ticket.realm reply.ticket.sname = some ticketService ∧
    principalMatches ticketService session.service = true
  ticket_eq : encodeTicket R reply.ticket = .ok session.ticket
  sessionKey_eq : session.sessionKey = encPart.key
  ticketFlags_eq : session.ticketFlags = ticketFlagsToBytes encPart.flags
  authTime_eq : systemTimeFromKerberosTime encPart.authTime = some session.authTime
  startTime_eq : systemTimeFromKerberosTime (encPart.startTime.getD encPart.authTime) = some session.startTime
  endTime_eq : systemTimeFromKerberosTime encPart.endTime = some session.endTime
  renewTill_eq : session.renewTill = encPart.renewTill.bind systemTimeFromKerberosTime
  keyExpiration_eq : session.keyExpiration = encPart.keyExpiration.bind systemTimeFromKerberosTime

theorem checkedSystemTime_eq_ok {time : KerberosTime} {t : SystemTime} :
    checkedSystemTime time = .ok t ↔ systemTimeFromKerberosTime time = some t := okOr_eq_ok

theorem mapM_checkedSystemTime {time : Option KerberosTime} {t : Option SystemTime} :
    time.mapM checkedSystemTime = .ok t ↔ t = time.bind systemTimeFromKerberosTime := by
  cases time with
  | none => exact ⟨fun h ↦ (Except.ok.inj h).symm, fun h ↦ h ▸ rfl⟩
  | some time =>
    obtain ⟨s, hs⟩ := exists_systemTime time
    have hchecked : (some time).mapM checkedSystemTime = .ok (some s) := by
      rw [Option.mapM_some, checkedSystemTime_eq_ok.mpr hs]
      rfl
    rw [hchecked, Option.bind_some, hs]
    exact ⟨fun h ↦ (Except.ok.inj h).symm, fun h ↦ h ▸ rfl⟩

variable {reply : KdcRep} {encPart : EncKdcRepPart} {session : AsRepSession}

theorem sessionOf_eq_ok_iff {client service : Principal}
    (hclient : principalFromParts reply.crealm reply.cname = some client)
    (hservice : principalFromParts encPart.srealm encPart.sname = some service) :
    sessionOf R reply encPart client service = .ok session ↔ SessionOf R reply encPart session := by
  simp only [sessionOf, checkedPrincipal, bind_eq_ok, okOr_eq_ok, ensure_eq_ok, mapError_eq_ok,
    checkedSystemTime_eq_ok, mapM_checkedSystemTime, pure_eq_ok, Except.ok.injEq, exists_const]
  constructor
  · intro h
    obtain ⟨ticketService, hname, hmatches, ticket, hticket, authTime, hauth, startTime, hstart, endTime, hend, _, rfl,
      _, rfl, rfl⟩ := h
    exact ⟨hclient, hservice, ⟨ticketService, hname, hmatches⟩, hticket, rfl, rfl, hauth, hstart, hend, rfl, rfl⟩
  · intro h
    obtain ⟨hclient', hservice', ⟨ticketService, hname, hmatches⟩, hticket, hkey, hflags, hauth, hstart, hend, hrenew,
      hexpiration⟩ := h
    obtain rfl := Option.some.inj (hclient.symm.trans hclient')
    obtain rfl := Option.some.inj (hservice.symm.trans hservice')
    refine ⟨ticketService, hname, hmatches, _, hticket, _, hauth, _, hstart, _, hend, _, rfl, _, rfl, ?_⟩
    rw [← hkey, ← hflags, ← hrenew, ← hexpiration]

theorem sessionOf_eq_ok {kdcRep : KdcRep} {encPart : EncKdcRepPart} {client service : Principal}
    {session : AsRepSession} (h : sessionOf R kdcRep encPart client service = .ok session) :
    session.client = client ∧ session.service = service := by
  simp only [sessionOf, bind_eq_ok, pure_eq_ok, Except.ok.injEq] at h
  obtain ⟨-, -, -, -, -, -, -, -, -, -, -, -, -, -, -, -, rfl⟩ := h
  exact ⟨rfl, rfl⟩

/-- An accepted AS-REP is for the client and the service of the request. -/
theorem processAsRep_eq_ok {request : BuiltAsReq} {bytes : Bytes} {replyKey : EncryptionKey}
    {session : AsRepSession} (h : processAsRep P R request bytes replyKey = .ok session) :
    principalMatches session.client request.client = true ∧
      principalMatches session.service request.service = true := by
  simp only [processAsRep, bind_eq_ok, ensure_eq_ok] at h
  obtain ⟨_, -, _, -, client, -, _, hc, _, -, _, -, _, -, service, -, _, hs, h⟩ := h
  obtain ⟨rfl, rfl⟩ := sessionOf_eq_ok R h
  exact ⟨hc, hs⟩

/-- An accepted TGS-REP is for the client of the request, and for its service or a TGT. -/
theorem processTgsRepInner_eq_ok {request : BuiltTgsReq} {bytes : Bytes} {key : EncryptionKey}
    {allowReferral : Bool} {session : TgsRepSession}
    (h : processTgsRepInner P R request bytes key allowReferral = .ok session) :
    principalMatches session.client request.client = true ∧
      (principalMatches session.service request.service = true ∨
        allowReferral = true ∧ isTgtPrincipal session.service = true) := by
  simp only [processTgsRepInner, bind_eq_ok, ensure_eq_ok] at h
  obtain ⟨_, -, _, -, client, -, _, hc, _, -, _, -, service, -, _, hs, h⟩ := h
  obtain ⟨rfl, rfl⟩ := sessionOf_eq_ok R h
  refine ⟨hc, hs.imp_right fun hr ↦ ?_⟩
  simp only [Bool.and_eq_true] at hr
  exact hr.1

theorem processTgsRep_eq_ok {request : BuiltTgsReq} {bytes : Bytes} {key : EncryptionKey}
    {session : TgsRepSession} (h : processTgsRep P R request bytes key = .ok session) :
    principalMatches session.client request.client = true ∧
      principalMatches session.service request.service = true := by
  obtain ⟨hc, hs⟩ := processTgsRepInner_eq_ok P R h
  exact ⟨hc, hs.resolve_right (by simp)⟩

theorem sessionOf_of_processAsRep {request : BuiltAsReq} {bytes : Bytes} {replyKey : EncryptionKey}
    (h : processAsRep P R request bytes replyKey = .ok session) :
    ∃ asRep encPart, decodeAsRep R bytes = .ok asRep ∧ decryptAsRepEncPart P R asRep replyKey = .ok encPart ∧
      SessionOf R asRep encPart session := by
  simp only [processAsRep, checkedPrincipal, bind_eq_ok, okOr_eq_ok, mapError_eq_ok] at h
  obtain ⟨_, -, asRep, hdecode, client, hclient, _, -, encPart, hopen, _, -, _, -, service, hservice, _, -, h⟩ := h
  exact ⟨asRep, encPart, hdecode, hopen, (sessionOf_eq_ok_iff R hclient hservice).mp h⟩

theorem sessionOf_of_processTgsRepInner {request : BuiltTgsReq} {bytes : Bytes} {key : EncryptionKey}
    {allowReferral : Bool} (h : processTgsRepInner P R request bytes key allowReferral = .ok session) :
    ∃ tgsRep encPart, decodeTgsRep R bytes = .ok tgsRep ∧ decryptTgsRepEncPart P R tgsRep key = .ok encPart ∧
      SessionOf R tgsRep encPart session := by
  simp only [processTgsRepInner, checkedPrincipal, bind_eq_ok, okOr_eq_ok, mapError_eq_ok] at h
  obtain ⟨_, -, tgsRep, hdecode, client, hclient, _, -, encPart, hopen, _, -, service, hservice, _, -, h⟩ := h
  exact ⟨tgsRep, encPart, hdecode, hopen, (sessionOf_eq_ok_iff R hclient hservice).mp h⟩

end Replies

section Preauth

def isSupported (etype : Int32) : Bool := (KerberosEtype.fromEtypeId etype).isSome

def selectPreauthKeyInfo (error : KdcError) (requestedEtypes : List Int32) :
    Except Error PreauthKeyInfo :=
  let hinted := (requestedEtypes.filter isSupported).findSome? fun etype ↦
    error.preauthKeyInfo.find? fun info ↦ info.etype = etype
  match hinted with
  | some info => .ok info
  | none =>
    let unhinted := if error.preauthKeyInfo.isEmpty then requestedEtypes.find? isSupported else none
    okOr (unhinted.map fun etype ↦ ⟨etype, none, none⟩) (.noSupportedPreauthEtype requestedEtypes)

def defaultPasswordSalt (client : Principal) : String := client.components.foldl (· ++ ·) client.realm

def hexDigit (n : ℕ) : Char := "0123456789abcdef".toList.getD n '0'

def encodeHexLower (bytes : Bytes) : String :=
  String.ofList (bytes.flatMap fun (byte : UInt8) ↦
    [hexDigit (byte >>> 4).toNat, hexDigit (byte &&& 0x0f).toNat])

def derivePasswordReplyKey (client : Principal) (password : Bytes) (keyInfo : PreauthKeyInfo) :
    Except Error EncryptionKey := do
  let etype ← okOr (KerberosEtype.fromEtypeId keyInfo.etype) (.unsupportedEtype keyInfo.etype)
  let salt := keyInfo.salt.getD (defaultPasswordSalt client)
  let s2kparams := (keyInfo.s2kparams.map encodeHexLower).getD etype.defaultS2kparams
  let value ← (etype.stringToKey P password (asBytes salt) s2kparams).mapError .crypto
  return ⟨keyInfo.etype, value⟩

def selectKeytabReplyKeyForEtype (keytab : Keytab) (client : Principal) (kvno : UInt32)
    (etype : Int32) : Except Error (EncryptionKey × UInt32) :=
  (keytab.findKey client.components client.realm kvno etype).mapError .keytab

def selectKeytabReplyKey (keytab : Keytab) (client : Principal) (keyInfo : PreauthKeyInfo) :
    Except Error (EncryptionKey × UInt32) :=
  selectKeytabReplyKeyForEtype keytab client 0 keyInfo.etype

def assumedPreauthKeyInfo (requestedEtypes : List Int32) : Except Error PreauthKeyInfo :=
  okOr ((requestedEtypes.find? isSupported).map fun etype ↦ ⟨etype, none, none⟩)
    (.noSupportedPreauthEtype requestedEtypes)

def selectAssumedKeytabReplyKey (keytab : Keytab) (client : Principal) (options : AsReqOptions) :
    Except Error (EncryptionKey × UInt32) :=
  okOr ((options.etypes.filter isSupported).findSome? fun etype ↦
      (keytab.findKey client.components client.realm 0 etype).toOption)
    (.noSupportedPreauthEtype options.etypes)

def initialPreauthProbeOptions (options : AsReqOptions) : AsReqOptions :=
  if options.fastNegotiation ∧ ¬ padataContains options.padata paReqEncPaRep then
    { options with padata := options.padata ++ [⟨paReqEncPaRep, []⟩] }
  else options

def asRepReplyKeyInfo (response : Bytes) : Option (Int32 × Option UInt32) :=
  (decodeAsRep R response).toOption.map fun asRep ↦ (asRep.encPart.etype, asRep.encPart.kvno)

def passwordInitialAsRepSession (request : BuiltAsReq) (response : Bytes) (client : Principal)
    (password : Bytes) : Except Error (Option AsRepSession) :=
  match asRepReplyKeyInfo R response with
  | none => .ok none
  | some (etype, _) => do
    let replyKey ← derivePasswordReplyKey P client password ⟨etype, none, none⟩
    (processAsRep P R request response replyKey).map some

def keytabInitialAsRepSession (request : BuiltAsReq) (response : Bytes) (client : Principal)
    (keytab : Keytab) : Except Error (Option AsRepSession) :=
  match asRepReplyKeyInfo R response with
  | none => .ok none
  | some (etype, kvno) => do
    let (replyKey, _) ← selectKeytabReplyKeyForEtype keytab client (kvno.getD 0) etype
    (processAsRep P R request response replyKey).map some

def preauthKeyInfoOf (kdcErrorBytes : Bytes) (options : AsReqOptions) : Except Error PreauthKeyInfo := do
  let error ← processKdcError R kdcErrorBytes
  ensure (error.errorCode = kdcErrPreauthRequired) (.kdc error)
  selectPreauthKeyInfo error options.etypes

end Preauth

section Validity

def sessionValidAt (session : AsRepSession) (now : SystemTime) : Bool :=
  session.startTime ≤ now ∧ now < session.endTime

def sessionRenewableAt (session : AsRepSession) (now : SystemTime) : Bool :=
  session.renewTill.any fun renewTill ↦ now < renewTill

def sessionUsableAt (session : AsRepSession) (now : SystemTime) : Bool :=
  sessionValidAt session now || sessionRenewableAt session now

def sessionRefreshDueAt (session : AsRepSession) (now : SystemTime) : Bool :=
  if session.endTime ≤ now then true
  else
    match session.endTime.durationSince session.authTime with
    | .error _ => true
    | .ok lifetime =>
      if lifetime = 0 then true
      else (session.endTime.durationSince now).toOption.getD 0 ≤ lifetime / sessionRefreshDivisor

def preferCurrentSessionAt (current candidate : AsRepSession) (now : SystemTime) : Bool :=
  match sessionValidAt current now, sessionValidAt candidate now with
  | true, false => true
  | false, true => false
  | _, _ => candidate.endTime ≤ current.endTime

def preferredSessionAt (current : Option AsRepSession) (candidate : AsRepSession) (now : SystemTime) :
    AsRepSession :=
  match current with
  | some current => if preferCurrentSessionAt current candidate now then current else candidate
  | none => candidate

def serviceCacheKey (service : Principal) : String :=
  service.components.foldl (fun key component ↦ key ++ String.singleton (Char.ofNat 0) ++ component)
    service.realm

theorem preferredSessionAt_cases (current : Option AsRepSession) (candidate : AsRepSession) (now : SystemTime) :
    preferredSessionAt current candidate now = candidate ∨
      current = some (preferredSessionAt current candidate now) ∧
        preferCurrentSessionAt (preferredSessionAt current candidate now) candidate now = true := by
  cases current with
  | none => exact .inl rfl
  | some current =>
    simp only [preferredSessionAt]
    split
    · next h => exact .inr ⟨rfl, h⟩
    · exact .inl rfl

theorem preferredSessionAt_eq (current : Option AsRepSession) (candidate : AsRepSession)
    (now : SystemTime) :
    preferredSessionAt current candidate now = candidate ∨
      current = some (preferredSessionAt current candidate now) :=
  (preferredSessionAt_cases current candidate now).imp_right fun h ↦ h.1

end Validity

end Rskrb5.Client
