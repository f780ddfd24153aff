import Rskrb5.Client

namespace Rskrb5.Client

open Lib.Results Crypto EncParts

variable (P : Primitives) (R : Rasn)

def principalToRasn (value : Principal) : Except Error PrincipalName :=
  (principalName R value).mapError .invalidKerberosString

def kerberosString (value : String) : Except Error KerberosString :=
  (Rskrb5.kerberosString R value).mapError .invalidKerberosString

def checkedKerberosTime (time : SystemTime) : Except Error KerberosTime :=
  okOr (truncatedKerberosTime time) .timeOverflow

def checkedAdd (time : SystemTime) (duration : ℕ) : Except Error SystemTime :=
  okOr (time.checkedAdd duration) .timeOverflow

section AsReq

def kdcReqBody (cname : PrincipalName) (realm : String) (service : Principal) (till : SystemTime)
    (renewTill : Option SystemTime) (nonce : UInt32) (etypes : List Int32) (kdcOptionBits : UInt32)
    (additionalTickets : Option (List Ticket)) : Except Error KdcReqBody := do
  let realm ← kerberosString R realm
  let sname ← principalToRasn R service
  let till ← checkedKerberosTime till
  let rtime ← renewTill.mapM checkedKerberosTime
  return {
    kdcOptions := kdcOptionsFromBits kdcOptionBits
    cname := some cname
    realm
    sname := some sname
    from_ := none
    till
    rtime
    nonce
    etype := etypes
    addresses := none
    encAuthorizationData := none
    additionalTickets }

def buildAsReq (client service : Principal) (options : AsReqOptions) : Except Error BuiltAsReq := do
  ensure (options.etypes ≠ []) .emptyEtypes
  let till ← checkedAdd options.now options.ticketLifetime
  let renewTill ← options.renewLifetime.mapM (checkedAdd options.now)
  let padata := if options.padata.isEmpty then none else some options.padata
  let cname ← principalToRasn R client
  let reqBody ← kdcReqBody R cname client.realm service till renewTill options.nonce options.etypes
    (requestKdcOptionBits options.kdcOptionBits options.renewLifetime) none
  let message : KdcReq :=
    { pvno := krb5Pvno.toInt, msgType := krbAsReqMsgType.toInt, padata, reqBody }
  let der ← (R.asReq.encode message).mapError (.encode "AS-REQ")
  return { message, der, client, service, nonce := options.nonce }

def paEncTimestampWithConfounder (key : EncryptionKey) (timestamp : SystemTime) (cusec : UInt32)
    (confounder : Bytes) (kvno : Option UInt32) : Except Error PaData := do
  let patimestamp ← checkedKerberosTime timestamp
  let plaintext ← (R.paEncTsEnc.encode ⟨patimestamp, some cusec.toNat⟩).mapError (.encode "PA-ENC-TS-ENC")
  let etype ← okOr (KerberosEtype.fromEtypeId key.etype) (.unsupportedEtype key.etype)
  let cipher ← (etype.encryptMessageWithConfounder P key.value plaintext asReqPaEncTimestampUsage
    confounder).mapError .crypto
  let value ← (R.encryptedData.encode ⟨key.etype, kvno, cipher⟩).mapError (.encode "PA-ENC-TIMESTAMP")
  return ⟨paEncTimestampType, value⟩

/-- `build_preauthenticated_as_req` after its clock reading and its confounder. -/
def buildPreauthenticatedAsReqWithConfounder (client service : Principal) (options : AsReqOptions)
    (key : EncryptionKey) (kvno : Option UInt32) (timestamp : SystemTime) (cusec : UInt32)
    (confounder : Bytes) : Except Error BuiltAsReq := do
  let preauth ← paEncTimestampWithConfounder P R key timestamp cusec confounder kvno
  let kept := options.padata.filter fun padata ↦ padata.paType ≠ paEncTimestampType
  buildAsReq R client service { options with padata := kept ++ [preauth] }

theorem buildAsReq_eq_ok {client service : Principal} {options : AsReqOptions} {request : BuiltAsReq}
    (h : buildAsReq R client service options = .ok request) :
    request.client = client ∧ request.service = service ∧ request.nonce = options.nonce := by
  simp only [buildAsReq, bind_eq_ok, pure_eq_ok, Except.ok.injEq] at h
  obtain ⟨-, -, -, -, -, -, -, -, -, -, -, -, rfl⟩ := h
  exact ⟨rfl, rfl, rfl⟩

theorem buildPreauthenticatedAsReq_eq_ok {client service : Principal} {options : AsReqOptions}
    {key : EncryptionKey} {kvno : Option UInt32} {timestamp : SystemTime} {cusec : UInt32}
    {confounder : Bytes} {request : BuiltAsReq}
    (h : buildPreauthenticatedAsReqWithConfounder P R client service options key kvno timestamp cusec
      confounder = .ok request) :
    request.client = client ∧ request.service = service ∧ request.nonce = options.nonce := by
  simp only [buildPreauthenticatedAsReqWithConfounder, bind_eq_ok] at h
  obtain ⟨_, -, h⟩ := h
  obtain ⟨hc, hs, hn⟩ := buildAsReq_eq_ok R h
  exact ⟨hc, hs, hn⟩

end AsReq

section TgsReq

def buildTgsReqForRealmWithConfounder (tgt : AsRepSession) (kdcRealm : String) (service : Principal)
    (options : TgsReqOptions) (timestamp : SystemTime) (cusec : UInt32) (confounder : Bytes) :
    Except Error BuiltTgsReq := do
  ensure (options.etypes ≠ []) .emptyEtypes
  let ticket ← (decodeTicket R tgt.ticket).mapError ticketError
  let till ← checkedAdd options.now options.ticketLifetime
  let renewTill ← options.renewLifetime.mapM (checkedAdd options.now)
  let additionalTickets :=
    if options.additionalTickets.isEmpty then none else some options.additionalTickets
  let cname ← principalToRasn R tgt.client
  let reqBody ← kdcReqBody R cname kdcRealm service till renewTill options.nonce options.etypes
    (requestKdcOptionBits options.kdcOptionBits options.renewLifetime) additionalTickets
  let reqBodyDer ← (R.kdcReqBody.encode reqBody).mapError (.encode "KDC-REQ-BODY")
  let etype ← okOr (KerberosEtype.fromEtypeId tgt.sessionKey.etype)
    (.unsupportedEtype tgt.sessionKey.etype)
  let checksum ← (etype.checksum P tgt.sessionKey.value reqBodyDer
    tgsReqAuthenticatorChecksumUsage).mapError .crypto
  let ctime ← checkedKerberosTime timestamp
  let authenticator : Authenticator := {
    authenticatorVno := krb5Pvno.toInt
    crealm := ticket.realm
    cname
    cksum := some ⟨etype.checksumTypeId, checksum⟩
    cusec := cusec.toNat
    ctime
    subkey := none
    seqNumber := none
    authorizationData := none }
  let apReq ← (Rskrb5.buildApReqWithConfounder P R ticket (apOptionsFromBits 0) authenticator
    tgt.sessionKey tgsReqAuthenticatorUsage ticket.encPart.kvno confounder).mapError apReqError
  let value ← (encodeApReq R apReq).mapError apReqError
  let message : KdcReq :=
    { pvno := krb5Pvno.toInt, msgType := krbTgsReqMsgType.toInt
      padata := some (⟨paTgsReq, value⟩ :: options.padata), reqBody }
  let der ← (R.tgsReq.encode message).mapError (.encode "TGS-REQ")
  return { message, der, client := tgt.client, service, kdcRealm, nonce := options.nonce }

def buildTgtRenewalReqWithConfounder (tgt : AsRepSession) (options : TgsReqOptions) (timestamp : SystemTime)
    (cusec : UInt32) (confounder : Bytes) : Except Error BuiltTgsReq := do
  let realm ← okOr (tgtRealm tgt) (Error.invalidTgtSession tgt.service.name)
  buildTgsReqForRealmWithConfounder P R tgt realm (tgtService realm) options.withRenewal timestamp cusec
    confounder

def buildTicketRenewalReqWithConfounder (ticket : AsRepSession) (options : TgsReqOptions)
    (timestamp : SystemTime) (cusec : UInt32) (confounder : Bytes) : Except Error BuiltTgsReq :=
  buildTgsReqForRealmWithConfounder P R ticket ticket.service.realm ticket.service options.withRenewal
    timestamp cusec confounder

theorem buildTgsReqForRealm_eq_ok {tgt : AsRepSession} {kdcRealm : String} {service : Principal}
    {options : TgsReqOptions} {timestamp : SystemTime} {cusec : UInt32} {confounder : Bytes}
    {request : BuiltTgsReq}
    (h : buildTgsReqForRealmWithConfounder P R tgt kdcRealm service options timestamp cusec confounder =
      .ok request) :
    request.client = tgt.client ∧ request.service = service ∧ request.kdcRealm = kdcRealm ∧
      request.nonce = options.nonce := by
  simp only [buildTgsReqForRealmWithConfounder, bind_eq_ok, pure_eq_ok, Except.ok.injEq] at h
  obtain ⟨-, -, -, -, -, -, -, -, -, -, -, -, -, -, -, -, -, -, -, -, -, -, -, -, -, -, rfl⟩ := h
  exact ⟨rfl, rfl, rfl, rfl⟩

end TgsReq

section ApReq

def authenticatorFor (client : Principal) (options : ApReqOptions) (timestamp : SystemTime)
    (cusec : UInt32) : Except Error Authenticator := do
  let crealm ← kerberosString R client.realm
  let cname ← principalToRasn R client
  let ctime ← checkedKerberosTime timestamp
  return {
    authenticatorVno := krb5Pvno.toInt
    crealm
    cname
    cksum := options.checksum
    cusec := cusec.toNat
    ctime
    subkey := options.subkey
    seqNumber := options.sequenceNumber
    authorizationData := none }

/-- The message carries the timestamp's whole seconds, and the result the timestamp itself. -/
def buildApReqWithConfounder (serviceTicket : TgsRepSession) (options : ApReqOptions)
    (timestamp : SystemTime) (cusec : UInt32) (confounder : Bytes) : Except Error BuiltApReq := do
  let ticket ← (decodeTicket R serviceTicket.ticket).mapError ticketError
  let authenticator ← authenticatorFor R serviceTicket.client options timestamp cusec
  let message ← (Rskrb5.buildApReqWithConfounder P R ticket (apOptionsFromBits options.apOptionBits)
    authenticator serviceTicket.sessionKey (authenticatorUsageForTicket ticket) ticket.encPart.kvno
    confounder).mapError apReqError
  let der ← (encodeApReq R message).mapError apReqError
  let authenticatorTime ← checkedAdd timestamp (Duration.fromMicros cusec.toNat)
  return {
    message
    der
    client := serviceTicket.client
    service := serviceTicket.service
    sessionKey := serviceTicket.sessionKey
    authenticatorCtime := timestamp
    authenticatorCusec := cusec
    authenticatorTime
    sequenceNumber := options.sequenceNumber
    subkey := options.subkey }

end ApReq

end Rskrb5.Client
