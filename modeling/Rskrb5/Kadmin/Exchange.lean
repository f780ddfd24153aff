import Rskrb5.Client.Authenticators
import Rskrb5.Client.Kpasswd
import Rskrb5.Gss.Mutual
import Rskrb5.Kadmin.Frames

namespace Rskrb5.Kadmin

open Lib.Results Lib.Programs Crypto EncParts Client Service Gss

variable {P : Primitives} {R : Rasn} {Pac : Type} {pac : PacOps Pac}

section Messages

structure ChangePasswdMessageOptions where
  timestamp : KerberosTime
  cusec : UInt32
  sequenceNumber : UInt32
  senderAddress : HostAddress
  recipientAddress : Option HostAddress

def buildChangePasswordMessageWithConfounders (P : Primitives) (R : Rasn) (clientPrincipal : PrincipalName)
    (clientRealm : String)
    (changeData : ChangePasswdData) (serviceTicket : Ticket) (sessionKey : EncryptionKey)
    (options : ChangePasswdMessageOptions) (replyKey : EncryptionKey)
    (apReqConfounder krbPrivConfounder : Bytes) : Except Error BuiltChangePasswordRequest := do
  let crealm ← (Rskrb5.kerberosString R clientRealm).mapError .invalidKerberosString
  let authenticator : Authenticator := {
    authenticatorVno := 5
    crealm
    cname := clientPrincipal
    cksum := none
    cusec := options.cusec.toNat
    ctime := options.timestamp
    subkey := some replyKey
    seqNumber := some options.sequenceNumber
    authorizationData := none }
  let apReq ← (Rskrb5.buildApReqWithConfounder P R serviceTicket (apOptionsFromBits 0) authenticator sessionKey
    (authenticatorUsageForTicket serviceTicket) serviceTicket.encPart.kvno apReqConfounder).mapError apReqError
  buildChangePasswordRequestWithConfounder P R apReq changeData replyKey
    { timestamp := some options.timestamp
      usec := some options.cusec.toNat
      seqNumber := some options.sequenceNumber
      senderAddress := options.senderAddress
      recipientAddress := options.recipientAddress }
    krbPrivConfounder

end Messages

section Sealing

variable {userData confounder : Bytes} {options : EncKrbPrivPartOptions} {key : EncryptionKey} {kvno : Option UInt32}
  {krbPriv : KrbPriv}

end Sealing

section Requests

variable {apReq : ApReq} {changeData : ChangePasswdData} {replyKey : EncryptionKey} {options : EncKrbPrivPartOptions}
  {confounder : Bytes}

variable {ticket : TgsRepSession} {requestOptions : KpasswdRequestOptions} {apReqConfounder krbPrivConfounder : Bytes}

/-- The two messages of a request that a client has built. -/
structure Asked (P : Primitives) (R : Rasn) (ticket : TgsRepSession) (changeData : ChangePasswdData)
    (replyKey : EncryptionKey) (options : KpasswdRequestOptions) (apReqConfounder krbPrivConfounder : Bytes)
    (built : BuiltKpasswdRequest) where
  userData : Bytes
  timestamp : KerberosTime
  apReq_eq : buildKpasswdApReqWithConfounder P R ticket replyKey options apReqConfounder = .ok built.apReq
  timestamp_eq : truncatedKerberosTime options.timestamp = some timestamp
  userData_eq : R.changePasswdData.encode changeData = .ok userData
  krbPriv_eq : buildKrbPrivWithConfounder P R userData
    ⟨some timestamp, some options.cusec.toNat, some options.sequenceNumber, options.senderAddress,
      options.recipientAddress⟩ replyKey none krbPrivConfounder = .ok built.request.krbPriv
  message_eq : built.request.apReq = built.apReq.message
  der_eq : built.request.encode R = .ok built.der
  replyKey_eq : built.replyKey = replyKey

/-- The kadmin module's own builder makes the request that a client makes of the same values. -/
theorem buildChangePasswordMessage_eq {built : BuiltKpasswdRequest}
    (asked : Asked P R ticket changeData replyKey requestOptions apReqConfounder krbPrivConfounder built)
    {opened : Ticket}
    {cname : PrincipalName} (hticket : decodeTicket R ticket.ticket = .ok opened)
    (hcname : principalToRasn R ticket.client = .ok cname) :
    buildChangePasswordMessageWithConfounders P R cname ticket.client.realm changeData opened ticket.sessionKey
      ⟨asked.timestamp, requestOptions.cusec, requestOptions.sequenceNumber, requestOptions.senderAddress,
        requestOptions.recipientAddress⟩ replyKey apReqConfounder krbPrivConfounder =
      .ok ⟨built.request, built.der, built.replyKey⟩ := by
  have hapReq := asked.apReq_eq
  simp only [buildKpasswdApReqWithConfounder, Client.buildApReqWithConfounder, authenticatorFor, checkedKerberosTime,
    hticket, hcname, asked.timestamp_eq, bind_eq_ok, mapError_eq_ok, okOr_eq_ok, pure_eq_ok, Except.ok.injEq,
    Option.some.injEq] at hapReq
  obtain ⟨_, rfl, _, ⟨crealm, hcrealm, _, rfl, _, rfl, rfl⟩, message, hmessage, der, -, time, -, hbuilt⟩ := hapReq
  have hrequest : built.request = ⟨message, built.request.krbPriv⟩ := by
    rw [← show built.apReq.message = message by rw [← hbuilt], ← asked.message_eq]
  have hder := asked.der_eq
  rw [Client.kerberosString, mapError_eq_ok] at hcrealm
  rw [hrequest] at hder
  rw [buildChangePasswordMessageWithConfounders]
  refine bind_eq_ok.mpr ⟨crealm, mapError_eq_ok.mpr hcrealm, bind_eq_ok.mpr ⟨message, mapError_eq_ok.mpr hmessage, ?_⟩⟩
  simp only [buildChangePasswordRequestWithConfounder, encodeChangePasswdData, asked.userData_eq, asked.krbPriv_eq,
    buildChangePasswordRequestFromParts, Except.mapError, ok_bind, hder, pure_eq_ok]
  rw [asked.replyKey_eq, ← hrequest]

end Requests

section Exchanges

variable {v : ServiceValidator} {clock : Clock} {frame : Bytes}

variable (P R) in
/-- What a service reads in a frame. -/
structure Received (pac : PacOps Pac) (v : ServiceValidator) (clock : Clock) (frame : Bytes) where
  request : Request
  apReq : Bytes
  replayKey : ReplayKey
  now : SystemTime
  validated : ValidatedApReq Pac
  subkey : EncryptionKey
  encPart : EncKrbPrivPart
  changeData : ChangePasswdData
  request_eq : Request.parse R frame = .ok request
  apReq_eq : encodeApReq R request.apReq = .ok apReq
  check : v.checkApReq P R pac clock apReq = .ok (replayKey, now, validated)
  subkey_eq : validated.subkey = some subkey
  encPart_eq : decryptKrbPrivEncPart P R request.krbPriv subkey = .ok encPart
  changeData_eq : decodeChangePasswdData R encPart.userData = .ok changeData

variable (P R) in
/-- The answer of a service to a request. Its sealed part is under the key that the service has chosen, or else under
that of the client. -/
structure Answer (validated : ValidatedApReq Pac) (subkey : EncryptionKey) (userData response : Bytes) where
  repOptions : ApRepOptions
  repConfounder : Bytes
  apRepDer : Bytes
  apRep : ApRep
  privOptions : EncKrbPrivPartOptions
  privConfounder : Bytes
  krbPriv : KrbPriv
  apRepDer_eq : validated.buildApRepWithConfounder P R repConfounder repOptions = .ok apRepDer
  apRep_eq : decodeApRep R apRepDer = .ok apRep
  krbPriv_eq : buildKrbPrivWithConfounder P R userData privOptions (repOptions.subkey.getD subkey) none privConfounder =
    .ok krbPriv
  isWhole : (buildEncKrbPrivPart userData privOptions).IsWhole
  response_eq : Reply.encode R ⟨0, changePasswordReplyVersion, 0, some apRep, some krbPriv, none, none⟩ = .ok response

variable {ticket : TgsRepSession} {changeData : ChangePasswdData} {replyKey : EncryptionKey}
  {options : KpasswdRequestOptions} {apReqConfounder krbPrivConfounder : Bytes} {built : BuiltKpasswdRequest}

theorem Asked.isWhole (asked : Asked P R ticket changeData replyKey options apReqConfounder krbPrivConfounder built) :
    asked.timestamp.IsWhole := (truncatedKerberosTime_eq_some asked.timestamp_eq).1

/-- What a service has read is what the client has written. -/
structure Received.Reads (received : Received P R pac v clock frame) (built : BuiltKpasswdRequest) (client : Principal)
    (replyKey : EncryptionKey) (changeData : ChangePasswdData) : Prop where
  apReq_eq : received.apReq = built.apReq.der
  client_eq : received.validated.client = client
  subkey_eq : received.subkey = replyKey
  changeData_eq : received.changeData = changeData

end Exchanges

section Changes

variable {ω : Type} {W : World ω} {target : Principal} {newPassword : Bytes} {options : KpasswdRequestOptions}

/-- The password that is asked for, and whose it is to be. -/
structure Asks (changeData : ChangePasswdData) (target : Principal) (newPassword : Bytes) : Prop where
  newPasswd_eq : changeData.newPasswd = newPassword
  target_eq : ∃ realm name, changeData.targRealm = some realm ∧ changeData.targName = some name ∧
    principalFromParts realm name = some target

end Changes

section Changed

/-- `alice@A` changes her password, with the ticket for `kadmin/changepw@A` that she holds. -/
def changepwName : PrincipalName := ⟨1, [asBytes "kadmin", asBytes "changepw"]⟩

def changepwTicket : Ticket := ⟨5, asBytes "A", changepwName, ⟨23, none, aliceTicketCipher⟩⟩

def newPassword : Bytes := asBytes "new password"

end Changed

end Rskrb5.Kadmin
