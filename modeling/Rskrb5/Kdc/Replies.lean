import Rskrb5.Client.Authenticators
import Rskrb5.Gss.Initiator

namespace Rskrb5.Kdc

open Lib.Results Crypto EncParts Client

/-- The reply types have application tags of their own, none of them the one of a KRB-ERROR. -/
structure RepliesLawful (R : Rasn) : Prop where
  asRep : R.asRep.Lawful fun _ ↦ True
  tgsRep : R.tgsRep.Lawful fun _ ↦ True
  krbError_rejects : ∀ {reply bytes}, R.asRep.encode reply = .ok bytes ∨ R.tgsRep.encode reply = .ok bytes →
    ∃ e, R.krbError.decode bytes = .error e

inductive ReplyKind
  | as
  | tgs
  deriving DecidableEq

namespace ReplyKind

variable (P : Primitives) (R : Rasn)

def msgType : ReplyKind → Int32
  | as => krbAsRepMsgType
  | tgs => krbTgsRepMsgType

def encode : ReplyKind → KdcRep → Except EncPartError Bytes
  | as => encodeAsRep R
  | tgs => encodeTgsRep R

def decode : ReplyKind → Bytes → Except EncPartError KdcRep
  | as => decodeAsRep R
  | tgs => decodeTgsRep R

def encryptEncPart : ReplyKind → EncKdcRepPart → EncryptionKey → Option UInt32 → Bytes →
    Except EncPartError EncryptedData
  | as => encryptAsRepEncPartWithConfounder P R
  | tgs => encryptTgsRepEncPartWithConfounder P R

def decryptEncPart : ReplyKind → KdcRep → EncryptionKey → Except EncPartError EncKdcRepPart
  | as => decryptAsRepEncPart P R
  | tgs => decryptTgsRepEncPart P R

end ReplyKind

/-- What a KDC grants: the names of the client and of the ticket, and the two sealed parts. -/
structure Grant where
  padata : Option (List PaData)
  crealm : Realm
  cname : PrincipalName
  realm : Realm
  sname : PrincipalName
  encTicket : EncTicketPart
  encPart : EncKdcRepPart

/-- The keys that a KDC seals the two parts with. -/
structure Seals where
  serviceKey : EncryptionKey
  serviceKvno : Option UInt32
  ticketConfounder : Bytes
  replyKey : EncryptionKey
  replyKvno : Option UInt32
  replyConfounder : Bytes

/-- The reply that the helpers make of a grant. -/
def Grant.issue (P : Primitives) (R : Rasn) (kind : ReplyKind) (grant : Grant) (seals : Seals) :
    Except EncPartError (KdcRep × Bytes) := do
  let ticket ← buildTicketWithConfounder P R grant.realm grant.sname grant.encTicket seals.serviceKey
    seals.serviceKvno seals.ticketConfounder
  let encPart ← kind.encryptEncPart P R grant.encPart seals.replyKey seals.replyKvno seals.replyConfounder
  let reply : KdcRep := {
    pvno := krb5Pvno.toInt
    msgType := kind.msgType.toInt
    padata := grant.padata
    crealm := grant.crealm
    cname := grant.cname
    ticket
    encPart }
  return (reply, ← kind.encode R reply)

section Issued

variable {P : Primitives} {R : Rasn} {kind : ReplyKind} {grant : Grant} {seals : Seals} {reply : KdcRep} {bytes : Bytes}

/-- What a reply carries, and how it was sealed. -/
structure Issued (P : Primitives) (R : Rasn) (kind : ReplyKind) (grant : Grant) (seals : Seals) (reply : KdcRep)
    (bytes : Bytes) : Prop where
  ticket_eq : buildTicketWithConfounder P R grant.realm grant.sname grant.encTicket seals.serviceKey
    seals.serviceKvno seals.ticketConfounder = .ok reply.ticket
  encPart_eq : kind.encryptEncPart P R grant.encPart seals.replyKey seals.replyKvno seals.replyConfounder =
    .ok reply.encPart
  bytes_eq : kind.encode R reply = .ok bytes
  pvno_eq : reply.pvno = krb5Pvno.toInt
  msgType_eq : reply.msgType = kind.msgType.toInt
  crealm_eq : reply.crealm = grant.crealm
  cname_eq : reply.cname = grant.cname

theorem issued_of_issue (h : grant.issue P R kind seals = .ok (reply, bytes)) :
    Issued P R kind grant seals reply bytes := by
  simp only [Grant.issue, bind_eq_ok, pure_eq_ok, Except.ok.injEq, Prod.mk.injEq] at h
  obtain ⟨ticket, hticket, encPart, hpart, _, hbytes, rfl, rfl⟩ := h
  exact ⟨hticket, hpart, hbytes, rfl, rfl, rfl, rfl⟩

namespace Issued

variable (issued : Issued P R kind grant seals reply bytes)

include issued

theorem ticket_fields : reply.ticket.tktVno = krb5TktVno.toInt ∧ reply.ticket.realm = grant.realm ∧
    reply.ticket.sname = grant.sname ∧ reply.ticket.encPart.etype = seals.serviceKey.etype ∧
    reply.ticket.encPart.kvno = seals.serviceKvno := by
  obtain ⟨plaintext, data, -, hdata, hticket⟩ := buildTicketWithConfounder_eq_ok P R issued.ticket_eq
  obtain ⟨etype, -, hetype, hkvno, -⟩ := (encryptData_eq_ok P).mp hdata
  rw [hticket]
  exact ⟨rfl, rfl, rfl, hetype, hkvno⟩

theorem decode (hreplies : RepliesLawful R) : kind.decode R bytes = .ok reply := by
  obtain ⟨hvno, -⟩ := issued.ticket_fields
  have hvalid : validateKdcRep reply kind.msgType = .ok () := by
    rw [validateKdcRep, validateTicket, validateInteger, validateInteger, validateInteger, issued.pvno_eq,
      issued.msgType_eq, hvno, ensure_of rfl, ensure_of rfl, ensure_of rfl]
    rfl
  cases kind with
  | as =>
    have hdecode := hreplies.asRep.decode_encode trivial (mapError_eq_ok.mp issued.bytes_eq)
    change decodeAsRep R bytes = _
    rw [decodeAsRep, EncParts.decode, hdecode, Except.mapError, ok_bind]
    rw [show validateKdcRep reply krbAsRepMsgType = .ok () from hvalid]
    rfl
  | tgs =>
    have hdecode := hreplies.tgsRep.decode_encode trivial (mapError_eq_ok.mp issued.bytes_eq)
    change decodeTgsRep R bytes = _
    rw [decodeTgsRep, EncParts.decode, hdecode, Except.mapError, ok_bind]
    rw [show validateKdcRep reply krbTgsRepMsgType = .ok () from hvalid]
    rfl

theorem rejectKdcError (hreplies : RepliesLawful R) : rejectKdcError R bytes = .ok () := by
  have hencoded : R.asRep.encode reply = .ok bytes ∨ R.tgsRep.encode reply = .ok bytes := by
    cases kind with
    | as => exact .inl (mapError_eq_ok.mp issued.bytes_eq)
    | tgs => exact .inr (mapError_eq_ok.mp issued.bytes_eq)
  obtain ⟨e, he⟩ := hreplies.krbError_rejects hencoded
  simp only [Client.rejectKdcError, processKdcError, KrbError.decodeKrbError, he]
  rfl

theorem decryptEncPart (hR : R.Lawful) (hwhole : grant.encPart.IsWhole) :
    kind.decryptEncPart P R reply seals.replyKey = .ok grant.encPart := by
  cases kind with
  | as =>
    obtain ⟨d, hd, hdata⟩ := encryptAsRepEncPartWithConfounder_eq_ok P R issued.encPart_eq
    obtain ⟨etype, hetype, -⟩ := (encryptData_eq_ok P).mp hdata
    exact PartKind.decrypt_of_built P (k := .asRep) hR rfl hwhole (hR.encAsRepPart.isDefinite hd) hd hetype
      issued.encPart_eq
  | tgs =>
    obtain ⟨d, hd, hdata⟩ := encryptTgsRepEncPartWithConfounder_eq_ok P R issued.encPart_eq
    obtain ⟨etype, hetype, -⟩ := (encryptData_eq_ok P).mp hdata
    exact PartKind.decrypt_of_built P (k := .tgsRep) hR rfl hwhole (hR.encTgsRepPart.isDefinite hd) hd hetype
      issued.encPart_eq

theorem decryptTicket (hR : R.Lawful) (hwhole : grant.encTicket.IsWhole) :
    decryptTicketEncPart P R reply.ticket seals.serviceKey = .ok grant.encTicket := by
  obtain ⟨d, data, hd, hdata, -⟩ := buildTicketWithConfounder_eq_ok P R issued.ticket_eq
  obtain ⟨etype, hetype, -⟩ := (encryptData_eq_ok P).mp hdata
  exact PartKind.decrypt_of_built P (k := .ticket) hR rfl hwhole (hR.encTicketPart.isDefinite hd) hd hetype
    ⟨_, _, issued.ticket_eq⟩

end Issued

end Issued

section Sessions

/-- A request that asks for an authenticated answer gets one from a KDC that says that it gives them. -/
def Authenticated (P : Primitives) (R : Rasn) (request : BuiltAsReq) (encPart : EncKdcRepPart)
    (replyKey : EncryptionKey) : Prop :=
  asReqContainsPadata request paReqEncPaRep = true → ticketFlagsContainBits encPart.flags ticketFlagEncPaRep = true →
    ∃ padata entry checksum etype, encPart.encryptedPaData = some padata ∧
      (2 ≤ padata.length ∧ padataContains padata paFxFast = true) ∧
      padata.find? (fun padata ↦ padata.paType = paReqEncPaRep) = some entry ∧
      R.paReqEncPaRep.decode entry.value = .ok checksum ∧
      KerberosEtype.fromChecksumTypeId checksum.checksumType = some etype ∧
      etype.verifyChecksum P replyKey.value request.der checksum.checksum asReqChecksumUsage = true

variable {P : Primitives} {R : Rasn} {kind : ReplyKind} {grant : Grant} {seals : Seals} {reply : KdcRep} {bytes : Bytes}
  {encPart : EncKdcRepPart} {session : AsRepSession}

theorem validateAsRepEncryptedPadata_eq_ok {request : BuiltAsReq} {replyKey : EncryptionKey} {u : Unit} :
    validateAsRepEncryptedPadata P R request encPart replyKey = .ok u ↔
      Authenticated P R request encPart replyKey := by
  rw [validateAsRepEncryptedPadata, Authenticated]
  split
  · next h => exact iff_of_true rfl fun hasks hgives ↦ (h.elim (· hasks) (· hgives)).elim
  · next h =>
    simp only [not_or, not_not] at h
    simp only [h, true_implies, bind_eq_ok, okOr_eq_ok, ensure_eq_ok, mapError_eq_ok, exists_const]
    constructor
    · rintro ⟨padata, hpadata, hhas, entry, hentry, checksum, hdecode, etype, hetype, hverified⟩
      exact ⟨padata, entry, checksum, etype, hpadata, hhas, hentry, hdecode, hetype, hverified⟩
    · rintro ⟨padata, entry, checksum, etype, hpadata, hhas, hentry, hdecode, hetype, hverified⟩
      exact ⟨padata, hpadata, hhas, entry, hentry, checksum, hdecode, etype, hetype, hverified⟩

theorem processAsRep_issued (hR : R.Lawful) (hreplies : RepliesLawful R) (hwhole : grant.encPart.IsWhole)
    (issued : Issued P R .as grant seals reply bytes) (request : BuiltAsReq) :
    processAsRep P R request bytes seals.replyKey = .ok session ↔
      SessionOf R reply grant.encPart session ∧ principalMatches session.client request.client = true ∧
        principalMatches session.service request.service = true ∧ grant.encPart.nonce = request.nonce ∧
        Authenticated P R request grant.encPart seals.replyKey := by
  have hdecode : decodeAsRep R bytes = .ok reply := issued.decode hreplies
  have hopen : decryptAsRepEncPart P R reply seals.replyKey = .ok grant.encPart := issued.decryptEncPart hR hwhole
  simp only [processAsRep, issued.rejectKdcError hreplies, hdecode, hopen, checkedPrincipal, Except.mapError, ok_bind,
    bind_eq_ok, okOr_eq_ok, ensure_eq_ok, exists_const, validateAsRepEncryptedPadata_eq_ok]
  constructor
  · rintro ⟨client, hclient, hfor, hauthenticated, hnonce, service, hservice, hasked, h⟩
    have hsession := (sessionOf_eq_ok_iff R hclient hservice).mp h
    obtain rfl := Option.some.inj (hclient.symm.trans hsession.client_eq)
    obtain rfl := Option.some.inj (hservice.symm.trans hsession.service_eq)
    exact ⟨hsession, hfor, hasked, hnonce, hauthenticated⟩
  · rintro ⟨hsession, hfor, hasked, hnonce, hauthenticated⟩
    exact ⟨_, hsession.client_eq, hfor, hauthenticated, hnonce, _, hsession.service_eq, hasked,
      (sessionOf_eq_ok_iff R hsession.client_eq hsession.service_eq).mpr hsession⟩

theorem processTgsRepInner_issued (hR : R.Lawful) (hreplies : RepliesLawful R) (hwhole : grant.encPart.IsWhole)
    (issued : Issued P R .tgs grant seals reply bytes) (request : BuiltTgsReq) (allowReferral : Bool) :
    processTgsRepInner P R request bytes seals.replyKey allowReferral = .ok session ↔
      SessionOf R reply grant.encPart session ∧ principalMatches session.client request.client = true ∧
        (principalMatches session.service request.service = true ∨
          allowReferral = true ∧ isTgtPrincipal session.service = true) ∧
        grant.encPart.nonce = request.nonce := by
  have hdecode : decodeTgsRep R bytes = .ok reply := issued.decode hreplies
  have hopen : decryptTgsRepEncPart P R reply seals.replyKey = .ok grant.encPart := issued.decryptEncPart hR hwhole
  have hreferral : ∀ service, (principalMatches service request.service = true ∨ (allowReferral &&
      isTgtPrincipal service && !principalMatches service request.service) = true) ↔
      principalMatches service request.service = true ∨ allowReferral = true ∧ isTgtPrincipal service = true := by
    intro service
    cases principalMatches service request.service <;> simp
  simp only [processTgsRepInner, issued.rejectKdcError hreplies, hdecode, hopen, checkedPrincipal, Except.mapError,
    ok_bind, bind_eq_ok, okOr_eq_ok, ensure_eq_ok, exists_const, hreferral]
  constructor
  · rintro ⟨client, hclient, hfor, hnonce, service, hservice, hasked, h⟩
    have hsession := (sessionOf_eq_ok_iff R hclient hservice).mp h
    obtain rfl := Option.some.inj (hclient.symm.trans hsession.client_eq)
    obtain rfl := Option.some.inj (hservice.symm.trans hsession.service_eq)
    exact ⟨hsession, hfor, hasked, hnonce⟩
  · rintro ⟨hsession, hfor, hasked, hnonce⟩
    exact ⟨_, hsession.client_eq, hfor, hnonce, _, hsession.service_eq, hasked,
      (sessionOf_eq_ok_iff R hsession.client_eq hsession.service_eq).mpr hsession⟩

/-- A client accepts the reply that a KDC makes of a grant exactly when it answers the request: it is for the client
and the service of the request, or a referral where one is allowed, repeats the nonce, and authenticates the request
where both sides can. The session is the grant's. -/
theorem accepts_issued_iff (P : Primitives) (R : Rasn) (hR : R.Lawful) (hreplies : RepliesLawful R) (kind : ReplyKind)
    (grant : Grant) (hwhole : grant.encPart.IsWhole) (seals : Seals) (reply : KdcRep) (bytes : Bytes)
    (h : grant.issue P R kind seals = .ok (reply, bytes)) (session : AsRepSession) :
    (kind = .as → ∀ request, processAsRep P R request bytes seals.replyKey = .ok session ↔
      SessionOf R reply grant.encPart session ∧ principalMatches session.client request.client = true ∧
        principalMatches session.service request.service = true ∧ grant.encPart.nonce = request.nonce ∧
        Authenticated P R request grant.encPart seals.replyKey) ∧
    (kind = .tgs → ∀ request allowReferral,
      processTgsRepInner P R request bytes seals.replyKey allowReferral = .ok session ↔
        SessionOf R reply grant.encPart session ∧ principalMatches session.client request.client = true ∧
          (principalMatches session.service request.service = true ∨
            allowReferral = true ∧ isTgtPrincipal session.service = true) ∧
          grant.encPart.nonce = request.nonce) := by
  have issued := issued_of_issue h
  constructor
  · rintro rfl request
    exact processAsRep_issued hR hreplies hwhole issued request
  · rintro rfl request allowReferral
    exact processTgsRepInner_issued hR hreplies hwhole issued request allowReferral

end Sessions

section Granted

open Service Gss

/-- The ticket of `alice@A` for the service `web@A`, as the answer to the request that she made with her TGT. -/
def tgtSessionKey : EncryptionKey := ⟨23, List.replicate 16 0x33⟩

def webName : PrincipalName := ⟨2, [asBytes "web"]⟩

def webEncPart : EncKdcRepPart where
  key := aliceSessionKey
  lastReq := []
  nonce := 0x42424242
  keyExpiration := none
  flags := aliceEncTicket.flags
  authTime := aliceEncTicket.authTime
  startTime := none
  endTime := aliceEncTicket.endTime
  renewTill := none
  srealm := asBytes "A"
  sname := webName
  caddr := none
  encryptedPaData := none

def webEncPartCipher : Bytes :=
  [0x0b, 0x0b, 0x5d, 0xef, 0x4c, 0x05, 0xe9, 0x05, 0x8b, 0x6b, 0xb0, 0x6a, 0x64, 0xec, 0x4a, 0x47, 0x26,
   0x1b, 0xda, 0x45, 0xa8, 0x3d, 0xab, 0xc7, 0xf3, 0x01, 0x0e, 0x9e, 0x82, 0x6d, 0x7f, 0x92, 0xdc, 0xe0,
   0xf9, 0x9c, 0x72, 0x5a, 0x6e, 0x46, 0xcb, 0xd8, 0x54, 0x43, 0x30, 0x7b, 0x8a, 0x45, 0x0e, 0xee, 0x24,
   0xd7, 0x86, 0xb5, 0xb5, 0x33, 0xdd, 0x3d, 0x99, 0x44, 0x43, 0xa1, 0x0a, 0x8d, 0x01, 0x8a, 0x31, 0xf2,
   0x8a, 0xda, 0xc1, 0x3d, 0xb7, 0x4f, 0xe1, 0x79, 0x8e, 0x21, 0x56, 0x6c, 0x7d, 0x02, 0xdf, 0x9c, 0xd9,
   0xbf, 0xc6, 0x2a, 0x10, 0x16, 0x33, 0x0c, 0x7f, 0x75, 0x1e, 0x48, 0x92, 0x92, 0x3a, 0x90, 0xb2, 0x70,
   0x40, 0xe2, 0x5f, 0xb0, 0xb3, 0xa0, 0x06, 0xc6, 0xc7, 0xfb, 0xb5, 0x65, 0x51, 0x25, 0x18, 0xf5, 0x55,
   0xa7, 0x4c, 0xdf, 0xd7, 0xb5, 0x4c, 0x8e, 0x14, 0x2b, 0xe0, 0x3a, 0xbe, 0x21, 0x97, 0x0a, 0x05, 0x49,
   0x44, 0x13, 0x1e]

def webEncPartSealed : Rc4Sealed where
  key := tgtSessionKey.value
  usage := tgsRepEncpartSessionKeyUsage
  confounder := exchangeConfounder
  message := derEncTgsRepPart webEncPart
  usageKey := [0x72, 0x16, 0x98, 0xe2, 0x95, 0x38, 0x9b, 0xb8, 0x5b, 0xc0, 0xc4, 0xd5, 0xc7, 0x6d, 0x10, 0x11]
  encryptionKey :=
    [0x5b, 0x6c, 0x9e, 0x3e, 0xa3, 0x85, 0xa2, 0x5a, 0x3a, 0x27, 0x08, 0xb2, 0x69, 0x73, 0x93, 0x16]
  cipher := webEncPartCipher

def webGrant : Grant where
  padata := none
  crealm := asBytes "A"
  cname := aliceName
  realm := asBytes "A"
  sname := webName
  encTicket := aliceEncTicket
  encPart := webEncPart

def webSeals : Seals := ⟨webKey, some 2, exchangeConfounder, tgtSessionKey, none, exchangeConfounder⟩

def webReply : KdcRep := ⟨5, 13, none, asBytes "A", aliceName, aliceTicket, ⟨23, none, webEncPartCipher⟩⟩

def webRequest : BuiltTgsReq :=
  let message : KdcReq := { ownRequest.message with reqBody := requestBody "A" webName }
  { ownRequest.built aliceSession.service "A" with message, der := derTgsReq message }

def grantPrimitives : Primitives :=
  .ofKnownAnswers (.ofRc4Sealed [ticketSealed, webEncPartSealed, authenticatorSealed])

def grantTable : Rasn.Table where
  apReq := [(sentApReq, sentApReqDer)]
  authenticator := [(aliceAuthenticator, aliceAuthenticatorDer)]
  ticket := [(aliceTicket, aliceTicketDer)]
  encTicketPart := [(aliceEncTicket, aliceEncTicketDer)]

def grantRasn : Rasn :=
  { Rasn.ofTable grantTable with
    tgsRep := .ofPairs (encoded derTgsRep [webReply])
    encTgsRepPart := .ofPairs (encoded derEncTgsRepPart [webEncPart]) }

theorem grantRasn_lawful : grantRasn.Lawful :=
  { Rasn.ofTable_lawful (t := grantTable) (by decide +kernel) (by decide +kernel) (by decide +kernel)
      (by decide +kernel) (by decide) (by decide) (by decide) (by decide) with
    encTgsRepPart := Coder.IsTable.lawful (by decide +kernel) _
    encAsRepPart_rejects := fun _ ↦ ⟨_, rfl⟩ }

theorem grantRasn_replies : RepliesLawful grantRasn where
  asRep := Coder.isTable_nil.lawful _
  tgsRep := Coder.IsTable.lawful (by decide +kernel) _
  krbError_rejects _ := ⟨_, rfl⟩

theorem webGrant_issue :
    webGrant.issue grantPrimitives grantRasn .tgs webSeals = .ok (webReply, derTgsRep webReply) := by
  decide +kernel

theorem webEncPart_isWhole : webEncPart.IsWhole := by
  simp [EncKdcRepPart.IsWhole, webEncPart, aliceEncTicket, KerberosTime.IsWhole]

theorem sessionOf_aliceSession : SessionOf grantRasn webReply webEncPart aliceSession where
  client_eq := by decide
  service_eq := by decide
  ticketService := ⟨aliceSession.service, by decide, by decide⟩
  ticket_eq := by decide +kernel
  sessionKey_eq := rfl
  ticketFlags_eq := by decide
  authTime_eq := by decide
  startTime_eq := by decide
  endTime_eq := by decide
  renewTill_eq := rfl
  keyExpiration_eq := rfl

theorem accepts_issued_iff_web :
    processTgsRepInner grantPrimitives grantRasn webRequest (derTgsRep webReply) tgtSessionKey false =
      .ok aliceSession := by
  have hiff := (accepts_issued_iff grantPrimitives grantRasn grantRasn_lawful grantRasn_replies .tgs webGrant
    webEncPart_isWhole webSeals webReply (derTgsRep webReply) webGrant_issue aliceSession).2 rfl webRequest false
  exact hiff.mpr ⟨sessionOf_aliceSession, by decide, .inl (by decide), rfl⟩

end Granted

end Rskrb5.Kdc
