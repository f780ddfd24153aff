import Rskrb5.Client.Delegation
import Rskrb5.Kdc.Tickets
import Rskrb5.KrbCred.RoundTrip

namespace Rskrb5

def KdcReqBody.IsWhole (body : KdcReqBody) : Prop :=
  (∀ t ∈ body.from_, t.IsWhole) ∧ body.till.IsWhole ∧ ∀ t ∈ body.rtime, t.IsWhole

namespace Kdc

open Lib.Results Crypto EncParts Client

variable (P : Primitives) (R : Rasn) (C : DelegationCoders)

section Messages

def validateKdcReqBody (reqBody : KdcReqBody) : Except EncPartError Unit :=
  forM (reqBody.additionalTickets.getD []) validateTicket

def encodeKdcReqBody (reqBody : KdcReqBody) : Except EncPartError Bytes := encode R.kdcReqBody "KDC-REQ-BODY" reqBody

def validateKdcReq (kdcReq : KdcReq) (msgType : Int32) : Except EncPartError Unit := do
  validateInteger "pvno" kdcReq.pvno krb5Pvno
  validateInteger "msg-type" kdcReq.msgType msgType
  validateKdcReqBody kdcReq.reqBody

def decodeTgsReq (bytes : Bytes) : Except EncPartError KdcReq := do
  let tgsReq ← decode R.tgsReq "TGS-REQ" bytes
  validateKdcReq tgsReq krbTgsReqMsgType
  return tgsReq

/-- The requests are for whole seconds, as their times are on the wire. -/
structure RequestsLawful (R : Rasn) : Prop where
  tgsReq : R.tgsReq.Lawful fun request ↦ request.reqBody.IsWhole

variable {R}

theorem validateKdcReqBody_eq_ok {reqBody : KdcReqBody} : validateKdcReqBody reqBody = .ok () ↔
    ∀ ticket ∈ reqBody.additionalTickets.getD [], ticket.tktVno = krb5TktVno.toInt := by
  rw [validateKdcReqBody]
  induction reqBody.additionalTickets.getD [] with
  | nil => simp [List.forM_nil, pure_eq_ok]
  | cons ticket tickets ih =>
    rw [List.forM_cons, bind_eq_ok, List.forall_mem_cons, ← ih]
    simp [validateTicket, validateInteger, ensure_eq_ok]

end Messages

section Reading

/-- What a KDC finds in a TGS-REQ with the session key of its TGT. -/
structure ReadTgsReq where
  message : KdcReq
  apReq : ApReq
  authenticator : Authenticator
  deriving DecidableEq

def openTgsReq (message : KdcReq) (key : EncryptionKey) : Except EncPartError ReadTgsReq := do
  let padata ← okOr ((message.padata.getD []).find? fun padata ↦ padata.paType = paTgsReq)
    (.decode "PA-TGS-REQ" "missing")
  let apReq ← decodeApReq R padata.value
  let authenticator ← decryptApReqAuthenticator P R apReq key tgsReqAuthenticatorUsage
  return ⟨message, apReq, authenticator⟩

def readTgsReq (bytes : Bytes) (key : EncryptionKey) : Except EncPartError ReadTgsReq := do
  let message ← decodeTgsReq R bytes
  openTgsReq P R message key

/-- The request of the session's client, as it was built, with its body under the authenticator's checksum. The
client is in the realm that stands in the ticket of the session. -/
structure Asks (session : AsRepSession) (kdcRealm : String) (service : Principal) (options : TgsReqOptions)
    (timestamp : SystemTime) (cusec : UInt32) (read : ReadTgsReq) : Prop where
  ticket_eq : decodeTicket R session.ticket = .ok read.apReq.ticket
  cname_eq : read.message.reqBody.cname = some read.authenticator.cname
  client_eq : principalFromParts read.authenticator.crealm read.authenticator.cname =
    (fromUtf8 read.apReq.ticket.realm).map fun realm ↦ { session.client with realm }
  service : ∃ sname, read.message.reqBody.sname = some sname ∧
    principalFromParts read.message.reqBody.realm sname = some { service with realm := kdcRealm }
  kdcOptions_eq : read.message.reqBody.kdcOptions =
    kdcOptionsFromBits (requestKdcOptionBits options.kdcOptionBits options.renewLifetime)
  nonce_eq : read.message.reqBody.nonce = options.nonce
  etype_eq : read.message.reqBody.etype = options.etypes
  till : ∃ till, options.now.checkedAdd options.ticketLifetime = some till ∧
    systemTimeFromKerberosTime read.message.reqBody.till = some till.wholeSeconds
  tickets_eq : read.message.reqBody.additionalTickets.getD [] = options.additionalTickets
  padata : ∃ value, read.message.padata = some (⟨paTgsReq, value⟩ :: options.padata)
  ctime_eq : systemTimeFromKerberosTime read.authenticator.ctime = some timestamp.wholeSeconds
  cusec_eq : read.authenticator.cusec = cusec.toNat
  cksum : ∃ etype cksum body, KerberosEtype.fromEtypeId session.sessionKey.etype = some etype ∧
    read.authenticator.cksum = some cksum ∧ cksum.checksumType = etype.checksumTypeId ∧
    encodeKdcReqBody R read.message.reqBody = .ok body ∧ etype.verifyChecksum P session.sessionKey.value body
      cksum.checksum tgsReqAuthenticatorChecksumUsage = true

variable {P R} {session : AsRepSession} {kdcRealm : String} {service : Principal} {options : TgsReqOptions}
  {timestamp : SystemTime} {cusec : UInt32} {confounder : Bytes} {request : BuiltTgsReq}

theorem verifyChecksum_of_checksum {etype : KerberosEtype} {key data checksum : Bytes} {usage : UInt32}
    (h : etype.checksum P key data usage = .ok checksum) : etype.verifyChecksum P key data checksum usage = true := by
  rw [KerberosEtype.verifyChecksum, h]
  exact (constantTimeEq_iff checksum checksum).mpr rfl

theorem mapM_checkedKerberosTime_isWhole {time : Option SystemTime} {t : Option KerberosTime}
    (h : time.mapM checkedKerberosTime = .ok t) : ∀ k ∈ t, k.IsWhole := by
  cases time with
  | none =>
    obtain rfl := Except.ok.inj h
    simp
  | some time =>
    rw [Option.mapM_some] at h
    obtain ⟨k, hk, h⟩ := bind_eq_ok.mp (show (checkedKerberosTime time >>= fun k ↦ .ok (some k)) = .ok t from h)
    obtain rfl := Except.ok.inj h
    intro k' hk'
    exact Option.some.inj hk' ▸ (truncatedKerberosTime_eq_some (okOr_eq_ok.mp hk)).1

theorem decodeApReq_of_built (hR : R.Lawful) {ticket : Ticket} {apOptions : KerberosFlags}
    {authenticator : Authenticator} {key : EncryptionKey} {usage : UInt32} {kvno : Option UInt32} {apReq : ApReq}
    {value : Bytes} (h : Rskrb5.buildApReqWithConfounder P R ticket apOptions authenticator key usage kvno
      confounder = .ok apReq) (hvalue : encodeApReq R apReq = .ok value) :
    decodeApReq R value = .ok apReq ∧ apReq.ticket = ticket := by
  obtain ⟨d, data, -, -, hm⟩ := buildApReqWithConfounder_eq_ok P R h
  have hapReq := hR.apReq.decode_encode trivial (mapError_eq_ok.mp hvalue)
  refine ⟨?_, by rw [hm]⟩
  simp only [decodeApReq, decode, hapReq, Except.mapError, ok_bind, validateApReqMessage, validateInteger, hm]
  rfl

theorem decodeTgsReq_eq_ok_iff {message : KdcReq} {bytes : Bytes} (h : R.tgsReq.decode bytes = .ok message)
    (hpvno : message.pvno = krb5Pvno.toInt) (htype : message.msgType = krbTgsReqMsgType.toInt) {read : KdcReq} :
    decodeTgsReq R bytes = .ok read ↔
      (∀ ticket ∈ message.reqBody.additionalTickets.getD [], ticket.tktVno = krb5TktVno.toInt) ∧ read = message := by
  have hvalid : validateKdcReq message krbTgsReqMsgType = validateKdcReqBody message.reqBody := by
    rw [validateKdcReq, validateInteger, validateInteger, ensure_of hpvno, ensure_of htype]
    rfl
  have hdecode : decodeTgsReq R bytes = validateKdcReqBody message.reqBody >>= fun _ ↦ .ok message := by
    rw [decodeTgsReq, decode, h, ← hvalid]
    rfl
  rw [hdecode, ← validateKdcReqBody_eq_ok, bind_eq_ok]
  constructor
  · rintro ⟨_, hbody, hread⟩
    exact ⟨hbody, (Except.ok.inj hread).symm⟩
  · rintro ⟨hbody, rfl⟩
    exact ⟨(), hbody, rfl⟩

/-- A request that was built, with its authenticator as it was before it was encrypted. -/
theorem exists_asks (hR : R.Lawful) (h : buildTgsReqForRealmWithConfounder P R session kdcRealm service options
      timestamp cusec confounder = .ok request) :
    ∃ sent : SentTgsReq P R session request, Asks P R session kdcRealm service options timestamp cusec
        ⟨request.message, sent.apReq, sent.authenticator⟩ ∧
      R.tgsReq.encode request.message = .ok request.der ∧ request.message.reqBody.IsWhole ∧
      request.message.pvno = krb5Pvno.toInt ∧ request.message.msgType = krbTgsReqMsgType.toInt := by
  simp only [buildTgsReqForRealmWithConfounder, kdcReqBody, checkedKerberosTime, checkedAdd, bind_eq_ok,
    mapError_eq_ok, okOr_eq_ok, pure_eq_ok, Except.ok.injEq] at h
  obtain ⟨_, -, ticket, hticket, till, htill, renewTill, -, cname, hcname, _, hbody, reqBodyDer, hreqBodyDer, etype,
    hetype, checksum, hchecksum, ctime, hctime, apReq, hapReq, value, hvalue, der, hder, rfl⟩ := h
  obtain ⟨realm, hrealm, sname, hsname, tillTime, htillTime, rtime, hrtime, rfl⟩ := hbody
  have hclient := principalFromParts_of_principalToRasn hcname ticket.realm
  have hservice := principalFromParts_principalToRasn hsname
    (kerberosStringToString_kerberosString (mapError_eq_ok.mp hrealm))
  obtain ⟨-, hticket'⟩ := decodeApReq_of_built hR hapReq hvalue
  refine ⟨⟨ticket, _, apReq, _, confounder, ⟨paTgsReq, value⟩, hticket, rfl, hcname, ?_, hapReq, hvalue, rfl⟩, ?_,
    hder, ?_, rfl, rfl⟩
  · exact (truncatedKerberosTime_eq_some hctime).1
  · refine ⟨hticket' ▸ hticket, rfl, hticket' ▸ hclient, ⟨sname, rfl, hservice⟩, rfl, rfl, rfl,
      ⟨till, htill, systemTime_truncated htillTime⟩, ?_, ⟨value, rfl⟩, systemTime_truncated hctime, rfl,
      ⟨etype, _, reqBodyDer, hetype, rfl, rfl, mapError_eq_ok.mpr hreqBodyDer, verifyChecksum_of_checksum hchecksum⟩⟩
    dsimp only
    split
    · next hempty => exact (List.isEmpty_iff.mp hempty).symm
    · rfl
  · exact ⟨by simp, (truncatedKerberosTime_eq_some htillTime).1, mapM_checkedKerberosTime_isWhole hrtime⟩

/-- The client of a request is found as it asked, exactly when its ticket is from its own realm. -/
theorem Asks.client_iff {read : ReadTgsReq}
    (h : Asks P R session kdcRealm service options timestamp cusec read) :
    principalFromParts read.authenticator.crealm read.authenticator.cname = some session.client ↔
      read.apReq.ticket.realm = asBytes session.client.realm := by
  rw [h.client_eq, Option.map_eq_some_iff]
  constructor
  · rintro ⟨realm, hrealm, heq⟩
    rw [← asBytes_of_fromUtf8 hrealm, ← heq]
  · intro hrealm
    exact ⟨session.client.realm, by rw [hrealm, fromUtf8_asBytes], rfl⟩

theorem openTgsReq_of_sent (hR : R.Lawful) (sent : SentTgsReq P R session request) :
    openTgsReq P R request.message session.sessionKey = .ok ⟨request.message, sent.apReq, sent.authenticator⟩ := by
  obtain ⟨hapReq, -⟩ := decodeApReq_of_built hR sent.apReq_eq sent.value_eq
  have hopened := sent.sentAuthenticator_eq hR
  rw [sentAuthenticator, sent.padata_eq] at hopened
  change (decodeApReq R sent.padata.value >>= _) = _ at hopened
  rw [hapReq, ok_bind] at hopened
  rw [openTgsReq, sent.padata_eq]
  change (decodeApReq R sent.padata.value >>= _) = _
  rw [hapReq, ok_bind, hopened]
  rfl

/-- What a KDC reads is what was asked for; a ticket of another version among those that are enclosed is all that
can keep it from reading. -/
theorem exists_read (hR : R.Lawful) (hrequests : RequestsLawful R) (h : buildTgsReqForRealmWithConfounder P R session
      kdcRealm service options timestamp cusec confounder = .ok request) :
    ∃ read, Asks P R session kdcRealm service options timestamp cusec read ∧
      ∀ read', readTgsReq P R request.der session.sessionKey = .ok read' ↔
        (∀ ticket ∈ options.additionalTickets, ticket.tktVno = krb5TktVno.toInt) ∧ read' = read := by
  obtain ⟨sent, hasks, hder, hwhole, hpvno, htype⟩ := exists_asks hR h
  have hdecode := hrequests.tgsReq.decode_encode hwhole hder
  have hopened := openTgsReq_of_sent hR sent
  refine ⟨_, hasks, fun read' ↦ ?_⟩
  rw [readTgsReq, bind_eq_ok, ← hasks.tickets_eq]
  constructor
  · rintro ⟨message, hmessage, h⟩
    obtain ⟨hvalid, rfl⟩ := (decodeTgsReq_eq_ok_iff hdecode hpvno htype).mp hmessage
    exact ⟨hvalid, Except.ok.inj (h.symm.trans hopened)⟩
  · rintro ⟨hvalid, rfl⟩
    exact ⟨_, (decodeTgsReq_eq_ok_iff hdecode hpvno htype).mpr ⟨hvalid, rfl⟩, hopened⟩

end Reading

section Flags

theorem or_or_and_self (x y z : UInt32) : (x ||| y ||| z) &&& y = y := by
  apply UInt32.toBitVec_inj.mp
  ext i
  simp
  grind

theorem u32FromBeBytes_u32ToBeBytes (bits : UInt32) : u32FromBeBytes (u32ToBeBytes bits) = bits := by
  have hlt : bits.toNat < 256 ^ 4 := bits.toNat_lt
  rw [u32FromBeBytes, u32ToBeBytes, beNat_beBytes, Nat.mod_eq_of_lt hlt, UInt32.ofNat_toNat]

theorem ticketFlagsToBytes_ofBits (bits : UInt32) :
    u32FromBeBytes (ticketFlagsToBytes (flagsFromSlice (u32ToBeBytes bits))).toList = bits := by
  have h := KrbCred.ticketFlagsToBytes_flagsFromSlice ⟨(u32ToBeBytes bits).toArray, length_u32ToBeBytes bits⟩
  rw [show (u32ToBeBytes bits) = (⟨(u32ToBeBytes bits).toArray, length_u32ToBeBytes bits⟩ : Vector UInt8 4).toList
    from rfl, h]
  exact u32FromBeBytes_u32ToBeBytes bits

theorem containBits_requested (bits flag : UInt32) (renewLifetime : Option ℕ) :
    ticketFlagsContainBits (kdcOptionsFromBits (requestKdcOptionBits (bits ||| flag) renewLifetime)) flag = true := by
  rw [ticketFlagsContainBits, kdcOptionsFromBits, ticketFlagsToBytes_ofBits, decide_eq_true_eq, requestKdcOptionBits]
  split
  · exact or_or_and_self bits flag kdcOptionRenewable
  · simpa using or_or_and_self bits flag 0

end Flags

section Delegations

/-- The one PA-FOR-USER of a message names the user, under a checksum with the service's own session key. -/
structure NamesUser (key : EncryptionKey) (message : KdcReq) (user : Principal) (value : PaForUser) : Prop where
  only : ∃ padata, ((message.padata.getD []).filter fun padata ↦ padata.paType = paForUserType) = [padata] ∧
    C.paForUser.decode padata.value = .ok value
  user_eq : principalFromParts value.userRealm value.userName = some user
  authPackage_eq : fromUtf8 value.authPackage = some "Kerberos"
  cksum_eq : value.cksum = ⟨Rc4HmacEtype.checksumTypeId,
    kerbChecksumHmacMd5 P key.value (s4uByteArray user "Kerberos") paForUserChecksumUsage⟩

variable {P R C} {serviceTgt : AsRepSession} {user : Principal} {options : TgsReqOptions} {timestamp : SystemTime}
  {cusec : UInt32} {confounder : Bytes} {request : BuiltTgsReq} {read : ReadTgsReq}

theorem paForUserPadata_eq_ok (hC : C.Lawful) {key : EncryptionKey} {padata : PaData}
    (h : paForUserPadata P R C user key = .ok padata) : padata.paType = paForUserType ∧
      ∃ value, C.paForUser.decode padata.value = .ok value ∧
        principalFromParts value.userRealm value.userName = some user ∧
        fromUtf8 value.authPackage = some "Kerberos" ∧ value.cksum = ⟨Rc4HmacEtype.checksumTypeId,
          kerbChecksumHmacMd5 P key.value (s4uByteArray user "Kerberos") paForUserChecksumUsage⟩ := by
  simp only [paForUserPadata, paForUserPadataWithAuthPackage, bind_eq_ok, mapError_eq_ok, pure_eq_ok,
    Except.ok.injEq] at h
  obtain ⟨userName, hname, userRealm, hrealm, authPackage, hpackage, value, hvalue, rfl⟩ := h
  have hrealm' := kerberosStringToString_kerberosString (mapError_eq_ok.mp hrealm)
  refine ⟨rfl, _, hC.paForUser.decode_encode trivial hvalue, ?_, ?_, rfl⟩
  · exact principalFromParts_principalToRasn hname hrealm'
  · exact kerberosStringToString_kerberosString (mapError_eq_ok.mp hpackage)

/-- The padata of the caller that names another user is not sent. -/
theorem namesUser_of_padata (hC : C.Lawful) {key : EncryptionKey} {message : KdcReq} {forUser : PaData}
    {value : Bytes} {kept : List PaData} (hkept : ∀ padata ∈ kept, padata.paType ≠ paForUserType)
    (h : paForUserPadata P R C user key = .ok forUser)
    (hmessage : message.padata = some (⟨paTgsReq, value⟩ :: (kept ++ [forUser]))) :
    ∃ value, NamesUser P C key message user value := by
  obtain ⟨htype, value, hdecode, huser, hpackage, hcksum⟩ := paForUserPadata_eq_ok hC h
  refine ⟨value, ⟨forUser, ?_, hdecode⟩, huser, hpackage, hcksum⟩
  have hnone : kept.filter (fun padata ↦ padata.paType = paForUserType) = [] := by
    rw [List.filter_eq_nil_iff]
    simpa using hkept
  rw [hmessage, Option.getD_some, List.filter_cons_of_neg (by simp [paTgsReq, paForUserType]),
    List.filter_append, hnone]
  simp [htype]

/-- A KDC reads the request of a service for a ticket to itself; a ticket of another version among those of the
caller is all that can keep it from that. -/
structure ReadsS4u2self (P : Primitives) (R : Rasn) (C : DelegationCoders) (serviceTgt : AsRepSession)
    (user : Principal) (options : TgsReqOptions) (timestamp : SystemTime) (cusec : UInt32) (request : BuiltTgsReq)
    (read : ReadTgsReq) : Prop where
  named : ∃ value, NamesUser P C serviceTgt.sessionKey read.message user value
  asks : ∃ forUser, Asks P R serviceTgt serviceTgt.client.realm serviceTgt.client { options with
    padata := options.padata.filter (fun padata ↦ padata.paType ≠ paForUserType) ++ [forUser] } timestamp cusec read
  read_iff : ∀ read', readTgsReq P R request.der serviceTgt.sessionKey = .ok read' ↔
    (∀ ticket ∈ options.additionalTickets, ticket.tktVno = krb5TktVno.toInt) ∧ read' = read

theorem reads_s4u2self (hR : R.Lawful) (hrequests : RequestsLawful R) (hC : C.Lawful)
    (h : buildS4u2selfReqWithConfounder P R C serviceTgt user options timestamp cusec confounder = .ok request) :
    (∃ read, ReadsS4u2self P R C serviceTgt user options timestamp cusec request read) ∧ request.client = user ∧
      request.service = serviceTgt.client ∧ request.nonce = options.nonce := by
  simp only [buildS4u2selfReqWithConfounder, bind_eq_ok, pure_eq_ok, Except.ok.injEq] at h
  obtain ⟨forUser, hforUser, built, hbuilt, rfl⟩ := h
  obtain ⟨-, hservice, -, hnonce⟩ := buildTgsReqForRealm_eq_ok P R hbuilt
  obtain ⟨read, hasks, hread⟩ := exists_read hR hrequests hbuilt
  obtain ⟨value, hpadata⟩ := hasks.padata
  have hkept : ∀ padata ∈ options.padata.filter (fun padata ↦ padata.paType ≠ paForUserType),
      padata.paType ≠ paForUserType := fun padata hmem ↦ by simpa using (List.mem_filter.mp hmem).2
  exact ⟨⟨read, namesUser_of_padata hC hkept hforUser hpadata, ⟨forUser, hasks⟩, hread⟩, rfl, hservice, hnonce⟩

/-- A KDC reads the request of a service for another one, and finds the evidence behind the tickets of the caller. -/
structure ReadsS4u2proxy (P : Primitives) (R : Rasn) (serviceTgt : AsRepSession) (evidenceTicket : TgsRepSession)
    (targetService : Principal) (options : TgsReqOptions) (timestamp : SystemTime) (cusec : UInt32)
    (request : BuiltTgsReq) (ticket : Ticket) (read : ReadTgsReq) : Prop where
  evidence : decodeTicket R evidenceTicket.ticket = .ok ticket
  asks : Asks P R serviceTgt targetService.realm targetService { options with
    kdcOptionBits := options.kdcOptionBits ||| kdcOptionCnameInAddlTkt
    additionalTickets := options.additionalTickets ++ [ticket] } timestamp cusec read
  cnameInAddlTkt : ticketFlagsContainBits read.message.reqBody.kdcOptions kdcOptionCnameInAddlTkt = true
  read_iff : ∀ read', readTgsReq P R request.der serviceTgt.sessionKey = .ok read' ↔
    (∀ ticket ∈ options.additionalTickets, ticket.tktVno = krb5TktVno.toInt) ∧ read' = read

theorem tktVno_of_decodeTicket {bytes : Bytes} {ticket : Ticket} (h : decodeTicket R bytes = .ok ticket) :
    ticket.tktVno = krb5TktVno.toInt := by
  obtain ⟨ticket', -, h⟩ := bind_eq_ok.mp h
  obtain ⟨_, hvalid, h⟩ := bind_eq_ok.mp h
  obtain rfl := Except.ok.inj h
  exact ensure_eq_ok.mp hvalid

theorem reads_s4u2proxy (hR : R.Lawful) (hrequests : RequestsLawful R) {evidenceTicket : TgsRepSession}
    {targetService : Principal} (h : buildS4u2proxyReqWithConfounder P R serviceTgt evidenceTicket targetService
      options timestamp cusec confounder = .ok request) :
    (∃ read ticket, ReadsS4u2proxy P R serviceTgt evidenceTicket targetService options timestamp cusec request ticket
      read) ∧ request.client = evidenceTicket.client ∧ request.service = targetService ∧
      request.nonce = options.nonce := by
  simp only [buildS4u2proxyReqWithConfounder, bind_eq_ok, ensure_eq_ok, mapError_eq_ok, pure_eq_ok,
    Except.ok.injEq] at h
  obtain ⟨_, -, ticket, hticket, built, hbuilt, rfl⟩ := h
  obtain ⟨-, hservice, -, hnonce⟩ := buildTgsReqForRealm_eq_ok P R hbuilt
  obtain ⟨read, hasks, hread⟩ := exists_read hR hrequests hbuilt
  refine ⟨⟨read, ticket, hticket, hasks, ?_, fun read' ↦ ?_⟩, rfl, hservice, hnonce⟩
  · rw [hasks.kdcOptions_eq]
    exact containBits_requested _ _ _
  · rw [hread, List.forall_mem_append]
    simp [tktVno_of_decodeTicket hticket]

end Delegations

section Completion

/-- The answer to a request that was read: a ticket of that client for the service that the request names. -/
structure Answers (read : ReadTgsReq) (client : Principal) (grant : Grant) : Prop where
  consistent : grant.Consistent
  client_eq : principalFromParts grant.crealm grant.cname = some client
  realm_eq : grant.realm = read.message.reqBody.realm
  sname_eq : read.message.reqBody.sname = some grant.sname
  nonce_eq : grant.encPart.nonce = read.message.reqBody.nonce

variable {P R C} {read : ReadTgsReq} {client service : Principal} {grant : Grant} {seals : Seals} {reply : KdcRep}
  {bytes ticket : Bytes} {request : BuiltTgsReq}

theorem exists_sessionOf (hgrant : grant.Consistent) (issued : Issued P R .tgs grant seals reply bytes)
    (hclient : principalFromParts grant.crealm grant.cname = some client)
    (hservice : principalFromParts grant.realm grant.sname = some service)
    (hticket : encodeTicket R reply.ticket = .ok ticket) :
    ∃ session, SessionOf R reply grant.encPart session ∧ session.client = client ∧ session.service = service ∧
      session.ticket = ticket := by
  obtain ⟨-, hrealm, hsname, -, -⟩ := issued.ticket_fields
  obtain ⟨authTime, hauth⟩ := exists_systemTime grant.encPart.authTime
  obtain ⟨startTime, hstart⟩ := exists_systemTime (grant.encPart.startTime.getD grant.encPart.authTime)
  obtain ⟨endTime, hend⟩ := exists_systemTime grant.encPart.endTime
  refine ⟨⟨client, service, grant.encPart.key, ticket, ticketFlagsToBytes grant.encPart.flags, authTime, startTime,
    endTime, grant.encPart.renewTill.bind systemTimeFromKerberosTime,
    grant.encPart.keyExpiration.bind systemTimeFromKerberosTime⟩, ?_, rfl, rfl, rfl⟩
  refine ⟨?_, ?_, ⟨service, ?_, principalMatches_iff.mpr ⟨rfl, rfl⟩⟩, hticket, rfl, rfl, hauth, hstart, hend, rfl,
    rfl⟩
  · rw [issued.crealm_eq, issued.cname_eq]
    exact hclient
  · rw [hgrant.srealm_eq, hgrant.sname_eq]
    exact hservice
  · rw [hrealm, hsname]
    exact hservice

/-- What a service made of the answer to its request, and what the holder of the key that the ticket is sealed with
finds in it. -/
structure Completes (P : Primitives) (R : Rasn) (request : BuiltTgsReq) (grant : Grant) (seals : Seals)
    (reply : KdcRep) (bytes : Bytes) (client service : Principal) (session : TgsRepSession) : Prop where
  accepted : processTgsRep P R request bytes seals.replyKey = .ok session
  client_eq : session.client = client
  service_eq : session.service = service
  ticket_eq : encodeTicket R reply.ticket = .ok session.ticket
  opened : Opened P R grant seals session reply.ticket

theorem exists_completes (hR : R.Lawful) (hreplies : RepliesLawful R) (answers : Answers read client grant)
    (hservice : ∃ sname, read.message.reqBody.sname = some sname ∧
      principalFromParts read.message.reqBody.realm sname = some service)
    (hrequest : request.client = client ∧ request.service = service ∧
      request.nonce = read.message.reqBody.nonce) (issued : Issued P R .tgs grant seals reply bytes)
    (hticket : encodeTicket R reply.ticket = .ok ticket) :
    ∃ session, Completes P R request grant seals reply bytes client service session := by
  obtain ⟨rfl, rfl, hnonce⟩ := hrequest
  obtain ⟨sname, hsname, hservice⟩ := hservice
  obtain rfl := Option.some.inj (hsname.symm.trans answers.sname_eq)
  rw [← answers.realm_eq] at hservice
  obtain ⟨session, hsession, hclient', hservice', rfl⟩ :=
    exists_sessionOf answers.consistent issued answers.client_eq hservice hticket
  refine ⟨session, ?_, hclient', hservice', hticket, opened_of_issued hR answers.consistent issued hsession⟩
  refine (processTgsRepInner_issued hR hreplies answers.consistent.isWhole_part issued request false).mpr
    ⟨hsession, ?_, .inl ?_, answers.nonce_eq.trans hnonce.symm⟩
  · exact hclient' ▸ principalMatches_iff.mpr ⟨rfl, rfl⟩
  · exact hservice' ▸ principalMatches_iff.mpr ⟨rfl, rfl⟩

/-- A KDC that reads a service's request for a user can tell the user, and when it answers with a ticket, the service
has evidence. With it the KDC reads the request for another service, whose key is not needed to read it: it opens the
evidence with the key that it sealed it with, and finds the user. When it answers that too, the service has a ticket
of the user for the other service, which opens it and finds the user and the session key that the service has. -/
theorem delegation_completes (P : Primitives) (R : Rasn) (C : DelegationCoders) (hR : R.Lawful)
    (hreplies : RepliesLawful R) (hrequests : RequestsLawful R) (hC : C.Lawful) (serviceTgt : AsRepSession)
    (user : Principal) (options : TgsReqOptions) (timestamp : SystemTime) (cusec : UInt32) (confounder : Bytes)
    (request : BuiltTgsReq)
    (h : buildS4u2selfReqWithConfounder P R C serviceTgt user options timestamp cusec confounder = .ok request) :
    ∃ read, ReadsS4u2self P R C serviceTgt user options timestamp cusec request read ∧
      ∀ grant seals reply bytes ticket, Answers read user grant → seals.replyKey = serviceTgt.sessionKey →
        grant.issue P R .tgs seals = .ok (reply, bytes) → encodeTicket R reply.ticket = .ok ticket →
      ∃ evidence, Completes P R request grant seals reply bytes user serviceTgt.client evidence ∧
        ∀ targetService options' timestamp' cusec' confounder' request',
          buildS4u2proxyReqWithConfounder P R serviceTgt evidence targetService options' timestamp' cusec'
            confounder' = .ok request' →
        ∃ read', ReadsS4u2proxy P R serviceTgt evidence targetService options' timestamp' cusec' request'
            reply.ticket read' ∧
          ∀ grant' seals' reply' bytes' ticket', Answers read' user grant' →
            seals'.replyKey = serviceTgt.sessionKey → grant'.issue P R .tgs seals' = .ok (reply', bytes') →
            encodeTicket R reply'.ticket = .ok ticket' →
          ∃ delegated, Completes P R request' grant' seals' reply' bytes' user targetService delegated := by
  obtain ⟨⟨read, hreads⟩, hclient, hservice, hnonce⟩ := reads_s4u2self hR hrequests hC h
  refine ⟨read, hreads, ?_⟩
  intro grant seals reply bytes ticket answers hkey hissue hticket
  obtain ⟨forUser, hasks⟩ := hreads.asks
  obtain ⟨evidence, hevidence⟩ := exists_completes hR hreplies answers hasks.service
    ⟨hclient, hservice, hnonce.trans hasks.nonce_eq.symm⟩ (issued_of_issue hissue) hticket
  refine ⟨evidence, hevidence, ?_⟩
  intro targetService options' timestamp' cusec' confounder' request' hproxy
  obtain ⟨⟨read', ticket', hreads'⟩, hclient', hservice', hnonce'⟩ := reads_s4u2proxy hR hrequests hproxy
  obtain rfl := Except.ok.inj (hreads'.evidence.symm.trans hevidence.opened.decode_eq)
  refine ⟨read', hreads', ?_⟩
  intro grant' seals' reply' bytes' ticket' answers' hkey' hissue' hticket'
  exact exists_completes hR hreplies answers' hreads'.asks.service
    ⟨hclient'.trans hevidence.client_eq, hservice', hnonce'.trans hreads'.asks.nonce_eq.symm⟩
    (issued_of_issue hissue') hticket'

end Completion

section Delegated

open TokioClient

def derEncTicketPart (part : EncTicketPart) : Bytes :=
  derApplication 3 (derSequence [derContext 0 (derFlags part.flags),
    derContext 1 (derTypedOctets 0 part.key.etype part.key.value), derContext 2 (derString part.crealm),
    derContext 3 (derPrincipalName part.cname),
    derContext 4 (derTypedOctets 0 part.transited.trType part.transited.contents),
    derContext 5 (derTime part.authTime), derContext 7 (derTime part.endTime)])

def derPaForUser (value : PaForUser) : Bytes :=
  derSequence [derContext 0 (derPrincipalName value.userName), derContext 1 (derString value.userRealm),
    derContext 2 (derTypedOctets 0 value.cksum.checksumType value.cksum.checksum),
    derContext 3 (derString value.authPackage)]

/-- The body of a request, with the tickets that it encloses. -/
def derEnclosing (body : KdcReqBody) : Bytes :=
  derSequence ([derContext 0 (derFlags body.kdcOptions)] ++
    body.cname.toList.map (fun cname ↦ derContext 1 (derPrincipalName cname)) ++
    [derContext 2 (derString body.realm)] ++
    body.sname.toList.map (fun sname ↦ derContext 3 (derPrincipalName sname)) ++
    [derContext 5 (derTime body.till), derContext 7 (derInteger body.nonce.toNat),
      derContext 8 (derSequence (body.etype.map fun etype ↦ derInteger etype.toInt))] ++
    body.additionalTickets.toList.map (fun tickets ↦ derContext 11 (derSequence (tickets.map derTicket))))

def derDelegation (request : KdcReq) : Bytes :=
  derApplication 12 (derSequence ([derContext 1 (derInteger request.pvno),
    derContext 2 (derInteger request.msgType)] ++
    request.padata.toList.map (fun padata ↦ derContext 3 (derSequence
      (padata.map fun padata ↦ derTypedOctets 1 padata.paType padata.value))) ++
    [derContext 4 (derEnclosing request.reqBody)]))

/-- The service `alice@A` gets a ticket of `carol@A` to itself, and with that one to `h@A`. -/
def aliceService : Principal := ⟨"A", 1, ["alice"]⟩
def carol : Principal := ⟨"A", 1, ["carol"]⟩
def carolName : PrincipalName := ⟨1, [asBytes "carol"]⟩

def carolEncTicket : EncTicketPart where
  flags := List.replicate 32 false
  key := tgtSessionKey
  crealm := asBytes "A"
  cname := carolName
  transited := ⟨0, []⟩
  authTime := wholeTime 1767225660
  startTime := none
  endTime := wholeTime 1767229260
  renewTill := none
  caddr := none
  authorizationData := none

structure SampleGrant where
  sname : PrincipalName
  serviceKey : EncryptionKey
  usageKey : Bytes
  ticketEncryptionKey : Bytes
  ticketCipher : Bytes
  encryptionKey : Bytes
  cipher : Bytes

namespace SampleGrant

variable (sample : SampleGrant)

def ticket : Ticket := ⟨5, asBytes "A", sample.sname, ⟨23, none, sample.ticketCipher⟩⟩

def encPart : EncKdcRepPart where
  key := tgtSessionKey
  lastReq := []
  nonce := 0x42424242
  keyExpiration := none
  flags := carolEncTicket.flags
  authTime := carolEncTicket.authTime
  startTime := none
  endTime := carolEncTicket.endTime
  renewTill := none
  srealm := asBytes "A"
  sname := sample.sname
  caddr := none
  encryptedPaData := none

def grant : Grant := ⟨none, asBytes "A", carolName, asBytes "A", sample.sname, carolEncTicket, sample.encPart⟩

def seals : Seals := ⟨sample.serviceKey, none, referralConfounder, referralKey, none, referralConfounder⟩

def reply : KdcRep := ⟨5, 13, none, asBytes "A", carolName, sample.ticket, ⟨23, none, sample.cipher⟩⟩

def sealedTicket : Rc4Sealed where
  key := sample.serviceKey.value
  usage := kdcRepTicketUsage
  confounder := referralConfounder
  message := derEncTicketPart carolEncTicket
  usageKey := sample.usageKey
  encryptionKey := sample.ticketEncryptionKey
  cipher := sample.ticketCipher

def sealedEncPart : Rc4Sealed where
  key := referralKey.value
  usage := tgsRepEncpartSessionKeyUsage
  confounder := referralConfounder
  message := derEncTgsRepPart sample.encPart
  usageKey := [0xa1, 0x33, 0xf1, 0x3d, 0x95, 0x76, 0x20, 0x28, 0xb0, 0x45, 0x1f, 0xc2, 0xe5, 0xd6, 0xb1, 0x6d]
  encryptionKey := sample.encryptionKey
  cipher := sample.cipher

def session (service : Principal) : TgsRepSession where
  client := carol
  service := service
  sessionKey := tgtSessionKey
  ticket := derTicket sample.ticket
  ticketFlags := Vector.replicate 4 0
  authTime := minute
  startTime := minute
  endTime := hourLater
  renewTill := none
  keyExpiration := none

theorem consistent : sample.grant.Consistent where
  crealm_eq := rfl
  cname_eq := rfl
  srealm_eq := rfl
  sname_eq := rfl
  key_eq := rfl
  authTime_eq := rfl
  startTime_eq := rfl
  endTime_eq := rfl
  isWhole_ticket := by simp [EncTicketPart.IsWhole, grant, carolEncTicket, KerberosTime.IsWhole, wholeTime]
  isWhole_part := by
    simp [EncKdcRepPart.IsWhole, grant, encPart, carolEncTicket, KerberosTime.IsWhole, wholeTime]

end SampleGrant

def forUserDigest : Bytes :=
  [0xe0, 0x9a, 0xe0, 0x8f, 0xfe, 0x94, 0x8a, 0xa3, 0x29, 0x8f, 0x3f, 0xab, 0xa1, 0x4f, 0x38, 0x5c]

def forUserChecksum : Bytes :=
  [0x51, 0x28, 0x15, 0x28, 0x39, 0x83, 0x51, 0xd4, 0x7a, 0x05, 0x74, 0x40, 0xbf, 0xfa, 0xff, 0x7e]

def carolForUser : PaForUser := ⟨carolName, asBytes "A", ⟨-138, forUserChecksum⟩, asBytes "Kerberos"⟩

def selfBody : KdcReqBody := requestBody "A" aliceName

def selfRequest : SampleRequest where
  ticket := ticketOf "A" (krbtgtName "A")
  body := selfBody
  digest :=
    [0x1b, 0xa2, 0x38, 0x79, 0x40, 0x9f, 0x02, 0x5f, 0x1d, 0x84, 0xb8, 0xa6, 0xf8, 0xa4, 0x4e, 0x2d]
  checksum :=
    [0xc8, 0xb2, 0x80, 0x22, 0x78, 0x64, 0x36, 0x2b, 0xc4, 0x15, 0xa9, 0x43, 0x9a, 0x98, 0xb3, 0x80]
  encryptionKey :=
    [0xe0, 0xb7, 0xc5, 0xcb, 0xa8, 0xfd, 0x52, 0x73, 0x67, 0x49, 0xf8, 0x54, 0x69, 0x50, 0x43, 0x7e]
  cipher :=
    [0xe0, 0xe1, 0xaa, 0xc5, 0x16, 0xf9, 0xcc, 0x1f, 0x8b, 0x90, 0x99, 0xa5, 0x2e, 0x49, 0x1d, 0x18, 0x98,
     0x1b, 0x07, 0xfd, 0x07, 0xb7, 0xff, 0xf9, 0xf0, 0xe2, 0x34, 0x5e, 0xf0, 0x40, 0xce, 0xe6, 0x5b, 0xc3,
     0x8e, 0x35, 0x11, 0xb5, 0x41, 0xfc, 0xba, 0xe7, 0x96, 0x71, 0x36, 0x47, 0x68, 0xb0, 0xfc, 0xcc, 0x86,
     0x4d, 0xdf, 0x1b, 0x4e, 0x94, 0x25, 0xe8, 0xc4, 0x7c, 0x3a, 0x3a, 0x3c, 0x4c, 0xd4, 0x80, 0xfe, 0xe9,
     0xdf, 0xc8, 0x3c, 0xdd, 0xaf, 0xa3, 0x47, 0xa6, 0x66, 0x98, 0x18, 0x12, 0xbe, 0xa0, 0xe7, 0x67, 0x29,
     0x77, 0xbc, 0xaa, 0x48, 0xdf, 0x02, 0xd3, 0xdc, 0x7d, 0xaf, 0x12, 0xc0, 0xdb, 0x25, 0xf0, 0x7f, 0x98,
     0x58, 0x80, 0x24, 0xcf, 0x09, 0xd9, 0xc4, 0x64, 0x2c, 0x01]

def evidenceGrant : SampleGrant where
  sname := aliceName
  serviceKey := ⟨23, List.replicate 16 0x44⟩
  usageKey :=
    [0x59, 0x2e, 0x90, 0xa6, 0xb3, 0x7c, 0x7d, 0xa5, 0x30, 0xcb, 0xf6, 0xc6, 0xff, 0x61, 0x11, 0xa4]
  ticketEncryptionKey :=
    [0xf1, 0xd6, 0x15, 0x59, 0x9b, 0x15, 0xa5, 0xa9, 0x33, 0xf6, 0x34, 0x9e, 0xec, 0xa2, 0xf6, 0x7f]
  ticketCipher :=
    [0x51, 0x7b, 0x52, 0x87, 0x36, 0xd2, 0x05, 0xdd, 0x0b, 0x70, 0xb8, 0x70, 0x65, 0xc8, 0xa9, 0x79, 0xce,
     0x64, 0xbf, 0x6a, 0x20, 0xa8, 0x06, 0x91, 0xce, 0x65, 0x5f, 0x2c, 0xe6, 0xec, 0xd6, 0x7f, 0x9e, 0x59,
     0x5d, 0xc5, 0x2e, 0xba, 0xf4, 0x0c, 0xc7, 0xf8, 0x73, 0xc5, 0xd3, 0x5c, 0x7e, 0x24, 0x2b, 0x16, 0xcc,
     0x09, 0x37, 0xa2, 0x23, 0xb3, 0xf5, 0xee, 0x5a, 0xbb, 0xa0, 0x87, 0xcb, 0x0b, 0x8d, 0xf5, 0x29, 0x97,
     0x66, 0xe4, 0x6c, 0x2d, 0x92, 0xd0, 0x9d, 0x68, 0x00, 0x11, 0xb6, 0x67, 0x4d, 0x35, 0xf4, 0x47, 0x0f,
     0x67, 0xfb, 0x67, 0x7e, 0x81, 0x38, 0x34, 0xb2, 0x93, 0xd5, 0x0b, 0x22, 0x58, 0x22, 0x2d, 0xe2, 0x73,
     0x06, 0x18, 0xe1, 0x0f, 0xa5, 0xaa, 0xd6, 0x91, 0x3e, 0xfa, 0x51, 0xe5, 0x39, 0xed, 0x71, 0x48, 0xd7,
     0xb3, 0x6d, 0xa2, 0x5d, 0x28, 0xf8, 0xfb, 0xc4, 0x51, 0x0c, 0x39, 0xa7, 0x2c, 0x29, 0xfa, 0x7c, 0xc5,
     0x52, 0xe5, 0xb6, 0x22, 0xa8, 0x1d]
  encryptionKey :=
    [0xb9, 0x35, 0x75, 0x5d, 0xa5, 0x43, 0xb2, 0x0a, 0x94, 0xc5, 0x9b, 0xf9, 0xa8, 0x09, 0x92, 0x32]
  cipher :=
    [0x95, 0xf2, 0xba, 0x3f, 0xfa, 0x70, 0x59, 0x6a, 0xe1, 0x06, 0x68, 0xfa, 0x9c, 0x0c, 0x9c, 0xb1, 0xf3,
     0x86, 0x39, 0xbc, 0xa0, 0xa1, 0xe7, 0xaf, 0x75, 0x5e, 0x59, 0xbc, 0xe9, 0xbc, 0xa8, 0xcf, 0xc1, 0x96,
     0x8b, 0xdc, 0xd7, 0xcf, 0x6b, 0x53, 0xcd, 0x79, 0x55, 0x93, 0xa2, 0xd0, 0xae, 0xad, 0x56, 0xcc, 0x3c,
     0xc8, 0xdf, 0x18, 0x54, 0xce, 0x95, 0xa6, 0xbb, 0xbb, 0x41, 0xc2, 0x87, 0x28, 0x98, 0x44, 0x93, 0x7e,
     0xe3, 0xc6, 0xc8, 0xaa, 0xf6, 0x7d, 0x76, 0xbe, 0xf8, 0xcc, 0x02, 0x9d, 0x5f, 0x42, 0xf4, 0xda, 0x8b,
     0x77, 0xc2, 0x18, 0x4e, 0x00, 0x59, 0x49, 0xbe, 0x6d, 0x92, 0x58, 0x5f, 0x5d, 0xb8, 0x58, 0xa3, 0xd2,
     0x58, 0x23, 0xdc, 0xf3, 0x4b, 0x0d, 0xfc, 0xf4, 0x51, 0x01, 0x72, 0x3a, 0x1a, 0x5f, 0xac, 0xea, 0x35,
     0xa4, 0x03, 0x73, 0xff, 0x71, 0xd4, 0x11, 0x63, 0xb5, 0x2c, 0x98, 0xa6, 0x76, 0x99, 0xfe, 0xfc, 0x2f,
     0x25, 0x98, 0x6f, 0x65, 0xd2]

def proxyBody : KdcReqBody :=
  { requestBody "A" hostName with
    kdcOptions := kdcOptionsFromBits kdcOptionCnameInAddlTkt
    additionalTickets := some [evidenceGrant.ticket] }

def proxyRequest : SampleRequest where
  ticket := ticketOf "A" (krbtgtName "A")
  body := proxyBody
  digest :=
    [0x6b, 0x0b, 0x02, 0x62, 0x29, 0xaa, 0xcf, 0xe4, 0x34, 0x50, 0x64, 0xce, 0xc5, 0x6d, 0xfb, 0xa2]
  checksum :=
    [0x26, 0x64, 0xf0, 0x85, 0xc5, 0xec, 0x19, 0x46, 0xa5, 0x18, 0xd0, 0x23, 0x86, 0xca, 0x0f, 0xaa]
  encryptionKey :=
    [0x0c, 0xa8, 0x48, 0x19, 0x7f, 0xe8, 0x3e, 0x03, 0x2e, 0xd1, 0x85, 0x93, 0x4c, 0x3f, 0xb5, 0xc9]
  cipher :=
    [0x70, 0xfd, 0x87, 0xf5, 0xd4, 0xf4, 0x25, 0xd6, 0x02, 0x62, 0xc3, 0x71, 0xdd, 0xe2, 0x09, 0x6e, 0x45,
     0xe6, 0xbb, 0x0e, 0xc1, 0x1d, 0x7b, 0x0d, 0x04, 0x04, 0x3c, 0xab, 0x69, 0x39, 0x63, 0x5e, 0xf8, 0x8f,
     0x77, 0xe8, 0x61, 0x7a, 0xbd, 0xbf, 0x48, 0x43, 0x7d, 0x5b, 0x9c, 0xe6, 0x3b, 0x4e, 0xac, 0x93, 0xf3,
     0xfe, 0xbf, 0x08, 0xe4, 0x11, 0xc4, 0xa9, 0x0c, 0x35, 0xff, 0xf3, 0x8f, 0x91, 0xdd, 0xd8, 0x2e, 0x5f,
     0xf0, 0xa4, 0x83, 0x7d, 0x9d, 0x0d, 0xf5, 0xdf, 0x23, 0x65, 0xb6, 0x97, 0x33, 0xa2, 0xdd, 0x35, 0x75,
     0x5b, 0x9f, 0xf1, 0x92, 0x02, 0xda, 0x9c, 0xd9, 0x6a, 0xc5, 0xa3, 0x7e, 0xfc, 0x49, 0xb0, 0x64, 0x20,
     0x6f, 0xf5, 0xff, 0x21, 0x5f, 0x70, 0x03, 0x4e, 0x5e, 0xe2]

def delegatedGrant : SampleGrant where
  sname := hostName
  serviceKey := ⟨23, List.replicate 16 0x55⟩
  usageKey :=
    [0x91, 0x6e, 0xed, 0xc5, 0x56, 0x96, 0x96, 0xfc, 0x6a, 0x12, 0xa0, 0x80, 0x1d, 0x4f, 0xe4, 0xd7]
  ticketEncryptionKey :=
    [0xa5, 0x0b, 0x1a, 0xf1, 0x90, 0xb4, 0xe9, 0xdf, 0x44, 0xb2, 0x58, 0xfd, 0x53, 0x38, 0x0d, 0xc7]
  ticketCipher :=
    [0x8d, 0xb2, 0x4a, 0xa6, 0xbc, 0xd4, 0xf6, 0xa6, 0x82, 0x17, 0xd1, 0x17, 0xa4, 0xfa, 0x88, 0x9a, 0x89,
     0x59, 0x07, 0x14, 0xc9, 0xc6, 0x51, 0xf4, 0x15, 0x1a, 0x01, 0x24, 0x83, 0xd7, 0xc7, 0xd2, 0x8a, 0xdb,
     0x99, 0x53, 0x7a, 0x38, 0x98, 0x93, 0xcf, 0xd8, 0x9a, 0x67, 0x24, 0x18, 0xf7, 0x9a, 0x34, 0x13, 0xeb,
     0xa8, 0x80, 0xca, 0x11, 0x03, 0x41, 0xed, 0xb6, 0xb3, 0xc4, 0x0f, 0x9e, 0xbb, 0x1c, 0xd4, 0x06, 0x31,
     0x5c, 0x74, 0xf6, 0xd0, 0x26, 0x59, 0xd1, 0x45, 0xf8, 0xd6, 0x5b, 0xf0, 0xff, 0xb2, 0x64, 0xbe, 0x89,
     0xd3, 0x33, 0x92, 0xb8, 0x69, 0x3a, 0x0f, 0x88, 0x21, 0x21, 0x80, 0x4f, 0x6c, 0xb5, 0x8b, 0x3e, 0x5c,
     0xfe, 0xb5, 0x55, 0x0a, 0x8b, 0x3a, 0xde, 0x49, 0xf0, 0x2b, 0xfb, 0xae, 0x7c, 0x32, 0x62, 0x60, 0x89,
     0xf6, 0x9c, 0x74, 0xd2, 0xee, 0x96, 0x38, 0x67, 0x69, 0x0a, 0x7c, 0xba, 0xce, 0x63, 0xe3, 0x20, 0xcf,
     0xd0, 0xfb, 0xc3, 0x09, 0x5b, 0x66]
  encryptionKey :=
    [0x74, 0x81, 0x27, 0xa2, 0x34, 0x11, 0x7c, 0x0b, 0xd4, 0xe3, 0xa3, 0x97, 0x34, 0x98, 0xc2, 0x31]
  cipher :=
    [0x2c, 0x0c, 0xa6, 0x2a, 0x2b, 0xe7, 0xb5, 0xe9, 0x16, 0xca, 0xc3, 0x3f, 0xb5, 0x2a, 0xc6, 0x90, 0xb7,
     0xe9, 0xba, 0x03, 0x3a, 0x58, 0x2a, 0xae, 0x53, 0xea, 0xc2, 0xb4, 0xf2, 0xe5, 0x45, 0xef, 0x42, 0xde,
     0x24, 0xbe, 0x85, 0xfa, 0xef, 0xa4, 0x34, 0xf3, 0xb0, 0xea, 0x65, 0x4c, 0x8d, 0xbe, 0xca, 0xe6, 0x2c,
     0x98, 0x12, 0x7b, 0xee, 0x7b, 0x94, 0x80, 0x49, 0x69, 0x17, 0xff, 0x1a, 0x75, 0x30, 0xd6, 0x85, 0xa0,
     0x3c, 0x3a, 0xc0, 0xb4, 0xb6, 0xa2, 0x98, 0xdb, 0xc0, 0x15, 0xe6, 0xee, 0x9e, 0xbd, 0x5c, 0xde, 0x8b,
     0x13, 0xa9, 0x5b, 0x24, 0x90, 0x9e, 0x39, 0x18, 0xf9, 0xcf, 0x2c, 0x04, 0xc1, 0x98, 0x59, 0xea, 0xa5,
     0xf9, 0xae, 0x14, 0xbc, 0x07, 0xe3, 0xbd, 0x57, 0xb1, 0x7a, 0xf3, 0xcb, 0xf5, 0xc7, 0x2f, 0x6e, 0xa4,
     0x31, 0xef, 0xd0, 0x56, 0xa9, 0x93, 0x9d, 0x1f, 0xc4, 0xdb, 0xaf, 0x7d, 0xa8, 0xbb, 0x07, 0xf4, 0x0a,
     0x98]

def selfMessage : KdcReq :=
  { selfRequest.message with
    padata := some [⟨1, derApReq selfRequest.apReq⟩, ⟨paForUserType, derPaForUser carolForUser⟩] }

def selfBuilt : BuiltTgsReq :=
  { selfRequest.built aliceService "A" with
    message := selfMessage
    der := derDelegation selfMessage
    client := carol }

def proxyBuilt : BuiltTgsReq :=
  { proxyRequest.built hostService "A" with
    der := derDelegation proxyRequest.message
    client := carol }

def carolAnswers : KnownAnswers :=
  let parts := KnownAnswers.ofRc4Sealed [selfRequest.sealedAuthenticator, proxyRequest.sealedAuthenticator,
    evidenceGrant.sealedTicket, evidenceGrant.sealedEncPart, delegatedGrant.sealedTicket,
    delegatedGrant.sealedEncPart]
  { parts with
    hmacMd5 := [((referralKey.value, asBytes "signaturekey" ++ [0]), signingKey),
      ((signingKey, forUserDigest), forUserChecksum), ((signingKey, selfRequest.digest), selfRequest.checksum),
      ((signingKey, proxyRequest.digest), proxyRequest.checksum)] ++ parts.hmacMd5 }

def carolDigests : List (Bytes × Bytes) := [
  (rc4HmacUsageToMsMsgType paForUserChecksumUsage ++ s4uByteArray carol "Kerberos", forUserDigest),
  (rc4HmacUsageToMsMsgType tgsReqAuthenticatorChecksumUsage ++ derEnclosing selfBody, selfRequest.digest),
  (rc4HmacUsageToMsMsgType tgsReqAuthenticatorChecksumUsage ++ derEnclosing proxyBody, proxyRequest.digest)]

def carolPrimitives : Primitives :=
  { Primitives.ofKnownAnswers carolAnswers with
    md5 := fun data ↦ fit 16 ((carolDigests.lookup data).getD [])
    length_md5 := fun _ ↦ length_fit 16 _ }

def carolTable : Rasn.Table where
  apReq := encoded derApReq [selfRequest.apReq, proxyRequest.apReq]
  authenticator := encoded derAuthenticator [selfRequest.authenticator, proxyRequest.authenticator]
  ticket := encoded derTicket [ticketOf "A" (krbtgtName "A"), evidenceGrant.ticket, delegatedGrant.ticket]
  encTicketPart := encoded derEncTicketPart [carolEncTicket]

def carolRasn : Rasn :=
  { Rasn.ofTable carolTable with
    tgsRep := .ofPairs (encoded derTgsRep [evidenceGrant.reply, delegatedGrant.reply])
    encTgsRepPart := .ofPairs (encoded derEncTgsRepPart [evidenceGrant.encPart, delegatedGrant.encPart])
    tgsReq := .ofPairs (encoded derDelegation [selfMessage, proxyRequest.message])
    kdcReqBody := .ofPairs (encoded derEnclosing [selfBody, proxyBody]) }

def carolCoders : DelegationCoders := ⟨.ofPairs (encoded derPaForUser [carolForUser])⟩

theorem carol_isTable : (Coder.IsTable carolTable.apReq ∧ Coder.IsTable carolTable.authenticator ∧
      Coder.IsTable carolTable.ticket ∧ Coder.IsTable carolTable.encTicketPart) ∧
    (Coder.IsTable (encoded derTgsRep [evidenceGrant.reply, delegatedGrant.reply]) ∧
      Coder.IsTable (encoded derEncTgsRepPart [evidenceGrant.encPart, delegatedGrant.encPart])) ∧
    Coder.IsTable (encoded derDelegation [selfMessage, proxyRequest.message]) ∧
      Coder.IsTable (encoded derPaForUser [carolForUser]) := by
  decide +kernel

theorem carolRasn_lawful : carolRasn.Lawful :=
  { Rasn.ofTable_lawful (t := carolTable) carol_isTable.1.1 carol_isTable.1.2.1 carol_isTable.1.2.2.1
      carol_isTable.1.2.2.2 (by decide) (by decide) (by decide) (by decide) with
    encTgsRepPart := Coder.IsTable.lawful carol_isTable.2.1.2 _
    encAsRepPart_rejects := fun _ ↦ ⟨_, rfl⟩ }

theorem carolRasn_replies : RepliesLawful carolRasn where
  asRep := Coder.isTable_nil.lawful _
  tgsRep := Coder.IsTable.lawful carol_isTable.2.1.1 _
  krbError_rejects _ := ⟨_, rfl⟩

theorem carolRasn_requests : RequestsLawful carolRasn := ⟨Coder.IsTable.lawful carol_isTable.2.2.1 _⟩

theorem carolCoders_lawful : carolCoders.Lawful :=
  ⟨Coder.IsTable.lawful carol_isTable.2.2.2 _⟩

/-- Both requests, as Alice builds them and as the KDC reads them. -/
theorem carol_requests :
    (buildS4u2selfReqWithConfounder carolPrimitives carolRasn carolCoders (krbtgtSession "A" "A" hourLater) carol
        requestOptions minute 0 referralConfounder = .ok selfBuilt ∧
      readTgsReq carolPrimitives carolRasn selfBuilt.der referralKey =
        .ok ⟨selfMessage, selfRequest.apReq, selfRequest.authenticator⟩) ∧
    buildS4u2proxyReqWithConfounder carolPrimitives carolRasn (krbtgtSession "A" "A" hourLater)
        (evidenceGrant.session aliceService) hostService requestOptions minute 0 referralConfounder = .ok proxyBuilt ∧
      readTgsReq carolPrimitives carolRasn proxyBuilt.der referralKey =
        .ok ⟨proxyRequest.message, proxyRequest.apReq, proxyRequest.authenticator⟩ := by
  decide +kernel

/-- Both answers, as the KDC makes them, and what Alice makes of the first one. -/
theorem carol_replies :
    (evidenceGrant.grant.issue carolPrimitives carolRasn .tgs evidenceGrant.seals =
        .ok (evidenceGrant.reply, derTgsRep evidenceGrant.reply) ∧
      encodeTicket carolRasn evidenceGrant.ticket = .ok (derTicket evidenceGrant.ticket) ∧
      processTgsRep carolPrimitives carolRasn selfBuilt (derTgsRep evidenceGrant.reply) referralKey =
        .ok (evidenceGrant.session aliceService)) ∧
    delegatedGrant.grant.issue carolPrimitives carolRasn .tgs delegatedGrant.seals =
        .ok (delegatedGrant.reply, derTgsRep delegatedGrant.reply) ∧
      encodeTicket carolRasn delegatedGrant.ticket = .ok (derTicket delegatedGrant.ticket) := by
  decide +kernel

/-- Alice ends with a ticket of Carol's for the host, which the host can open. -/
theorem delegation_completes_carol : ∃ evidence delegated,
    Completes carolPrimitives carolRasn selfBuilt evidenceGrant.grant evidenceGrant.seals evidenceGrant.reply
      (derTgsRep evidenceGrant.reply) carol aliceService evidence ∧
    Completes carolPrimitives carolRasn proxyBuilt delegatedGrant.grant delegatedGrant.seals delegatedGrant.reply
      (derTgsRep delegatedGrant.reply) carol hostService delegated := by
  obtain ⟨⟨hself, hselfRead⟩, hproxy, hproxyRead⟩ := carol_requests
  obtain ⟨⟨hissue, hticket, haccepted⟩, hissue', hticket'⟩ := carol_replies
  obtain ⟨read, hreads, hanswered⟩ := delegation_completes carolPrimitives carolRasn carolCoders carolRasn_lawful
    carolRasn_replies carolRasn_requests carolCoders_lawful (krbtgtSession "A" "A" hourLater) carol requestOptions
    minute 0 referralConfounder selfBuilt hself
  obtain ⟨-, rfl⟩ := (hreads.read_iff _).mp hselfRead
  obtain ⟨evidence, hevidence, hasked⟩ := hanswered evidenceGrant.grant evidenceGrant.seals evidenceGrant.reply _ _
    ⟨evidenceGrant.consistent, by decide, rfl, rfl, rfl⟩ rfl hissue hticket
  obtain rfl := Except.ok.inj (hevidence.accepted.symm.trans haccepted)
  obtain ⟨read', hreads', hanswered'⟩ := hasked hostService requestOptions minute 0 referralConfounder proxyBuilt
    hproxy
  obtain ⟨-, rfl⟩ := (hreads'.read_iff _).mp hproxyRead
  obtain ⟨delegated, hdelegated⟩ := hanswered' delegatedGrant.grant delegatedGrant.seals delegatedGrant.reply _ _
    ⟨delegatedGrant.consistent, by decide, rfl, rfl, rfl⟩ rfl hissue' hticket'
  exact ⟨_, delegated, hevidence, hdelegated⟩

end Delegated

end Kdc

end Rskrb5
