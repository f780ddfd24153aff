import Rskrb5.Client.Sessions
import Rskrb5.EncParts.Exact
import Rskrb5.Spnego.Der

namespace Rskrb5.Client

open Lib.Results Lib.Programs Crypto EncParts

variable (P : Primitives) (R : Rasn)

section Renewals

/-- The requests that a session can be used to build. -/
inductive BuiltFrom (session : AsRepSession) (request : BuiltTgsReq) : Prop
  | forRealm (kdcRealm : String) (service : Principal) (options : TgsReqOptions) (timestamp : SystemTime)
    (cusec : UInt32) (confounder : Bytes) (h : buildTgsReqForRealmWithConfounder P R session kdcRealm service
      options timestamp cusec confounder = .ok request)
  | tgtRenewal (options : TgsReqOptions) (timestamp : SystemTime) (cusec : UInt32) (confounder : Bytes)
    (h : buildTgtRenewalReqWithConfounder P R session options timestamp cusec confounder = .ok request)
  | ticketRenewal (options : TgsReqOptions) (timestamp : SystemTime) (cusec : UInt32) (confounder : Bytes)
    (h : buildTicketRenewalReqWithConfounder P R session options timestamp cusec confounder = .ok request)
  | tgtRenewalNow {ω : Type} (W : World ω) (w : ω) (options : TgsReqOptions)
    (h : ((buildTgtRenewalReq W P R session options).exec w).1 = .ok request)
  | ticketRenewalNow {ω : Type} (W : World ω) (w : ω) (options : TgsReqOptions)
    (h : ((buildTicketRenewalReq W P R session options).exec w).1 = .ok request)

variable {P R} {session : AsRepSession} {request : BuiltTgsReq}

/-- The renewals, and the requests that take the time and a confounder from the world, come to the
same builder. -/
theorem BuiltFrom.exists_forRealm (h : BuiltFrom P R session request) :
    ∃ kdcRealm service options timestamp cusec confounder, buildTgsReqForRealmWithConfounder P R session
      kdcRealm service options timestamp cusec confounder = .ok request := by
  have hnow : ∀ {ω : Type} (W : World ω) (kdcRealm : String) (service : Principal) (options : TgsReqOptions),
      Returns (buildTgsReqForRealm W P R session kdcRealm service options) fun request ↦
        ∃ kdcRealm service options timestamp cusec confounder, buildTgsReqForRealmWithConfounder P R session
          kdcRealm service options timestamp cusec confounder = .ok request :=
    fun W kdcRealm service options ↦ .seq fun time ↦ .seq fun confounder ↦ .lift fun request h ↦
      ⟨kdcRealm, service, options, time.1, time.2, confounder, h⟩
  cases h with
  | forRealm kdcRealm service options timestamp cusec confounder h =>
    exact ⟨kdcRealm, service, options, timestamp, cusec, confounder, h⟩
  | tgtRenewal options timestamp cusec confounder h =>
    obtain ⟨realm, -, h⟩ := bind_eq_ok.mp h
    exact ⟨realm, tgtService realm, options.withRenewal, timestamp, cusec, confounder, h⟩
  | ticketRenewal options timestamp cusec confounder h =>
    exact ⟨session.service.realm, session.service, options.withRenewal, timestamp, cusec, confounder, h⟩
  | tgtRenewalNow W w options h =>
    have hreturns : Returns (buildTgtRenewalReq W P R session options) _ := .seq fun realm ↦ hnow W realm _ _
    exact hreturns.of_exec h
  | ticketRenewalNow W w options h => exact (hnow W _ _ _).of_exec h

end Renewals

section Authenticators

/-- What the KDC finds in a request: the authenticator of the AP-REQ among its padata. -/
def sentAuthenticator (request : BuiltTgsReq) (key : EncryptionKey) : Except EncPartError Authenticator := do
  let padata ← okOr ((request.message.padata.getD []).find? fun padata ↦ padata.paType = paTgsReq)
    (.decode "PA-TGS-REQ" "missing")
  let apReq ← decodeApReq R padata.value
  decryptApReqAuthenticator P R apReq key tgsReqAuthenticatorUsage

/-- A request with its authenticator as it was before it was encrypted. -/
structure SentTgsReq (session : AsRepSession) (request : BuiltTgsReq) where
  ticket : Ticket
  authenticator : Authenticator
  apReq : ApReq
  kvno : Option UInt32
  confounder : Bytes
  padata : PaData
  ticket_eq : decodeTicket R session.ticket = .ok ticket
  crealm_eq : authenticator.crealm = ticket.realm
  cname_eq : principalToRasn R session.client = .ok authenticator.cname
  isWhole : authenticator.IsWhole
  apReq_eq : Rskrb5.buildApReqWithConfounder P R ticket (apOptionsFromBits 0) authenticator
    session.sessionKey tgsReqAuthenticatorUsage kvno confounder = .ok apReq
  value_eq : encodeApReq R apReq = .ok padata.value
  padata_eq : (request.message.padata.getD []).find? (fun padata ↦ padata.paType = paTgsReq) = some padata

variable {P R} {session : AsRepSession} {request : BuiltTgsReq}

theorem BuiltFrom.exists_sent (h : BuiltFrom P R session request) :
    Nonempty (SentTgsReq P R session request) := by
  obtain ⟨kdcRealm, service, options, timestamp, cusec, confounder, h⟩ := h.exists_forRealm
  simp only [buildTgsReqForRealmWithConfounder, checkedKerberosTime, bind_eq_ok, mapError_eq_ok, okOr_eq_ok,
    pure_eq_ok, Except.ok.injEq] at h
  obtain ⟨_, -, ticket, hticket, _, -, _, -, cname, hcname, reqBody, -, _, -, etype, -, checksum, -, ctime, hctime,
    apReq, hapReq, value, hvalue, _, -, rfl⟩ := h
  refine ⟨⟨ticket, _, apReq, _, confounder, ⟨paTgsReq, value⟩, hticket, ?_, hcname, ?_, hapReq, hvalue, rfl⟩⟩
  · rfl
  · exact (truncatedKerberosTime_eq_some hctime).1

theorem SentTgsReq.sentAuthenticator_eq (sent : SentTgsReq P R session request) (hR : R.Lawful) :
    sentAuthenticator P R request session.sessionKey = .ok sent.authenticator := by
  obtain ⟨d, data, hd, hdata, hm⟩ := buildApReqWithConfounder_eq_ok P R sent.apReq_eq
  obtain ⟨etype, he, -, -, -⟩ := (encryptData_eq_ok P).mp hdata
  have hdecode : decodeApReq R sent.padata.value = .ok sent.apReq := by
    have hapReq := hR.apReq.decode_encode trivial (mapError_eq_ok.mp sent.value_eq)
    simp only [decodeApReq, decode, hapReq, Except.mapError, ok_bind, validateApReqMessage, validateInteger, hm]
    rfl
  have hdecrypt := PartKind.decrypt_of_built P (k := .authenticator tgsReqAuthenticatorUsage) hR (by rfl)
    sent.isWhole (hR.authenticator.isDefinite hd) hd he ⟨_, _, sent.apReq_eq⟩
  rw [sentAuthenticator, sent.padata_eq]
  change (decodeApReq R sent.padata.value >>= _) = _
  rw [hdecode, ok_bind]
  exact hdecrypt

theorem principalFromParts_of_principalToRasn {client : Principal} {cname : PrincipalName}
    (h : principalToRasn R client = .ok cname) (crealm : Realm) :
    principalFromParts crealm cname = (fromUtf8 crealm).map fun realm ↦ { client with realm } := by
  obtain ⟨string, hstring, hname⟩ := bind_eq_ok.mp (mapError_eq_ok.mp h)
  obtain rfl := Except.ok.inj hname
  rw [principalFromParts, kerberosStringToString]
  cases fromUtf8 crealm with
  | none => rfl
  | some realm =>
    change (string.mapM kerberosStringToString >>= _) = _
    rw [mapM_kerberosString hstring]
    rfl

theorem principalFromParts_principalToRasn {client : Principal} {cname : PrincipalName} {crealm : Realm}
    {realm : String} (h : principalToRasn R client = .ok cname) (hrealm : fromUtf8 crealm = some realm) :
    principalFromParts crealm cname = some { client with realm } := by
  rw [principalFromParts_of_principalToRasn h, hrealm]
  rfl

/-- The authenticator of a request names the session's client exactly when the ticket of the session
is from the client's own realm: its realm stands where the client's should. -/
theorem authenticator_names_client_iff (hR : R.Lawful) {ticket : Ticket}
    (hbuilt : BuiltFrom P R session request) (hticket : decodeTicket R session.ticket = .ok ticket) :
    (∃ authenticator client, sentAuthenticator P R request session.sessionKey = .ok authenticator ∧
      principalFromParts authenticator.crealm authenticator.cname = some client ∧
      client.realm = session.client.realm ∧ client.components = session.client.components) ↔
    ticket.realm = asBytes session.client.realm := by
  obtain ⟨sent⟩ := hbuilt.exists_sent
  obtain rfl := Except.ok.inj (hticket.symm.trans sent.ticket_eq)
  have hsent := sent.sentAuthenticator_eq hR
  constructor
  · intro h
    obtain ⟨authenticator, client, ha, hclient, hr, -⟩ := h
    obtain rfl := Except.ok.inj (hsent.symm.trans ha)
    rw [sent.crealm_eq] at hclient
    obtain ⟨realm, hrealm, h⟩ := Option.bind_eq_some_iff.mp hclient
    obtain ⟨_, -, h⟩ := Option.bind_eq_some_iff.mp h
    obtain rfl := Option.some.inj h
    rw [← hr, asBytes_of_fromUtf8 hrealm]
  · intro h
    have hrealm : fromUtf8 sent.authenticator.crealm = some session.client.realm := by
      rw [sent.crealm_eq, h, fromUtf8_asBytes]
    exact ⟨sent.authenticator, _, hsent, principalFromParts_principalToRasn sent.cname_eq hrealm, rfl, rfl⟩

end Authenticators

section Encodings

open Spnego

def derContext (n : UInt8) (value : Bytes) : Bytes := encodeTlv (0xa0 ||| n) value

def derApplication (n : UInt8) (value : Bytes) : Bytes := encodeTlv (0x60 ||| n) value

def derSequence (values : List Bytes) : Bytes := encodeTlv tagSequence values.flatten

def derString (value : KerberosString) : Bytes := encodeTlv 0x1b value

def derOctets (value : Bytes) : Bytes := encodeTlv tagOctetString value

def derFlags (flags : KerberosFlags) : Bytes :=
  encodeTlv tagBitString (0 :: (ticketFlagsToBytes flags).toList)

def derInteger (n : ℤ) : Bytes :=
  let last := ((List.range 5).find? fun k ↦ -2 ^ (8 * k + 7) ≤ n ∧ n < 2 ^ (8 * k + 7)).getD 4
  encodeTlv 0x02 ((List.range (last + 1)).reverse.map fun k ↦ UInt8.ofNat (n / 2 ^ (8 * k) % 256).toNat)

/-- A time on the first day of 2026. -/
def derTime (time : KerberosTime) : Bytes :=
  let seconds := (time.seconds % 86400).toNat
  let digits (n : ℕ) : Bytes := [UInt8.ofNat (0x30 + n / 10), UInt8.ofNat (0x30 + n % 10)]
  encodeTlv 0x18 (asBytes "20260101" ++ digits (seconds / 3600) ++ digits (seconds / 60 % 60) ++
    digits (seconds % 60) ++ asBytes "Z")

def derPrincipalName (name : PrincipalName) : Bytes :=
  derSequence [derContext 0 (derInteger name.nameType.toInt),
    derContext 1 (derSequence (name.string.map derString))]

/-- Encrypted data without a key version, as are the messages below without their optional fields. -/
def derEncryptedData (data : EncryptedData) : Bytes :=
  derSequence [derContext 0 (derInteger data.etype.toInt), derContext 2 (derOctets data.cipher)]

def derTicket (ticket : Ticket) : Bytes :=
  derApplication 1 (derSequence [derContext 0 (derInteger ticket.tktVno), derContext 1 (derString ticket.realm),
    derContext 2 (derPrincipalName ticket.sname), derContext 3 (derEncryptedData ticket.encPart)])

def derTypedOctets (tag : UInt8) (type : Int32) (value : Bytes) : Bytes :=
  derSequence [derContext tag (derInteger type.toInt), derContext (tag + 1) (derOctets value)]

def derAuthenticator (authenticator : Authenticator) : Bytes :=
  derApplication 2 (derSequence ([derContext 0 (derInteger authenticator.authenticatorVno),
    derContext 1 (derString authenticator.crealm), derContext 2 (derPrincipalName authenticator.cname)] ++
    authenticator.cksum.toList.map
      (fun cksum ↦ derContext 3 (derTypedOctets 0 cksum.checksumType cksum.checksum)) ++
    [derContext 4 (derInteger authenticator.cusec), derContext 5 (derTime authenticator.ctime)]))

def derApReq (apReq : ApReq) : Bytes :=
  derApplication 14 (derSequence [derContext 0 (derInteger apReq.pvno), derContext 1 (derInteger apReq.msgType),
    derContext 2 (derFlags apReq.apOptions), derContext 3 (derTicket apReq.ticket),
    derContext 4 (derEncryptedData apReq.authenticator)])

def derKdcReqBody (body : KdcReqBody) : Bytes :=
  derSequence ([derContext 0 (derFlags body.kdcOptions)] ++
    body.cname.toList.map (fun cname ↦ derContext 1 (derPrincipalName cname)) ++
    [derContext 2 (derString body.realm)] ++
    body.sname.toList.map (fun sname ↦ derContext 3 (derPrincipalName sname)) ++
    [derContext 5 (derTime body.till), derContext 7 (derInteger body.nonce.toNat),
      derContext 8 (derSequence (body.etype.map fun etype ↦ derInteger etype.toInt))])

def derTgsReq (request : KdcReq) : Bytes :=
  derApplication 12 (derSequence ([derContext 1 (derInteger request.pvno),
    derContext 2 (derInteger request.msgType)] ++
    request.padata.toList.map (fun padata ↦ derContext 3 (derSequence
      (padata.map fun padata ↦ derTypedOctets 1 padata.paType padata.value))) ++
    [derContext 4 (derKdcReqBody request.reqBody)]))

def derTgsRep (reply : KdcRep) : Bytes :=
  derApplication 13 (derSequence [derContext 0 (derInteger reply.pvno), derContext 1 (derInteger reply.msgType),
    derContext 3 (derString reply.crealm), derContext 4 (derPrincipalName reply.cname),
    derContext 5 (derTicket reply.ticket), derContext 6 (derEncryptedData reply.encPart)])

def derEncTgsRepPart (part : EncKdcRepPart) : Bytes :=
  derApplication 26 (derSequence [derContext 0 (derTypedOctets 0 part.key.etype part.key.value),
    derContext 1 (derSequence []), derContext 2 (derInteger part.nonce.toNat), derContext 4 (derFlags part.flags),
    derContext 5 (derTime part.authTime), derContext 7 (derTime part.endTime),
    derContext 9 (derString part.srealm), derContext 10 (derPrincipalName part.sname)])

end Encodings

section Referred

open TokioClient

/-- `alice@A` asks for `h@A` and is sent to the KDC of B and back: the requests that she makes with
the TGTs that she has on the way, and the answers. -/
def referralKey : EncryptionKey := ⟨23, List.replicate 16 0x22⟩
def referralConfounder : Bytes := List.replicate 8 0x42
def twoHoursLater : SystemTime := systemTimeFromU32Seconds 1767232860

def ticketOf (realm : String) (sname : PrincipalName) : Ticket := ⟨5, asBytes realm, sname, ⟨23, none, [0]⟩⟩

def krbtgtName (target : String) : PrincipalName := ⟨2, [asBytes "krbtgt", asBytes target]⟩
def hostName : PrincipalName := ⟨1, [asBytes "h"]⟩
def aliceName : PrincipalName := ⟨1, [asBytes "alice"]⟩
def hostService : Principal := ⟨"A", 1, ["h"]⟩

def krbtgtSession (realm target : String) (endTime : SystemTime) : AsRepSession where
  client := ⟨"A", 1, ["alice"]⟩
  service := ⟨realm, 2, ["krbtgt", target]⟩
  sessionKey := referralKey
  ticket := derTicket (ticketOf realm (krbtgtName target))
  ticketFlags := Vector.replicate 4 0
  authTime := minute
  startTime := minute
  endTime := endTime
  renewTill := none
  keyExpiration := none

def requestOptions : TgsReqOptions := .fromLibdefaults minute 0x42424242 bareConfig.libdefaults

def requestBody (realm : String) (sname : PrincipalName) : KdcReqBody where
  kdcOptions := List.replicate 32 false
  cname := some aliceName
  realm := asBytes realm
  sname := some sname
  from_ := none
  till := wholeTime 1767225660
  rtime := none
  nonce := 0x42424242
  etype := [23]
  addresses := none
  encAuthorizationData := none
  additionalTickets := none

structure SampleRequest where
  ticket : Ticket
  body : KdcReqBody
  digest : Bytes
  checksum : Bytes
  encryptionKey : Bytes
  cipher : Bytes

namespace SampleRequest

variable (sample : SampleRequest)

def authenticator : Authenticator where
  authenticatorVno := 5
  crealm := sample.ticket.realm
  cname := aliceName
  cksum := some ⟨-138, sample.checksum⟩
  cusec := 0
  ctime := wholeTime 1767225660
  subkey := none
  seqNumber := none
  authorizationData := none

def apReq : ApReq := ⟨5, 14, List.replicate 32 false, sample.ticket, ⟨23, none, sample.cipher⟩⟩

def message : KdcReq := ⟨5, 12, some [⟨1, derApReq sample.apReq⟩], sample.body⟩

def sealedAuthenticator : Rc4Sealed where
  key := referralKey.value
  usage := tgsReqAuthenticatorUsage
  confounder := referralConfounder
  message := derAuthenticator sample.authenticator
  usageKey := [0x8e, 0x6b, 0x3d, 0x1b, 0x11, 0x0f, 0x52, 0x26, 0x80, 0x68, 0x3c, 0x4b, 0x8c, 0x95, 0xb6, 0xa5]
  encryptionKey := sample.encryptionKey
  cipher := sample.cipher

end SampleRequest

structure SampleReply where
  realm : String
  sname : PrincipalName
  endTime : UInt32
  encryptionKey : Bytes
  cipher : Bytes

namespace SampleReply

variable (sample : SampleReply)

def message : KdcRep :=
  ⟨5, 13, none, asBytes "A", aliceName, ticketOf sample.realm sample.sname, ⟨23, none, sample.cipher⟩⟩

def encPart : EncKdcRepPart where
  key := referralKey
  lastReq := []
  nonce := 0x42424242
  keyExpiration := none
  flags := List.replicate 32 false
  authTime := wholeTime 1767225660
  startTime := none
  endTime := wholeTime sample.endTime
  renewTill := none
  srealm := asBytes sample.realm
  sname := sample.sname
  caddr := none
  encryptedPaData := none

def sealedEncPart : Rc4Sealed where
  key := referralKey.value
  usage := EncParts.tgsRepEncpartSessionKeyUsage
  confounder := referralConfounder
  message := derEncTgsRepPart sample.encPart
  usageKey := [0xa1, 0x33, 0xf1, 0x3d, 0x95, 0x76, 0x20, 0x28, 0xb0, 0x45, 0x1f, 0xc2, 0xe5, 0xd6, 0xb1, 0x6d]
  encryptionKey := sample.encryptionKey
  cipher := sample.cipher

end SampleReply

def ownRequest : SampleRequest where
  ticket := ticketOf "A" (krbtgtName "A")
  body := requestBody "A" hostName
  digest := [0x57, 0x33, 0x3d, 0x71, 0xb9, 0xb3, 0x3f, 0xd6, 0xd4, 0x58, 0x41, 0x6e, 0xd3, 0xbe, 0xf3, 0x13]
  checksum :=
    [0xa3, 0xc8, 0x60, 0x72, 0x8b, 0x72, 0xb8, 0xe8, 0xa9, 0x55, 0x3e, 0x21, 0x97, 0x10, 0x80, 0xed]
  encryptionKey :=
    [0x9e, 0x75, 0xe8, 0x46, 0xbf, 0x1d, 0x82, 0x31, 0x64, 0xd5, 0xec, 0x07, 0xa9, 0x4c, 0xc6, 0xf4]
  cipher :=
    [0x53, 0xeb, 0x73, 0x38, 0xbe, 0x74, 0x3b, 0xa8, 0x8f, 0xdb, 0x1d, 0xc3, 0xbe, 0xf2, 0x13, 0xbf,
     0x28, 0xaa, 0xef, 0x2d, 0x07, 0x3c, 0x84, 0xb9, 0xd1, 0x7a, 0xcb, 0x9b, 0x40, 0xd8, 0x79, 0x82,
     0xa7, 0xed, 0xa3, 0x4c, 0x9a, 0xaf, 0x40, 0x16, 0x02, 0xd7, 0x18, 0x1e, 0x18, 0xce, 0xd0, 0xb8,
     0xac, 0xd2, 0x95, 0xd2, 0x02, 0x2e, 0xb1, 0x82, 0x0b, 0x2c, 0x11, 0x3e, 0xd6, 0x3e, 0x63, 0x75,
     0xb7, 0x16, 0x7f, 0xa2, 0x7f, 0xa8, 0xac, 0xae, 0x5a, 0xa4, 0xa1, 0x3e, 0xcd, 0x26, 0x00, 0x15,
     0x6d, 0x8d, 0xcc, 0x5e, 0xf6, 0xd4, 0xea, 0x9b, 0xfb, 0x49, 0x84, 0x42, 0xdc, 0xf8, 0x2f, 0x42,
     0x3c, 0x37, 0x58, 0xd4, 0x07, 0xf9, 0xdb, 0xd7, 0xa9, 0x77, 0xd2, 0x08, 0xc1, 0xd0, 0xf0, 0x55]

def crossRequest : SampleRequest where
  ticket := ticketOf "A" (krbtgtName "B")
  body := requestBody "B" (krbtgtName "A")
  digest := [0x5c, 0x93, 0x79, 0xac, 0xe3, 0x6a, 0x04, 0xa2, 0x33, 0xf8, 0x84, 0x2e, 0x57, 0xfd, 0x6a, 0xff]
  checksum :=
    [0xd3, 0xfb, 0x84, 0x19, 0xf7, 0x6d, 0x6e, 0xa7, 0x62, 0x63, 0xe5, 0x88, 0x9a, 0x1d, 0x27, 0x2c]
  encryptionKey :=
    [0xa4, 0x79, 0xac, 0x31, 0x04, 0x22, 0x80, 0x11, 0xa4, 0x97, 0x25, 0x47, 0xea, 0x0b, 0x80, 0x45]
  cipher :=
    [0xd3, 0x06, 0xb3, 0xf9, 0xf9, 0x5f, 0x90, 0xde, 0x84, 0x49, 0x8c, 0xbb, 0x38, 0x1f, 0xcc, 0x96,
     0x67, 0x9c, 0xfd, 0x9d, 0x30, 0x87, 0x4d, 0xd5, 0x12, 0xed, 0x15, 0xae, 0xf1, 0xbb, 0x75, 0x65,
     0x30, 0x40, 0x85, 0x60, 0x59, 0x05, 0x90, 0x38, 0xfa, 0xe2, 0xef, 0x71, 0xb0, 0xca, 0x9b, 0x1d,
     0xc3, 0x90, 0x2c, 0x5a, 0x08, 0x4e, 0x2a, 0xe8, 0xcc, 0xfb, 0x73, 0x93, 0xce, 0x0f, 0xc2, 0x21,
     0x1f, 0xa2, 0xa9, 0x11, 0x68, 0x75, 0x2d, 0xa2, 0x62, 0x0f, 0xaa, 0x1c, 0x1a, 0xc0, 0xd4, 0xbb,
     0x81, 0xfb, 0x00, 0x8f, 0xa5, 0x5d, 0x1e, 0x91, 0xe8, 0xd5, 0xf2, 0x7a, 0x4d, 0x31, 0x07, 0x5a,
     0x03, 0x6a, 0xb5, 0x0c, 0xc4, 0x72, 0xc9, 0x7d, 0xa9, 0xd5, 0xcc, 0x50, 0x98, 0x45, 0x12, 0xe5]

def backRequest : SampleRequest where
  ticket := ticketOf "B" (krbtgtName "A")
  body := requestBody "A" hostName
  digest := [0x57, 0x33, 0x3d, 0x71, 0xb9, 0xb3, 0x3f, 0xd6, 0xd4, 0x58, 0x41, 0x6e, 0xd3, 0xbe, 0xf3, 0x13]
  checksum :=
    [0xa3, 0xc8, 0x60, 0x72, 0x8b, 0x72, 0xb8, 0xe8, 0xa9, 0x55, 0x3e, 0x21, 0x97, 0x10, 0x80, 0xed]
  encryptionKey :=
    [0x99, 0xa5, 0x49, 0xdd, 0xb7, 0xe2, 0xdc, 0xd2, 0x10, 0xb3, 0x30, 0xd3, 0xb2, 0x23, 0xd5, 0xb4]
  cipher :=
    [0x27, 0x80, 0xcb, 0x7b, 0xe8, 0xd9, 0xe0, 0xd0, 0x7c, 0xce, 0xfb, 0xb7, 0x44, 0x57, 0x32, 0x21,
     0x9a, 0x23, 0x43, 0x39, 0x4d, 0xa4, 0x13, 0x53, 0x87, 0x74, 0x9f, 0x07, 0x74, 0x75, 0xb5, 0x1d,
     0xbc, 0xa2, 0x0c, 0x35, 0xbf, 0x8b, 0x23, 0x17, 0x31, 0x7d, 0x75, 0xe7, 0x9a, 0x47, 0x1f, 0xc4,
     0xf4, 0xa1, 0x79, 0xd3, 0x85, 0x0c, 0xe3, 0x04, 0x65, 0xc0, 0xb9, 0xd0, 0xe0, 0x38, 0x6b, 0x2b,
     0x44, 0x43, 0x51, 0x70, 0xcd, 0xff, 0xa5, 0xa1, 0xf0, 0x2c, 0x8e, 0xe4, 0x21, 0xd4, 0x9a, 0xeb,
     0xc6, 0xc6, 0x11, 0x39, 0xda, 0x25, 0xc5, 0xf1, 0x62, 0xb9, 0xa0, 0xae, 0x4a, 0x28, 0x01, 0x7d,
     0xd6, 0x10, 0xde, 0x4e, 0x58, 0xd0, 0x05, 0x8f, 0x0d, 0xda, 0x6e, 0x2d, 0x4c, 0x40, 0xc1, 0x4f]

def crossReply : SampleReply where
  realm := "A"
  sname := krbtgtName "B"
  endTime := 1767229260
  encryptionKey :=
    [0x7d, 0xbb, 0x1e, 0x02, 0xbc, 0x6f, 0x79, 0x4e, 0xc6, 0x58, 0xb4, 0x0c, 0xd5, 0xa1, 0x93, 0x5a]
  cipher :=
    [0xd9, 0x49, 0xac, 0x45, 0xf7, 0xe9, 0xb6, 0xc9, 0x7d, 0xd3, 0xdf, 0xe8, 0xeb, 0x75, 0xbf, 0x9a,
     0x74, 0x86, 0xa1, 0x05, 0xb9, 0x09, 0x52, 0xa8, 0x34, 0x73, 0x5e, 0x04, 0x35, 0xd0, 0x1c, 0x69,
     0x0f, 0x5d, 0xb2, 0x2a, 0xc9, 0x29, 0x16, 0x1e, 0xf4, 0x29, 0xa7, 0x8e, 0xfb, 0x42, 0x8b, 0x5d,
     0xe2, 0x60, 0x2c, 0xcf, 0x4d, 0x3f, 0x6e, 0x78, 0x10, 0x00, 0x44, 0xb8, 0xe3, 0xbe, 0x53, 0x49,
     0x06, 0x45, 0x0b, 0x73, 0xf1, 0x3f, 0xa9, 0x03, 0xa6, 0x39, 0x44, 0x20, 0x5c, 0xbd, 0x70, 0x1f,
     0x56, 0xae, 0x66, 0x72, 0xcc, 0x77, 0x22, 0xb4, 0xa6, 0x14, 0xea, 0x11, 0x9d, 0x9b, 0x57, 0x72,
     0x70, 0xdf, 0xd7, 0x34, 0xe6, 0x4a, 0x0f, 0x09, 0xaf, 0x8c, 0x35, 0xf3, 0xa8, 0x8c, 0xbe, 0x59,
     0xe4, 0x4f, 0x72, 0xa5, 0x9d, 0x4f, 0x60, 0x9b, 0xe5, 0xd9, 0x88, 0xc9, 0x2b, 0xf0, 0x72, 0xed,
     0xc9, 0xc8, 0x64, 0xf8, 0x77, 0x9d, 0x7d, 0xb1, 0x9c, 0xb5, 0x98, 0xc0, 0xed, 0xf3, 0xb8, 0x17,
     0x5f]

def backReply : SampleReply where
  realm := "B"
  sname := krbtgtName "A"
  endTime := 1767232860
  encryptionKey :=
    [0x3a, 0x6b, 0x2a, 0xab, 0x35, 0x59, 0x37, 0x98, 0xed, 0x67, 0x02, 0x0c, 0xef, 0xf8, 0x56, 0x38]
  cipher :=
    [0x6f, 0x8c, 0xb9, 0xbc, 0x6b, 0xde, 0x30, 0xa8, 0x9e, 0x0b, 0x8a, 0x2e, 0xdd, 0x0c, 0xf0, 0xe0,
     0x7a, 0xb5, 0x21, 0x6f, 0xc3, 0xa9, 0x16, 0x46, 0x15, 0xe7, 0x2e, 0x97, 0x44, 0x16, 0x47, 0xba,
     0x72, 0x5a, 0xfc, 0xc8, 0x08, 0xb0, 0x24, 0xe8, 0x54, 0x96, 0x0d, 0xff, 0x78, 0x48, 0xd3, 0x0c,
     0xab, 0xf1, 0xa5, 0x24, 0x68, 0x77, 0x09, 0x47, 0xcc, 0x35, 0xb2, 0xcf, 0x77, 0x22, 0x07, 0x07,
     0x1f, 0xe3, 0x2a, 0x71, 0xb1, 0xed, 0xd5, 0x3b, 0xae, 0x4a, 0x7c, 0x17, 0x11, 0x23, 0x1f, 0x3e,
     0xc1, 0x55, 0xef, 0x7b, 0x8f, 0x77, 0xfd, 0x1c, 0xb7, 0x55, 0xbc, 0xab, 0x27, 0xe9, 0x0d, 0x1a,
     0x20, 0x53, 0x60, 0x64, 0xd4, 0xe4, 0x81, 0x2a, 0x7f, 0x32, 0x84, 0x4e, 0x19, 0xbc, 0x97, 0xfa,
     0x13, 0xa0, 0xd8, 0xba, 0xe9, 0x9c, 0xa9, 0x50, 0x25, 0x21, 0x0a, 0x07, 0x31, 0xcc, 0xca, 0x34,
     0xba, 0x86, 0x0a, 0x23, 0xda, 0xdc, 0xfd, 0x36, 0x08, 0x91, 0x78, 0xb3, 0x8c, 0xc6, 0xcd, 0xf8,
     0x74]

def hostReply : SampleReply where
  realm := "A"
  sname := hostName
  endTime := 1767229260
  encryptionKey :=
    [0x51, 0x57, 0x9f, 0x9a, 0x92, 0x00, 0x00, 0x94, 0x69, 0xc2, 0x2b, 0x07, 0xc4, 0x4a, 0x77, 0x61]
  cipher :=
    [0xcd, 0xbf, 0xc1, 0x48, 0xda, 0x90, 0x90, 0x74, 0x0e, 0x49, 0x82, 0x20, 0x7f, 0x5f, 0x71, 0x74,
     0x0b, 0xfb, 0xfa, 0x11, 0xf4, 0x65, 0x75, 0xbc, 0x4c, 0x34, 0x09, 0x5d, 0x52, 0xdd, 0xe7, 0x72,
     0x06, 0x81, 0x39, 0xb2, 0xf5, 0xd3, 0x2c, 0xef, 0x0b, 0x59, 0x83, 0x18, 0xd3, 0x33, 0x85, 0x64,
     0x7d, 0xef, 0x1f, 0xdd, 0x87, 0x08, 0x3e, 0x17, 0x09, 0x3e, 0x03, 0xe4, 0xf5, 0x45, 0x46, 0x1e,
     0xe8, 0x82, 0x33, 0x80, 0x77, 0x8f, 0x42, 0x30, 0xb9, 0x6d, 0x0c, 0x37, 0xe5, 0x0c, 0xe7, 0x18,
     0xec, 0xa4, 0x66, 0xa9, 0x1d, 0xb8, 0x86, 0x37, 0xc8, 0x86, 0x35, 0x4b, 0xc2, 0x15, 0x90, 0x90,
     0x30, 0x54, 0xa2, 0x27, 0x47, 0xfd, 0x39, 0xc5, 0xba, 0xe4, 0x44, 0xac, 0x5c, 0xa8, 0xe0, 0x93,
     0x89, 0xa2, 0x02, 0x33, 0x5a, 0xe7, 0xe1, 0x87, 0x38, 0x33, 0xd9, 0x5a, 0xdc, 0x20, 0x38, 0x74,
     0x28, 0xbd, 0x62, 0x52, 0x11, 0xee, 0x13, 0x27, 0xa8]

def sampleRequests : List SampleRequest := [ownRequest, crossRequest, backRequest]

def sampleReplies : List SampleReply := [crossReply, backReply, hostReply]

def signingKey : Bytes :=
  [0x1f, 0x9a, 0x12, 0x72, 0xea, 0xd3, 0x99, 0xc4, 0x31, 0x2e, 0xf4, 0x42, 0x5f, 0x7c, 0xb5, 0x77]

def referralAnswers : KnownAnswers :=
  let parts := KnownAnswers.ofRc4Sealed (sampleRequests.map SampleRequest.sealedAuthenticator ++
    sampleReplies.map SampleReply.sealedEncPart)
  { parts with
    hmacMd5 := ((referralKey.value, asBytes "signaturekey" ++ [0]), signingKey) ::
      sampleRequests.map (fun sample ↦ ((signingKey, sample.digest), sample.checksum)) ++ parts.hmacMd5 }

def referralDigests : List (Bytes × Bytes) := sampleRequests.map fun sample ↦
  (rc4HmacUsageToMsMsgType tgsReqAuthenticatorChecksumUsage ++ derKdcReqBody sample.body, sample.digest)

def referralPrimitives : Primitives :=
  { Primitives.ofKnownAnswers referralAnswers with
    md5 := fun data ↦ fit 16 ((referralDigests.lookup data).getD [])
    length_md5 := fun _ ↦ length_fit 16 _ }

def encoded {α : Type} (der : α → Bytes) (values : List α) : List (α × Bytes) := values.map fun v ↦ (v, der v)

def referralTable : Rasn.Table where
  apReq := encoded derApReq (sampleRequests.map SampleRequest.apReq)
  authenticator := encoded derAuthenticator (sampleRequests.map SampleRequest.authenticator)
  ticket := encoded derTicket [ticketOf "A" (krbtgtName "A"), ticketOf "A" (krbtgtName "B"),
    ticketOf "B" (krbtgtName "A"), ticketOf "A" hostName]

def referralRasn : Rasn :=
  { Rasn.ofTable referralTable with
    tgsRep := .ofPairs (encoded derTgsRep (sampleReplies.map SampleReply.message))
    encTgsRepPart := .ofPairs (encoded derEncTgsRepPart (sampleReplies.map SampleReply.encPart))
    tgsReq := .ofPairs (encoded derTgsReq (sampleRequests.map SampleRequest.message))
    kdcReqBody := .ofPairs (encoded derKdcReqBody (sampleRequests.map SampleRequest.body)) }

theorem referralRasn_lawful : referralRasn.Lawful :=
  { Rasn.ofTable_lawful (t := referralTable) (by decide +kernel) (by decide +kernel) (by decide)
      (by decide) (by decide) (by decide) (by decide +kernel) (by decide) with
    encTgsRepPart := Coder.IsTable.lawful (by decide +kernel) _
    encAsRepPart_rejects := fun _ ↦ ⟨_, rfl⟩ }

def SampleRequest.built (sample : SampleRequest) (service : Principal) (kdcRealm : String) : BuiltTgsReq where
  message := sample.message
  der := derTgsReq sample.message
  client := ⟨"A", 1, ["alice"]⟩
  service := service
  kdcRealm := kdcRealm
  nonce := 0x42424242

theorem ownRequest_built : buildTgsReqForRealmWithConfounder referralPrimitives referralRasn
    (krbtgtSession "A" "A" hourLater) "A" hostService requestOptions minute 0 referralConfounder =
      .ok (ownRequest.built hostService "A") := by
  decide +kernel

theorem backRequest_built : buildTgsReqForRealmWithConfounder referralPrimitives referralRasn
    (krbtgtSession "B" "A" twoHoursLater) "A" hostService requestOptions minute 0 referralConfounder =
      .ok (backRequest.built hostService "A") := by
  decide +kernel

theorem authenticator_names_client_own : ∃ authenticator client,
    sentAuthenticator referralPrimitives referralRasn (ownRequest.built hostService "A") referralKey =
      .ok authenticator ∧
    principalFromParts authenticator.crealm authenticator.cname = some client ∧ client.realm = "A" ∧
    client.components = ["alice"] := by
  have hbuilt : BuiltFrom referralPrimitives referralRasn (krbtgtSession "A" "A" hourLater)
      (ownRequest.built hostService "A") :=
    .forRealm "A" hostService requestOptions minute 0 referralConfounder ownRequest_built
  have hticket : decodeTicket referralRasn (krbtgtSession "A" "A" hourLater).ticket =
      .ok (ticketOf "A" (krbtgtName "A")) := by
    decide
  exact (authenticator_names_client_iff referralRasn_lawful hbuilt hticket).mpr rfl

/-- The TGT that the KDC of B issued for realm A makes `alice@A` call herself `alice@B`. -/
theorem backRequest_names_other_client :
    BuiltFrom referralPrimitives referralRasn (krbtgtSession "B" "A" twoHoursLater)
      (backRequest.built hostService "A") ∧
    (krbtgtSession "B" "A" twoHoursLater).client = ⟨"A", 1, ["alice"]⟩ ∧
    ∃ authenticator, sentAuthenticator referralPrimitives referralRasn (backRequest.built hostService "A")
        referralKey = .ok authenticator ∧
      principalFromParts authenticator.crealm authenticator.cname = some ⟨"B", 1, ["alice"]⟩ := by
  refine ⟨.forRealm "A" hostService requestOptions minute 0 referralConfounder backRequest_built, rfl,
    backRequest.authenticator, ?_, ?_⟩
  · decide +kernel
  · decide

end Referred

end Rskrb5.Client
