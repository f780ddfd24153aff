import Rskrb5.Client.Replies
import Rskrb5.Lib.Programs

namespace Rskrb5.Client

open Lib.Results Lib.Programs Crypto EncParts

/-- Everything outside the client: its clock, its random bytes and the servers that answer its
requests. Nothing is assumed of any of them. -/
structure World (ω : Type) where
  now : ω → SystemTime × ω
  fill : (len : ℕ) → ω → Except String (Vector UInt8 len) × ω
  sendToRealm : String → Bytes → ω → Except String Bytes × ω
  sendToKpasswdRealm : String → Bytes → ω → Except String Bytes × ω

variable {ω : Type} (W : World ω) (P : Primitives) (R : Rasn)

section World

def now : Program ω Error SystemTime := .ofExec fun w ↦ (.ok (W.now w).1, (W.now w).2)

def fill (len : ℕ) : Program ω Error Bytes :=
  .ofExec fun w ↦ (((W.fill len w).1.map Vector.toList).mapError .random, (W.fill len w).2)

def sendToRealm (realm : String) (request : Bytes) : Program ω Error Bytes :=
  .ofExec fun w ↦ ((W.sendToRealm realm request w).1.mapError .transport,
    (W.sendToRealm realm request w).2)

def currentPreauthTime : Program ω Error (SystemTime × UInt32) := do
  let now ← now W
  let elapsed ← (now.durationSince .unixEpoch).mapError fun _ ↦ Error.timeOverflow
  return (now.wholeSeconds, UInt32.ofNat (elapsed % nanosPerSec / 1000))

def randomNonce : Program ω Error UInt32 := do
  let bytes ← fill W 4
  return u32FromBeBytes bytes &&& 0x7fffffff

def confounderFor (key : EncryptionKey) : Program ω Error Bytes := do
  let etype ← okOr (KerberosEtype.fromEtypeId key.etype) (Error.unsupportedEtype key.etype)
  fill W etype.confounderLen

end World

section Login

def buildPreauthenticatedAsReq (client service : Principal) (options : AsReqOptions)
    (key : EncryptionKey) (kvno : Option UInt32) : Program ω Error BuiltAsReq := do
  let (timestamp, cusec) ← currentPreauthTime W
  let confounder ← confounderFor W key
  buildPreauthenticatedAsReqWithConfounder P R client service options key kvno timestamp cusec confounder

def initialAsReq (client service : Principal) (options : AsReqOptions)
    (assumedKey : AsReqOptions → Except Error (EncryptionKey × Option UInt32)) :
    Program ω Error BuiltAsReq := do
  let options := initialPreauthProbeOptions options
  if options.assumePreauthentication then
    let (replyKey, kvno) ← assumedKey options
    buildPreauthenticatedAsReq W P R client service options replyKey kvno
  else buildAsReq R client service options

def passwordInitialAsReq (client service : Principal) (password : Bytes) (options : AsReqOptions) :
    Program ω Error BuiltAsReq :=
  initialAsReq W P R client service options fun options ↦ do
    let keyInfo ← assumedPreauthKeyInfo options.etypes
    let replyKey ← derivePasswordReplyKey P client password keyInfo
    return (replyKey, none)

def keytabInitialAsReq (client service : Principal) (keytab : Keytab) (options : AsReqOptions) :
    Program ω Error BuiltAsReq :=
  initialAsReq W P R client service options fun options ↦ do
    let (replyKey, kvno) ← selectAssumedKeytabReplyKey keytab client options
    return (replyKey, some kvno)

def preauthRequest (client service : Principal) (options : AsReqOptions) (kdcErrorBytes : Bytes)
    (hintedKey : PreauthKeyInfo → Except Error (EncryptionKey × Option UInt32)) :
    Program ω Error (BuiltAsReq × EncryptionKey) := do
  let keyInfo ← preauthKeyInfoOf R kdcErrorBytes options
  let (replyKey, kvno) ← hintedKey keyInfo
  let options := initialPreauthProbeOptions options
  let request ← buildPreauthenticatedAsReq W P R client service options replyKey kvno
  return (request, replyKey)

def passwordPreauthRequest (client service : Principal) (password : Bytes) (options : AsReqOptions)
    (kdcErrorBytes : Bytes) : Program ω Error (BuiltAsReq × EncryptionKey) :=
  preauthRequest W P R client service options kdcErrorBytes fun keyInfo ↦ do
    let replyKey ← derivePasswordReplyKey P client password keyInfo
    return (replyKey, none)

def keytabPreauthRequest (client service : Principal) (keytab : Keytab) (options : AsReqOptions)
    (kdcErrorBytes : Bytes) : Program ω Error (BuiltAsReq × EncryptionKey) :=
  preauthRequest W P R client service options kdcErrorBytes fun keyInfo ↦ do
    let (replyKey, kvno) ← selectKeytabReplyKey keytab client keyInfo
    return (replyKey, some kvno)

/-- A login: the first reply may already be an AS-REP. -/
def loginWith (client : Principal) (initialRequest : Program ω Error BuiltAsReq)
    (initialSession : BuiltAsReq → Bytes → Except Error (Option AsRepSession))
    (preauthRequest : Bytes → Program ω Error (BuiltAsReq × EncryptionKey)) :
    Program ω Error AsRepSession := do
  let initial ← initialRequest
  let initialResponse ← sendToRealm W client.realm initial.der
  let session ← initialSession initial initialResponse
  match session with
  | some session => return session
  | none =>
    let (request, replyKey) ← preauthRequest initialResponse
    let response ← sendToRealm W request.client.realm request.der
    processAsRep P R request response replyKey

def loginAsServiceWithPasswordConfig (client service : Principal) (password : Bytes)
    (options : AsReqOptions) : Program ω Error AsRepSession :=
  loginWith W P R client (passwordInitialAsReq W P R client service password options)
    (fun request response ↦ passwordInitialAsRepSession P R request response client password)
    (passwordPreauthRequest W P R client service password options)

def loginAsServiceWithKeytabConfig (client service : Principal) (keytab : Keytab)
    (options : AsReqOptions) : Program ω Error AsRepSession :=
  loginWith W P R client (keytabInitialAsReq W P R client service keytab options)
    (fun request response ↦ keytabInitialAsRepSession P R request response client keytab)
    (keytabPreauthRequest W P R client service keytab options)

def loginTgtWithPasswordConfig (client : Principal) (password : Bytes) (options : AsReqOptions) :
    Program ω Error AsRepSession :=
  loginAsServiceWithPasswordConfig W P R client (tgtService client.realm) password options

def loginTgtWithKeytabConfig (client : Principal) (keytab : Keytab) (options : AsReqOptions) :
    Program ω Error AsRepSession :=
  loginAsServiceWithKeytabConfig W P R client (tgtService client.realm) keytab options

end Login

section Tickets

def buildTgsReqForRealm (tgt : AsRepSession) (kdcRealm : String) (service : Principal)
    (options : TgsReqOptions) : Program ω Error BuiltTgsReq := do
  let (timestamp, cusec) ← currentPreauthTime W
  let confounder ← confounderFor W tgt.sessionKey
  buildTgsReqForRealmWithConfounder P R tgt kdcRealm service options timestamp cusec confounder

def buildTgtRenewalReq (tgt : AsRepSession) (options : TgsReqOptions) : Program ω Error BuiltTgsReq := do
  let realm ← okOr (tgtRealm tgt) (Error.invalidTgtSession tgt.service.name)
  buildTgsReqForRealm W P R tgt realm (tgtService realm) options.withRenewal

def buildTicketRenewalReq (ticket : AsRepSession) (options : TgsReqOptions) :
    Program ω Error BuiltTgsReq :=
  buildTgsReqForRealm W P R ticket ticket.service.realm ticket.service options.withRenewal

def exchangeTgsReqWithConfig (request : BuiltTgsReq) (tgsSessionKey : EncryptionKey) :
    Program ω Error TgsRepSession := do
  let response ← sendToRealm W request.kdcRealm request.der
  processTgsRep P R request response tgsSessionKey

def renewTgtWithConfig (tgt : AsRepSession) (options : TgsReqOptions) : Program ω Error TgsRepSession := do
  let request ← buildTgtRenewalReq W P R tgt options
  exchangeTgsReqWithConfig W P R request tgt.sessionKey

def renewTicketWithConfig (ticket : AsRepSession) (options : TgsReqOptions) :
    Program ω Error TgsRepSession := do
  let request ← buildTicketRenewalReq W P R ticket options
  exchangeTgsReqWithConfig W P R request ticket.sessionKey

structure ReferralTgsResult where
  ticket : TgsRepSession
  referralTgts : List AsRepSession
  deriving DecidableEq

def defaultMaxReferrals : ℕ := 5

/-- One turn of the referral loop: a ticket, and the realm that it refers to unless it is the
ticket that was asked for. -/
def followReferral (service : Principal) (options : TgsReqOptions) (currentTgt : AsRepSession)
    (currentRealm : String) : Program ω Error (TgsRepSession × Option String) := do
  let requestedService := if currentRealm = service.realm then service
    else ⟨currentRealm, krbNtSrvInst, ["krbtgt", service.realm]⟩
  let request ← buildTgsReqForRealm W P R currentTgt currentRealm requestedService options
  let response ← sendToRealm W request.kdcRealm request.der
  let ticket ← processTgsRepWithReferral P R request response currentTgt.sessionKey
  if principalMatches ticket.service service then return (ticket, none)
  else
    let referredRealm ← okOr (tgtRealm ticket)
      (Error.servicePrincipalMismatch service.name ticket.service.name)
    ensure (referredRealm ≠ currentRealm) (Error.invalidReferralTicket ticket.service.name)
    return (ticket, some referredRealm)

/-- The loop, counting down the referrals that may still be followed. -/
def followReferrals (service : Principal) (options : TgsReqOptions) (maxReferrals : ℕ) :
    ℕ → AsRepSession → String → List AsRepSession → Program ω Error ReferralTgsResult
  | 0, currentTgt, currentRealm, referralTgts => do
    let (ticket, referred) ← followReferral W P R service options currentTgt currentRealm
    match referred with
    | none => return ⟨ticket, referralTgts⟩
    | some _ => throw (.maxReferralDepth maxReferrals)
  | remaining + 1, currentTgt, currentRealm, referralTgts => do
    let (ticket, referred) ← followReferral W P R service options currentTgt currentRealm
    match referred with
    | none => return ⟨ticket, referralTgts⟩
    | some realm =>
      followReferrals service options maxReferrals remaining ticket realm (referralTgts ++ [ticket])

def getServiceTicketWithReferralTraceLimit (config : Config) (tgt : AsRepSession) (service : Principal)
    (options : TgsReqOptions) (maxReferrals : ℕ) : Program ω Error ReferralTgsResult := do
  let currentRealm ← okOr (tgtRealm tgt) (Error.invalidReferralTicket tgt.service.name)
  let service := if service.realm = "" then
    { service with realm := (serviceRealm config service).getD currentRealm } else service
  followReferrals W P R service options maxReferrals maxReferrals tgt currentRealm []

def getServiceTicketWithReferralTrace (config : Config) (tgt : AsRepSession) (service : Principal)
    (options : TgsReqOptions) : Program ω Error ReferralTgsResult :=
  getServiceTicketWithReferralTraceLimit W P R config tgt service options defaultMaxReferrals

end Tickets

end Rskrb5.Client
