import Rskrb5.EncParts
import Rskrb5.Keytab
import Std.Data.ExtHashMap

namespace Rskrb5

open Lib.Results Crypto EncParts

/-- The PAC module: finding a PAC in authorization data and verifying its signatures.
Nothing is assumed of either. -/
structure PacOps (Pac : Type) where
  findPacInAuthorizationData : AuthorizationData → Except String (Option Pac)
  verify : Pac → EncryptionKey → Except String Unit

namespace Service

def defaultMaxClockSkew : ℕ := Duration.fromSecs (5 * 60)
def invalidTicketFlag : ℕ := 7

inductive Error
  | decode (target message : String)
  | encode (target message : String)
  | invalidString
  | integerOutOfRange (field value : String)
  | invalidMessage (field : String) (expected : Int32) (actual : String)
  | unsupportedEtype (etype : Int32)
  | apRepKeyEtypeMismatch (keyEtype encryptedDataEtype : Int32)
  | apReqKeyEtypeMismatch (keyEtype encryptedDataEtype : Int32)
  | ticketKeyEtypeMismatch (keyEtype encryptedDataEtype : Int32)
  | keytab (source : Keytab.Error)
  | crypto (source : Crypto.Error)
  | pac (source : String)
  | ticketNotYetValid (service realm : String)
  | ticketExpired (service realm : String)
  | clientPrincipalMismatch (ticket authenticator : String)
  | clockSkew (maxClockSkew : ℕ)
  | replay
  | replayCachePoisoned
  | badClientAddress (service realm : String)
  | requiredClientAddressMissing (service realm : String)
  | timeOverflow
  deriving DecidableEq

def partError (keyEtypeMismatch : Int32 → Int32 → Error) : EncPartError → Error
  | .decode target message => .decode target message
  | .encode target message => .encode target message
  | .invalidMessage field expected actual => .invalidMessage field expected actual
  | .unsupportedEtype etype => .unsupportedEtype etype
  | .keyEtypeMismatch keyEtype encryptedDataEtype => keyEtypeMismatch keyEtype encryptedDataEtype
  | .crypto source => .crypto source

def apReqError : EncPartError → Error := partError .apReqKeyEtypeMismatch
def ticketError : EncPartError → Error := partError .ticketKeyEtypeMismatch
def apRepError : EncPartError → Error := partError .apRepKeyEtypeMismatch

structure ValidatedApReq (Pac : Type) where
  client : Principal
  service : Principal
  sessionKey : EncryptionKey
  subkey : Option EncryptionKey
  sequenceNumber : Option UInt32
  ticketStart : SystemTime
  ticketEnd : SystemTime
  authenticatorCtime : SystemTime
  authenticatorCusec : UInt32
  authenticatorTime : SystemTime
  pac : Option Pac
  deriving DecidableEq

section ApRep

structure ApRepOptions where
  subkey : Option EncryptionKey
  sequenceNumber : Option UInt32
  kvno : Option UInt32
  deriving DecidableEq

namespace ValidatedApReq

variable {Pac : Type} (P : Primitives) (R : Rasn) (validated : ValidatedApReq Pac)

def encApRepPart (options : ApRepOptions) : Except Error EncApRepPart := do
  let ctime ← okOr (kerberosTimeFromSystemTime validated.authenticatorCtime) .timeOverflow
  return {
    ctime
    cusec := validated.authenticatorCusec.toNat
    subkey := options.subkey
    seqNumber := options.sequenceNumber }

def buildApRepWithConfounder (confounder : Bytes) (options : ApRepOptions) : Except Error Bytes := do
  let encPart ← validated.encApRepPart options
  let apRep ← (Rskrb5.buildApRepWithConfounder P R encPart validated.sessionKey options.kvno
    confounder).mapError apRepError
  (encodeApRep R apRep).mapError apRepError

end ValidatedApReq

end ApRep

structure ReplayKey where
  service : Principal
  client : Principal
  ctimeSeconds : ℤ
  cusec : UInt32
  deriving DecidableEq, Hashable

instance : EquivBEq ReplayKey := inferInstance
instance : LawfulHashable ReplayKey := inferInstance

section ReplayCache

structure ReplayCache where
  entries : Std.ExtHashMap ReplayKey SystemTime

namespace ReplayCache

def new : ReplayCache := ⟨∅⟩

def keeps (maxAge : ℕ) (now presentedAt : SystemTime) : Bool :=
  match now.durationSince presentedAt with
  | .ok age => age ≤ maxAge
  | .error _ => true

def clearOlderThanAt (cache : ReplayCache) (maxAge : ℕ) (now : SystemTime) : ℕ × ReplayCache :=
  let entries := cache.entries.filter fun _ presentedAt ↦ keeps maxAge now presentedAt
  (cache.entries.size - entries.size, ⟨entries⟩)

def insert (cache : ReplayCache) (key : ReplayKey) (presentedAt : SystemTime) : Bool × ReplayCache :=
  (cache.entries[key]?.isNone, ⟨cache.entries.insert key presentedAt⟩)

end ReplayCache

/-- A cache behind a lock, which a panicking holder poisons for good. -/
structure SharedReplayCache where
  cache : ReplayCache
  poisoned : Bool

namespace SharedReplayCache

def new : SharedReplayCache := ⟨.new, false⟩

def withCacheMut {α : Type} (shared : SharedReplayCache) (f : ReplayCache → α × ReplayCache) :
    Except Error α × SharedReplayCache :=
  if shared.poisoned then (.error .replayCachePoisoned, shared)
  else (.ok (f shared.cache).1, ⟨(f shared.cache).2, false⟩)

def insert (shared : SharedReplayCache) (key : ReplayKey) (presentedAt : SystemTime) :
    Except Error Bool × SharedReplayCache :=
  shared.withCacheMut fun cache ↦ cache.insert key presentedAt

def clearOlderThanAt (shared : SharedReplayCache) (maxAge : ℕ) (now : SystemTime) :
    Except Error ℕ × SharedReplayCache :=
  shared.withCacheMut fun cache ↦ cache.clearOlderThanAt maxAge now

end SharedReplayCache

/-- The caches that one validator can reach: its own, and a shared one when installed. -/
structure Caches where
  replayCache : ReplayCache
  sharedReplayCache : Option SharedReplayCache

def recordReplay (caches : Caches) (replayKey : ReplayKey) (now : SystemTime) :
    Except Error Unit × Caches :=
  let (inserted, caches) :=
    match caches.sharedReplayCache with
    | some shared =>
      let (inserted, shared) := shared.insert replayKey now
      (inserted, { caches with sharedReplayCache := some shared })
    | none =>
      let (inserted, cache) := caches.replayCache.insert replayKey now
      (.ok inserted, { caches with replayCache := cache })
  (do let inserted ← inserted; ensure (inserted = true) .replay, caches)

end ReplayCache

structure ServiceValidator where
  keytab : Keytab
  maxClockSkew : ℕ
  now : Option SystemTime
  keytabPrincipal : Option (List String)
  clientAddress : Option HostAddress
  requireClientAddress : Bool

/-- The values that the two clock readings of one validation would give. -/
structure Clock where
  ticketTimes : SystemTime
  authenticator : SystemTime

def ticketStartTime (encTicket : EncTicketPart) : Except Error SystemTime :=
  okOr (systemTimeFromKerberosTime (encTicket.startTime.getD encTicket.authTime)) .timeOverflow

def hasInvalidFlag (flags : KerberosFlags) : Bool := flags[invalidTicketFlag]?.getD false

def startsAfterSkew (start now : SystemTime) (maxClockSkew : ℕ) : Bool :=
  match start.durationSince now with
  | .ok delta => maxClockSkew < delta
  | .error _ => false

def expiredAfterSkew (now endTime : SystemTime) (maxClockSkew : ℕ) : Bool :=
  match now.durationSince endTime with
  | .ok delta => maxClockSkew < delta
  | .error _ => false

/-- The reverse difference is the one that an error carries. -/
def absDuration (left right : SystemTime) : ℕ :=
  match left.durationSince right with
  | .ok delta => delta
  | .error delta => delta

namespace ServiceValidator

variable (v : ServiceValidator)

def validateTicketTimes (clock : SystemTime) (service : Principal) (encTicket : EncTicketPart) :
    Except Error Unit := do
  let now := v.now.getD clock
  let start ← ticketStartTime encTicket
  ensure (¬ (startsAfterSkew start now v.maxClockSkew || hasInvalidFlag encTicket.flags))
    (.ticketNotYetValid service.name service.realm)
  let endTime ← okOr (systemTimeFromKerberosTime encTicket.endTime) .timeOverflow
  ensure (¬ expiredAfterSkew now endTime v.maxClockSkew) (.ticketExpired service.name service.realm)

def validateClientAddress (service : Principal) (encTicket : EncTicketPart) : Except Error Unit :=
  match encTicket.caddr with
  | none =>
    ensure (v.requireClientAddress = false) (.requiredClientAddressMissing service.name service.realm)
  | some ticketAddresses =>
    match v.clientAddress with
    | none => .error (.badClientAddress service.name service.realm)
    | some clientAddress =>
      ensure (ticketAddresses.any fun address ↦
          address.addrType == clientAddress.addrType && address.address == clientAddress.address)
        (.badClientAddress service.name service.realm)

def serviceKey (apReq : ApReq) (ticketService : Principal) :
    Except Keytab.Error (EncryptionKey × UInt32) :=
  v.keytab.findKey (v.keytabPrincipal.getD ticketService.components) ticketService.realm
    (apReq.ticket.encPart.kvno.getD 0) apReq.ticket.encPart.etype

variable {Pac : Type} (P : Primitives) (R : Rasn) (pac : PacOps Pac)

def findVerifiedPac (encTicket : EncTicketPart) (key : EncryptionKey) : Except Error (Option Pac) :=
  match encTicket.authorizationData with
  | none => .ok none
  | some authorizationData => do
    let found ← (pac.findPacInAuthorizationData authorizationData).mapError .pac
    match found with
    | none => return none
    | some p =>
      (pac.verify p key).mapError .pac
      return some p

/-- `validate_ap_req` up to `record_replay`: what it would record and return. The fields of
the result after that call are computed from times that were converted before. -/
def checkApReq (clock : Clock) (bytes : Bytes) :
    Except Error (ReplayKey × SystemTime × ValidatedApReq Pac) := do
  let apReq ← (decodeApReq R bytes).mapError apReqError
  let ticketService ← okOr (principalFromParts apReq.ticket.realm apReq.ticket.sname) .invalidString
  let (serviceKey, _) ← (v.serviceKey apReq ticketService).mapError .keytab
  let encTicket ← (decryptTicketEncPart P R apReq.ticket serviceKey).mapError ticketError
  v.validateTicketTimes clock.ticketTimes ticketService encTicket
  v.validateClientAddress ticketService encTicket
  let verified ← findVerifiedPac pac encTicket serviceKey
  let sessionKey := encTicket.key
  let authenticator ← (decryptApReqAuthenticator P R apReq sessionKey
    (authenticatorUsageForTicket apReq.ticket)).mapError apReqError
  let ticketClient ← okOr (principalFromParts encTicket.crealm encTicket.cname) .invalidString
  let authenticatorClient ←
    okOr (principalFromParts authenticator.crealm authenticator.cname) .invalidString
  ensure (authenticatorClient.components = ticketClient.components)
    (.clientPrincipalMismatch ticketClient.name authenticatorClient.name)
  let cusec ← okOr (integerToU32 authenticator.cusec)
    (.integerOutOfRange "authenticator.cusec" (toString authenticator.cusec))
  let authenticatorCtime ← okOr (systemTimeFromKerberosTime authenticator.ctime) .timeOverflow
  let authenticatorTime ←
    okOr (authenticatorCtime.checkedAdd (Duration.fromMicros cusec.toNat)) .timeOverflow
  let now := v.now.getD clock.authenticator
  ensure (absDuration now authenticatorTime ≤ v.maxClockSkew) (.clockSkew v.maxClockSkew)
  let replayKey : ReplayKey :=
    { service := ticketService, client := authenticatorClient
      ctimeSeconds := authenticator.ctime.seconds, cusec }
  let ticketStart ← ticketStartTime encTicket
  let ticketEnd ← okOr (systemTimeFromKerberosTime encTicket.endTime) .timeOverflow
  return (replayKey, now,
    { client := authenticatorClient, service := ticketService, sessionKey,
      subkey := authenticator.subkey, sequenceNumber := authenticator.seqNumber,
      ticketStart, ticketEnd, authenticatorCtime, authenticatorCusec := cusec, authenticatorTime,
      pac := verified })

def validateApReq (clock : Clock) (bytes : Bytes) (caches : Caches) :
    Except Error (ValidatedApReq Pac) × Caches :=
  match v.checkApReq P R pac clock bytes with
  | .error e => (.error e, caches)
  | .ok (replayKey, now, validated) =>
    let (recorded, caches) := recordReplay caches replayKey now
    (do recorded; return validated, caches)

/-- What a message that passed every check contains, and where the results come from. -/
structure Evidence (clock : Clock) (bytes : Bytes) (replayKey : ReplayKey) (now : SystemTime)
    (validated : ValidatedApReq Pac) where
  apReq : ApReq
  key : EncryptionKey
  kvno : UInt32
  encTicket : EncTicketPart
  authenticator : Authenticator
  ticketClient : Principal
  decode_eq : decodeApReq R bytes = .ok apReq
  service_eq : principalFromParts apReq.ticket.realm apReq.ticket.sname = some validated.service
  serviceKey_eq : v.serviceKey apReq validated.service = .ok (key, kvno)
  encTicket_eq : decryptTicketEncPart P R apReq.ticket key = .ok encTicket
  authenticator_eq : decryptApReqAuthenticator P R apReq encTicket.key
    (authenticatorUsageForTicket apReq.ticket) = .ok authenticator
  ticketClient_eq : principalFromParts encTicket.crealm encTicket.cname = some ticketClient
  client_eq : principalFromParts authenticator.crealm authenticator.cname = some validated.client
  components_eq : validated.client.components = ticketClient.components
  cusec_eq : integerToU32 authenticator.cusec = some validated.authenticatorCusec
  ctime_eq : systemTimeFromKerberosTime authenticator.ctime = some validated.authenticatorCtime
  time_eq : validated.authenticatorCtime.checkedAdd
    (Duration.fromMicros validated.authenticatorCusec.toNat) = some validated.authenticatorTime
  now_eq : now = v.now.getD clock.authenticator
  skew_le : absDuration now validated.authenticatorTime ≤ v.maxClockSkew
  replayKey_eq : replayKey = ⟨validated.service, validated.client, authenticator.ctime.seconds,
    validated.authenticatorCusec⟩
  sessionKey_eq : validated.sessionKey = encTicket.key

theorem exists_evidence {clock : Clock} {bytes : Bytes} {replayKey : ReplayKey} {now : SystemTime}
    {validated : ValidatedApReq Pac}
    (h : v.checkApReq P R pac clock bytes = .ok (replayKey, now, validated)) :
    Nonempty (v.Evidence P R clock bytes replayKey now validated) := by
  simp only [checkApReq, bind_eq_ok, mapError_eq_ok, okOr_eq_ok, ensure_eq_ok, pure_eq_ok,
    Except.ok.injEq, Prod.mk.injEq, Prod.exists, exists_const] at h
  obtain ⟨apReq, hd, service, hs, key, kvno, hk, encTicket, ht, _, _, _, _, _, _, authenticator, ha,
    ticketClient, htc, client, hc, hcomp, cusec, hcu, ctime, hct, time, htime, hskew, start, _,
    endTime, _, hrk, rfl, rfl⟩ := h
  exact ⟨⟨apReq, key, kvno, encTicket, authenticator, ticketClient, hd, hs, hk, ht, ha, htc, hc, hcomp,
    hcu, hct, htime, rfl, hskew, hrk.symm, rfl⟩⟩

end ServiceValidator

end Service

end Rskrb5
