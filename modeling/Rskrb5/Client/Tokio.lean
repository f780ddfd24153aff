import Rskrb5.CCache
import Rskrb5.Client.Transport

namespace Rskrb5

namespace Client

open Lib.Results Lib.Programs Crypto

inductive TokioClientCredentials
  | password (password : Bytes)
  | keytab (keytab : Keytab)
  deriving DecidableEq

/-- A client's state. The transport and its protocol are part of the world that it asks. -/
structure TokioClient where
  config : Config
  client : Principal
  credentials : Option TokioClientCredentials
  tgt : Option AsRepSession
  tgtSessions : Std.ExtTreeMap String AsRepSession
  serviceTickets : Std.ExtTreeMap String TgsRepSession
  assumePreauthentication : Bool
  fastNegotiation : Bool

structure PrunedSessions where
  primaryTgt : Bool
  tgtSessions : ℕ
  serviceTickets : ℕ
  deriving DecidableEq

/-- How an operation ends early: with an error, or where the source says `expect`. -/
inductive Stop
  | error (source : Error)
  | panicked (message : String)
  deriving DecidableEq

abbrev ClientProgram (ω : Type) := Program (TokioClient × ω) Stop

namespace TokioClient

section State

variable (c : TokioClient)

def new (config : Config) (client : Principal) (credentials : Option TokioClientCredentials) :
    TokioClient where
  config := config
  client := client
  credentials := credentials
  tgt := none
  tgtSessions := ∅
  serviceTickets := ∅
  assumePreauthentication := false
  fastNegotiation := true

def withPasswordCredential (password : Bytes) : TokioClient :=
  { c with credentials := some (.password password) }

def withKeytabCredential (keytab : Keytab) : TokioClient :=
  { c with credentials := some (.keytab keytab) }

def withAssumePreauthentication (assumePreauthentication : Bool) : TokioClient :=
  { c with assumePreauthentication }

def withFastNegotiation (fastNegotiation : Bool) : TokioClient := { c with fastNegotiation }

def removeTgtSessionForRealm (realm : String) : Option AsRepSession × TokioClient :=
  let removed := c.tgtSessions[realm]?
  let c := { c with tgtSessions := c.tgtSessions.erase realm }
  if realm = c.client.realm then (removed.or c.tgt, { c with tgt := none }) else (removed, c)

def clearServiceTicketCache : TokioClient := { c with serviceTickets := ∅ }

def pruneUnusableSessionsAt (now : SystemTime) : PrunedSessions × TokioClient :=
  let primaryTgt := c.tgt.any fun tgt ↦ !sessionUsableAt tgt now
  let tgt := if primaryTgt then none else c.tgt
  let tgtSessions := c.tgtSessions.filter fun _ session ↦ sessionUsableAt session now
  let serviceTickets := c.serviceTickets.filter fun _ session ↦ sessionUsableAt session now
  (⟨primaryTgt, c.tgtSessions.size - tgtSessions.size, c.serviceTickets.size - serviceTickets.size⟩,
    { c with tgt, tgtSessions, serviceTickets })

def destroy : TokioClient :=
  { c with credentials := none, tgt := none, tgtSessions := ∅, serviceTickets := ∅ }

def cacheServiceTicketAt (ticket : TgsRepSession) (now : SystemTime) : TokioClient :=
  let key := serviceCacheKey ticket.service
  let selected := preferredSessionAt c.serviceTickets[key]? ticket now
  { c with serviceTickets := (c.serviceTickets.erase key).insert key selected }

/-- A TGT of the client's own realm also competes with the primary TGT. -/
def cacheTgtSessionAt (tgt : AsRepSession) (now : SystemTime) : Except Error Unit × TokioClient :=
  match tgtRealm tgt with
  | none => (.error (.invalidTgtSession tgt.service.name), c)
  | some realm =>
    let selected := preferredSessionAt c.tgtSessions[realm]? tgt now
    let rest := c.tgtSessions.erase realm
    if realm = c.client.realm then
      let primary := preferredSessionAt c.tgt selected now
      (.ok (), { c with tgt := some primary, tgtSessions := rest.insert realm primary })
    else (.ok (), { c with tgtSessions := rest.insert realm selected })

/-- What both renewals do with a renewed TGT; the service tickets go with the primary TGT in
one of them. -/
def storeRenewed (renewed : AsRepSession) (realm : String) : TokioClient :=
  let c := if realm = c.client.realm then { c with tgt := some renewed } else c
  { c with tgtSessions := c.tgtSessions.insert realm renewed }

def resolveServicePrincipal (service : Principal) : Principal :=
  if service.realm = "" then
    { service with realm := (serviceRealm c.config service).getD c.client.realm }
  else service

def removeCachedServiceTicket (service : Principal) : Option TgsRepSession × TokioClient :=
  let key := serviceCacheKey (c.resolveServicePrincipal service)
  (c.serviceTickets[key]?, { c with serviceTickets := c.serviceTickets.erase key })

end State

variable {ω : Type} (W : World ω) (P : Primitives) (R : Rasn)

section Steps

def outside {α : Type} (x : Program ω Error α) : ClientProgram ω α := .onSnd .error x

def raise {α : Type} (x : Except Error α) : ClientProgram ω α := liftM (x.mapError Stop.error)

def fail {α : Type} (e : Error) : ClientProgram ω α := throw (.error e)

/-- `self.tgt.as_ref().expect(message)`. -/
def expectTgt (message : String) : ClientProgram ω AsRepSession := do
  let c ← .read
  match c.tgt with
  | some tgt => return tgt
  | none => throw (.panicked message)

def asReqOptions : ClientProgram ω AsReqOptions := do
  let c ← .read
  let now ← outside (now W)
  let nonce ← outside (randomNonce W)
  return { AsReqOptions.fromLibdefaults now nonce c.config.libdefaults with
    assumePreauthentication := c.assumePreauthentication
    fastNegotiation := c.fastNegotiation }

def tgsReqOptions : ClientProgram ω TgsReqOptions := do
  let c ← .read
  let now ← outside (now W)
  let nonce ← outside (randomNonce W)
  return .fromLibdefaults now nonce c.config.libdefaults

def cacheServiceTicket (ticket : TgsRepSession) : ClientProgram ω Unit := do
  let now ← outside (now W)
  .update fun c ↦ c.cacheServiceTicketAt ticket now

def cacheTgtSession (tgt : AsRepSession) : ClientProgram ω Unit := do
  let now ← outside (now W)
  .ofExec fun s ↦ ((s.1.cacheTgtSessionAt tgt now).1.mapError .error,
    ((s.1.cacheTgtSessionAt tgt now).2, s.2))

def pruneUnusableSessions : ClientProgram ω PrunedSessions := do
  let now ← outside (now W)
  let c ← .read
  .update fun c ↦ (c.pruneUnusableSessionsAt now).2
  return (c.pruneUnusableSessionsAt now).1

end Steps

section Sessions

def renewTgtSessionForRealm (realm : String) : ClientProgram ω AsRepSession := do
  let c ← .read
  let cached := if realm = c.client.realm then c.tgt.or c.tgtSessions[realm]? else c.tgtSessions[realm]?
  let tgt ← raise (okOr cached .noTgtSession)
  let options ← tgsReqOptions W
  let renewed ← outside (renewTgtWithConfig W P R tgt options)
  let renewedRealm ← raise (okOr (tgtRealm renewed) (.invalidTgtSession renewed.service.name))
  .update fun c ↦ (if renewedRealm = c.client.realm then c.clearServiceTicketCache else c).storeRenewed
    renewed renewedRealm
  return renewed

def renewTgt : ClientProgram ω AsRepSession := do
  let c ← .read
  let _ ← renewTgtSessionForRealm W P R c.client.realm
  expectTgt "TGT was just inserted"

/-- The branch of a login without long-term credentials. -/
def loginFromCache : ClientProgram ω AsRepSession := do
  let c ← .read
  match c.tgt with
  | none => fail .noClientCredentials
  | some tgt =>
    let now ← outside (now W)
    if sessionValidAt tgt now then expectTgt "TGT was just checked"
    else if sessionRenewableAt tgt now then renewTgt W P R
    else fail .noClientCredentials

def loginTgtWithCredentials (client : Principal) (options : AsReqOptions) :
    TokioClientCredentials → Program ω Error AsRepSession
  | .password password => loginTgtWithPasswordConfig W P R client password options
  | .keytab keytab => loginTgtWithKeytabConfig W P R client keytab options

def loginWithCredentials (credentials : TokioClientCredentials) : ClientProgram ω AsRepSession := do
  let c ← .read
  let options ← asReqOptions W
  let session ← outside (loginTgtWithCredentials W P R c.client options credentials)
  .update fun c ↦ { c with tgtSessions := ∅ }
  cacheTgtSession W session
  .update clearServiceTicketCache
  expectTgt "TGT was just inserted"

def login : ClientProgram ω AsRepSession := do
  let c ← .read
  match c.credentials with
  | none => loginFromCache W P R
  | some credentials => loginWithCredentials W P R credentials

def affirmLogin : ClientProgram ω AsRepSession := do
  let c ← .read
  match c.tgt with
  | none => login W P R
  | some tgt =>
    let now ← outside (now W)
    if sessionValidAt tgt now then expectTgt "TGT was just checked"
    else if sessionRenewableAt tgt now then renewTgt W P R
    else login W P R

def loginIfPossible : ClientProgram ω AsRepSession := do
  let c ← .read
  match c.credentials with
  | none => fail .noClientCredentials
  | some _ => login W P R

def ensureTgt : ClientProgram ω AsRepSession := do
  let c ← .read
  match c.tgt with
  | none => loginIfPossible W P R
  | some tgt =>
    let now ← outside (now W)
    if sessionValidAt tgt now ∧ ¬ sessionRefreshDueAt tgt now then return tgt
    else if sessionRenewableAt tgt now then renewTgt W P R
    else if sessionValidAt tgt now ∧ c.credentials = none then return tgt
    else loginIfPossible W P R

def refreshTgtIfNeeded : ClientProgram ω AsRepSession := do
  let _ ← ensureTgt W P R
  let c ← .read
  raise (okOr c.tgt .noTgtSession)

end Sessions

section Tickets

def cachedServiceTicket (service : Principal) : ClientProgram ω (Option TgsRepSession) := do
  let c ← .read
  let service := c.resolveServicePrincipal service
  match c.serviceTickets[serviceCacheKey service]? with
  | none => return none
  | some ticket =>
    let now ← outside (now W)
    return if sessionValidAt ticket now then some { ticket with service } else none

def cachedTgtSessionForRealm (realm : String) : ClientProgram ω (Option AsRepSession) := do
  let c ← .read
  match c.tgtSessions[realm]? with
  | none => return none
  | some tgt =>
    let now ← outside (now W)
    return if sessionValidAt tgt now then some tgt else none

/-- A renewal that the KDC refuses is no error here. -/
def renewCachedTgtSessionForRealm (realm : String) : ClientProgram ω (Option AsRepSession) := do
  let c ← .read
  match c.tgtSessions[realm]? with
  | none => return none
  | some tgt =>
    let now ← outside (now W)
    if ¬ sessionRenewableAt tgt now then return none
    else
      let options ← tgsReqOptions W
      let renewed ← .attempt (outside (renewTgtWithConfig W P R tgt options))
      match renewed with
      | .error _ => return none
      | .ok renewed =>
        let renewedRealm ← raise (okOr (tgtRealm renewed) (.invalidTgtSession renewed.service.name))
        .update fun c ↦ c.storeRenewed renewed renewedRealm
        return some renewed

def cachedOrRenewedTicket (service : Principal) : ClientProgram ω (Option TgsRepSession) := do
  let c ← .read
  match c.serviceTickets[serviceCacheKey service]? with
  | none => return none
  | some ticket =>
    let now ← outside (now W)
    if sessionValidAt ticket now then return some { ticket with service }
    else if ¬ sessionRenewableAt ticket now then return none
    else
      let options ← tgsReqOptions W
      let renewed ← .attempt (outside (renewTicketWithConfig W P R ticket options))
      match renewed with
      | .error _ => return none
      | .ok renewed =>
        cacheServiceTicket W { renewed with service }
        return some { renewed with service }

def startingTgt (realm : String) : ClientProgram ω AsRepSession := do
  let c ← .read
  let cached ← cachedTgtSessionForRealm W realm
  match cached with
  | some tgt => return tgt
  | none =>
    if realm = c.client.realm then ensureTgt W P R
    else
      let renewed ← renewCachedTgtSessionForRealm W P R realm
      match renewed with
      | some tgt => return tgt
      | none => ensureTgt W P R

def cacheTgtSessions : List AsRepSession → ClientProgram ω Unit
  | [] => return ()
  | tgt :: tgts => do
    cacheTgtSession W tgt
    cacheTgtSessions tgts

def getServiceTicket (service : Principal) : ClientProgram ω TgsRepSession := do
  let c ← .read
  let service := c.resolveServicePrincipal service
  let cached ← cachedOrRenewedTicket W P R service
  match cached with
  | some ticket => return ticket
  | none =>
    let tgt ← startingTgt W P R service.realm
    let options ← tgsReqOptions W
    let result ← outside (getServiceTicketWithReferralTrace W P R c.config tgt service options)
    cacheTgtSessions W result.referralTgts
    cacheServiceTicket W result.ticket
    return result.ticket

end Tickets

section Constructors

def sameCcacheClientIdentity (left right : Principal) : Bool :=
  left.realm = right.realm ∧ left.components = right.components

def systemTimeFromU32Seconds (seconds : UInt32) : SystemTime where
  nanos := seconds.toNat * nanosPerSec
  lower := by
    have h := seconds.toNat_lt
    simp only [nanosPerSec]
    omega
  upper := by
    have h := seconds.toNat_lt
    simp only [nanosPerSec]
    omega

def ccacheCredentialSession (credential : CCache.Credential) : AsRepSession where
  client := credential.client
  service := credential.server
  sessionKey := credential.key
  ticket := credential.ticket
  ticketFlags := credential.ticketFlags
  authTime := systemTimeFromU32Seconds credential.times.authTime
  startTime := systemTimeFromU32Seconds
    (if credential.times.startTime = 0 then credential.times.authTime else credential.times.startTime)
  endTime := systemTimeFromU32Seconds credential.times.endTime
  renewTill := if credential.times.renewTill = 0 then none
    else some (systemTimeFromU32Seconds credential.times.renewTill)
  keyExpiration := none

/-- One turn of the loop over a cache's entries. A TGT that is not stored is no error. -/
def loadCredential (cache : CCache) (now : SystemTime) (credential : CCache.Credential) :
    ClientProgram ω Unit :=
  if sameCcacheClientIdentity credential.client cache.defaultPrincipal then
    let session := ccacheCredentialSession credential
    if isTgtPrincipal session.service then .update fun c ↦ (c.cacheTgtSessionAt session now).2
    else cacheServiceTicket W session
  else return ()

def loadCredentials (cache : CCache) (now : SystemTime) :
    List CCache.Credential → ClientProgram ω Unit
  | [] => return ()
  | credential :: credentials => do
    loadCredential W cache now credential
    loadCredentials cache now credentials

def loadCcache (cache : CCache) : ClientProgram ω Unit := do
  let now ← outside (now W)
  loadCredentials W cache now cache.entries

def fromCcache (config : Config) (cache : CCache) (w : ω) : TokioClient × ω :=
  ((loadCcache W cache).exec (.new config cache.defaultPrincipal none, w)).2

def fromTgtSession (config : Config) (tgt : AsRepSession) (w : ω) : TokioClient × ω :=
  ((cacheTgtSession W tgt).exec (.new config tgt.client none, w)).2

end Constructors

end TokioClient

end Client

end Rskrb5
