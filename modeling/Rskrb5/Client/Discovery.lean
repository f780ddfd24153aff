import Rskrb5.Client.Endpoints
import Rskrb5.Client.Network
import Rskrb5.Lib.Lists
import Rskrb5.Lib.Texts

namespace Rskrb5.Client

open Lib.Results Lib.Programs

inductive KdcEndpointSource
  | config
  | dnsSrv
  deriving DecidableEq

structure KdcEndpoint where
  protocol : KdcProtocol
  host : String
  port : UInt16
  source : KdcEndpointSource
  deriving DecidableEq

inductive TransportError
  | send (source : SendError)
  | invalidKdcEndpoint (value : String)
  | noRealm (realm : String)
  | noKpasswdServer (realm : String)
  | dnsResolverConfig (message : String)
  | dnsSrvLookup (realm : String) (protocol : KdcProtocol) (message : String)
  | noKdcEndpoints (realm : String) (protocol : KdcProtocol)
  | kdcEndpointFailures (realm : String) (protocol : KdcProtocol) (failures : List String)
  deriving DecidableEq

namespace KdcEndpoint

def configuredWithDefaultPort (protocol : KdcProtocol) (value : String) (defaultPort : UInt16) :
    Except TransportError KdcEndpoint := do
  let (host, port) ← (parseKdcEndpoint value.toList defaultPort).mapError fun e ↦ .invalidKdcEndpoint e.value
  return ⟨protocol, .ofList host, port, .config⟩

def configured (protocol : KdcProtocol) (value : String) : Except TransportError KdcEndpoint :=
  configuredWithDefaultPort protocol value 88

def authority (endpoint : KdcEndpoint) : String :=
  if ':' ∈ endpoint.host.toList ∧ endpoint.host.toList.head? ≠ some '[' then
    s!"[{endpoint.host}]:{endpoint.port}"
  else s!"{endpoint.host}:{endpoint.port}"

end KdcEndpoint

structure SrvRecord where
  priority : UInt16
  weight : UInt16
  target : String
  port : UInt16
  deriving DecidableEq

/-- One answer of a lookup. -/
inductive Answer
  | srv (record : SrvRecord)
  | other

/-- The resolver of the system, or the one that a variable of the environment names. The result of `override`
is whether it names one. -/
structure Resolver (ω : Type) where
  override : ω → Except String Bool
  build : ω → Except String Unit
  srvLookup : String → ω → Except String (List Answer) × ω
  lookupIp : String → ω → Except String (List String) × ω
  isIpAddr : String → Bool

namespace SrvRecord

def compare (left right : SrvRecord) : Ordering :=
  (Ord.compare left.priority right.priority).then <| (Ord.compare right.weight left.weight).then <|
    (Ord.compare left.target right.target).then (Ord.compare left.port right.port)

def le (left right : SrvRecord) : Bool := (left.compare right).isLE

end SrvRecord

/-- The records of a lookup in the order in which they are used. -/
def srvRecords (answers : List Answer) : List SrvRecord :=
  let records := answers.filterMap fun
    | .srv record => some { record with target := trimEndDots record.target }
    | .other => none
  (records.filter fun record ↦ record.target ≠ "" ∧ record.target ≠ ".").mergeSort SrvRecord.le

section Lookups

variable {ω : Type} (D : Resolver ω)

def dnsServerOverride : Program ω TransportError Bool :=
  .ofExec fun w ↦ ((D.override w).mapError fun message ↦ .dnsResolverConfig s!"RSKRB5_DNS_SERVER: {message}", w)

def dnsResolver : Program ω TransportError Unit := do
  let _ ← dnsServerOverride D
  .ofExec fun w ↦ ((D.build w).mapError .dnsResolverConfig, w)

/-- A name that no search domain is added to. -/
def lookupName (target : String) : String := if target.toList.getLast? = some '.' then target else s!"{target}."

def resolveDnsEndpointHost (realm : String) (protocol : KdcProtocol) (target : String) :
    Program ω TransportError String := do
  if D.isIpAddr target then return target
  else
    let addresses ← .ofExec fun w ↦ ((D.lookupIp (lookupName target) w).1.mapError fun source ↦
      .dnsSrvLookup realm protocol s!"target {target}: {source}", (D.lookupIp (lookupName target) w).2)
    liftM (okOr addresses.head? (TransportError.dnsSrvLookup realm protocol
      s!"target {target}: no address records found"))

def endpointOfRecord (realm : String) (protocol : KdcProtocol) (resolveTargets : Bool) (record : SrvRecord) :
    Program ω TransportError KdcEndpoint := do
  let host ← if resolveTargets then resolveDnsEndpointHost D realm protocol record.target else pure record.target
  return ⟨protocol, host, record.port, .dnsSrv⟩

def srvTransport : KdcProtocol → String
  | .udp => "_udp"
  | .auto => "_udp"
  | .tcp => "_tcp"

def srvQuery (service realm : String) (protocol : KdcProtocol) : String :=
  s!"{service}.{srvTransport protocol}.{realm}."

def discoverSrvEndpoints (service realm : String) (protocol : KdcProtocol) :
    Program ω TransportError (List KdcEndpoint) := do
  let query := srvQuery service realm protocol
  dnsResolver D
  let answers ← .ofExec fun w ↦
    ((D.srvLookup query w).1.mapError (.dnsSrvLookup realm protocol), (D.srvLookup query w).2)
  let resolveTargets ← dnsServerOverride D
  (srvRecords answers).mapM (endpointOfRecord D realm protocol resolveTargets)

def discoverKdcsWithDns (realm : String) (protocol : KdcProtocol) : Program ω TransportError (List KdcEndpoint) := do
  let endpoints ← discoverSrvEndpoints D "_kerberos" realm protocol
  if endpoints = [] then throw (.noKdcEndpoints realm protocol) else return endpoints

def discoverKpasswdServersWithDns (realm : String) (protocol : KdcProtocol) :
    Program ω TransportError (List KdcEndpoint) := do
  let admin : Program ω TransportError (List KdcEndpoint) := do
    let endpoints ← discoverSrvEndpoints D "_kerberos-adm" realm protocol
    if endpoints = [] then throw (.noKdcEndpoints realm protocol) else return endpoints
  match ← .attempt (discoverSrvEndpoints D "_kpasswd" realm protocol) with
  | .ok (endpoint :: endpoints) => return endpoint :: endpoints
  | _ => admin

end Lookups

section Discovery

variable {ω : Type} (D : Resolver ω) (config : Krb5Conf.Config)

def realmEntry (realm : String) : Option Krb5Conf.Realm := config.realms.find? (·.realm = realm)

def discoverKdcs (realm : String) (protocol : KdcProtocol) : Program ω TransportError (List KdcEndpoint) := do
  let configured := ((realmEntry config realm).map (·.kdc)).getD []
  if configured ≠ [] then liftM (configured.mapM (KdcEndpoint.configured protocol))
  else if config.libdefaults.dnsLookupKdc then discoverKdcsWithDns D realm protocol
  else if (realmEntry config realm).isSome then throw (.noKdcEndpoints realm protocol)
  else throw (.noRealm realm)

def configuredKpasswdServers (realm : String) : Except TransportError (List String) := do
  let entry ← okOr (realmEntry config realm) (.noRealm realm)
  ensure (entry.kpasswdServer ≠ []) (.noKpasswdServer realm)
  return entry.kpasswdServer

def discoverKpasswdServers (realm : String) (protocol : KdcProtocol) :
    Program ω TransportError (List KdcEndpoint) := do
  let configured := ((realmEntry config realm).map (·.kpasswdServer)).getD []
  if configured ≠ [] then liftM (configured.mapM (KdcEndpoint.configuredWithDefaultPort protocol · 464))
  else if config.libdefaults.dnsLookupKdc then discoverKpasswdServersWithDns D realm protocol
  else
    liftM do
      let servers ← configuredKpasswdServers config realm
      servers.mapM (KdcEndpoint.configuredWithDefaultPort protocol · 464)

end Discovery

section Order

open Std

namespace SrvRecord

theorem compare_eq_compareLex : compare = compareLex (compareOn priority)
    (compareLex (fun left right ↦ compareOn weight right left) (compareLex (compareOn target) (compareOn port))) := rfl

instance : TransCmp compare := compare_eq_compareLex ▸ inferInstance

theorem eq_of_compare {left right : SrvRecord} (h : left.compare right = .eq) : left = right := by
  simp only [compare, Ordering.then_eq_eq, LawfulEqOrd.compare_eq_iff_eq] at h
  obtain ⟨hpriority, hweight, htarget, hport⟩ := h
  cases left
  cases right
  simp_all

instance : LawfulEqCmp compare := ⟨eq_of_compare⟩

/-- A record that is used before another one. -/
def Precedes (left right : SrvRecord) : Prop :=
  left.priority < right.priority ∨ left.priority = right.priority ∧ right.weight ≤ left.weight

theorem precedes_of_isLE {left right : SrvRecord} (h : (left.compare right).isLE) : left.Precedes right := by
  rcases Ordering.isLE_then_iff_or.mp h with hlt | ⟨heq, h⟩
  · exact .inl (compareOfLessAndEq_eq_lt.mp hlt)
  · have hweight := Ordering.isLE_left_of_isLE_then h
    exact .inr ⟨LawfulEqOrd.eq_of_compare heq, (LawfulOrderOrd.isLE_compare _ _).mp hweight⟩

end SrvRecord

/-- The order in which the answers come makes no difference. -/
theorem srvRecords_eq_of_perm {answers answers' : List Answer} (h : answers.Perm answers') :
    srvRecords answers = srvRecords answers' :=
  Lib.Lists.mergeSort_eq_of_perm ((h.filterMap _).filter _)

theorem srvRecords_pairwise (answers : List Answer) : (srvRecords answers).Pairwise SrvRecord.Precedes :=
  (Lib.Lists.pairwise_mergeSort_isLE SrvRecord.compare _).imp SrvRecord.precedes_of_isLE

/-- The record in an answer, its target without the dots at the end. The root of the domains is no target. -/
def Answer.usable : Answer → Option SrvRecord
  | .srv record =>
    if trimEndDots record.target = "" then none else some { record with target := trimEndDots record.target }
  | .other => none

theorem trimEndDots_ne_dot (domainName : String) : trimEndDots domainName ≠ "." := by
  intro h
  have htrimmed : Lib.Texts.trimEndMatches (· = '.') domainName.toList = ['.'] := String.ofList_injective h
  have hlast := Lib.Texts.getLast?_trimEndMatches (· = '.') domainName.toList '.' (htrimmed ▸ rfl)
  exact absurd hlast (by simp)

/-- Every usable answer is kept, as often as it is given. -/
theorem srvRecords_perm (answers : List Answer) : (srvRecords answers).Perm (answers.filterMap Answer.usable) := by
  refine (List.mergeSort_perm _ _).trans (.of_eq ?_)
  rw [List.filter_filterMap]
  refine List.filterMap_congr fun answer _ ↦ ?_
  cases answer with
  | other => rfl
  | srv record =>
    by_cases hroot : trimEndDots record.target = ""
    · simp [Answer.usable, hroot]
    · simp [Answer.usable, hroot, trimEndDots_ne_dot]

end Order

section Reordered

variable {ω : Type} {D D' : Resolver ω}

/-- The same answers, listed in another order. -/
inductive Shuffled : Except String (List Answer) → Except String (List Answer) → Prop
  | ok {answers answers' : List Answer} (h : answers.Perm answers') : Shuffled (.ok answers) (.ok answers')
  | error (message : String) : Shuffled (.error message) (.error message)

/-- A resolver that differs from another in the order in which lookups list their answers. -/
structure Resolver.Reorders (D D' : Resolver ω) : Prop where
  override_eq : D'.override = D.override
  build_eq : D'.build = D.build
  lookupIp_eq : D'.lookupIp = D.lookupIp
  isIpAddr_eq : D'.isIpAddr = D.isIpAddr
  state_eq : ∀ query w, (D'.srvLookup query w).2 = (D.srvLookup query w).2
  shuffled : ∀ query w, Shuffled (D.srvLookup query w).1 (D'.srvLookup query w).1

theorem endpointOfRecord_of_reorders (h : D.Reorders D') (realm : String) (protocol : KdcProtocol)
    (resolveTargets : Bool) :
    endpointOfRecord D' realm protocol resolveTargets = endpointOfRecord D realm protocol resolveTargets := by
  funext record
  simp only [endpointOfRecord, resolveDnsEndpointHost, h.lookupIp_eq, h.isIpAddr_eq]

theorem discoverSrvEndpoints_of_reorders (h : D.Reorders D') (service realm : String) (protocol : KdcProtocol) :
    discoverSrvEndpoints D' service realm protocol = discoverSrvEndpoints D service realm protocol := by
  have hoverride : dnsServerOverride D' = dnsServerOverride D := by
    rw [dnsServerOverride, h.override_eq, dnsServerOverride]
  have hresolver : dnsResolver D' = dnsResolver D := by simp only [dnsResolver, hoverride, h.build_eq]
  refine Program.ext fun w ↦ ?_
  simp only [discoverSrvEndpoints, hoverride, hresolver, endpointOfRecord_of_reorders h, Program.exec_bind]
  rcases (dnsResolver D).exec w with ⟨e | _, w₁⟩
  · rfl
  · simp only [Program.exec_ofExec, h.state_eq]
    have hshuffled := h.shuffled (srvQuery service realm protocol) w₁
    revert hshuffled
    generalize (D.srvLookup (srvQuery service realm protocol) w₁).1 = result
    generalize (D'.srvLookup (srvQuery service realm protocol) w₁).1 = result'
    rintro (hperm | message)
    · simp only [Except.mapError, srvRecords_eq_of_perm hperm]
    · rfl

theorem discoverKdcs_of_reorders (h : D.Reorders D') (config : Krb5Conf.Config) :
    discoverKdcs D' config = discoverKdcs D config := by
  funext realm protocol
  simp only [discoverKdcs, discoverKdcsWithDns, discoverSrvEndpoints_of_reorders h]

theorem discoverKpasswdServers_of_reorders (h : D.Reorders D') (config : Krb5Conf.Config) :
    discoverKpasswdServers D' config = discoverKpasswdServers D config := by
  funext realm protocol
  simp only [discoverKpasswdServers, discoverKpasswdServersWithDns, discoverSrvEndpoints_of_reorders h]

end Reordered

end Rskrb5.Client
