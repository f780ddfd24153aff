import Rskrb5.Client.Discovery
import Rskrb5.Lib.Attempts

namespace Rskrb5.Client

open Lib.Results Lib.Programs Lib.Attempts

section Sends

variable {ω : Type} (N : Network ω) (T : TokioKdcTransport) (R : Rasn) (D : Resolver ω) (config : Krb5Conf.Config)

def sendTo (request : Bytes) (endpoint : KdcEndpoint) : Program ω SendError Bytes :=
  send N T R endpoint.protocol endpoint.host endpoint.port request

def failureText (failure : KdcEndpoint × SendError) : String := failure.1.authority ++ ": " ++ failure.2.text

/-- The loop over endpoints, with the failures so far. -/
def sendToRemaining (realm : String) (protocol : KdcProtocol) (request : Bytes) :
    List KdcEndpoint → List String → Program ω TransportError Bytes
  | [], failures => throw (.kdcEndpointFailures realm protocol failures)
  | endpoint :: endpoints, failures => do
    match ← .mapStop .send (.attempt (sendTo N T R request endpoint)) with
    | .ok response => return response
    | .error error =>
      sendToRemaining realm protocol request endpoints (failures ++ [failureText (endpoint, error)])

def sendToEndpoints (realm : String) (protocol : KdcProtocol) (endpoints : List KdcEndpoint) (request : Bytes) :
    Program ω TransportError Bytes :=
  if endpoints = [] then throw (.noKdcEndpoints realm protocol)
  else sendToRemaining N T R realm protocol request endpoints []

/-- How the endpoints of a realm are found. -/
abbrev Discover (ω : Type) := String → KdcProtocol → Program ω TransportError (List KdcEndpoint)

def sendExplicit (discover : Discover ω) (protocol : KdcProtocol) (realm : String) (request : Bytes) :
    Program ω TransportError Bytes := do
  let endpoints ← discover realm protocol
  sendToEndpoints N T R realm protocol endpoints request

def autoUsesUdpFirst (requestLen : ℕ) : Bool :=
  let limit := config.libdefaults.udpPreferenceLimit
  limit ≠ 1 ∧ 0 ≤ limit ∧ requestLen ≤ limit.toInt.toNat

/-- The protocols of an automatic send, in their order. -/
def autoProtocols (requestLen : ℕ) : KdcProtocol × KdcProtocol :=
  if autoUsesUdpFirst config requestLen then (.udp, .tcp) else (.tcp, .udp)

def sendAuto (discover : Discover ω) (realm : String) (request : Bytes) : Program ω TransportError Bytes := do
  let (first, second) := autoProtocols config request.length
  match ← .attempt (sendExplicit N T R discover first realm request) with
  | .ok response =>
    if first = .udp ∧ isResponseTooBig R response then sendExplicit N T R discover second realm request
    else return response
  | .error _ => sendExplicit N T R discover second realm request

def sendToRealmExplicit (protocol : KdcProtocol) (realm : String) (request : Bytes) :
    Program ω TransportError Bytes :=
  sendExplicit N T R (discoverKdcs D config) protocol realm request

def sendToRealmAuto (realm : String) (request : Bytes) : Program ω TransportError Bytes :=
  sendAuto N T R config (discoverKdcs D config) realm request

def sendToRealmOver (protocol : KdcProtocol) (realm : String) (request : Bytes) : Program ω TransportError Bytes :=
  if protocol = .auto then sendToRealmAuto N T R D config realm request
  else sendToRealmExplicit N T R D config protocol realm request

def sendToKpasswdRealmExplicit (protocol : KdcProtocol) (realm : String) (request : Bytes) :
    Program ω TransportError Bytes :=
  sendExplicit N T R (discoverKpasswdServers D config) protocol realm request

def sendToKpasswdRealmAuto (realm : String) (request : Bytes) : Program ω TransportError Bytes :=
  sendAuto N T R config (discoverKpasswdServers D config) realm request

def sendToKpasswdRealmOver (protocol : KdcProtocol) (realm : String) (request : Bytes) :
    Program ω TransportError Bytes :=
  if protocol = .auto then sendToKpasswdRealmAuto N T R D config realm request
  else sendToKpasswdRealmExplicit N T R D config protocol realm request

end Sends

section Answers

variable {ω : Type} (N : Network ω) (T : TokioKdcTransport) (R : Rasn) (config : Krb5Conf.Config)
  (discover : Discover ω)

/-- The answer of the first endpoint that gives one, in the order of their discovery. -/
structure FirstAnswer (protocol : KdcProtocol) (realm : String) (request : Bytes) (w : ω) (response : Bytes)
    (w' : ω) : Prop where
  answered : ∃ before endpoint after failures w₁ w₂,
    (discover realm protocol).exec w = (.ok (before ++ endpoint :: after), w₁) ∧
      AllFail (sendTo N T R request) before w₁ failures w₂ ∧
      (sendTo N T R request endpoint).exec w₂ = (.ok response, w')

/-- No endpoint is found, or each of them fails. -/
inductive NoAnswer (protocol : KdcProtocol) (realm : String) (request : Bytes) (w : ω) :
    TransportError → ω → Prop
  | undiscovered {error : TransportError} {w' : ω} (h : (discover realm protocol).exec w = (.error error, w')) :
      NoAnswer protocol realm request w error w'
  | none {w' : ω} (h : (discover realm protocol).exec w = (.ok [], w')) :
      NoAnswer protocol realm request w (.noKdcEndpoints realm protocol) w'
  | failed {endpoints : List KdcEndpoint} {failures : List (KdcEndpoint × SendError)} {w₁ w' : ω}
      (h : (discover realm protocol).exec w = (.ok endpoints, w₁)) (hne : endpoints ≠ [])
      (hfails : AllFail (sendTo N T R request) endpoints w₁ failures w') :
      NoAnswer protocol realm request w (.kdcEndpointFailures realm protocol (failures.map failureText)) w'

variable {N T R config discover}

/-- The loop tries each endpoint, and tells of the failures in the order in which they happened. -/
theorem exec_sendToRemaining (realm : String) (protocol : KdcProtocol) (request : Bytes)
    (endpoints : List KdcEndpoint) (failures : List String) (w : ω) :
    (sendToRemaining N T R realm protocol request endpoints failures).exec w =
      (Program.mapStop (fun failed ↦ TransportError.kdcEndpointFailures realm protocol
        (failures ++ failed.map failureText)) (tryEach (sendTo N T R request) endpoints)).exec w := by
  induction endpoints generalizing failures w with
  | nil =>
    simp only [sendToRemaining, tryEach, Program.mapStop, Program.exec_ofExec, Program.exec_throw, Except.mapError,
      List.map_nil, List.append_nil]
  | cons endpoint endpoints ih =>
    rw [sendToRemaining, Program.exec_bind]
    simp only [Program.mapStop, Program.attempt, Program.exec_ofExec, Except.mapError, exec_tryEach_cons]
    rcases (sendTo N T R request endpoint).exec w with ⟨error | response, w₁⟩
    · dsimp only
      rw [ih]
      simp only [Program.mapStop, Program.exec_ofExec]
      rcases (tryEach (sendTo N T R request) endpoints).exec w₁ with ⟨failed | response, w₂⟩
      · simp only [Except.mapError, List.map_cons, List.append_assoc, List.singleton_append]
      · rfl
    · rfl

theorem exec_sendToEndpoints_eq_ok {realm : String} {protocol : KdcProtocol} {request : Bytes}
    {endpoints : List KdcEndpoint} {w w' : ω} {response : Bytes} :
    (sendToEndpoints N T R realm protocol endpoints request).exec w = (.ok response, w') ↔
      ∃ before endpoint after failures w₁, endpoints = before ++ endpoint :: after ∧
        AllFail (sendTo N T R request) before w failures w₁ ∧
        (sendTo N T R request endpoint).exec w₁ = (.ok response, w') := by
  rw [← exec_tryEach_eq_ok, sendToEndpoints]
  split
  · next h =>
    subst h
    simp [tryEach]
  · rw [exec_sendToRemaining, Program.exec_mapStop_eq_ok]

variable {realm : String} {protocol : KdcProtocol} {request response : Bytes} {w w' : ω}

theorem exec_sendExplicit_eq_ok : (sendExplicit N T R discover protocol realm request).exec w = (.ok response, w') ↔
    FirstAnswer N T R discover protocol realm request w response w' := by
  simp only [sendExplicit, Program.exec_bind_eq_ok, exec_sendToEndpoints_eq_ok]
  constructor
  · rintro ⟨_, w₁, hdiscover, before, endpoint, after, failures, w₂, rfl, hfails, hanswer⟩
    exact ⟨before, endpoint, after, failures, w₁, w₂, hdiscover, hfails, hanswer⟩
  · rintro ⟨before, endpoint, after, failures, w₁, w₂, hdiscover, hfails, hanswer⟩
    exact ⟨_, w₁, hdiscover, before, endpoint, after, failures, w₂, rfl, hfails, hanswer⟩

theorem exec_sendExplicit_eq_error {error : TransportError} :
    (sendExplicit N T R discover protocol realm request).exec w = (.error error, w') ↔
      NoAnswer N T R discover protocol realm request w error w' := by
  rw [sendExplicit, Program.exec_bind]
  rcases hdiscover : (discover realm protocol).exec w with ⟨e | endpoints, w₁⟩
  · constructor
    · intro h
      obtain ⟨he, rfl⟩ := Prod.mk.inj h
      obtain rfl := Except.error.inj he
      exact .undiscovered hdiscover
    · rintro (h | h | ⟨h, -, -⟩)
      · obtain ⟨he, rfl⟩ := Prod.mk.inj (hdiscover.symm.trans h)
        obtain rfl := Except.error.inj he
        rfl
      · cases hdiscover.symm.trans h
      · cases hdiscover.symm.trans h
  · dsimp only
    rw [sendToEndpoints]
    split
    · next hnone =>
      subst hnone
      constructor
      · intro h
        obtain ⟨he, rfl⟩ := Prod.mk.inj h
        obtain rfl := Except.error.inj he
        exact .none hdiscover
      · rintro (h | h | ⟨h, hne, -⟩)
        · cases hdiscover.symm.trans h
        · obtain ⟨-, rfl⟩ := Prod.mk.inj (hdiscover.symm.trans h)
          rfl
        · obtain ⟨hnone, -⟩ := Prod.mk.inj (hdiscover.symm.trans h)
          exact absurd (Except.ok.inj hnone).symm hne
    · next hne =>
      rw [exec_sendToRemaining, Program.mapStop, Program.exec_ofExec]
      constructor
      · intro h
        rcases hfails : (tryEach (sendTo N T R request) endpoints).exec w₁ with ⟨failures | a, w₂⟩
        · rw [hfails] at h
          obtain ⟨he, rfl⟩ := Prod.mk.inj h
          obtain rfl := Except.error.inj he
          exact .failed hdiscover hne (exec_tryEach_eq_error.mp hfails)
        · rw [hfails] at h
          cases h
      · rintro (h | h | ⟨h, -, hfails⟩)
        · cases hdiscover.symm.trans h
        · obtain ⟨hnone, -⟩ := Prod.mk.inj (hdiscover.symm.trans h)
          exact absurd (Except.ok.inj hnone) hne
        · obtain ⟨hsame, rfl⟩ := Prod.mk.inj (hdiscover.symm.trans h)
          obtain rfl := Except.ok.inj hsame
          rw [exec_tryEach_eq_error.mpr hfails]
          rfl

variable (N T R discover) in
/-- The first protocol of an automatic send is of no use: it gives no answer, or a datagram that is too small. -/
def GivesUp (first : KdcProtocol) (realm : String) (request : Bytes) (w w' : ω) : Prop :=
  (∃ error, NoAnswer N T R discover first realm request w error w') ∨
    first = .udp ∧ ∃ response, FirstAnswer N T R discover first realm request w response w' ∧
      isResponseTooBig R response = true

variable (N T R config discover) in
/-- The answer to an automatic send. -/
def AutoAnswer (realm : String) (request : Bytes) (w : ω) (response : Bytes) (w' : ω) : Prop :=
  (FirstAnswer N T R discover (autoProtocols config request.length).1 realm request w response w' ∧
    ¬ ((autoProtocols config request.length).1 = .udp ∧ isResponseTooBig R response = true)) ∨
  ∃ w₁, GivesUp N T R discover (autoProtocols config request.length).1 realm request w w₁ ∧
    FirstAnswer N T R discover (autoProtocols config request.length).2 realm request w₁ response w'

theorem exec_sendAuto_eq_ok : (sendAuto N T R config discover realm request).exec w = (.ok response, w') ↔
    AutoAnswer N T R config discover realm request w response w' := by
  rw [sendAuto, AutoAnswer]
  generalize autoProtocols config request.length = protocols
  obtain ⟨first, second⟩ := protocols
  dsimp only
  rw [Program.exec_bind, Program.attempt, Program.exec_ofExec]
  simp only [← exec_sendExplicit_eq_ok, GivesUp, ← exec_sendExplicit_eq_error]
  rcases (sendExplicit N T R discover first realm request).exec w with ⟨error | answer, w₁⟩
  · simp
  · dsimp only
    by_cases htoo : first = .udp ∧ isResponseTooBig R answer = true
    · rw [if_pos htoo]
      constructor
      · exact fun h ↦ .inr ⟨w₁, .inr ⟨htoo.1, answer, rfl, htoo.2⟩, h⟩
      · rintro (⟨hsame, hsmall⟩ | ⟨w₂, ⟨error, hsame⟩ | ⟨-, r, hsame, -⟩, h⟩)
        · obtain ⟨hanswer, -⟩ := Prod.mk.inj hsame
          exact absurd (Except.ok.inj hanswer ▸ htoo) hsmall
        · cases hsame
        · obtain ⟨-, rfl⟩ := Prod.mk.inj hsame
          exact h
    · rw [if_neg htoo]
      constructor
      · intro h
        obtain ⟨hanswer, rfl⟩ := Prod.mk.inj h
        obtain rfl := Except.ok.inj hanswer
        exact .inl ⟨rfl, htoo⟩
      · rintro (⟨hsame, -⟩ | ⟨w₂, ⟨error, hsame⟩ | ⟨hudp, r, hsame, hbig⟩, h⟩)
        · exact hsame
        · cases hsame
        · obtain ⟨hanswer, -⟩ := Prod.mk.inj hsame
          obtain rfl := Except.ok.inj hanswer
          exact absurd ⟨hudp, hbig⟩ htoo

/-- A send gives the answer of the first endpoint that answers, and no endpoint behind it is contacted: over one
protocol the endpoints of the realm in the order of their discovery, and where the protocol is chosen
automatically, those of the second protocol exactly when the first one gives no answer or a datagram that tells of a
larger one. This holds of KDCs and of servers for password changes. -/
theorem sends_until_answered (N : Network ω) (T : TokioKdcTransport) (R : Rasn) (D : Resolver ω)
    (config : Krb5Conf.Config) (protocol : KdcProtocol) (realm : String) (request response : Bytes) (w w' : ω) :
    ((sendToRealmOver N T R D config protocol realm request).exec w = (.ok response, w') ↔
      if protocol = .auto then AutoAnswer N T R config (discoverKdcs D config) realm request w response w'
      else FirstAnswer N T R (discoverKdcs D config) protocol realm request w response w') ∧
    ((sendToKpasswdRealmOver N T R D config protocol realm request).exec w = (.ok response, w') ↔
      if protocol = .auto then AutoAnswer N T R config (discoverKpasswdServers D config) realm request w response w'
      else FirstAnswer N T R (discoverKpasswdServers D config) protocol realm request w response w') := by
  rw [sendToRealmOver, sendToKpasswdRealmOver]
  split
  · exact ⟨exec_sendAuto_eq_ok, exec_sendAuto_eq_ok⟩
  · exact ⟨exec_sendExplicit_eq_ok, exec_sendExplicit_eq_ok⟩

end Answers

section Listings

variable {ω : Type} {D D' : Resolver ω}

/-- The host that a target stands for: the target itself, unless it is to be resolved and is a name. -/
inductive HostOf (D : Resolver ω) : Bool → String → String → Prop
  | named (target : String) : HostOf D false target target
  | address {target : String} (h : D.isIpAddr target = true) : HostOf D true target target
  | resolved {target host : String} {more : List String} {w : ω} (h : D.isIpAddr target = false)
      (hlookup : (D.lookupIp (lookupName target) w).1 = .ok (host :: more)) : HostOf D true target host

/-- What an endpoint takes from its record. -/
structure FoundBy (D : Resolver ω) (resolveTargets : Bool) (protocol : KdcProtocol) (record : SrvRecord)
    (endpoint : KdcEndpoint) : Prop where
  protocol_eq : endpoint.protocol = protocol
  host : HostOf D resolveTargets record.target endpoint.host
  port_eq : endpoint.port = record.port
  source_eq : endpoint.source = .dnsSrv

theorem returns_resolveDnsEndpointHost (realm : String) (protocol : KdcProtocol) (target : String) :
    Returns (resolveDnsEndpointHost D realm protocol target) (HostOf D true target) := by
  rw [resolveDnsEndpointHost]
  split
  · next haddress => exact .pure (.address haddress)
  · next haddress =>
    intro w _
    rw [Program.exec_bind, Program.exec_ofExec]
    rcases hlookup : (D.lookupIp (lookupName target) w).1 with source | addresses
    · trivial
    · cases addresses with
      | nil => trivial
      | cons host more => exact .resolved (Bool.eq_false_of_not_eq_true haddress) hlookup

theorem returns_endpointOfRecord (realm : String) (protocol : KdcProtocol) (resolveTargets : Bool)
    (record : SrvRecord) : Returns (endpointOfRecord D realm protocol resolveTargets record)
      (FoundBy D resolveTargets protocol record) := by
  rw [endpointOfRecord]
  cases resolveTargets with
  | true =>
    exact (returns_resolveDnsEndpointHost realm protocol record.target).bind
      fun host hhost ↦ .pure ⟨rfl, hhost, rfl, rfl⟩
  | false => exact .pure ⟨rfl, .named record.target, rfl, rfl⟩

theorem discoverSrvEndpoints_eq_ok {service realm : String} {protocol : KdcProtocol} {w w' : ω}
    {endpoints : List KdcEndpoint} (h : (discoverSrvEndpoints D service realm protocol).exec w = (.ok endpoints, w')) :
    ∃ w₁ w₂ answers resolveTargets, D.srvLookup (srvQuery service realm protocol) w₁ = (.ok answers, w₂) ∧
      D.override w₂ = .ok resolveTargets ∧
      List.Forall₂ (FoundBy D resolveTargets protocol) (srvRecords answers) endpoints := by
  simp only [discoverSrvEndpoints, dnsServerOverride, Program.exec_bind_eq_ok, Program.exec_ofExec, Prod.mk.injEq,
    mapError_eq_ok] at h
  obtain ⟨_, w₁, -, answers, w₂, ⟨hlookup, rfl⟩, resolveTargets, w₃, ⟨hoverride, -⟩, hfound⟩ := h
  have hreturns := Returns.mapM (returns_endpointOfRecord (D := D) realm protocol resolveTargets) (srvRecords answers)
  exact ⟨w₁, _, answers, resolveTargets, Prod.ext hlookup rfl, hoverride,
    hreturns.of_exec (s := w₃) (by rw [hfound])⟩

/-- How a name server lists the records of a realm makes no difference to any send. The endpoints found are those of
the targets and ports of its usable records, each as often as it is listed, by their priorities, and among those of
one priority by their weights, the largest one first. -/
theorem sends_ignore_listing (h : D.Reorders D') (N : Network ω) (T : TokioKdcTransport) (R : Rasn)
    (config : Krb5Conf.Config) :
    sendToRealmOver N T R D' config = sendToRealmOver N T R D config ∧
      sendToKpasswdRealmOver N T R D' config = sendToKpasswdRealmOver N T R D config ∧
      ∀ service realm protocol w endpoints w',
        (discoverSrvEndpoints D' service realm protocol).exec w = (.ok endpoints, w') →
        ∃ w₁ w₂ answers resolveTargets, D.srvLookup (srvQuery service realm protocol) w₁ = (.ok answers, w₂) ∧
          D.override w₂ = .ok resolveTargets ∧
          List.Forall₂ (FoundBy D resolveTargets protocol) (srvRecords answers) endpoints ∧
          (srvRecords answers).Perm (answers.filterMap Answer.usable) ∧
          (srvRecords answers).Pairwise SrvRecord.Precedes := by
  refine ⟨?_, ?_, fun service realm protocol w endpoints w' hfound ↦ ?_⟩
  · funext protocol realm request
    simp only [sendToRealmOver, sendToRealmAuto, sendToRealmExplicit, discoverKdcs_of_reorders h]
  · funext protocol realm request
    simp only [sendToKpasswdRealmOver, sendToKpasswdRealmAuto, sendToKpasswdRealmExplicit,
      discoverKpasswdServers_of_reorders h]
  · rw [discoverSrvEndpoints_of_reorders h] at hfound
    obtain ⟨w₁, w₂, answers, resolveTargets, hlookup, hoverride, hrecords⟩ := discoverSrvEndpoints_eq_ok hfound
    exact ⟨w₁, w₂, answers, resolveTargets, hlookup, hoverride, hrecords, srvRecords_perm answers,
      srvRecords_pairwise answers⟩

/-- Two KDCs, the second of which is to be used first. -/
def twoRecords : List Answer := [.srv ⟨20, 0, "b.a.", 88⟩, .srv ⟨10, 0, "a.a.", 88⟩]

def listing (answers : List Answer) : Resolver Unit where
  override _ := .ok false
  build _ := .ok ()
  srvLookup _ w := (.ok answers, w)
  lookupIp _ w := (.error "no addresses", w)
  isIpAddr _ := false

/-- Every KDC answers with its name. -/
def namedNetwork : Network Unit where
  udp host _ _ w := (.ok (asBytes host), w)
  tcp host _ _ w := (.ok ⟨asBytes host, .timedOut⟩, w)

def listedConfig : Krb5Conf.Config :=
  { Krb5Conf.Config.new ⟨none, none⟩ with
    libdefaults := { Krb5Conf.LibDefaults.new ⟨none, none⟩ with dnsLookupKdc := true } }

theorem srvRecords_two : srvRecords twoRecords = [⟨10, 0, "a.a", 88⟩, ⟨20, 0, "b.a", 88⟩] := by
  have hkept : srvRecords twoRecords.reverse =
      List.mergeSort [⟨10, 0, "a.a", 88⟩, ⟨20, 0, "b.a", 88⟩] SrvRecord.le := by
    rw [srvRecords]
    exact congrArg (List.mergeSort · SrvRecord.le) (by decide +kernel)
  rw [← srvRecords_eq_of_perm (List.reverse_perm _), hkept]
  exact List.mergeSort_of_pairwise (by decide)

theorem discoverSrvEndpoints_two :
    (discoverSrvEndpoints (listing twoRecords.reverse) "_kerberos" "A" .udp).exec () =
      (.ok [⟨.udp, "a.a", 88, .dnsSrv⟩, ⟨.udp, "b.a", 88, .dnsSrv⟩], ()) := by
  have hrecords := (srvRecords_eq_of_perm (List.reverse_perm twoRecords)).trans srvRecords_two
  change ((srvRecords twoRecords.reverse).mapM
    (endpointOfRecord (listing twoRecords.reverse) "A" .udp false)).exec () = _
  rw [hrecords]
  rfl

theorem sends_ignore_listing_two :
    (sendToRealmOver namedNetwork .new (.ofTable {}) (listing twoRecords.reverse) listedConfig .udp "A" [0]).exec () =
      (sendToRealmOver namedNetwork .new (.ofTable {}) (listing twoRecords) listedConfig .udp "A" [0]).exec () ∧
    List.Forall₂ (FoundBy (listing twoRecords) false .udp) (srvRecords twoRecords)
      [⟨.udp, "a.a", 88, .dnsSrv⟩, ⟨.udp, "b.a", 88, .dnsSrv⟩] := by
  have hreorders : (listing twoRecords).Reorders (listing twoRecords.reverse) :=
    ⟨rfl, rfl, rfl, rfl, fun _ _ ↦ rfl, fun _ _ ↦ .ok (List.reverse_perm _).symm⟩
  obtain ⟨hsends, -, hfound⟩ := sends_ignore_listing hreorders namedNetwork .new (.ofTable {}) listedConfig
  obtain ⟨w₁, w₂, answers, resolveTargets, hlookup, hoverride, hrecords, -⟩ :=
    hfound _ _ _ _ _ _ discoverSrvEndpoints_two
  obtain rfl : twoRecords = answers := Except.ok.inj (congrArg Prod.fst hlookup)
  obtain rfl : false = resolveTargets := Except.ok.inj hoverride
  exact ⟨by rw [hsends], hrecords⟩

end Listings

end Rskrb5.Client
