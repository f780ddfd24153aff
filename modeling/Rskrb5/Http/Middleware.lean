import Rskrb5.Http.Messages
import Rskrb5.Service.Recording

namespace Rskrb5.Http

open Lib.Results Lib.Once Crypto EncParts Service Spnego Gss

inductive TowerError (ε : Type)
  | http (source : Error)
  | inner (source : ε)
  deriving DecidableEq

structure NegotiateResponseOptions where
  emitApRep : Bool
  apRepOptions : ApRepOptions
  rejectInvalid : Bool
  deriving DecidableEq

def NegotiateResponseOptions.default : NegotiateResponseOptions where
  emitApRep := true
  apRepOptions := ⟨none, none, none⟩
  rejectInvalid := true

/-- The options of a layer besides the cache that its validators share. -/
structure ValidatorOptions where
  maxClockSkew : Option ℕ
  now : Option SystemTime
  keytabPrincipal : Option (List String)
  clientAddress : Option HostAddress
  requireClientAddress : Bool
  deriving DecidableEq

namespace ValidatorOptions

def default : ValidatorOptions where
  maxClockSkew := none
  now := none
  keytabPrincipal := none
  clientAddress := none
  requireClientAddress := false

def build (options : ValidatorOptions) (keytab : Keytab) : ServiceValidator where
  keytab := keytab
  maxClockSkew := options.maxClockSkew.getD defaultMaxClockSkew
  now := options.now
  keytabPrincipal := options.keytabPrincipal
  clientAddress := options.clientAddress
  requireClientAddress := options.requireClientAddress

end ValidatorOptions

structure NegotiateLayer where
  keytab : Keytab
  validator : ValidatorOptions
  response : NegotiateResponseOptions
  sharedReplayCache : Option SharedReplayCache

/-- A service with the state of the service that it wraps. The caches are those its validator can reach. -/
structure NegotiateService (σ : Type) where
  inner : σ
  validator : ServiceValidator
  caches : Caches
  response : NegotiateResponseOptions

def NegotiateLayer.layer {σ : Type} (layer : NegotiateLayer) (inner : σ) : NegotiateService σ where
  inner := inner
  validator := layer.validator.build layer.keytab
  caches := ⟨.new, layer.sharedReplayCache⟩
  response := layer.response

section Call

variable (P : Primitives) (R : Rasn) (B : Base64) {Pac : Type} (pac : PacOps Pac)
  {HeaderValue Content Answer ε σ : Type} (H : HeaderValues HeaderValue) (empty : Answer)

/-- The answer to a request that has not been accepted. -/
def refusal (options : NegotiateResponseOptions) : Error → Except (TowerError ε) (Response HeaderValue Answer)
  | .missingAuthorization => .ok (challengeResponse H empty)
  | .invalidHeader _ => .ok (challengeResponse H empty)
  | .spnego _ =>
    if options.rejectInvalid then
      match rejectResponse H B empty with
      | .ok response => .ok response
      | .error _ => .ok (challengeResponse H empty)
    else .ok (challengeResponse H empty)
  | error => .error (.http error)

def apRepHeader (options : NegotiateResponseOptions) (fill : (len : ℕ) → Except String (Vector UInt8 len))
    (accepted : AcceptedContext Pac) : Except ContextError (Option String) :=
  if options.emitApRep then do
    let header ← accepted.apRepResponseHeader P R B fill options.apRepOptions
    return some header
  else .ok none

/-- What is done behind the call of the wrapped service. -/
def withApRep (header : Option String) (answer : Except ε (Response HeaderValue Answer)) :
    Except (TowerError ε) (Response HeaderValue Answer) := do
  let response ← answer.mapError .inner
  match header with
  | none => return response
  | some header =>
    let value ← (H.fromStr header).mapError fun message ↦ .http (.invalidHeaderValue message)
    return { response with wwwAuthenticate := [value] }

variable (serve : Request HeaderValue Content Pac → σ → Except ε (Response HeaderValue Answer) × σ)

/-- The wrapped service is called in the same step, and it is its state that comes of it. -/
def NegotiateService.call (service : NegotiateService σ) (clock : Clock)
    (fill : (len : ℕ) → Except String (Vector UInt8 len)) (request : Request HeaderValue Content Pac) :
    Except (TowerError ε) (Response HeaderValue Answer) × NegotiateService σ :=
  match acceptRequest H P R B pac service.validator clock request service.caches with
  | (.error error, caches) => (refusal B H empty service.response error, { service with caches })
  | (.ok (accepted, request), caches) =>
    match apRepHeader P R B service.response fill accepted with
    | .error error => (.error (.http (.spnego error)), { service with caches })
    | .ok header =>
      let (answer, inner) := serve request service.inner
      (withApRep H header answer, { service with caches, inner })

end Call

section Refusals

variable {P : Primitives} {R : Rasn} {B : Base64} {HeaderValue Content Answer ε : Type} {H : HeaderValues HeaderValue}

theorem classifyHeaders_of_first {context : InitiatorContext} {values : List HeaderValue} {saw : Bool}
    {challenge : List Char} (h : firstChallenge H.toStr values = some challenge) :
    classifyHeaders P R B H.toStr context saw values = some (classifyNegotiateChallenge P R B context challenge) := by
  induction values generalizing saw with
  | nil => cases h
  | cons value values ih =>
    rw [firstChallenge] at h
    rw [classifyHeaders]
    cases hvalue : H.toStr value with
    | error source =>
      rw [hvalue] at h
      cases h
    | ok header =>
      rw [hvalue] at h
      dsimp only at h ⊢
      rw [negotiateChallenge_eq]
      cases hfound : ((headerPieces header).map trim).find? (IsNegotiate ·) with
      | some found =>
        rw [hfound] at h
        cases h
        rfl
      | none =>
        rw [hfound] at h
        exact ih h

/-- What a client reads off an answer: to ask for a token again, or that there is no use in it. -/
structure Refuses (P : Primitives) (R : Rasn) (B : Base64) (H : HeaderValues HeaderValue)
    (response : Response HeaderValue Answer) (reading : ClientNegotiateResponse) : Prop where
  status_eq : response.status = statusUnauthorized
  retries : shouldRetryWithNegotiate H response = some (.ok true)
  classified : ∀ context, classifyNegotiateResponse P R B H.toStr context response.wwwAuthenticate = some reading

theorem refuses_of_first {response : Response HeaderValue Answer} {challenge : List Char}
    {reading : ClientNegotiateResponse} (hstatus : response.status = statusUnauthorized)
    (hfirst : firstChallenge H.toStr response.wwwAuthenticate = some challenge)
    (hreading : ∀ context, classifyNegotiateChallenge P R B context challenge = reading) :
    Refuses P R B H response reading :=
  ⟨hstatus, (shouldRetry_iff response).mpr ⟨hstatus, challenge, hfirst⟩,
    fun context ↦ (classifyHeaders_of_first hfirst).trans (congrArg some (hreading context))⟩

theorem refuses_challenge (hH : H.Lawful) (empty : Answer) :
    Refuses P R B H (challengeResponse H empty) .challenge := by
  refine refuses_of_first rfl (firstChallenge_challengeResponse hH empty) fun context ↦ ?_
  have hscheme := (eqIgnoreAsciiCase_ofList (schemeToken httpNegotiate.toList)).mpr (by decide)
  have hbare : negotiateChallengeIsBare httpNegotiate.toList = true := by
    rw [negotiateChallengeIsBare, hscheme]
    rfl
  rw [classifyNegotiateChallenge, hbare]
  rfl

theorem refuses_reject (hH : H.Lawful) (hB : ∀ bytes, B.Standard bytes) (empty : Answer) :
    ∃ response, rejectResponse H B empty = .ok response ∧ Refuses P R B H response .rejected := by
  obtain ⟨bytes, hbytes⟩ : ∃ bytes, NegTokenResp.reject.encode = .ok bytes := ⟨_, rfl⟩
  have hencode : SpnegoToken.encode (.resp .reject) = .ok bytes := hbytes
  have hlength : bytes.length < 2 ^ 64 := by
    obtain rfl := Except.ok.inj hbytes
    decide
  have hoids : ∀ oid ∈ SpnegoToken.oids (.resp .reject), oid.leading < 120 := nofun
  have hdecode := decode_encode hoids hencode hlength
  obtain ⟨value, hvalue, hstr⟩ := exists_value hH hB bytes
  have hparse := parse_negotiateText hB (ne_nil_of_encode hencode)
  rw [hdecode] at hparse
  refine ⟨{ (Response.new empty : Response HeaderValue Answer) with
    status := statusUnauthorized, wwwAuthenticate := [value] }, ?_, ?_⟩
  · have hheader : rejectHeader B = .ok (negotiateText B bytes) := by
      rw [rejectHeader, responseTokenHeader, hbytes]
      rfl
    rw [rejectResponse, hheader]
    change responseWithWwwAuthenticate H empty _ _ = _
    rw [responseWithWwwAuthenticate, hvalue]
    rfl
  · refine refuses_of_first rfl (firstChallenge_negotiateText hB (ne_nil_of_encode hencode) hstr) fun context ↦ ?_
    have hof : String.ofList (negotiateText B bytes).toList = negotiateText B bytes := String.ofList_toList
    rw [classifyNegotiateChallenge, not_bare_of_parse (by rw [hof]; exact hparse), hof, hparse]
    rfl

/-- Whatever is wrong with a request, its answer is a `401` that a client of this crate can read. -/
theorem refuses_refusal (hH : H.Lawful) (hB : ∀ bytes, B.Standard bytes) (options : NegotiateResponseOptions)
    (empty : Answer) {error : Error}
    (herror : error = .missingAuthorization ∨ (∃ message, error = .invalidHeader message) ∨
      ∃ source, error = .spnego source) :
    ∃ response reading, refusal (ε := ε) B H empty options error = .ok response ∧ Refuses P R B H response reading ∧
      (reading = .challenge ∨
        reading = .rejected ∧ options.rejectInvalid = true ∧ ∃ source, error = .spnego source) := by
  have hchallenge := refuses_challenge (P := P) (R := R) (B := B) hH empty
  obtain rfl | ⟨message, rfl⟩ | ⟨source, rfl⟩ := herror
  · exact ⟨_, _, rfl, hchallenge, .inl rfl⟩
  · exact ⟨_, _, rfl, hchallenge, .inl rfl⟩
  · rw [refusal]
    split
    · next hreject =>
      obtain ⟨response, hresponse, hrefuses⟩ := refuses_reject (P := P) (R := R) hH hB empty
      rw [hresponse]
      exact ⟨response, _, rfl, hrefuses, .inr ⟨rfl, hreject, source, rfl⟩⟩
    · exact ⟨_, _, rfl, hchallenge, .inl rfl⟩

end Refusals

section Accepting

variable {P : Primitives} {R : Rasn} {B : Base64} {Pac : Type} {pac : PacOps Pac} {HeaderValue Content : Type}
  {H : HeaderValues HeaderValue}

variable (H B) in
/-- The AP-REQ that a request carries. -/
def requestApReq (request : Request HeaderValue Content Pac) : Except Error Bytes := do
  let header ← authorizationHeader H request
  (headerApReq B header).mapError .spnego

def Request.attach (request : Request HeaderValue Content Pac) (validated : ValidatedApReq Pac) :
    Request HeaderValue Content Pac :=
  { request with accepted := some ⟨validated⟩ }

theorem acceptRequest_eq (v : ServiceValidator) (clock : Clock) (request : Request HeaderValue Content Pac)
    (caches : Caches) : acceptRequest H P R B pac v clock request caches =
      match requestApReq B H request with
      | .error e => (.error e, caches)
      | .ok bytes =>
        (((v.validateApReq P R pac clock bytes caches).1.mapError fun e ↦ Error.spnego (.service e)).map
          fun validated ↦ (⟨validated⟩, request.attach validated), (v.validateApReq P R pac clock bytes caches).2) := by
  rw [acceptRequest, requestApReq]
  cases authorizationHeader H request with
  | error e => rfl
  | ok header =>
    simp only [ok_bind, acceptSecContextHeader]
    cases headerApReq B header with
    | error e => rfl
    | ok bytes =>
      dsimp only [Except.mapError]
      rcases v.validateApReq P R pac clock bytes caches with ⟨e | validated, caches⟩ <;> rfl

theorem requestApReq_error {request : Request HeaderValue Content Pac} {error : Error}
    (h : requestApReq B H request = .error error) :
    error = .missingAuthorization ∨ (∃ message, error = .invalidHeader message) ∨ ∃ source, error = .spnego source := by
  rw [requestApReq, authorizationHeader] at h
  cases hvalue : request.authorization.head? with
  | none =>
    rw [hvalue] at h
    cases h
    exact .inl rfl
  | some value =>
    simp only [hvalue, okOr, ok_bind] at h
    cases hstr : H.toStr value with
    | error message =>
      rw [hstr] at h
      cases h
      exact .inr (.inl ⟨message, rfl⟩)
    | ok text =>
      simp only [hstr, Except.mapError, ok_bind, pure_eq_ok] at h
      cases hreq : headerApReq B (.ofList text) with
      | error source =>
        rw [hreq] at h
        cases h
        exact .inr (.inr ⟨source, rfl⟩)
      | ok bytes =>
        rw [hreq] at h
        cases h

end Accepting

section Deployments

/-- Services that a layer has been put around. -/
structure Deployment (ι HeaderValue Content Pac Answer ε σ : Type) where
  layer : NegotiateLayer
  serve : ι → Request HeaderValue Content Pac → σ → Except ε (Response HeaderValue Answer) × σ
  start : ι → σ

/-- A request that comes to a service, with what the clock and the generator would give its call. -/
structure Exchange (ι HeaderValue Content Pac : Type) where
  service : ι
  clock : Clock
  fill : (len : ℕ) → Except String (Vector UInt8 len)
  request : Request HeaderValue Content Pac

variable {ι HeaderValue Content Pac Answer ε σ : Type}

/-- An exchange whose checks have passed. -/
structure Checked (ι HeaderValue Content Pac : Type) where
  exchange : Exchange ι HeaderValue Content Pac
  replayKey : ReplayKey
  now : SystemTime
  validated : ValidatedApReq Pac

def Checked.request (c : Checked ι HeaderValue Content Pac) : Request HeaderValue Content Pac :=
  c.exchange.request.attach c.validated

/-- The calls overlap between their checks, their turn at a cache, and the call of the wrapped service.
A service has a cache of its own, which it uses when the layer has none for all of them. -/
structure Deployed (ι HeaderValue Content Pac Answer ε σ : Type) where
  shared : Option SharedReplayCache
  own : ι → ReplayCache
  inner : ι → σ
  checked : List (Checked ι HeaderValue Content Pac)
  recorded : List (Checked ι HeaderValue Content Pac)
  forwarded : List (Checked ι HeaderValue Content Pac)
  answered : List (Exchange ι HeaderValue Content Pac × Except (TowerError ε) (Response HeaderValue Answer))

variable (P : Primitives) (R : Rasn) (B : Base64) (pac : PacOps Pac) (H : HeaderValues HeaderValue) (empty : Answer)
  (D : Deployment ι HeaderValue Content Pac Answer ε σ)

def Deployment.validator : ServiceValidator := D.layer.validator.build D.layer.keytab

def Deployment.initial : Deployed ι HeaderValue Content Pac Answer ε σ :=
  ⟨D.layer.sharedReplayCache, fun _ ↦ .new, D.start, [], [], [], []⟩

/-- The checks of a request, and what they gave. -/
def Checked.Passes (c : Checked ι HeaderValue Content Pac) : Prop :=
  ∃ bytes, requestApReq B H c.exchange.request = .ok bytes ∧
    D.validator.checkApReq P R pac c.exchange.clock bytes = .ok (c.replayKey, c.now, c.validated)

/-- The error of a request whose checks fail. -/
def Exchange.Fails (e : Exchange ι HeaderValue Content Pac) (error : Error) : Prop :=
  requestApReq B H e.request = .error error ∨ ∃ bytes source, requestApReq B H e.request = .ok bytes ∧
    D.validator.checkApReq P R pac e.clock bytes = .error source ∧ error = .spnego (.service source)

def Checked.header (c : Checked ι HeaderValue Content Pac) : Except ContextError (Option String) :=
  apRepHeader P R B D.layer.response c.exchange.fill ⟨c.validated⟩

/-- What the wrapped service makes of a request, in its state. -/
def Deployment.served (c : Checked ι HeaderValue Content Pac) (inner : ι → σ) :
    Except ε (Response HeaderValue Answer) × σ :=
  D.serve c.exchange.service c.request (inner c.exchange.service)

/-- The caches that the validator of a service can reach. -/
def Deployed.caches (s : Deployed ι HeaderValue Content Pac Answer ε σ) (i : ι) : Caches := ⟨s.own i, s.shared⟩

/-- Whether two services record in one cache. -/
def Deployment.SharesCache (i j : ι) : Prop := i = j ∨ D.layer.sharedReplayCache.isSome

variable [DecidableEq ι]

def Deployed.putCaches (s : Deployed ι HeaderValue Content Pac Answer ε σ) (i : ι) (caches : Caches) :
    Deployed ι HeaderValue Content Pac Answer ε σ :=
  { s with own := Function.update s.own i caches.replayCache, shared := caches.sharedReplayCache }

inductive Step : Deployed ι HeaderValue Content Pac Answer ε σ → Deployed ι HeaderValue Content Pac Answer ε σ → Prop
  | refuse {s : Deployed ι HeaderValue Content Pac Answer ε σ} {e : Exchange ι HeaderValue Content Pac} {error : Error}
      (h : e.Fails P R B pac H D error) :
      Step s { s with answered := (e, refusal B H empty D.layer.response error) :: s.answered }
  | check {s : Deployed ι HeaderValue Content Pac Answer ε σ} {c : Checked ι HeaderValue Content Pac}
      (h : c.Passes P R B pac H D) : Step s { s with checked := c :: s.checked }
  | record {s : Deployed ι HeaderValue Content Pac Answer ε σ} {c : Checked ι HeaderValue Content Pac}
      (before after : List (Checked ι HeaderValue Content Pac)) {caches : Caches}
      (hc : s.checked = before ++ c :: after)
      (h : recordReplay (s.caches c.exchange.service) c.replayKey c.now = (.ok (), caches)) :
      Step s { s.putCaches c.exchange.service caches with
        checked := before ++ after, recorded := c :: s.recorded }
  | replay {s : Deployed ι HeaderValue Content Pac Answer ε σ} {c : Checked ι HeaderValue Content Pac}
      {source : Service.Error} (before after : List (Checked ι HeaderValue Content Pac)) {caches : Caches}
      (hc : s.checked = before ++ c :: after)
      (h : recordReplay (s.caches c.exchange.service) c.replayKey c.now = (.error source, caches)) :
      Step s { s.putCaches c.exchange.service caches with
        checked := before ++ after
        answered := (c.exchange, refusal B H empty D.layer.response (.spnego (.service source))) :: s.answered }
  | forward {s : Deployed ι HeaderValue Content Pac Answer ε σ} {c : Checked ι HeaderValue Content Pac}
      {header : Option String} (before after : List (Checked ι HeaderValue Content Pac))
      (hc : s.recorded = before ++ c :: after) (h : c.header P R B D = .ok header) :
      Step s { s with
        inner := Function.update s.inner c.exchange.service (D.served c s.inner).2
        recorded := before ++ after, forwarded := c :: s.forwarded
        answered := (c.exchange, withApRep H header (D.served c s.inner).1) :: s.answered }
  | fail {s : Deployed ι HeaderValue Content Pac Answer ε σ} {c : Checked ι HeaderValue Content Pac}
      {error : ContextError} (before after : List (Checked ι HeaderValue Content Pac))
      (hc : s.recorded = before ++ c :: after) (h : c.header P R B D = .error error) :
      Step s { s with
        recorded := before ++ after, answered := (c.exchange, .error (.http (.spnego error))) :: s.answered }
  | poison {s : Deployed ι HeaderValue Content Pac Answer ε σ} :
      Step s { s with shared := s.shared.map fun shared ↦ { shared with poisoned := true } }

def Reachable (s : Deployed ι HeaderValue Content Pac Answer ε σ) : Prop :=
  Relation.ReflTransGen (Step P R B pac H empty D) D.initial s

/-- The service of a deployment, as its calls find it. -/
def Deployment.service (s : Deployed ι HeaderValue Content Pac Answer ε σ) (i : ι) : NegotiateService σ :=
  ⟨s.inner i, D.validator, s.caches i, D.layer.response⟩

omit [DecidableEq ι] in
theorem service_initial (i : ι) : D.service D.initial i = D.layer.layer (D.start i) := rfl

section Runs

variable {P R B pac H empty D} {s s' : Deployed ι HeaderValue Content Pac Answer ε σ} {i j : ι} {caches : Caches}

theorem caches_putCaches (s : Deployed ι HeaderValue Content Pac Answer ε σ) (i : ι) (caches : Caches) :
    (s.putCaches i caches).caches i = caches := by
  change Caches.mk (Function.update s.own i caches.replayCache i) _ = caches
  rw [Function.update_self]
  rfl

omit [DecidableEq ι] in
theorem active_poison (own : ReplayCache) (shared : Option SharedReplayCache) :
    (Caches.mk own (shared.map fun shared ↦ { shared with poisoned := true })).active =
      (Caches.mk own shared).active := by
  cases shared <;> rfl

theorem active_putCaches (hsome : caches.sharedReplayCache.isSome = s.shared.isSome) :
    ((s.putCaches i caches).caches j).active =
      if i = j ∨ s.shared.isSome then caches.active else (s.caches j).active := by
  by_cases heq : i = j
  · rw [if_pos (.inl heq), ← heq, caches_putCaches]
  · cases hshared : s.shared with
    | some shared =>
      rw [hshared] at hsome
      obtain ⟨shared', hshared'⟩ := Option.isSome_iff_exists.mp hsome
      rw [if_pos (.inr rfl)]
      simp only [Deployed.caches, Deployed.putCaches, Caches.active, hshared']
    | none =>
      rw [hshared] at hsome
      have hnone : caches.sharedReplayCache = none := Option.not_isSome_iff_eq_none.mp (by simp [hsome])
      rw [if_neg (by simp [heq])]
      simp only [Deployed.caches, Deployed.putCaches, Caches.active, hnone, hshared,
        Function.update_of_ne (Ne.symm heq)]

omit [DecidableEq ι] in
theorem active_eq (h : i = j ∨ s.shared.isSome) : (s.caches i).active = (s.caches j).active := by
  rcases h with rfl | h
  · rfl
  · obtain ⟨shared, hshared⟩ := Option.isSome_iff_exists.mp h
    simp only [Deployed.caches, Caches.active, hshared]

/-- A call that is not interrupted is a run of the deployment, with the same answer and the same states. -/
theorem run_of_call {e : Exchange ι HeaderValue Content Pac}
    {answer : Except (TowerError ε) (Response HeaderValue Answer)} {service' : NegotiateService σ}
    (h : (D.service s e.service).call P R B pac H empty (D.serve e.service) e.clock e.fill e.request =
      (answer, service')) :
    ∃ s', Relation.ReflTransGen (Step P R B pac H empty D) s s' ∧ service' = D.service s' e.service ∧
      s'.answered = (e, answer) :: s.answered ∧
      ∀ i ≠ e.service, s'.inner i = s.inner i ∧ s'.own i = s.own i := by
  simp only [NegotiateService.call, Deployment.service, acceptRequest_eq] at h
  cases hreq : requestApReq B H e.request with
  | error error =>
    rw [hreq] at h
    obtain ⟨rfl, rfl⟩ := Prod.mk.inj h
    exact ⟨_, .single (.refuse (.inl hreq)), rfl, rfl, fun _ _ ↦ ⟨rfl, rfl⟩⟩
  | ok bytes =>
    rw [hreq] at h
    dsimp only [ServiceValidator.validateApReq] at h
    cases hcheck : D.validator.checkApReq P R pac e.clock bytes with
    | error source =>
      rw [hcheck] at h
      obtain ⟨rfl, rfl⟩ := Prod.mk.inj h
      exact ⟨_, .single (.refuse (.inr ⟨bytes, source, hreq, hcheck, rfl⟩)), rfl, rfl, fun _ _ ↦ ⟨rfl, rfl⟩⟩
    | ok checked =>
      obtain ⟨key, now, validated⟩ := checked
      let c : Checked ι HeaderValue Content Pac := ⟨e, key, now, validated⟩
      have hcheck' : c.Passes P R B pac H D := ⟨bytes, hreq, hcheck⟩
      have hbegin : Step P R B pac H empty D s { s with checked := c :: s.checked } := .check hcheck'
      rcases hrecord : recordReplay (s.caches e.service) key now with ⟨result, caches⟩
      have hothers : ∀ i ≠ e.service, (s.putCaches e.service caches).own i = s.own i :=
        fun i hi ↦ Function.update_of_ne hi _ _
      simp only [hcheck, hrecord] at h
      cases result with
      | error source =>
        obtain ⟨rfl, rfl⟩ := Prod.mk.inj h
        refine ⟨_, .tail (.single hbegin) (.replay (c := c) [] s.checked rfl hrecord), ?_, rfl,
          fun i hi ↦ ⟨rfl, hothers i hi⟩⟩
        exact congrArg (NegotiateService.mk _ _ · _) (caches_putCaches s e.service caches).symm
      | ok _ =>
        have hrecorded := Relation.ReflTransGen.tail (.single hbegin) (Step.record (c := c) [] s.checked rfl hrecord)
        change (match c.header P R B D with | .error error => _ | .ok header => _) = _ at h
        cases hheader : c.header P R B D with
        | error error =>
          rw [hheader] at h
          obtain ⟨rfl, rfl⟩ := Prod.mk.inj h
          refine ⟨_, .tail hrecorded (.fail (c := c) [] s.recorded rfl hheader), ?_, rfl,
            fun i hi ↦ ⟨rfl, hothers i hi⟩⟩
          exact congrArg (NegotiateService.mk _ _ · _) (caches_putCaches s e.service caches).symm
        | ok header =>
          rw [hheader] at h
          obtain ⟨rfl, rfl⟩ := Prod.mk.inj h
          refine ⟨_, .tail hrecorded (.forward (c := c) [] s.recorded rfl hheader), ?_, rfl,
            fun i hi ↦ ⟨Function.update_of_ne hi _ _, hothers i hi⟩⟩
          change NegotiateService.mk _ _ caches _ =
            NegotiateService.mk (Function.update s.inner e.service _ e.service) _
              ((s.putCaches e.service caches).caches e.service) _
          rw [Function.update_self, caches_putCaches]
          rfl

/-- The state that a service has come to by the requests it was called with, the last one first. -/
def Deployment.after (D : Deployment ι HeaderValue Content Pac Answer ε σ) (i : ι) :
    List (Checked ι HeaderValue Content Pac) → σ
  | [] => D.start i
  | c :: forwarded =>
    if c.exchange.service = i then (D.serve i c.request (D.after i forwarded)).2 else D.after i forwarded

/-- An answer that no wrapped service has given. -/
inductive Declined (P : Primitives) (R : Rasn) (B : Base64) (H : HeaderValues HeaderValue) :
    Except (TowerError ε) (Response HeaderValue Answer) → Prop
  | refused {response : Response HeaderValue Answer} {reading : ClientNegotiateResponse}
    (h : Refuses P R B H response reading) (hreading : reading = .challenge ∨ reading = .rejected) :
    Declined P R B H (.ok response)

variable (P R B pac H D) in
/-- A request whose checks have passed, but for which no AP-REP could be built. -/
def Unanswerable (e : Exchange ι HeaderValue Content Pac)
    (answer : Except (TowerError ε) (Response HeaderValue Answer)) : Prop :=
  ∃ (c : Checked ι HeaderValue Content Pac) (error : ContextError), c.exchange = e ∧ c.Passes P R B pac H D ∧
    c.header P R B D = .error error ∧ answer = .error (.http (.spnego error))

variable (P R B H D) in
/-- The answer of a service to a request, in the state that the calls before it have left. -/
structure Answers (forwarded : List (Checked ι HeaderValue Content Pac)) (e : Exchange ι HeaderValue Content Pac)
    (answer : Except (TowerError ε) (Response HeaderValue Answer)) : Prop where
  called : ∃ newer c older header, forwarded = newer ++ c :: older ∧ c.exchange = e ∧
    c.header P R B D = .ok header ∧
    answer = withApRep H header (D.serve e.service c.request (D.after e.service older)).1

/-- Calls of services that record in one cache have different keys. -/
def Distinct (D : Deployment ι HeaderValue Content Pac Answer ε σ) (c c' : Checked ι HeaderValue Content Pac) : Prop :=
  D.SharesCache c.exchange.service c'.exchange.service → c.replayKey ≠ c'.replayKey

variable (P R B pac H D) in
/-- The key of every call on its way to a service is in the service's cache, and a service has been called
with nothing but requests whose checks passed. -/
structure Inv (s : Deployed ι HeaderValue Content Pac Answer ε σ) : Prop where
  shares : s.shared.isSome = D.layer.sharedReplayCache.isSome
  passes : ∀ c ∈ s.checked ++ (s.recorded ++ s.forwarded), c.Passes P R B pac H D
  once : (s.recorded ++ s.forwarded).Pairwise (Distinct D)
  remembered : ∀ c ∈ s.recorded ++ s.forwarded, c.replayKey ∈ (s.caches c.exchange.service).active.entries
  inner : ∀ i, s.inner i = D.after i s.forwarded
  answered : ∀ a ∈ s.answered, Declined P R B H a.2 ∨ Unanswerable P R B pac H D a.1 a.2 ∨
    Answers P R B H D s.forwarded a.1 a.2

theorem inv_initial : Inv P R B pac H D D.initial :=
  ⟨rfl, by simp [Deployment.initial], .nil, by simp [Deployment.initial], fun _ ↦ rfl, by simp [Deployment.initial]⟩

omit [DecidableEq ι] in
theorem Exchange.Fails.declined (hH : H.Lawful) (hB : ∀ bytes, B.Standard bytes)
    {e : Exchange ι HeaderValue Content Pac} {error : Error} (h : e.Fails P R B pac H D error)
    (options : NegotiateResponseOptions) : Declined P R B H (refusal (ε := ε) B H empty options error) := by
  have herror : error = .missingAuthorization ∨ (∃ message, error = .invalidHeader message) ∨
      ∃ source, error = .spnego source := by
    rcases h with h | ⟨bytes, source, -, -, rfl⟩
    · exact requestApReq_error h
    · exact .inr (.inr ⟨_, rfl⟩)
  obtain ⟨response, reading, hrefusal, hrefuses, hreading⟩ :=
    refuses_refusal (ε := ε) (P := P) (R := R) hH hB options empty herror
  rw [hrefusal]
  exact .refused hrefuses (hreading.imp id And.left)

theorem declined_replay (hH : H.Lawful) (hB : ∀ bytes, B.Standard bytes) (options : NegotiateResponseOptions)
    (source : Service.Error) : Declined P R B H (refusal (ε := ε) B H empty options (.spnego (.service source))) := by
  have herror : ∃ spnego, Error.spnego (.service source) = .spnego spnego := ⟨_, rfl⟩
  obtain ⟨response, reading, hrefusal, hrefuses, hreading⟩ :=
    refuses_refusal (ε := ε) (P := P) (R := R) hH hB options empty (.inr (.inr herror))
  rw [hrefusal]
  exact .refused hrefuses (hreading.imp id And.left)

theorem perm_move {α : Type} (before after others : List α) (a : α) :
    ((before ++ after) ++ a :: others).Perm ((before ++ a :: after) ++ others) := by
  refine List.perm_middle.trans ?_
  rw [← List.cons_append]
  exact (List.perm_middle.symm).append_right others

omit [DecidableEq ι] in
theorem distinct_symm {c c' : Checked ι HeaderValue Content Pac} (h : Distinct D c c') : Distinct D c' c :=
  fun hshares ↦ (h (hshares.imp Eq.symm id)).symm

/-- Whatever comes of a recording, the cache of each service keeps what it has. -/
theorem mem_active_of_recordReplay {key : ReplayKey} {now : SystemTime} {result : Except Service.Error Unit}
    (h : recordReplay (s.caches i) key now = (result, caches)) {other : ReplayKey}
    (hother : other ∈ (s.caches j).active.entries) :
    other ∈ ((s.putCaches i caches).caches j).active.entries := by
  rw [active_putCaches (isSome_of_recordReplay h)]
  split
  · next hshares =>
    rw [← active_eq hshares] at hother
    exact mem_of_recordReplay h hother
  · exact hother

theorem Inv.forward (hi : Inv P R B pac H D s) {c : Checked ι HeaderValue Content Pac}
    {before after : List (Checked ι HeaderValue Content Pac)} (hc : s.recorded = before ++ c :: after)
    {header : Option String} (h : c.header P R B D = .ok header) : Inv P R B pac H D { s with
      inner := Function.update s.inner c.exchange.service (D.served c s.inner).2
      recorded := before ++ after, forwarded := c :: s.forwarded
      answered := (c.exchange, withApRep H header (D.served c s.inner).1) :: s.answered } where
  shares := hi.shares
  passes c' hc' := by
    refine hi.passes c' ?_
    rw [hc]
    rw [List.mem_append, (perm_move before after s.forwarded c).mem_iff] at hc'
    exact List.mem_append.mpr hc'
  once := by
    have honce := hi.once
    rw [hc] at honce
    exact honce.perm (perm_move before after s.forwarded c).symm distinct_symm
  remembered c' hc' := by
    refine hi.remembered c' ?_
    rw [hc]
    exact (perm_move before after s.forwarded c).mem_iff.mp hc'
  inner i := by
    by_cases h : c.exchange.service = i
    · subst h
      rw [Deployment.after, if_pos rfl, ← hi.inner]
      exact Function.update_self _ _ _
    · rw [Deployment.after, if_neg h, ← hi.inner]
      exact Function.update_of_ne (Ne.symm h) _ _
  answered a ha := by
    rcases List.mem_cons.mp ha with rfl | ha
    · refine .inr (.inr ⟨[], c, s.forwarded, header, rfl, rfl, h, ?_⟩)
      rw [Deployment.served, hi.inner]
    · refine (hi.answered a ha).imp id (Or.imp id fun ⟨newer, c', older, header', heq, hrest⟩ ↦ ?_)
      exact ⟨c :: newer, c', older, header', by rw [heq]; rfl, hrest⟩

theorem Inv.record (hi : Inv P R B pac H D s) {c : Checked ι HeaderValue Content Pac}
    {before after : List (Checked ι HeaderValue Content Pac)} (hc : s.checked = before ++ c :: after)
    (h : recordReplay (s.caches c.exchange.service) c.replayKey c.now = (.ok (), caches)) :
    Inv P R B pac H D { s.putCaches c.exchange.service caches with
      checked := before ++ after, recorded := c :: s.recorded } where
  shares := (isSome_of_recordReplay h).trans hi.shares
  passes c' hc' := by
    refine hi.passes c' ?_
    rw [hc]
    exact (perm_move before after (s.recorded ++ s.forwarded) c).mem_iff.mp hc'
  once := by
    refine List.pairwise_cons.mpr ⟨fun c' hc' hshares heq ↦ ?_, hi.once⟩
    -- a service that records in the same cache would have left its key there
    have hmem := hi.remembered c' hc'
    rw [Deployment.SharesCache, ← hi.shares] at hshares
    rw [← active_eq hshares, ← heq] at hmem
    exact (new_of_recordReplay h).1 hmem
  remembered c' hc' := by
    rcases List.mem_cons.mp hc' with rfl | hc'
    · change _ ∈ ((s.putCaches c'.exchange.service caches).caches c'.exchange.service).active.entries
      rw [caches_putCaches]
      exact (new_of_recordReplay h).2
    · exact mem_active_of_recordReplay h (hi.remembered c' hc')
  inner := hi.inner
  answered := hi.answered

theorem Inv.replay (hH : H.Lawful) (hB : ∀ bytes, B.Standard bytes) (hi : Inv P R B pac H D s)
    {c : Checked ι HeaderValue Content Pac} {before after : List (Checked ι HeaderValue Content Pac)}
    (hc : s.checked = before ++ c :: after) {source : Service.Error}
    (h : recordReplay (s.caches c.exchange.service) c.replayKey c.now = (.error source, caches)) :
    Inv P R B pac H D { s.putCaches c.exchange.service caches with
      checked := before ++ after
      answered := (c.exchange, refusal B H empty D.layer.response (.spnego (.service source))) :: s.answered } where
  shares := (isSome_of_recordReplay h).trans hi.shares
  passes c' hc' := by
    refine hi.passes c' ?_
    rw [hc]
    exact (perm_move before after (s.recorded ++ s.forwarded) c).mem_iff.mp
      (List.mem_append.mpr ((List.mem_append.mp hc').imp id (List.mem_cons_of_mem c)))
  once := hi.once
  remembered c' hc' := mem_active_of_recordReplay h (hi.remembered c' hc')
  inner := hi.inner
  answered a ha := by
    rcases List.mem_cons.mp ha with rfl | ha
    · exact .inl (declined_replay hH hB _ source)
    · exact hi.answered a ha

theorem Inv.fail (hi : Inv P R B pac H D s) {c : Checked ι HeaderValue Content Pac}
    {before after : List (Checked ι HeaderValue Content Pac)} (hc : s.recorded = before ++ c :: after)
    {error : ContextError} (h : c.header P R B D = .error error) : Inv P R B pac H D { s with
      recorded := before ++ after, answered := (c.exchange, .error (.http (.spnego error))) :: s.answered } := by
  have hsub : (before ++ after ++ s.forwarded).Sublist (s.recorded ++ s.forwarded) := by
    rw [hc]
    exact ((List.sublist_cons_self c after).append_left before).append_right s.forwarded
  have hpasses : c.Passes P R B pac H D := by
    refine hi.passes c (List.mem_append_right _ (List.mem_append_left _ ?_))
    rw [hc]
    exact List.mem_append_right _ List.mem_cons_self
  refine ⟨hi.shares, fun c' hc' ↦ hi.passes c' ?_, hi.once.sublist hsub,
    fun c' hc' ↦ hi.remembered c' (hsub.subset hc'), hi.inner, fun a ha ↦ ?_⟩
  · exact List.mem_append.mpr ((List.mem_append.mp hc').imp id fun h ↦ hsub.subset h)
  · rcases List.mem_cons.mp ha with rfl | ha
    · exact .inr (.inl ⟨c, error, rfl, hpasses, h, rfl⟩)
    · exact hi.answered a ha

theorem inv_step (hH : H.Lawful) (hB : ∀ bytes, B.Standard bytes) (hi : Inv P R B pac H D s)
    (h : Step P R B pac H empty D s s') : Inv P R B pac H D s' := by
  cases h with
  | refuse h =>
    refine { hi with answered := fun a ha ↦ ?_ }
    rcases List.mem_cons.mp ha with rfl | ha
    · exact .inl (h.declined hH hB _)
    · exact hi.answered a ha
  | check h =>
    refine { hi with passes := fun c hc ↦ ?_ }
    rcases List.mem_cons.mp hc with rfl | hc
    · exact h
    · exact hi.passes c hc
  | record before after hc h => exact hi.record hc h
  | replay before after hc h => exact hi.replay hH hB hc h
  | forward before after hc h => exact hi.forward hc h
  | fail before after hc h => exact hi.fail hc h
  | poison =>
    refine { hi with shares := Option.isSome_map.trans hi.shares, remembered := fun c hc ↦ ?_ }
    change _ ∈ (Caches.mk (s.own c.exchange.service) _).active.entries
    rw [active_poison]
    exact hi.remembered c hc

/-- However the calls of the services of a layer overlap, and whatever the clocks, the generator and the
wrapped services do: a service has come to its state by calls with requests that carry the context they were
accepted with, no two calls of services that record in one cache have one replay key, and every other request
is answered by a `401` that its sender can read, or by the error that its AP-REP failed with. -/
theorem forwards_accepted_once (hH : H.Lawful) (hB : ∀ bytes, B.Standard bytes)
    (h : Reachable P R B pac H empty D s) :
    (∀ i, s.inner i = D.after i s.forwarded) ∧
    (∀ c ∈ s.forwarded, c.Passes P R B pac H D ∧ c.request.accepted = some ⟨c.validated⟩) ∧
    s.forwarded.Pairwise (fun c c' ↦
      D.SharesCache c.exchange.service c'.exchange.service → c.replayKey ≠ c'.replayKey) ∧
    ∀ a ∈ s.answered, Declined P R B H a.2 ∨ Unanswerable P R B pac H D a.1 a.2 ∨
      Answers P R B H D s.forwarded a.1 a.2 := by
  have hi := invariant_of_step (Inv P R B pac H D) (fun _ _ hi hstep ↦ inv_step hH hB hi hstep) inv_initial h
  refine ⟨hi.inner, fun c hc ↦ ⟨hi.passes c ?_, rfl⟩, (List.pairwise_append.mp hi.once).2.1, hi.answered⟩
  exact List.mem_append_right _ (List.mem_append_right _ hc)

end Runs

section Sample

/-- Two services that count their calls, behind one layer. -/
def countingDeployment (shared : Option SharedReplayCache) : Deployment Bool String Unit Unit Unit Unit ℕ where
  layer := {
    keytab := webValidator.keytab
    validator := { ValidatorOptions.default with now := some webNow }
    response := { NegotiateResponseOptions.default with apRepOptions := ⟨none, some 7, none⟩ }
    sharedReplayCache := shared }
  serve _ _ calls := (.ok (Response.new ()), calls + 1)
  start _ := 0

def flaggedRequest (header : String) : Request String Unit Unit := ⟨[header], none, ()⟩

def flaggedChecked (service : Bool) (header : String) : Checked Bool String Unit Unit where
  exchange := ⟨service, ⟨webNow, webNow⟩, flaggedFill, flaggedRequest header⟩
  replayKey := aliceReplayKey 2
  now := webNow
  validated := flaggedValidated

def flaggedCache : ReplayCache := ⟨ReplayCache.new.entries.insert (aliceReplayKey 2) webNow⟩

theorem requestApReq_flagged {header : String} (h : headerApReq standardBase64 header = .ok flaggedApReqDer) :
    requestApReq standardBase64 asciiValues (flaggedRequest header) = .ok flaggedApReqDer := by
  have htext : String.ofList header.toList = header := String.ofList_toList
  simp only [requestApReq, authorizationHeader, flaggedRequest, List.head?_cons, okOr, asciiValues, Except.mapError,
    ok_bind, pure_eq_ok, htext, h]

theorem recordReplay_shared_flagged (own : ReplayCache) :
    recordReplay ⟨own, some .new⟩ (aliceReplayKey 2) webNow = (.ok (), ⟨own, some ⟨flaggedCache, false⟩⟩) := by
  have hnone : SharedReplayCache.new.cache.entries[aliceReplayKey 2]? = none := Std.ExtHashMap.getElem?_empty
  rw [recordReplay_shared, if_neg (by decide), hnone]
  rfl

theorem recordReplay_own_flagged :
    recordReplay ⟨.new, none⟩ (aliceReplayKey 2) webNow = (.ok (), ⟨flaggedCache, none⟩) := by
  have hnone : ReplayCache.new.entries[aliceReplayKey 2]? = none := Std.ExtHashMap.getElem?_empty
  simp only [recordReplay, ReplayCache.insert, hnone]
  rfl

theorem recordReplay_replayed (own : ReplayCache) : ∃ caches,
    recordReplay ⟨own, some ⟨flaggedCache, false⟩⟩ (aliceReplayKey 2) webNow = (.error .replay, caches) := by
  have hsome : flaggedCache.entries[aliceReplayKey 2]? = some webNow := Std.ExtHashMap.getElem?_insert_self
  rw [recordReplay_shared, if_neg (by decide), hsome]
  exact ⟨_, rfl⟩

theorem validator_countingDeployment (shared : Option SharedReplayCache) :
    (countingDeployment shared).validator = webValidator := by
  have hskew : ValidatorOptions.default.maxClockSkew.getD defaultMaxClockSkew = defaultMaxClockSkew := Option.getD_none
  change ServiceValidator.mk _ (ValidatorOptions.default.maxClockSkew.getD defaultMaxClockSkew) _ _ _ _ = _
  rw [hskew]
  rfl

theorem passes_flagged {shared : Option SharedReplayCache} {header : String}
    (h : headerApReq standardBase64 header = .ok flaggedApReqDer) (service : Bool) :
    (flaggedChecked service header).Passes flaggedPrimitives flaggedRasn standardBase64 noPac asciiValues
      (countingDeployment shared) := by
  refine ⟨_, requestApReq_flagged h, ?_⟩
  rw [validator_countingDeployment]
  exact flaggedExchange.2.1

/-- The request of `alice@A` reaches one of two services that share a cache, and is refused by the other. -/
theorem forwards_accepted_once_flagged :
    ∃ s, Reachable flaggedPrimitives flaggedRasn standardBase64 noPac asciiValues ()
        (countingDeployment (some .new)) s ∧ s.inner true = 1 ∧ s.inner false = 0 ∧ s.answered.length = 2 ∧
      s.forwarded.Pairwise fun c c' ↦ (countingDeployment (some .new)).SharesCache c.exchange.service
        c'.exchange.service → c.replayKey ≠ c'.replayKey := by
  obtain ⟨context, -, -, hapReq, -⟩ := exists_flaggedContext
  obtain ⟨header, hheader, -⟩ := exists_flaggedAnswer
  have hanswer : (flaggedChecked true context.header).header flaggedPrimitives flaggedRasn standardBase64
      (countingDeployment (some .new)) = .ok (some header) := bind_eq_ok.mpr ⟨header, hheader, rfl⟩
  have hchecked : Reachable flaggedPrimitives flaggedRasn standardBase64 noPac asciiValues ()
      (countingDeployment (some .new)) _ := .single (.check (passes_flagged hapReq true))
  have hforwarded := (hchecked.tail (.record [] [] rfl (recordReplay_shared_flagged _))).tail
    (.forward [] [] rfl hanswer)
  obtain ⟨caches, hreplayed⟩ := recordReplay_replayed .new
  have hrefused := (hforwarded.tail (.check (passes_flagged hapReq false))).tail (.replay [] [] rfl hreplayed)
  have honce := forwards_accepted_once asciiValues_lawful standardBase64_standard hrefused
  exact ⟨_, hrefused, honce.1 true, honce.1 false, rfl, honce.2.2.1⟩

/-- Without a shared cache, the request reaches them both. -/
theorem forwards_twice_of_own : ∃ s c c', Reachable flaggedPrimitives flaggedRasn standardBase64 noPac asciiValues ()
    (countingDeployment none) s ∧ s.forwarded = [c, c'] ∧ c.replayKey = c'.replayKey := by
  obtain ⟨context, -, -, hapReq, -⟩ := exists_flaggedContext
  obtain ⟨header, hheader, -⟩ := exists_flaggedAnswer
  have hanswer : ∀ service, (flaggedChecked service context.header).header flaggedPrimitives flaggedRasn standardBase64
      (countingDeployment none) = .ok (some header) := fun _ ↦ bind_eq_ok.mpr ⟨header, hheader, rfl⟩
  have hchecked : Reachable flaggedPrimitives flaggedRasn standardBase64 noPac asciiValues ()
      (countingDeployment none) _ := .single (.check (passes_flagged hapReq true))
  have hforwarded := hchecked.tail (.record [] [] rfl recordReplay_own_flagged) |>.tail
    (.forward [] [] rfl (hanswer true))
  have hagain := ((hforwarded.tail (.check (passes_flagged hapReq false))).tail
    (.record [] [] rfl recordReplay_own_flagged)).tail (.forward [] [] rfl (hanswer false))
  exact ⟨_, _, _, hagain, rfl, rfl⟩

end Sample

end Deployments

end Rskrb5.Http
