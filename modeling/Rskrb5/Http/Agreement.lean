import Rskrb5.Client.Sessions
import Rskrb5.Http.Sender

namespace Rskrb5.Http

open Lib.Results Lib.Programs Crypto EncParts Client Service Spnego Gss

section Calls

variable {P : Primitives} {R : Rasn} {B : Base64} {Pac : Type} {pac : PacOps Pac}
  {HeaderValue Content Answer ε σ : Type} {H : HeaderValues HeaderValue} {empty : Answer}
  {serve : Request HeaderValue Content Pac → σ → Except ε (Response HeaderValue Answer) × σ}

variable (P R B pac H) in
/-- A request that a service has accepted, and what the wrapped service made of it. -/
structure Served (serve : Request HeaderValue Content Pac → σ → Except ε (Response HeaderValue Answer) × σ)
    (service service' : NegotiateService σ) (clock : Clock) (fill : (len : ℕ) → Except String (Vector UInt8 len))
    (request : Request HeaderValue Content Pac) (response : Response HeaderValue Answer) where
  bytes : Bytes
  replayKey : ReplayKey
  now : SystemTime
  validated : ValidatedApReq Pac
  header : Option String
  answer : Response HeaderValue Answer
  request_eq : requestApReq B H request = .ok bytes
  check : service.validator.checkApReq P R pac clock bytes = .ok (replayKey, now, validated)
  header_eq : apRepHeader P R B service.response fill ⟨validated⟩ = .ok header
  serve_eq : serve (request.attach validated) service.inner = (.ok answer, service'.inner)
  response_eq : withApRep (ε := ε) H header (.ok answer) = .ok response

theorem call_validator (service : NegotiateService σ) (clock : Clock)
    (fill : (len : ℕ) → Except String (Vector UInt8 len)) (request : Request HeaderValue Content Pac) :
    (service.call P R B pac H empty serve clock fill request).2.validator = service.validator ∧
      (service.call P R B pac H empty serve clock fill request).2.response = service.response := by
  rw [NegotiateService.call]
  rcases acceptRequest H P R B pac service.validator clock request service.caches with ⟨error | ⟨accepted, _⟩, caches⟩
  · exact ⟨rfl, rfl⟩
  · dsimp only
    cases apRepHeader P R B service.response fill accepted <;> exact ⟨rfl, rfl⟩

/-- A service that answers has refused the request, or its wrapped service has served it. -/
theorem call_cases (hH : H.Lawful) (hB : ∀ bytes, B.Standard bytes) {service service' : NegotiateService σ}
    {clock : Clock} {fill : (len : ℕ) → Except String (Vector UInt8 len)} {request : Request HeaderValue Content Pac}
    {response : Response HeaderValue Answer}
    (h : service.call P R B pac H empty serve clock fill request = (.ok response, service')) :
    (∃ reading, Refuses P R B H response reading ∧ (reading = .challenge ∨ reading = .rejected) ∧
        service'.inner = service.inner) ∨
      Nonempty (Served P R B pac H serve service service' clock fill request response) := by
  rw [NegotiateService.call, acceptRequest_eq] at h
  have hrefused : ∀ {error : Error} {service' : NegotiateService σ}, (error = .missingAuthorization ∨
      (∃ message, error = .invalidHeader message) ∨ ∃ source, error = .spnego source) →
      refusal (ε := ε) B H empty service.response error = .ok response → service'.inner = service.inner →
      ∃ reading, Refuses P R B H response reading ∧ (reading = .challenge ∨ reading = .rejected) ∧
        service'.inner = service.inner := by
    intro error service' herror hrefusal hinner
    obtain ⟨response', reading, hresponse, hrefuses, hreading⟩ :=
      refuses_refusal (ε := ε) (P := P) (R := R) hH hB service.response empty herror
    obtain rfl := Except.ok.inj (hresponse.symm.trans hrefusal)
    exact ⟨reading, hrefuses, hreading.imp id And.left, hinner⟩
  cases hreq : requestApReq B H request with
  | error error =>
    rw [hreq] at h
    obtain ⟨hrefusal, rfl⟩ := Prod.mk.inj h
    exact .inl (hrefused (requestApReq_error hreq) hrefusal rfl)
  | ok bytes =>
    rw [hreq] at h
    dsimp only [ServiceValidator.validateApReq] at h
    cases hcheck : service.validator.checkApReq P R pac clock bytes with
    | error source =>
      rw [hcheck] at h
      obtain ⟨hrefusal, rfl⟩ := Prod.mk.inj h
      exact .inl (hrefused (.inr (.inr ⟨_, rfl⟩)) hrefusal rfl)
    | ok checked =>
      obtain ⟨key, now, validated⟩ := checked
      rcases hrecord : recordReplay service.caches key now with ⟨source | _, caches⟩
      · simp only [hcheck, hrecord] at h
        obtain ⟨hrefusal, rfl⟩ := Prod.mk.inj h
        exact .inl (hrefused (.inr (.inr ⟨_, rfl⟩)) hrefusal rfl)
      · simp only [hcheck, hrecord, ok_bind, pure_eq_ok, Except.mapError, Except.map] at h
        cases hheader : apRepHeader P R B service.response fill ⟨validated⟩ with
        | error error =>
          rw [hheader] at h
          cases h
        | ok header =>
          rw [hheader] at h
          dsimp only at h
          rcases hserve : serve (request.attach validated) service.inner with ⟨source | answer, inner⟩
          · rw [hserve] at h
            cases h
          · rw [hserve] at h
            obtain ⟨hresponse, rfl⟩ := Prod.mk.inj h
            exact .inr ⟨⟨bytes, key, now, validated, header, answer, hreq, hcheck, hheader, hserve, hresponse⟩⟩

end Calls

section Sites

variable {Pac HeaderValue Content Answer ε σ υ : Type}

/-- A caller that makes requests, and the time and randomness that a service finds when it is called. -/
structure Site (υ HeaderValue Content Pac : Type) where
  makeRequest : υ → Request HeaderValue Content Pac × υ
  clock : υ → Clock
  fill : υ → (len : ℕ) → Except String (Vector UInt8 len)
  tick : υ → υ

variable (P : Primitives) (R : Rasn) (B : Base64) (pac : PacOps Pac) (H : HeaderValues HeaderValue) (empty : Answer)
  (serve : Request HeaderValue Content Pac → σ → Except ε (Response HeaderValue Answer) × σ)

/-- The sender whose requests go to a service. -/
def Site.sender (site : Site υ HeaderValue Content Pac) :
    Sender HeaderValue Content Pac Answer (TowerError ε) (NegotiateService σ × υ) where
  makeRequest t := ((site.makeRequest t.2).1, (t.1, (site.makeRequest t.2).2))
  sendRequest request t :=
    let (answer, service) := t.1.call P R B pac H empty serve (site.clock t.2) (site.fill t.2) request
    (answer, (service, site.tick t.2))

end Sites

section Classified

variable {P : Primitives} {R : Rasn} {B : Base64} {Pac : Type} {HeaderValue : Type} {H : HeaderValues HeaderValue}

/-- A response with the AP-REP of a service is classified by what the initiator makes of the AP-REP. -/
theorem classify_of_apRep (hH : H.Lawful) (hB : ∀ bytes, B.Standard bytes) {accepted : AcceptedContext Pac}
    {confounder : Bytes} {options : ApRepOptions} {header : String} {value : HeaderValue}
    (hheader : accepted.apRepResponseHeaderWithConfounder P R B confounder options = .ok header)
    (hvalue : H.fromStr header = .ok value) (hlength : ∀ text, H.toStr value = .ok text → text.length < 2 ^ 63) :
    ∃ apRep, accepted.apReq.buildApRepWithConfounder P R confounder options = .ok apRep ∧
      ∀ (context : InitiatorContext) verified, context.verifyApRep P R apRep = .ok verified →
        classifyNegotiateResponse P R B H.toStr context [value] = some (.accepted (some verified)) := by
  obtain ⟨apRep, krb5, bytes, hrep, hkrb5, hbytes, rfl⟩ := apRepResponseHeader_eq_ok hheader
  obtain ⟨value', hvalue', hstr⟩ := exists_value hH hB bytes
  obtain rfl := Except.ok.inj (hvalue.symm.trans hvalue')
  have hlen : bytes.length < 2 ^ 63 := by
    refine Nat.lt_of_le_of_lt (length_le_negotiateText hB bytes) ?_
    rw [← String.length_toList]
    exact hlength _ hstr
  obtain ⟨hparse, hdecode⟩ := parse_apRepResponseHeader hB hkrb5 hbytes hlen
  have hencode : SpnegoToken.encode (.resp (NegTokenResp.acceptCompleted.withResponseToken krb5)) = .ok bytes := hbytes
  have hfirst : firstChallenge H.toStr [value] = some (negotiateText B bytes).toList :=
    firstChallenge_negotiateText hB (ne_nil_of_encode hencode) hstr
  refine ⟨apRep, hrep, fun context verified hverified ↦ ?_⟩
  refine classifyHeaders_eq_accepted.mpr ⟨_, hfirst, classifyNegotiateChallenge_eq_accepted.mpr ?_⟩
  refine ⟨_, by rw [String.ofList_toList]; exact hparse, classifyNegTokenResp_eq_accepted.mpr (.inr ?_)⟩
  refine ⟨by exact nofun, krb5, rfl, classifyResponseToken_eq_accepted.mpr ?_⟩
  exact ⟨_, apRep, verified, hdecode, hverified, rfl⟩

theorem requestApReq_authorized (hH : H.Lawful) (hB : ∀ bytes, B.Standard bytes) {Content : Type}
    (request : Request HeaderValue Content Pac) {session : TgsRepSession} {options : InitiatorContextOptions}
    {timestamp : SystemTime} {cusec : UInt32} {confounder : Bytes} {context : SentContext} {value : HeaderValue}
    (hcontext : initSecContextWithConfounder P R B session options timestamp cusec confounder = .ok context)
    (hvalue : H.fromStr context.header = .ok value) (hlength : context.header.length < 2 ^ 63) :
    requestApReq B H (request.authorized value) = .ok context.apReqDer := by
  obtain ⟨built, krb5, bytes, -, hof, hkrb5, hbytes, hheader, -⟩ := initSecContext_eq_ok hcontext
  have hlen : bytes.length < 2 ^ 63 := by
    rw [hheader] at hlength
    exact Nat.lt_of_le_of_lt (length_le_negotiateText hB bytes) hlength
  obtain ⟨value', hvalue', hstr⟩ := exists_value hH hB bytes
  rw [hheader] at hvalue
  obtain rfl := Except.ok.inj (hvalue.symm.trans hvalue')
  have hder : context.apReqDer = built.der := by rw [hof]; rfl
  have htext : String.ofList (negotiateText B bytes).toList = negotiateText B bytes := String.ofList_toList
  simp only [requestApReq, authorizationHeader, Request.authorized, List.head?_cons, okOr, ok_bind, hstr,
    Except.mapError,
    pure_eq_ok, htext, headerApReq_init hB hkrb5 hbytes hlen, hder]

end Classified

section Negotiated

variable {ω HeaderValue Content Pac Answer ε τ : Type} {W : World ω} {P : Primitives} {R : Rasn} {B : Base64}
  {H : HeaderValues HeaderValue} {S : Sender HeaderValue Content Pac Answer ε τ}

variable (W P R B H S) in
/-- The two requests of a send that has negotiated, and their answers. -/
structure Negotiates (principal : Principal) (options : InitiatorContextOptions) (c c' : TokioClient × ω) (t t' : τ)
    (r : NegotiateHttpResponse HeaderValue Answer) (context : SentContext) where
  first : Response HeaderValue Answer
  between : τ
  value : HeaderValue
  first_eq : S.sendRequest (S.makeRequest t).1 (S.makeRequest t).2 = (.ok first, between)
  context_eq : (spnegoContextWithOptions W P R B principal options).exec c = (.ok context, c')
  value_eq : H.fromStr context.header = .ok value
  answer_eq : S.sendRequest ((S.makeRequest between).1.authorized value) (S.makeRequest between).2 =
    (.ok r.response, t')
  negotiation_eq :
    classifyNegotiateResponse P R B H.toStr context.toInitiatorContext r.response.wwwAuthenticate = r.negotiation

theorem sendRequest_eq_ok {request : Request HeaderValue Content Pac} {t t' : τ}
    {response : Response HeaderValue Answer} :
    (sendRequest S request).exec t = (.ok response, t') ↔ S.sendRequest request t = (.ok response, t') := by
  rw [sendRequest, Program.exec_ofExec]
  rcases S.sendRequest request t with ⟨source | answer, t''⟩ <;> simp [Except.mapError]

theorem makeRequest_eq_ok {request : Request HeaderValue Content Pac} {t t' : τ} :
    (makeRequest (ε := ε) S).exec t = (.ok request, t') ↔ (S.makeRequest t).1 = request ∧ (S.makeRequest t).2 = t' := by
  rw [makeRequest, Program.exec_ofExec, Prod.mk.injEq, Except.ok.injEq]

theorem exists_negotiates {principal : Principal} {options : InitiatorContextOptions} {c c' : TokioClient × ω}
    {t t' : τ} {r : NegotiateHttpResponse HeaderValue Answer}
    (h : (sendWithNegotiateOptions W P R B H S principal options).exec (c, t) = (.ok r, (c', t')))
    {context : SentContext} (hcontext : r.context = some context) :
    Nonempty (Negotiates W P R B H S principal options c c' t t' r context) := by
  obtain ⟨c, w⟩ := c
  obtain ⟨c', w'⟩ := c'
  simp only [sendWithNegotiateOptions, Program.exec_bind_eq_ok, Program.exec_onSnd_eq_ok,
    Program.exec_liftExcept_eq_ok, sendRequest_eq_ok, makeRequest_eq_ok, Prod.exists, Prod.mk.injEq] at h
  obtain ⟨_, _, _, _, ⟨⟨rfl, rfl⟩, rfl, rfl⟩, first, _, _, between, ⟨hfirst, rfl, rfl⟩, asked, _, _, _,
    ⟨-, ⟨rfl, rfl⟩, rfl⟩, h⟩ := h
  split at h
  · simp only [retryWithNegotiate, setAuthorizationHeader, Program.exec_bind_eq_ok, Program.exec_onSnd_eq_ok,
      Program.exec_onFst_eq_ok, Program.exec_liftExcept_eq_ok, sendRequest_eq_ok, makeRequest_eq_ok, bind_eq_ok,
      mapError_eq_ok, okOr_eq_ok, pure_eq_ok, Except.ok.injEq, Program.exec_pure, Prod.exists, Prod.mk.injEq] at h
    obtain ⟨_, _, _, _, ⟨⟨rfl, rfl⟩, rfl, rfl⟩, context', _, _, _, ⟨hbuilt, rfl⟩, _, _, _, _,
      ⟨⟨value, hvalue, rfl⟩, ⟨rfl, rfl⟩, rfl⟩, response, _, _, _, ⟨hanswer, rfl, rfl⟩, negotiation, _, _, _,
      ⟨hnegotiation, ⟨rfl, rfl⟩, rfl⟩, rfl, ⟨rfl, rfl⟩, rfl⟩ := h
    obtain rfl := Option.some.inj hcontext
    exact ⟨⟨first, between, value, hfirst, hbuilt, hvalue, hanswer, hnegotiation⟩⟩
  · simp only [Program.exec_pure, Prod.mk.injEq, Except.ok.injEq] at h
    rw [← h.1] at hcontext
    cases hcontext

theorem exists_builtWith {principal : Principal} {options : InitiatorContextOptions} {c c' : TokioClient × ω}
    {context : SentContext}
    (h : (spnegoContextWithOptions W P R B principal options).exec c = (.ok context, c')) :
    ∃ session, ((TokioClient.getServiceTicket W P R principal).exec c).1 = .ok session ∧
      Nonempty (BuiltWith P R B session options context) := by
  simp only [spnegoContextWithOptions, Program.exec_bind_eq_ok, Program.exec_mapStop_eq_ok,
    Program.exec_onSnd_eq_ok] at h
  obtain ⟨session, s, hticket, hcontext, -⟩ := h
  have hreturns : ((initSecContext W P R B session options).exec s.2).1 = .ok context := by rw [hcontext]
  exact ⟨session, by rw [hticket], (returns_initSecContext session options).of_exec hreturns⟩

end Negotiated

section Agreement

variable {ω HeaderValue Content Pac Answer ε σ υ : Type} {W : World ω} {P : Primitives} {R : Rasn} {B : Base64}
  {pac : PacOps Pac} {H : HeaderValues HeaderValue} {empty : Answer}
  {serve : Request HeaderValue Content Pac → σ → Except ε (Response HeaderValue Answer) × σ}

/-- Both sides have accepted: the wrapped service was called with the context of the initiator, and the initiator
has verified the answer of the service. -/
structure BothAccept (serve : Request HeaderValue Content Pac → σ → Except ε (Response HeaderValue Answer) × σ)
    (options : InitiatorContextOptions) (repOptions : ApRepOptions) (request : Request HeaderValue Content Pac)
    (inner inner' : σ) (context : SentContext) (r : NegotiateHttpResponse HeaderValue Answer) where
  validated : ValidatedApReq Pac
  answer : Response HeaderValue Answer
  verified : VerifiedApRep
  served : serve (request.attach validated) inner = (.ok answer, inner')
  content_eq : r.response.status = answer.status ∧ r.response.content = answer.content
  negotiation_eq : r.negotiation = some (.accepted (some verified))
  agrees : AgreesWith validated context.toInitiatorContext options.subkey
  verifies : Mutual verified context.toInitiatorContext repOptions

variable (P R B pac H empty serve) in
/-- The first request of a send to a service: its answer, and the state that it leaves. -/
def Site.first (site : Site υ HeaderValue Content Pac) (service : NegotiateService σ) (u : υ) :
    Except (TowerError ε) (Response HeaderValue Answer) × (NegotiateService σ × υ) :=
  (site.sender P R B pac H empty serve).sendRequest (site.makeRequest u).1 (service, (site.makeRequest u).2)

theorem bothAccept_of_served (hR : R.Lawful) (hH : H.Lawful) (hB : ∀ bytes, B.Standard bytes)
    {session : TgsRepSession} {options : InitiatorContextOptions} {context : SentContext}
    (hbuilt : BuiltWith P R B session options context) {service service' : NegotiateService σ} {clock : Clock}
    {fill : (len : ℕ) → Except String (Vector UInt8 len)} {request : Request HeaderValue Content Pac}
    {value : HeaderValue} {r : NegotiateHttpResponse HeaderValue Answer}
    (hserved : Served P R B pac H serve service service' clock fill (request.authorized value) r.response)
    (hvalue : H.fromStr context.header = .ok value) (hemit : service.response.emitApRep = true)
    (hkey : HoldsServiceKey P R service.validator session)
    (hread : ∀ timestamp cusec, ReadsAnswer R session timestamp cusec service.response.apRepOptions)
    (hnegotiation : classifyNegotiateResponse P R B H.toStr context.toInitiatorContext r.response.wwwAuthenticate =
      r.negotiation)
    (hheader : context.header.length < 2 ^ 63)
    (hanswer : ∀ value ∈ r.response.wwwAuthenticate, ∀ text, H.toStr value = .ok text → text.length < 2 ^ 63) :
    Nonempty (BothAccept serve options service.response.apRepOptions (request.authorized value) service.inner
      service'.inner context r) := by
  obtain ⟨sequenceNumber, timestamp, cusec, confounder, hwhole, hcontext, -⟩ := hbuilt
  obtain ⟨bytes, replayKey, now, validated, header, answer, hrequest, hcheck, hrep, hserve, hresponse⟩ := hserved
  obtain rfl := Except.ok.inj (hrequest.symm.trans (requestApReq_authorized hH hB request hcontext hvalue hheader))
  obtain ⟨built, krb5, token, hbuild, hof, -⟩ := initSecContext_eq_ok hcontext
  have hder : context.apReqDer = built.der := by rw [hof]; rfl
  rw [hder] at hcheck
  -- the header of the answer carries the AP-REP of the service
  simp only [apRepHeader, hemit, if_true, bind_eq_ok, pure_eq_ok, Except.ok.injEq] at hrep
  obtain ⟨text, htext, rfl⟩ := hrep
  simp only [AcceptedContext.apRepResponseHeader, bind_eq_ok] at htext
  obtain ⟨etype, -, random, -, htext⟩ := htext
  simp only [withApRep, bind_eq_ok, mapError_eq_ok, pure_eq_ok, Except.ok.injEq] at hresponse
  obtain ⟨_, rfl, answered, hanswered, hresponse⟩ := hresponse
  have hvalues : r.response.wwwAuthenticate = [answered] := by rw [← hresponse]
  obtain ⟨apRep, hapRep, hclassify⟩ := classify_of_apRep hH hB htext hanswered
    (hanswer answered (by rw [hvalues]; exact List.mem_singleton_self _))
  obtain ⟨verified, hverified, hmutual⟩ := verifyApRep_of_answer hR hkey hbuild hwhole hcheck hapRep (hread _ _)
  have hagrees := agreesWith_of_checkApReq hR hkey hbuild hcheck
  rw [← hof] at hverified hmutual hagrees
  rw [hvalues, hclassify _ verified hverified] at hnegotiation
  have hcontent : r.response.status = answer.status ∧ r.response.content = answer.content := by
    rw [← hresponse]
    exact ⟨rfl, rfl⟩
  exact ⟨⟨validated, answer, verified, hserve, hcontent, hnegotiation.symm, hagrees, hmutual⟩⟩

/-- When a send has negotiated with a service that answers with AP-REPs, and whose key the ticket is sealed with,
both sides agree on the outcome: the service has declined the token, without a call of the wrapped service, and the
client reads this off its answer; or the wrapped service was called once, with the client, keys and sequence number
of the client's own context, and the client has verified what the service answered. No string is longer
than `isize::MAX`. -/
theorem agree_on_outcome (W : World ω) (P : Primitives) (R : Rasn) (B : Base64) (pac : PacOps Pac)
    (H : HeaderValues HeaderValue) (empty : Answer)
    (serve : Request HeaderValue Content Pac → σ → Except ε (Response HeaderValue Answer) × σ) (hR : R.Lawful)
    (hH : H.Lawful) (hB : ∀ bytes, B.Standard bytes) (site : Site υ HeaderValue Content Pac) (principal : Principal)
    (options : InitiatorContextOptions) (c c' : TokioClient × ω) (service service' : NegotiateService σ) (u u' : υ)
    (r : NegotiateHttpResponse HeaderValue Answer) (context : SentContext)
    (h : (sendWithNegotiateOptions W P R B H (site.sender P R B pac H empty serve) principal options).exec
      (c, (service, u)) = (.ok r, (c', (service', u'))))
    (hcontext : r.context = some context) (hemit : service.response.emitApRep = true)
    (hticket : ∀ session, ((TokioClient.getServiceTicket W P R principal).exec c).1 = .ok session →
      HoldsServiceKey P R service.validator session ∧
        ∀ timestamp cusec, ReadsAnswer R session timestamp cusec service.response.apRepOptions)
    (hheader : context.header.length < 2 ^ 63)
    (hanswer : ∀ value ∈ r.response.wwwAuthenticate, ∀ text, H.toStr value = .ok text → text.length < 2 ^ 63) :
    ((r.negotiation = some .challenge ∨ r.negotiation = some .rejected) ∧
        service'.inner = (site.first P R B pac H empty serve service u).2.1.inner) ∨
      ∃ value, H.fromStr context.header = .ok value ∧
        Nonempty (BothAccept serve options service.response.apRepOptions
          ((site.makeRequest (site.first P R B pac H empty serve service u).2.2).1.authorized value)
          (site.first P R B pac H empty serve service u).2.1.inner service'.inner context r) := by
  obtain ⟨n⟩ := exists_negotiates h hcontext
  obtain ⟨session, hsession, ⟨hbuilt⟩⟩ := exists_builtWith n.context_eq
  obtain ⟨hkey, hread⟩ := hticket session hsession
  have hfirst : site.first P R B pac H empty serve service u = (.ok n.first, n.between) := n.first_eq
  have hkept : n.between.1.validator = service.validator ∧ n.between.1.response = service.response := by
    have hbetween : (site.first P R B pac H empty serve service u).2.1 = n.between.1 := by rw [hfirst]
    rw [← hbetween]
    exact call_validator service _ _ _
  have hcall : n.between.1.call P R B pac H empty serve (site.clock (site.makeRequest n.between.2).2)
      (site.fill (site.makeRequest n.between.2).2) ((site.makeRequest n.between.2).1.authorized n.value) =
      (.ok r.response, service') := by
    have hanswer := n.answer_eq
    simp only [Site.sender, Prod.mk.injEq] at hanswer
    exact Prod.ext hanswer.1 hanswer.2.1
  rw [hfirst]
  rcases call_cases hH hB hcall with ⟨reading, hrefuses, hreading, hinner⟩ | ⟨⟨hserved⟩⟩
  · refine .inl ⟨?_, hinner⟩
    rw [← n.negotiation_eq, hrefuses.classified]
    exact hreading.imp (congrArg some) (congrArg some)
  · have haccept := bothAccept_of_served hR hH hB hbuilt hserved n.value_eq (by rw [hkept.2, hemit])
      (by rw [hkept.1]; exact hkey) (by rw [hkept.2]; exact hread) n.negotiation_eq hheader hanswer
    rw [hkept.2] at haccept
    exact .inr ⟨n.value, n.value_eq, haccept⟩

end Agreement

section Sample

def webSite : Site Unit String Unit Unit where
  makeRequest u := (⟨[], none, ()⟩, u)
  clock _ := ⟨webNow, webNow⟩
  fill _ := flaggedFill
  tick u := u

def countingService : NegotiateService ℕ :=
  (countingDeployment (some .new)).layer.layer 0

theorem countingService_validator : countingService.validator = webValidator := validator_countingDeployment _

def webSender : Sender String Unit Unit Unit (TowerError Unit) (NegotiateService ℕ × Unit) :=
  webSite.sender flaggedPrimitives flaggedRasn standardBase64 noPac asciiValues ()
    ((countingDeployment (some .new)).serve true)

theorem flaggedRasn_lawful : flaggedRasn.Lawful :=
  Rasn.ofTable_lawful (by decide +kernel) (by decide +kernel) (by decide +kernel) (by decide +kernel)
    (by decide) (by decide) (by decide) (by decide)

theorem webValidator_holds : HoldsServiceKey flaggedPrimitives flaggedRasn webValidator aliceSession :=
  ⟨aliceTicket, webPrincipal, webKey, 2, aliceEncTicket, by decide +kernel, by decide, by decide, by decide +kernel,
    rfl⟩

/-- The call with the token of `alice@A` is served. -/
theorem call_flagged {header : String} (h : headerApReq standardBase64 header = .ok flaggedApReqDer) :
    ∃ text service', countingService.call flaggedPrimitives flaggedRasn standardBase64 noPac asciiValues ()
        ((countingDeployment (some .new)).serve true) ⟨webNow, webNow⟩ flaggedFill (flaggedRequest header) =
          (.ok ⟨statusOk, [text], ()⟩, service') ∧ service'.inner = 1 ∧ text.length < 2 ^ 63 := by
  obtain ⟨text, htext, hlength⟩ := exists_flaggedAnswer
  have hcheck : countingService.validator.checkApReq flaggedPrimitives flaggedRasn noPac ⟨webNow, webNow⟩
      flaggedApReqDer = .ok (aliceReplayKey 2, webNow, flaggedValidated) := by
    rw [countingService_validator]
    exact flaggedExchange.2.1
  have hrep : apRepHeader flaggedPrimitives flaggedRasn standardBase64 countingService.response flaggedFill
      ⟨flaggedValidated⟩ = .ok (some text) := bind_eq_ok.mpr ⟨text, htext, rfl⟩
  have hrecorded : recordReplay countingService.caches (aliceReplayKey 2) webNow =
      (.ok (), ⟨.new, some ⟨flaggedCache, false⟩⟩) := recordReplay_shared_flagged .new
  refine ⟨text, { countingService with caches := ⟨.new, some ⟨flaggedCache, false⟩⟩, inner := 1 }, ?_, rfl, hlength⟩
  rw [NegotiateService.call, acceptRequest_eq, requestApReq_flagged h]
  simp only [ServiceValidator.validateApReq, hcheck, hrecorded, ok_bind, pure_eq_ok, Except.mapError, Except.map, hrep]
  rfl

/-- The send of `alice@A` ends in agreement, with an AP-REP that she has verified. -/
theorem agree_on_outcome_flagged : ∃ c' service' r,
    (sendWithNegotiateOptions webWorld flaggedPrimitives flaggedRasn standardBase64 asciiValues webSender webPrincipal
        flaggedOptions).exec ((ticketHolder, ()), (countingService, ())) = (.ok r, (c', (service', ()))) ∧
      service'.inner = 1 ∧ ∃ verified, r.negotiation = some (.accepted (some verified)) := by
  obtain ⟨context, hcontext, hapReq, hheader⟩ := exists_webContext
  obtain ⟨text, service', hcall, hinner, htext⟩ := call_flagged hapReq
  obtain ⟨negotiation, hnegotiation⟩ := Option.isSome_iff_exists.mp (classifyNegotiateResponse_isSome
    (P := flaggedPrimitives) (R := flaggedRasn) (B := standardBase64) (H := asciiValues)
    context.toInitiatorContext [text])
  let r : NegotiateHttpResponse String Unit := .negotiated ⟨statusOk, [text], ()⟩ context negotiation
  have hmade : (Program.onSnd id (makeRequest (ε := TowerError Unit) webSender)).exec
      ((ticketHolder, ()), (countingService, ())) =
      (.ok (webSite.makeRequest ()).1, ((ticketHolder, ()), (countingService, ()))) := rfl
  have hfirst : (Program.onSnd id (sendRequest webSender (webSite.makeRequest ()).1)).exec
      ((ticketHolder, ()), (countingService, ())) =
      (.ok (challengeResponse asciiValues ()), ((ticketHolder, ()), (countingService, ()))) := rfl
  have hasked : readHeaders (ε := TowerError Unit) (shouldRetryWithNegotiate asciiValues
      (challengeResponse asciiValues ())) = .ok true := by
    rw [(shouldRetry_iff _).mpr ⟨rfl, _, firstChallenge_challengeResponse asciiValues_lawful ()⟩]
    rfl
  have hbuilt : (Program.onFst (NegotiateHttpError.context (ε := TowerError Unit)) (spnegoContextWithOptions webWorld
      flaggedPrimitives flaggedRasn standardBase64 webPrincipal flaggedOptions)).exec
      ((ticketHolder, ()), (countingService, ())) = (.ok context, ((ticketHolder, ()), (countingService, ()))) :=
    Program.exec_onFst_eq_ok.mpr ⟨hcontext, rfl⟩
  have hset : (liftM ((setAuthorizationHeader asciiValues (webSite.makeRequest ()).1 context.header).mapError
      (NegotiateHttpError.http (ε := TowerError Unit))) : Program ((TokioClient × Unit) × (NegotiateService ℕ × Unit)) _
        _).exec ((ticketHolder, ()), (countingService, ())) =
      (.ok (flaggedRequest context.header), ((ticketHolder, ()), (countingService, ()))) :=
    Program.exec_liftExcept_eq_ok.mpr ⟨rfl, rfl⟩
  have hanswer : (Program.onSnd id (sendRequest webSender (flaggedRequest context.header))).exec
      ((ticketHolder, ()), (countingService, ())) =
      (.ok ⟨statusOk, [text], ()⟩, ((ticketHolder, ()), (service', ()))) := by
    refine Program.exec_onSnd_eq_ok.mpr ⟨sendRequest_eq_ok.mpr ?_, rfl⟩
    simp only [webSender, Site.sender, webSite, hcall]
  have hexec : (sendWithNegotiateOptions webWorld flaggedPrimitives flaggedRasn standardBase64 asciiValues webSender
      webPrincipal flaggedOptions).exec ((ticketHolder, ()), (countingService, ())) =
      (.ok r, ((ticketHolder, ()), (service', ()))) := by
    rw [sendWithNegotiateOptions, Program.exec_bind_ok hmade, Program.exec_bind_ok hfirst, hasked]
    change (retryWithNegotiate _ _ _ _ _ _ _ _).exec _ = _
    rw [retryWithNegotiate, Program.exec_bind_ok hmade, Program.exec_bind_ok hbuilt]
    rw [Program.exec_bind_ok hset, Program.exec_bind_ok hanswer, hnegotiation]
    rfl
  have hticket : ∀ session, ((TokioClient.getServiceTicket webWorld flaggedPrimitives flaggedRasn webPrincipal).exec
      (ticketHolder, ())).1 = .ok session → HoldsServiceKey flaggedPrimitives flaggedRasn webValidator session ∧
        ∀ timestamp cusec, ReadsAnswer flaggedRasn session timestamp cusec ⟨none, some 7, none⟩ := by
    intro session hsession
    rw [ticketHolder_getServiceTicket] at hsession
    obtain rfl := Except.ok.inj hsession
    exact ⟨webValidator_holds, fun _ _ hetype ↦ absurd hetype (by decide)⟩
  have hshort : ∀ value ∈ [text], ∀ text', asciiValues.toStr value = .ok text' → text'.length < 2 ^ 63 := by
    intro value hvalue text' htext'
    obtain rfl := List.mem_singleton.mp hvalue
    obtain rfl := Except.ok.inj htext'
    rw [String.length_toList]
    exact htext
  refine ⟨_, service', r, hexec, hinner, ?_⟩
  rcases agree_on_outcome webWorld flaggedPrimitives flaggedRasn standardBase64 noPac asciiValues ()
    ((countingDeployment (some .new)).serve true) flaggedRasn_lawful asciiValues_lawful standardBase64_standard webSite
    webPrincipal
    flaggedOptions (ticketHolder, ()) _ countingService service' () () r context hexec rfl rfl hticket hheader
    hshort with
    ⟨-, hsame⟩ | ⟨value, -, ⟨haccept⟩⟩
  · rw [hinner] at hsame
    exact absurd hsame (by decide)
  · exact ⟨haccept.verified, haccept.negotiation_eq⟩

end Sample

end Rskrb5.Http
