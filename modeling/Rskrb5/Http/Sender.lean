import Rskrb5.Client.Sessions
import Rskrb5.Gss.Mutual
import Rskrb5.Http.Middleware

namespace Rskrb5.Gss

open Lib.Results Lib.Programs Crypto EncParts Client Spnego

section Contexts

variable {ω : Type} (W : World ω) (P : Primitives) (R : Rasn) (B : Base64)

/-- The module's own copy of the client's function. -/
def currentTime : Program ω ContextError (SystemTime × UInt32) := .mapStop clientErrorToSpnego (currentPreauthTime W)

def randomSequenceNumber : Program ω ContextError UInt32 := do
  let bytes ← .mapStop clientErrorToSpnego (fill W 4)
  return u32FromBeBytes bytes &&& 0x3fffffff

def filledOptions (options : InitiatorContextOptions) : Program ω ContextError InitiatorContextOptions := do
  match options.sequenceNumber with
  | some _ => return options
  | none =>
    let sequenceNumber ← randomSequenceNumber W
    return { options with sequenceNumber := some sequenceNumber }

def initSecContext (serviceTicket : TgsRepSession) (options : InitiatorContextOptions) :
    Program ω ContextError SentContext := do
  let (timestamp, cusec) ← currentTime W
  let options ← filledOptions W options
  let confounder ← .mapStop clientErrorToSpnego (confounderFor W serviceTicket.sessionKey)
  initSecContextWithConfounder P R B serviceTicket options timestamp cusec confounder

end Contexts

/-- How the client fails to give a context. -/
inductive ContextStop
  | client (source : Stop)
  | spnego (source : ContextError)
  deriving DecidableEq

section Clients

variable {ω : Type} (W : World ω) (P : Primitives) (R : Rasn) (B : Base64)

/-- `TokioClient::spnego_context_with_options`, which `NegotiateClient` passes on. -/
def spnegoContextWithOptions (service : Principal) (options : InitiatorContextOptions) :
    Program (TokioClient × ω) ContextStop SentContext := do
  let ticket ← .mapStop .client (TokioClient.getServiceTicket W P R service)
  .onSnd .spnego (initSecContext W P R B ticket options)

variable {W P R B}

/-- A context that was built from whole seconds, with the options asked for. -/
structure BuiltWith (P : Primitives) (R : Rasn) (B : Base64) (session : TgsRepSession)
    (options : InitiatorContextOptions)
    (context : SentContext) where
  sequenceNumber : Option UInt32
  timestamp : SystemTime
  cusec : UInt32
  confounder : Bytes
  whole : timestamp.nanos % nanosPerSec = 0
  built : initSecContextWithConfounder P R B session { options with sequenceNumber } timestamp cusec confounder =
    .ok context
  sequenceNumber_eq : ∀ n, options.sequenceNumber = some n → sequenceNumber = some n

theorem returns_currentTime : Returns (currentTime W) fun r ↦ r.1.nanos % nanosPerSec = 0 := by
  have h : Returns (currentPreauthTime W) fun r ↦ r.1.nanos % nanosPerSec = 0 := by
    refine .seq fun now ↦ .seq fun elapsed ↦ .pure ?_
    simp only [SystemTime.wholeSeconds]
    exact Int.emod_eq_zero_of_dvd (Int.dvd_self_sub_of_emod_eq rfl)
  intro w _
  have hw := h w trivial
  revert hw
  simp only [currentTime, Program.mapStop, Program.exec_ofExec]
  rcases (currentPreauthTime W).exec w with ⟨e | r, w'⟩
  · exact id
  · exact id

theorem returns_filledOptions (options : InitiatorContextOptions) : Returns (filledOptions W options) fun filled ↦
    ∃ sequenceNumber, filled = { options with sequenceNumber } ∧
      ∀ n, options.sequenceNumber = some n → sequenceNumber = some n := by
  rw [filledOptions]
  split
  · next n h => exact .pure ⟨options.sequenceNumber, rfl, fun _ h ↦ h⟩
  · next h => exact .seq fun n ↦ .pure ⟨some n, rfl, fun m hm ↦ nomatch h.symm.trans hm⟩

theorem returns_initSecContext (session : TgsRepSession) (options : InitiatorContextOptions) :
    Returns (initSecContext W P R B session options)
      fun context ↦ Nonempty (BuiltWith P R B session options context) := by
  refine returns_currentTime.bind fun time hwhole ↦ (returns_filledOptions options).bind fun filled hfilled ↦ ?_
  refine .seq fun confounder ↦ .lift fun context hcontext ↦ ?_
  obtain ⟨sequenceNumber, rfl, hnumber⟩ := hfilled
  exact ⟨⟨sequenceNumber, time.1, time.2, confounder, hwhole, hcontext, hnumber⟩⟩

end Clients

end Rskrb5.Gss

namespace Rskrb5.Http

open Lib.Results Lib.Programs Crypto EncParts Client Service Spnego Gss

inductive NegotiateHttpError (ε : Type)
  | http (source : Error)
  | context (source : ContextStop)
  | sender (source : ε)
  | panicked
  deriving DecidableEq

structure NegotiateHttpResponse (HeaderValue Answer : Type) where
  response : Response HeaderValue Answer
  context : Option SentContext
  negotiation : Option ClientNegotiateResponse

namespace NegotiateHttpResponse

variable {HeaderValue Answer : Type}

def notNegotiated (response : Response HeaderValue Answer) : NegotiateHttpResponse HeaderValue Answer :=
  ⟨response, none, none⟩

def negotiated (response : Response HeaderValue Answer) (context : SentContext)
    (negotiation : ClientNegotiateResponse) : NegotiateHttpResponse HeaderValue Answer :=
  ⟨response, some context, some negotiation⟩

end NegotiateHttpResponse

/-- The two closures of a caller, and the state that they share. -/
structure Sender (HeaderValue Content Pac Answer ε τ : Type) where
  makeRequest : τ → Request HeaderValue Content Pac × τ
  sendRequest : Request HeaderValue Content Pac → τ → Except ε (Response HeaderValue Answer) × τ

section Send

variable {ω HeaderValue Content Pac Answer ε τ : Type} (W : World ω) (P : Primitives) (R : Rasn) (B : Base64)
  (H : HeaderValues HeaderValue) (S : Sender HeaderValue Content Pac Answer ε τ)

def makeRequest : Program τ (NegotiateHttpError ε) (Request HeaderValue Content Pac) :=
  .ofExec fun t ↦ (.ok (S.makeRequest t).1, (S.makeRequest t).2)

def sendRequest (request : Request HeaderValue Content Pac) :
    Program τ (NegotiateHttpError ε) (Response HeaderValue Answer) :=
  .ofExec fun t ↦ ((S.sendRequest request t).1.mapError .sender, (S.sendRequest request t).2)

/-- A result of reading headers, which is nothing where a slice panics. -/
def readHeaders {α : Type} (result : Option (Except Error α)) : Except (NegotiateHttpError ε) α := do
  let result ← okOr result .panicked
  result.mapError .http

/-- The second part of a send, behind the first response. -/
def retryWithNegotiate (service : Principal) (options : InitiatorContextOptions) :
    Program ((TokioClient × ω) × τ) (NegotiateHttpError ε) (NegotiateHttpResponse HeaderValue Answer) := do
  let retry ← .onSnd id (makeRequest S)
  let context ← .onFst .context (spnegoContextWithOptions W P R B service options)
  let retry ← liftM ((setAuthorizationHeader H retry context.header).mapError (NegotiateHttpError.http (ε := ε)))
  let response ← .onSnd id (sendRequest S retry)
  let negotiation ← liftM (okOr (classifyNegotiateResponse P R B H.toStr context.toInitiatorContext
    response.wwwAuthenticate) (NegotiateHttpError.panicked (ε := ε)))
  return .negotiated response context negotiation

def sendWithNegotiateOptions (service : Principal) (options : InitiatorContextOptions) :
    Program ((TokioClient × ω) × τ) (NegotiateHttpError ε) (NegotiateHttpResponse HeaderValue Answer) := do
  let request ← .onSnd id (makeRequest S)
  let first ← .onSnd id (sendRequest S request)
  let asked ← liftM (readHeaders (ε := ε) (shouldRetryWithNegotiate H first))
  if asked then retryWithNegotiate W P R B H S service options else return .notNegotiated first

end Send

section Asked

variable {ω HeaderValue Content Pac Answer ε τ : Type} {W : World ω} {P : Primitives} {R : Rasn} {B : Base64}
  {H : HeaderValues HeaderValue} {S : Sender HeaderValue Content Pac Answer ε τ}

/-- An answer asks for a token: a `401` whose challenges have one for Negotiate. -/
def Response.Asks (H : HeaderValues HeaderValue) (response : Response HeaderValue Answer) : Prop :=
  response.status = statusUnauthorized ∧ ∃ challenge, firstChallenge H.toStr response.wwwAuthenticate = some challenge

/-- Beside its state a sender keeps the requests that went out. -/
def Sender.logged (S : Sender HeaderValue Content Pac Answer ε τ) :
    Sender HeaderValue Content Pac Answer ε (τ × List (Request HeaderValue Content Pac)) where
  makeRequest t := ((S.makeRequest t.1).1, ((S.makeRequest t.1).2, t.2))
  sendRequest request t :=
    ((S.sendRequest request t.1).1, ((S.sendRequest request t.1).2, t.2 ++ [request]))

def Request.authorized (request : Request HeaderValue Content Pac) (value : HeaderValue) :
    Request HeaderValue Content Pac :=
  { request with authorization := [value] }

theorem classifyNegotiateResponse_isSome (context : InitiatorContext) (headers : List HeaderValue) :
    (classifyNegotiateResponse P R B H.toStr context headers).isSome := by
  have hheaders : ∀ saw, (classifyHeaders P R B H.toStr context saw headers).isSome := by
    induction headers with
    | nil => exact fun saw ↦ rfl
    | cons value headers ih =>
      intro saw
      rw [classifyHeaders]
      cases H.toStr value with
      | error source => rfl
      | ok header =>
        dsimp only
        rw [negotiateChallenge_eq]
        cases ((headerPieces header).map trim).find? (IsNegotiate ·) with
        | some challenge => rfl
        | none => exact ih true
  exact hheaders false

/-- Reading the headers of an answer never panics, and tells whether it asks. -/
theorem readHeaders_cases (response : Response HeaderValue Answer) :
    (readHeaders (ε := ε) (shouldRetryWithNegotiate H response) = .ok true ∧ response.Asks H) ∨
      ¬ response.Asks H ∧ (readHeaders (ε := ε) (shouldRetryWithNegotiate H response) = .ok false ∨
        ∃ error, readHeaders (ε := ε) (shouldRetryWithNegotiate H response) = .error (.http error)) := by
  obtain ⟨result, hresult⟩ := Option.isSome_iff_exists.mp (shouldRetry_isSome (H := H) response)
  have hiff := shouldRetry_iff (H := H) response
  rw [hresult] at hiff ⊢
  rcases result with error | asked
  · exact .inr ⟨fun hasks ↦ (nomatch hiff.mpr hasks), .inr ⟨error, rfl⟩⟩
  · cases asked with
    | true => exact .inl ⟨rfl, hiff.mp rfl⟩
    | false => exact .inr ⟨fun hasks ↦ (nomatch hiff.mpr hasks), .inl rfl⟩

/-- How the second part of a send ends, and what went out in it. -/
inductive Retried (W : World ω) (P : Primitives) (R : Rasn) (B : Base64) (H : HeaderValues HeaderValue)
    (S : Sender HeaderValue Content Pac Answer ε τ) (service : Principal) (options : InitiatorContextOptions)
    (c : TokioClient × ω) (t : τ) : Except (NegotiateHttpError ε) (NegotiateHttpResponse HeaderValue Answer) →
    TokioClient × ω → τ → List (Request HeaderValue Content Pac) → Prop
  | unready {source : ContextStop} {c' : TokioClient × ω}
      (hcontext : (spnegoContextWithOptions W P R B service options).exec c = (.error source, c')) :
      Retried W P R B H S service options c t (.error (.context source)) c' (S.makeRequest t).2 []
  | unsendable {context : SentContext} {c' : TokioClient × ω} {message : String}
      (hcontext : (spnegoContextWithOptions W P R B service options).exec c = (.ok context, c'))
      (hvalue : H.fromStr context.header = .error message) :
      Retried W P R B H S service options c t (.error (.http (.invalidHeaderValue message))) c' (S.makeRequest t).2 []
  | failed {context : SentContext} {c' : TokioClient × ω} {value : HeaderValue} {source : ε} {t' : τ}
      (hcontext : (spnegoContextWithOptions W P R B service options).exec c = (.ok context, c'))
      (hvalue : H.fromStr context.header = .ok value)
      (hanswer : S.sendRequest ((S.makeRequest t).1.authorized value) (S.makeRequest t).2 = (.error source, t')) :
      Retried W P R B H S service options c t (.error (.sender source)) c' t' [(S.makeRequest t).1.authorized value]
  | answered {context : SentContext} {c' : TokioClient × ω} {value : HeaderValue}
      {response : Response HeaderValue Answer} {t' : τ} {negotiation : ClientNegotiateResponse}
      (hcontext : (spnegoContextWithOptions W P R B service options).exec c = (.ok context, c'))
      (hvalue : H.fromStr context.header = .ok value)
      (hanswer : S.sendRequest ((S.makeRequest t).1.authorized value) (S.makeRequest t).2 = (.ok response, t'))
      (hnegotiation : classifyNegotiateResponse P R B H.toStr context.toInitiatorContext response.wwwAuthenticate =
        some negotiation) :
      Retried W P R B H S service options c t (.ok (.negotiated response context negotiation)) c' t'
        [(S.makeRequest t).1.authorized value]

theorem retried (S : Sender HeaderValue Content Pac Answer ε τ) (service : Principal)
    (options : InitiatorContextOptions) (c : TokioClient × ω) (t : τ) (log : List (Request HeaderValue Content Pac)) :
    ∃ result c' t' sent, (retryWithNegotiate W P R B H S.logged service options).exec (c, (t, log)) =
        (result, (c', (t', log ++ sent))) ∧ Retried W P R B H S service options c t result c' t' sent := by
  have hmade : (Program.onSnd id (makeRequest S.logged) : Program ((TokioClient × ω) × _) (NegotiateHttpError ε)
      (Request HeaderValue Content Pac)).exec (c, (t, log)) =
      (.ok (S.makeRequest t).1, (c, ((S.makeRequest t).2, log))) := rfl
  rw [retryWithNegotiate, Program.exec_bind_ok hmade, Program.exec_bind]
  simp only [Program.onFst, Program.exec_ofExec]
  rcases hcontext : (spnegoContextWithOptions W P R B service options).exec c with ⟨source | context, c'⟩
  · exact ⟨_, c', _, [], by rw [List.append_nil]; rfl, .unready hcontext⟩
  · dsimp only [Except.mapError]
    rw [Program.exec_bind, Program.exec_liftExcept, setAuthorizationHeader]
    cases hvalue : H.fromStr context.header with
    | error message => exact ⟨_, c', _, [], by rw [List.append_nil]; rfl, .unsendable hcontext hvalue⟩
    | ok value =>
      change ∃ result c'' t' sent, (Program.onSnd id _ >>= _).exec _ = _ ∧ _
      rw [Program.exec_bind]
      simp only [Program.onSnd, Program.exec_ofExec, sendRequest, Sender.logged]
      rcases hanswer : S.sendRequest ((S.makeRequest t).1.authorized value) (S.makeRequest t).2 with
        ⟨source | response, t'⟩
      · rw [Request.authorized] at hanswer
        rw [hanswer]
        exact ⟨_, c', t', _, rfl, .failed hcontext hvalue hanswer⟩
      · obtain ⟨negotiation, hnegotiation⟩ := Option.isSome_iff_exists.mp (classifyNegotiateResponse_isSome
          (P := P) (R := R) (B := B) (H := H) context.toInitiatorContext response.wwwAuthenticate)
        rw [Request.authorized] at hanswer
        rw [hanswer]
        dsimp only [Except.mapError]
        rw [hnegotiation]
        exact ⟨_, c', t', _, rfl, .answered hcontext hvalue hanswer hnegotiation⟩

/-- A send that ends in a panic, of a slice of a header or of the client. -/
def Panics (result : Except (NegotiateHttpError ε) (NegotiateHttpResponse HeaderValue Answer)) : Prop :=
  result = .error .panicked ∨ ∃ message, result = .error (.context (.client (.panicked message)))

theorem spnegoContext_not_panicked {c : TokioClient × ω} (hc : TokioClient.Coherent c.1) (service : Principal)
    (options : InitiatorContextOptions) (message : String) :
    ((spnegoContextWithOptions W P R B service options).exec c).1 ≠ .error (.client (.panicked message)) := by
  have hticket := ((TokioClient.runs_getServiceTicket_any (W := W) (P := P) (R := R) c service).events
    (hc.covers _) rfl).2
  rw [spnegoContextWithOptions, Program.exec_bind]
  simp only [Program.mapStop, Program.exec_ofExec]
  rcases hget : (TokioClient.getServiceTicket W P R service).exec c with ⟨e | ticket, c'⟩
  · intro h
    obtain rfl := ContextStop.client.inj (Except.error.inj h)
    exact hticket message (congrArg Prod.fst hget)
  · dsimp only [Except.mapError]
    rw [Program.onSnd, Program.exec_ofExec]
    rcases (initSecContext W P R B ticket options).exec c'.2 with ⟨e | context, w⟩
    · intro h
      cases h
    · intro h
      cases h

theorem Retried.not_panics {service : Principal} {options : InitiatorContextOptions} {c c' : TokioClient × ω}
    (hc : TokioClient.Coherent c.1) {t t' : τ}
    {result : Except (NegotiateHttpError ε) (NegotiateHttpResponse HeaderValue Answer)}
    {sent : List (Request HeaderValue Content Pac)} (h : Retried W P R B H S service options c t result c' t' sent) :
    ¬ Panics result := by
  rintro (hpanic | ⟨message, hpanic⟩)
  · cases h <;> exact nomatch hpanic
  · cases h with
    | unready hcontext =>
      obtain rfl := NegotiateHttpError.context.inj (Except.error.inj hpanic)
      exact spnegoContext_not_panicked hc service options message (congrArg Prod.fst hcontext)
    | unsendable => exact nomatch hpanic
    | failed => exact nomatch hpanic
    | answered => exact nomatch hpanic

/-- Without an answer that asks for a token, nothing is sent but the request as it was made, and the client is
not touched. Behind one that does, what is sent is the request made anew with the token of a context built for it,
and it is by this context that its answer is classified. The send never panics, in the headers or in the client. -/
theorem sends_token_only_when_asked (W : World ω) (P : Primitives) (R : Rasn) (B : Base64)
    (H : HeaderValues HeaderValue) (S : Sender HeaderValue Content Pac Answer ε τ) (service : Principal)
    (options : InitiatorContextOptions) (c : TokioClient × ω) (hc : TokioClient.Reachable W P R c.1) (t : τ) :
    ∃ result c' t' sent, (sendWithNegotiateOptions W P R B H S.logged service options).exec (c, (t, [])) =
        (result, (c', (t', sent))) ∧ ¬ Panics result ∧
      ∃ answer t₁, S.sendRequest (S.makeRequest t).1 (S.makeRequest t).2 = (answer, t₁) ∧
        ((∃ response retry, answer = .ok response ∧ response.Asks H ∧ sent = (S.makeRequest t).1 :: retry ∧
            Retried W P R B H S service options c t₁ result c' t' retry) ∨
          ((∀ response, answer = .ok response → ¬ response.Asks H) ∧ sent = [(S.makeRequest t).1] ∧ c' = c ∧ t' = t₁ ∧
            ∀ r, result = .ok r → answer = .ok r.response ∧ r.context = none ∧ r.negotiation = none)) := by
  have hmade : (Program.onSnd id (makeRequest S.logged) : Program ((TokioClient × ω) × _) (NegotiateHttpError ε)
      (Request HeaderValue Content Pac)).exec (c, (t, [])) =
      (.ok (S.makeRequest t).1, (c, ((S.makeRequest t).2, []))) := rfl
  rw [sendWithNegotiateOptions, Program.exec_bind_ok hmade, Program.exec_bind]
  simp only [Program.onSnd, Program.exec_ofExec, sendRequest, Sender.logged, List.nil_append]
  rcases hanswer : S.sendRequest (S.makeRequest t).1 (S.makeRequest t).2 with ⟨source | response, t₁⟩
  · refine ⟨.error (.sender source), c, t₁, _, rfl, by simp [Panics], _, t₁, rfl, .inr ⟨?_, rfl, rfl, rfl, ?_⟩⟩
    · intro response h
      cases h
    · intro r h
      cases h
  · dsimp only [Except.mapError, id]
    rw [Program.exec_bind, Program.exec_liftExcept]
    have hsame : ∀ answered, (Except.ok response : Except ε _) = .ok answered → answered = response :=
      fun _ h ↦ (Except.ok.inj h).symm
    rcases readHeaders_cases (ε := ε) (H := H) response with ⟨hread, hasks⟩ | ⟨hasks, hread | ⟨error, hread⟩⟩
    · rw [hread]
      obtain ⟨result, c', t', sent, hexec, hretried⟩ :=
        retried (W := W) (P := P) (R := R) (B := B) (H := H) S service options c t₁ [(S.makeRequest t).1]
      exact ⟨result, c', t', _, hexec, hretried.not_panics hc.coherent, _, t₁, rfl,
        .inl ⟨response, sent, rfl, hasks, rfl, hretried⟩⟩
    · rw [hread]
      refine ⟨_, c, t₁, _, rfl, fun h ↦ ?_, _, t₁, rfl,
        .inr ⟨fun answered h ↦ hsame answered h ▸ hasks, rfl, rfl, rfl, ?_⟩⟩
      · rcases h with h | ⟨message, h⟩
        · cases h
        · cases h
      · intro r hr
        obtain rfl := Except.ok.inj hr
        exact ⟨rfl, rfl, rfl⟩
    · rw [hread]
      refine ⟨.error (.http error), c, t₁, _, rfl, by simp [Panics], _, t₁, rfl,
        .inr ⟨fun answered h ↦ hsame answered h ▸ hasks, rfl, rfl, rfl, ?_⟩⟩
      intro r h
      cases h

end Asked

section Sample

def webWorld : World Unit where
  now w := (webNow, w)
  fill len w := (flaggedFill len, w)
  sendToRealm _ _ w := (.error "offline", w)
  sendToKpasswdRealm _ _ w := (.error "offline", w)

def webPrincipal : Principal := ⟨"A", 2, ["web"]⟩

/-- A client that has the ticket of `alice@A` for the service in its cache. -/
def ticketHolder : TokioClient :=
  (TokioClient.new TokioClient.bareConfig aliceSession.client none).cacheServiceTicketAt aliceSession webNow

theorem ticketHolder_reachable : TokioClient.Reachable webWorld flaggedPrimitives flaggedRasn ticketHolder :=
  ⟨_, .new _ _ _, .single ⟨.cacheServiceTicket aliceSession, (), rfl⟩⟩

theorem ticketHolder_getServiceTicket :
    (TokioClient.getServiceTicket webWorld flaggedPrimitives flaggedRasn webPrincipal).exec (ticketHolder, ()) =
      (.ok aliceSession, (ticketHolder, ())) := by
  have hservice : ticketHolder.resolveServicePrincipal webPrincipal = webPrincipal := by
    simp [TokioClient.resolveServicePrincipal, webPrincipal]
  have hstored : ticketHolder.serviceTickets[serviceCacheKey webPrincipal]? = some aliceSession :=
    Std.ExtTreeMap.getElem?_insert_self
  have hvalid : sessionValidAt aliceSession webNow = true := by decide
  exact TokioClient.getServiceTicket_of_cached webWorld flaggedPrimitives flaggedRasn hservice hstored hvalid

theorem exists_webContext : ∃ context,
    (spnegoContextWithOptions webWorld flaggedPrimitives flaggedRasn standardBase64 webPrincipal flaggedOptions).exec
        (ticketHolder, ()) = (.ok context, (ticketHolder, ())) ∧
      headerApReq standardBase64 context.header = .ok flaggedApReqDer ∧ context.header.length < 2 ^ 63 := by
  obtain ⟨context, hcontext, -, hapReq, hlength⟩ := exists_flaggedContext
  have htime : (currentTime webWorld).exec () = (.ok (webNow, 0), ()) := rfl
  have hoptions : (filledOptions webWorld flaggedOptions).exec () = (.ok flaggedOptions, ()) := rfl
  have hconfounder : (Program.mapStop clientErrorToSpnego (confounderFor webWorld aliceSession.sessionKey)).exec () =
      (.ok exchangeConfounder, ()) := rfl
  refine ⟨context, ?_, hapReq, hlength⟩
  rw [spnegoContextWithOptions, Program.exec_bind_ok (Program.exec_mapStop_eq_ok.mpr ticketHolder_getServiceTicket)]
  refine Program.exec_onSnd_eq_ok.mpr ⟨?_, rfl⟩
  rw [initSecContext, Program.exec_bind_ok htime]
  dsimp only
  rw [Program.exec_bind_ok hoptions, Program.exec_bind_ok hconfounder, hcontext]
  rfl

/-- A server that asks for a token whatever it is sent. -/
def askingSender : Sender String Unit Unit Unit Unit Unit where
  makeRequest _ := (⟨[], none, ()⟩, ())
  sendRequest _ _ := (.ok (challengeResponse asciiValues ()), ())

/-- The token of `alice@A` goes out behind the challenge. -/
theorem sends_token_only_when_asked_flagged : ∃ result c' sent token,
    (sendWithNegotiateOptions webWorld flaggedPrimitives flaggedRasn standardBase64 asciiValues askingSender.logged
      webPrincipal flaggedOptions).exec ((ticketHolder, ()), ((), [])) = (result, (c', ((), sent))) ∧
      ¬ Panics result ∧ sent = [⟨[], none, ()⟩, ⟨[token], none, ()⟩] := by
  obtain ⟨context, hcontext, -⟩ := exists_webContext
  obtain ⟨result, c', t', sent, hexec, hpanics, answer, t₁, hanswer, hsent⟩ :=
    sends_token_only_when_asked webWorld flaggedPrimitives flaggedRasn standardBase64 asciiValues askingSender
      webPrincipal flaggedOptions (ticketHolder, ()) ticketHolder_reachable ()
  obtain ⟨rfl, -⟩ := Prod.mk.inj hanswer
  have hasks : (challengeResponse asciiValues ()).Asks asciiValues :=
    ⟨rfl, _, firstChallenge_challengeResponse asciiValues_lawful ()⟩
  rcases hsent with ⟨response, retry, -, -, hsent, hretried⟩ | ⟨hnot, -⟩
  · refine ⟨result, c', sent, context.header, hexec, hpanics, hsent.trans (congrArg _ ?_)⟩
    cases hretried with
    | unready h => cases hcontext.symm.trans h
    | unsendable h hvalue => cases hvalue
    | failed h hvalue hanswer => cases hanswer
    | @answered context' _ value _ _ _ h hvalue hanswer hnegotiation =>
      obtain rfl : context = context' := Except.ok.inj (congrArg Prod.fst (hcontext.symm.trans h))
      obtain rfl : context.header = value := Except.ok.inj hvalue
      rfl
  · exact absurd hasks (hnot _ rfl)

end Sample

end Rskrb5.Http
