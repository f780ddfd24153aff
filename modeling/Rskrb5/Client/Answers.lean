import Rskrb5.Client.Referrals

namespace Rskrb5.Client

open Lib.Results Lib.Programs Crypto

theorem principalMatches_self (principal : Principal) : principalMatches principal principal = true :=
  principalMatches_iff.mpr ⟨rfl, rfl⟩

theorem principalMatches_symm {left right : Principal} (h : principalMatches left right = true) :
    principalMatches right left = true := by
  obtain ⟨hr, hc⟩ := principalMatches_iff.mp h
  exact principalMatches_iff.mpr ⟨hr.symm, hc.symm⟩

theorem principalMatches_trans {left right principal : Principal} (h : principalMatches left right = true)
    (h' : principalMatches right principal = true) : principalMatches left principal = true := by
  obtain ⟨hrealm, hcomponents⟩ := principalMatches_iff.mp h
  obtain ⟨hrealm', hcomponents'⟩ := principalMatches_iff.mp h'
  exact principalMatches_iff.mpr ⟨hrealm.trans hrealm', hcomponents.trans hcomponents'⟩

/-- A session with a ticket that was issued to the principal. -/
def IssuedTo (p : Principal) (session : AsRepSession) : Prop := principalMatches session.client p = true

variable {ω : Type} (W : World ω) (P : Primitives) (R : Rasn)

section World

namespace World

/-- One thing that is asked of a world. -/
inductive Asked (w : ω) : ω → Prop
  | now : Asked w (W.now w).2
  | fill (len : ℕ) : Asked w (W.fill len w).2
  | sendToRealm (realm : String) (request : Bytes) : Asked w (W.sendToRealm realm request w).2

abbrev Later : ω → ω → Prop := Relation.ReflTransGen W.Asked

/-- By now a KDC has given an answer. -/
def Answered (w : ω) (exchange : Exchange) : Prop :=
  ∃ w₀, (W.sendToRealm exchange.realm exchange.request w₀).1 = exchange.response ∧
    W.Later (W.sendToRealm exchange.realm exchange.request w₀).2 w

variable {W}

theorem Answered.mono {w w' : ω} {exchange : Exchange} (h : W.Answered w exchange) (hlater : W.Later w w') :
    W.Answered w' exchange := by
  obtain ⟨w₀, hresponse, hw⟩ := h
  exact ⟨w₀, hresponse, hw.trans hlater⟩

theorem Later.log {s s' : ω × List Exchange} (h : W.logged.Later s s') : s.2 <+: s'.2 := by
  induction h with
  | refl => exact List.prefix_rfl
  | tail _ hasked ih =>
    refine ih.trans ?_
    cases hasked with
    | now => exact List.prefix_rfl
    | fill len => exact List.prefix_rfl
    | sendToRealm realm request => exact List.prefix_append _ _

theorem Answered.mem_log {s : ω × List Exchange} {exchange : Exchange} (h : W.logged.Answered s exchange) :
    exchange ∈ s.2 := by
  obtain ⟨w₀, hresponse, hlater⟩ := h
  obtain ⟨realm, request, response⟩ := exchange
  obtain rfl : (W.sendToRealm realm request w₀.1).1 = response := hresponse
  exact hlater.log.subset (List.mem_append_right _ List.mem_cons_self)

end World

end World

/-- A TGT of a realm that an exchange with its KDC gave: in a login, or in the renewal of a TGT. -/
inductive Issued (realm : String) (exchange : Exchange) (session : AsRepSession) : Prop
  | login (request : BuiltAsReq) (response : Bytes) (key : EncryptionKey)
    (exchange_eq : exchange = ⟨realm, request.der, .ok response⟩)
    (service_eq : request.service = tgtService realm)
    (session_eq : processAsRep P R request response key = .ok session)
  | renewal (tgt : AsRepSession) (options : TgsReqOptions) (timestamp : SystemTime) (cusec : UInt32)
    (confounder : Bytes) (request : BuiltTgsReq) (response : Bytes)
    (exchange_eq : exchange = ⟨realm, request.der, .ok response⟩)
    (service_eq : request.service = tgtService realm)
    (request_eq : buildTgtRenewalReqWithConfounder P R tgt options timestamp cusec confounder = .ok request)
    (session_eq : processTgsRep P R request response tgt.sessionKey = .ok session)

theorem Issued.matches {realm : String} {exchange : Exchange} {session : AsRepSession}
    (h : Issued P R realm exchange session) : principalMatches session.service (tgtService realm) = true := by
  cases h with
  | login request response key _ hservice hsession => exact hservice ▸ (processAsRep_eq_ok P R hsession).2
  | renewal _ _ _ _ _ request response _ hservice _ hsession =>
    exact hservice ▸ (processTgsRep_eq_ok P R hsession).2

def IssuedIn (realm : String) (log : List Exchange) (session : AsRepSession) : Prop :=
  ∃ exchange ∈ log, Issued P R realm exchange session

/-- A ticket that the client can read out of an exchange as the answer to its request. -/
def Exchange.Answers (exchange : Exchange) (ticket : TgsRepSession) : Prop :=
  ∃ request response key, exchange.request = request.der ∧ exchange.response = .ok response ∧
    processTgsRepWithReferral P R request response key = .ok ticket

section Provenance

/-- The KDC of a realm has by now issued a TGT. -/
def IssuedBy (realm : String) (w : ω) (session : AsRepSession) : Prop :=
  ∃ exchange, W.Answered w exchange ∧ Issued P R realm exchange session

/-- A KDC has by now given a ticket. -/
def GivenBy (w : ω) (ticket : TgsRepSession) : Prop :=
  ∃ exchange, W.Answered w exchange ∧ exchange.Answers P R ticket

/-- The KDC of a realm other than its own has by now answered with a TGT. -/
def ReferredBy (w : ω) (tgt : AsRepSession) : Prop :=
  ∃ exchange, W.Answered w exchange ∧ exchange.Answers P R tgt ∧
    ∃ realm, tgtRealm tgt = some realm ∧ realm ≠ exchange.realm

variable {W P R} {realm : String} {w w' : ω} {session : AsRepSession}

theorem IssuedBy.mono (h : IssuedBy W P R realm w session) (hlater : W.Later w w') :
    IssuedBy W P R realm w' session := by
  obtain ⟨exchange, hanswered, hissued⟩ := h
  exact ⟨exchange, hanswered.mono hlater, hissued⟩

theorem IssuedBy.tgtRealm_eq (h : IssuedBy W P R realm w session) : tgtRealm session = some realm := by
  obtain ⟨exchange, -, hissued⟩ := h
  exact tgtRealm_of_matches hissued.matches

theorem IssuedIn.mono {log log' : List Exchange} (h : IssuedIn P R realm log session) (hlog : log <+: log') :
    IssuedIn P R realm log' session := by
  obtain ⟨exchange, hmem, hissued⟩ := h
  exact ⟨exchange, hlog.subset hmem, hissued⟩

theorem IssuedBy.issuedIn {s : ω × List Exchange} (h : IssuedBy W.logged P R realm s session) :
    IssuedIn P R realm s.2 session := by
  obtain ⟨exchange, hanswered, hissued⟩ := h
  exact ⟨exchange, hanswered.mem_log, hissued⟩

theorem GivenBy.mono (h : GivenBy W P R w session) (hlater : W.Later w w') : GivenBy W P R w' session := by
  obtain ⟨exchange, hanswered, hanswers⟩ := h
  exact ⟨exchange, hanswered.mono hlater, hanswers⟩

theorem ReferredBy.mono (h : ReferredBy W P R w session) (hlater : W.Later w w') : ReferredBy W P R w' session := by
  obtain ⟨exchange, hanswered, hreferred⟩ := h
  exact ⟨exchange, hanswered.mono hlater, hreferred⟩

end Provenance

section Programs

variable {α β : Type} {W P R}

/-- A program that only asks its world, and what is known of its result by then. -/
abbrev Asks (W : World ω) (x : Program ω Error α) (post : α → ω → Prop) : Prop :=
  Goes W.Later (fun _ ↦ True) x post fun _ ↦ True

namespace Asks

variable {x : Program ω Error α} {f : α → Program ω Error β} {mid : α → ω → Prop} {post : β → ω → Prop}

theorem lift {y : Except Error β} (h : ∀ b, y = .ok b → ∀ w, post b w) : Asks W (liftM y) post :=
  Goes.lift (fun b hb w _ ↦ h b hb w) fun _ _ ↦ trivial

theorem pure {b : β} (h : ∀ w, post b w) : Asks W (pure b) post := Goes.pure fun w _ ↦ h w

/-- What is known of a result without the world is still known later. -/
theorem bind {mid : α → Prop} (hx : Asks W x fun a _ ↦ mid a) (hf : ∀ a, mid a → Asks W (f a) post) :
    Asks W (x >>= f) post :=
  Goes.bind hx fun a w ha ↦ hf a ha w trivial

theorem seq (hx : Asks W x fun _ _ ↦ True) (hf : ∀ a, Asks W (f a) post) : Asks W (x >>= f) post :=
  hx.bind fun a _ ↦ hf a

end Asks

theorem asks_now : Asks W (now W) fun _ _ ↦ True := fun _ _ ↦ ⟨.single .now, trivial⟩

theorem asks_fill (len : ℕ) : Asks W (fill W len) fun _ _ ↦ True := by
  intro w _
  simp only [fill, Program.exec_ofExec]
  refine ⟨.single (.fill len), ?_⟩
  rcases (W.fill len w).1 with e | bytes <;> trivial

theorem asks_currentPreauthTime : Asks W (currentPreauthTime W) fun _ _ ↦ True :=
  asks_now.seq fun _ ↦ .seq (.lift fun _ _ _ ↦ trivial) fun _ ↦ .pure fun _ ↦ trivial

theorem asks_randomNonce : Asks W (randomNonce W) fun _ _ ↦ True := (asks_fill 4).seq fun _ ↦ .pure fun _ ↦ trivial

theorem asks_confounderFor (key : EncryptionKey) : Asks W (confounderFor W key) fun _ _ ↦ True :=
  .seq (.lift fun _ _ _ ↦ trivial) fun etype ↦ asks_fill etype.confounderLen

theorem asks_sendToRealm (realm : String) (request : Bytes) :
    Asks W (sendToRealm W realm request) fun response w ↦ W.Answered w ⟨realm, request, .ok response⟩ := by
  intro w _
  simp only [sendToRealm, Program.exec_ofExec]
  refine ⟨.single (.sendToRealm realm request), ?_⟩
  cases hanswer : (W.sendToRealm realm request w).1 with
  | error e => trivial
  | ok response => exact ⟨w, hanswer, .refl⟩

/-- A request, and what is read out of the answer to it. -/
theorem asks_exchange (realm : String) (request : Bytes) (f : Bytes → Except Error α) :
    Asks W (sendToRealm W realm request >>= fun response ↦ liftM (f response)) fun a w ↦
      ∃ response, W.Answered w ⟨realm, request, .ok response⟩ ∧ f response = .ok a :=
  Goes.bind (asks_sendToRealm realm request) fun response ↦
    .lift (fun _ ha _ hw ↦ ⟨response, hw, ha⟩) fun _ _ ↦ trivial

section Login

theorem asks_buildPreauthenticatedAsReq (client service : Principal) (options : AsReqOptions)
    (key : EncryptionKey) (kvno : Option UInt32) :
    Asks W (buildPreauthenticatedAsReq W P R client service options key kvno)
      fun request _ ↦ request.client = client ∧ request.service = service := by
  refine asks_currentPreauthTime.seq fun time ↦ (asks_confounderFor key).seq fun confounder ↦ ?_
  refine .lift fun request h _ ↦ ?_
  obtain ⟨hclient, hservice, -⟩ := buildPreauthenticatedAsReq_eq_ok P R h
  exact ⟨hclient, hservice⟩

theorem asks_initialAsReq (client service : Principal) (options : AsReqOptions)
    (assumedKey : AsReqOptions → Except Error (EncryptionKey × Option UInt32)) :
    Asks W (initialAsReq W P R client service options assumedKey)
      fun request _ ↦ request.client = client ∧ request.service = service := by
  simp only [initialAsReq]
  split
  · exact .seq (.lift fun _ _ _ ↦ trivial) fun key ↦ asks_buildPreauthenticatedAsReq client service _ _ _
  · refine .lift fun request h _ ↦ ?_
    obtain ⟨hclient, hservice, -⟩ := buildAsReq_eq_ok R h
    exact ⟨hclient, hservice⟩

theorem asks_preauthRequest (client service : Principal) (options : AsReqOptions) (bytes : Bytes)
    (hintedKey : PreauthKeyInfo → Except Error (EncryptionKey × Option UInt32)) :
    Asks W (preauthRequest W P R client service options bytes hintedKey)
      fun request _ ↦ request.1.client = client ∧ request.1.service = service := by
  refine .seq (.lift fun _ _ _ ↦ trivial) fun keyInfo ↦ .seq (.lift fun _ _ _ ↦ trivial) fun key ↦ ?_
  exact (asks_buildPreauthenticatedAsReq client service _ _ _).bind fun request h ↦ .pure fun _ ↦ h

/-- What a login is made of: requests of its client for its service, and replies that are read as
AS-REPs. -/
structure LoginParts (W : World ω) (P : Primitives) (R : Rasn) (client service : Principal)
    (initialRequest : Program ω Error BuiltAsReq)
    (initialSession : BuiltAsReq → Bytes → Except Error (Option AsRepSession))
    (preauthRequest : Bytes → Program ω Error (BuiltAsReq × EncryptionKey)) : Prop where
  initial : Asks W initialRequest fun request _ ↦ request.client = client ∧ request.service = service
  session : ∀ request bytes session, initialSession request bytes = .ok (some session) →
    ∃ key, processAsRep P R request bytes key = .ok session
  preauth : ∀ bytes, Asks W (preauthRequest bytes)
    fun request _ ↦ request.1.client = client ∧ request.1.service = service

theorem eq_ok_of_map_some {α : Type} {x : Except Error α} {a : α} (h : x.map some = .ok (some a)) :
    x = .ok a := by
  cases x with
  | error e => cases h
  | ok b => exact congrArg Except.ok (Option.some.inj (Except.ok.inj h))

theorem passwordInitialAsRepSession_eq_ok {request : BuiltAsReq} {response password : Bytes}
    {client : Principal} {session : AsRepSession}
    (h : passwordInitialAsRepSession P R request response client password = .ok (some session)) :
    ∃ key, processAsRep P R request response key = .ok session := by
  simp only [passwordInitialAsRepSession] at h
  split at h
  · simp at h
  · obtain ⟨key, -, h⟩ := bind_eq_ok.mp h
    exact ⟨key, eq_ok_of_map_some h⟩

theorem keytabInitialAsRepSession_eq_ok {request : BuiltAsReq} {response : Bytes} {keytab : Keytab}
    {client : Principal} {session : AsRepSession}
    (h : keytabInitialAsRepSession P R request response client keytab = .ok (some session)) :
    ∃ key, processAsRep P R request response key = .ok session := by
  simp only [keytabInitialAsRepSession] at h
  split at h
  · simp at h
  · obtain ⟨key, -, h⟩ := bind_eq_ok.mp h
    exact ⟨key.1, eq_ok_of_map_some h⟩

theorem loginParts_password (client service : Principal) (password : Bytes) (options : AsReqOptions) :
    LoginParts W P R client service (passwordInitialAsReq W P R client service password options)
      (fun request response ↦ passwordInitialAsRepSession P R request response client password)
      (passwordPreauthRequest W P R client service password options) where
  initial := asks_initialAsReq client service _ _
  session _ _ _ h := passwordInitialAsRepSession_eq_ok h
  preauth _ := asks_preauthRequest client service _ _ _

theorem loginParts_keytab (client service : Principal) (keytab : Keytab) (options : AsReqOptions) :
    LoginParts W P R client service (keytabInitialAsReq W P R client service keytab options)
      (fun request response ↦ keytabInitialAsRepSession P R request response client keytab)
      (keytabPreauthRequest W P R client service keytab options) where
  initial := asks_initialAsReq client service _ _
  session _ _ _ h := keytabInitialAsRepSession_eq_ok h
  preauth _ := asks_preauthRequest client service _ _ _

/-- A login gives a TGT of its own client, which the KDC of its realm has issued. -/
theorem asks_loginWith {client : Principal} {initialRequest : Program ω Error BuiltAsReq}
    {initialSession : BuiltAsReq → Bytes → Except Error (Option AsRepSession)}
    {preauthRequest : Bytes → Program ω Error (BuiltAsReq × EncryptionKey)}
    (h : LoginParts W P R client (tgtService client.realm) initialRequest initialSession preauthRequest) :
    Asks W (loginWith W P R client initialRequest initialSession preauthRequest) fun session w ↦
      IssuedTo client session ∧ IssuedBy W P R client.realm w session := by
  refine h.initial.bind fun initial hinitial ↦ Goes.bind (asks_sendToRealm client.realm initial.der) fun response ↦ ?_
  refine .bind (.lift
    (fun session hsession w hw ↦ (⟨hw, hsession⟩ : _ ∧ initialSession initial response = .ok session))
    fun _ _ ↦ trivial) fun session ↦ ?_
  cases session with
  | some session =>
    refine .pure fun w hw ↦ ?_
    obtain ⟨key, hkey⟩ := h.session initial response session hw.2
    exact ⟨hinitial.1 ▸ (processAsRep_eq_ok P R hkey).1, _, hw.1, .login initial response key rfl hinitial.2 hkey⟩
  | none =>
    suffices hpreauth : Asks W _ _ from hpreauth.weaken (fun _ _ ↦ trivial) fun _ _ h ↦ h
    refine (h.preauth response).bind fun request hrequest ↦ ?_
    refine (asks_exchange request.1.client.realm request.1.der _).weaken (fun _ h ↦ h) fun session w hw ↦ ?_
    obtain ⟨response', hanswered, hsession⟩ := hw
    rw [hrequest.1] at hanswered
    exact ⟨hrequest.1 ▸ (processAsRep_eq_ok P R hsession).1, _, hanswered,
      .login request.1 response' request.2 rfl hrequest.2 hsession⟩

end Login

section Tickets

theorem asks_buildTgsReqForRealm (tgt : AsRepSession) (kdcRealm : String) (service : Principal)
    (options : TgsReqOptions) : Asks W (buildTgsReqForRealm W P R tgt kdcRealm service options) fun request _ ↦
      ∃ timestamp cusec confounder, buildTgsReqForRealmWithConfounder P R tgt kdcRealm service options timestamp cusec
        confounder = .ok request :=
  asks_currentPreauthTime.seq fun time ↦ (asks_confounderFor tgt.sessionKey).seq fun confounder ↦
    .lift fun _ h _ ↦ ⟨time.1, time.2, confounder, h⟩

theorem asks_exchangeTgsReqWithConfig (request : BuiltTgsReq) (key : EncryptionKey) :
    Asks W (exchangeTgsReqWithConfig W P R request key) fun session w ↦
      ∃ response, W.Answered w ⟨request.kdcRealm, request.der, .ok response⟩ ∧
        processTgsRep P R request response key = .ok session :=
  asks_exchange request.kdcRealm request.der _

theorem processTgsRepWithReferral_of_ok {request : BuiltTgsReq} {bytes : Bytes} {key : EncryptionKey}
    {ticket : TgsRepSession} (h : processTgsRep P R request bytes key = .ok ticket) :
    processTgsRepWithReferral P R request bytes key = .ok ticket := by
  simp only [processTgsRep, processTgsRepWithReferral, processTgsRepInner, bind_eq_ok, ensure_eq_ok] at h ⊢
  obtain ⟨u, hu, tgsRep, htgsRep, client, hclient, u', hu', encPart, hencPart, u'', hu'', service, hservice,
    hrest⟩ := h
  obtain ⟨-, hmatches, hsession⟩ := hrest
  refine ⟨u, hu, tgsRep, htgsRep, client, hclient, u', hu', encPart, hencPart, u'', hu'', service, hservice, ?_⟩
  exact ⟨(), .inl (hmatches.resolve_right (by simp)), hsession⟩

/-- A renewed TGT is for the realm and the client of the TGT that was renewed. -/
theorem asks_renewTgtWithConfig (tgt : AsRepSession) (options : TgsReqOptions) :
    Asks W (renewTgtWithConfig W P R tgt options) fun renewed w ↦
      principalMatches renewed.client tgt.client = true ∧
        ∃ realm, tgtRealm tgt = some realm ∧ IssuedBy W P R realm w renewed := by
  have hbuild : Asks W (buildTgtRenewalReq W P R tgt options) fun request _ ↦ ∃ timestamp cusec confounder,
      buildTgtRenewalReqWithConfounder P R tgt options timestamp cusec confounder = .ok request := by
    refine Asks.bind (.lift fun realm h _ ↦ okOr_eq_ok.mp h) fun realm hrealm ↦ ?_
    refine (asks_buildTgsReqForRealm tgt realm _ _).weaken (fun _ h ↦ h) fun request _ h ↦ ?_
    obtain ⟨timestamp, cusec, confounder, hrequest⟩ := h
    refine ⟨timestamp, cusec, confounder, ?_⟩
    rw [buildTgtRenewalReqWithConfounder, hrealm]
    exact hrequest
  refine hbuild.bind fun request hrequest ↦ ?_
  obtain ⟨timestamp, cusec, confounder, hrequest⟩ := hrequest
  obtain ⟨realm, hrealm, hbuilt⟩ := bind_eq_ok.mp hrequest
  obtain ⟨hclient, hservice, hkdc, -⟩ := buildTgsReqForRealm_eq_ok P R hbuilt
  refine (asks_exchangeTgsReqWithConfig request tgt.sessionKey).weaken (fun _ h ↦ h) fun renewed w hw ↦ ?_
  obtain ⟨response, hanswered, hrenewed⟩ := hw
  rw [hkdc] at hanswered
  refine ⟨hclient ▸ (processTgsRep_eq_ok P R hrenewed).1, realm, okOr_eq_ok.mp hrealm, _, hanswered, ?_⟩
  exact .renewal tgt options timestamp cusec confounder request response rfl hservice hrequest hrenewed

/-- A renewed ticket is for the service and the client of the ticket that was renewed. -/
theorem asks_renewTicketWithConfig (ticket : AsRepSession) (options : TgsReqOptions) :
    Asks W (renewTicketWithConfig W P R ticket options) fun renewed w ↦
      principalMatches renewed.client ticket.client = true ∧
        principalMatches renewed.service ticket.service = true ∧ GivenBy W P R w renewed := by
  refine (asks_buildTgsReqForRealm ticket _ _ _).bind fun request hrequest ↦ ?_
  obtain ⟨timestamp, cusec, confounder, hbuilt⟩ := hrequest
  obtain ⟨hclient, hservice, -⟩ := buildTgsReqForRealm_eq_ok P R hbuilt
  refine (asks_exchangeTgsReqWithConfig request ticket.sessionKey).weaken (fun _ h ↦ h) fun renewed w hw ↦ ?_
  obtain ⟨response, hanswered, hrenewed⟩ := hw
  obtain ⟨hclient', hservice'⟩ := processTgsRep_eq_ok P R hrenewed
  exact ⟨hclient ▸ hclient', hservice ▸ hservice', _, hanswered, request, response, ticket.sessionKey, rfl, rfl,
    processTgsRepWithReferral_of_ok hrenewed⟩

/-- What a turn of the referral loop has got with a TGT. -/
structure Led (W : World ω) (P : Primitives) (R : Rasn) (client service : Principal)
    (step : TgsRepSession × Option String)
    (w : ω) : Prop where
  client_eq : principalMatches step.1.client client = true
  given : GivenBy W P R w step.1
  service_eq : step.2 = none → principalMatches step.1.service service = true
  referred : step.2.isSome → ReferredBy W P R w step.1

theorem asks_followReferral (service : Principal) (options : TgsReqOptions) (tgt : AsRepSession) (realm : String) :
    Asks W (followReferral W P R service options tgt realm) (Led W P R tgt.client service) := by
  refine (asks_buildTgsReqForRealm tgt realm _ options).bind fun request hrequest ↦ ?_
  obtain ⟨timestamp, cusec, confounder, hbuilt⟩ := hrequest
  obtain ⟨hclient, -, hkdc, -⟩ := buildTgsReqForRealm_eq_ok P R hbuilt
  refine Goes.bind (asks_sendToRealm request.kdcRealm request.der) fun response ↦ ?_
  cases hticket : processTgsRepWithReferral P R request response tgt.sessionKey with
  | error e => exact fun w _ ↦ ⟨.refl, trivial⟩
  | ok ticket =>
    have hanswers (e : Exchange) (he : e = ⟨request.kdcRealm, request.der, .ok response⟩) : e.Answers P R ticket :=
      ⟨request, response, tgt.sessionKey, by rw [he], by rw [he], hticket⟩
    have hmatches := hclient ▸ (processTgsRepInner_eq_ok P R hticket).1
    change Goes _ _ (if principalMatches ticket.service service then _ else _) _ _
    split
    · next hservice =>
      exact .pure fun w hw ↦ ⟨hmatches, ⟨_, hw, hanswers _ rfl⟩, fun _ ↦ hservice, fun h ↦ absurd h (by simp)⟩
    · refine .bind (.lift (fun referred hreferred w hw ↦ (⟨hw, okOr_eq_ok.mp hreferred⟩ :
        W.Answered w ⟨request.kdcRealm, request.der, .ok response⟩ ∧ tgtRealm ticket = some referred))
        fun _ _ ↦ trivial) fun referred ↦ ?_
      refine .bind (.lift (fun _ hne w hw ↦ (⟨hw, ensure_eq_ok.mp hne⟩ : _ ∧ referred ≠ realm)) fun _ _ ↦ trivial)
        fun _ ↦ .pure fun w hw ↦ ?_
      obtain ⟨⟨hanswered, hreferred⟩, hne⟩ := hw
      refine ⟨hmatches, ⟨_, hanswered, hanswers _ rfl⟩, fun h ↦ absurd h (by simp), fun _ ↦ ?_⟩
      exact ⟨_, hanswered, hanswers _ rfl, referred, hreferred, hkdc.symm ▸ hne⟩

/-- What a request for a ticket has got by way of referrals: the ticket, and the TGTs that led to it. -/
structure Traced (W : World ω) (P : Primitives) (R : Rasn) (client service : Principal) (result : ReferralTgsResult)
    (w : ω) : Prop where
  client_eq : principalMatches result.ticket.client client = true
  given : GivenBy W P R w result.ticket
  service_eq : principalMatches result.ticket.service service = true
  referralTgts : ∀ tgt ∈ result.referralTgts, principalMatches tgt.client client = true ∧ ReferredBy W P R w tgt

theorem asks_followReferrals (service : Principal) (options : TgsReqOptions) (maxReferrals remaining : ℕ)
    {client : Principal} {tgt : AsRepSession} (htgt : principalMatches tgt.client client = true) (realm : String)
    (referralTgts : List AsRepSession) :
    Goes W.Later
      (fun w ↦ ∀ tgt ∈ referralTgts, principalMatches tgt.client client = true ∧ ReferredBy W P R w tgt)
      (followReferrals W P R service options maxReferrals remaining tgt realm referralTgts)
      (Traced W P R client service) fun _ ↦ True := by
  have hturn (tgt : AsRepSession) (realm : String) (referralTgts : List AsRepSession) :=
    ((asks_followReferral (P := P) (R := R) service options tgt realm).frame
      (fun w ↦ ∀ tgt ∈ referralTgts, principalMatches tgt.client client = true ∧ ReferredBy W P R w tgt)
      fun _ _ hinv hlater tgt hmem ↦ (hinv tgt hmem).imp_right fun h ↦ h.mono hlater).weaken
        (fun _ h ↦ ⟨trivial, h⟩) fun _ _ h ↦ h
  induction remaining generalizing tgt realm referralTgts with
  | zero =>
    refine .bind (hturn tgt realm referralTgts) fun step ↦ ?_
    obtain ⟨ticket, referred⟩ := step
    cases referred with
    | none =>
      refine .pure fun w hw ↦ ?_
      exact ⟨principalMatches_trans hw.1.client_eq htgt, hw.1.given, hw.1.service_eq rfl, hw.2⟩
    | some referred => exact .throw trivial
  | succ remaining ih =>
    refine .bind (hturn tgt realm referralTgts) fun step ↦ ?_
    obtain ⟨ticket, referred⟩ := step
    cases referred with
    | none =>
      refine .pure fun w hw ↦ ?_
      exact ⟨principalMatches_trans hw.1.client_eq htgt, hw.1.given, hw.1.service_eq rfl, hw.2⟩
    | some referred =>
      intro w hw
      have hclient := principalMatches_trans hw.1.client_eq htgt
      refine ih hclient referred (referralTgts ++ [ticket]) w fun tgt' hmem ↦ ?_
      rcases List.mem_append.mp hmem with hold | hnew
      · exact hw.2 tgt' hold
      · exact List.mem_singleton.mp hnew ▸ ⟨hclient, hw.1.referred rfl⟩

theorem asks_getServiceTicketWithReferralTrace (config : Config) (tgt : AsRepSession) (service : Principal)
    (options : TgsReqOptions) : Asks W (getServiceTicketWithReferralTrace W P R config tgt service options)
      (Traced W P R tgt.client (targetService config tgt service)) := by
  refine Asks.bind (.lift fun realm h _ ↦ okOr_eq_ok.mp h) fun realm hrealm ↦ ?_
  rw [targetService_eq hrealm]
  exact (asks_followReferrals _ options _ _ (principalMatches_self tgt.client) realm []).weaken
    (fun _ _ ↦ by simp) fun _ _ h ↦ h

end Tickets

end Programs

end Rskrb5.Client
