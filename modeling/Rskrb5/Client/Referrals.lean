import Rskrb5.Client.Transport

namespace Rskrb5.Client

open Lib.Results Lib.Programs Crypto

/-- A request that was sent to a realm's KDC, and what came back. -/
structure Exchange where
  realm : String
  request : Bytes
  response : Except String Bytes
  deriving DecidableEq

variable {ω : Type} (W : World ω) (P : Primitives) (R : Rasn)

/-- The same world, which also writes down the requests to the KDCs and their answers. -/
def World.logged : World (ω × List Exchange) where
  now s := ((W.now s.1).1, (W.now s.1).2, s.2)
  fill len s := ((W.fill len s.1).1, (W.fill len s.1).2, s.2)
  sendToRealm realm request s :=
    let answer := W.sendToRealm realm request s.1
    (answer.1, answer.2, s.2 ++ [⟨realm, request, answer.1⟩])
  sendToKpasswdRealm realm request s :=
    let answer := W.sendToKpasswdRealm realm request s.1
    (answer.1, answer.2, s.2)

section Logged

theorem leaves_now : Leaves Prod.snd (now W.logged) := fun _ ↦ rfl

theorem leaves_fill (len : ℕ) : Leaves Prod.snd (fill W.logged len) := fun _ ↦ rfl

theorem leaves_currentPreauthTime : Leaves Prod.snd (currentPreauthTime W.logged) :=
  (leaves_now W).bind fun _ ↦ (Leaves.lift _).bind fun _ ↦ .pure _

theorem leaves_confounderFor (key : EncryptionKey) : Leaves Prod.snd (confounderFor W.logged key) :=
  (Leaves.lift _).bind fun _ ↦ leaves_fill W _

theorem leaves_buildTgsReqForRealm (tgt : AsRepSession) (kdcRealm : String) (service : Principal)
    (options : TgsReqOptions) :
    Leaves Prod.snd (buildTgsReqForRealm W.logged P R tgt kdcRealm service options) :=
  (leaves_currentPreauthTime W).bind fun _ ↦ (leaves_confounderFor W _).bind fun _ ↦ .lift _

theorem triple_sendToRealm (realm : String) (request : Bytes) (log : List Exchange) :
    Triple (fun s ↦ s.2 = log) (sendToRealm W.logged realm request)
      (fun response s ↦ s.2 = log ++ [⟨realm, request, .ok response⟩])
      fun e s ↦ ∃ message, e = .transport message ∧ s.2 = log ++ [⟨realm, request, .error message⟩] := by
  intro s hs
  simp only [sendToRealm, Program.exec_ofExec, World.logged]
  cases W.sendToRealm realm request s.1 with
  | mk answer w =>
    cases answer with
    | error message => exact ⟨message, rfl, by rw [hs]⟩
    | ok response => exact congrArg (· ++ _) hs

theorem mirrors_buildTgsReqForRealm (tgt : AsRepSession) (kdcRealm : String) (service : Principal)
    (options : TgsReqOptions) :
    Mirrors Prod.fst (buildTgsReqForRealm W.logged P R tgt kdcRealm service options)
      (buildTgsReqForRealm W P R tgt kdcRealm service options) := by
  have htime : Mirrors Prod.fst (currentPreauthTime W.logged) (currentPreauthTime W) :=
    .bind (fun _ ↦ rfl) fun _ ↦ .bind (.lift _) fun _ ↦ .pure _
  have hconfounder : Mirrors Prod.fst (confounderFor W.logged tgt.sessionKey) (confounderFor W tgt.sessionKey) :=
    .bind (.lift _) fun _ _ ↦ rfl
  exact htime.bind fun _ ↦ hconfounder.bind fun _ ↦ .lift _

theorem mirrors_followReferral (service : Principal) (options : TgsReqOptions) (tgt : AsRepSession)
    (realm : String) : Mirrors Prod.fst (followReferral W.logged P R service options tgt realm)
      (followReferral W P R service options tgt realm) := by
  refine (mirrors_buildTgsReqForRealm W P R tgt realm _ options).bind fun request ↦ ?_
  refine .bind (fun _ ↦ rfl) fun response ↦ .bind (.lift _) fun ticket ↦ ?_
  split
  · exact .pure _
  · exact .bind (.lift _) fun _ ↦ .bind (.lift _) fun _ ↦ .pure _

theorem mirrors_followReferrals (service : Principal) (options : TgsReqOptions) (maxReferrals remaining : ℕ)
    (tgt : AsRepSession) (realm : String) (referralTgts : List AsRepSession) :
    Mirrors Prod.fst
      (followReferrals W.logged P R service options maxReferrals remaining tgt realm referralTgts)
      (followReferrals W P R service options maxReferrals remaining tgt realm referralTgts) := by
  induction remaining generalizing tgt realm referralTgts with
  | zero =>
    refine (mirrors_followReferral W P R service options tgt realm).bind fun step ↦ ?_
    obtain ⟨ticket, referred⟩ := step
    cases referred with
    | none => exact .pure _
    | some referred => exact .throw _
  | succ remaining ih =>
    refine (mirrors_followReferral W P R service options tgt realm).bind fun step ↦ ?_
    obtain ⟨ticket, referred⟩ := step
    cases referred with
    | none => exact .pure _
    | some referred => exact ih ticket referred _

theorem mirrors_getServiceTicketWithReferralTraceLimit (config : Config) (tgt : AsRepSession)
    (service : Principal) (options : TgsReqOptions) (maxReferrals : ℕ) :
    Mirrors Prod.fst
      (getServiceTicketWithReferralTraceLimit W.logged P R config tgt service options maxReferrals)
      (getServiceTicketWithReferralTraceLimit W P R config tgt service options maxReferrals) :=
  .bind (.lift _) fun _ ↦ mirrors_followReferrals W P R _ options _ _ _ _ _

end Logged

section Hops

/-- One turn of the referral loop: the TGT it used, the request it built from it, and the answer. -/
structure Hop where
  tgt : AsRepSession
  request : BuiltTgsReq
  response : Except String Bytes

namespace Hop

def exchange (hop : Hop) : Exchange := ⟨hop.request.kdcRealm, hop.request.der, hop.response⟩

/-- The answer is read with the session key of the TGT that the request was built from. -/
def ticket (hop : Hop) : Except Error TgsRepSession := do
  let response ← hop.response.mapError .transport
  processTgsRepWithReferral P R hop.request response hop.tgt.sessionKey

/-- The ticket of a turn is the TGT of the next one, which asks the realm of that TGT, another
than the turn asked. -/
structure Follows (hop next : Hop) : Prop where
  ticket_eq : hop.ticket P R = .ok next.tgt
  realm_eq : tgtRealm next.tgt = some next.request.kdcRealm
  realm_ne : next.request.kdcRealm ≠ hop.request.kdcRealm

end Hop

def requestedService (service : Principal) (currentRealm : String) : Principal :=
  if currentRealm = service.realm then service else ⟨currentRealm, krbNtSrvInst, ["krbtgt", service.realm]⟩

theorem isTgtPrincipal_of_matches {left right : Principal} (h : principalMatches left right = true) :
    isTgtPrincipal left = isTgtPrincipal right := by
  rw [isTgtPrincipal, isTgtPrincipal, (principalMatches_iff.mp h).2]

theorem isTgtPrincipal_krbtgt (realm target : String) (nameType : Int32) :
    isTgtPrincipal ⟨realm, nameType, ["krbtgt", target]⟩ = true := by
  have hkrbtgt : eqIgnoreAsciiCase "krbtgt" "krbtgt" = true := by decide +kernel
  simp [isTgtPrincipal, hkrbtgt]

/-- Only the KDC of the service's own realm has a ticket for a service that is no TGT. -/
theorem realm_eq_of_ticket {service : Principal} {currentRealm : String} {request : BuiltTgsReq}
    {response : Bytes} {key : EncryptionKey} {ticket : TgsRepSession}
    (hservice : request.service = requestedService service currentRealm)
    (h : processTgsRepWithReferral P R request response key = .ok ticket)
    (hmatches : principalMatches ticket.service service = true) (hkrbtgt : isTgtPrincipal service = false) :
    currentRealm = service.realm := by
  have hticket := isTgtPrincipal_of_matches hmatches
  obtain ⟨-, hsame | ⟨-, htgt⟩⟩ := processTgsRepInner_eq_ok P R h
  · by_contra hne
    rw [hservice, requestedService, if_neg hne] at hsame
    rw [isTgtPrincipal_of_matches hsame, hkrbtgt, isTgtPrincipal_krbtgt] at hticket
    cases hticket
  · rw [hticket, hkrbtgt] at htgt
    cases htgt

/-- How a turn ends: with the ticket that was asked for, or with a TGT for another realm. -/
def Decides (service : Principal) (currentRealm : String) (ticket : TgsRepSession) : Option String → Prop
  | none => principalMatches ticket.service service = true ∧
      (isTgtPrincipal service = false → currentRealm = service.realm)
  | some realm => tgtRealm ticket = some realm ∧ realm ≠ currentRealm

/-- The hop of a turn that has sent its request. -/
structure Hop.Of (hop : Hop) (tgt : AsRepSession) (realm : String) (log : List Exchange)
    (s : ω × List Exchange) : Prop where
  log_eq : s.2 = log ++ [hop.exchange]
  tgt_eq : hop.tgt = tgt
  realm_eq : hop.request.kdcRealm = realm

/-- How a turn fails: before it sends anything, or with the error of its answer if that has one. -/
def FailsAfter (tgt : AsRepSession) (realm : String) (log : List Exchange) (e : Error)
    (s : ω × List Exchange) : Prop :=
  s.2 = log ∨ ∃ hop : Hop, hop.Of tgt realm log s ∧ ∀ e', hop.ticket P R = .error e' → e = e'

/-- A turn sends one request, or none when it cannot be built. -/
theorem triple_followReferral (service : Principal) (options : TgsReqOptions) (tgt : AsRepSession)
    (realm : String) (log : List Exchange) :
    Triple (fun s ↦ s.2 = log) (followReferral W.logged P R service options tgt realm)
      (fun result s ↦ ∃ hop : Hop, hop.Of tgt realm log s ∧ hop.ticket P R = .ok result.1 ∧
        Decides service realm result.1 result.2)
      (FailsAfter P R tgt realm log) := by
  have hbuild : Returns (buildTgsReqForRealm W.logged P R tgt realm (requestedService service realm) options)
      fun request ↦ request.service = requestedService service realm ∧ request.kdcRealm = realm := by
    refine .seq fun time ↦ .seq fun confounder ↦ .lift fun request h ↦ ?_
    obtain ⟨-, hservice, hrealm, -⟩ := buildTgsReqForRealm_eq_ok P R h
    exact ⟨hservice, hrealm⟩
  have hrequest := (leaves_buildTgsReqForRealm W P R tgt realm _ options).triple hbuild log
  refine .bind (hrequest.weaken (fun _ h ↦ h) (fun _ _ h ↦ h) fun _ _ h ↦ .inl h) fun request ↦ ?_
  by_cases hr : request.service = requestedService service realm ∧ request.kdcRealm = realm
  swap
  · exact fun s hs ↦ absurd hs.2 hr
  obtain ⟨hservice, hrealm⟩ := hr
  refine .bind ((triple_sendToRealm W request.kdcRealm request.der log).weaken (fun _ h ↦ h.1)
    (fun _ _ h ↦ h) ?_) fun response ↦ ?_
  · intro e s h
    obtain ⟨message, rfl, hlog⟩ := h
    exact .inr ⟨⟨tgt, request, .error message⟩, ⟨hlog, rfl, hrealm⟩, fun e' he ↦ Except.error.inj he⟩
  · have hof : ∀ s : ω × List Exchange, s.2 = log ++ [⟨request.kdcRealm, request.der, .ok response⟩] →
        Hop.Of ⟨tgt, request, .ok response⟩ tgt realm log s := fun s hs ↦ ⟨hs, rfl, hrealm⟩
    cases hticket : processTgsRepWithReferral P R request response tgt.sessionKey with
    | error e =>
      refine fun s hs ↦ .inr ⟨_, hof s hs, fun e' he ↦ ?_⟩
      exact Except.error.inj (hticket.symm.trans he)
    | ok ticket =>
      have hhop : Hop.ticket P R ⟨tgt, request, .ok response⟩ = .ok ticket := hticket
      have hstop : ∀ e (s : ω × List Exchange),
          s.2 = log ++ [⟨request.kdcRealm, request.der, .ok response⟩] → FailsAfter P R tgt realm log e s := by
        refine fun e s hs ↦ .inr ⟨_, hof s hs, fun e' he ↦ ?_⟩
        rw [hhop] at he
        cases he
      -- What is left of the turn reads the ticket and leaves the world alone.
      change Triple _ (if principalMatches ticket.service service then _ else _) _ _
      split
      · next hmatches =>
        refine .pure fun s hs ↦ ⟨_, hof s hs, hhop, hmatches, fun hkrbtgt ↦ ?_⟩
        exact realm_eq_of_ticket P R hservice hticket hmatches hkrbtgt
      · intro s hs
        rw [Program.exec_bind, Program.exec_liftExcept]
        cases hreferred : tgtRealm ticket with
        | none => exact hstop _ s hs
        | some referred =>
          simp only [okOr]
          rw [Program.exec_bind, Program.exec_liftExcept]
          by_cases hne : referred ≠ realm
          · rw [ensure_of hne]
            exact ⟨_, hof s hs, hhop, hreferred, hne⟩
          · rw [ensure_of_not hne]
            exact hstop _ s hs

end Hops

section Chains

/-- The turns of a loop that starts with a TGT for a realm. -/
structure Chain (tgt : AsRepSession) (realm : String) (hops : List Hop) : Prop where
  head : ∀ hop ∈ hops.head?, hop.tgt = tgt ∧ hop.request.kdcRealm = realm
  linked : hops.IsChain (Hop.Follows P R)

theorem Chain.singleton {tgt : AsRepSession} {realm : String} {hop : Hop} (htgt : hop.tgt = tgt)
    (hrealm : hop.request.kdcRealm = realm) : Chain P R tgt realm [hop] :=
  ⟨by simp [htgt, hrealm], .singleton hop⟩

theorem Chain.cons {tgt ticket : AsRepSession} {realm referred : String} {hop : Hop} {hops : List Hop}
    (htgt : hop.tgt = tgt) (hrealm : hop.request.kdcRealm = realm) (hticket : hop.ticket P R = .ok ticket)
    (hreferred : tgtRealm ticket = some referred) (hne : referred ≠ realm)
    (h : Chain P R ticket referred hops) : Chain P R tgt realm (hop :: hops) := by
  cases hops with
  | nil => exact .singleton P R htgt hrealm
  | cons next hops =>
    obtain ⟨hnext, hnextRealm⟩ := h.head next rfl
    refine ⟨by simp [htgt, hrealm], .cons_cons ⟨?_, ?_, ?_⟩ h.linked⟩
    · rw [hticket, hnext]
    · rw [hnext, hreferred, hnextRealm]
    · rw [hnextRealm, hrealm]
      exact hne

/-- What the loop has returned: the ticket of its last turn, and the TGTs of the turns after the
first. -/
structure Returned (service : Principal) (hops : List Hop) (ticket : TgsRepSession) (last : Hop) : Prop where
  last_eq : hops.getLast? = some last
  ticket_eq : last.ticket P R = .ok ticket
  service_eq : principalMatches ticket.service service = true
  realm_eq : isTgtPrincipal service = false → last.request.kdcRealm = service.realm

/-- The log holds the turns of a chain, of which there are no more than a bound. -/
structure Sent (tgt : AsRepSession) (realm : String) (log : List Exchange) (bound : ℕ) (hops : List Hop)
    (s : ω × List Exchange) : Prop where
  log_eq : s.2 = log ++ hops.map Hop.exchange
  length_le : hops.length ≤ bound
  chain : Chain P R tgt realm hops

def Completes (service : Principal) (tgt : AsRepSession) (realm : String) (referralTgts : List AsRepSession)
    (log : List Exchange) (bound : ℕ) (result : ReferralTgsResult) (s : ω × List Exchange) : Prop :=
  ∃ hops last, Sent P R tgt realm log bound hops s ∧ Returned P R service hops result.ticket last ∧
    result.referralTgts = referralTgts ++ hops.tail.map Hop.tgt

/-- A loop that fails does so in its last turn, with the error of the answer if that has one. -/
def Fails (tgt : AsRepSession) (realm : String) (log : List Exchange) (bound : ℕ) (e : Error)
    (s : ω × List Exchange) : Prop :=
  ∃ hops, Sent P R tgt realm log bound hops s ∧
    ∀ last ∈ hops.getLast?, ∀ e', last.ticket P R = .error e' → e = e'

/-- A turn that has sent its request and got a ticket. -/
def Turned (service : Principal) (tgt : AsRepSession) (realm : String) (log : List Exchange)
    (ticket : TgsRepSession) (referred : Option String) (s : ω × List Exchange) : Prop :=
  ∃ hop : Hop, hop.Of tgt realm log s ∧ hop.ticket P R = .ok ticket ∧ Decides service realm ticket referred

section Turns

variable {P R} {service : Principal} {tgt ticket : AsRepSession} {realm referred : String}
  {referralTgts : List AsRepSession} {log : List Exchange} {bound : ℕ} {s : ω × List Exchange} {hop : Hop}

theorem Hop.Of.sent (h : hop.Of tgt realm log s) : Sent P R tgt realm log (bound + 1) [hop] s :=
  ⟨h.log_eq, by simp, .singleton P R h.tgt_eq h.realm_eq⟩

theorem FailsAfter.fails {e : Error} (h : FailsAfter P R tgt realm log e s) :
    Fails P R tgt realm log (bound + 1) e s := by
  rcases h with hlog | ⟨hop, hof, he⟩
  · exact ⟨[], ⟨by simpa using hlog, by simp, by simp, .nil⟩, by simp⟩
  · exact ⟨[hop], hof.sent, by simpa using he⟩

theorem completes_of_turn (h : Turned P R service tgt realm log ticket none s) :
    Completes P R service tgt realm referralTgts log (bound + 1) ⟨ticket, referralTgts⟩ s := by
  obtain ⟨hop, hof, hticket, hd⟩ := h
  exact ⟨[hop], hop, hof.sent, ⟨rfl, hticket, hd.1, fun h ↦ hof.realm_eq.trans (hd.2 h)⟩, by simp⟩

theorem Sent.cons {hops : List Hop} {s' : ω × List Exchange} (hof : hop.Of tgt realm log s')
    (hticket : hop.ticket P R = .ok ticket) (hd : Decides service realm ticket (some referred))
    (h : Sent P R ticket referred (log ++ [hop.exchange]) bound hops s) :
    Sent P R tgt realm log (bound + 1) (hop :: hops) s where
  log_eq := by rw [h.log_eq, List.map_cons, List.append_assoc, List.singleton_append]
  length_le := Nat.succ_le_succ h.length_le
  chain := .cons P R hof.tgt_eq hof.realm_eq hticket hd.1 hd.2 h.chain

end Turns

theorem triple_turn (service : Principal) (options : TgsReqOptions) (tgt : AsRepSession) (realm : String)
    (log : List Exchange) {bound : ℕ} :
    Triple (fun s ↦ s.2 = log) (followReferral W.logged P R service options tgt realm)
      (fun result ↦ Turned P R service tgt realm log result.1 result.2) (Fails P R tgt realm log (bound + 1)) :=
  (triple_followReferral W P R service options tgt realm log).weaken (fun _ h ↦ h) (fun _ _ h ↦ h)
    fun _ _ h ↦ h.fails

theorem triple_followReferrals (service : Principal) (options : TgsReqOptions)
    (maxReferrals remaining : ℕ) (tgt : AsRepSession) (realm : String) (referralTgts : List AsRepSession)
    (log : List Exchange) :
    Triple (fun s ↦ s.2 = log)
      (followReferrals W.logged P R service options maxReferrals remaining tgt realm referralTgts)
      (Completes P R service tgt realm referralTgts log (remaining + 1))
      (Fails P R tgt realm log (remaining + 1)) := by
  induction remaining generalizing tgt realm referralTgts log with
  | zero =>
    refine .bind (triple_turn W P R service options tgt realm log) fun step ↦ ?_
    obtain ⟨ticket, referred⟩ := step
    cases referred with
    | none => exact .pure fun _ hs ↦ completes_of_turn hs
    | some referred =>
      refine .throw fun s hs ↦ ?_
      obtain ⟨hop, hof, hticket, -⟩ := hs
      exact ⟨[hop], hof.sent, by simp [hticket]⟩
  | succ remaining ih =>
    refine .bind (triple_turn W P R service options tgt realm log) fun step ↦ ?_
    obtain ⟨ticket, referred⟩ := step
    cases referred with
    | none => exact .pure fun _ hs ↦ completes_of_turn hs
    | some referred =>
      intro s hs
      obtain ⟨hop, hof, hticket, hd⟩ := hs
      refine ((ih _ _ _ _).weaken (fun _ h ↦ h) ?_ ?_) s hof.log_eq
      · intro result s' h
        obtain ⟨hops, last, hsent, hreturned, htgts⟩ := h
        cases hops with
        | nil => cases hreturned.last_eq
        | cons next hops =>
          have hnext := (hsent.chain.head next rfl).1
          refine ⟨hop :: next :: hops, last, .cons hof hticket hd hsent, ?_, ?_⟩
          · exact { hreturned with last_eq := by rw [List.getLast?_cons_cons, hreturned.last_eq] }
          · simpa [hnext] using htgts
      · intro e s' h
        obtain ⟨hops, hsent, he⟩ := h
        refine ⟨hop :: hops, .cons hof hticket hd hsent, ?_⟩
        cases hops with
        | nil => simp [hticket]
        | cons next hops => rwa [List.getLast?_cons_cons]

/-- The service that is looked for: an empty realm is the one the configuration or the TGT gives. -/
def targetService (config : Config) (tgt : AsRepSession) (service : Principal) : Principal :=
  if service.realm = "" then
    { service with realm := (serviceRealm config service).getD ((tgtRealm tgt).getD "") }
  else service

theorem targetService_eq {tgt : AsRepSession} {realm : String} (h : tgtRealm tgt = some realm)
    (config : Config) (service : Principal) : targetService config tgt service =
      if service.realm = "" then { service with realm := (serviceRealm config service).getD realm }
      else service := by
  rw [targetService, h]
  rfl

theorem exec_getServiceTicketWithReferralTraceLimit {tgt : AsRepSession} {realm : String}
    (h : tgtRealm tgt = some realm) (config : Config) (service : Principal) (options : TgsReqOptions)
    (maxReferrals : ℕ) (w : ω) :
    (getServiceTicketWithReferralTraceLimit W P R config tgt service options maxReferrals).exec w =
      (followReferrals W P R (targetService config tgt service) options maxReferrals maxReferrals tgt realm
        []).exec w := by
  rw [getServiceTicketWithReferralTraceLimit, targetService_eq h, h]
  rfl

theorem Sent.starts {tgt : AsRepSession} {realm : String} {bound : ℕ} {hops : List Hop}
    {log : List Exchange} {s : ω × List Exchange} (h : Sent P R tgt realm log bound hops s)
    (hrealm : tgtRealm tgt = some realm) :
    ∀ hop ∈ hops.head?, hop.tgt = tgt ∧ tgtRealm tgt = some hop.request.kdcRealm := by
  intro hop hhop
  obtain ⟨htgt, hhead⟩ := h.chain.head hop hhop
  exact ⟨htgt, by rw [hrealm, hhead]⟩

/-- Whatever the KDCs answer, no more requests are sent than the limit and one, each of them after
the first with the ticket of the answer before it and to the realm that this ticket is for. A ticket
that is returned is the one that was asked for, from the KDC of its realm unless it is a TGT, along
with the TGTs that led to it. -/
theorem referrals_bounded_and_sound (config : Config) (tgt : AsRepSession) (service : Principal)
    (options : TgsReqOptions) (maxReferrals : ℕ) (w : ω) :
    let result := ((getServiceTicketWithReferralTraceLimit W P R config tgt service options
      maxReferrals).exec w).1
    let log := ((getServiceTicketWithReferralTraceLimit W.logged P R config tgt service options
      maxReferrals).exec (w, [])).2.2
    let target := targetService config tgt service
    ∃ hops : List Hop, log = hops.map Hop.exchange ∧ hops.length ≤ maxReferrals + 1 ∧
      (∀ hop ∈ hops.head?, hop.tgt = tgt ∧ tgtRealm tgt = some hop.request.kdcRealm) ∧
      hops.IsChain (Hop.Follows P R) ∧
      match result with
      | .ok result => ∃ last, hops.getLast? = some last ∧ last.ticket P R = .ok result.ticket ∧
          result.ticket.service.realm = target.realm ∧
          result.ticket.service.components = target.components ∧
          result.referralTgts = hops.tail.map Hop.tgt ∧ result.referralTgts.length ≤ maxReferrals ∧
          (isTgtPrincipal target = false → last.request.kdcRealm = target.realm)
      | .error e => ∀ last ∈ hops.getLast?, ∀ e', last.ticket P R = .error e' → e = e' := by
  intro result log target
  cases hrealm : tgtRealm tgt with
  | none =>
    have hresult : result = .error (.invalidReferralTicket tgt.service.name) := by
      simp only [result, getServiceTicketWithReferralTraceLimit, hrealm]
      rfl
    have hlog : log = [] := by
      simp only [log, getServiceTicketWithReferralTraceLimit, hrealm]
      rfl
    rw [hresult, hlog]
    exact ⟨[], rfl, by simp, by simp, .nil, by simp⟩
  | some realm =>
    have hmirrors := mirrors_getServiceTicketWithReferralTraceLimit W P R config tgt service options
      maxReferrals (w, [])
    have hlogged := exec_getServiceTicketWithReferralTraceLimit W.logged P R hrealm config service options
      maxReferrals (w, [])
    have h := triple_followReferrals W P R target options maxReferrals maxReferrals tgt realm [] [] (w, []) rfl
    rw [← hlogged] at h
    rw [show result = _ from congrArg Prod.fst hmirrors]
    revert h log
    rcases (getServiceTicketWithReferralTraceLimit W.logged P R config tgt service options
      maxReferrals).exec (w, []) with ⟨e | result, s⟩
    · intro log h
      obtain ⟨hops, hsent, he⟩ := h
      exact ⟨hops, hsent.log_eq, hsent.length_le, hrealm ▸ hsent.starts P R hrealm, hsent.chain.linked, he⟩
    · intro log h
      obtain ⟨hops, last, hsent, hreturned, htgts⟩ := h
      obtain ⟨hr, hc⟩ := principalMatches_iff.mp hreturned.service_eq
      have hlength := hsent.length_le
      refine ⟨hops, hsent.log_eq, hlength, hrealm ▸ hsent.starts P R hrealm, hsent.chain.linked, last,
        hreturned.last_eq, hreturned.ticket_eq, hr, hc, htgts, ?_, hreturned.realm_eq⟩
      rw [htgts, List.nil_append, List.length_map, List.length_tail]
      omega

end Chains

end Rskrb5.Client
