import Rskrb5.Client.Runs

namespace Rskrb5.Client.TokioClient

open Lib.Results Lib.Programs Lib.Once Crypto

section Events

/-- What a caller does to a client without a request. -/
inductive Direct (kind : AsRepSession → Prop) (c : TokioClient) : TokioClient → Prop
  | cacheServiceTicketAt (ticket : TgsRepSession) (now : SystemTime) (h : kind ticket) :
    Direct kind c (c.cacheServiceTicketAt ticket now)
  | removeTgtSessionForRealm (realm : String) : Direct kind c (c.removeTgtSessionForRealm realm).2
  | removeCachedServiceTicket (service : Principal) : Direct kind c (c.removeCachedServiceTicket service).2
  | pruneUnusableSessionsAt (now : SystemTime) : Direct kind c (c.pruneUnusableSessionsAt now).2
  | clearServiceTicketCache : Direct kind c c.clearServiceTicketCache
  | destroy : Direct kind c c.destroy
  | configured (credentials : Option TokioClientCredentials) (assumePreauthentication fastNegotiation : Bool) :
    Direct kind c { c with credentials, assumePreauthentication, fastNegotiation }

theorem Direct.client_eq {kind : AsRepSession → Prop} {c c' : TokioClient} (h : Direct kind c c') :
    c'.client = c.client := by
  cases h with
  | removeTgtSessionForRealm realm =>
    simp only [TokioClient.removeTgtSessionForRealm]
    split <;> rfl
  | _ => rfl

theorem Direct.covers {S : Scope} {c c' : TokioClient} (h : Direct S.kind c c') (hs : S.Covers c) : S.Covers c' := by
  have hclient := h.client_eq.trans hs.client_eq
  obtain ⟨hholds, hcoherent, -⟩ := hs
  cases h with
  | cacheServiceTicketAt ticket now hkind =>
    exact ⟨hholds.cacheServiceTicketAt hkind now, ⟨hcoherent.primary, hcoherent.keyed⟩, hclient⟩
  | removeTgtSessionForRealm realm =>
    exact ⟨hholds.removeTgtSessionForRealm realm, coherent_removeTgtSessionForRealm hcoherent realm, hclient⟩
  | removeCachedServiceTicket service =>
    have htickets := kind_erase hholds.serviceTickets (serviceCacheKey (c.resolveServicePrincipal service))
    exact ⟨⟨hholds.tgt, hholds.tgtSessions, htickets⟩, ⟨hcoherent.primary, hcoherent.keyed⟩, hclient⟩
  | pruneUnusableSessionsAt now =>
    exact ⟨hholds.pruneUnusableSessionsAt now, coherent_pruneUnusableSessionsAt hcoherent now, hclient⟩
  | clearServiceTicketCache =>
    exact ⟨hholds.clearServiceTicketCache, ⟨hcoherent.primary, hcoherent.keyed⟩, hclient⟩
  | destroy => exact ⟨hholds.destroy, coherent_destroy, hclient⟩
  | configured credentials assumePreauthentication fastNegotiation =>
    exact ⟨⟨hholds.tgt, hholds.tgtSessions, hholds.serviceTickets⟩, ⟨hcoherent.primary, hcoherent.keyed⟩, hclient⟩

variable {ω : Type} (W : World ω) (P : Primitives) (R : Rasn) (S : Scope)

/-- One thing that happens to a client. -/
inductive Event (s : TokioClient × ω) : TokioClient × ω → Prop
  | act {s' : TokioClient × ω} (h : Act W P R S s s') : Event s s'
  | direct {c : TokioClient} (h : Direct S.kind s.1 c) : Event s (c, s.2)

abbrev Events : TokioClient × ω → TokioClient × ω → Prop := Relation.ReflTransGen (Event W P R S)

/-- One thing that happens to a client, in whatever world. -/
def Happens (c c' : TokioClient) : Prop := ∃ w w', Event W P R S (c, w) (c', w')

variable {W P R S} {s s' : TokioClient × ω}

theorem Event.covers (h : Event W P R S s s') (hs : S.Covers s.1) : S.Covers s'.1 := by
  cases h with
  | act h => exact h.covers hs
  | direct h => exact h.covers hs

theorem Acts.events (h : Acts W P R S s s') : Events W P R S s s' :=
  Relation.ReflTransGen.mono (fun _ _ hact ↦ Event.act hact) _ _ h

theorem Happens.covers {c c' : TokioClient} (h : Happens W P R S c c') (hs : S.Covers c) : S.Covers c' := by
  obtain ⟨w, w', hevent⟩ := h
  exact hevent.covers hs

theorem Scope.Covers.happens {c c' : TokioClient} (hs : S.Covers c)
    (h : Relation.ReflTransGen (Happens W P R S) c c') : S.Covers c' :=
  invariant_of_step S.Covers (fun _ _ hs h ↦ h.covers hs) hs h

theorem Events.happens (h : Events W P R S s s') : Relation.ReflTransGen (Happens W P R S) s.1 s'.1 :=
  h.lift Prod.fst fun _ _ hevent ↦ ⟨_, _, hevent⟩

/-- A program that runs within its scope ends after some events, and does not panic. -/
theorem Runs.events {α : Type} {pre : TokioClient × ω → Prop} {x : ClientProgram ω α}
    {post : α → TokioClient × ω → Prop} (h : Runs W P R S pre x post) (hs : S.Covers s.1) (hpre : pre s) :
    Events W P R S s (x.exec s).2 ∧ ∀ message, (x.exec s).1 ≠ .error (.panicked message) := by
  refine ⟨Acts.events (h s ⟨hs, hpre⟩).1, fun message hpanicked ↦ ?_⟩
  obtain ⟨source, hsource⟩ := Goes.error h ⟨hs, hpre⟩ hpanicked
  cases hsource

end Events

/-- What a caller can do with a client between its construction and its end. -/
inductive Operation
  | cacheTgtSession (tgt : AsRepSession)
  | cacheServiceTicket (ticket : TgsRepSession)
  | login
  | affirmLogin
  | renewTgt
  | renewTgtSessionForRealm (realm : String)
  | getServiceTicket (service : Principal)
  | refreshTgtIfNeeded
  | removeTgtSessionForRealm (realm : String)
  | pruneUnusableSessions
  | clearServiceTicketCache
  | destroy
  | withPasswordCredential (password : Bytes)
  | withKeytabCredential (keytab : Keytab)
  | withAssumePreauthentication (assumePreauthentication : Bool)
  | withFastNegotiation (fastNegotiation : Bool)

namespace Operation

/-- The sessions that the caller brings along are of a kind. -/
def Brings (kind : AsRepSession → Prop) : Operation → Prop
  | cacheTgtSession tgt => kind tgt
  | cacheServiceTicket ticket => kind ticket
  | _ => True

/-- The service that an operation asks a ticket for, if any. -/
def target (c : TokioClient) : Operation → Principal
  | getServiceTicket service => c.resolveServicePrincipal service
  | _ => c.client

end Operation

section Runs

variable {ω : Type} (W : World ω) (P : Primitives) (R : Rasn)

def ignore {α : Type} (x : ClientProgram ω α) : ClientProgram ω Unit := do
  let _ ← x
  return ()

def Operation.run : Operation → ClientProgram ω Unit
  | cacheTgtSession tgt => TokioClient.cacheTgtSession W tgt
  | cacheServiceTicket ticket => TokioClient.cacheServiceTicket W ticket
  | login => ignore (TokioClient.login W P R)
  | affirmLogin => ignore (TokioClient.affirmLogin W P R)
  | renewTgt => ignore (TokioClient.renewTgt W P R)
  | renewTgtSessionForRealm realm => ignore (TokioClient.renewTgtSessionForRealm W P R realm)
  | getServiceTicket service => ignore (TokioClient.getServiceTicket W P R service)
  | refreshTgtIfNeeded => ignore (TokioClient.refreshTgtIfNeeded W P R)
  | removeTgtSessionForRealm realm => .update fun c ↦ (c.removeTgtSessionForRealm realm).2
  | pruneUnusableSessions => ignore (TokioClient.pruneUnusableSessions W)
  | clearServiceTicketCache => .update TokioClient.clearServiceTicketCache
  | destroy => .update TokioClient.destroy
  | withPasswordCredential password => .update fun c ↦ c.withPasswordCredential password
  | withKeytabCredential keytab => .update fun c ↦ c.withKeytabCredential keytab
  | withAssumePreauthentication b => .update fun c ↦ c.withAssumePreauthentication b
  | withFastNegotiation b => .update fun c ↦ c.withFastNegotiation b

inductive Constructed : TokioClient → Prop
  | new (config : Config) (client : Principal) (credentials : Option TokioClientCredentials) :
    Constructed (.new config client credentials)
  | fromCcache (config : Config) (cache : CCache) (w : ω) : Constructed (fromCcache W config cache w).1
  | fromTgtSession (config : Config) (tgt : AsRepSession) (w : ω) :
    Constructed (fromTgtSession W config tgt w).1

/-- One operation, from whatever the world has become since the last one. It may fail. -/
def Step (c c' : TokioClient) : Prop :=
  ∃ (op : Operation) (w : ω), c' = ((op.run W P R).exec (c, w)).2.1

def Reachable (c : TokioClient) : Prop :=
  ∃ c₀, Constructed W c₀ ∧ Relation.ReflTransGen (Step W P R) c₀ c

variable {W P R} {S : Scope} {c : TokioClient}

theorem Runs.ignore {α : Type} {pre : TokioClient × ω → Prop} {x : ClientProgram ω α}
    {post : α → TokioClient × ω → Prop} (h : Runs W P R S pre x post) :
    Runs W P R S pre (ignore x) fun _ _ ↦ True :=
  .bind h fun _ ↦ .pure fun _ _ _ ↦ trivial

/-- What an operation does are events of every scope that covers the client and the sessions it is given. -/
theorem Operation.events {op : Operation} (hs : S.Covers c) (hop : op.Brings S.kind) (htaken : ∀ tgt, S.taken tgt)
    (htarget : S.target = op.target c) (w : ω) :
    Events W P R S (c, w) ((op.run W P R).exec (c, w)).2 ∧
      ∀ message, ((op.run W P R).exec (c, w)).1 ≠ .error (.panicked message) := by
  have hupdate (f : TokioClient → TokioClient) (h : Direct S.kind c (f c)) :
      Events W P R S (c, w) ((.update f : ClientProgram ω Unit).exec (c, w)).2 ∧
        ∀ message, ((.update f : ClientProgram ω Unit).exec (c, w)).1 ≠ .error (.panicked message) :=
    ⟨.single (.direct h), fun _ ↦ nofun⟩
  have htimed {c' : TokioClient} (h : Direct S.kind c c') : Events W P R S (c, w) (c', (W.now w).2) :=
    .tail (.single (.act (.wait (.single .now)))) (.direct h)
  cases op with simp only [run]
  | cacheTgtSession tgt => exact (runs_cacheTgtSession hop (htaken tgt)).events hs trivial
  | cacheServiceTicket ticket => exact ⟨htimed (.cacheServiceTicketAt ticket (W.now w).1 hop), fun _ ↦ nofun⟩
  | login => exact (runs_login c).ignore.events hs rfl
  | affirmLogin => exact (runs_affirmLogin c).ignore.events hs rfl
  | renewTgt => exact (runs_renewTgt c).ignore.events hs rfl
  | renewTgtSessionForRealm realm => exact (runs_renewTgtSessionForRealm c realm).ignore.events hs rfl
  | getServiceTicket service =>
    have hservice (s : TokioClient × ω) (h : s.1 = c) : s.1.resolveServicePrincipal service = S.target := by
      rw [h, htarget]
      rfl
    exact (runs_getServiceTicket htaken service hservice).ignore.events hs rfl
  | refreshTgtIfNeeded =>
    have hrefresh : Runs W P R S (fun s ↦ s.1 = c) (TokioClient.refreshTgtIfNeeded W P R) _ := runs_refreshTgtIfNeeded
    exact hrefresh.ignore.events hs rfl
  | removeTgtSessionForRealm realm => exact hupdate _ (.removeTgtSessionForRealm realm)
  | pruneUnusableSessions => exact ⟨htimed (.pruneUnusableSessionsAt (W.now w).1), fun _ ↦ nofun⟩
  | clearServiceTicketCache => exact hupdate _ .clearServiceTicketCache
  | destroy => exact hupdate _ .destroy
  | withPasswordCredential password => exact hupdate _ (.configured _ _ _)
  | withKeytabCredential keytab => exact hupdate _ (.configured _ _ _)
  | withAssumePreauthentication b => exact hupdate _ (.configured _ _ _)
  | withFastNegotiation b => exact hupdate _ (.configured _ _ _)

/-- A client that is loaded from a cache gets the sessions of its principal one after the other. -/
theorem goes_loadCredentials {cache : CCache} (hclient : S.client = cache.defaultPrincipal)
    (htaken : ∀ tgt, S.taken tgt) (now : SystemTime) (credentials : List CCache.Credential) :
    Goes (Events W P R S) (fun _ ↦ True) (loadCredentials W cache now credentials) (fun _ _ ↦ True) fun _ ↦ True := by
  induction credentials with
  | nil => exact .pure fun _ h ↦ h
  | cons credential credentials ih =>
    refine .bind ?_ fun _ ↦ ih
    simp only [loadCredential]
    split
    · next hsame =>
      have hkind : S.kind (ccacheCredentialSession credential) := S.kind_issued _ (hclient ▸ hsame)
      split
      · exact .update fun s _ ↦ ⟨.single (.act (.cacheTgtSessionAt _ now hkind (htaken _))), trivial⟩
      · refine fun s _ ↦ ⟨.tail (.single (.act (.wait (.single .now)))) ?_, trivial⟩
        exact .direct (.cacheServiceTicketAt _ _ hkind)
    · exact .pure fun _ h ↦ h

/-- What happened to a client that is constructed since it was new. -/
theorem Constructed.happens (h : Constructed W c) : ∃ config client credentials, ∀ S : Scope, S.client = client →
    (∀ tgt, S.taken tgt) → Relation.ReflTransGen (Happens W P R S) (.new config client credentials) c := by
  cases h with
  | new config client credentials => exact ⟨config, client, credentials, fun _ _ _ ↦ .refl⟩
  | fromCcache config cache w =>
    refine ⟨config, cache.defaultPrincipal, none, fun S hclient htaken ↦ ?_⟩
    have hnow : Goes (Events W P R S) (fun _ ↦ True) (outside (now W)) (fun _ _ ↦ True) fun _ ↦ True :=
      fun _ _ ↦ ⟨.single (.act (.wait (.single .now))), trivial⟩
    have hload := Goes.bind hnow fun now ↦ goes_loadCredentials hclient htaken now cache.entries
    exact Events.happens (hload (_, w) trivial).1
  | fromTgtSession config tgt w =>
    refine ⟨config, tgt.client, none, fun S hclient htaken ↦ ?_⟩
    have hkind : S.kind tgt := S.kind_issued tgt (hclient ▸ principalMatches_self tgt.client)
    exact .single ⟨_, _, .act (s := (_, w)) (.cacheTgtSessionAt tgt (W.now w).1 hkind (htaken tgt))⟩

/-- The scope of a client that asks for tickets for `target`, whatever sessions it holds. -/
def Scope.any (client target : Principal) : Scope where
  client := client
  kind _ := True
  kind_issued _ _ := trivial
  kind_inherited _ _ _ _ := trivial
  target := target
  taken _ := True

theorem Scope.covers_new (S : Scope) (config : Config) (credentials : Option TokioClientCredentials) :
    S.Covers (.new config S.client credentials) :=
  ⟨holdsOnly_new _ _ _, coherent_new _ _ _, rfl⟩

theorem Coherent.covers (h : c.Coherent) (target : Principal) : (Scope.any c.client target).Covers c :=
  ⟨⟨fun _ _ ↦ trivial, fun _ _ _ ↦ trivial, fun _ _ _ ↦ trivial⟩, h, rfl⟩

theorem runs_getServiceTicket_any (s₀ : TokioClient × ω) (service : Principal) :
    Runs W P R (.any s₀.1.client (s₀.1.resolveServicePrincipal service)) (fun s ↦ s = s₀)
      (getServiceTicket W P R service) fun ticket s ↦
        Found W P R (.any s₀.1.client (s₀.1.resolveServicePrincipal service)) (fun s ↦ s = s₀) ticket s.2 :=
  runs_getServiceTicket (fun _ ↦ trivial) service fun _ h ↦ h ▸ rfl

theorem Operation.brings_any (op : Operation) (c : TokioClient) :
    op.Brings (Scope.any c.client (op.target c)).kind := by
  cases op <;> trivial

theorem Constructed.invariant {inv : TokioClient → Prop}
    (hnew : ∀ config client credentials, inv (.new config client credentials))
    (hhappens : ∀ S c c', inv c → Happens W P R S c c' → inv c') (h : Constructed W c) : inv c ∧ c.Coherent := by
  obtain ⟨config, client, credentials, hevents⟩ := h.happens
  replace hevents := hevents (.any client client) rfl fun _ ↦ trivial
  refine ⟨invariant_of_step inv (hhappens _) (hnew config client credentials) hevents, ?_⟩
  exact ((Scope.any client client).covers_new config credentials).happens hevents |>.coherent

theorem Step.happens {c' : TokioClient} (hc : c.Coherent) (hstep : Step W P R c c') :
    ∃ target, Relation.ReflTransGen (Happens W P R (.any c.client target)) c c' := by
  obtain ⟨op, w, rfl⟩ := hstep
  exact ⟨op.target c, (op.events (hc.covers _) (op.brings_any c) (fun _ ↦ trivial) rfl w).1.happens⟩

theorem Step.coherent {c' : TokioClient} (hc : c.Coherent) (hstep : Step W P R c c') : c'.Coherent := by
  obtain ⟨target, hsteps⟩ := hstep.happens hc
  exact ((hc.covers target).happens hsteps).coherent

/-- What new clients have and what stays so whatever happens to a client, every client has that is reached. -/
theorem Reachable.invariant {inv : TokioClient → Prop}
    (hnew : ∀ config client credentials, inv (.new config client credentials))
    (hhappens : ∀ S c c', inv c → Happens W P R S c c' → inv c') (h : Reachable W P R c) : inv c ∧ c.Coherent := by
  obtain ⟨c₀, hc₀, hrun⟩ := h
  refine invariant_of_step (fun c ↦ inv c ∧ c.Coherent) (fun c c' hc hstep ↦ ?_) (hc₀.invariant hnew hhappens) hrun
  obtain ⟨target, hsteps⟩ := hstep.happens hc.2
  exact ⟨invariant_of_step inv (hhappens _) hc.1 hsteps, ((hc.2.covers target).happens hsteps).coherent⟩

theorem Reachable.coherent (h : Reachable W P R c) : c.Coherent :=
  have hany : True ∧ c.Coherent := h.invariant (fun _ _ _ ↦ trivial) fun _ _ _ _ _ ↦ trivial
  hany.2

/-- In every state that a client reaches, whatever the clock, the random bytes and the KDCs
do, its primary TGT is the session of its own realm, its sessions are keyed by their realms,
and no operation panics. -/
theorem sessions_coherent_of_reachable (W : World ω) (P : Primitives) (R : Rasn) (c : TokioClient)
    (h : Reachable W P R c) :
    c.tgt = c.tgtSessions[c.client.realm]? ∧
    (∀ realm session, c.tgtSessions[realm]? = some session → tgtRealm session = some realm) ∧
    ∀ (op : Operation) (w : ω) (message : String),
      ((op.run W P R).exec (c, w)).1 ≠ .error (.panicked message) :=
  ⟨h.coherent.primary, h.coherent.keyed, fun op w ↦
    (op.events (h.coherent.covers _) (op.brings_any c) (fun _ ↦ trivial) rfl w).2⟩

end Runs

section Restored

def minute : SystemTime := systemTimeFromU32Seconds 1767225660
def hourLater : SystemTime := systemTimeFromU32Seconds 1767229260

def stillWorld : World Unit where
  now w := (minute, w)
  fill len w := (.ok (Vector.replicate len 0x42), w)
  sendToRealm _ _ w := (.error "unreachable", w)
  sendToKpasswdRealm _ _ w := (.error "unreachable", w)

def bareConfig : Config := ⟨⟨false, [23], [23], 0, 0, 3600⟩, ∅⟩

def tgtFor (realm : String) : AsRepSession where
  client := ⟨"A", 1, ["alice"]⟩
  service := ⟨"A", 2, ["krbtgt", realm]⟩
  sessionKey := ⟨23, List.replicate 16 0x22⟩
  ticket := [0x61, 0x00]
  ticketFlags := Vector.replicate 4 0
  authTime := minute
  startTime := minute
  endTime := hourLater
  renewTill := none
  keyExpiration := none

def restored : TokioClient := (fromTgtSession stillWorld bareConfig (tgtFor "A") ()).1

def referred : TokioClient :=
  (((Operation.cacheTgtSession (tgtFor "B")).run stillWorld (.ofKnownAnswers (.ofRc4Sealed []))
    (.ofTable {})).exec (restored, ())).2.1

@[simp] theorem tgtFor_client_realm (realm : String) : (tgtFor realm).client.realm = "A" := rfl

@[simp] theorem tgtRealm_tgtFor (realm : String) : tgtRealm (tgtFor realm) = some realm := by
  have hkrbtgt : eqIgnoreAsciiCase "krbtgt" "krbtgt" = true := by decide +kernel
  simp [tgtRealm, tgtFor, isTgtPrincipal, hkrbtgt]

theorem restored_eq : restored =
    (TokioClient.new bareConfig (tgtFor "A").client none).withPrimary (tgtFor "A") :=
  fromTgtSession_own stillWorld bareConfig (tgtRealm_tgtFor "A") ()

theorem referred_eq : referred =
    { restored with tgtSessions := (restored.tgtSessions.erase "B").insert "B" (tgtFor "B") } := by
  change (restored.cacheTgtSessionAt (tgtFor "B") minute).2 = _
  simp [cacheTgtSessionAt, restored_eq, withPrimary, TokioClient.new, preferredSessionAt]

theorem referred_sessions :
    referred.tgt = some (tgtFor "A") ∧ referred.tgtSessions["B"]? = some (tgtFor "B") := by
  simp [referred_eq, restored_eq, withPrimary]

theorem sessions_coherent_of_reachable_referred :
    referred.tgtSessions["A"]? = some (tgtFor "A") ∧ referred.tgtSessions["B"]? = some (tgtFor "B") ∧
    ((Operation.affirmLogin.run stillWorld (.ofKnownAnswers (.ofRc4Sealed [])) (.ofTable {})).exec
      (referred, ())).1 ≠ .error (.panicked "TGT was just checked") := by
  have hreach : Reachable stillWorld (.ofKnownAnswers (.ofRc4Sealed [])) (.ofTable {}) referred :=
    ⟨restored, .fromTgtSession bareConfig (tgtFor "A") (), .single ⟨.cacheTgtSession (tgtFor "B"), (), rfl⟩⟩
  obtain ⟨hprimary, -, hpanic⟩ := sessions_coherent_of_reachable stillWorld _ _ referred hreach
  have hclient : referred.client.realm = "A" := by rw [referred_eq, restored_eq]; rfl
  rw [hclient, referred_sessions.1] at hprimary
  exact ⟨hprimary.symm, referred_sessions.2, hpanic .affirmLogin () "TGT was just checked"⟩

end Restored

section Cached

theorem getServiceTicket_of_cached {ω : Type} (W : World ω) (P : Primitives) (R : Rasn) {c : TokioClient} {w : ω}
    {service : Principal} {ticket : TgsRepSession} (hservice : c.resolveServicePrincipal service = service)
    (hstored : c.serviceTickets[serviceCacheKey service]? = some ticket)
    (hvalid : sessionValidAt ticket (W.now w).1 = true) :
    (getServiceTicket W P R service).exec (c, w) = (.ok { ticket with service }, (c, (W.now w).2)) := by
  have hnow : (outside (now W)).exec (c, w) = (.ok (W.now w).1, (c, (W.now w).2)) := rfl
  have hcached : (cachedOrRenewedTicket W P R service).exec (c, w) =
      (.ok (some { ticket with service }), (c, (W.now w).2)) := by
    rw [cachedOrRenewedTicket, Program.exec_read_bind, hstored]
    dsimp only
    rw [Program.exec_bind_ok hnow, if_pos hvalid]
    rfl
  rw [getServiceTicket, Program.exec_read_bind, hservice, Program.exec_bind_ok hcached]
  rfl

end Cached

end Rskrb5.Client.TokioClient
