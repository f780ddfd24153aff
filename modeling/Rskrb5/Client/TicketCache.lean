import Rskrb5.Client.Login
import Rskrb5.Client.Reload
import Rskrb5.Lib.Lists

namespace Rskrb5.Client

open Lib.Results Lib.Programs Lib.Lists Lib.Once Crypto

section Keys

/-- A principal whose parts stay apart behind the separators of a cache key. -/
def NulFree (principal : Principal) : Prop :=
  Char.ofNat 0 ∉ principal.realm.toList ∧ ∀ component ∈ principal.components, Char.ofNat 0 ∉ component.toList

instance (principal : Principal) : Decidable (NulFree principal) :=
  inferInstanceAs (Decidable (_ ∧ ∀ component ∈ principal.components, _))

variable {left right : Principal}

theorem toList_serviceCacheKey (service : Principal) : (serviceCacheKey service).toList =
    service.realm.toList ++ separated (Char.ofNat 0) (service.components.map String.toList) := by
  obtain ⟨realm, nameType, components⟩ := service
  simp only [serviceCacheKey]
  induction components generalizing realm with
  | nil => exact (List.append_nil _).symm
  | cons component components ih =>
    rw [List.foldl_cons, ih, String.toList_append, String.toList_append, String.toList_singleton, List.map_cons,
      separated_cons, List.append_assoc, List.append_assoc]
    rfl

theorem serviceCacheKey_eq_of_matches (h : principalMatches left right = true) :
    serviceCacheKey left = serviceCacheKey right := by
  obtain ⟨hrealm, hcomponents⟩ := principalMatches_iff.mp h
  rw [serviceCacheKey, serviceCacheKey, hrealm, hcomponents]

theorem serviceCacheKey_eq_iff (hleft : NulFree left) (hright : NulFree right) :
    serviceCacheKey left = serviceCacheKey right ↔ principalMatches left right = true := by
  refine ⟨fun h ↦ ?_, serviceCacheKey_eq_of_matches⟩
  have hlists := congrArg String.toList h
  rw [toList_serviceCacheKey, toList_serviceCacheKey] at hlists
  obtain ⟨hrealm, hcomponents⟩ := append_separated_injective hleft.1 hright.1
    (List.forall_mem_map.mpr hleft.2) (List.forall_mem_map.mpr hright.2) hlists
  have hinjective : Function.Injective String.toList := fun _ _ ↦ String.toList_inj.mp
  exact principalMatches_iff.mpr ⟨hinjective hrealm, hinjective.list_map hcomponents⟩

theorem NulFree.of_matches (h : NulFree left) (hmatches : principalMatches right left = true) : NulFree right := by
  obtain ⟨hrealm, hcomponents⟩ := principalMatches_iff.mp hmatches
  rwa [NulFree, hrealm, hcomponents]

end Keys

section Sources

variable (P : Primitives) (R : Rasn)

/-- A ticket for a service that was read out of an exchange with a KDC. -/
structure FetchedIn (target : Principal) (log : List Exchange) (ticket : TgsRepSession) : Prop where
  answered : ∃ exchange ∈ log, ∃ answer, exchange.Answers P R answer ∧
    principalMatches answer.service target = true ∧ ticket = { answer with service := ticket.service }
  service_eq : principalMatches ticket.service target = true

/-- The KDC of the client's realm has issued a TGT. -/
def OwnIssued (realm : String) (log : List Exchange) : Prop := ∃ tgt, IssuedIn P R realm log tgt

variable {P R} {target : Principal} {log log' : List Exchange} {ticket : TgsRepSession}

theorem FetchedIn.mono (h : FetchedIn P R target log ticket) (hlog : log <+: log') :
    FetchedIn P R target log' ticket := by
  obtain ⟨exchange, hmem, hanswer⟩ := h.answered
  exact ⟨⟨exchange, hlog.subset hmem, hanswer⟩, h.service_eq⟩

end Sources

namespace TokioClient

variable {ω : Type} (W : World ω) (P : Primitives) (R : Rasn)

/-- What the steps of a request for a service do with the tickets: they put in one that a KDC gave for
this service, and leave those for others alone unless the client gets a TGT of its own. -/
structure Serves (target : Principal) (s s' : TokioClient × ω × List Exchange) : Prop where
  client_eq : s'.1.client = s.1.client
  grows : s.2.2 <+: s'.2.2
  own : ∀ ticket, s'.1.serviceTickets[serviceCacheKey target]? = some ticket →
    s.1.serviceTickets[serviceCacheKey target]? = some ticket ∨ FetchedIn P R target s'.2.2 ticket
  others : (∀ key, key ≠ serviceCacheKey target → s'.1.serviceTickets[key]? = s.1.serviceTickets[key]?) ∨
    (∀ key, key ≠ serviceCacheKey target → s'.1.serviceTickets[key]? = none) ∧
      OwnIssued P R s.1.client.realm s'.2.2

section Serves

variable {P R} {target : Principal} {s s' s'' : TokioClient × ω × List Exchange}

theorem Serves.of_eq (hclient : s'.1.client = s.1.client) (htickets : s'.1.serviceTickets = s.1.serviceTickets)
    (hgrows : s.2.2 <+: s'.2.2) : Serves P R target s s' :=
  ⟨hclient, hgrows, fun _ h ↦ .inl (htickets ▸ h), .inl fun _ _ ↦ by rw [htickets]⟩

theorem Serves.of_empty (hclient : s'.1.client = s.1.client) (htickets : s'.1.serviceTickets = ∅)
    (hissued : OwnIssued P R s.1.client.realm s'.2.2) (hgrows : s.2.2 <+: s'.2.2) : Serves P R target s s' := by
  have hnone : ∀ key : String, s'.1.serviceTickets[key]? = none := by simp [htickets]
  exact ⟨hclient, hgrows, fun _ h ↦ absurd (h.symm.trans (hnone _)) (Option.some_ne_none _),
    .inr ⟨fun key _ ↦ hnone key, hissued⟩⟩

theorem Serves.trans (h : Serves P R target s s') (h' : Serves P R target s' s'') : Serves P R target s s'' where
  client_eq := h'.client_eq.trans h.client_eq
  grows := h.grows.trans h'.grows
  own ticket ht := by
    rcases h'.own ticket ht with ht | hfetched
    · exact (h.own ticket ht).imp_right fun hfetched ↦ hfetched.mono h'.grows
    · exact .inr hfetched
  others := by
    rcases h'.others with hsame' | ⟨hnone', hissued'⟩
    · rcases h.others with hsame | ⟨hnone, tgt, hissued⟩
      · exact .inl fun key hkey ↦ (hsame' key hkey).trans (hsame key hkey)
      · exact .inr ⟨fun key hkey ↦ (hsame' key hkey).trans (hnone key hkey), tgt, hissued.mono h'.grows⟩
    · exact .inr ⟨hnone', h.client_eq ▸ hissued'⟩

/-- A cache that has only tickets for a service in the service's place keeps it so. -/
theorem Serves.matches (h : Serves P R target s s') (hmatches : ∀ stored,
      s.1.serviceTickets[serviceCacheKey target]? = some stored → principalMatches stored.service target = true)
    (stored : TgsRepSession) (hstored : s'.1.serviceTickets[serviceCacheKey target]? = some stored) :
    principalMatches stored.service target = true :=
  (h.own stored hstored).elim (hmatches stored) FetchedIn.service_eq

theorem serviceTickets_cacheServiceTicketAt (c : TokioClient) (ticket : TgsRepSession) (now : SystemTime)
    (key : String) : (c.cacheServiceTicketAt ticket now).serviceTickets[key]? =
      if serviceCacheKey ticket.service = key then
        some (preferredSessionAt c.serviceTickets[key]? ticket now) else c.serviceTickets[key]? := by
  simp only [cacheServiceTicketAt, getElem?_insert, getElem?_erase]
  split
  · next h => rw [h]
  · rfl

theorem serves_storeRenewed {renewed : AsRepSession} {realm : String} :
    Serves P R target s (s.1.storeRenewed renewed realm, s.2) :=
  .of_eq (client_storeRenewed s.1 renewed realm) (serviceTickets_storeRenewed renewed realm) List.prefix_rfl

variable {W}

theorem Obtained.fetchedIn {ticket : TgsRepSession} (hmatches : ∀ stored,
      s.1.serviceTickets[serviceCacheKey target]? = some stored → principalMatches stored.service target = true)
    (h : Obtained W.logged P R target s ticket) : FetchedIn P R target s.2.2 ticket := by
  cases h with
  | renewed stored answer held service given ticket_eq =>
    obtain ⟨exchange, hanswered, hanswers⟩ := given
    have hservice := principalMatches_trans service (hmatches stored held)
    subst ticket_eq
    exact ⟨⟨exchange, hanswered.mem_log, answer, hanswers, hservice, rfl⟩, principalMatches_self target⟩
  | given service given =>
    obtain ⟨exchange, hanswered, hanswers⟩ := given
    exact ⟨⟨exchange, hanswered.mem_log, ticket, hanswers, service, rfl⟩, service⟩

theorem serves_cacheServiceTicketAt {ticket : TgsRepSession} (h : FetchedIn P R target s.2.2 ticket)
    (now : SystemTime) : Serves P R target s (s.1.cacheServiceTicketAt ticket now, s.2) := by
  refine ⟨rfl, List.prefix_rfl, fun other hother ↦ ?_, .inl fun key hkey ↦ ?_⟩
  · have hstored := (serviceTickets_cacheServiceTicketAt s.1 ticket now _).symm.trans hother
    rw [if_pos (serviceCacheKey_eq_of_matches h.service_eq)] at hstored
    rcases preferredSessionAt_eq s.1.serviceTickets[serviceCacheKey target]? ticket now with hnew | hold
    · exact .inr ((hnew.symm.trans (Option.some.inj hstored)) ▸ h)
    · exact .inl (hold.trans hstored)
  · refine (serviceTickets_cacheServiceTicketAt s.1 ticket now key).trans (if_neg fun heq ↦ hkey ?_)
    rw [← heq, serviceCacheKey_eq_of_matches h.service_eq]

theorem Act.serves {S : Scope} (hmatches : ∀ stored,
      s.1.serviceTickets[serviceCacheKey S.target]? = some stored → principalMatches stored.service S.target = true)
    (h : Act W.logged P R S s s') : Serves P R S.target s s' := by
  cases h with
  | wait hlater => exact .of_eq rfl rfl hlater.log
  | cacheServiceTicketAt ticket now _ hobtained =>
    exact serves_cacheServiceTicketAt (hobtained.fetchedIn hmatches) now
  | cacheTgtSessionAt tgt now =>
    exact .of_eq (client_cacheTgtSessionAt s.1 tgt now) (serviceTickets_cacheTgtSessionAt tgt now) List.prefix_rfl
  | storeRenewed => exact serves_storeRenewed
  | clearServiceTicketCache hissued =>
    obtain ⟨tgt, hissued⟩ := hissued
    exact .of_empty rfl rfl ⟨tgt, hissued.issuedIn⟩ List.prefix_rfl
  | loggedIn session now _ hissued => exact .of_empty rfl rfl ⟨session, hissued.issuedIn⟩ List.prefix_rfl

theorem Acts.serves {S : Scope} (hmatches : ∀ stored,
      s.1.serviceTickets[serviceCacheKey S.target]? = some stored → principalMatches stored.service S.target = true)
    (h : Acts W.logged P R S s s') : Serves P R S.target s s' := by
  induction h with
  | refl => exact .of_eq rfl rfl List.prefix_rfl
  | tail _ hact ih => exact ih.trans (hact.serves (ih.matches hmatches))

end Serves

section Cache

inductive TicketOperation
  | cacheServiceTicket (ticket : TgsRepSession)
  | getServiceTicket (service : Principal)
  | removeCachedServiceTicket (service : Principal)
  | pruneUnusableSessions
  | clearServiceTicketCache

namespace TicketOperation

def run : TicketOperation → ClientProgram ω Unit
  | cacheServiceTicket ticket => TokioClient.cacheServiceTicket W ticket
  | getServiceTicket service => ignore (TokioClient.getServiceTicket W P R service)
  | removeCachedServiceTicket service => .update fun c ↦ (c.removeCachedServiceTicket service).2
  | pruneUnusableSessions => ignore (TokioClient.pruneUnusableSessions W)
  | clearServiceTicketCache => .update TokioClient.clearServiceTicketCache

/-- The service that an operation is about. -/
def target (c : TokioClient) : TicketOperation → Option Principal
  | cacheServiceTicket ticket => some ticket.service
  | getServiceTicket service | removeCachedServiceTicket service => some (c.resolveServicePrincipal service)
  | pruneUnusableSessions | clearServiceTicketCache => none

/-- A ticket that an operation may put into the cache: the one that it is given, or one that it has
fetched from a KDC. -/
inductive Puts (c : TokioClient) (log : List Exchange) : TicketOperation → TgsRepSession → Prop
  | given (ticket : TgsRepSession) : Puts c log (.cacheServiceTicket ticket) ticket
  | fetched {service : Principal} {ticket : TgsRepSession}
    (h : FetchedIn P R (c.resolveServicePrincipal service) log ticket) : Puts c log (.getServiceTicket service) ticket

end TicketOperation

/-- One operation about a service without a NUL, from whatever the world has become since the last one,
with the tickets that have been put into the cache so far. -/
def TicketStep (s s' : TokioClient × Set TgsRepSession) : Prop :=
  ∃ (op : TicketOperation) (w : ω), (∀ principal, op.target s.1 = some principal → NulFree principal) ∧
    s'.1 = ((op.run W.logged P R).exec (s.1, w, [])).2.1 ∧
    s'.2 = s.2 ∪ {ticket | op.Puts P R s.1 ((op.run W.logged P R).exec (s.1, w, [])).2.2.2 ticket}

def heldTickets (c : TokioClient) : Set TgsRepSession :=
  {ticket | ∃ key : String, c.serviceTickets[key]? = some ticket}

/-- Every ticket in the cache was put there, in the place of its own service. -/
structure CachedFrom (cached : Set TgsRepSession) (c : TokioClient) : Prop where
  coherent : c.Coherent
  mem : ∀ (key : String) (ticket : TgsRepSession), c.serviceTickets[key]? = some ticket → ticket ∈ cached
  keyed : c.TicketsKeyed
  nulFree : ∀ ticket ∈ cached, NulFree ticket.service

/-- A ticket that was put into the cache for a service, handed out for it while it is valid. -/
def HandsOut (cached : Set TgsRepSession) (target : Principal) (now : SystemTime) (ticket : TgsRepSession) : Prop :=
  ∃ stored ∈ cached, stored.service.realm = target.realm ∧ stored.service.components = target.components ∧
    ticket = { stored with service := target } ∧ stored.startTime ≤ now ∧ now < stored.endTime

section Steps

variable {W P R} {c : TokioClient} {cached cached' : Set TgsRepSession} {target : Principal} {now : SystemTime}
  {ticket : TgsRepSession}

theorem CachedFrom.matches (h : CachedFrom cached c) (htarget : NulFree target) {stored : TgsRepSession}
    (hstored : c.serviceTickets[serviceCacheKey target]? = some stored) :
    principalMatches stored.service target = true :=
  (serviceCacheKey_eq_iff (h.nulFree stored (h.mem _ _ hstored)) htarget).mp (h.keyed _ _ hstored)

theorem CachedFrom.handsOut (h : CachedFrom cached c) (htarget : NulFree target)
    (hhit : c.HitIn target now ticket) : HandsOut cached target now ticket := by
  obtain ⟨stored, hstored, hvalid, rfl⟩ := hhit
  obtain ⟨hrealm, hcomponents⟩ := principalMatches_iff.mp (h.matches htarget hstored)
  rw [sessionValidAt, decide_eq_true_eq] at hvalid
  exact ⟨stored, h.mem _ _ hstored, hrealm, hcomponents, rfl, hvalid⟩

theorem CachedFrom.of_subset {c' : TokioClient} (h : CachedFrom cached c) (hcoherent : c'.Coherent)
    (hcached : cached ⊆ cached') (hnulFree : ∀ ticket ∈ cached', NulFree ticket.service)
    (hsub : ∀ (key : String) (ticket : TgsRepSession),
      c'.serviceTickets[key]? = some ticket → c.serviceTickets[key]? = some ticket) : CachedFrom cached' c' :=
  ⟨hcoherent, fun key ticket ht ↦ hcached (h.mem key ticket (hsub key ticket ht)), h.keyed.of_subset hsub, hnulFree⟩

theorem exec_ignore {α : Type} (x : ClientProgram ω α) (s : TokioClient × ω) :
    ((ignore x).exec s).2 = (x.exec s).2 := by
  rw [ignore, Program.exec_bind]
  rcases x.exec s with ⟨e | a, s'⟩ <;> rfl

theorem nulFree_of_puts {op : TicketOperation} {log : List Exchange}
    (hop : ∀ principal, op.target c = some principal → NulFree principal) (h : op.Puts P R c log ticket) :
    NulFree ticket.service := by
  cases h with
  | given => exact hop _ rfl
  | fetched h => exact (hop _ rfl).of_matches h.service_eq

/-- The operations that are among those of a client keep what those keep. -/
theorem CachedFrom.of_operation (h : CachedFrom cached c) (op : Operation) (w : ω × List Exchange)
    {c' : TokioClient} (hc' : c' = ((op.run W.logged P R).exec (c, w)).2.1) : c'.Coherent ∧ c'.TicketsKeyed := by
  subst hc'
  have hcovers := h.coherent.covers (op.target c)
  have hevents := (op.events (W := W.logged) (P := P) (R := R) hcovers (op.brings_any c) (fun _ ↦ trivial) rfl w).1
  refine ⟨(hcovers.happens hevents.happens).coherent, ?_⟩
  exact invariant_of_step (fun s : TokioClient × ω × List Exchange ↦ s.1.TicketsKeyed) (fun _ _ hk h ↦ hk.event h)
    h.keyed hevents

/-- A request for a ticket returns one that was found or one that a KDC has given for the service. -/
theorem CachedFrom.serves (h : CachedFrom cached c) {service : Principal}
    (hservice : NulFree (c.resolveServicePrincipal service)) (w : ω) :
    Serves P R (c.resolveServicePrincipal service) (c, w, [])
        ((getServiceTicket W.logged P R service).exec (c, w, [])).2 ∧
      ∀ ticket, ((getServiceTicket W.logged P R service).exec (c, w, [])).1 = .ok ticket →
        c.HitIn (c.resolveServicePrincipal service) (W.now w).1 ticket ∨
          FetchedIn P R (c.resolveServicePrincipal service)
            ((getServiceTicket W.logged P R service).exec (c, w, [])).2.2.2 ticket := by
  have hcovers := h.coherent.covers (c.resolveServicePrincipal service)
  have hrun := runs_getServiceTicket_any (W := W.logged) (P := P) (R := R) (c, w, []) service
  refine ⟨Acts.serves (fun _ ↦ h.matches hservice) (hrun _ ⟨hcovers, rfl⟩).1, fun ticket hticket ↦ ?_⟩
  obtain ⟨-, s₀, rfl, hfound⟩ := Goes.ok hrun ⟨hcovers, rfl⟩ hticket
  exact hfound.imp_right fun hobtained ↦ Obtained.fetchedIn (s := (c, _)) (fun _ ↦ h.matches hservice) hobtained

theorem CachedFrom.step {s s' : TokioClient × Set TgsRepSession} (h : CachedFrom s.2 s.1)
    (hstep : TicketStep W P R s s') : CachedFrom s'.2 s'.1 := by
  obtain ⟨op, w, hop, hclient, hcached⟩ := hstep
  have hnulFree : ∀ ticket ∈ s'.2, NulFree ticket.service := by
    intro ticket hmem
    rw [hcached] at hmem
    exact hmem.elim (h.nulFree ticket) (nulFree_of_puts hop)
  have hsub : s.2 ⊆ s'.2 := hcached ▸ Set.subset_union_left
  cases op with
  | cacheServiceTicket ticket =>
    obtain ⟨hcoherent, hkeyed⟩ := h.of_operation (P := P) (R := R) (.cacheServiceTicket ticket) (w, []) hclient
    refine ⟨hcoherent, fun key other hother ↦ ?_, hkeyed, hnulFree⟩
    rw [hclient] at hother
    have hstored := (serviceTickets_cacheServiceTicketAt s.1 ticket (W.now w).1 key).symm.trans hother
    split at hstored
    · rcases preferredSessionAt_eq s.1.serviceTickets[key]? ticket (W.now w).1 with hnew | hold
      · rw [hcached, ← Option.some.inj hstored, hnew]
        exact .inr (.given ticket)
      · exact hsub (h.mem key other (hold.trans hstored))
    · exact hsub (h.mem key other hstored)
  | getServiceTicket service =>
    obtain ⟨hcoherent, hkeyed⟩ := h.of_operation (.getServiceTicket service) (w, []) hclient
    have hserves := (h.serves (P := P) (R := R) (W := W) (hop _ rfl) w).1
    rw [TicketOperation.run, exec_ignore] at hclient hcached
    refine ⟨hcoherent, fun key other hother ↦ ?_, hkeyed, hnulFree⟩
    rw [hclient] at hother
    by_cases hkey : key = serviceCacheKey (s.1.resolveServicePrincipal service)
    · subst hkey
      rcases hserves.own other hother with hold | hfetched
      · exact hsub (h.mem _ _ hold)
      · rw [hcached]
        exact .inr (.fetched hfetched)
    · rcases hserves.others with hsame | ⟨hnone, -⟩
      · exact hsub (h.mem key other ((hsame key hkey).symm.trans hother))
      · exact absurd ((hnone key hkey).symm.trans hother) (Option.some_ne_none _).symm
  | removeCachedServiceTicket service =>
    rw [hclient]
    refine h.of_subset ⟨h.coherent.primary, h.coherent.keyed⟩ hsub hnulFree fun key other hother ↦ ?_
    have herased := (getElem?_erase _ _ _).symm.trans hother
    split at herased
    · cases herased
    · exact herased
  | pruneUnusableSessions =>
    obtain ⟨hcoherent, -⟩ := h.of_operation (P := P) (R := R) .pruneUnusableSessions (w, []) hclient
    refine h.of_subset hcoherent hsub hnulFree fun key other hother ↦ ?_
    rw [hclient] at hother
    have hkept := (Std.ExtTreeMap.getElem?_filter').symm.trans hother
    exact (Option.filter_eq_some_iff.mp hkept).1
  | clearServiceTicketCache =>
    rw [hclient]
    refine h.of_subset ⟨h.coherent.primary, h.coherent.keyed⟩ hsub hnulFree fun key other hother ↦ ?_
    exact absurd (Std.ExtTreeMap.getElem?_empty.symm.trans hother) (Option.some_ne_none _).symm

theorem cachedFrom_of_reachable {W' : World ω} (hreach : Reachable W' P R c)
    (hnulFree : ∀ ticket ∈ c.heldTickets, NulFree ticket.service) : CachedFrom c.heldTickets c :=
  ⟨hreach.coherent, fun key _ ht ↦ ⟨key, ht⟩, hreach.ticketsKeyed, hnulFree⟩

theorem CachedFrom.run {s s' : TokioClient × Set TgsRepSession} (h : CachedFrom s.2 s.1)
    (hrun : Relation.ReflTransGen (TicketStep W P R) s s') : CachedFrom s'.2 s'.1 :=
  invariant_of_step (fun s ↦ CachedFrom s.2 s.1) (fun _ _ h hstep ↦ h.step hstep) h hrun

theorem hitIn_of_cachedServiceTicket {service : Principal} {w : ω}
    (h : ((cachedServiceTicket W service).exec (c, w)).1 = .ok (some ticket)) :
    c.HitIn (c.resolveServicePrincipal service) (W.now w).1 ticket := by
  rw [cachedServiceTicket, Program.exec_read_bind] at h
  dsimp only at h
  cases hstored : c.serviceTickets[serviceCacheKey (c.resolveServicePrincipal service)]? with
  | none =>
    rw [hstored] at h
    cases h
  | some stored =>
    rw [hstored] at h
    change Except.ok (if sessionValidAt stored (W.now w).1 = true then
      some { stored with service := c.resolveServicePrincipal service } else none) = _ at h
    split at h
    · next hvalid => exact ⟨stored, hstored, hvalid, (Option.some.inj (Except.ok.inj h)).symm⟩
    · cases h

/-- An operation about one service leaves the place of another alone, unless the client gets a TGT of its
own on the way. -/
theorem CachedFrom.others (h : CachedFrom cached c) {op : TicketOperation} {w : ω} {other : Principal}
    (hop : op.target c = some target) (htarget : NulFree target) (hother : NulFree other)
    (hne : principalMatches target other = false) :
    ((op.run W.logged P R).exec (c, w, [])).2.1.serviceTickets[serviceCacheKey other]? =
        c.serviceTickets[serviceCacheKey other]? ∨
      (∃ service, op = .getServiceTicket service) ∧
        ((op.run W.logged P R).exec (c, w, [])).2.1.serviceTickets[serviceCacheKey other]? = none ∧
        OwnIssued P R c.client.realm ((op.run W.logged P R).exec (c, w, [])).2.2.2 := by
  have hkey : serviceCacheKey target ≠ serviceCacheKey other := by
    rw [Ne, serviceCacheKey_eq_iff htarget hother, hne]
    exact Bool.false_ne_true
  cases op with
  | cacheServiceTicket ticket =>
    obtain rfl := Option.some.inj hop
    exact .inl ((serviceTickets_cacheServiceTicketAt c ticket (W.now w).1 _).trans (if_neg hkey))
  | getServiceTicket service =>
    obtain rfl := Option.some.inj hop
    rw [TicketOperation.run, exec_ignore]
    rcases (h.serves (P := P) (R := R) (W := W) htarget w).1.others with hsame | ⟨hnone, hissued⟩
    · exact .inl (hsame _ hkey.symm)
    · exact .inr ⟨⟨service, rfl⟩, hnone _ hkey.symm, hissued⟩
  | removeCachedServiceTicket service =>
    obtain rfl := Option.some.inj hop
    exact .inl ((getElem?_erase _ _ _).trans (if_neg hkey))
  | pruneUnusableSessions => cases hop
  | clearServiceTicketCache => cases hop

end Steps

/-- After any sequence of operations about services without a NUL, a ticket that is handed out without a
KDC was put into the cache for its service and is valid, and an operation about one service does not
touch the ticket of another, unless it gets the client a TGT of its own, which empties the cache. -/
theorem tickets_of_service {c₀ c : TokioClient} {cached : Set TgsRepSession} {W' : World ω}
    (hreach : Reachable W' P R c₀) (hnulFree : ∀ ticket ∈ c₀.heldTickets, NulFree ticket.service)
    (hrun : Relation.ReflTransGen (TicketStep W P R) (c₀, c₀.heldTickets) (c, cached)) :
    (∀ service w ticket, NulFree (c.resolveServicePrincipal service) →
      ((cachedServiceTicket W service).exec (c, w)).1 = .ok (some ticket) →
        HandsOut cached (c.resolveServicePrincipal service) (W.now w).1 ticket) ∧
    (∀ service w ticket, NulFree (c.resolveServicePrincipal service) →
      ((getServiceTicket W.logged P R service).exec (c, w, [])).1 = .ok ticket →
        HandsOut cached (c.resolveServicePrincipal service) (W.now w).1 ticket ∨
          FetchedIn P R (c.resolveServicePrincipal service)
            ((getServiceTicket W.logged P R service).exec (c, w, [])).2.2.2 ticket) ∧
    ∀ (op : TicketOperation) (w : ω) (target other : Principal), op.target c = some target →
      NulFree target → NulFree other → principalMatches target other = false →
      let after := ((op.run W.logged P R).exec (c, w, [])).2
      after.1.serviceTickets[serviceCacheKey other]? = c.serviceTickets[serviceCacheKey other]? ∨
        (∃ service, op = .getServiceTicket service) ∧
          after.1.serviceTickets[serviceCacheKey other]? = none ∧ OwnIssued P R c.client.realm after.2.2 := by
  have h : CachedFrom cached c := (cachedFrom_of_reachable hreach hnulFree).run hrun
  refine ⟨fun service w ticket hservice hticket ↦ ?_, fun service w ticket hservice hticket ↦ ?_,
    fun op w target other hop htarget hother hne ↦ h.others hop htarget hother hne⟩
  · exact h.handsOut hservice (hitIn_of_cachedServiceTicket hticket)
  · exact ((h.serves hservice w).2 ticket hticket).imp_left fun hhit ↦ h.handsOut hservice hhit

end Cache

section Dropped

def fresh : TokioClient := .new bareConfig issuedTgt.client (some (.keytab aliceKeytab))

/-- A client that has a ticket for `h@A` in its cache, but no TGT. -/
def keeping : TokioClient := fresh.cacheServiceTicketAt hostSession minute

def mailService : Principal := ⟨"A", 1, ["i"]⟩

theorem keeping_reachable : Reachable issuingWorld issuedPrimitives issuedRasn keeping :=
  ⟨fresh, .new _ _ _, .single ⟨.cacheServiceTicket hostSession, (), rfl⟩⟩

theorem keeping_hostTicket :
    ((cachedServiceTicket issuingWorld hostService).exec (keeping, ())).1 = .ok (some hostSession) := by
  have hservice : keeping.resolveServicePrincipal hostService = hostService := by
    simp [resolveServicePrincipal, hostService]
  have hstored : keeping.serviceTickets[serviceCacheKey hostService]? = some hostSession :=
    Std.ExtTreeMap.getElem?_insert_self
  have hvalid : sessionValidAt hostSession minute = true := by decide
  rw [cachedServiceTicket, Program.exec_read_bind]
  dsimp only
  rw [hservice, hstored]
  change Except.ok (if sessionValidAt hostSession minute = true then _ else _) = _
  rw [if_pos hvalid]
  rfl

theorem keeping_getServiceTicket :
    ((getServiceTicket issuingWorld issuedPrimitives issuedRasn mailService).exec (keeping, ())).2 =
      (keeping.loggedIn issuedTgt, ()) := by
  have hservice : keeping.resolveServicePrincipal mailService = mailService := by
    simp [resolveServicePrincipal, mailService]
  have hkey : serviceCacheKey hostSession.service ≠ serviceCacheKey mailService := by decide +kernel
  have hnone : keeping.serviceTickets[serviceCacheKey mailService]? = none := by
    rw [keeping, serviceTickets_cacheServiceTicketAt, if_neg hkey]
    exact Std.ExtTreeMap.getElem?_empty
  have hcached : (cachedOrRenewedTicket issuingWorld issuedPrimitives issuedRasn mailService).exec (keeping, ()) =
      (.ok none, keeping, ()) := by
    rw [cachedOrRenewedTicket, Program.exec_read_bind, hnone]
    rfl
  have htgt : (startingTgt issuingWorld issuedPrimitives issuedRasn mailService.realm).exec (keeping, ()) =
      (.ok issuedTgt, keeping.loggedIn issuedTgt, ()) := by
    have hsession : keeping.tgtSessions[mailService.realm]? = none := Std.ExtTreeMap.getElem?_empty
    have hfound : (cachedTgtSessionForRealm issuingWorld mailService.realm).exec (keeping, ()) =
        (.ok none, keeping, ()) := by
      rw [cachedTgtSessionForRealm, Program.exec_read_bind, hsession]
      rfl
    have hlogin : (ensureTgt issuingWorld issuedPrimitives issuedRasn).exec (keeping, ()) =
        (.ok issuedTgt, keeping.loggedIn issuedTgt, ()) := by
      have hexchange : (asExchange issuingWorld issuedPrimitives issuedRasn (.keytab aliceKeytab)).exec
          (keeping, ()) = (.ok issuedTgt, keeping, ()) :=
        issued_exchange (fun _ ↦ rfl) (fun _ ↦ rfl) issuingWorld_login rfl rfl rfl rfl
      have hno : keeping.tgt = none := rfl
      have hpossible : keeping.credentials = some (.keytab aliceKeytab) := rfl
      rw [ensureTgt, Program.exec_read_bind, hno]
      dsimp only
      rw [loginIfPossible, Program.exec_read_bind, hpossible]
      exact exec_login_issued hexchange rfl
    have hrealm : mailService.realm = keeping.client.realm := rfl
    rw [startingTgt, Program.exec_read_bind, Program.exec_bind_ok hfound]
    dsimp only
    rw [if_pos hrealm]
    exact hlogin
  have hoptions : (tgsReqOptions issuingWorld).exec (keeping.loggedIn issuedTgt, ()) =
      (.ok requestOptions, keeping.loggedIn issuedTgt, ()) := rfl
  have hrefused : (getServiceTicketWithReferralTrace issuingWorld issuedPrimitives issuedRasn bareConfig
      issuedTgt mailService requestOptions).exec () = (.error (.encode "KDC-REQ-BODY" "unknown value"), ()) := by
    decide +kernel
  rw [getServiceTicket, Program.exec_read_bind, hservice, Program.exec_bind_ok hcached]
  dsimp only
  rw [Program.exec_bind_ok htgt, Program.exec_bind_ok hoptions, Program.exec_bind, outside, Program.onSnd,
    Program.exec_ofExec]
  have hconfig : keeping.config = bareConfig := rfl
  rw [hconfig, hrefused]
  rfl

/-- Asking for a ticket for `i@A` makes the client log in, and the ticket for `h@A` is lost. -/
theorem ticket_dropped : Reachable issuingWorld issuedPrimitives issuedRasn keeping ∧
    NulFree hostService ∧ NulFree mailService ∧ principalMatches mailService hostService = false ∧
    ((cachedServiceTicket issuingWorld hostService).exec (keeping, ())).1 = .ok (some hostSession) ∧
    ((cachedServiceTicket issuingWorld hostService).exec
      ((getServiceTicket issuingWorld issuedPrimitives issuedRasn mailService).exec (keeping, ())).2).1 =
        .ok none := by
  refine ⟨keeping_reachable, by decide +kernel, by decide, by decide +kernel, keeping_hostTicket, ?_⟩
  have hservice : (keeping.loggedIn issuedTgt).resolveServicePrincipal hostService = hostService := by
    simp [resolveServicePrincipal, hostService]
  have hnone : (keeping.loggedIn issuedTgt).serviceTickets[serviceCacheKey hostService]? = none :=
    Std.ExtTreeMap.getElem?_empty
  rw [keeping_getServiceTicket, cachedServiceTicket, Program.exec_read_bind, hservice]
  dsimp only
  rw [hnone]
  rfl

theorem tickets_of_service_host :
    HandsOut (fresh.heldTickets ∪ {ticket | (TicketOperation.cacheServiceTicket hostSession).Puts issuedPrimitives
      issuedRasn fresh [] ticket}) (keeping.resolveServicePrincipal hostService) minute hostSession := by
  have hheld : ∀ ticket ∈ fresh.heldTickets, NulFree ticket.service := by
    intro ticket h
    obtain ⟨key, hticket⟩ := h
    exact absurd (Std.ExtTreeMap.getElem?_empty.symm.trans hticket) (Option.some_ne_none _).symm
  have hservice : keeping.resolveServicePrincipal hostService = hostService := by
    simp [resolveServicePrincipal, hostService]
  have hstep : TicketStep issuingWorld issuedPrimitives issuedRasn (fresh, fresh.heldTickets)
      (keeping, fresh.heldTickets ∪ {ticket | (TicketOperation.cacheServiceTicket hostSession).Puts
        issuedPrimitives issuedRasn fresh [] ticket}) := by
    refine ⟨.cacheServiceTicket hostSession, (), fun principal htarget ↦ ?_, rfl, rfl⟩
    obtain rfl := Option.some.inj htarget
    decide +kernel
  have hhost : NulFree (keeping.resolveServicePrincipal hostService) := by
    rw [hservice]
    decide +kernel
  have hfresh : Reachable issuingWorld issuedPrimitives issuedRasn fresh := ⟨fresh, .new _ _ _, .refl⟩
  exact (tickets_of_service issuingWorld issuedPrimitives issuedRasn hfresh hheld
    (.single hstep)).1 hostService () hostSession hhost keeping_hostTicket

end Dropped

end TokioClient

end Rskrb5.Client
