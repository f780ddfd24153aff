import Rskrb5.Client.Sessions

namespace Rskrb5.Client

open Lib.Results Lib.Programs Lib.Readers Crypto FileFormat

section Saving

def systemTimeToU32Seconds (time : SystemTime) : Except Error UInt32 := do
  let (seconds, nanos) ← okOr (unixTimestampParts time) .timeOverflow
  ensure (¬ (seconds < 0 ∨ nanos ≠ 0)) .timeOverflow
  okOr (integerToU32 seconds) .timeOverflow

def AsRepSession.toCcacheCredential (session : AsRepSession) : Except Error CCache.Credential := do
  let authTime ← systemTimeToU32Seconds session.authTime
  let startTime ← systemTimeToU32Seconds session.startTime
  let endTime ← systemTimeToU32Seconds session.endTime
  let renewTill ← session.renewTill.mapM systemTimeToU32Seconds
  return {
    client := session.client
    server := session.service
    key := session.sessionKey
    times := { authTime, startTime, endTime, renewTill := renewTill.getD 0 }
    isSkey := false
    ticketFlags := session.ticketFlags
    addresses := []
    authData := []
    ticket := session.ticket
    secondTicket := [] }

namespace TokioClient

variable (c : TokioClient)

/-- The sessions in the order in which they are saved. -/
def savedSessions : List AsRepSession :=
  let tgts := if c.tgtSessions.isEmpty then c.tgt.toList else c.tgtSessions.toList.map Prod.snd
  tgts ++ c.serviceTickets.toList.map Prod.snd

def ccacheCredentials : Except Error (List CCache.Credential) :=
  c.savedSessions.mapM AsRepSession.toCcacheCredential

def toCcache : Except Error CCache.File := do
  let credentials ← c.ccacheCredentials
  return credentials.foldl (fun file credential ↦ (file.upsertCredential credential).2) (.new c.client)

end TokioClient

end Saving

section Credentials

/-- A session of a client that a credential has room for. -/
structure AsRepSession.Saveable (client : Principal) (session : AsRepSession) : Prop where
  client : TokioClient.sameCcacheClientIdentity session.client client = true
  authTime : ∃ n, session.authTime = TokioClient.systemTimeFromU32Seconds n
  startTime : ∃ n, n ≠ 0 ∧ session.startTime = TokioClient.systemTimeFromU32Seconds n
  endTime : ∃ n, session.endTime = TokioClient.systemTimeFromU32Seconds n
  renewTill : ∀ t ∈ session.renewTill, ∃ n, n ≠ 0 ∧ t = TokioClient.systemTimeFromU32Seconds n
  keyExpiration : session.keyExpiration = none
  etype : -2 ^ 15 ≤ session.sessionKey.etype.toInt ∧ session.sessionKey.etype.toInt < 2 ^ 15

theorem unixTimestampParts_ofU32 (n : UInt32) :
    unixTimestampParts (TokioClient.systemTimeFromU32Seconds n) = some ((n.toNat : ℤ), 0) := by
  have hlt := n.toNat_lt
  refine unixTimestampParts_of_nanos (by omega) (by decide) ?_
  simp [TokioClient.systemTimeFromU32Seconds]

theorem systemTimeToU32Seconds_of_parts {time : SystemTime} {n : UInt32}
    (h : unixTimestampParts time = some ((n.toNat : ℤ), 0)) : systemTimeToU32Seconds time = .ok n := by
  have hn : ¬ ((n.toNat : ℤ) < 0 ∨ (0 : ℕ) ≠ 0) := by omega
  simp only [systemTimeToU32Seconds, bind_eq_ok, okOr_eq_ok, h]
  exact ⟨_, rfl, (), ensure_of hn _, integerToU32_ofNat n⟩

theorem systemTimeToU32Seconds_ofU32 (n : UInt32) :
    systemTimeToU32Seconds (TokioClient.systemTimeFromU32Seconds n) = .ok n :=
  systemTimeToU32Seconds_of_parts (unixTimestampParts_ofU32 n)

def credentialWithTimes (session : AsRepSession) (times : CCache.CredentialTimes) : CCache.Credential where
  client := session.client
  server := session.service
  key := session.sessionKey
  times := times
  isSkey := false
  ticketFlags := session.ticketFlags
  addresses := []
  authData := []
  ticket := session.ticket
  secondTicket := []

theorem toCcacheCredential_of_times {session : AsRepSession} {a s e : UInt32} {r : Option UInt32}
    (ha : systemTimeToU32Seconds session.authTime = .ok a)
    (hs : systemTimeToU32Seconds session.startTime = .ok s)
    (he : systemTimeToU32Seconds session.endTime = .ok e)
    (hr : session.renewTill.mapM systemTimeToU32Seconds = .ok r) :
    session.toCcacheCredential = .ok (credentialWithTimes session ⟨a, s, e, r.getD 0⟩) := by
  simp only [AsRepSession.toCcacheCredential, ha, hs, he, hr, ok_bind]
  rfl

theorem exists_renewTill {renewTill : Option SystemTime}
    (h : ∀ t ∈ renewTill, ∃ n, n ≠ 0 ∧ t = TokioClient.systemTimeFromU32Seconds n) :
    ∃ r : Option UInt32, renewTill.mapM systemTimeToU32Seconds = .ok r ∧
      (if r.getD 0 = 0 then none else some (TokioClient.systemTimeFromU32Seconds (r.getD 0))) = renewTill := by
  cases renewTill with
  | none => exact ⟨none, rfl, rfl⟩
  | some t =>
    obtain ⟨n, hn, ht⟩ := h t rfl
    have hto : systemTimeToU32Seconds t = .ok n := ht ▸ systemTimeToU32Seconds_ofU32 n
    refine ⟨some n, ?_, ?_⟩
    · rw [Option.mapM_some, hto]
      rfl
    · rw [Option.getD_some, if_neg hn, ht]

/-- The credential of a session that can be saved reads back as the session. -/
theorem AsRepSession.Saveable.toCcacheCredential {client : Principal} {session : AsRepSession}
    (h : session.Saveable client) :
    ∃ times, session.toCcacheCredential = .ok (credentialWithTimes session times) ∧
      TokioClient.ccacheCredentialSession (credentialWithTimes session times) = session := by
  obtain ⟨a, ha⟩ := h.authTime
  obtain ⟨s, hs, hs'⟩ := h.startTime
  obtain ⟨e, he⟩ := h.endTime
  obtain ⟨r, hr, hr'⟩ := exists_renewTill h.renewTill
  refine ⟨⟨a, s, e, r.getD 0⟩, toCcacheCredential_of_times ?_ ?_ ?_ hr, ?_⟩
  · exact ha ▸ systemTimeToU32Seconds_ofU32 a
  · exact hs' ▸ systemTimeToU32Seconds_ofU32 s
  · exact he ▸ systemTimeToU32Seconds_ofU32 e
  · have hread : TokioClient.ccacheCredentialSession (credentialWithTimes session ⟨a, s, e, r.getD 0⟩) =
        { session with
          authTime := TokioClient.systemTimeFromU32Seconds a
          startTime := TokioClient.systemTimeFromU32Seconds (if s = 0 then a else s)
          endTime := TokioClient.systemTimeFromU32Seconds e
          renewTill :=
            if r.getD 0 = 0 then none else some (TokioClient.systemTimeFromU32Seconds (r.getD 0))
          keyExpiration := none } := rfl
    rw [hread, if_neg hs, hr', ← ha, ← hs', ← he, ← h.keyExpiration]

end Credentials

namespace TokioClient

section Slots

/-- The place where a client keeps a session. -/
inductive Slot
  | tgt (realm : String)
  | ticket (key : String)
  deriving DecidableEq

def slotOf (session : AsRepSession) : Slot :=
  match tgtRealm session with
  | some realm => .tgt realm
  | none => .ticket (serviceCacheKey session.service)

def lookup (c : TokioClient) : Slot → Option AsRepSession
  | .tgt realm => c.tgtSessions[realm]?
  | .ticket key => c.serviceTickets[key]?

/-- A client that has exactly the given sessions, each in its place. -/
def Holds (c : TokioClient) (sessions : List AsRepSession) : Prop :=
  ∀ slot session, c.lookup slot = some session ↔ session ∈ sessions ∧ slotOf session = slot

def TicketsKeyed (c : TokioClient) : Prop :=
  ∀ key ticket, c.serviceTickets[key]? = some ticket → serviceCacheKey ticket.service = key

/-- What a load does with a session, at the time that the clock gives then. -/
def storeAt (c : TokioClient) (session : AsRepSession) (now : SystemTime) : TokioClient :=
  if isTgtPrincipal session.service then (c.cacheTgtSessionAt session now).2
  else c.cacheServiceTicketAt session now

variable {c : TokioClient} {session : AsRepSession}

theorem slotOf_of_isTgtPrincipal (h : isTgtPrincipal session.service = true) :
    ∃ realm, tgtRealm session = some realm ∧ slotOf session = .tgt realm := by
  have hne : session.service.components ≠ [] := by
    intro hnil
    simp [isTgtPrincipal, hnil] at h
  have hrealm : tgtRealm session = some (session.service.components.getLast hne) := by
    rw [tgtRealm, if_pos h, List.getLast?_eq_some_getLast hne]
  exact ⟨_, hrealm, by rw [slotOf, hrealm]⟩

theorem slotOf_of_not_isTgtPrincipal (h : isTgtPrincipal session.service = false) :
    slotOf session = .ticket (serviceCacheKey session.service) := by
  rw [slotOf, tgtRealm, h]
  rfl

theorem slotOf_of_tgtRealm {realm : String} (h : tgtRealm session = some realm) :
    slotOf session = .tgt realm := by
  rw [slotOf, h]

/-- The place of a session depends on its service alone. -/
theorem slotOf_eq_of_service {session' : AsRepSession} (h : session.service = session'.service) :
    slotOf session = slotOf session' := by
  rw [slotOf, slotOf, tgtRealm, tgtRealm, h]

theorem lookup_storeAt (hc : c.Coherent) (hfree : c.lookup (slotOf session) = none) (now : SystemTime)
    (slot : Slot) :
    (c.storeAt session now).lookup slot = if slotOf session = slot then some session else c.lookup slot := by
  cases ht : isTgtPrincipal session.service with
  | false =>
    rw [slotOf_of_not_isTgtPrincipal ht] at hfree ⊢
    have hnone : c.serviceTickets[serviceCacheKey session.service]? = none := hfree
    simp only [storeAt, ht, Bool.false_eq_true, if_false, cacheServiceTicketAt, hnone, preferredSessionAt]
    cases slot with
    | tgt realm => simp [lookup]
    | ticket key =>
      simp only [lookup, getElem?_insert, getElem?_erase, Slot.ticket.injEq]
      split <;> rfl
  | true =>
    obtain ⟨realm, hrealm, hslot⟩ := slotOf_of_isTgtPrincipal ht
    rw [hslot] at hfree ⊢
    have hnone : c.tgtSessions[realm]? = none := hfree
    have hstored : (c.storeAt session now).tgtSessions = (c.tgtSessions.erase realm).insert realm session ∧
        (c.storeAt session now).serviceTickets = c.serviceTickets := by
      simp only [storeAt, ht, if_true, cacheTgtSessionAt, hrealm, hnone, preferredSessionAt]
      split
      · next heq =>
        have htgt : c.tgt = none := by rw [hc.primary, ← heq, hnone]
        simp [htgt]
      · simp
    cases slot with
    | ticket key => simp [lookup, hstored]
    | tgt realm' =>
      simp only [lookup, hstored, getElem?_insert, getElem?_erase, Slot.tgt.injEq]
      split <;> rfl

theorem Holds.storeAt {sessions : List AsRepSession} (h : c.Holds sessions) (hc : c.Coherent)
    (hfree : ∀ other ∈ sessions, slotOf other ≠ slotOf session) (now : SystemTime) :
    (c.storeAt session now).Holds (sessions ++ [session]) := by
  have hnone : c.lookup (slotOf session) = none := by
    rw [Option.eq_none_iff_forall_ne_some]
    intro other hother
    obtain ⟨hm, hslot⟩ := (h _ other).mp hother
    exact hfree other hm hslot
  intro slot other
  rw [lookup_storeAt hc hnone, List.mem_append, List.mem_singleton]
  split
  · next heq =>
    subst heq
    constructor
    · intro hother
      obtain rfl := Option.some.inj hother
      exact ⟨.inr rfl, rfl⟩
    · rintro ⟨hm | rfl, hslot⟩
      · exact absurd hslot (hfree other hm)
      · rfl
  · next hne =>
    rw [h slot other]
    constructor
    · exact fun ⟨hm, hslot⟩ ↦ ⟨.inl hm, hslot⟩
    · rintro ⟨hm | rfl, hslot⟩
      · exact ⟨hm, hslot⟩
      · exact absurd hslot hne

theorem holds_new (config : Config) (client : Principal) (credentials : Option TokioClientCredentials) :
    (new config client credentials).Holds [] := by
  intro slot session
  cases slot <;> simp [lookup, new]

theorem Holds.eq {c' : TokioClient} {sessions : List AsRepSession} (h : c.Holds sessions)
    (h' : c'.Holds sessions) : c'.tgtSessions = c.tgtSessions ∧ c'.serviceTickets = c.serviceTickets := by
  have hlookup : ∀ slot, c'.lookup slot = c.lookup slot := by
    intro slot
    ext session
    exact (h' slot session).trans (h slot session).symm
  exact ⟨Std.ExtTreeMap.ext_getElem? fun realm ↦ hlookup (.tgt realm),
    Std.ExtTreeMap.ext_getElem? fun key ↦ hlookup (.ticket key)⟩

end Slots

section Keys

variable {c c' : TokioClient}

theorem TicketsKeyed.of_subset (h : c.TicketsKeyed)
    (hsub : ∀ (key : String) (ticket : TgsRepSession),
      c'.serviceTickets[key]? = some ticket → c.serviceTickets[key]? = some ticket) : c'.TicketsKeyed :=
  fun key ticket ht ↦ h key ticket (hsub key ticket ht)

theorem TicketsKeyed.of_eq (h : c.TicketsKeyed) (heq : c'.serviceTickets = c.serviceTickets) :
    c'.TicketsKeyed :=
  h.of_subset fun _ _ ht ↦ heq ▸ ht

theorem serviceTickets_cacheTgtSessionAt (tgt : AsRepSession) (now : SystemTime) :
    (c.cacheTgtSessionAt tgt now).2.serviceTickets = c.serviceTickets := by
  simp only [cacheTgtSessionAt]
  split
  · rfl
  · split <;> rfl

theorem serviceTickets_storeRenewed (renewed : AsRepSession) (realm : String) :
    (c.storeRenewed renewed realm).serviceTickets = c.serviceTickets := by
  simp only [storeRenewed]
  split <;> rfl

theorem serviceTickets_removeTgtSessionForRealm (realm : String) :
    (c.removeTgtSessionForRealm realm).2.serviceTickets = c.serviceTickets := by
  simp only [removeTgtSessionForRealm]
  split <;> rfl

theorem ticketsKeyed_cacheServiceTicketAt (h : c.TicketsKeyed) (ticket : TgsRepSession) (now : SystemTime) :
    (c.cacheServiceTicketAt ticket now).TicketsKeyed := by
  intro key other hother
  simp only [cacheServiceTicketAt, getElem?_insert, getElem?_erase] at hother
  split at hother
  · next hkey =>
    obtain rfl := Option.some.inj hother
    rcases preferredSessionAt_eq c.serviceTickets[serviceCacheKey ticket.service]? ticket now with hp | hp
    · rw [hp, hkey]
    · rw [h _ _ hp, hkey]
  · exact h key other hother

variable {ω : Type} {W : World ω} {P : Primitives} {R : Rasn}

theorem TicketsKeyed.act {S : Scope} {s s' : TokioClient × ω} (h : s.1.TicketsKeyed) (hact : Act W P R S s s') :
    s'.1.TicketsKeyed := by
  cases hact with
  | wait => exact h
  | cacheServiceTicketAt ticket now => exact ticketsKeyed_cacheServiceTicketAt h ticket now
  | cacheTgtSessionAt tgt now => exact h.of_eq (serviceTickets_cacheTgtSessionAt tgt now)
  | storeRenewed renewed realm => exact h.of_eq (serviceTickets_storeRenewed renewed realm)
  | clearServiceTicketCache => exact h.of_subset fun _ _ ht ↦ by simp [clearServiceTicketCache] at ht
  | loggedIn session now => exact h.of_subset fun _ _ ht ↦ by simp [loggedIn, clearServiceTicketCache] at ht

theorem TicketsKeyed.direct {kind : AsRepSession → Prop} (h : c.TicketsKeyed) (hdirect : Direct kind c c') :
    c'.TicketsKeyed := by
  cases hdirect with
  | cacheServiceTicketAt ticket now => exact ticketsKeyed_cacheServiceTicketAt h ticket now
  | removeTgtSessionForRealm realm => exact h.of_eq (serviceTickets_removeTgtSessionForRealm realm)
  | removeCachedServiceTicket service =>
    refine h.of_subset fun key ticket ht ↦ ?_
    have herased := (getElem?_erase _ _ _).symm.trans ht
    split at herased
    · cases herased
    · exact herased
  | pruneUnusableSessionsAt now =>
    refine h.of_subset fun key ticket ht ↦ ?_
    simp only [pruneUnusableSessionsAt, Std.ExtTreeMap.getElem?_filter', Option.filter_eq_some_iff] at ht
    exact ht.1
  | clearServiceTicketCache => exact h.of_subset fun _ _ ht ↦ by simp [clearServiceTicketCache] at ht
  | destroy => exact h.of_subset fun _ _ ht ↦ by simp [destroy] at ht
  | configured => exact h.of_eq rfl

theorem TicketsKeyed.event {S : Scope} {s s' : TokioClient × ω} (h : s.1.TicketsKeyed) (hevent : Event W P R S s s') :
    s'.1.TicketsKeyed := by
  cases hevent with
  | act hact => exact h.act hact
  | direct hdirect => exact h.direct hdirect

theorem Reachable.ticketsKeyed (h : Reachable W P R c) : c.TicketsKeyed := by
  refine (h.invariant (fun _ _ _ _ _ ht ↦ by simp [new] at ht) fun S c c' hc hhappens ↦ ?_).1
  obtain ⟨w, w', hevent⟩ := hhappens
  exact TicketsKeyed.event (s := (c, w)) hc hevent

end Keys

section Sessions

variable {c : TokioClient}

theorem savedSessions_eq (hc : c.Coherent) : c.savedSessions =
    c.tgtSessions.toList.map Prod.snd ++ c.serviceTickets.toList.map Prod.snd := by
  simp only [savedSessions]
  split
  · next hempty =>
    have heq := Std.ExtTreeMap.isEmpty_iff.mp hempty
    simp [hc.primary, heq]
  · rfl

theorem mem_map_snd {t : Std.ExtTreeMap String AsRepSession} {session : AsRepSession} :
    session ∈ t.toList.map Prod.snd ↔ ∃ key : String, t[key]? = some session := by
  simp only [List.mem_map, Prod.exists, exists_eq_right, Std.ExtTreeMap.mem_toList_iff_getElem?_eq_some]

theorem mem_savedSessions (hc : c.Coherent) {session : AsRepSession} :
    session ∈ c.savedSessions ↔ ∃ slot, c.lookup slot = some session := by
  rw [savedSessions_eq hc, List.mem_append, mem_map_snd, mem_map_snd]
  constructor
  · rintro (⟨realm, h⟩ | ⟨key, h⟩)
    · exact ⟨.tgt realm, h⟩
    · exact ⟨.ticket key, h⟩
  · rintro ⟨realm | key, h⟩
    · exact .inl ⟨realm, h⟩
    · exact .inr ⟨key, h⟩

/-- Every session is in the place that its service gives it. -/
def Placed (c : TokioClient) : Prop := ∀ slot session, c.lookup slot = some session → slotOf session = slot

theorem Coherent.placed (hc : c.Coherent) (hk : c.TicketsKeyed)
    (ht : ∀ (key : String) (ticket : TgsRepSession),
      c.serviceTickets[key]? = some ticket → isTgtPrincipal ticket.service = false) : c.Placed := by
  intro slot session h
  cases slot with
  | tgt realm => exact slotOf_of_tgtRealm (hc.keyed realm session h)
  | ticket key => rw [slotOf_of_not_isTgtPrincipal (ht key session h), hk key session h]

theorem holds_savedSessions (hc : c.Coherent) (hp : c.Placed) : c.Holds c.savedSessions := by
  intro slot session
  rw [mem_savedSessions hc]
  constructor
  · exact fun h ↦ ⟨⟨slot, h⟩, hp slot session h⟩
  · intro h
    obtain ⟨⟨slot', h⟩, rfl⟩ := h
    rwa [hp slot' session h]

theorem pairwise_map_snd {t : Std.ExtTreeMap String AsRepSession} {place : String → Slot}
    (hinj : Function.Injective place)
    (h : ∀ (key : String) (session : AsRepSession), t[key]? = some session → slotOf session = place key) :
    (t.toList.map Prod.snd).Pairwise fun a b ↦ slotOf a ≠ slotOf b := by
  rw [List.pairwise_map]
  refine Std.ExtTreeMap.distinct_keys_toList.imp_of_mem fun {a b} ha hb hne heq ↦ hne ?_
  rw [h a.1 a.2 (Std.ExtTreeMap.mem_toList_iff_getElem?_eq_some.mp ha),
    h b.1 b.2 (Std.ExtTreeMap.mem_toList_iff_getElem?_eq_some.mp hb)] at heq
  exact Std.compare_eq_iff_eq.mpr (hinj heq)

theorem pairwise_savedSessions (hc : c.Coherent) (hp : c.Placed) :
    c.savedSessions.Pairwise fun a b ↦ slotOf a ≠ slotOf b := by
  rw [savedSessions_eq hc, List.pairwise_append]
  refine ⟨pairwise_map_snd (fun _ _ ↦ Slot.tgt.inj) fun realm session h ↦ hp (.tgt realm) session h,
    pairwise_map_snd (fun _ _ ↦ Slot.ticket.inj) fun key session h ↦ hp (.ticket key) session h, ?_⟩
  intro tgt htgt ticket hticket
  obtain ⟨realm, htgt⟩ := mem_map_snd.mp htgt
  obtain ⟨key, hticket⟩ := mem_map_snd.mp hticket
  rw [hp (.tgt realm) tgt htgt, hp (.ticket key) ticket hticket]
  exact nofun

end Sessions

section Loading

variable {ω : Type} (W : World ω) {c : TokioClient} {p : Principal}

theorem held_storeAt (h : Held p c) (session : AsRepSession) (now : SystemTime) :
    Held p (c.storeAt session now) := by
  rw [storeAt]
  split
  · obtain ⟨hc, hclient⟩ := coherent_cacheTgtSessionAt h.coherent session now
    exact ⟨hc, hclient.trans h.client_eq⟩
  · exact h.of_sessions rfl rfl rfl

theorem exec_loadCredential {cache : CCache} {credential : CCache.Credential}
    (h : sameCcacheClientIdentity credential.client cache.defaultPrincipal = true) (now : SystemTime) (w : ω) :
    ∃ now' w', (loadCredential W cache now credential).exec (c, w) =
      (.ok (), (c.storeAt (ccacheCredentialSession credential) now', w')) := by
  simp only [loadCredential, h, if_true, storeAt]
  split
  · exact ⟨now, w, rfl⟩
  · exact ⟨(W.now w).1, (W.now w).2, rfl⟩

/-- Loading adds sessions to what the client holds, whatever the clock gives on the way. -/
theorem exec_loadCredentials {cache : CCache} {credentials : List CCache.Credential}
    {before : List AsRepSession}
    (hsame : ∀ credential ∈ credentials,
      sameCcacheClientIdentity credential.client cache.defaultPrincipal = true)
    (hdistinct : (before ++ credentials.map ccacheCredentialSession).Pairwise
      fun a b ↦ slotOf a ≠ slotOf b)
    (hheld : Held p c) (hbefore : c.Holds before) (now : SystemTime) (w : ω) :
    ∃ c' w', (loadCredentials W cache now credentials).exec (c, w) = (.ok (), (c', w')) ∧ Held p c' ∧
      c'.Holds (before ++ credentials.map ccacheCredentialSession) := by
  induction credentials generalizing before c w with
  | nil => exact ⟨c, w, rfl, hheld, by simpa using hbefore⟩
  | cons credential credentials ih =>
    obtain ⟨now', w', hload⟩ := exec_loadCredential W (hsame credential List.mem_cons_self) (c := c) now w
    have hfree : ∀ other ∈ before, slotOf other ≠ slotOf (ccacheCredentialSession credential) :=
      fun other hm ↦ (List.pairwise_append.mp hdistinct).2.2 other hm _ List.mem_cons_self
    have hstored := hbefore.storeAt hheld.coherent hfree now'
    obtain ⟨c', w'', hrest, hheld', hholds⟩ := ih
      (fun other hm ↦ hsame other (List.mem_cons_of_mem credential hm)) (by simpa using hdistinct)
      (held_storeAt hheld _ now') hstored w'
    refine ⟨c', w'', ?_, hheld', by simpa using hholds⟩
    rw [loadCredentials, Program.exec_bind_ok hload]
    exact hrest

end Loading

section Reloads

def isConfigService (service : Principal) : Bool :=
  service.realm = CCache.xCacheconfRealm ∧
    (service.components.length = 2 ∨ service.components.length = 3) ∧
    service.components.head? = some CCache.xCacheconfComponent

/-- A client of which a cache has room for every session, and that has no service ticket that a
cache keeps for something else. -/
structure Saveable (c : TokioClient) : Prop where
  tgts : ∀ (realm : String) (tgt : AsRepSession), c.tgtSessions[realm]? = some tgt → tgt.Saveable c.client
  tickets : ∀ (key : String) (ticket : TgsRepSession), c.serviceTickets[key]? = some ticket →
    ticket.Saveable c.client ∧ isTgtPrincipal ticket.service = false ∧ isConfigService ticket.service = false

/-- A session of which every length is within the 32-bit counts of a cache file. -/
structure CountedSession (session : AsRepSession) : Prop where
  service : CCache.CountedPrincipal session.service
  key : session.sessionKey.value.length < 2 ^ 31
  ticket : session.ticket.length < 2 ^ 31

structure Counted (c : TokioClient) : Prop where
  client : CCache.CountedPrincipal c.client
  sessions : ∀ slot session, c.lookup slot = some session → CountedSession session

/-- The client can be saved and read back, and at every clock the same sessions are loaded. -/
def Reloads (target : Endian) (c : TokioClient) : Prop :=
  ∃ file bytes file', c.toCcache = .ok file ∧ file.toBytes target = .ok bytes ∧
    CCache.parse target bytes = .ok file' ∧
    ∀ (ω : Type) (W : World ω) (config : Config) (w : ω),
      (fromCcache W config file'.toCCache w).1.client = c.client ∧
      (fromCcache W config file'.toCCache w).1.tgt = c.tgt ∧
      (fromCcache W config file'.toCCache w).1.tgtSessions = c.tgtSessions ∧
      (fromCcache W config file'.toCCache w).1.serviceTickets = c.serviceTickets

variable {c : TokioClient}

theorem not_isConfigService_of_isTgtPrincipal {service : Principal} (h : isTgtPrincipal service = true) :
    isConfigService service = false := by
  have hne : eqIgnoreAsciiCase CCache.xCacheconfComponent "krbtgt" = false := by decide +kernel
  by_contra hconfig
  simp only [Bool.not_eq_false, isConfigService, decide_eq_true_eq] at hconfig
  simp [isTgtPrincipal, hconfig.2.2, hne] at h

theorem isTgtPrincipal_of_tgtRealm {session : AsRepSession} {realm : String}
    (h : tgtRealm session = some realm) : isTgtPrincipal session.service = true := by
  cases ht : isTgtPrincipal session.service with
  | true => rfl
  | false => simp [tgtRealm, ht] at h

theorem Saveable.session (h : c.Saveable) (hc : c.Coherent) {slot : Slot} {session : AsRepSession}
    (hs : c.lookup slot = some session) :
    session.Saveable c.client ∧ isConfigService session.service = false := by
  cases slot with
  | tgt realm =>
    have htgt := isTgtPrincipal_of_tgtRealm (hc.keyed realm session hs)
    exact ⟨h.tgts realm session hs, not_isConfigService_of_isTgtPrincipal htgt⟩
  | ticket key =>
    obtain ⟨hsaveable, -, hconfig⟩ := h.tickets key session hs
    exact ⟨hsaveable, hconfig⟩

/-- Every session is saved in a credential of its own, that reads back as the session. -/
theorem exists_toCcache (hc : c.Coherent) (hp : c.Placed)
    (hs : ∀ session ∈ c.savedSessions, session.Saveable c.client) :
    ∃ credentials, c.toCcache = .ok { CCache.File.new c.client with credentials } ∧
      credentials.map ccacheCredentialSession = c.savedSessions ∧
      ∀ credential ∈ credentials,
        credential = credentialWithTimes (ccacheCredentialSession credential) credential.times := by
  have hconvert : ∀ session ∈ c.savedSessions, ∃ credential,
      session.toCcacheCredential = .ok credential ∧ ccacheCredentialSession credential = session ∧
        credential = credentialWithTimes (ccacheCredentialSession credential) credential.times := by
    intro session hm
    obtain ⟨times, hok, hread⟩ := (hs session hm).toCcacheCredential
    exact ⟨_, hok, hread, by rw [hread]; rfl⟩
  obtain ⟨credentials, hok, hread, hform⟩ := exists_mapM hconvert
  refine ⟨credentials, ?_, hread, hform⟩
  have hpairwise := pairwise_savedSessions hc hp
  rw [← hread, List.pairwise_map] at hpairwise
  have hservers : credentials.Pairwise fun a b ↦ a.server ≠ b.server :=
    hpairwise.imp fun hne heq ↦ hne (slotOf_eq_of_service heq)
  have hempty : ∀ existing ∈ (CCache.File.new c.client).credentials, ∀ credential ∈ credentials,
      ¬ (existing.client = credential.client ∧ existing.server = credential.server) :=
    fun _ hm ↦ absurd hm List.not_mem_nil
  rw [toCcache, ccacheCredentials, hok, ok_bind, CCache.foldl_upsertCredential hservers hempty]
  rfl

theorem CountedSession.writeCredential {session : AsRepSession} (h : CountedSession session)
    (hclient : CCache.CountedPrincipal c.client) (hs : session.Saveable c.client)
    (times : CCache.CredentialTimes) (endian : Endian) :
    ∃ bs, CCache.writeCredential 4 endian (credentialWithTimes session times) = .ok bs := by
  have hsame := hs.client
  simp only [sameCcacheClientIdentity, decide_eq_true_eq] at hsame
  have hname : CCache.CountedPrincipal session.client := by
    obtain ⟨hrealm, hcomponents, hcomponent⟩ := hclient
    rw [← hsame.1] at hrealm
    rw [← hsame.2] at hcomponents hcomponent
    exact ⟨hrealm, hcomponents, hcomponent⟩
  exact CCache.writeCredential_of_counted endian hname h.service hs.etype h.key h.ticket rfl rfl rfl

/-- A cache that holds the sessions of a client, in whatever order it has them, is loaded as a
client with the same sessions. -/
theorem loaded_of_holds {cache : CCache} (hheld : Held cache.defaultPrincipal c)
    (hsame : ∀ credential ∈ cache.credentials,
      sameCcacheClientIdentity credential.client cache.defaultPrincipal = true)
    (hconfig : ∀ credential ∈ cache.credentials, CCache.isConfigCredential credential = false)
    (hdistinct : (cache.credentials.map ccacheCredentialSession).Pairwise fun a b ↦ slotOf a ≠ slotOf b)
    (hholds : c.Holds (cache.credentials.map ccacheCredentialSession))
    {ω : Type} (W : World ω) (config : Config) (w : ω) :
    (fromCcache W config cache w).1.client = c.client ∧
    (fromCcache W config cache w).1.tgt = c.tgt ∧
    (fromCcache W config cache w).1.tgtSessions = c.tgtSessions ∧
    (fromCcache W config cache w).1.serviceTickets = c.serviceTickets := by
  have hentries : cache.entries = cache.credentials := by
    rw [CCache.entries, List.filter_eq_self]
    intro credential hm
    rw [hconfig credential hm]
    rfl
  have hnew : Held cache.defaultPrincipal (.new config cache.defaultPrincipal none) :=
    ⟨coherent_new _ _ _, rfl⟩
  obtain ⟨c', w', hload, hheld', hholds'⟩ :=
    exec_loadCredentials W hsame hdistinct hnew (holds_new _ _ _) (W.now w).1 (W.now w).2
  have hfrom : (fromCcache W config cache w).1 = c' := by
    have hexec : (loadCcache W cache).exec (.new config cache.defaultPrincipal none, w) =
        (.ok (), (c', w')) := by
      rw [loadCcache, hentries]
      exact hload
    rw [fromCcache, hexec]
  rw [List.nil_append] at hholds'
  obtain ⟨htgts, htickets⟩ := hholds.eq hholds'
  have hclient : c'.client = c.client := hheld'.client_eq.trans hheld.client_eq.symm
  rw [hfrom]
  refine ⟨hclient, ?_, htgts, htickets⟩
  rw [hheld'.coherent.primary, hheld.coherent.primary, htgts, hclient]

theorem reloads_of_counted {target : Endian} (hc : c.Coherent) (hp : c.Placed) (hs : c.Saveable)
    (hn : c.Counted) : c.Reloads target := by
  have hsession : ∀ session ∈ c.savedSessions, session.Saveable c.client ∧
      isConfigService session.service = false ∧ CountedSession session := by
    intro session hm
    obtain ⟨slot, hslot⟩ := (mem_savedSessions hc).mp hm
    obtain ⟨hsaveable, hconfig⟩ := hs.session hc hslot
    exact ⟨hsaveable, hconfig, hn.sessions slot session hslot⟩
  obtain ⟨credentials, hto, hread, hform⟩ := exists_toCcache hc hp fun session hm ↦ (hsession session hm).1
  have hcredential : ∀ credential ∈ credentials, ccacheCredentialSession credential ∈ c.savedSessions :=
    fun credential hm ↦ hread ▸ List.mem_map_of_mem hm
  obtain ⟨bytes, hbytes⟩ : ∃ bytes,
      CCache.File.toBytes target { CCache.File.new c.client with credentials } = .ok bytes := by
    refine CCache.File.toBytes_of_counted target rfl rfl hn.client fun credential hm ↦ ?_
    obtain ⟨hsaveable, -, hcounted⟩ := hsession _ (hcredential credential hm)
    rw [hform credential hm]
    exact hcounted.writeCredential hn.client hsaveable _ _
  refine ⟨_, bytes, _, hto, hbytes, CCache.parse_toBytes ?_ hbytes, fun ω W config w ↦ ?_⟩
  · have hversions : (1 : UInt8) ≤ 4 ∧ (4 : UInt8) ≤ 4 := by decide
    have hversion : (4 : UInt8) ≠ 1 := by decide
    exact ⟨hversions, fun hne ↦ absurd rfl hne, fun h1 ↦ absurd h1 hversion, fun _ _ h1 ↦ absurd h1 hversion⟩
  · refine loaded_of_holds (c := c) ⟨hc, rfl⟩ ?_ ?_ ?_ ?_ W config w
    · exact fun credential hm ↦ (hsession _ (hcredential credential hm)).1.client
    · exact fun credential hm ↦ (hsession _ (hcredential credential hm)).2.1
    · exact hread ▸ pairwise_savedSessions hc hp
    · exact hread ▸ holds_savedSessions hc hp

theorem counted_of_reloads {target : Endian} (hc : c.Coherent) (hp : c.Placed) (hs : c.Saveable)
    (h : c.Reloads target) : c.Counted := by
  obtain ⟨file, bytes, -, hfile, hbytes, -, -⟩ := h
  have hsaveable : ∀ session ∈ c.savedSessions, session.Saveable c.client := by
    intro session hm
    obtain ⟨slot, hslot⟩ := (mem_savedSessions hc).mp hm
    exact (hs.session hc hslot).1
  obtain ⟨credentials, hto, hread, -⟩ := exists_toCcache hc hp hsaveable
  obtain rfl := Except.ok.inj (hto.symm.trans hfile)
  obtain ⟨hclient, hwrites⟩ := CCache.File.writes_of_toBytes rfl hbytes
  refine ⟨hclient, fun slot session hslot ↦ ?_⟩
  have hm := (mem_savedSessions hc).mpr ⟨slot, hslot⟩
  rw [← hread] at hm
  obtain ⟨credential, hcredential, rfl⟩ := List.mem_map.mp hm
  obtain ⟨bs, hwrite⟩ := hwrites credential hcredential
  obtain ⟨hserver, hkey, hticket⟩ := CCache.counted_of_writeCredential hwrite
  exact ⟨hserver, hkey, hticket⟩

theorem Reachable.placed {ω : Type} {W : World ω} {P : Primitives} {R : Rasn} (h : Reachable W P R c)
    (hs : c.Saveable) : c.Placed :=
  h.coherent.placed h.ticketsKeyed fun key ticket ht ↦ (hs.tickets key ticket ht).2.1

/-- Saving and loading a client preserves its sessions, exactly when the cache file can count
their bytes. -/
theorem reloads_iff_counted {ω : Type} (W : World ω) (P : Primitives) (R : Rasn) (target : Endian)
    (c : TokioClient) (h : Reachable W P R c) (hs : c.Saveable) : c.Reloads target ↔ c.Counted :=
  ⟨counted_of_reloads h.coherent (h.placed hs) hs, reloads_of_counted h.coherent (h.placed hs) hs⟩

section Samples

def hostTicket : TgsRepSession := { tgtFor "A" with service := ⟨"A", 3, ["host", "www"]⟩ }

/-- A client with a TGT of its own realm, another of a second realm, and a service ticket. -/
def supplied : TokioClient :=
  (((Operation.cacheServiceTicket hostTicket).run stillWorld (.ofKnownAnswers (.ofRc4Sealed []))
    (.ofTable {})).exec (referred, ())).2.1

theorem supplied_eq : supplied = { referred with
    serviceTickets := (referred.serviceTickets.erase (serviceCacheKey hostTicket.service)).insert
      (serviceCacheKey hostTicket.service) hostTicket } := by
  have hempty : referred.serviceTickets = ∅ := by rw [referred_eq, restored_eq]; rfl
  change referred.cacheServiceTicketAt hostTicket minute = _
  simp [cacheServiceTicketAt, hempty, preferredSessionAt]

theorem supplied_client : supplied.client = (tgtFor "A").client := by
  rw [supplied_eq, referred_eq, restored_eq]
  rfl

theorem reachable_supplied :
    Reachable stillWorld (.ofKnownAnswers (.ofRc4Sealed [])) (.ofTable {}) supplied := by
  refine ⟨restored, .fromTgtSession bareConfig (tgtFor "A") (), ?_⟩
  refine .tail (.single ⟨.cacheTgtSession (tgtFor "B"), (), rfl⟩) ⟨.cacheServiceTicket hostTicket, (), rfl⟩

theorem lookup_supplied {slot : Slot} {session : AsRepSession} (h : supplied.lookup slot = some session) :
    (session = tgtFor "A" ∨ session = tgtFor "B") ∧ (∃ realm, slot = .tgt realm) ∨ session = hostTicket := by
  have hempty : referred.serviceTickets = ∅ := by rw [referred_eq, restored_eq]; rfl
  cases slot with
  | tgt realm =>
    simp only [lookup, supplied_eq, referred_eq, restored_eq, withPrimary, TokioClient.new, getElem?_insert,
      getElem?_erase, Std.ExtTreeMap.getElem?_empty, tgtFor_client_realm] at h
    refine .inl ⟨?_, realm, rfl⟩
    split at h
    · exact .inr (Option.some.inj h).symm
    split at h
    · exact .inl (Option.some.inj h).symm
    · simp at h
  | ticket key =>
    simp only [lookup, supplied_eq, hempty, getElem?_insert, getElem?_erase, Std.ExtTreeMap.getElem?_empty] at h
    split at h
    · exact .inr (Option.some.inj h).symm
    · simp at h

theorem saveable_tgtFor (realm : String) : (tgtFor realm).Saveable (tgtFor "A").client where
  client := (by decide : sameCcacheClientIdentity (tgtFor "A").client (tgtFor "A").client = true)
  authTime := ⟨1767225660, rfl⟩
  startTime := ⟨1767225660, by decide, rfl⟩
  endTime := ⟨1767229260, rfl⟩
  renewTill _ h := by simp [tgtFor] at h
  keyExpiration := rfl
  etype := (by decide : -2 ^ 15 ≤ (23 : Int32).toInt ∧ (23 : Int32).toInt < 2 ^ 15)

theorem saveable_hostTicket : hostTicket.Saveable (tgtFor "A").client where
  __ := saveable_tgtFor "A"

theorem isTgtPrincipal_hostTicket : isTgtPrincipal hostTicket.service = false := by decide +kernel

theorem saveable_supplied : supplied.Saveable := by
  constructor
  · intro realm tgt h
    rw [supplied_client]
    rcases lookup_supplied (show supplied.lookup (.tgt realm) = some tgt from h) with ⟨rfl | rfl, -⟩ | rfl
    · exact saveable_tgtFor "A"
    · exact saveable_tgtFor "B"
    · exact saveable_hostTicket
  · intro key ticket h
    rw [supplied_client]
    rcases lookup_supplied (show supplied.lookup (.ticket key) = some ticket from h) with ⟨-, _, hslot⟩ | rfl
    · cases hslot
    · exact ⟨saveable_hostTicket, isTgtPrincipal_hostTicket, by decide⟩

theorem counted_supplied : supplied.Counted := by
  constructor
  · rw [supplied_client]
    exact ⟨by decide +kernel, by decide, by decide⟩
  · intro slot session h
    rcases lookup_supplied h with ⟨rfl | rfl, -⟩ | rfl
    · exact ⟨⟨by decide, by decide, by decide⟩, by decide, by decide⟩
    · exact ⟨⟨by decide, by decide, by decide⟩, by decide, by decide⟩
    · exact ⟨⟨by decide, by decide, by decide⟩, by decide, by decide⟩

theorem reloads_iff_counted_supplied : supplied.Reloads .big :=
  (reloads_iff_counted stillWorld _ _ .big supplied reachable_supplied saveable_supplied).mpr counted_supplied

def tgtWithTicket (ticket : Bytes) : AsRepSession := { tgtFor "A" with ticket }

def restoredWithTicket (ticket : Bytes) : TokioClient :=
  (fromTgtSession stillWorld bareConfig (tgtWithTicket ticket) ()).1

theorem tgtRealm_tgtWithTicket (ticket : Bytes) : tgtRealm (tgtWithTicket ticket) = some "A" :=
  tgtRealm_tgtFor "A"

theorem restoredWithTicket_eq (ticket : Bytes) : restoredWithTicket ticket =
    (TokioClient.new bareConfig (tgtFor "A").client none).withPrimary (tgtWithTicket ticket) :=
  fromTgtSession_own stillWorld bareConfig (tgtRealm_tgtWithTicket ticket) ()

theorem reachable_restoredWithTicket (ticket : Bytes) :
    Reachable stillWorld (.ofKnownAnswers (.ofRc4Sealed [])) (.ofTable {}) (restoredWithTicket ticket) :=
  ⟨_, .fromTgtSession bareConfig (tgtWithTicket ticket) (), .refl⟩

theorem saveable_restoredWithTicket (ticket : Bytes) : (restoredWithTicket ticket).Saveable := by
  rw [restoredWithTicket_eq]
  constructor
  · intro realm tgt h
    simp only [withPrimary, TokioClient.new, getElem?_insert, getElem?_erase,
      Std.ExtTreeMap.getElem?_empty] at h
    split at h
    · obtain rfl := Option.some.inj h
      exact { saveable_tgtFor "A" with }
    · simp at h
  · intro key ticket h
    simp [withPrimary, TokioClient.new] at h

theorem not_reloads_restoredWithTicket {ticket : Bytes} (h : 2 ^ 31 ≤ ticket.length) (target : Endian) :
    ¬ (restoredWithTicket ticket).Reloads target := by
  intro hreloads
  have hreach := reachable_restoredWithTicket ticket
  have hs := saveable_restoredWithTicket ticket
  have hcounted := counted_of_reloads hreach.coherent (hreach.placed hs) hs hreloads
  have hlookup : (restoredWithTicket ticket).lookup (.tgt "A") = some (tgtWithTicket ticket) := by
    rw [restoredWithTicket_eq]
    exact Std.ExtTreeMap.getElem?_insert_self
  have hlt := (hcounted.sessions _ _ hlookup).ticket
  exact absurd h (Nat.not_le.mpr hlt)

/-- A TGT of two gibibytes can be cached but not saved. -/
theorem long_ticket_not_saved :
    let c := restoredWithTicket (List.replicate (2 ^ 31) 0)
    Reachable stillWorld (.ofKnownAnswers (.ofRc4Sealed [])) (.ofTable {}) c ∧ c.Saveable ∧
      ∀ target, ¬ c.Reloads target :=
  ⟨reachable_restoredWithTicket _, saveable_restoredWithTicket _,
    not_reloads_restoredWithTicket (List.length_replicate).ge⟩

end Samples

end Reloads

end TokioClient

end Rskrb5.Client
