import Rskrb5.Client.Reload
import Rskrb5.Lib.Best
import Mathlib.Data.Prod.Lex

namespace Rskrb5.Client

open Lib.Results Lib.Programs Lib.Best Crypto

section Standing

/-- What two sessions are compared by at a time of the clock. -/
def standing (now : SystemTime) (session : AsRepSession) : Bool × SystemTime :=
  (sessionValidAt session now, session.endTime)

/-- A valid session is before an invalid one, and among either the one that ends later. -/
def rank (now : SystemTime) (session : AsRepSession) : Bool ×ₗ ℤ :=
  toLex (sessionValidAt session now, session.endTime.nanos)

variable {now : SystemTime} {a b : AsRepSession}

theorem rank_le_iff : rank now a ≤ rank now b ↔ (sessionValidAt a now = true → sessionValidAt b now = true) ∧
    (sessionValidAt a now = sessionValidAt b now → a.endTime ≤ b.endTime) := by
  rw [rank, rank, Prod.Lex.toLex_le_toLex, SystemTime.le_def]
  cases sessionValidAt a now <;> cases sessionValidAt b now <;> simp

theorem preferCurrentSessionAt_iff : preferCurrentSessionAt a b now = true ↔ rank now b ≤ rank now a := by
  rw [rank_le_iff, preferCurrentSessionAt]
  cases sessionValidAt a now <;> cases sessionValidAt b now <;> simp

theorem preferredSessionAt_eq_better (current : Option AsRepSession) (candidate : AsRepSession) (now : SystemTime) :
    preferredSessionAt current candidate now = better (rank now) current candidate := by
  cases current with
  | none => rfl
  | some current =>
    by_cases h : rank now candidate ≤ rank now current
    · rw [preferredSessionAt, better, if_pos (preferCurrentSessionAt_iff.mpr h), if_neg (not_lt.mpr h)]
    · rw [preferredSessionAt, better, if_neg (mt preferCurrentSessionAt_iff.mp h), if_pos (not_le.mp h)]

theorem rank_eq_iff : rank now a = rank now b ↔ standing now a = standing now b := by
  rw [rank, rank, standing, standing, toLex_inj, Prod.mk.injEq, Prod.mk.injEq]
  exact and_congr_right fun _ ↦ ⟨SystemTime.ext, congrArg SystemTime.nanos⟩

theorem map_standing_eq_of_rank {o o' : Option AsRepSession} (h : o.map (rank now) = o'.map (rank now)) :
    o.map (standing now) = o'.map (standing now) := by
  cases o with
  | none =>
    cases o' with
    | none => rfl
    | some _ => cases h
  | some a =>
    cases o' with
    | none => cases h
    | some b => exact congrArg some (rank_eq_iff.mp (Option.some.inj h))

/-- The best of some sessions: a valid one if there is one, and the one that ends last of its kind. -/
structure BestOf (now : SystemTime) (sessions : List AsRepSession) (kept : AsRepSession) : Prop where
  mem : kept ∈ sessions
  valid : ∀ session ∈ sessions, sessionValidAt session now = true → sessionValidAt kept now = true
  latest : ∀ session ∈ sessions, sessionValidAt session now = sessionValidAt kept now →
    session.endTime ≤ kept.endTime

theorem bestOf_of_best {sessions : List AsRepSession} {kept : AsRepSession}
    (h : kept ∈ best (rank now) sessions) : BestOf now sessions kept where
  mem := mem_of_best h
  valid _ hmem := (rank_le_iff.mp (le_of_best h hmem)).1
  latest _ hmem := (rank_le_iff.mp (le_of_best h hmem)).2

end Standing

namespace TokioClient

/-- A session or ticket that a caller puts into the caches of a client. -/
inductive Insertion
  | tgt (session : AsRepSession)
  | serviceTicket (ticket : TgsRepSession)

def Insertion.session : Insertion → AsRepSession
  | .tgt session => session
  | .serviceTicket ticket => ticket

/-- The place that it is put in. A session that is no TGT is put nowhere as a TGT. -/
def Insertion.slot : Insertion → Option Slot
  | .tgt session => (tgtRealm session).map .tgt
  | .serviceTicket ticket => some (.ticket (serviceCacheKey ticket.service))

def Insertion.ofSession (session : AsRepSession) : Insertion :=
  if isTgtPrincipal session.service then .tgt session else .serviceTicket session

def insertAt (now : SystemTime) (c : TokioClient) : Insertion → TokioClient
  | .tgt session => (c.cacheTgtSessionAt session now).2
  | .serviceTicket ticket => c.cacheServiceTicketAt ticket now

def insertAllAt (c : TokioClient) (insertions : List Insertion) (now : SystemTime) : TokioClient :=
  insertions.foldl (insertAt now) c

/-- The sessions that were put into one place, in order. -/
def insertedIn (slot : Slot) (insertions : List Insertion) : List AsRepSession :=
  (insertions.filter fun insertion ↦ insertion.slot = some slot).map Insertion.session

/-- What a cache keeps of the sessions that were put into one of its places. -/
structure Kept (now : SystemTime) (sessions : List AsRepSession) (kept : Option AsRepSession) : Prop where
  none_iff : kept = none ↔ sessions = []
  best : ∀ session, kept = some session → BestOf now sessions session

/-- The caches of two clients, alike but for sessions of one validity and end. -/
structure SameUpToTies (now : SystemTime) (c c' : TokioClient) : Prop where
  tgt : c.tgt.map (standing now) = c'.tgt.map (standing now)
  tgtSessions : ∀ realm : String,
    c.tgtSessions[realm]?.map (standing now) = c'.tgtSessions[realm]?.map (standing now)
  serviceTickets : ∀ key : String,
    c.serviceTickets[key]?.map (standing now) = c'.serviceTickets[key]?.map (standing now)

/-- What a load of a cache puts in: the sessions of its client that are not about the cache itself. -/
def ccacheInsertions (cache : CCache) : List Insertion :=
  (cache.entries.filter fun credential ↦
    sameCcacheClientIdentity credential.client cache.defaultPrincipal).map fun credential ↦
      .ofSession (ccacheCredentialSession credential)

structure Emptied (c : TokioClient) : Prop where
  tgt_eq : c.tgt = none
  tgtSessions_eq : c.tgtSessions = ∅
  serviceTickets_eq : c.serviceTickets = ∅

section Insertions

variable {c : TokioClient} {now : SystemTime} {insertions : List Insertion}

theorem Emptied.coherent (h : c.Emptied) : c.Coherent where
  primary := by rw [h.tgt_eq, h.tgtSessions_eq, Std.ExtTreeMap.getElem?_empty]
  keyed realm session hs := by simp [h.tgtSessions_eq] at hs

theorem Emptied.lookup (h : c.Emptied) : c.lookup = fun _ ↦ none := by
  funext slot
  cases slot with
  | tgt realm => rw [TokioClient.lookup, h.tgtSessions_eq, Std.ExtTreeMap.getElem?_empty]
  | ticket key => rw [TokioClient.lookup, h.serviceTickets_eq, Std.ExtTreeMap.getElem?_empty]

theorem held_insertAt {p : Principal} (h : Held p c) (insertion : Insertion) (now : SystemTime) :
    Held p (c.insertAt now insertion) := by
  cases insertion with
  | tgt session =>
    obtain ⟨hc, hclient⟩ := coherent_cacheTgtSessionAt h.coherent session now
    exact ⟨hc, hclient.trans h.client_eq⟩
  | serviceTicket ticket => exact h.of_sessions rfl rfl rfl

theorem held_insertAllAt {p : Principal} (h : Held p c) (insertions : List Insertion) (now : SystemTime) :
    Held p (c.insertAllAt insertions now) := by
  induction insertions generalizing c with
  | nil => exact h
  | cons insertion insertions ih => exact ih (held_insertAt h insertion now)

/-- For the client's own realm the second comparison, with the primary TGT, changes nothing. -/
theorem tgtSessions_cacheTgtSessionAt (hc : c.Coherent) {tgt : AsRepSession} {realm : String}
    (hr : tgtRealm tgt = some realm) (now : SystemTime) : (c.cacheTgtSessionAt tgt now).2.tgtSessions =
      (c.tgtSessions.erase realm).insert realm (better (rank now) c.tgtSessions[realm]? tgt) := by
  simp only [cacheTgtSessionAt, hr, preferredSessionAt_eq_better]
  split
  · next heq => rw [hc.primary, ← heq, better_self]
  · rfl

/-- An insertion offers the session to its place. -/
theorem lookup_insertAt (hc : c.Coherent) (insertion : Insertion) (now : SystemTime) :
    (c.insertAt now insertion).lookup =
      insertion.slot.elim c.lookup fun slot ↦ offer (rank now) c.lookup (slot, insertion.session) := by
  funext slot
  cases insertion with
  | tgt session =>
    cases hr : tgtRealm session with
    | none => simp only [insertAt, cacheTgtSessionAt, hr, Insertion.slot, Option.map_none, Option.elim_none]
    | some realm =>
      simp only [insertAt, Insertion.slot, hr, Option.map_some, Option.elim_some, Insertion.session, offer]
      cases slot with
      | tgt realm' =>
        simp only [lookup, tgtSessions_cacheTgtSessionAt hc hr, getElem?_insert, getElem?_erase]
        by_cases h : realm = realm'
        · subst h
          rw [if_pos rfl, Function.update_self]
        · rw [if_neg h, if_neg h, Function.update_of_ne fun heq ↦ h (Slot.tgt.inj heq).symm]
          rfl
      | ticket key =>
        simp only [Function.update_apply, reduceCtorEq, if_false, lookup, serviceTickets_cacheTgtSessionAt]
  | serviceTicket ticket =>
    simp only [insertAt, Insertion.slot, Option.elim_some, Insertion.session, offer]
    cases slot with
    | tgt realm =>
      simp only [Function.update_apply, reduceCtorEq, if_false]
      rfl
    | ticket key =>
      simp only [lookup, cacheServiceTicketAt, getElem?_insert, getElem?_erase, preferredSessionAt_eq_better]
      by_cases h : serviceCacheKey ticket.service = key
      · subst h
        rw [if_pos rfl, Function.update_self]
      · rw [if_neg h, if_neg h, Function.update_of_ne fun heq ↦ h (Slot.ticket.inj heq).symm]
        rfl

def Insertion.entry (insertion : Insertion) : Option (Slot × AsRepSession) :=
  insertion.slot.map fun slot ↦ (slot, insertion.session)

theorem under_filterMap_entry (slot : Slot) (insertions : List Insertion) :
    under slot (insertions.filterMap Insertion.entry) = insertedIn slot insertions := by
  induction insertions with
  | nil => rfl
  | cons insertion insertions ih =>
    rw [insertedIn] at ih
    cases h : insertion.slot with
    | none => simp [insertedIn, Insertion.entry, h, ih]
    | some slot' =>
      rw [List.filterMap_cons_some (b := (slot', insertion.session)) (by rw [Insertion.entry, h]; rfl)]
      by_cases heq : slot' = slot
      · simpa [under, insertedIn, h, heq] using ih
      · simpa [under, insertedIn, h, heq] using ih

/-- The caches are the store of the best that was offered in each place. -/
theorem lookup_insertAllAt (hc : c.Coherent) (insertions : List Insertion) (now : SystemTime) :
    (c.insertAllAt insertions now).lookup =
      (insertions.filterMap Insertion.entry).foldl (offer (rank now)) c.lookup := by
  induction insertions generalizing c with
  | nil => rfl
  | cons insertion insertions ih =>
    have hheld := held_insertAt ⟨hc, rfl⟩ insertion now
    have hstep := lookup_insertAt hc insertion now
    rw [insertAllAt, List.foldl_cons, ← insertAllAt, ih hheld.coherent, hstep]
    cases h : insertion.slot with
    | none => simp [Insertion.entry, h]
    | some slot => simp [Insertion.entry, h]

theorem Emptied.lookup_insertAllAt (h : c.Emptied) (insertions : List Insertion) (now : SystemTime) (slot : Slot) :
    (c.insertAllAt insertions now).lookup slot = best (rank now) (insertedIn slot insertions) := by
  rw [TokioClient.lookup_insertAllAt h.coherent, h.lookup, foldl_offer, under_filterMap_entry]

theorem Emptied.kept (h : c.Emptied) (insertions : List Insertion) (now : SystemTime) (slot : Slot) :
    Kept now (insertedIn slot insertions) ((c.insertAllAt insertions now).lookup slot) := by
  rw [h.lookup_insertAllAt]
  exact ⟨best_eq_none, fun _ hkept ↦ bestOf_of_best hkept⟩

/-- A client with the sessions of a coherent one has its primary TGT too. -/
theorem Held.caches_eq {c' : TokioClient} {p : Principal} (h : Held p c) (h' : Held p c')
    (hlookup : c'.lookup = c.lookup) :
    c'.tgt = c.tgt ∧ c'.tgtSessions = c.tgtSessions ∧ c'.serviceTickets = c.serviceTickets := by
  have hsessions : c'.tgtSessions = c.tgtSessions :=
    Std.ExtTreeMap.ext_getElem? fun realm ↦ congrFun hlookup (.tgt realm)
  refine ⟨?_, hsessions, Std.ExtTreeMap.ext_getElem? fun key ↦ congrFun hlookup (.ticket key)⟩
  rw [h'.coherent.primary, h.coherent.primary, hsessions, h.client_eq, h'.client_eq]

theorem insertAt_frame (c : TokioClient) (insertion : Insertion) (now : SystemTime) :
    c.insertAt now insertion = { c with
      tgt := (c.insertAt now insertion).tgt
      tgtSessions := (c.insertAt now insertion).tgtSessions
      serviceTickets := (c.insertAt now insertion).serviceTickets } := by
  cases insertion with
  | tgt session =>
    simp only [insertAt, cacheTgtSessionAt]
    split
    · rfl
    · split <;> rfl
  | serviceTicket ticket => rfl

theorem Emptied.insertAt_of_mem (h : c.Emptied) {insertion : Insertion} (hmem : insertion ∈ insertions)
    (now : SystemTime) : (c.insertAllAt insertions now).insertAt now insertion = c.insertAllAt insertions now := by
  have hheld := held_insertAllAt ⟨h.coherent, rfl⟩ insertions now
  have hlookup : ((c.insertAllAt insertions now).insertAt now insertion).lookup =
      (c.insertAllAt insertions now).lookup := by
    rw [lookup_insertAt hheld.coherent]
    cases hslot : insertion.slot with
    | none => rfl
    | some slot =>
      have hentry : (slot, insertion.session) ∈ insertions.filterMap Insertion.entry :=
        List.mem_filterMap.mpr ⟨insertion, hmem, by rw [Insertion.entry, hslot]; rfl⟩
      rw [TokioClient.lookup_insertAllAt h.coherent, h.lookup]
      exact offer_of_mem hentry
  obtain ⟨htgt, hsessions, htickets⟩ := hheld.caches_eq (held_insertAt hheld insertion now) hlookup
  rw [insertAt_frame, htgt, hsessions, htickets]

theorem Held.sameUpToTies {c' : TokioClient} {p : Principal} (h : Held p c) (h' : Held p c')
    (hlookup : ∀ slot, (c.lookup slot).map (rank now) = (c'.lookup slot).map (rank now)) :
    SameUpToTies now c c' where
  tgt := by
    rw [h.coherent.primary, h'.coherent.primary, h.client_eq, h'.client_eq]
    exact map_standing_eq_of_rank (hlookup (.tgt p.realm))
  tgtSessions realm := map_standing_eq_of_rank (hlookup (.tgt realm))
  serviceTickets key := map_standing_eq_of_rank (hlookup (.ticket key))

theorem sameUpToTies_of_perm {c' : TokioClient} (h : c.Emptied) (h' : c'.Emptied) (hclient : c'.client = c.client)
    {permuted : List Insertion} (hperm : permuted.Perm insertions) (now : SystemTime) :
    SameUpToTies now (c'.insertAllAt permuted now) (c.insertAllAt insertions now) := by
  have hheld := held_insertAllAt ⟨h.coherent, rfl⟩ insertions now
  have hheld' := held_insertAllAt ⟨h'.coherent, hclient⟩ permuted now
  refine hheld'.sameUpToTies hheld fun slot ↦ ?_
  rw [TokioClient.lookup_insertAllAt h.coherent, TokioClient.lookup_insertAllAt h'.coherent, h.lookup, h'.lookup]
  exact map_foldl_offer_of_perm (hperm.filterMap _) slot

end Insertions

section Loading

variable {ω : Type} {W : World ω} {now : SystemTime} {c : TokioClient}

theorem exec_loadCredential_still (hclock : ∀ w, (W.now w).1 = now) (cache : CCache)
    (credential : CCache.Credential) (w : ω) :
    ∃ w', (loadCredential W cache now credential).exec (c, w) =
      (.ok (), (if sameCcacheClientIdentity credential.client cache.defaultPrincipal then
        c.insertAt now (.ofSession (ccacheCredentialSession credential)) else c), w') := by
  simp only [loadCredential, Insertion.ofSession]
  split
  · split
    · exact ⟨w, rfl⟩
    · exact ⟨(W.now w).2, by rw [← hclock w]; rfl⟩
  · exact ⟨w, rfl⟩

theorem exec_loadCredentials_still (hclock : ∀ w, (W.now w).1 = now) (cache : CCache)
    (credentials : List CCache.Credential) (w : ω) :
    ∃ w', (loadCredentials W cache now credentials).exec (c, w) =
      (.ok (), c.insertAllAt ((credentials.filter fun credential ↦
        sameCcacheClientIdentity credential.client cache.defaultPrincipal).map fun credential ↦
          .ofSession (ccacheCredentialSession credential)) now, w') := by
  induction credentials generalizing c w with
  | nil => exact ⟨w, rfl⟩
  | cons credential credentials ih =>
    obtain ⟨w₁, hload⟩ := exec_loadCredential_still hclock cache credential (c := c) w
    rw [loadCredentials, Program.exec_bind_ok hload]
    simp only [List.filter_cons]
    split
    · exact ih w₁
    · exact ih w₁

theorem emptied_new (config : Config) (client : Principal) (credentials : Option TokioClientCredentials) :
    (new config client credentials).Emptied :=
  ⟨rfl, rfl, rfl⟩

/-- At one time of the clock a load is the insertions that it makes. -/
theorem fromCcache_still (hclock : ∀ w, (W.now w).1 = now) (config : Config) (cache : CCache) (w : ω) :
    (fromCcache W config cache w).1 =
      (new config cache.defaultPrincipal none).insertAllAt (ccacheInsertions cache) now := by
  obtain ⟨w', hload⟩ := exec_loadCredentials_still hclock cache cache.entries
    (c := new config cache.defaultPrincipal none) (W.now w).2
  have hnow : (outside (Client.now W)).exec (new config cache.defaultPrincipal none, w) =
      (.ok now, new config cache.defaultPrincipal none, (W.now w).2) := by
    rw [← hclock w]
    rfl
  rw [fromCcache, loadCcache, Program.exec_bind_ok hnow, hload]
  rfl

end Loading

/-- At one time of the clock the order in which sessions and tickets are put into an empty client
makes no difference, beyond sessions of one validity and end: in each place it keeps the best. -/
theorem caches_keep_best {c : TokioClient} (hempty : c.Emptied) (now : SystemTime) (insertions : List Insertion) :
    (∀ realm, Kept now (insertedIn (.tgt realm) insertions)
      (c.insertAllAt insertions now).tgtSessions[realm]?) ∧
    (c.insertAllAt insertions now).tgt = (c.insertAllAt insertions now).tgtSessions[c.client.realm]? ∧
    (∀ key, Kept now (insertedIn (.ticket key) insertions)
      (c.insertAllAt insertions now).serviceTickets[key]?) ∧
    (∀ permuted : List Insertion, permuted.Perm insertions →
      SameUpToTies now (c.insertAllAt permuted now) (c.insertAllAt insertions now)) ∧
    (∀ insertion ∈ insertions,
      (c.insertAllAt insertions now).insertAt now insertion = c.insertAllAt insertions now) ∧
    ∀ {ω : Type} (W : World ω) (config : Config) (cache cache' : CCache) (w : ω),
      (∀ w, (W.now w).1 = now) → cache'.defaultPrincipal = cache.defaultPrincipal →
      cache'.entries.Perm cache.entries →
      (fromCcache W config cache w).1 =
        (new config cache.defaultPrincipal none).insertAllAt (ccacheInsertions cache) now ∧
      SameUpToTies now (fromCcache W config cache' w).1 (fromCcache W config cache w).1 := by
  have hheld := held_insertAllAt ⟨hempty.coherent, rfl⟩ insertions now
  refine ⟨fun realm ↦ hempty.kept insertions now (.tgt realm), ?_,
    fun key ↦ hempty.kept insertions now (.ticket key),
    fun _ hperm ↦ sameUpToTies_of_perm hempty hempty rfl hperm now,
    fun _ hmem ↦ hempty.insertAt_of_mem hmem now, ?_⟩
  · rw [hheld.coherent.primary, hheld.client_eq]
  · intro ω W config cache cache' w hclock hprincipal hperm
    refine ⟨fromCcache_still hclock config cache w, ?_⟩
    rw [fromCcache_still hclock, fromCcache_still hclock]
    refine sameUpToTies_of_perm (emptied_new _ _ _) (emptied_new _ _ _) hprincipal ?_ now
    rw [ccacheInsertions, ccacheInsertions, hprincipal]
    exact (hperm.filter _).map _

/-- A TGT that has ended, and then one that has not. -/
def twoTgts : List Insertion := [.tgt { tgtFor "A" with endTime := minute }, .tgt (tgtFor "A")]

theorem caches_keep_best_two : ∃ kept, ((new bareConfig (tgtFor "A").client none).insertAllAt twoTgts minute).tgt =
    some kept ∧ BestOf minute [{ tgtFor "A" with endTime := minute }, tgtFor "A"] kept ∧
    sessionValidAt kept minute = true := by
  obtain ⟨hkept, hprimary, -⟩ := caches_keep_best (emptied_new bareConfig (tgtFor "A").client none) minute twoTgts
  have hinserted : insertedIn (.tgt "A") twoTgts = [{ tgtFor "A" with endTime := minute }, tgtFor "A"] := by
    decide +kernel
  have hvalid : sessionValidAt (tgtFor "A") minute = true := by decide +kernel
  obtain ⟨hnone, hbest⟩ := hkept "A"
  rw [hinserted] at hnone hbest
  change _ = ((new bareConfig (tgtFor "A").client none).insertAllAt twoTgts minute).tgtSessions["A"]? at hprimary
  rw [← hprimary] at hnone hbest
  obtain ⟨kept, hsome⟩ := Option.ne_none_iff_exists'.mp fun h ↦ List.cons_ne_nil _ _ (hnone.mp h)
  exact ⟨kept, hsome, hbest kept hsome, (hbest kept hsome).valid _ (List.mem_cons_of_mem _ List.mem_cons_self) hvalid⟩

end TokioClient

end Rskrb5.Client
