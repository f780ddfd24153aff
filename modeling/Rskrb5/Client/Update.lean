import Rskrb5.Client.Reload

namespace Rskrb5.Client.TokioClient

open Lib.Results FileFormat CCache

/-- The cache is changed in place, so that it is also what an error leaves behind. -/
def updateCcache (c : TokioClient) (cache : CCache.File) : Except Error Unit × CCache.File :=
  let cache := { cache with defaultPrincipal := c.client }
  let cache := (cache.removeEntriesForClient c.client).2
  match c.ccacheCredentials with
  | .error error => (.error error, cache)
  | .ok credentials =>
    (.ok (), credentials.foldl (fun cache credential ↦ (cache.upsertCredential credential).2) cache)

/-- The cache before the credentials of the client are put into it. -/
def clearedFor (c : TokioClient) (cache : CCache.File) : CCache.File :=
  { cache with
    defaultPrincipal := c.client
    credentials := cache.credentials.filter fun other ↦ !isOwnEntry c.client other }

variable {c : TokioClient} {cache cache' : CCache.File}

theorem updateCcache_of_error {error : Error} (h : c.ccacheCredentials = .error error) :
    c.updateCcache cache = (.error error, c.clearedFor cache) := by
  rw [updateCcache, h]
  simp only [File.removeEntriesForClient, removeEntriesForClient_eq]
  rfl

theorem updateCcache_of_ok {credentials : List Credential} (h : c.ccacheCredentials = .ok credentials) :
    c.updateCcache cache = (.ok (), credentials.foldl
      (fun cache credential ↦ (cache.upsertCredential credential).2) (c.clearedFor cache)) := by
  rw [updateCcache, h]
  simp only [File.removeEntriesForClient, removeEntriesForClient_eq]
  rfl

theorem exists_credentials {result : CCache.File} (h : c.updateCcache cache = (.ok (), result)) :
    ∃ credentials, c.ccacheCredentials = .ok credentials := by
  cases hc : c.ccacheCredentials with
  | ok credentials => exact ⟨credentials, rfl⟩
  | error error =>
    rw [updateCcache_of_error hc] at h
    cases h

section Replacement

/-- All sessions are the client's own, and no service ticket is for a ticket-granting service or for
what a cache keeps about itself. -/
structure OwnSessions (c : TokioClient) : Prop where
  client : ∀ slot session, c.lookup slot = some session →
    samePrincipalIdentity session.client c.client = true
  tickets : ∀ (key : String) (ticket : TgsRepSession), c.serviceTickets[key]? = some ticket →
    isTgtPrincipal ticket.service = false ∧ isConfigService ticket.service = false

/-- The credential has the principals of the session. -/
theorem principals_of_toCcacheCredential {session : AsRepSession} {credential : Credential}
    (h : session.toCcacheCredential = .ok credential) :
    credential.client = session.client ∧ credential.server = session.service := by
  simp only [AsRepSession.toCcacheCredential, bind_eq_ok] at h
  obtain ⟨a, -, s, -, e, -, r, -, hr⟩ := h
  obtain rfl := Except.ok.inj hr
  exact ⟨rfl, rfl⟩

theorem OwnSessions.isConfigService (h : c.OwnSessions) (hc : c.Coherent) {slot : Slot}
    {session : AsRepSession} (hs : c.lookup slot = some session) :
    isConfigService session.service = false := by
  cases slot with
  | tgt realm =>
    exact not_isConfigService_of_isTgtPrincipal (isTgtPrincipal_of_tgtRealm (hc.keyed realm session hs))
  | ticket key => exact (h.tickets key session hs).2

theorem OwnSessions.isOwnEntry (h : c.OwnSessions) (hc : c.Coherent) {session : AsRepSession}
    (hm : session ∈ c.savedSessions) {credential : Credential}
    (hto : session.toCcacheCredential = .ok credential) :
    isOwnEntry c.client credential = true := by
  obtain ⟨slot, hslot⟩ := (mem_savedSessions hc).mp hm
  obtain ⟨hclient, hserver⟩ := principals_of_toCcacheCredential hto
  have hsame := h.client slot session hslot
  have hconfig : isConfigCredential credential = false := by
    have hs := h.isConfigService hc hslot
    rw [← hserver] at hs
    exact hs
  rw [CCache.isOwnEntry, hclient, hsame, hconfig]
  rfl

theorem OwnSessions.placed (h : c.OwnSessions) (hc : c.Coherent) (hk : c.TicketsKeyed) : c.Placed :=
  hc.placed hk fun key ticket ht ↦ (h.tickets key ticket ht).1

/-- Nothing that stays in the cache is for the principals of a saved session. -/
theorem updateCcache_eq_ok (h : c.OwnSessions) (hc : c.Coherent) (hp : c.Placed)
    {credentials : List Credential} (hto : c.ccacheCredentials = .ok credentials) :
    c.updateCcache cache = (.ok (), { c.clearedFor cache with
      credentials := (c.clearedFor cache).credentials ++ credentials }) := by
  have hservers : credentials.Pairwise fun a b ↦ a.server ≠ b.server := by
    refine pairwise_of_mapM hto (pairwise_savedSessions hc hp) fun a a' b b' hb hb' hne heq ↦ hne ?_
    rw [(principals_of_toCcacheCredential hb).2, (principals_of_toCcacheCredential hb').2] at heq
    exact slotOf_eq_of_service heq
  have hapart : ∀ existing ∈ (c.clearedFor cache).credentials, ∀ credential ∈ credentials,
      ¬ (existing.client = credential.client ∧ existing.server = credential.server) := by
    intro existing hother credential hm hsame
    obtain ⟨session, hsession, hconvert⟩ := exists_mem_of_mapM hto hm
    have hown := h.isOwnEntry hc hsession hconvert
    have heq : CCache.isOwnEntry c.client existing = CCache.isOwnEntry c.client credential := by
      simp only [CCache.isOwnEntry, isConfigCredential, hsame.1, hsame.2]
    simp only [clearedFor, List.mem_filter, heq, hown] at hother
    exact absurd hother.2 (by decide)
  rw [updateCcache_of_ok hto, foldl_upsertCredential hservers hapart]

/-- The client's entries are replaced by its current sessions, and every other entry stays. -/
theorem updateCcache_replaces {ω : Type} (W : World ω) (P : Crypto.Primitives) (R : Rasn)
    (c : TokioClient) (cache cache' : CCache.File) (hreach : Reachable W P R c) (h : c.OwnSessions)
    (hok : c.updateCcache cache = (.ok (), cache')) :
    cache'.defaultPrincipal = c.client ∧
    (cache'.credentials.filter fun other ↦ !isOwnEntry c.client other) =
      (cache.credentials.filter fun other ↦ !isOwnEntry c.client other) ∧
    c.savedSessions.mapM AsRepSession.toCcacheCredential =
      .ok (cache'.credentials.filter (isOwnEntry c.client)) ∧
    c.savedSessions.Nodup ∧
    ∀ session, session ∈ c.savedSessions ↔
      (∃ realm : String, c.tgtSessions[realm]? = some session) ∨
      ∃ key : String, c.serviceTickets[key]? = some session := by
  have hc := hreach.coherent
  have hp := h.placed hc hreach.ticketsKeyed
  obtain ⟨credentials, hto⟩ := exists_credentials hok
  rw [updateCcache_eq_ok h hc hp hto] at hok
  obtain rfl := (Prod.mk.inj hok).2
  have hown : ∀ credential ∈ credentials, isOwnEntry c.client credential = true := by
    intro credential hm
    obtain ⟨session, hsession, hconvert⟩ := exists_mem_of_mapM hto hm
    exact h.isOwnEntry hc hsession hconvert
  have hothers : credentials.filter (fun other ↦ !isOwnEntry c.client other) = [] := by
    rw [List.filter_eq_nil_iff]
    intro credential hm
    rw [hown credential hm]
    decide
  have hcleared : (cache.credentials.filter fun other ↦ !isOwnEntry c.client other).filter
      (isOwnEntry c.client) = [] := by
    rw [List.filter_eq_nil_iff]
    intro credential hm
    simpa using (List.mem_filter.mp hm).2
  refine ⟨rfl, ?_, ?_, ?_, fun session ↦ ?_⟩
  · simp only [clearedFor, List.filter_append, List.filter_filter, Bool.and_self, hothers, List.append_nil]
  · simp only [clearedFor, List.filter_append, hcleared, List.filter_eq_self.mpr hown, List.nil_append]
    exact hto
  · exact (pairwise_savedSessions hc hp).imp fun hne heq ↦ hne (congrArg slotOf heq)
  · rw [savedSessions_eq hc, List.mem_append, mem_map_snd, mem_map_snd]

theorem Saveable.ownSessions (h : c.Saveable) (hc : c.Coherent) : c.OwnSessions where
  client _ _ hs := (h.session hc hs).1.client
  tickets key ticket ht := (h.tickets key ticket ht).2

theorem Saveable.exists_credentials (h : c.Saveable) (hc : c.Coherent) :
    ∃ credentials, c.ccacheCredentials = .ok credentials := by
  refine exists_mapM_iff.mpr fun session hm ↦ ?_
  obtain ⟨slot, hslot⟩ := (mem_savedSessions hc).mp hm
  obtain ⟨times, hto, -⟩ := (h.session hc hslot).1.toCcacheCredential
  exact ⟨_, hto⟩

def otherClient : Principal := ⟨"B", 1, ["alice"]⟩

def configEntry : Credential :=
  { credentialWithTimes (tgtFor "A") ⟨0, 0, 0, 0⟩ with
    server := ⟨xCacheconfRealm, 0, [xCacheconfComponent, "fast_avail"]⟩ }

def foreignEntry : Credential :=
  { credentialWithTimes (tgtFor "B") ⟨1, 1, 2, 0⟩ with client := otherClient }

/-- A cache of another client with a ticket of its own, and an old ticket of the client. -/
def sharedCache : CCache.File :=
  { CCache.File.new otherClient with
    credentials := [foreignEntry, credentialWithTimes (tgtFor "C") ⟨1, 1, 2, 0⟩, configEntry] }

theorem sharedCache_others :
    (sharedCache.credentials.filter fun other ↦ !isOwnEntry (tgtFor "A").client other) =
      [foreignEntry, configEntry] := by decide

theorem updateCcache_replaces_supplied :
    ∃ cache', supplied.updateCcache sharedCache = (.ok (), cache') ∧
      cache'.defaultPrincipal = (tgtFor "A").client ∧
      (cache'.credentials.filter fun other ↦ !isOwnEntry (tgtFor "A").client other) =
        [foreignEntry, configEntry] ∧
      supplied.savedSessions.mapM AsRepSession.toCcacheCredential =
        .ok (cache'.credentials.filter (isOwnEntry (tgtFor "A").client)) := by
  have hc := reachable_supplied.coherent
  have hown := saveable_supplied.ownSessions hc
  obtain ⟨credentials, hto⟩ := saveable_supplied.exists_credentials hc
  have hplaced := hown.placed hc reachable_supplied.ticketsKeyed
  have hok : supplied.updateCcache sharedCache = (.ok (), { supplied.clearedFor sharedCache with
      credentials := (supplied.clearedFor sharedCache).credentials ++ credentials }) :=
    updateCcache_eq_ok hown hc hplaced hto
  obtain ⟨hdefault, hothers, hsessions, -, -⟩ :=
    updateCcache_replaces stillWorld _ _ supplied sharedCache _ reachable_supplied hown hok
  rw [supplied_client] at hdefault hothers hsessions
  exact ⟨_, hok, hdefault, hothers.trans sharedCache_others, hsessions⟩

end Replacement

section Atomicity

/-- A time that the 32-bit seconds of a cache can hold. -/
def IsU32Seconds (time : SystemTime) : Prop :=
  0 ≤ time.nanos ∧ time.nanos < 2 ^ 32 * nanosPerSec ∧ time.nanos % nanosPerSec = 0

structure U32Times (session : AsRepSession) : Prop where
  authTime : IsU32Seconds session.authTime
  startTime : IsU32Seconds session.startTime
  endTime : IsU32Seconds session.endTime
  renewTill : ∀ t ∈ session.renewTill, IsU32Seconds t

theorem exists_systemTimeToU32Seconds {time : SystemTime} :
    (∃ n, systemTimeToU32Seconds time = .ok n) ↔ IsU32Seconds time := by
  constructor
  · intro h
    obtain ⟨n, h⟩ := h
    simp only [systemTimeToU32Seconds, bind_eq_ok, okOr_eq_ok, ensure_eq_ok, not_or, not_not,
      Prod.exists] at h
    obtain ⟨seconds, nanos, hparts, -, ⟨hnonneg, rfl⟩, hseconds⟩ := h
    obtain ⟨hn, -⟩ := unixTimestampParts_eq_some hparts
    simp only [integerToU32, Option.ite_none_right_eq_some] at hseconds
    simp only [IsU32Seconds, nanosPerSec] at *
    omega
  · intro h
    obtain ⟨hnonneg, hlt, hwhole⟩ := h
    obtain ⟨n, hn⟩ : ∃ n : UInt32, (n.toNat : ℤ) * nanosPerSec = time.nanos := by
      refine ⟨UInt32.ofNat (time.nanos / nanosPerSec).toNat, ?_⟩
      simp only [UInt32.toNat_ofNat', nanosPerSec] at *
      omega
    refine ⟨n, ?_⟩
    have ht : time = systemTimeFromU32Seconds n := SystemTime.ext hn.symm
    rw [ht]
    exact systemTimeToU32Seconds_ofU32 n

theorem exists_toCcacheCredential {session : AsRepSession} :
    (∃ credential, session.toCcacheCredential = .ok credential) ↔ U32Times session := by
  have hrenew : (∃ r, session.renewTill.mapM systemTimeToU32Seconds = .ok r) ↔
      ∀ t ∈ session.renewTill, IsU32Seconds t := by
    cases session.renewTill with
    | none => simp
    | some t =>
      simp only [Option.mapM_some, Option.mem_def, Option.some.injEq, forall_eq',
        ← exists_systemTimeToU32Seconds]
      cases systemTimeToU32Seconds t <;> simp
  constructor
  · intro h
    obtain ⟨credential, h⟩ := h
    simp only [AsRepSession.toCcacheCredential, bind_eq_ok] at h
    obtain ⟨a, ha, s, hs, e, he, r, hr, -⟩ := h
    exact ⟨exists_systemTimeToU32Seconds.mp ⟨a, ha⟩, exists_systemTimeToU32Seconds.mp ⟨s, hs⟩,
      exists_systemTimeToU32Seconds.mp ⟨e, he⟩, hrenew.mp ⟨r, hr⟩⟩
  · intro h
    obtain ⟨a, ha⟩ := exists_systemTimeToU32Seconds.mpr h.authTime
    obtain ⟨s, hs⟩ := exists_systemTimeToU32Seconds.mpr h.startTime
    obtain ⟨e, he⟩ := exists_systemTimeToU32Seconds.mpr h.endTime
    obtain ⟨r, hr⟩ := hrenew.mpr h.renewTill
    exact ⟨_, toCcacheCredential_of_times ha hs he hr⟩

theorem clearedFor_eq_self : c.clearedFor cache = cache ↔
    cache.defaultPrincipal = c.client ∧
      ∀ credential ∈ cache.credentials, isOwnEntry c.client credential = false := by
  constructor
  · intro h
    have hdefault := congrArg (fun file ↦ file.defaultPrincipal) h
    have hcredentials := congrArg (fun file ↦ file.credentials) h
    refine ⟨hdefault.symm, fun credential hm ↦ ?_⟩
    simpa using List.filter_eq_self.mp hcredentials credential hm
  · intro h
    obtain ⟨hdefault, hnone⟩ := h
    have hcredentials : (cache.credentials.filter fun other ↦ !isOwnEntry c.client other) =
        cache.credentials :=
      List.filter_eq_self.mpr fun credential hm ↦ by simp [hnone credential hm]
    rw [clearedFor, hcredentials, ← hdefault]

/-- A failed update leaves the cache as it was, exactly when it could not fail or had nothing to
change before it failed. -/
theorem updateCcache_atomic_iff (c : TokioClient) (cache : CCache.File) :
    (∀ error cache', c.updateCcache cache = (.error error, cache') → cache' = cache) ↔
      (∀ session ∈ c.savedSessions, U32Times session) ∨
      (cache.defaultPrincipal = c.client ∧
        ∀ credential ∈ cache.credentials, isOwnEntry c.client credential = false) := by
  simp only [← exists_toCcacheCredential, ← clearedFor_eq_self]
  rw [← exists_mapM_iff]
  constructor
  · intro h
    cases hc : c.ccacheCredentials with
    | ok credentials => exact .inl ⟨credentials, hc⟩
    | error error => exact .inr (h error _ (updateCcache_of_error hc))
  · rintro (⟨credentials, hc⟩ | hcleared) error cache' h
    · rw [updateCcache_of_ok hc] at h
      cases h
    · cases hc : c.ccacheCredentials with
      | ok credentials =>
        rw [updateCcache_of_ok hc] at h
        cases h
      | error error' =>
        rw [updateCcache_of_error hc, hcleared] at h
        exact (Prod.mk.inj h).2.symm

/-- A TGT that was issued between two seconds. -/
def unevenTgt : AsRepSession := { tgtFor "A" with authTime := ⟨1, by decide, by decide⟩ }

def uneven : TokioClient := (fromTgtSession stillWorld bareConfig unevenTgt ()).1

/-- A cache of the same client with a ticket in it. -/
def ownCache : CCache.File :=
  { CCache.File.new (tgtFor "A").client with
    credentials := [credentialWithTimes (tgtFor "A") ⟨1, 1, 2, 0⟩] }

theorem tgtRealm_unevenTgt : tgtRealm unevenTgt = some "A" := tgtRealm_tgtFor "A"

theorem uneven_eq : uneven = (TokioClient.new bareConfig (tgtFor "A").client none).withPrimary unevenTgt :=
  fromTgtSession_own stillWorld bareConfig tgtRealm_unevenTgt ()

theorem not_u32Times_unevenTgt : ¬ U32Times unevenTgt := by
  intro h
  have hwhole : (1 : ℤ) % nanosPerSec = 0 := h.authTime.2.2
  exact absurd hwhole (by decide)

/-- A time with a fraction of a second: the update fails, and the old ticket is gone. -/
theorem update_not_atomic :
    Reachable stillWorld (.ofKnownAnswers (.ofRc4Sealed [])) (.ofTable {}) uneven ∧
    ∃ error cache', uneven.updateCcache ownCache = (.error error, cache') ∧
      ownCache.credentials ≠ [] ∧ cache'.credentials = [] := by
  have hreach : Reachable stillWorld (.ofKnownAnswers (.ofRc4Sealed [])) (.ofTable {}) uneven :=
    ⟨_, .fromTgtSession bareConfig unevenTgt (), .refl⟩
  have hlookup : uneven.lookup (.tgt "A") = some unevenTgt := by
    rw [uneven_eq]
    exact Std.ExtTreeMap.getElem?_insert_self
  have hsaved := (mem_savedSessions hreach.coherent).mpr ⟨_, hlookup⟩
  have hcleared : (uneven.clearedFor ownCache).credentials = [] := by
    have hclient : uneven.client = (tgtFor "A").client := by rw [uneven_eq]; rfl
    rw [clearedFor, hclient]
    decide
  refine ⟨hreach, ?_⟩
  cases hc : uneven.ccacheCredentials with
  | ok credentials =>
    have hto := exists_mapM_iff.mp ⟨credentials, hc⟩ unevenTgt hsaved
    exact absurd (exists_toCcacheCredential.mp hto) not_u32Times_unevenTgt
  | error error =>
    exact ⟨error, _, updateCcache_of_error hc, List.cons_ne_nil _ _, hcleared⟩

end Atomicity

end Rskrb5.Client.TokioClient
