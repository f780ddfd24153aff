import Rskrb5.Client.Answers
import Rskrb5.Client.Tokio

namespace Rskrb5.Client.TokioClient

open Lib.Results Lib.Programs Crypto

section Maps

variable {β : Type} (t : Std.ExtTreeMap String β)

theorem getElem?_insert (k a : String) (v : β) : (t.insert k v)[a]? = if k = a then some v else t[a]? := by
  simp only [Std.ExtTreeMap.getElem?_insert, Std.compare_eq_iff_eq]

theorem getElem?_erase (k a : String) : (t.erase k)[a]? = if k = a then none else t[a]? := by
  simp only [Std.ExtTreeMap.getElem?_erase, Std.compare_eq_iff_eq]

end Maps

/-- Every session is stored under the realm that it is a TGT for. -/
def Keyed (c : TokioClient) : Prop :=
  ∀ realm session, c.tgtSessions[realm]? = some session → tgtRealm session = some realm

/-- The primary TGT is the session of the client's own realm. -/
structure Coherent (c : TokioClient) : Prop where
  primary : c.tgt = c.tgtSessions[c.client.realm]?
  keyed : c.Keyed

section State

variable {c : TokioClient}

theorem Coherent.tgtRealm_tgt (h : c.Coherent) : ∀ tgt ∈ c.tgt, tgtRealm tgt = some c.client.realm := by
  intro tgt ht
  rw [h.primary] at ht
  exact h.keyed _ _ ht

theorem Coherent.tgtRealm_cached (h : c.Coherent) {realm : String} {tgt : AsRepSession}
    (ht : (if realm = c.client.realm then c.tgt.or c.tgtSessions[realm]? else c.tgtSessions[realm]?) =
      some tgt) : tgtRealm tgt = some realm := by
  split at ht
  · next heq =>
    rw [heq, ← h.primary, Option.or_self] at ht
    exact heq ▸ h.tgtRealm_tgt tgt ht
  · exact h.keyed _ _ ht

theorem coherent_new (config : Config) (client : Principal)
    (credentials : Option TokioClientCredentials) : (new config client credentials).Coherent where
  primary := Std.ExtTreeMap.getElem?_empty.symm
  keyed _ _ h := by simp [new] at h

theorem keyed_insert (h : c.Keyed) {realm : String} {session : AsRepSession}
    (hs : tgtRealm session = some realm) :
    Keyed { c with tgtSessions := c.tgtSessions.insert realm session } := by
  intro realm' session' h'
  simp only [getElem?_insert] at h'
  split at h'
  · next heq =>
    obtain rfl := Option.some.inj h'
    rw [hs, heq]
  · exact h _ _ h'

theorem Keyed.erase (h : c.Keyed) (realm : String) :
    Keyed { c with tgtSessions := c.tgtSessions.erase realm } := by
  intro realm' session' h'
  simp only [getElem?_erase] at h'
  split at h'
  · simp at h'
  · exact h _ _ h'

theorem coherent_storeRenewed (h : c.Coherent) {renewed : AsRepSession} {realm : String}
    (hr : tgtRealm renewed = some realm) : (c.storeRenewed renewed realm).Coherent := by
  simp only [storeRenewed]
  split
  · next heq =>
    have hk := keyed_insert h.keyed hr
    exact ⟨by simp [heq], hk⟩
  · next hne =>
    refine ⟨?_, keyed_insert h.keyed hr⟩
    simp only [getElem?_insert, hne, if_false]
    exact h.primary

theorem tgt_storeRenewed (renewed : AsRepSession) :
    (c.storeRenewed renewed c.client.realm).tgt = some renewed := by
  simp [storeRenewed]

theorem tgtRealm_preferredSessionAt {current : Option AsRepSession} {candidate : AsRepSession}
    {realm : String} (hcur : ∀ session ∈ current, tgtRealm session = some realm)
    (hcand : tgtRealm candidate = some realm) (now : SystemTime) :
    tgtRealm (preferredSessionAt current candidate now) = some realm := by
  rcases preferredSessionAt_eq current candidate now with h | h
  · rw [h, hcand]
  · exact hcur _ h

def withPrimary (c : TokioClient) (primary : AsRepSession) : TokioClient :=
  { c with
    tgt := some primary
    tgtSessions := (c.tgtSessions.erase c.client.realm).insert c.client.realm primary }

/-- A TGT of the client's own realm makes a client coherent as soon as its sessions are keyed. -/
theorem cacheTgtSessionAt_own (hk : c.Keyed) (ht : ∀ tgt ∈ c.tgt, tgtRealm tgt = some c.client.realm)
    {tgt : AsRepSession} (hr : tgtRealm tgt = some c.client.realm) (now : SystemTime) :
    ∃ primary, tgtRealm primary = some c.client.realm ∧
      c.cacheTgtSessionAt tgt now = (.ok (), c.withPrimary primary) := by
  refine ⟨preferredSessionAt c.tgt (preferredSessionAt c.tgtSessions[c.client.realm]? tgt now) now, ?_, ?_⟩
  · exact tgtRealm_preferredSessionAt ht
      (tgtRealm_preferredSessionAt (fun session hs ↦ hk _ _ hs) hr now) now
  · simp [cacheTgtSessionAt, hr, withPrimary]

theorem coherent_withPrimary (hk : c.Keyed) {primary : AsRepSession}
    (hp : tgtRealm primary = some c.client.realm) : (c.withPrimary primary).Coherent := by
  have hkeyed := keyed_insert (hk.erase c.client.realm) hp
  exact ⟨by simp [withPrimary], hkeyed⟩

theorem fromTgtSession_own {ω : Type} (W : World ω) (config : Config) {tgt : AsRepSession}
    (h : tgtRealm tgt = some tgt.client.realm) (w : ω) :
    (fromTgtSession W config tgt w).1 = (new config tgt.client none).withPrimary tgt := by
  change ((new config tgt.client none).cacheTgtSessionAt tgt (W.now w).1).2 = _
  simp [cacheTgtSessionAt, h, withPrimary, new, preferredSessionAt]

theorem coherent_cacheTgtSessionAt (h : c.Coherent) (tgt : AsRepSession) (now : SystemTime) :
    (c.cacheTgtSessionAt tgt now).2.Coherent ∧ (c.cacheTgtSessionAt tgt now).2.client = c.client := by
  cases hr : tgtRealm tgt with
  | none => simpa [cacheTgtSessionAt, hr] using h
  | some realm =>
    by_cases heq : realm = c.client.realm
    · subst heq
      obtain ⟨primary, hp, he⟩ := cacheTgtSessionAt_own h.keyed h.tgtRealm_tgt hr now
      rw [he]
      exact ⟨coherent_withPrimary h.keyed hp, rfl⟩
    · simp only [cacheTgtSessionAt, hr, heq, if_false]
      refine ⟨⟨?_, ?_⟩, trivial⟩
      · simp only [getElem?_insert, getElem?_erase, heq, if_false]
        exact h.primary
      · exact keyed_insert (h.keyed.erase realm)
          (tgtRealm_preferredSessionAt (fun session hs ↦ h.keyed _ _ hs) hr now)

theorem coherent_removeTgtSessionForRealm (h : c.Coherent) (realm : String) :
    (c.removeTgtSessionForRealm realm).2.Coherent := by
  simp only [removeTgtSessionForRealm]
  split
  · next heq => exact ⟨by simp [heq], h.keyed.erase realm⟩
  · next hne =>
    refine ⟨?_, h.keyed.erase realm⟩
    simp only [getElem?_erase, hne, if_false]
    exact h.primary

theorem coherent_pruneUnusableSessionsAt (h : c.Coherent) (now : SystemTime) :
    (c.pruneUnusableSessionsAt now).2.Coherent := by
  constructor
  · simp only [pruneUnusableSessionsAt, Std.ExtTreeMap.getElem?_filter', ← h.primary]
    cases c.tgt with
    | none => rfl
    | some tgt => cases hu : sessionUsableAt tgt now <;> simp [hu, Option.filter]
  · intro realm session hs
    simp only [pruneUnusableSessionsAt, Std.ExtTreeMap.getElem?_filter', Option.filter_eq_some_iff] at hs
    exact h.keyed _ _ hs.1

theorem coherent_destroy : c.destroy.Coherent where
  primary := Std.ExtTreeMap.getElem?_empty.symm
  keyed _ _ h := by simp [destroy] at h

structure Held (p : Principal) (c : TokioClient) : Prop where
  coherent : c.Coherent
  client_eq : c.client = p

theorem Held.of_sessions {p : Principal} {c' : TokioClient} (h : Held p c) (ht : c'.tgt = c.tgt)
    (hs : c'.tgtSessions = c.tgtSessions) (hc : c'.client = c.client) : Held p c' := by
  obtain ⟨⟨hprimary, hkeyed⟩, hclient⟩ := h
  refine ⟨⟨by rw [ht, hs, hc, hprimary], ?_⟩, hc.trans hclient⟩
  rwa [Keyed, hs]

end State

section Holdings

variable {c c' : TokioClient} {kind : AsRepSession → Prop}

/-- Every TGT and every ticket of a client is of a kind. -/
structure HoldsOnly (kind : AsRepSession → Prop) (c : TokioClient) : Prop where
  tgt : ∀ tgt ∈ c.tgt, kind tgt
  tgtSessions : ∀ (realm : String) (session : AsRepSession), c.tgtSessions[realm]? = some session → kind session
  serviceTickets : ∀ (key : String) (ticket : TgsRepSession), c.serviceTickets[key]? = some ticket → kind ticket

theorem holdsOnly_new (config : Config) (client : Principal) (credentials : Option TokioClientCredentials) :
    HoldsOnly kind (new config client credentials) where
  tgt tgt h := by simp [new] at h
  tgtSessions _ _ h := by simp [new] at h
  serviceTickets _ _ h := by simp [new] at h

theorem kind_preferredSessionAt {current : Option AsRepSession} {candidate : AsRepSession}
    (hcurrent : ∀ session ∈ current, kind session) (hcandidate : kind candidate) (now : SystemTime) :
    kind (preferredSessionAt current candidate now) := by
  rcases preferredSessionAt_eq current candidate now with h | h
  · rwa [h]
  · exact hcurrent _ h

theorem kind_insert {t : Std.ExtTreeMap String AsRepSession}
    (h : ∀ (key : String) (session : AsRepSession), t[key]? = some session → kind session) {key : String}
    {session : AsRepSession} (hs : kind session) (key' : String) (session' : AsRepSession)
    (h' : (t.insert key session)[key']? = some session') : kind session' := by
  rw [getElem?_insert] at h'
  split at h'
  · exact Option.some.inj h' ▸ hs
  · exact h _ _ h'

theorem kind_erase {t : Std.ExtTreeMap String AsRepSession}
    (h : ∀ (key : String) (session : AsRepSession), t[key]? = some session → kind session)
    (key key' : String) (session : AsRepSession) (h' : (t.erase key)[key']? = some session) : kind session := by
  rw [getElem?_erase] at h'
  split at h'
  · cases h'
  · exact h _ _ h'

namespace HoldsOnly

/-- What holds fewer sessions, holds fewer of others. -/
theorem of_subset (h : HoldsOnly kind c) (htgt : ∀ tgt ∈ c'.tgt, tgt ∈ c.tgt)
    (hsessions : ∀ (realm : String) (session : AsRepSession),
      c'.tgtSessions[realm]? = some session → c.tgtSessions[realm]? = some session)
    (htickets : ∀ (key : String) (ticket : TgsRepSession),
      c'.serviceTickets[key]? = some ticket → c.serviceTickets[key]? = some ticket) : HoldsOnly kind c' where
  tgt tgt ht := h.tgt tgt (htgt tgt ht)
  tgtSessions realm session hs := h.tgtSessions realm session (hsessions realm session hs)
  serviceTickets key ticket ht := h.serviceTickets key ticket (htickets key ticket ht)

theorem cacheServiceTicketAt (h : HoldsOnly kind c) {ticket : TgsRepSession} (ht : kind ticket)
    (now : SystemTime) : HoldsOnly kind (c.cacheServiceTicketAt ticket now) where
  tgt := h.tgt
  tgtSessions := h.tgtSessions
  serviceTickets := kind_insert (kind_erase h.serviceTickets _)
    (kind_preferredSessionAt (h.serviceTickets _) ht now)

theorem cacheTgtSessionAt (h : HoldsOnly kind c) {tgt : AsRepSession} (ht : kind tgt) (now : SystemTime) :
    HoldsOnly kind (c.cacheTgtSessionAt tgt now).2 := by
  cases hr : tgtRealm tgt with
  | none => simpa [TokioClient.cacheTgtSessionAt, hr] using h
  | some realm =>
    have hselected := kind_preferredSessionAt (h.tgtSessions realm) ht now
    by_cases heq : realm = c.client.realm
    · have hprimary := kind_preferredSessionAt h.tgt hselected now
      simp only [TokioClient.cacheTgtSessionAt, hr, heq, if_true]
      rw [← heq]
      refine ⟨fun tgt hmem ↦ ?_, ?_, h.serviceTickets⟩
      · exact Option.some.inj hmem ▸ hprimary
      · exact kind_insert (kind_erase h.tgtSessions _) hprimary
    · simp only [TokioClient.cacheTgtSessionAt, hr, heq, if_false]
      exact ⟨h.tgt, kind_insert (kind_erase h.tgtSessions _) hselected, h.serviceTickets⟩

theorem storeRenewed (h : HoldsOnly kind c) {renewed : AsRepSession} (hr : kind renewed) (realm : String) :
    HoldsOnly kind (c.storeRenewed renewed realm) := by
  simp only [TokioClient.storeRenewed]
  split
  · refine ⟨fun tgt hmem ↦ ?_, kind_insert h.tgtSessions hr, h.serviceTickets⟩
    exact Option.some.inj hmem ▸ hr
  · exact ⟨h.tgt, kind_insert h.tgtSessions hr, h.serviceTickets⟩

theorem clearServiceTicketCache (h : HoldsOnly kind c) : HoldsOnly kind c.clearServiceTicketCache :=
  h.of_subset (fun _ h ↦ h) (fun _ _ h ↦ h) fun _ _ h ↦ by simp [TokioClient.clearServiceTicketCache] at h

theorem removeTgtSessionForRealm (h : HoldsOnly kind c) (realm : String) :
    HoldsOnly kind (c.removeTgtSessionForRealm realm).2 := by
  have hsub : ∀ (realm' : String) (session : AsRepSession),
      (c.tgtSessions.erase realm)[realm']? = some session → c.tgtSessions[realm']? = some session := by
    intro realm' session hs
    rw [getElem?_erase] at hs
    split at hs
    · cases hs
    · exact hs
  simp only [TokioClient.removeTgtSessionForRealm]
  split
  · exact h.of_subset (fun tgt hmem ↦ by cases hmem) hsub fun _ _ h ↦ h
  · exact h.of_subset (fun _ h ↦ h) hsub fun _ _ h ↦ h

theorem pruneUnusableSessionsAt (h : HoldsOnly kind c) (now : SystemTime) :
    HoldsOnly kind (c.pruneUnusableSessionsAt now).2 := by
  refine h.of_subset (fun tgt hmem ↦ ?_) (fun realm session hs ↦ ?_) fun key ticket ht ↦ ?_
  · simp only [TokioClient.pruneUnusableSessionsAt] at hmem
    split at hmem
    · cases hmem
    · exact hmem
  · simp only [TokioClient.pruneUnusableSessionsAt, Std.ExtTreeMap.getElem?_filter', Option.filter_eq_some_iff] at hs
    exact hs.1
  · simp only [TokioClient.pruneUnusableSessionsAt, Std.ExtTreeMap.getElem?_filter', Option.filter_eq_some_iff] at ht
    exact ht.1

theorem destroy (h : HoldsOnly kind c) : HoldsOnly kind c.destroy :=
  h.of_subset (fun tgt hmem ↦ by cases hmem) (fun _ _ h ↦ by simp [TokioClient.destroy] at h)
    fun _ _ h ↦ by simp [TokioClient.destroy] at h

end HoldsOnly

end Holdings

end Rskrb5.Client.TokioClient
