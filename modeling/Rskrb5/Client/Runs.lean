import Rskrb5.Client.Acts

namespace Rskrb5.Client.TokioClient

open Lib.Results Lib.Programs Crypto

variable {ω : Type} {W : World ω} {P : Primitives} {R : Rasn} {S : Scope} {pre : TokioClient × ω → Prop}

section Steps

theorem runs_expectTgt (h : ∀ s, S.Covers s.1 → pre s → s.1.tgt.isSome) (message : String) :
    Runs W P R S pre (expectTgt message) fun tgt s ↦ pre s ∧ s.1.tgt = some tgt := by
  refine .look fun s₀ hs₀ hpre ↦ ?_
  obtain ⟨tgt, htgt⟩ := Option.isSome_iff_exists.mp (h s₀ hs₀ hpre)
  simp only [htgt]
  exact .pure fun s _ hs ↦ hs ▸ ⟨hpre, htgt⟩

/-- The options of a request are made of the client, the clock and a nonce. -/
theorem runs_options {α : Type} (hpre : Stable W pre) (options : TokioClient → SystemTime → UInt32 → α) :
    Runs W P R S pre (do
      let c ← .read
      let now ← outside (now W)
      let nonce ← outside (randomNonce W)
      return options c now nonce) fun _ ↦ pre := by
  refine .look fun s₀ _ h₀ ↦ ?_
  refine Runs.weaken ?_ (fun s _ hs ↦ (hs ▸ h₀ : pre s)) fun _ _ _ h ↦ h
  exact .bind (.ask hpre asks_now) fun _ ↦ .bind (.ask hpre asks_randomNonce) fun _ ↦ .pure fun _ _ h ↦ h

theorem runs_tgsReqOptions (hpre : Stable W pre) : Runs W P R S pre (tgsReqOptions W) fun _ ↦ pre :=
  runs_options hpre _

theorem runs_asReqOptions (hpre : Stable W pre) : Runs W P R S pre (asReqOptions W) fun _ ↦ pre :=
  runs_options hpre _

theorem Obtained.mono {target : Principal} {c : TokioClient} {w w' : ω} {ticket : TgsRepSession}
    (h : Obtained W P R target (c, w) ticket) (hlater : W.Later w w') : Obtained W P R target (c, w') ticket := by
  cases h with
  | renewed stored answer held service given ticket_eq =>
    exact .renewed stored answer held service (given.mono hlater) ticket_eq
  | given service given => exact .given service (given.mono hlater)

theorem runs_cacheServiceTicket {ticket : TgsRepSession} (hkind : S.kind ticket) :
    Runs W P R S (fun s ↦ Obtained W P R S.target s ticket) (cacheServiceTicket W ticket) fun _ _ ↦ True := by
  refine .bind (.ask (fun _ _ _ hlater h ↦ h.mono hlater) asks_now) fun now ↦ .update fun s _ h ↦ ⟨?_, trivial⟩
  exact .single (.cacheServiceTicketAt ticket now hkind h)

theorem runs_cacheTgtSession {tgt : AsRepSession} (hkind : S.kind tgt) (htaken : S.taken tgt) :
    Runs W P R S (fun _ ↦ True) (cacheTgtSession W tgt) fun _ _ ↦ True := by
  refine .bind (.ask (fun _ _ _ _ h ↦ h) asks_now) fun now s hs ↦ ?_
  simp only [Program.exec_ofExec]
  refine ⟨.single (.cacheTgtSessionAt tgt now hkind htaken), ?_⟩
  rcases (s.1.cacheTgtSessionAt tgt now).1 with source | _
  · exact ⟨source, rfl⟩
  · trivial

theorem runs_cacheTgtSessions {tgts : List AsRepSession} (h : ∀ tgt ∈ tgts, S.kind tgt ∧ S.taken tgt) :
    Runs W P R S (fun _ ↦ True) (cacheTgtSessions W tgts) fun _ _ ↦ True := by
  induction tgts with
  | nil => exact .pure fun _ _ h ↦ h
  | cons tgt tgts ih =>
    obtain ⟨htgt, htgts⟩ := List.forall_mem_cons.mp h
    exact .bind (runs_cacheTgtSession htgt.1 htgt.2) fun _ ↦ ih htgts

end Steps

section Tgts

theorem HoldsOnly.cached {kind : AsRepSession → Prop} {c : TokioClient} (h : HoldsOnly kind c) {realm : String}
    {tgt : AsRepSession}
    (ht : (if realm = c.client.realm then c.tgt.or c.tgtSessions[realm]? else c.tgtSessions[realm]?) = some tgt) :
    kind tgt := by
  split at ht
  · rcases Option.or_eq_some_iff.mp ht with ht | ⟨-, ht⟩
    · exact h.tgt tgt ht
    · exact h.tgtSessions realm tgt ht
  · exact h.tgtSessions realm tgt ht

/-- A renewal stores a TGT for the realm it was asked for, as the primary TGT when that realm is the client's own. -/
theorem runs_renewTgtSessionForRealm (c : TokioClient) (realm : String) :
    Runs W P R S (fun s ↦ s.1 = c) (renewTgtSessionForRealm W P R realm) fun renewed s ↦
      IssuedBy W P R realm s.2 renewed ∧ (realm = c.client.realm → s.1.tgt = some renewed) := by
  refine .read fun s₀ hs₀ hc ↦ .bind (.raise _) fun tgt ↦ .assuming (fun _ h ↦ okOr_eq_ok.mp h.2) fun htgt ↦ ?_
  refine .bind (runs_tgsReqOptions fun _ _ _ _ h ↦ h) fun options ↦ ?_
  refine .bind (.outside (fun _ _ _ _ h ↦ h) (asks_renewTgtWithConfig tgt options)) fun renewed ↦ ?_
  refine .bind (.raise _) fun renewedRealm ↦ .bind (.update fun s hs h ↦ ?_) fun _ ↦ .pure fun _ _ h ↦ h
  obtain ⟨⟨⟨hclient, -⟩, hmatches, realm', hrealm', hissued⟩, hrenewed⟩ := h
  have hkind := S.kind_inherited tgt renewed (hs₀.toHoldsOnly.cached htgt) hmatches
  obtain rfl := Option.some.inj (hrealm'.symm.trans (hs₀.coherent.tgtRealm_cached htgt))
  obtain rfl := Option.some.inj (hissued.tgtRealm_eq.symm.trans (okOr_eq_ok.mp hrenewed))
  have hstored (c : TokioClient) : Act W P R S (c, s.2) (c.storeRenewed renewed realm', s.2) :=
    .storeRenewed renewed realm' hkind hissued
  rw [← hc, ← hclient]
  split
  -- A new primary TGT clears the tickets first; any other TGT leaves them.
  · next hown =>
    have hcleared : Act W P R S s (s.1.clearServiceTicketCache, s.2) :=
      .clearServiceTicketCache ⟨renewed, hown ▸ hissued⟩
    refine ⟨.tail (.single hcleared) (hstored _), hissued, fun _ ↦ ?_⟩
    rw [hown, ← show s.1.clearServiceTicketCache.client = s.1.client from rfl, tgt_storeRenewed]
  · next hother => exact ⟨.single (hstored _), hissued, fun hown ↦ absurd hown hother⟩

theorem runs_renewTgt (c : TokioClient) : Runs W P R S (fun s ↦ s.1 = c) (renewTgt W P R) fun tgt s ↦
    s.1.tgt = some tgt ∧ IssuedBy W P R S.client.realm s.2 tgt := by
  refine .read fun s₀ hs₀ hc ↦ .bind (runs_renewTgtSessionForRealm s₀.1 _) fun renewed ↦ ?_
  refine (runs_expectTgt (fun s _ h ↦ ?_) _).weaken (fun _ _ h ↦ h) fun tgt s _ h ↦ ?_
  · rw [h.2 rfl]
    rfl
  · obtain rfl := Option.some.inj ((h.1.2 rfl).symm.trans h.2)
    rw [← hs₀.client_eq]
    exact ⟨h.2, h.1.1⟩

theorem runs_loginFromCache (c : TokioClient) :
    Runs W P R S (fun s ↦ s.1 = c) (loginFromCache W P R) fun tgt s ↦ s.1.tgt = some tgt := by
  refine .read fun s₀ hs₀ hc ↦ ?_
  cases htgt : s₀.1.tgt with
  | none => exact .fail _
  | some tgt =>
    refine .bind (.ask (fun _ _ _ _ h ↦ h) asks_now) fun now ↦ ?_
    split
    · exact (runs_expectTgt (fun s _ h ↦ by rw [h, htgt]; rfl) _).weaken (fun _ _ h ↦ h) fun _ _ _ h ↦ h.2
    split
    · exact (runs_renewTgt s₀.1).weaken (fun _ _ h ↦ h) fun _ _ _ h ↦ h.1
    · exact .fail _

theorem asks_loginTgtWithCredentials (client : Principal) (options : AsReqOptions)
    (credentials : TokioClientCredentials) :
    Asks W (loginTgtWithCredentials W P R client options credentials) fun session w ↦
      IssuedTo client session ∧ IssuedBy W P R client.realm w session := by
  cases credentials with
  | password password => exact asks_loginWith (loginParts_password client _ password options)
  | keytab keytab => exact asks_loginWith (loginParts_keytab client _ keytab options)

theorem exec_cacheTgtSession (W : World ω) {tgt : AsRepSession} (h : (tgtRealm tgt).isSome) (s : TokioClient × ω) :
    (cacheTgtSession W tgt).exec s =
      (.ok (), (s.1.cacheTgtSessionAt tgt (W.now s.2).1).2, (W.now s.2).2) := by
  obtain ⟨realm, hrealm⟩ := Option.isSome_iff_exists.mp h
  have hok : (s.1.cacheTgtSessionAt tgt (W.now s.2).1).1 = .ok () := by
    simp only [cacheTgtSessionAt, hrealm]
    split <;> rfl
  change ((s.1.cacheTgtSessionAt tgt (W.now s.2).1).1.mapError Stop.error, _) = _
  rw [hok]
  rfl

/-- What a login does with the TGT that was issued. -/
def storeIssued (W : World ω) (session : AsRepSession) : ClientProgram ω AsRepSession := do
  .update fun c ↦ { c with tgtSessions := ∅ }
  cacheTgtSession W session
  .update clearServiceTicketCache
  expectTgt "TGT was just inserted"

/-- With the sessions cleared, the new TGT competes with the primary TGT alone. -/
theorem exec_storeIssued {c : TokioClient} {session : AsRepSession} (h : tgtRealm session = some c.client.realm)
    (w : ω) : (storeIssued W session).exec (c, w) =
      (.ok (preferredSessionAt c.tgt session (W.now w).1),
        c.loggedIn (preferredSessionAt c.tgt session (W.now w).1), (W.now w).2) := by
  have hcleared : (Program.update (fun c ↦ { c with tgtSessions := ∅ }) : ClientProgram ω Unit).exec (c, w) =
      (.ok (), { c with tgtSessions := ∅ }, w) := rfl
  have hsome : (tgtRealm session).isSome := by rw [h]; rfl
  have hcached := exec_cacheTgtSession W hsome ({ c with tgtSessions := ∅ }, w)
  have hkept : (cacheTgtSessionAt { c with tgtSessions := ∅ } session (W.now w).1).2 =
      withPrimary { c with tgtSessions := ∅ } (preferredSessionAt c.tgt session (W.now w).1) := by
    simp only [cacheTgtSessionAt, h, Std.ExtTreeMap.getElem?_empty, preferredSessionAt, if_true, withPrimary]
  rw [storeIssued, Program.exec_bind_ok hcleared, Program.exec_bind_ok hcached, hkept]
  rfl

/-- How the primary TGT stands after a login: it is new, or the old one was preferred to the new one. -/
inductive LoggedIn (W : World ω) (c : TokioClient) (issued : AsRepSession → Prop) (tgt : AsRepSession) : Prop
  | issued (h : issued tgt)
  | preferred (session : AsRepSession) (w : ω) (held : c.tgt = some tgt) (h : issued session)
    (prefers : preferCurrentSessionAt tgt session (W.now w).1 = true)

theorem runs_loginWithCredentials (c : TokioClient) (credentials : TokioClientCredentials) :
    Runs W P R S (fun s ↦ s.1 = c) (loginWithCredentials W P R credentials) fun tgt s ↦
      s.1.tgt = some tgt ∧ LoggedIn W c (IssuedBy W P R S.client.realm s.2) tgt := by
  refine .read fun s₀ hs₀ hc ↦ .bind (runs_asReqOptions fun _ _ _ _ h ↦ h) fun options ↦ ?_
  refine .bind (.outside (fun _ _ _ _ h ↦ h) (asks_loginTgtWithCredentials _ options credentials)) fun session ↦ ?_
  change Runs _ _ _ _ _ (storeIssued W session) _
  refine Goes.of_ok fun s hs ↦ ?_
  obtain ⟨hcovers, hclient, hto, hissued⟩ := hs
  rw [hs₀.client_eq] at hto hissued
  -- The KDCs of the client's realm have issued the TGT, so it is stored in the primary's place.
  have hown : tgtRealm session = some s.1.client.realm := hcovers.client_eq ▸ hissued.tgtRealm_eq
  refine ⟨_, _, exec_storeIssued hown s.2, .tail (.single (.wait (.single .now))) ?_, rfl, ?_⟩
  · exact .loggedIn session _ (S.kind_issued session hto) (hcovers.client_eq ▸ hissued.mono (.single .now))
  · rcases preferredSessionAt_cases s.1.tgt session (W.now s.2).1 with hnew | ⟨hold, hprefers⟩
    · rw [hnew]
      exact .issued (hissued.mono (.single .now))
    · exact .preferred session s.2 (hc ▸ hclient ▸ hold) (hissued.mono (.single .now)) hprefers

theorem runs_login (c : TokioClient) :
    Runs W P R S (fun s ↦ s.1 = c) (login W P R) fun tgt s ↦ s.1.tgt = some tgt := by
  refine .read fun s₀ _ hc ↦ ?_
  cases s₀.1.credentials with
  | none => exact runs_loginFromCache s₀.1
  | some credentials => exact (runs_loginWithCredentials s₀.1 credentials).weaken (fun _ _ h ↦ h) fun _ _ _ h ↦ h.1

theorem runs_affirmLogin (c : TokioClient) :
    Runs W P R S (fun s ↦ s.1 = c) (affirmLogin W P R) fun tgt s ↦ s.1.tgt = some tgt := by
  refine .read fun s₀ _ hc ↦ ?_
  cases htgt : s₀.1.tgt with
  | none => exact runs_login s₀.1
  | some tgt =>
    refine .bind (.ask (fun _ _ _ _ h ↦ h) asks_now) fun now ↦ ?_
    split
    · exact (runs_expectTgt (fun s _ h ↦ by rw [h, htgt]; rfl) _).weaken (fun _ _ h ↦ h) fun _ _ _ h ↦ h.2
    split
    · exact (runs_renewTgt s₀.1).weaken (fun _ _ h ↦ h) fun _ _ _ h ↦ h.1
    · exact runs_login s₀.1

theorem runs_loginIfPossible (c : TokioClient) :
    Runs W P R S (fun s ↦ s.1 = c) (loginIfPossible W P R) fun tgt s ↦
      s.1.tgt = some tgt ∧ LoggedIn W c (IssuedBy W P R S.client.realm s.2) tgt := by
  refine .read fun s₀ _ hc ↦ ?_
  subst hc
  cases hcredentials : s₀.1.credentials with
  | none => exact .fail _
  | some credentials =>
    refine .read fun s₁ _ hs₁ ↦ ?_
    rw [hs₁, hcredentials]
    exact runs_loginWithCredentials s₀.1 credentials

/-- How the primary TGT stands after `ensure_tgt` has looked at it at a time. -/
inductive Ensured (W : World ω) (c : TokioClient) (now : SystemTime) (issued : AsRepSession → Prop)
    (tgt : AsRepSession) : Prop
  | fresh (held : c.tgt = some tgt) (valid : sessionValidAt tgt now = true)
    (notDue : sessionRefreshDueAt tgt now = false)
  | renewed (h : issued tgt)
  | stuck (held : c.tgt = some tgt) (valid : sessionValidAt tgt now = true)
    (notRenewable : sessionRenewableAt tgt now = false) (noCredentials : c.credentials = none)
  | loggedIn (notRenewable : ∀ tgt ∈ c.tgt, sessionRenewableAt tgt now = false) (h : LoggedIn W c issued tgt)

theorem runs_ensureTgt : Runs W P R S pre (ensureTgt W P R) fun tgt s ↦ s.1.tgt = some tgt ∧
    ∃ s₀, pre s₀ ∧ Ensured W s₀.1 (W.now s₀.2).1 (IssuedBy W P R S.client.realm s.2) tgt := by
  refine .look fun s hs hpre ↦ ?_
  suffices h : Runs W P R S (fun s' ↦ s' = s) _ fun tgt s' ↦ s'.1.tgt = some tgt ∧
      Ensured W s.1 (W.now s.2).1 (IssuedBy W P R S.client.realm s'.2) tgt from
    h.weaken (fun _ _ h ↦ h) fun _ _ _ h ↦ ⟨h.1, s, hpre, h.2⟩
  -- A login follows in two places: without a TGT, and with one that cannot be renewed.
  have hlogin (hrenewable : ∀ tgt ∈ s.1.tgt, sessionRenewableAt tgt (W.now s.2).1 = false) :
      Runs W P R S (fun s' ↦ s'.1 = s.1) (loginIfPossible W P R) fun tgt s' ↦ s'.1.tgt = some tgt ∧
        Ensured W s.1 (W.now s.2).1 (IssuedBy W P R S.client.realm s'.2) tgt :=
    (runs_loginIfPossible s.1).weaken (fun _ _ h ↦ h) fun _ _ _ h ↦ ⟨h.1, .loggedIn hrenewable h.2⟩
  cases htgt : s.1.tgt with
  | none => exact (hlogin (by simp [htgt])).weaken (fun _ _ h ↦ h ▸ rfl) fun _ _ _ h ↦ h
  | some tgt =>
    have hheld (s' : TokioClient × ω) (h : s'.1 = s.1) : s'.1.tgt = some tgt := h ▸ htgt
    refine .bind (.clock s) fun now ↦ .assuming (fun _ h ↦ h.2) fun hnow ↦ ?_
    subst hnow
    split
    · next hfresh =>
      exact .pure fun s' _ h ↦ ⟨hheld s' h.1, .fresh htgt hfresh.1 (Bool.not_eq_true _ ▸ hfresh.2)⟩
    split
    · exact (runs_renewTgt s.1).weaken (fun _ _ h ↦ h.1) fun _ _ _ h ↦ ⟨h.1, .renewed h.2⟩
    · next hrenewable =>
      replace hrenewable : sessionRenewableAt tgt (W.now s.2).1 = false := Bool.not_eq_true _ ▸ hrenewable
      split
      · next hstuck =>
        exact .pure fun s' _ h ↦ ⟨hheld s' h.1, .stuck htgt hstuck.1 hrenewable hstuck.2⟩
      · exact (hlogin (by simpa [htgt] using hrenewable)).weaken (fun _ _ h ↦ h.1) fun _ _ _ h ↦ h

theorem runs_refreshTgtIfNeeded : Runs W P R S pre (refreshTgtIfNeeded W P R) fun tgt s ↦ s.1.tgt = some tgt ∧
    ∃ s₀, pre s₀ ∧ Ensured W s₀.1 (W.now s₀.2).1 (IssuedBy W P R S.client.realm s.2) tgt := by
  refine .bind runs_ensureTgt fun tgt ↦ .look fun s _ h ↦ (Runs.raise _).weaken (fun _ _ h ↦ h) fun tgt' s' _ hs' ↦ ?_
  obtain ⟨rfl, htgt'⟩ := hs'
  obtain rfl := Option.some.inj (h.1.symm.trans (okOr_eq_ok.mp htgt'))
  exact h

end Tgts

section Tickets

theorem runs_cachedTgtSessionForRealm (realm : String) : Runs W P R S pre (cachedTgtSessionForRealm W realm)
    fun cached _ ↦ ∀ tgt ∈ cached, S.kind tgt ∧ tgtRealm tgt = some realm := by
  refine .read fun s₀ hs₀ _ ↦ ?_
  cases htgt : s₀.1.tgtSessions[realm]? with
  | none => exact .pure fun _ _ _ ↦ by simp
  | some tgt =>
    refine .bind (.ask (fun _ _ _ _ h ↦ h) asks_now) fun now ↦ .pure fun _ _ _ tgt' hmem ↦ ?_
    split at hmem
    · exact Option.some.inj hmem ▸ ⟨hs₀.tgtSessions realm tgt htgt, hs₀.coherent.keyed realm tgt htgt⟩
    · cases hmem

theorem runs_renewCachedTgtSessionForRealm (realm : String) :
    Runs W P R S pre (renewCachedTgtSessionForRealm W P R realm)
      fun renewed _ ↦ ∀ tgt ∈ renewed, S.kind tgt ∧ tgtRealm tgt = some realm := by
  refine .read fun s₀ hs₀ _ ↦ ?_
  have hnone {pre : TokioClient × ω → Prop} : Runs W P R S pre
      (pure none : ClientProgram ω (Option AsRepSession)) fun renewed _ ↦
        ∀ tgt ∈ renewed, S.kind tgt ∧ tgtRealm tgt = some realm := .pure fun _ _ _ ↦ by simp
  cases htgt : s₀.1.tgtSessions[realm]? with
  | none => exact hnone
  | some tgt =>
    refine .bind (.ask (fun _ _ _ _ h ↦ h) asks_now) fun now ↦ ?_
    split
    · exact hnone
    refine .bind (runs_tgsReqOptions fun _ _ _ _ h ↦ h) fun options ↦ ?_
    refine .bind (.attempt (.outside (fun _ _ _ _ h ↦ h) (asks_renewTgtWithConfig tgt options))) fun renewed ↦ ?_
    -- A renewal that fails is taken for no TGT.
    cases renewed with
    | error e => exact hnone
    | ok renewed =>
      refine .bind (.raise _) fun renewedRealm ↦ ?_
      suffices hstore : Runs W P R S _ _ fun _ _ ↦ S.kind renewed ∧ tgtRealm renewed = some realm from
        .bind hstore fun _ ↦ .pure fun _ _ h tgt' hmem ↦ Option.some.inj hmem ▸ h
      refine .update fun s _ h ↦ ?_
      obtain ⟨-, hmatches, realm', hrealm', hissued⟩ := h.1 renewed rfl
      have hkind := S.kind_inherited tgt renewed (hs₀.tgtSessions realm tgt htgt) hmatches
      obtain rfl := Option.some.inj (hrealm'.symm.trans (hs₀.coherent.keyed realm tgt htgt))
      obtain rfl := Option.some.inj (hissued.tgtRealm_eq.symm.trans (okOr_eq_ok.mp h.2))
      exact ⟨.single (.storeRenewed renewed _ hkind hissued), hkind, hissued.tgtRealm_eq⟩

/-- A valid ticket that stands in the place of a service, handed out under the service's name. -/
def HitIn (c : TokioClient) (target : Principal) (now : SystemTime) (ticket : TgsRepSession) : Prop :=
  ∃ stored, c.serviceTickets[serviceCacheKey target]? = some stored ∧ sessionValidAt stored now = true ∧
    ticket = { stored with service := target }

/-- What is found for a service is a hit, or a ticket that a KDC gave. -/
def Found (W : World ω) (P : Primitives) (R : Rasn) (S : Scope) (pre : TokioClient × ω → Prop)
    (ticket : TgsRepSession) (w : ω) : Prop :=
  S.kind ticket ∧ ∃ s₀, pre s₀ ∧
    (s₀.1.HitIn S.target (W.now s₀.2).1 ticket ∨ Obtained W P R S.target (s₀.1, w) ticket)

theorem Found.mono {ticket : TgsRepSession} {w w' : ω} (h : Found W P R S pre ticket w) (hlater : W.Later w w') :
    Found W P R S pre ticket w' := by
  obtain ⟨hkind, s₀, hpre, hfound⟩ := h
  exact ⟨hkind, s₀, hpre, hfound.imp_right fun h ↦ h.mono hlater⟩

theorem runs_cachedOrRenewedTicket : Runs W P R S pre (cachedOrRenewedTicket W P R S.target)
    fun cached s ↦ ∀ ticket ∈ cached, Found W P R S pre ticket s.2 := by
  refine .look fun s₀ hs₀ hpre ↦ ?_
  have hnone {pre' : TokioClient × ω → Prop} : Runs W P R S pre'
      (pure none : ClientProgram ω (Option TgsRepSession)) fun cached s ↦
        ∀ ticket ∈ cached, Found W P R S pre ticket s.2 := .pure fun _ _ _ ↦ by simp
  have hsame (session : AsRepSession) (service : Principal) (h : S.kind session) : S.kind { session with service } :=
    S.kind_inherited session _ h (principalMatches_self _)
  cases hstored : s₀.1.serviceTickets[serviceCacheKey S.target]? with
  | none => exact hnone
  | some stored =>
    have hkind := hs₀.serviceTickets _ stored hstored
    refine .bind (.clock s₀) fun now ↦ .assuming (fun _ h ↦ h.2) fun hnow ↦ ?_
    subst hnow
    split
    · next hvalid =>
      refine .pure fun _ _ _ ticket hmem ↦ ⟨?_, s₀, hpre, .inl ⟨stored, hstored, hvalid, ?_⟩⟩
      · exact Option.some.inj hmem ▸ hsame stored S.target hkind
      · exact (Option.some.inj hmem).symm
    split
    · exact hnone
    refine .bind (runs_tgsReqOptions fun _ _ _ _ h ↦ h) fun options ↦ ?_
    have hrenew := asks_renewTicketWithConfig (W := W) (P := P) (R := R) stored options
    refine .bind (.attempt (.outside (fun _ _ _ _ h ↦ h) hrenew)) fun renewed ↦ ?_
    cases renewed with
    | error e => exact hnone
    | ok renewed =>
      refine .assuming (fun _ h ↦ And.intro (h renewed rfl).2.1 (h renewed rfl).2.2.1) fun hmatches ↦ ?_
      have hrenewed := hsame renewed S.target (S.kind_inherited stored renewed hkind hmatches.1)
      have hobtained {w : ω} (hgiven : GivenBy W P R w renewed) :
          Obtained W P R S.target (s₀.1, w) { renewed with service := S.target } :=
        .renewed stored renewed hstored hmatches.2 hgiven rfl
      -- That a KDC gave the ticket is known before it is cached, and still known after it.
      have hcache := (runs_cacheServiceTicket hrenewed).frame (W := W) (P := P) (R := R)
        (fun _ _ hlater (h : GivenBy W P R _ renewed) ↦ h.mono hlater)
      refine .bind (hcache.weaken (fun s _ h ↦ ?_) fun _ _ _ h ↦ h.2) fun _ ↦ .pure fun s _ hgiven ticket hmem ↦ ?_
      · obtain ⟨⟨hclient, -⟩, -, -, hgiven⟩ := h renewed rfl
        refine ⟨?_, hgiven⟩
        rw [← Prod.mk.eta (p := s), hclient]
        exact hobtained hgiven
      · exact Option.some.inj hmem ▸ ⟨hrenewed, s₀, hpre, .inr (hobtained hgiven)⟩

/-- The TGT that a request starts with is of the realm of the service, or of the client's own. -/
theorem runs_startingTgt (realm : String) : Runs W P R S pre (startingTgt W P R realm) fun tgt _ ↦
    S.kind tgt ∧ (tgtRealm tgt = some realm ∨ realm ≠ S.client.realm ∧ tgtRealm tgt = some S.client.realm) := by
  refine .read fun s₀ hs₀ _ ↦ .bind (runs_cachedTgtSessionForRealm realm) fun cached ↦ ?_
  have hensure {pre : TokioClient × ω → Prop} : Runs W P R S pre (ensureTgt W P R) fun tgt _ ↦
      S.kind tgt ∧ tgtRealm tgt = some S.client.realm := by
    refine runs_ensureTgt.weaken (fun _ _ h ↦ h) fun tgt s hs h ↦ ⟨hs.tgt tgt h.1, ?_⟩
    rw [← hs.client_eq]
    exact hs.coherent.tgtRealm_tgt tgt h.1
  cases cached with
  | some tgt => exact .pure fun _ _ h ↦ (h tgt rfl).imp_right .inl
  | none =>
    dsimp only
    split
    · next hown =>
      refine hensure.weaken (fun _ _ h ↦ h) fun _ _ _ h ↦ h.imp_right fun h ↦ .inl ?_
      rw [h, hown, hs₀.client_eq]
    · next hother =>
      refine .bind (runs_renewCachedTgtSessionForRealm realm) fun renewed ↦ ?_
      cases renewed with
      | some tgt => exact .pure fun _ _ h ↦ (h tgt rfl).imp_right .inl
      | none =>
        exact hensure.weaken (fun _ _ h ↦ h) fun _ _ _ h ↦ h.imp_right fun h ↦ .inr ⟨hs₀.client_eq ▸ hother, h⟩

/-- The service that a request looks for once it is resolved is not resolved again to another one. -/
theorem targetService_resolveServicePrincipal {c : TokioClient} {service : Principal} {tgt : AsRepSession}
    (h : tgtRealm tgt = some (c.resolveServicePrincipal service).realm ∨
      (c.resolveServicePrincipal service).realm ≠ c.client.realm ∧ tgtRealm tgt = some c.client.realm) :
    targetService c.config tgt (c.resolveServicePrincipal service) = c.resolveServicePrincipal service := by
  -- A realm that is empty after it was resolved is looked for in the mappings once more.
  by_cases hempty : (c.resolveServicePrincipal service).realm = ""
  swap
  · rw [targetService, if_neg hempty]
  by_cases hservice : service.realm = ""
  swap
  · have hsame : c.resolveServicePrincipal service = service := if_neg hservice
    exact absurd (hsame ▸ hempty) hservice
  have hresolved : c.resolveServicePrincipal service =
      { service with realm := (serviceRealm c.config service).getD c.client.realm } := if_pos hservice
  have hconfig : serviceRealm c.config (c.resolveServicePrincipal service) = serviceRealm c.config service := by
    rw [hresolved, serviceRealm, serviceRealm]
  have hrealm : (serviceRealm c.config service).getD c.client.realm = "" :=
    (congrArg Principal.realm hresolved).symm.trans hempty
  rw [targetService, if_pos hempty, hconfig]
  cases hfound : serviceRealm c.config service with
  | some realm =>
    rw [hfound, Option.getD_some] at hrealm
    rw [hresolved, hfound, Option.getD_some, Option.getD_some]
  | none =>
    rw [hfound, Option.getD_none] at hrealm
    have htgt : tgtRealm tgt = some "" := by
      rcases h with h | ⟨hne, -⟩
      · rw [h, hempty]
      · exact absurd (hempty.trans hrealm.symm) hne
    rw [htgt, hresolved, hfound, Option.getD_none, Option.getD_some, Option.getD_none, hrealm]

/-- A call up to where it stores what the KDCs have answered: it holds a ticket already, or it has their answers. -/
def fetchTicket (W : World ω) (P : Primitives) (R : Rasn) (service : Principal) :
    ClientProgram ω (TgsRepSession ⊕ ReferralTgsResult) := do
  let c ← .read
  let service := c.resolveServicePrincipal service
  let cached ← cachedOrRenewedTicket W P R service
  match cached with
  | some ticket => return .inl ticket
  | none =>
    let tgt ← startingTgt W P R service.realm
    let options ← tgsReqOptions W
    let result ← outside (getServiceTicketWithReferralTrace W P R c.config tgt service options)
    return .inr result

def storeFetched (W : World ω) : TgsRepSession ⊕ ReferralTgsResult → ClientProgram ω TgsRepSession
  | .inl ticket => return ticket
  | .inr result => do
    cacheTgtSessions W result.referralTgts
    cacheServiceTicket W result.ticket
    return result.ticket

theorem getServiceTicket_eq (W : World ω) (P : Primitives) (R : Rasn) (service : Principal) :
    getServiceTicket W P R service = fetchTicket W P R service >>= storeFetched W := by
  rw [getServiceTicket, fetchTicket, bind_assoc]
  refine bind_congr fun c ↦ ?_
  dsimp only
  rw [bind_assoc]
  refine bind_congr fun cached ↦ ?_
  cases cached with
  | some ticket => rfl
  | none =>
    simp only [bind_assoc, pure_bind]
    rfl

/-- What a call has fetched for the service of its scope. -/
def Fetched (W : World ω) (P : Primitives) (R : Rasn) (S : Scope) (pre : TokioClient × ω → Prop) :
    TgsRepSession ⊕ ReferralTgsResult → ω → Prop
  | .inl ticket, w => Found W P R S pre ticket w
  | .inr result, w => Found W P R S pre result.ticket w ∧ principalMatches result.ticket.service S.target = true ∧
      GivenBy W P R w result.ticket ∧ ∀ tgt ∈ result.referralTgts, S.kind tgt ∧ ReferredBy W P R w tgt

theorem runs_fetchTicket (service : Principal)
    (htarget : ∀ s, pre s → s.1.resolveServicePrincipal service = S.target) :
    Runs W P R S pre (fetchTicket W P R service) fun fetched s ↦ Fetched W P R S pre fetched s.2 := by
  refine .look fun s₀ hs₀ hpre ↦ ?_
  rw [htarget s₀ hpre]
  refine .bind (runs_cachedOrRenewedTicket) fun cached ↦ ?_
  cases cached with
  | some ticket =>
    refine .pure fun s _ h ↦ ?_
    obtain ⟨hkind, s₁, hs₁, hfound⟩ := h ticket rfl
    exact ⟨hkind, s₁, hs₁ ▸ hpre, hfound⟩
  | none =>
    refine .bind (runs_startingTgt _) fun tgt ↦ .assuming (fun _ h ↦ h) fun htgt ↦ ?_
    refine .bind (runs_tgsReqOptions fun _ _ _ _ h ↦ h) fun options ↦ ?_
    have htrace := asks_getServiceTicketWithReferralTrace (W := W) (P := P) (R := R) s₀.1.config tgt S.target options
    refine .bind (.outside (fun _ _ _ _ h ↦ h) htrace) fun result ↦ ?_
    refine .pure fun s _ h ↦ ?_
    have hservice : targetService s₀.1.config tgt S.target = S.target := by
      rw [← htarget s₀ hpre]
      refine targetService_resolveServicePrincipal ?_
      rw [htarget s₀ hpre, hs₀.client_eq]
      exact htgt.2
    obtain ⟨hclient, hgiven, hmatches, htgts⟩ := h.2
    rw [hservice] at hmatches
    refine ⟨⟨S.kind_inherited tgt _ htgt.1 hclient, s₀, hpre, .inr (.given hmatches hgiven)⟩, hmatches, hgiven, ?_⟩
    exact fun tgt' hmem ↦ (htgts tgt' hmem).imp_left (S.kind_inherited tgt tgt' htgt.1)

theorem runs_storeFetched (htaken : ∀ tgt, S.taken tgt) (fetched : TgsRepSession ⊕ ReferralTgsResult) :
    Runs W P R S (fun s ↦ Fetched W P R S pre fetched s.2) (storeFetched W fetched)
      fun ticket s ↦ Found W P R S pre ticket s.2 := by
  cases fetched with
  | inl ticket => exact .pure fun _ _ h ↦ h
  | inr result =>
    refine .assuming (fun _ h ↦ And.intro h.1.1 (And.intro h.2.1 fun tgt hmem ↦ (h.2.2.2 tgt hmem).1))
      fun hresult ↦ ?_
    obtain ⟨hkind, hmatches, htgts⟩ := hresult
    have hknown (w w' : ω) (hlater : W.Later w w')
        (h : Found W P R S pre result.ticket w ∧ GivenBy W P R w result.ticket) :
        Found W P R S pre result.ticket w' ∧ GivenBy W P R w' result.ticket := ⟨h.1.mono hlater, h.2.mono hlater⟩
    have hcached := (runs_cacheTgtSessions (W := W) (P := P) (R := R) fun tgt hmem ↦
      ⟨htgts tgt hmem, htaken tgt⟩).frame hknown
    have hstored := (runs_cacheServiceTicket (W := W) (P := P) (R := R) hkind).frame hknown
    refine .bind (hcached.weaken (fun _ _ h ↦ ⟨trivial, h.1, h.2.2.1⟩) fun _ _ _ h ↦ h.2) fun _ ↦ ?_
    exact .bind (hstored.weaken (fun _ _ h ↦ ⟨.given hmatches h.2, h⟩) fun _ _ _ h ↦ h.2) fun _ ↦
      .pure fun _ _ h ↦ h.1

theorem runs_getServiceTicket (htaken : ∀ tgt, S.taken tgt) (service : Principal)
    (htarget : ∀ s, pre s → s.1.resolveServicePrincipal service = S.target) :
    Runs W P R S pre (getServiceTicket W P R service) fun ticket s ↦ Found W P R S pre ticket s.2 := by
  rw [getServiceTicket_eq]
  exact .bind (runs_fetchTicket service htarget) (runs_storeFetched htaken)

end Tickets

end Rskrb5.Client.TokioClient
