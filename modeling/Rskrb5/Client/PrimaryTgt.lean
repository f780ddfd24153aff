import Rskrb5.Client.Authenticators
import Rskrb5.Client.Sessions

namespace Rskrb5.Client

open Lib.Results Lib.Programs Crypto

variable {ω : Type} (W : World ω) (P : Primitives) (R : Rasn)

namespace TokioClient

section Own

/-- The primary TGT is the one of before, or one that the KDC of the client's realm has issued since. -/
def Own (realm : String) (tgt : AsRepSession) (s : TokioClient × ω) : Prop :=
  s.1.client.realm = realm ∧ ∃ session, s.1.tgt = some session ∧ (session = tgt ∨ IssuedBy W P R realm s.2 session)

variable {W P R} {S : Scope} {realm : String} {tgt : AsRepSession} {s s' : TokioClient × ω}

/-- As long as no TGT is taken from a referral, the primary TGT stays the client's own. -/
theorem Own.act (htaken : ∀ tgt, ¬ S.taken tgt) (h : Own W P R realm tgt s) (hact : Act W P R S s s') :
    Own W P R realm tgt s' := by
  obtain ⟨hrealm, session, hsession, hown⟩ := h
  cases hact with
  | wait hlater => exact ⟨hrealm, session, hsession, hown.imp_right fun h ↦ h.mono hlater⟩
  | cacheServiceTicketAt => exact ⟨hrealm, session, hsession, hown⟩
  | cacheTgtSessionAt tgt now _ h => exact absurd h (htaken tgt)
  | storeRenewed renewed realm' _ hissued =>
    refine ⟨(congrArg Principal.realm (client_storeRenewed s.1 renewed realm')).trans hrealm, ?_⟩
    simp only [storeRenewed]
    split
    · next hsame => exact ⟨renewed, rfl, .inr (hrealm ▸ hsame ▸ hissued)⟩
    · exact ⟨session, hsession, hown⟩
  | clearServiceTicketCache => exact ⟨hrealm, session, hsession, hown⟩
  | loggedIn issued now _ hissued =>
    refine ⟨hrealm, _, rfl, ?_⟩
    rcases preferredSessionAt_cases s.1.tgt issued now with hnew | ⟨hold, -⟩
    · rw [hnew, ← hrealm]
      exact .inr hissued
    · rw [← Option.some.inj (hsession.symm.trans hold)]
      exact hown

theorem Own.acts (htaken : ∀ tgt, ¬ S.taken tgt) (h : Own W P R realm tgt s) (hacts : Acts W P R S s s') :
    Own W P R realm tgt s' :=
  Lib.Once.invariant_of_step (Own W P R realm tgt) (fun _ _ h hact ↦ h.act htaken hact) h hacts

/-- The scope of the exchanges of a call, before anything that they gave is stored. -/
def Scope.fetching (client target : Principal) : Scope := { Scope.any client target with taken _ := False }

end Own

section Stored

/-- The TGTs that are cached in turn, each with the time that the clock shows then. -/
def cachingTimes (w : ω) : List AsRepSession → List (AsRepSession × SystemTime)
  | [] => []
  | tgt :: tgts => (tgt, (W.now w).1) :: cachingTimes (W.now w).2 tgts

/-- Of the TGTs that are cached in turn, none that is for the client's realm is preferred to the primary TGT. -/
def PrimaryPreferred (s : TokioClient × ω) (tgts : List AsRepSession) : Prop :=
  ∀ entry ∈ cachingTimes W s.2 tgts, tgtRealm entry.1 = some s.1.client.realm →
    s.1.tgt = some (preferredSessionAt s.1.tgt entry.1 entry.2)

/-- Of the TGTs that are cached in turn, none becomes the primary TGT. -/
def NoneTaken (s : TokioClient × ω) (tgts : List AsRepSession) : Prop :=
  ∀ before tgt after s', tgts = before ++ tgt :: after → (cacheTgtSessions W before).exec s = (.ok (), s') →
    ((cacheTgtSession W tgt).exec s').2.1.tgt = s'.1.tgt

theorem tgt_cacheTgtSessionAt (c : TokioClient) (tgt : AsRepSession) (now : SystemTime) :
    (c.cacheTgtSessionAt tgt now).2.tgt =
      if tgtRealm tgt = some c.client.realm then
        some (preferredSessionAt c.tgt (preferredSessionAt c.tgtSessions[c.client.realm]? tgt now) now)
      else c.tgt := by
  cases hr : tgtRealm tgt with
  | none => simp [cacheTgtSessionAt, hr]
  | some realm =>
    by_cases heq : realm = c.client.realm
    · simp [cacheTgtSessionAt, hr, heq]
    · simp [cacheTgtSessionAt, hr, heq]

theorem exec_cacheTgtSessions_cons {tgt : AsRepSession} (h : (tgtRealm tgt).isSome) (tgts : List AsRepSession)
    (s : TokioClient × ω) : (cacheTgtSessions W (tgt :: tgts)).exec s =
      (cacheTgtSessions W tgts).exec ((s.1.cacheTgtSessionAt tgt (W.now s.2).1).2, (W.now s.2).2) := by
  rw [cacheTgtSessions, Program.exec_bind_ok (exec_cacheTgtSession W h s)]

theorem preferredSessionAt_self (current : Option AsRepSession) (candidate : AsRepSession) (now : SystemTime) :
    preferredSessionAt current (preferredSessionAt current candidate now) now =
      preferredSessionAt current candidate now := by
  cases current with
  | none => rfl
  | some current =>
    simp only [preferredSessionAt]
    split
    · split <;> rfl
    · rfl

/-- With a coherent client, a TGT for the client's realm competes with the primary TGT alone. -/
theorem tgt_cacheTgtSessionAt_eq_iff {c : TokioClient} (hc : c.Coherent) (tgt : AsRepSession) (now : SystemTime) :
    (c.cacheTgtSessionAt tgt now).2.tgt = c.tgt ↔
      (tgtRealm tgt = some c.client.realm → c.tgt = some (preferredSessionAt c.tgt tgt now)) := by
  rw [tgt_cacheTgtSessionAt, ← hc.primary, preferredSessionAt_self]
  split
  · next hrealm => exact ⟨fun h _ ↦ h.symm, fun h ↦ (h hrealm).symm⟩
  · next hrealm => exact ⟨fun _ h ↦ absurd h hrealm, fun _ ↦ rfl⟩

variable {W} {s : TokioClient × ω} {tgt : AsRepSession} {tgts : List AsRepSession}

theorem noneTaken_cons (h : (tgtRealm tgt).isSome) : NoneTaken W s (tgt :: tgts) ↔
    (s.1.cacheTgtSessionAt tgt (W.now s.2).1).2.tgt = s.1.tgt ∧
      NoneTaken W ((s.1.cacheTgtSessionAt tgt (W.now s.2).1).2, (W.now s.2).2) tgts := by
  constructor
  · intro hnone
    constructor
    · have hfirst := hnone [] tgt tgts s rfl rfl
      rwa [exec_cacheTgtSession W h] at hfirst
    · intro before other after s' htgts hexec
      refine hnone (tgt :: before) other after s' (congrArg (tgt :: ·) htgts) ?_
      rwa [exec_cacheTgtSessions_cons W h]
  · intro hnone before other after s' htgts hexec
    cases before with
    | nil =>
      obtain ⟨rfl, rfl⟩ := List.cons.inj htgts
      obtain rfl : s = s' := congrArg Prod.snd hexec
      rw [exec_cacheTgtSession W h]
      exact hnone.1
    | cons first before =>
      obtain ⟨rfl, hrest⟩ := List.cons.inj htgts
      rw [exec_cacheTgtSessions_cons W h] at hexec
      exact hnone.2 before other after s' hrest hexec

theorem primaryPreferred_cons {c : TokioClient} (hclient : c.client = s.1.client) (htgt : c.tgt = s.1.tgt) :
    PrimaryPreferred W s (tgt :: tgts) ↔
      (tgtRealm tgt = some s.1.client.realm → s.1.tgt = some (preferredSessionAt s.1.tgt tgt (W.now s.2).1)) ∧
        PrimaryPreferred W (c, (W.now s.2).2) tgts := by
  rw [PrimaryPreferred, cachingTimes, List.forall_mem_cons, PrimaryPreferred, hclient, htgt]

theorem noneTaken_iff (hc : s.1.Coherent) (hsome : ∀ tgt ∈ tgts, (tgtRealm tgt).isSome) :
    NoneTaken W s tgts ↔ PrimaryPreferred W s tgts := by
  induction tgts generalizing s with
  | nil =>
    refine ⟨fun _ ↦ List.forall_mem_nil _, fun _ before tgt after s' htgts ↦ ?_⟩
    exact absurd htgts.symm (List.append_ne_nil_of_right_ne_nil before (List.cons_ne_nil tgt after))
  | cons tgt tgts ih =>
    obtain ⟨hfirst, hsome⟩ := List.forall_mem_cons.mp hsome
    have hnext := coherent_cacheTgtSessionAt hc tgt (W.now s.2).1
    rw [noneTaken_cons hfirst, ih hnext.1 hsome]
    by_cases hkept : (s.1.cacheTgtSessionAt tgt (W.now s.2).1).2.tgt = s.1.tgt
    · rw [primaryPreferred_cons (client_cacheTgtSessionAt s.1 tgt _) hkept, ← tgt_cacheTgtSessionAt_eq_iff hc]
    · refine ⟨fun h ↦ absurd h.1 hkept, fun h ↦ absurd ?_ hkept⟩
      rw [tgt_cacheTgtSessionAt_eq_iff hc]
      exact h (tgt, (W.now s.2).1) List.mem_cons_self

/-- The caching comes to its end, with the primary TGT that it began with where none is preferred to it. -/
theorem exists_cacheTgtSessions {log : List Exchange} {c : TokioClient} {w : ω} (hc : c.Coherent)
    (hsome : ∀ tgt ∈ tgts, (tgtRealm tgt).isSome) : ∃ c' w',
      (cacheTgtSessions W.logged tgts).exec (c, w, log) = (.ok (), c', w', log) ∧
        (PrimaryPreferred W.logged (c, w, log) tgts → c'.tgt = c.tgt) := by
  induction tgts generalizing c w with
  | nil => exact ⟨c, w, rfl, fun _ ↦ rfl⟩
  | cons tgt tgts ih =>
    obtain ⟨hfirst, hsome⟩ := List.forall_mem_cons.mp hsome
    obtain ⟨c', w', hexec, hkept⟩ :=
      ih (w := (W.now w).2) (coherent_cacheTgtSessionAt hc tgt (W.now w).1).1 hsome
    refine ⟨c', w', (exec_cacheTgtSessions_cons W.logged hfirst tgts (c, w, log)).trans hexec, fun hpreferred ↦ ?_⟩
    have hstep := (tgt_cacheTgtSessionAt_eq_iff hc tgt (W.now w).1).mpr (hpreferred _ List.mem_cons_self)
    have hrest := (primaryPreferred_cons (client_cacheTgtSessionAt c tgt _) hstep).mp hpreferred
    exact (hkept hrest.2).trans hstep

end Stored

variable {P R} in
/-- No TGT that a KDC of another realm refers a call to becomes the primary TGT, and the call leaves the primary TGT
as it is or with one that the KDC of the client's realm issued in a login or a renewal, exactly when the referral
TGTs for the client's realm are not preferred to the primary TGT that the client has when they have been answered. -/
theorem primary_tgt_own_iff {c : TokioClient} {tgt : AsRepSession} (hreach : Reachable W P R c)
    (htgt : c.tgt = some tgt) (service : Principal) (w : ω) :
    let after := ((getServiceTicket W.logged P R service).exec (c, w, [])).2
    ((∀ result s, (fetchTicket W.logged P R service).exec (c, w, []) = (.ok (.inr result), s) →
        NoneTaken W.logged s result.referralTgts) ∧
      ∃ tgt', after.1.tgt = some tgt' ∧
        (tgt' = tgt ∨ ∃ exchange ∈ after.2.2, Issued P R c.client.realm exchange tgt')) ↔
    ∀ result s, (fetchTicket W.logged P R service).exec (c, w, []) = (.ok (.inr result), s) →
      PrimaryPreferred W.logged s result.referralTgts := by
  intro after
  have hcovers : (Scope.fetching c.client (c.resolveServicePrincipal service)).Covers c :=
    ⟨(hreach.coherent.covers service).toHoldsOnly, hreach.coherent, rfl⟩
  have hfetch : Runs W.logged P R (.fetching c.client (c.resolveServicePrincipal service)) (fun s ↦ s.1 = c)
      (fetchTicket W.logged P R service) _ := runs_fetchTicket service fun _ h ↦ h ▸ rfl
  have hacts := (hfetch (c, w, []) ⟨hcovers, rfl⟩).1
  obtain ⟨-, tgt', htgt', hown⟩ := Own.acts (fun _ ↦ id) ⟨rfl, tgt, htgt, .inl rfl⟩ hacts
  have hsome : ∀ result s, (fetchTicket W.logged P R service).exec (c, w, []) = (.ok (.inr result), s) →
      s.1.Coherent ∧ ∀ tgt ∈ result.referralTgts, (tgtRealm tgt).isSome := by
    intro result s hexec
    have hfetched := Goes.ok hfetch ⟨hcovers, rfl⟩ (congrArg Prod.fst hexec)
    rw [hexec] at hacts
    refine ⟨(hacts.covers hcovers).coherent, fun tgt hmem ↦ ?_⟩
    obtain ⟨-, -, -, -, realm, hrealm, -⟩ := hfetched.2.2.2 tgt hmem
    exact Option.isSome_of_mem hrealm
  constructor
  · intro h result s hexec
    obtain ⟨hcoherent, hall⟩ := hsome result s hexec
    exact (noneTaken_iff hcoherent hall).mp (h.1 result s hexec)
  · intro hpreferred
    refine ⟨fun result s hexec ↦ ?_, tgt', ?_⟩
    · obtain ⟨hcoherent, hall⟩ := hsome result s hexec
      exact (noneTaken_iff hcoherent hall).mpr (hpreferred result s hexec)
    -- what is stored leaves the primary TGT and the log as the exchanges have left them
    suffices hstored : after.1.tgt = ((fetchTicket W.logged P R service).exec (c, w, [])).2.1.tgt ∧
        after.2.2 = ((fetchTicket W.logged P R service).exec (c, w, [])).2.2.2 by
      rw [hstored.1, hstored.2]
      exact ⟨htgt', hown.imp_right IssuedBy.issuedIn⟩
    simp only [after, getServiceTicket_eq, Program.exec_bind]
    cases hexec : (fetchTicket W.logged P R service).exec (c, w, []) with
    | mk fetched s =>
      cases fetched with
      | error e => exact ⟨rfl, rfl⟩
      | ok fetched =>
        cases fetched with
        | inl ticket => exact ⟨rfl, rfl⟩
        | inr result =>
          obtain ⟨hcoherent, hall⟩ := hsome result s hexec
          obtain ⟨c', w', hcached, hkept⟩ := @exists_cacheTgtSessions ω W _ s.2.2 _ s.2.1 hcoherent hall
          simp only [storeFetched]
          rw [Program.exec_bind_ok hcached]
          exact ⟨hkept (hpreferred result s hexec), rfl⟩

section BackReferred

/-- KDCs that answer the requests of `alice` in turn, and then with her ticket for `h@A`. -/
def replyingWorld (replies : List SampleReply) : World ℕ where
  now w := (minute, w)
  fill len w := (.ok (Vector.replicate len 0x42), w)
  sendToRealm _ _ w := (.ok (derTgsRep (replies.getD w hostReply).message), w + 1)
  sendToKpasswdRealm _ _ w := (.error "unreachable", w)

def ownTgt (endTime : SystemTime) : AsRepSession := krbtgtSession "A" "A" endTime
def crossTgt : AsRepSession := krbtgtSession "A" "B" hourLater
def backTgt : AsRepSession := krbtgtSession "B" "A" twoHoursLater
def threeHoursLater : SystemTime := systemTimeFromU32Seconds 1767236460

def hostSession : TgsRepSession :=
  { ownTgt hourLater with service := hostService, ticket := derTicket (ticketOf "A" hostName) }

/-- `alice` with her own TGT, which she has until some time. -/
def home (endTime : SystemTime) : TokioClient :=
  (TokioClient.new bareConfig (ownTgt endTime).client none).withPrimary (ownTgt endTime)

variable {endTime : SystemTime}

theorem home_reachable (endTime : SystemTime) (replies : List SampleReply) :
    Reachable (replyingWorld replies) referralPrimitives referralRasn (home endTime) := by
  have htgt : tgtRealm (ownTgt endTime) = some (ownTgt endTime).client.realm :=
    (by decide +kernel : tgtRealm (ownTgt hourLater) = some (ownTgt hourLater).client.realm)
  have hhome : (fromTgtSession (replyingWorld replies) bareConfig (ownTgt endTime) 0).1 = home endTime :=
    fromTgtSession_own _ bareConfig htgt 0
  exact ⟨home endTime, hhome ▸ .fromTgtSession bareConfig (ownTgt endTime) 0, .refl⟩

theorem home_tgtSessions : (home endTime).tgtSessions[hostService.realm]? = some (ownTgt endTime) :=
  Std.ExtTreeMap.getElem?_insert_self

theorem home_startingTgt (hvalid : sessionValidAt (ownTgt endTime) minute = true) (replies : List SampleReply) :
    (startingTgt (replyingWorld replies).logged referralPrimitives referralRasn hostService.realm).exec
      (home endTime, 0, []) = (.ok (ownTgt endTime), home endTime, 0, []) := by
  have hcached : (cachedTgtSessionForRealm (replyingWorld replies).logged hostService.realm).exec
      (home endTime, 0, []) = (.ok (some (ownTgt endTime)), home endTime, 0, []) := by
    rw [cachedTgtSessionForRealm, Program.exec_read_bind, home_tgtSessions]
    change (Except.ok (if sessionValidAt (ownTgt endTime) minute = true then some (ownTgt endTime) else none), _) = _
    rw [if_pos hvalid]
    rfl
  rw [startingTgt, Program.exec_read_bind, Program.exec_bind, hcached]
  rfl

/-- What `alice` has asked for and got, before she stores any of it. -/
theorem home_fetchTicket (hvalid : sessionValidAt (ownTgt endTime) minute = true) {replies : List SampleReply}
    {result : ReferralTgsResult} {s : ℕ × List Exchange}
    (htrace : (getServiceTicketWithReferralTrace (replyingWorld replies).logged referralPrimitives referralRasn
      bareConfig (ownTgt endTime) hostService requestOptions).exec (0, []) = (.ok result, s)) :
    (fetchTicket (replyingWorld replies).logged referralPrimitives referralRasn hostService).exec
      (home endTime, 0, []) = (.ok (.inr result), home endTime, s) := by
  have hcached : (cachedOrRenewedTicket (replyingWorld replies).logged referralPrimitives referralRasn
      hostService).exec (home endTime, 0, []) = (.ok none, home endTime, 0, []) := by
    rw [cachedOrRenewedTicket, Program.exec_read_bind, show (home endTime).serviceTickets = ∅ from rfl,
      Std.ExtTreeMap.getElem?_empty]
    rfl
  have hservice : (home endTime).resolveServicePrincipal hostService = hostService := by
    simp [resolveServicePrincipal, hostService]
  have hoptions : (tgsReqOptions (replyingWorld replies).logged).exec (home endTime, 0, []) =
      (.ok requestOptions, home endTime, 0, []) := by
    change (Except.ok (TgsReqOptions.fromLibdefaults minute _ bareConfig.libdefaults), home endTime, 0, []) = _
    rfl
  have houtside : (outside (getServiceTicketWithReferralTrace (replyingWorld replies).logged referralPrimitives
      referralRasn (home endTime).config (ownTgt endTime) hostService requestOptions)).exec (home endTime, 0, []) =
        (.ok result, home endTime, s) := by
    rw [outside, Program.onSnd, Program.exec_ofExec, show (home endTime).config = bareConfig from rfl, htrace]
    rfl
  rw [fetchTicket, Program.exec_read_bind]
  dsimp only
  rw [hservice, Program.exec_bind_ok hcached]
  dsimp only
  rw [Program.exec_bind_ok (home_startingTgt hvalid replies), Program.exec_bind_ok hoptions,
    Program.exec_bind_ok houtside]
  rfl

theorem home_cacheTgtSessions (replies : List SampleReply) (s : ℕ × List Exchange) :
    ∃ c, (cacheTgtSessions (replyingWorld replies).logged [crossTgt, backTgt]).exec (home hourLater, s) =
      (.ok (), c, s) ∧ c.tgt = some backTgt := by
  refine ⟨(((home hourLater).cacheTgtSessionAt crossTgt minute).2.cacheTgtSessionAt backTgt minute).2, ?_, ?_⟩
  · simp only [cacheTgtSessions]
    rw [Program.exec_bind, exec_cacheTgtSession _ (by decide +kernel : (tgtRealm crossTgt).isSome)]
    simp only
    rw [Program.exec_bind, exec_cacheTgtSession _ (by decide +kernel : (tgtRealm backTgt).isSome)]
    rfl
  · have hcoherent := coherent_cacheTgtSessionAt (home_reachable hourLater []).coherent crossTgt minute
    have hcross : ((home hourLater).cacheTgtSessionAt crossTgt minute).2.tgt = some (ownTgt hourLater) := by
      rw [tgt_cacheTgtSessionAt, if_neg]
      · rfl
      · decide +kernel
    have hpreferred : preferredSessionAt (some (ownTgt hourLater))
        (preferredSessionAt (some (ownTgt hourLater)) backTgt minute) minute = backTgt := by
      decide
    rw [tgt_cacheTgtSessionAt, if_pos, ← hcoherent.1.primary, hcross, hpreferred]
    rw [hcoherent.2]
    decide +kernel

def backLog : List Exchange :=
  [⟨"A", derTgsReq ownRequest.message, .ok (derTgsRep crossReply.message)⟩,
    ⟨"B", derTgsReq crossRequest.message, .ok (derTgsRep backReply.message)⟩,
    ⟨"A", derTgsReq backRequest.message, .ok (derTgsRep hostReply.message)⟩]

/-- The exchanges do not depend on how long the TGT is good for. -/
theorem home_trace : ∀ endTime ∈ [hourLater, threeHoursLater],
    (getServiceTicketWithReferralTrace (replyingWorld sampleReplies).logged referralPrimitives referralRasn bareConfig
      (ownTgt endTime) hostService requestOptions).exec (0, []) =
        (.ok ⟨hostSession, [crossTgt, backTgt]⟩, 3, backLog) := by
  decide +kernel

/-- The KDC of A sends `alice` to the KDC of B, which sends her back with a TGT for A that ends later
than her own: it takes the place of her own. -/
theorem primary_tgt_replaced :
    Reachable (replyingWorld sampleReplies) referralPrimitives referralRasn (home hourLater) ∧
    (home hourLater).tgt = some (ownTgt hourLater) ∧
    principalMatches (ownTgt hourLater).service (tgtService (home hourLater).client.realm) = true ∧
    let after := ((getServiceTicket (replyingWorld sampleReplies).logged referralPrimitives referralRasn
      hostService).exec (home hourLater, 0, [])).2
    after.1.tgt = some backTgt ∧ after.2.2 = backLog ∧ backTgt ≠ ownTgt hourLater ∧
      ¬ ∃ exchange ∈ after.2.2,
        Issued referralPrimitives referralRasn (home hourLater).client.realm exchange backTgt := by
  have hfetch := home_fetchTicket (by decide : sessionValidAt (ownTgt hourLater) minute = true)
    (home_trace hourLater (by simp))
  obtain ⟨c, hc, htgt⟩ := home_cacheTgtSessions sampleReplies (3, backLog)
  rw [getServiceTicket_eq, Program.exec_bind_ok hfetch, storeFetched, Program.exec_bind_ok hc]
  refine ⟨home_reachable _ _, rfl, by decide, htgt, rfl, by decide, fun h ↦ ?_⟩
  obtain ⟨exchange, -, hissued⟩ := h
  have hmatches := hissued.matches
  revert hmatches
  decide

/-- A TGT of her own that ends still later keeps its place, though the KDC of B has sent one for A. -/
theorem primary_tgt_own_iff_home :
    ∃ tgt', ((getServiceTicket (replyingWorld sampleReplies).logged referralPrimitives referralRasn hostService).exec
      (home threeHoursLater, 0, [])).2.1.tgt = some tgt' ∧ (tgt' = ownTgt threeHoursLater ∨ ∃ exchange ∈
        ((getServiceTicket (replyingWorld sampleReplies).logged referralPrimitives referralRasn hostService).exec
          (home threeHoursLater, 0, [])).2.2.2,
        Issued referralPrimitives referralRasn (home threeHoursLater).client.realm exchange tgt') := by
  have hfetch := home_fetchTicket (by decide : sessionValidAt (ownTgt threeHoursLater) minute = true)
    (home_trace threeHoursLater (by simp))
  refine ((primary_tgt_own_iff (replyingWorld sampleReplies) (home_reachable threeHoursLater _) rfl hostService 0).mpr
    fun result s hexec ↦ ?_).2
  obtain ⟨hresult, rfl⟩ := Prod.mk.inj (hfetch.symm.trans hexec)
  obtain rfl := Sum.inr.inj (Except.ok.inj hresult)
  have hkept : ∀ entry ∈ cachingTimes (replyingWorld sampleReplies).logged (3, backLog) [crossTgt, backTgt],
      tgtRealm entry.1 = some "A" →
        some (ownTgt threeHoursLater) = some (preferredSessionAt (some (ownTgt threeHoursLater)) entry.1 entry.2) := by
    decide +kernel
  exact hkept

end BackReferred

end TokioClient

end Rskrb5.Client
