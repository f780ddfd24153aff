import Rskrb5.Gss.Mutual
import Rskrb5.Kdc.Replies
import Rskrb5.Service.Pruning
import Rskrb5.Service.Recording

namespace Rskrb5.Kdc

open Lib.Results Crypto EncParts Client Service Gss

section Checks

variable {v : ServiceValidator} {service : Principal} {encTicket : EncTicketPart} {start endTime now : SystemTime}

theorem startsAfterSkew_eq_false {skew : ℕ} :
    startsAfterSkew start now skew = false ↔ start.nanos ≤ now.nanos + skew := by
  rw [startsAfterSkew, SystemTime.durationSince]
  split
  · next delta hdelta =>
    split at hdelta
    · next hle =>
      obtain rfl := Except.ok.inj hdelta
      rw [SystemTime.le_def] at hle
      rw [decide_eq_false_iff_not]
      omega
    · cases hdelta
  · next delta hdelta =>
    split at hdelta
    · cases hdelta
    · next hle =>
      rw [SystemTime.le_def] at hle
      exact iff_of_true rfl (by omega)

theorem expiredAfterSkew_eq_startsAfterSkew (skew : ℕ) :
    expiredAfterSkew now endTime skew = startsAfterSkew now endTime skew := rfl

/-- The ticket has started and has not ended, give or take the skew. -/
structure InTime (v : ServiceValidator) (clock : SystemTime) (start endTime : SystemTime) (flags : KerberosFlags) :
    Prop where
  started : start.nanos ≤ (v.now.getD clock).nanos + v.maxClockSkew
  unexpired : (v.now.getD clock).nanos ≤ endTime.nanos + v.maxClockSkew
  valid : hasInvalidFlag flags = false

theorem validateTicketTimes_eq_ok {clock : SystemTime} {u : Unit} (hstart : ticketStartTime encTicket = .ok start)
    (hend : systemTimeFromKerberosTime encTicket.endTime = some endTime) :
    v.validateTicketTimes clock service encTicket = .ok u ↔ InTime v clock start endTime encTicket.flags := by
  simp only [ServiceValidator.validateTicketTimes, hstart, hend, okOr, ok_bind, bind_eq_ok, ensure_eq_ok, exists_const,
    Bool.or_eq_true, not_or, Bool.not_eq_true, expiredAfterSkew_eq_startsAfterSkew, startsAfterSkew_eq_false]
  exact ⟨fun h ↦ ⟨h.1.1, h.2, h.1.2⟩, fun h ↦ ⟨⟨h.started, h.valid⟩, h.unexpired⟩⟩

/-- A ticket without addresses is good everywhere, unless the service requires one. -/
def FromAddress (v : ServiceValidator) (caddr : Option (List HostAddress)) : Prop :=
  (caddr = none ∧ v.requireClientAddress = false) ∨
    ∃ addresses address, caddr = some addresses ∧ v.clientAddress = some address ∧ address ∈ addresses

theorem validateClientAddress_eq_ok {u : Unit} :
    v.validateClientAddress service encTicket = .ok u ↔ FromAddress v encTicket.caddr := by
  rw [ServiceValidator.validateClientAddress, FromAddress]
  cases encTicket.caddr with
  | none => simp
  | some addresses =>
    cases v.clientAddress with
    | none => simp
    | some address =>
      simp only [ensure_eq_ok, List.any_eq_true, Bool.and_eq_true, beq_iff_eq, reduceCtorEq, false_and, false_or,
        Option.some.injEq]
      constructor
      · rintro ⟨found, hfound, htype, haddress⟩
        obtain rfl : found = address := by
          cases found
          cases address
          exact congr (congrArg HostAddress.mk htype) haddress
        exact ⟨addresses, found, rfl, rfl, hfound⟩
      · rintro ⟨_, _, rfl, rfl, hfound⟩
        exact ⟨_, hfound, rfl, rfl⟩

/-- The cache that keys are recorded in can be used and does not hold the key. -/
def Unseen (caches : Caches) (replayKey : ReplayKey) : Prop :=
  (∀ shared, caches.sharedReplayCache = some shared → shared.poisoned = false) ∧
    caches.active.entries[replayKey]? = none

theorem recordReplay_eq_ok {caches : Caches} {replayKey : ReplayKey} :
    (recordReplay caches replayKey now).1 = .ok () ↔ Unseen caches replayKey := by
  obtain ⟨own, shared⟩ := caches
  cases shared with
  | none =>
    simp [recordReplay, ReplayCache.insert, Unseen, Caches.active]
  | some shared =>
    rw [recordReplay_shared]
    obtain ⟨cache, poisoned⟩ := shared
    cases poisoned <;> simp [Unseen, Caches.active]

end Checks

section Honoured

/-- A client has taken a reply for the answer to one of its requests. -/
inductive Accepted (P : Primitives) (R : Rasn) (bytes : Bytes) (replyKey : EncryptionKey) (session : AsRepSession) :
    ReplyKind → Prop
  | as (request : BuiltAsReq) (h : processAsRep P R request bytes replyKey = .ok session) :
      Accepted P R bytes replyKey session .as
  | tgs (request : BuiltTgsReq) (allowReferral : Bool)
      (h : processTgsRepInner P R request bytes replyKey allowReferral = .ok session) :
      Accepted P R bytes replyKey session .tgs

/-- The sealed parts of a grant, and the names in the clear, tell of one ticket. The times of all of them are whole
seconds. -/
structure Grant.Consistent (grant : Grant) : Prop where
  crealm_eq : grant.encTicket.crealm = grant.crealm
  cname_eq : grant.encTicket.cname = grant.cname
  srealm_eq : grant.encPart.srealm = grant.realm
  sname_eq : grant.encPart.sname = grant.sname
  key_eq : grant.encPart.key = grant.encTicket.key
  authTime_eq : grant.encPart.authTime = grant.encTicket.authTime
  startTime_eq : grant.encPart.startTime = grant.encTicket.startTime
  endTime_eq : grant.encPart.endTime = grant.encTicket.endTime
  isWhole_ticket : grant.encTicket.IsWhole
  isWhole_part : grant.encPart.IsWhole

variable {P : Primitives} {R : Rasn} {kind : ReplyKind} {grant : Grant} {seals : Seals} {reply : KdcRep} {bytes : Bytes}
  {session : AsRepSession}

theorem Accepted.sessionOf (hR : R.Lawful) (hreplies : RepliesLawful R) (hgrant : grant.Consistent)
    (issued : Issued P R kind grant seals reply bytes) (h : Accepted P R bytes seals.replyKey session kind) :
    SessionOf R reply grant.encPart session := by
  cases h with
  | as request h => exact ((processAsRep_issued hR hreplies hgrant.isWhole_part issued request).mp h).1
  | tgs request allowReferral h =>
    exact ((processTgsRepInner_issued hR hreplies hgrant.isWhole_part issued request allowReferral).mp h).1

/-- What a service finds when it opens the ticket of a session. -/
structure Opened (P : Primitives) (R : Rasn) (grant : Grant) (seals : Seals) (session : AsRepSession)
    (ticket : Ticket) : Prop where
  decode_eq : decodeTicket R session.ticket = .ok ticket
  service_eq : principalFromParts ticket.realm ticket.sname = some session.service
  encPart_eq : ticket.encPart.etype = seals.serviceKey.etype ∧ ticket.encPart.kvno = seals.serviceKvno
  encTicket_eq : decryptTicketEncPart P R ticket seals.serviceKey = .ok grant.encTicket
  sessionKey_eq : grant.encTicket.key = session.sessionKey
  client_eq : principalFromParts grant.encTicket.crealm grant.encTicket.cname = some session.client
  startTime_eq : ticketStartTime grant.encTicket = .ok session.startTime
  endTime_eq : systemTimeFromKerberosTime grant.encTicket.endTime = some session.endTime

theorem opened_of_issued (hR : R.Lawful) (hgrant : grant.Consistent) (issued : Issued P R kind grant seals reply bytes)
    (h : SessionOf R reply grant.encPart session) : Opened P R grant seals session reply.ticket := by
  obtain ⟨hvno, hrealm, hsname, hetype, hkvno⟩ := issued.ticket_fields
  refine ⟨?_, ?_, ⟨hetype, hkvno⟩, issued.decryptTicket hR hgrant.isWhole_ticket, ?_, ?_, ?_, ?_⟩
  · have hdecode := hR.ticket.decode_encode trivial (mapError_eq_ok.mp h.ticket_eq)
    rw [decodeTicket, EncParts.decode, hdecode, Except.mapError, ok_bind, validateTicket, validateInteger, hvno,
      ensure_of rfl]
    rfl
  · rw [hrealm, hsname, ← hgrant.srealm_eq, ← hgrant.sname_eq]
    exact h.service_eq
  · rw [h.sessionKey_eq, hgrant.key_eq]
  · rw [hgrant.crealm_eq, hgrant.cname_eq, ← issued.crealm_eq, ← issued.cname_eq]
    exact h.client_eq
  · rw [ticketStartTime, ← hgrant.startTime_eq, ← hgrant.authTime_eq, okOr_eq_ok]
    exact h.startTime_eq
  · rw [← hgrant.endTime_eq]
    exact h.endTime_eq

/-- An authenticator is of the whole second, and its microseconds are added to that. -/
structure Stamped (timestamp : SystemTime) (cusec : UInt32) (authenticator : Authenticator) (time : SystemTime) :
    Prop where
  ctime_eq : systemTimeFromKerberosTime authenticator.ctime = some timestamp.wholeSeconds
  cusec_eq : integerToU32 authenticator.cusec = some cusec
  time_eq : timestamp.wholeSeconds.checkedAdd (Duration.fromMicros cusec.toNat) = some time

variable {options : ApReqOptions} {timestamp : SystemTime} {cusec : UInt32} {confounder : Bytes} {built : BuiltApReq}

theorem systemTime_truncated {time : SystemTime} {k : KerberosTime} (h : truncatedKerberosTime time = some k) :
    systemTimeFromKerberosTime k = some time.wholeSeconds := by
  obtain ⟨hwhole, nanos, hnanos, hlt⟩ := truncatedKerberosTime_eq_some h
  obtain ⟨t, ht, htn⟩ := systemTimeFromKerberosTime_of_isWhole hwhole
  rw [ht, Option.some.injEq]
  apply SystemTime.ext
  rw [htn]
  simp only [SystemTime.wholeSeconds, hnanos, nanosPerSec] at hlt ⊢
  omega

theorem exists_stamped (sent : Sent P R session options timestamp cusec confounder built) :
    ∃ time, Stamped timestamp cusec sent.authenticator time := by
  obtain ⟨time, htime⟩ : ∃ time, timestamp.wholeSeconds.checkedAdd (Duration.fromMicros cusec.toNat) = some time := by
    have hsum := SystemTime.ofNanos?_eq_some.mp sent.time_eq
    have hupper := built.authenticatorTime.upper
    have hlower := timestamp.wholeSeconds.lower
    refine ⟨⟨timestamp.wholeSeconds.nanos + (Duration.fromMicros cusec.toNat : ℕ), by omega, ?_⟩,
      SystemTime.ofNanos?_eq_some.mpr rfl⟩
    simp only [SystemTime.wholeSeconds, nanosPerSec] at *
    omega
  refine ⟨time, systemTime_truncated sent.ctime_eq, ?_, htime⟩
  rw [sent.cusec_eq]
  exact integerToU32_ofNat cusec

/-- A ticket is good for a request of that time. -/
structure Admits {Pac : Type} (v : ServiceValidator) (pac : PacOps Pac) (clock : Clock) (encTicket : EncTicketPart)
    (serviceKey : EncryptionKey) (session : AsRepSession) (time : SystemTime) : Prop where
  inTime : InTime v clock.ticketTimes session.startTime session.endTime encTicket.flags
  fromAddress : FromAddress v encTicket.caddr
  pac : ∃ found, ServiceValidator.findVerifiedPac pac encTicket serviceKey = .ok found
  recent : |(v.now.getD clock.authenticator).nanos - time.nanos| ≤ v.maxClockSkew

/-- What the service returns is what the client knows. -/
structure Honours {Pac : Type} (pac : PacOps Pac) (encTicket : EncTicketPart) (serviceKey : EncryptionKey)
    (session : AsRepSession) (options : ApReqOptions) (timestamp time : SystemTime) (cusec : UInt32)
    (validated : ValidatedApReq Pac) : Prop where
  client_eq : validated.client = session.client
  service_eq : validated.service = session.service
  sessionKey_eq : validated.sessionKey = session.sessionKey
  subkey_eq : validated.subkey = options.subkey
  sequenceNumber_eq : validated.sequenceNumber = options.sequenceNumber
  ticketStart_eq : validated.ticketStart = session.startTime
  ticketEnd_eq : validated.ticketEnd = session.endTime
  authenticatorCtime_eq : validated.authenticatorCtime = timestamp.wholeSeconds
  authenticatorCusec_eq : validated.authenticatorCusec = cusec
  authenticatorTime_eq : validated.authenticatorTime = time
  pac_eq : ServiceValidator.findVerifiedPac pac encTicket serviceKey = .ok validated.pac

theorem exists_sent_fields
    (h : Client.buildApReqWithConfounder P R session options timestamp cusec confounder = .ok built) :
    ∃ sent : Sent P R session options timestamp cusec confounder built,
      principalFromParts sent.authenticator.crealm sent.authenticator.cname = some session.client ∧
      sent.authenticator.subkey = options.subkey ∧ sent.authenticator.seqNumber = options.sequenceNumber := by
  obtain ⟨sent, hclient, hsubkey, hnumber⟩ := exists_sent_chosen h
  simp only [Client.buildApReqWithConfounder, bind_eq_ok, pure_eq_ok, Except.ok.injEq] at h
  obtain ⟨_, -, _, -, _, -, _, -, _, -, rfl⟩ := h
  exact ⟨sent, hclient, hsubkey, hnumber⟩

variable {Pac : Type} {pac : PacOps Pac} {v : ServiceValidator} {clock : Clock} {ticket : Ticket} {kvno : UInt32}

/-- The service opens the request of a client that holds the session of an issued ticket. -/
theorem checkApReq_opened (hR : R.Lawful) (opened : Opened P R grant seals session ticket)
    (hkey : v.keytab.findKey (v.keytabPrincipal.getD session.service.components) session.service.realm
      (seals.serviceKvno.getD 0) seals.serviceKey.etype = .ok (seals.serviceKey, kvno))
    (sent : Sent P R session options timestamp cusec confounder built)
    (hclient : principalFromParts sent.authenticator.crealm sent.authenticator.cname = some session.client)
    (hsubkey : sent.authenticator.subkey = options.subkey)
    (hnumber : sent.authenticator.seqNumber = options.sequenceNumber) {time : SystemTime}
    (stamped : Stamped timestamp cusec sent.authenticator time) {replayKey : ReplayKey} {now : SystemTime}
    {validated : ValidatedApReq Pac} :
    v.checkApReq P R pac clock built.der = .ok (replayKey, now, validated) ↔
      (Admits v pac clock grant.encTicket seals.serviceKey session time ∧
        Honours pac grant.encTicket seals.serviceKey session options timestamp time cusec validated) ∧
      replayKey = ⟨session.service, session.client, sent.authenticator.ctime.seconds, cusec⟩ ∧
      now = v.now.getD clock.authenticator := by
  obtain rfl : sent.ticket = ticket := Except.ok.inj (sent.ticket_eq.symm.trans opened.decode_eq)
  have hfound : v.serviceKey built.message session.service = .ok (seals.serviceKey, kvno) := by
    rw [ServiceValidator.serviceKey, sent.ticket_message, opened.encPart_eq.1, opened.encPart_eq.2]
    exact hkey
  have hauthenticator := sent.decryptAuthenticator hR
  rw [← opened.sessionKey_eq] at hauthenticator
  have hend : systemTimeFromKerberosTime grant.encTicket.endTime = some session.endTime := opened.endTime_eq
  simp only [ServiceValidator.checkApReq, sent.decodeApReq hR, sent.ticket_message, opened.service_eq, hfound,
    opened.encTicket_eq, hauthenticator, opened.client_eq, hclient, stamped.cusec_eq, stamped.ctime_eq,
    stamped.time_eq, opened.startTime_eq, hend, hsubkey, hnumber, Except.mapError, okOr, ok_bind, ensure_of,
    bind_eq_ok, ensure_eq_ok, exists_const, pure_eq_ok, Except.ok.injEq, Prod.mk.injEq,
    validateTicketTimes_eq_ok opened.startTime_eq hend, validateClientAddress_eq_ok]
  have hrecent : absDuration (v.now.getD clock.authenticator) time ≤ v.maxClockSkew ↔
      |(v.now.getD clock.authenticator).nanos - time.nanos| ≤ v.maxClockSkew := by
    rw [← absDuration_eq, Int.ofNat_le]
  rw [hrecent]
  constructor
  · rintro ⟨htime, haddress, found, hpac, hskew, rfl, rfl, rfl⟩
    exact ⟨⟨⟨htime, haddress, ⟨found, hpac⟩, hskew⟩,
      ⟨rfl, rfl, opened.sessionKey_eq, rfl, rfl, rfl, rfl, rfl, rfl, rfl, hpac⟩⟩, rfl, rfl⟩
  · rintro ⟨⟨⟨htime, haddress, -, hskew⟩, honours⟩, rfl, rfl⟩
    refine ⟨htime, haddress, _, honours.pac_eq, hskew, rfl, rfl, ?_⟩
    rw [opened.sessionKey_eq, ← honours.client_eq, ← honours.service_eq, ← honours.sessionKey_eq, ← honours.subkey_eq,
      ← honours.sequenceNumber_eq, ← honours.ticketStart_eq, ← honours.ticketEnd_eq, ← honours.authenticatorCtime_eq,
      ← honours.authenticatorCusec_eq, ← honours.authenticatorTime_eq]

theorem validateApReq_eq_ok {caches : Caches} {validated : ValidatedApReq Pac} :
    (v.validateApReq P R pac clock bytes caches).1 = .ok validated ↔
      ∃ replayKey now, v.checkApReq P R pac clock bytes = .ok (replayKey, now, validated) ∧
        Unseen caches replayKey := by
  constructor
  · intro h
    obtain ⟨replayKey, now, hcheck, hrecorded⟩ := validateApReq_eq.mp (Prod.ext h rfl)
    exact ⟨replayKey, now, hcheck, recordReplay_eq_ok.mp (congrArg Prod.fst hrecorded)⟩
  · rintro ⟨replayKey, now, hcheck, hunseen⟩
    rw [validateApReq_eq.mpr ⟨replayKey, now, hcheck, Prod.ext (recordReplay_eq_ok.mpr hunseen) rfl⟩]

/-- The client of a ticket that a KDC has issued is let in exactly when the ticket has started and not ended, is used
from one of its addresses, has no PAC that fails, and the request is of now and new; all but the last two up to the
skew of the service. The service then knows the client, the keys and the times that the client's session has, though
the client has taken them from the reply and the service from the ticket. -/
theorem honours_issued_iff (P : Primitives) (R : Rasn) (pac : PacOps Pac) (hR : R.Lawful) (hreplies : RepliesLawful R)
    (kind : ReplyKind) (grant : Grant) (hgrant : grant.Consistent) (seals : Seals) (reply : KdcRep) (bytes : Bytes)
    (hissue : grant.issue P R kind seals = .ok (reply, bytes)) (session : AsRepSession)
    (hsession : Accepted P R bytes seals.replyKey session kind) (options : ApReqOptions) (timestamp : SystemTime)
    (cusec : UInt32) (confounder : Bytes) (built : BuiltApReq)
    (hbuilt : Client.buildApReqWithConfounder P R session options timestamp cusec confounder = .ok built)
    (v : ServiceValidator) (kvno : UInt32)
    (hkey : v.keytab.findKey (v.keytabPrincipal.getD session.service.components) session.service.realm
      (seals.serviceKvno.getD 0) seals.serviceKey.etype = .ok (seals.serviceKey, kvno))
    (clock : Clock) (caches : Caches) :
    ∃ time, timestamp.wholeSeconds.checkedAdd (Duration.fromMicros cusec.toNat) = some time ∧
      ∀ validated, (v.validateApReq P R pac clock built.der caches).1 = .ok validated ↔
        Admits v pac clock grant.encTicket seals.serviceKey session time ∧
          Unseen caches ⟨session.service, session.client, timestamp.nanos / nanosPerSec, cusec⟩ ∧
          Honours pac grant.encTicket seals.serviceKey session options timestamp time cusec validated := by
  have issued := issued_of_issue hissue
  have opened := opened_of_issued hR hgrant issued (hsession.sessionOf hR hreplies hgrant issued)
  obtain ⟨sent, hclient, hsubkey, hnumber⟩ := exists_sent_fields hbuilt
  obtain ⟨time, stamped⟩ := exists_stamped sent
  have hseconds : sent.authenticator.ctime.seconds = timestamp.nanos / nanosPerSec := by
    obtain ⟨-, nanos, hnanos, hlt⟩ := truncatedKerberosTime_eq_some sent.ctime_eq
    simp only [nanosPerSec] at *
    omega
  refine ⟨time, stamped.time_eq, fun validated ↦ ?_⟩
  simp only [validateApReq_eq_ok, checkApReq_opened hR opened hkey sent hclient hsubkey hnumber stamped, hseconds]
  constructor
  · rintro ⟨_, _, ⟨⟨admits, honours⟩, rfl, rfl⟩, hunseen⟩
    exact ⟨admits, hunseen, honours⟩
  · rintro ⟨admits, hunseen, honours⟩
    exact ⟨_, _, ⟨⟨admits, honours⟩, rfl, rfl⟩, hunseen⟩

end Honoured

section Granted

theorem webGrant_consistent : webGrant.Consistent where
  crealm_eq := rfl
  cname_eq := rfl
  srealm_eq := rfl
  sname_eq := rfl
  key_eq := rfl
  authTime_eq := rfl
  startTime_eq := rfl
  endTime_eq := rfl
  isWhole_ticket := by simp [EncTicketPart.IsWhole, webGrant, aliceEncTicket, KerberosTime.IsWhole]
  isWhole_part := webEncPart_isWhole

theorem aliceBuilt_granted : Client.buildApReqWithConfounder grantPrimitives grantRasn aliceSession .new webNow 0
    exchangeConfounder = .ok (aliceBuilt webNow) := by
  decide +kernel

theorem accepted_aliceSession :
    Accepted grantPrimitives grantRasn (derTgsRep webReply) webSeals.replyKey aliceSession .tgs := by
  refine .tgs webRequest false ?_
  exact (processTgsRepInner_issued grantRasn_lawful grantRasn_replies webEncPart_isWhole
    (issued_of_issue webGrant_issue) webRequest false).mpr ⟨sessionOf_aliceSession, by decide, .inl (by decide), rfl⟩

/-- The service lets `alice@A` in, as the client that her session is of. -/
theorem honours_issued_iff_web : ∃ validated,
    (webValidator.validateApReq grantPrimitives grantRasn noPac ⟨webNow, webNow⟩ (aliceBuilt webNow).der
      ⟨.new, none⟩).1 = .ok validated ∧ validated.client = aliceSession.client := by
  obtain ⟨time, htime, hiff⟩ := honours_issued_iff grantPrimitives grantRasn noPac grantRasn_lawful grantRasn_replies
    .tgs webGrant webGrant_consistent webSeals webReply (derTgsRep webReply) webGrant_issue aliceSession
    accepted_aliceSession .new webNow 0 exchangeConfounder (aliceBuilt webNow) aliceBuilt_granted webValidator 2
    (by decide) ⟨webNow, webNow⟩ ⟨.new, none⟩
  obtain rfl : webNow = time := by
    have hsame : webNow.wholeSeconds.checkedAdd (Duration.fromMicros (0 : UInt32).toNat) = some webNow := by decide
    exact Option.some.inj (hsame.symm.trans htime)
  have admits : Admits webValidator noPac ⟨webNow, webNow⟩ aliceEncTicket webKey aliceSession webNow := by
    refine ⟨⟨by decide, by decide, by decide⟩, .inl ⟨rfl, rfl⟩, ⟨none, rfl⟩, by decide⟩
  refine ⟨webValidated, (hiff webValidated).mpr ⟨admits, ⟨nofun, ?_⟩, ?_⟩, rfl⟩
  · exact Std.ExtHashMap.getElem?_empty
  · exact ⟨rfl, by decide, rfl, rfl, rfl, rfl, rfl, by decide, rfl, rfl, rfl⟩

end Granted

end Rskrb5.Kdc
