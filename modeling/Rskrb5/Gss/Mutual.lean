import Rskrb5.Gss.Contexts

namespace Rskrb5.Gss

open Lib.Results Crypto EncParts Service Client Spnego

variable {P : Primitives} {R : Rasn} {Pac : Type} {pac : PacOps Pac}

section Accepted

/-- What a validator has taken from the authenticator of a message. -/
structure TakenFrom (validated : ValidatedApReq Pac) (encTicket : EncTicketPart) (authenticator : Authenticator) :
    Prop where
  client_eq : principalFromParts authenticator.crealm authenticator.cname = some validated.client
  sessionKey_eq : validated.sessionKey = encTicket.key
  subkey_eq : validated.subkey = authenticator.subkey
  sequenceNumber_eq : validated.sequenceNumber = authenticator.seqNumber
  ctime_eq : systemTimeFromKerberosTime authenticator.ctime = some validated.authenticatorCtime
  cusec_eq : integerToU32 authenticator.cusec = some validated.authenticatorCusec

theorem takenFrom_of_checkApReq {v : ServiceValidator} {clock : Clock} {bytes : Bytes} {key : ReplayKey}
    {now : SystemTime} {validated : ValidatedApReq Pac}
    (h : v.checkApReq P R pac clock bytes = .ok (key, now, validated)) :
    ∃ encTicket authenticator, v.Opens P R bytes encTicket authenticator ∧
      TakenFrom validated encTicket authenticator := by
  simp only [ServiceValidator.checkApReq, bind_eq_ok, mapError_eq_ok, okOr_eq_ok, ensure_eq_ok, pure_eq_ok,
    Except.ok.injEq, Prod.mk.injEq, Prod.exists, exists_const] at h
  obtain ⟨apReq, hd, service, hs, serviceKey, kvno, hk, encTicket, ht, _, _, _, _, _, _, authenticator, ha,
    ticketClient, htc, client, hc, hcomp, cusec, hcu, ctime, hct, time, htime, hskew, start, _,
    endTime, _, hrk, rfl, rfl⟩ := h
  refine ⟨encTicket, authenticator, ⟨apReq, service, serviceKey, hd, hs, ?_, ht, ha⟩, ⟨hc, rfl, rfl, rfl, hct, hcu⟩⟩
  rw [hk]
  rfl

variable {session : TgsRepSession} {options : ApReqOptions} {timestamp : SystemTime} {cusec : UInt32}
  {confounder : Bytes} {built : BuiltApReq}

/-- The service opens a request that was built with the session of its ticket. -/
theorem Sent.opens (sent : Sent P R session options timestamp cusec confounder built) (hR : R.Lawful)
    {v : ServiceValidator} (hk : HoldsServiceKey P R v session) :
    ∃ encTicket, v.Opens P R built.der encTicket sent.authenticator ∧ encTicket.key = session.sessionKey := by
  obtain ⟨ticket, service, key, kvno, encTicket, ht, hs, hkey, henc, hses⟩ := hk
  obtain rfl := Except.ok.inj (ht.symm.trans sent.ticket_eq)
  refine ⟨encTicket, ⟨built.message, service, key, sent.decodeApReq hR, ?_, ?_, ?_, ?_⟩, hses⟩
  · rw [sent.ticket_message, hs]
  · rw [ServiceValidator.serviceKey, sent.ticket_message, hkey]
    rfl
  · rw [sent.ticket_message, henc]
  · rw [sent.ticket_message, hses]
    exact sent.decryptAuthenticator hR

/-- The fields of an authenticator that a caller has chosen. -/
theorem exists_sent_chosen
    (h : Client.buildApReqWithConfounder P R session options timestamp cusec confounder = .ok built) :
    ∃ sent : Sent P R session options timestamp cusec confounder built,
      principalFromParts sent.authenticator.crealm sent.authenticator.cname = some built.client ∧
      sent.authenticator.subkey = options.subkey ∧ sent.authenticator.seqNumber = built.sequenceNumber := by
  simp only [Client.buildApReqWithConfounder, authenticatorFor, checkedKerberosTime, checkedAdd, encodeApReq, encode,
    bind_eq_ok, mapError_eq_ok, okOr_eq_ok, pure_eq_ok, Except.ok.injEq] at h
  obtain ⟨ticket, ht, authenticator, ⟨crealm, hcrealm, cname, hcname, ctime, hc, rfl⟩, message, hm, der, hd, time,
    htime, rfl⟩ := h
  refine ⟨⟨ticket, _, ht, hc, rfl, hm, hd, htime, rfl, rfl, rfl⟩, ?_, rfl, rfl⟩
  exact principalFromParts_principalName (mapError_eq_ok.mp hcrealm) (mapError_eq_ok.mp hcname)

/-- What the service knows of an initiator is what the initiator keeps in its context. -/
structure AgreesWith (validated : ValidatedApReq Pac) (context : InitiatorContext) (subkey : Option EncryptionKey) :
    Prop where
  client_eq : validated.client = context.client
  sessionKey_eq : validated.sessionKey = context.sessionKey
  subkey_eq : validated.subkey = subkey
  sequenceNumber_eq : validated.sequenceNumber = context.sequenceNumber

theorem agreesWith_of_checkApReq (hR : R.Lawful) {v : ServiceValidator} (hk : HoldsServiceKey P R v session)
    (hb : Client.buildApReqWithConfounder P R session options timestamp cusec confounder = .ok built)
    {clock : Clock} {key : ReplayKey} {now : SystemTime} {validated : ValidatedApReq Pac}
    (hv : v.checkApReq P R pac clock built.der = .ok (key, now, validated)) :
    AgreesWith validated (.ofBuiltApReq built) options.subkey := by
  obtain ⟨sent, hclient, hsubkey, hnumber⟩ := exists_sent_chosen hb
  obtain ⟨encTicket, hopens, hkey⟩ := sent.opens hR hk
  have hsession : built.sessionKey = encTicket.key := sent.sessionKey_eq.trans hkey.symm
  obtain ⟨encTicket', authenticator, hopens', htaken⟩ := takenFrom_of_checkApReq hv
  obtain ⟨rfl, rfl⟩ := hopens'.unique hopens
  refine ⟨?_, htaken.sessionKey_eq.trans hsession.symm, htaken.subkey_eq.trans hsubkey,
    htaken.sequenceNumber_eq.trans hnumber⟩
  exact Option.some.inj (htaken.client_eq.symm.trans hclient)

end Accepted

section Answered

variable {session : TgsRepSession} {options : ApReqOptions} {timestamp : SystemTime} {cusec : UInt32}
  {confounder : Bytes} {built : BuiltApReq}

/-- Under DES3 the decoder reads the padded part of an answer. -/
def ReadsAnswer (R : Rasn) (session : TgsRepSession) (timestamp : SystemTime) (cusec : UInt32)
    (options : ApRepOptions) : Prop :=
  session.sessionKey.etype = Des3CbcSha1KdEtype.etypeId → ∀ ctime, truncatedKerberosTime timestamp = some ctime →
    ReadsPadded R ⟨ctime, cusec.toNat, options.subkey, options.sequenceNumber⟩

/-- What the initiator learns from an answer. -/
structure Mutual (verified : VerifiedApRep) (context : InitiatorContext) (options : ApRepOptions) : Prop where
  ctime_eq : verified.ctime = context.authenticatorCtime
  cusec_eq : verified.cusec = context.authenticatorCusec
  subkey_eq : verified.subkey = options.subkey
  sequenceNumber_eq : verified.sequenceNumber = options.sequenceNumber

/-- An answer opens under the session's key to what the service has put into it. The time in it is that of the request
but for the fraction of a second. -/
theorem exists_opened_answer (hR : R.Lawful) {v : ServiceValidator} (hk : HoldsServiceKey P R v session)
    (hb : Client.buildApReqWithConfounder P R session options timestamp cusec confounder = .ok built)
    {clock : Clock} {key : ReplayKey} {now : SystemTime} {validated : ValidatedApReq Pac}
    (hv : v.checkApReq P R pac clock built.der = .ok (key, now, validated))
    {repConfounder : Bytes} {repOptions : ApRepOptions} {bytes : Bytes}
    (hr : validated.buildApRepWithConfounder P R repConfounder repOptions = .ok bytes)
    (hread : ReadsAnswer R session timestamp cusec repOptions) :
    ∃ apRep read, decodeApRep R bytes = .ok apRep ∧ decryptApRepEncPart P R apRep built.sessionKey = .ok read ∧
      (read.Echoes built.authenticatorCtime built.authenticatorCusec ↔ timestamp.nanos % nanosPerSec = 0) ∧
      read.subkey = repOptions.subkey ∧ read.seqNumber = repOptions.sequenceNumber := by
  obtain ⟨sent⟩ := exists_sent hb
  obtain ⟨hkey, hctime, hcusec⟩ := sent.accepted hR hk hv
  obtain ⟨ctime, apRep, hct, hrep, henc⟩ := exists_of_buildApRep hr
  rw [kerberosTimeFromSystemTime_of_isWhole sent.isWhole hctime, Option.some.injEq] at hct
  subst hct
  rw [hkey, hcusec] at hrep
  obtain ⟨d, etype, hd, hetype, hdec, hopen⟩ := decryptApRep_of_built hR hrep henc
  have hpart : EncApRepPart.IsWhole ⟨sent.authenticator.ctime, cusec.toNat, repOptions.subkey,
      repOptions.sequenceNumber⟩ := sent.isWhole
  obtain ⟨read, hdecoded, htime, hmicros, hsub, hseq⟩ :=
    (exists_read_iff hR hpart hd hetype).mpr fun hid ↦ hread hid _ sent.ctime_eq
  refine ⟨apRep, read, hdec, ?_, ?_, hsub, hseq⟩
  · rw [sent.sessionKey_eq, hopen, hdecoded]
  · rw [EncApRepPart.Echoes, sent.authenticatorCtime_eq, sent.authenticatorCusec_eq, htime, hmicros, integerToU32_ofNat,
      systemTime_truncated_eq_iff sent.ctime_eq, and_iff_left rfl]

/-- An initiator whose clock gave it whole seconds verifies the answer of the service. -/
theorem verifyApRep_of_answer (hR : R.Lawful) {v : ServiceValidator} (hk : HoldsServiceKey P R v session)
    (hb : Client.buildApReqWithConfounder P R session options timestamp cusec confounder = .ok built)
    (hwhole : timestamp.nanos % nanosPerSec = 0) {clock : Clock} {key : ReplayKey} {now : SystemTime}
    {validated : ValidatedApReq Pac} (hv : v.checkApReq P R pac clock built.der = .ok (key, now, validated))
    {repConfounder : Bytes} {repOptions : ApRepOptions} {bytes : Bytes}
    (hr : validated.buildApRepWithConfounder P R repConfounder repOptions = .ok bytes)
    (hread : ReadsAnswer R session timestamp cusec repOptions) :
    ∃ verified, (InitiatorContext.ofBuiltApReq built).verifyApRep P R bytes = .ok verified ∧
      Mutual verified (.ofBuiltApReq built) repOptions := by
  obtain ⟨sent⟩ := exists_sent hb
  obtain ⟨apRep, read, hdec, hopened, hechoes, hsub, hseq⟩ := exists_opened_answer hR hk hb hv hr hread
  refine ⟨⟨built.authenticatorCtime, built.authenticatorCusec, built.authenticatorTime, read.subkey, read.seqNumber⟩,
    ?_, rfl, rfl, hsub, hseq⟩
  have htime := sent.time_eq
  rw [← sent.authenticatorCtime_eq, ← sent.authenticatorCusec_eq] at htime
  simp only [InitiatorContext.verifyApRep, hdec, Except.mapError, ok_bind, InitiatorContext.ofBuiltApReq,
    checkApRep_eq_ok]
  exact ⟨read, hopened, hechoes.mpr hwhole, htime, rfl⟩

end Answered

end Rskrb5.Gss
