import Rskrb5.Client.Requests
import Rskrb5.EncParts.Exact
import Rskrb5.Gss
import Rskrb5.Service.Identity

namespace Rskrb5.Gss

open Lib.Results Crypto EncParts Service Client

/-- What `init_sec_context_with_confounder` keeps of the AP-REQ it built. The tokens that wrap
the request are left out. -/
structure InitiatorContext where
  apReq : ApReq
  apReqDer : Bytes
  client : Principal
  service : Principal
  sessionKey : EncryptionKey
  authenticatorCtime : SystemTime
  authenticatorCusec : UInt32
  authenticatorTime : SystemTime
  sequenceNumber : Option UInt32
  deriving DecidableEq

def InitiatorContext.ofBuiltApReq (built : BuiltApReq) : InitiatorContext where
  apReq := built.message
  apReqDer := built.der
  client := built.client
  service := built.service
  sessionKey := built.sessionKey
  authenticatorCtime := built.authenticatorCtime
  authenticatorCusec := built.authenticatorCusec
  authenticatorTime := built.authenticatorTime
  sequenceNumber := built.sequenceNumber

def apRepError : EncPartError → Error
  | .decode target message => .decode target message
  | .encode target message => .encode target message
  | .invalidMessage field expected actual => .invalidMessage field expected actual
  | .unsupportedEtype etype => .unsupportedEtype etype
  | .keyEtypeMismatch keyEtype encryptedDataEtype => .apRepKeyEtypeMismatch keyEtype encryptedDataEtype
  | .crypto source => .crypto source

def apRepErrors : ApRepErrors Error where
  apRepError := apRepError
  timeOverflow := .timeOverflow
  integerOutOfRange := .integerOutOfRange
  timestampMismatch := .apRepTimestampMismatch

variable (P : Primitives) (R : Rasn)

def InitiatorContext.verifyApRep (context : InitiatorContext) (bytes : Bytes) :
    Except Error VerifiedApRep := do
  let apRep ← (decodeApRep R bytes).mapError apRepError
  checkApRep P R apRepErrors apRep context.sessionKey context.authenticatorCtime
    context.authenticatorCusec context.authenticatorTime

section Request

structure Sent (session : TgsRepSession) (options : ApReqOptions) (timestamp : SystemTime)
    (cusec : UInt32) (confounder : Bytes) (built : BuiltApReq) where
  ticket : Ticket
  authenticator : Authenticator
  ticket_eq : decodeTicket R session.ticket = .ok ticket
  ctime_eq : truncatedKerberosTime timestamp = some authenticator.ctime
  cusec_eq : authenticator.cusec = cusec.toNat
  message_eq : Rskrb5.buildApReqWithConfounder P R ticket (apOptionsFromBits options.apOptionBits)
    authenticator session.sessionKey (authenticatorUsageForTicket ticket) ticket.encPart.kvno
    confounder = .ok built.message
  der_eq : R.apReq.encode built.message = .ok built.der
  time_eq : timestamp.checkedAdd (Duration.fromMicros cusec.toNat) = some built.authenticatorTime
  sessionKey_eq : built.sessionKey = session.sessionKey
  authenticatorCtime_eq : built.authenticatorCtime = timestamp
  authenticatorCusec_eq : built.authenticatorCusec = cusec

variable {P R}
variable {session : TgsRepSession} {options : ApReqOptions} {timestamp : SystemTime} {cusec : UInt32}
  {confounder : Bytes} {built : BuiltApReq}

theorem exists_sent
    (h : Client.buildApReqWithConfounder P R session options timestamp cusec confounder = .ok built) :
    Nonempty (Sent P R session options timestamp cusec confounder built) := by
  simp only [Client.buildApReqWithConfounder, authenticatorFor, checkedKerberosTime, checkedAdd,
    encodeApReq, encode, bind_eq_ok, mapError_eq_ok, okOr_eq_ok, pure_eq_ok, Except.ok.injEq] at h
  obtain ⟨ticket, ht, authenticator, ⟨_, -, _, -, ctime, hc, rfl⟩, message, hm, der, hd, time, htime,
    rfl⟩ := h
  exact ⟨⟨ticket, _, ht, hc, rfl, hm, hd, htime, rfl, rfl, rfl⟩⟩

theorem Sent.isWhole (sent : Sent P R session options timestamp cusec confounder built) :
    sent.authenticator.IsWhole :=
  (truncatedKerberosTime_eq_some sent.ctime_eq).1

theorem Sent.decodeApReq (sent : Sent P R session options timestamp cusec confounder built)
    (hR : R.Lawful) : decodeApReq R built.der = .ok built.message := by
  obtain ⟨plaintext, data, -, -, hm⟩ := buildApReqWithConfounder_eq_ok P R sent.message_eq
  have hd := hR.apReq.decode_encode trivial sent.der_eq
  simp only [Rskrb5.decodeApReq, decode, hd, Except.mapError, ok_bind, validateApReqMessage,
    validateInteger, hm]
  rfl

theorem Sent.ticket_message (sent : Sent P R session options timestamp cusec confounder built) :
    built.message.ticket = sent.ticket := by
  obtain ⟨plaintext, data, -, -, hm⟩ := buildApReqWithConfounder_eq_ok P R sent.message_eq
  rw [hm]

theorem Sent.decryptAuthenticator (sent : Sent P R session options timestamp cusec confounder built)
    (hR : R.Lawful) : decryptApReqAuthenticator P R built.message session.sessionKey
      (authenticatorUsageForTicket sent.ticket) = .ok sent.authenticator := by
  obtain ⟨d, data, hd, hdata, hm⟩ := buildApReqWithConfounder_eq_ok P R sent.message_eq
  obtain ⟨etype, he, -, -, -⟩ := (encryptData_eq_ok P).mp hdata
  exact PartKind.decrypt_of_built P (k := .authenticator _) hR (by rfl) sent.isWhole
    (hR.authenticator.isDefinite hd) hd he ⟨_, _, sent.message_eq⟩

/-- The validator finds the key of the session's ticket, whose sealed part has the session key. -/
def HoldsServiceKey (P : Primitives) (R : Rasn) (v : ServiceValidator) (session : TgsRepSession) :
    Prop :=
  ∃ ticket service key kvno encTicket, decodeTicket R session.ticket = .ok ticket ∧
    principalFromParts ticket.realm ticket.sname = some service ∧
    v.keytab.findKey (v.keytabPrincipal.getD service.components) service.realm
      (ticket.encPart.kvno.getD 0) ticket.encPart.etype = .ok (key, kvno) ∧
    decryptTicketEncPart P R ticket key = .ok encTicket ∧ encTicket.key = session.sessionKey

theorem Sent.accepted (sent : Sent P R session options timestamp cusec confounder built)
    (hR : R.Lawful) {Pac : Type} {pac : PacOps Pac} {v : ServiceValidator} {clock : Clock}
    {replayKey : ReplayKey} {now : SystemTime} {validated : ValidatedApReq Pac}
    (hk : HoldsServiceKey P R v session)
    (hv : v.checkApReq P R pac clock built.der = .ok (replayKey, now, validated)) :
    validated.sessionKey = session.sessionKey ∧
      systemTimeFromKerberosTime sent.authenticator.ctime = some validated.authenticatorCtime ∧
      validated.authenticatorCusec = cusec := by
  obtain ⟨e⟩ := v.exists_evidence P R pac hv
  obtain ⟨ticket, service, key, kvno, encTicket, ht, hs, hkey, henc, hses⟩ := hk
  obtain rfl := Except.ok.inj (ht.symm.trans sent.ticket_eq)
  have hm := Except.ok.inj (e.decode_eq.symm.trans (sent.decodeApReq hR))
  have htk : e.apReq.ticket = sent.ticket := by rw [hm, sent.ticket_message]
  have hservice := e.service_eq
  rw [htk, hs] at hservice
  obtain rfl := Option.some.inj hservice
  have hfound := e.serviceKey_eq
  rw [ServiceValidator.serviceKey, htk, hkey] at hfound
  obtain ⟨rfl, -⟩ := Prod.mk.inj (Except.ok.inj hfound)
  have hopened := e.encTicket_eq
  rw [htk, henc] at hopened
  obtain rfl := Except.ok.inj hopened
  have hauth := e.authenticator_eq
  rw [htk, hses, hm, sent.decryptAuthenticator hR] at hauth
  have hau := Except.ok.inj hauth
  refine ⟨e.sessionKey_eq.trans hses, ?_, ?_⟩
  · rw [hau, e.ctime_eq]
  · have hcu := e.cusec_eq
    rw [← hau, sent.cusec_eq, integerToU32_ofNat] at hcu
    exact (Option.some.inj hcu).symm

end Request

section Reply

variable {P R}

theorem exists_of_buildApRep {Pac : Type} {validated : ValidatedApReq Pac} {confounder : Bytes}
    {options : ApRepOptions} {bytes : Bytes}
    (h : validated.buildApRepWithConfounder P R confounder options = .ok bytes) :
    ∃ ctime apRep, kerberosTimeFromSystemTime validated.authenticatorCtime = some ctime ∧
      Rskrb5.buildApRepWithConfounder P R
        ⟨ctime, validated.authenticatorCusec.toNat, options.subkey, options.sequenceNumber⟩
        validated.sessionKey options.kvno confounder = .ok apRep ∧
      R.apRep.encode apRep = .ok bytes := by
  simp only [ValidatedApReq.buildApRepWithConfounder, ValidatedApReq.encApRepPart, encodeApRep, encode,
    bind_eq_ok, mapError_eq_ok, okOr_eq_ok, pure_eq_ok, Except.ok.injEq] at h
  obtain ⟨_, ⟨ctime, hc, rfl⟩, apRep, ha, hb⟩ := h
  exact ⟨ctime, apRep, hc, ha, hb⟩

theorem decryptApRep_of_built (hR : R.Lawful) {encPart : EncApRepPart} {key : EncryptionKey}
    {kvno : Option UInt32} {confounder bytes : Bytes} {apRep : ApRep}
    (hb : Rskrb5.buildApRepWithConfounder P R encPart key kvno confounder = .ok apRep)
    (he : R.apRep.encode apRep = .ok bytes) :
    ∃ d etype, R.encApRepPart.encode encPart = .ok d ∧ KerberosEtype.fromEtypeId key.etype = some etype ∧
      decodeApRep R bytes = .ok apRep ∧
      decryptApRepEncPart P R apRep key = decodeEncApRepPart R (etype.padded d) := by
  obtain ⟨d, data, hd, hdata, rfl⟩ := buildApRepWithConfounder_eq_ok P R hb
  obtain ⟨etype, hetype, -, -, -⟩ := (encryptData_eq_ok P).mp hdata
  have hdec := hR.apRep.decode_encode trivial he
  refine ⟨d, etype, hd, hetype, ?_, ?_⟩
  · simp only [decodeApRep, decode, hdec, Except.mapError, ok_bind, validateApRep, validateInteger]
    rfl
  · exact PartKind.decrypt_of_encrypted P R .apRep (hR.encApRepPart.isDefinite hd) hetype hdata

def Agree (read encPart : EncApRepPart) : Prop :=
  systemTimeFromKerberosTime read.ctime = systemTimeFromKerberosTime encPart.ctime ∧
    integerToU32 read.cusec = integerToU32 encPart.cusec ∧
    read.subkey = encPart.subkey ∧ read.seqNumber = encPart.seqNumber

/-- The decoder reads the encoding of a part with zeros up to a DES3 block as the same part. -/
def ReadsPadded (R : Rasn) (encPart : EncApRepPart) : Prop :=
  ∀ d, R.encApRepPart.encode encPart = .ok d → d.length % des3BlockSize ≠ 0 →
    ∃ read, R.encApRepPart.decode (zeroPad d des3BlockSize) = .ok read ∧ Agree read encPart

theorem exists_read_iff (hR : R.Lawful) {encPart : EncApRepPart} (hw : encPart.IsWhole) {d : Bytes}
    (hd : R.encApRepPart.encode encPart = .ok d) {id : Int32} {etype : KerberosEtype}
    (he : KerberosEtype.fromEtypeId id = some etype) :
    (∃ read, decodeEncApRepPart R (etype.padded d) = .ok read ∧ Agree read encPart) ↔
      (id = Des3CbcSha1KdEtype.etypeId → ReadsPadded R encPart) := by
  rw [KerberosEtype.fromEtypeId_eq_some] at he
  subst he
  by_cases hp : etype.padded d = d
  · have hread : decodeEncApRepPart R (etype.padded d) = .ok encPart := by
      rw [hp]
      exact mapError_eq_ok.mpr (hR.encApRepPart.decode_encode hw hd)
    refine iff_of_true ⟨encPart, hread, rfl, rfl, rfl, rfl⟩ fun hid d' hd' hne ↦ ?_
    obtain rfl := Except.ok.inj (hd.symm.trans hd')
    have hetype : etype = .des3CbcSha1Kd := by
      rcases etype with e | e | _ | _
      · cases e <;> exact absurd hid (by decide)
      · cases e <;> exact absurd hid (by decide)
      · rfl
      · exact absurd hid (by decide)
    exact absurd (Nat.dvd_iff_mod_eq_zero.mp ((etype.padded_eq_self_iff d).mp hp hetype)) hne
  · rw [KerberosEtype.padded_eq_self_iff, Classical.not_imp, Nat.dvd_iff_mod_eq_zero] at hp
    obtain ⟨rfl, hne⟩ := hp
    constructor
    · intro h _ d' hd' _
      obtain ⟨read, hr, ha⟩ := h
      obtain rfl := Except.ok.inj (hd.symm.trans hd')
      exact ⟨read, mapError_eq_ok.mp hr, ha⟩
    · intro h
      obtain ⟨read, hr, ha⟩ := h rfl d hd hne
      exact ⟨read, mapError_eq_ok.mpr hr, ha⟩

end Reply

section Agreement

/-- A reply to an accepted request is accepted, with the acceptor's subkey and sequence number,
exactly when the client's timestamp has no fraction of a second and under DES3 the decoder
reads the padded part back. -/
theorem verifyApRep_iff (hR : R.Lawful)
    (hw : ∀ bytes encPart, R.encApRepPart.decode bytes = .ok encPart → encPart.IsWhole)
    {Pac : Type} (pac : PacOps Pac) (v : ServiceValidator) (clock : Clock) (caches caches' : Caches)
    (session : TgsRepSession) (options : ApReqOptions) (timestamp : SystemTime) (cusec : UInt32)
    (confounder : Bytes) (built : BuiltApReq) (validated : ValidatedApReq Pac)
    (repConfounder : Bytes) (repOptions : ApRepOptions) (bytes : Bytes)
    (hk : HoldsServiceKey P R v session)
    (hb : Client.buildApReqWithConfounder P R session options timestamp cusec confounder = .ok built)
    (hv : v.validateApReq P R pac clock built.der caches = (.ok validated, caches'))
    (hr : validated.buildApRepWithConfounder P R repConfounder repOptions = .ok bytes) :
    (∃ verified, (InitiatorContext.ofBuiltApReq built).verifyApRep P R bytes = .ok verified ∧
        verified.subkey = repOptions.subkey ∧ verified.sequenceNumber = repOptions.sequenceNumber) ↔
      timestamp.nanos % nanosPerSec = 0 ∧
        (session.sessionKey.etype = Des3CbcSha1KdEtype.etypeId →
          ∀ ctime, truncatedKerberosTime timestamp = some ctime →
            ReadsPadded R ⟨ctime, cusec.toNat, repOptions.subkey, repOptions.sequenceNumber⟩) := by
  obtain ⟨sent⟩ := exists_sent hb
  obtain ⟨_, _, hc⟩ := checkApReq_of_validateApReq hv
  obtain ⟨hkey, hctime, hcusec⟩ := sent.accepted hR hk hc
  obtain ⟨ctime, apRep, hct, hrep, henc⟩ := exists_of_buildApRep hr
  rw [kerberosTimeFromSystemTime_of_isWhole sent.isWhole hctime, Option.some.injEq] at hct
  subst hct
  rw [hkey, hcusec] at hrep
  obtain ⟨d, etype, hd, hetype, hdec, hopen⟩ := decryptApRep_of_built hR hrep henc
  have hpart : EncApRepPart.IsWhole ⟨sent.authenticator.ctime, cusec.toNat, repOptions.subkey,
      repOptions.sequenceNumber⟩ := sent.isWhole
  have hread := exists_read_iff hR hpart hd hetype
  have htime := systemTime_truncated_eq_iff sent.ctime_eq
  have hcond : (session.sessionKey.etype = Des3CbcSha1KdEtype.etypeId →
      ∀ ctime, truncatedKerberosTime timestamp = some ctime →
        ReadsPadded R ⟨ctime, cusec.toNat, repOptions.subkey, repOptions.sequenceNumber⟩) ↔
      (session.sessionKey.etype = Des3CbcSha1KdEtype.etypeId →
        ReadsPadded R ⟨sent.authenticator.ctime, cusec.toNat, repOptions.subkey,
          repOptions.sequenceNumber⟩) := by
    rw [sent.ctime_eq]
    simp only [Option.some.injEq, forall_eq']
  rw [hcond, ← hread, ← htime]
  simp only [InitiatorContext.verifyApRep, hdec, Except.mapError, ok_bind, InitiatorContext.ofBuiltApReq,
    sent.sessionKey_eq, sent.authenticatorCtime_eq, sent.authenticatorCusec_eq, checkApRep_eq_ok, hopen]
  constructor
  · intro h
    obtain ⟨verified, ⟨read, hr, ⟨hrt, hrc⟩, -, hverified⟩, hsub, hseq⟩ := h
    obtain ⟨t, ht, hnanos⟩ := systemTimeFromKerberosTime_of_isWhole (hw _ _ (mapError_eq_ok.mp hr))
    obtain rfl := Option.some.inj (ht.symm.trans hrt)
    have hwhole := htime.mpr (by rw [hnanos]; exact Int.mul_emod_left _ _)
    rw [hverified] at hsub hseq
    exact ⟨hwhole, read, hr, hrt.trans hwhole.symm, hrc.trans (integerToU32_ofNat cusec).symm, hsub,
      hseq⟩
  · intro h
    obtain ⟨ht, read, hr, hat, hac, has, haq⟩ := h
    refine ⟨⟨timestamp, cusec, built.authenticatorTime, read.subkey, read.seqNumber⟩,
      ⟨read, hr, ⟨hat.trans ht, hac.trans (integerToU32_ofNat cusec)⟩, sent.time_eq, rfl⟩, has, haq⟩

end Agreement

section Exchange

def aliceTicketDer : Bytes :=
  [0x61, 0x81, 0xc3, 0x30, 0x81, 0xc0, 0xa0, 0x03, 0x02, 0x01, 0x05, 0xa1, 0x03, 0x1b, 0x01, 0x41,
   0xa2, 0x10, 0x30, 0x0e, 0xa0, 0x03, 0x02, 0x01, 0x02, 0xa1, 0x07, 0x30, 0x05, 0x1b, 0x03, 0x77,
   0x65, 0x62, 0xa3, 0x81, 0xa1, 0x30, 0x81, 0x9e, 0xa0, 0x03, 0x02, 0x01, 0x17, 0xa1, 0x03, 0x02,
   0x01, 0x02, 0xa2, 0x81, 0x91, 0x04, 0x81, 0x8e] ++ aliceTicketCipher

def aliceTicket : Ticket := (aliceApReq 2 []).ticket

def aliceSession : TgsRepSession where
  client := ⟨"A", 1, ["alice"]⟩
  service := ⟨"A", 2, ["web"]⟩
  sessionKey := aliceSessionKey
  ticket := aliceTicketDer
  ticketFlags := #v[0, 0, 0, 0]
  authTime := ⟨1767225600 * nanosPerSec, by decide, by decide⟩
  startTime := ⟨1767225600 * nanosPerSec, by decide, by decide⟩
  endTime := ⟨1767261600 * nanosPerSec, by decide, by decide⟩
  renewTill := none
  keyExpiration := none

/-- The client repeats the ticket's key version in the authenticator's data. -/
def sentApReq : ApReq :=
  { aliceApReq 2 [] with authenticator := ⟨23, some 2, aliceAuthenticatorCipher⟩ }

def sentApReqDer : Bytes :=
  [0x6e, 0x82, 0x01, 0x44, 0x30, 0x82, 0x01, 0x40, 0xa0, 0x03, 0x02, 0x01, 0x05, 0xa1, 0x03, 0x02,
   0x01, 0x0e, 0xa2, 0x07, 0x03, 0x05, 0x00, 0x00, 0x00, 0x00, 0x00, 0xa3, 0x81, 0xc6] ++
  aliceTicketDer ++
  [0xa4, 0x62, 0x30, 0x60, 0xa0, 0x03, 0x02, 0x01, 0x17, 0xa1, 0x03, 0x02, 0x01, 0x02, 0xa2, 0x54,
   0x04, 0x52] ++ aliceAuthenticatorCipher

def webEncApRep : EncApRepPart := ⟨aliceAuthenticator.ctime, 0, none, some 7⟩

def webEncApRepDer : Bytes :=
  [0x7b, 0x1f, 0x30, 0x1d, 0xa0, 0x11, 0x18, 0x0f, 0x32, 0x30, 0x32, 0x36, 0x30, 0x31, 0x30, 0x31,
   0x30, 0x30, 0x30, 0x31, 0x30, 0x30, 0x5a, 0xa1, 0x03, 0x02, 0x01, 0x00, 0xa3, 0x03, 0x02, 0x01,
   0x07]

def webApRepCipher : Bytes :=
  [0xa4, 0x73, 0xd7, 0xaa, 0x1d, 0xa6, 0x97, 0x04, 0x6a, 0xdc, 0x71, 0x05, 0x0e, 0xf9, 0xdd, 0xfb,
   0xf7, 0x50, 0xe6, 0x5c, 0x0f, 0xf9, 0xa0, 0xf6, 0x66, 0xd9, 0x11, 0xdd, 0x9b, 0x9f, 0x31, 0x62,
   0xc7, 0x43, 0x1a, 0x31, 0x60, 0x90, 0xb8, 0x07, 0x8c, 0x7d, 0xb6, 0x1e, 0x82, 0xf0, 0x7b, 0x47,
   0xaa, 0x30, 0x50, 0x46, 0x75, 0x72, 0xb1, 0xa5, 0xdc]

def webApRepDer : Bytes :=
  [0x6f, 0x52, 0x30, 0x50, 0xa0, 0x03, 0x02, 0x01, 0x05, 0xa1, 0x03, 0x02, 0x01, 0x0f, 0xa2, 0x44,
   0x30, 0x42, 0xa0, 0x03, 0x02, 0x01, 0x17, 0xa2, 0x3b, 0x04, 0x39] ++ webApRepCipher

def webApRepSealed : Rc4Sealed where
  key := aliceSessionKey.value
  usage := apRepEncpartUsage
  confounder := exchangeConfounder
  message := webEncApRepDer
  usageKey := [0x81, 0xa7, 0x90, 0x16, 0x04, 0x87, 0x80, 0x5e, 0xf6, 0x7c, 0xfb, 0x62, 0xa5, 0xe8, 0xa4, 0x84]
  encryptionKey :=
    [0x01, 0x57, 0x02, 0x8b, 0x6c, 0x14, 0x31, 0x32, 0xed, 0x21, 0x91, 0xb6, 0x90, 0x67, 0xd0, 0x66]
  cipher := webApRepCipher

def mutualPrimitives : Primitives :=
  .ofKnownAnswers (.ofRc4Sealed [ticketSealed, authenticatorSealed, webApRepSealed])

def mutualTable : Rasn.Table where
  apReq := [(sentApReq, sentApReqDer)]
  authenticator := [(aliceAuthenticator, aliceAuthenticatorDer)]
  ticket := [(aliceTicket, aliceTicketDer)]
  encTicketPart := [(aliceEncTicket, aliceEncTicketDer)]
  apRep := [(⟨5, 15, ⟨23, none, webApRepCipher⟩⟩, webApRepDer)]
  encApRepPart := [(webEncApRep, webEncApRepDer)]

def mutualRasn : Rasn := .ofTable mutualTable

theorem mutualRasn_lawful : mutualRasn.Lawful :=
  Rasn.ofTable_lawful (by decide +kernel) (by decide +kernel) (by decide +kernel) (by decide +kernel)
    (by decide) (by decide) (by decide) (by decide)

theorem mutualRasn_isWhole (bytes : Bytes) (encPart : EncApRepPart)
    (h : mutualRasn.encApRepPart.decode bytes = .ok encPart) : encPart.IsWhole := by
  have hmem : encPart ∈ [webEncApRep] := Coder.mem_of_ofPairs_decode h
  obtain rfl := List.mem_singleton.mp hmem
  rfl

theorem webValidator_holdsServiceKey :
    HoldsServiceKey mutualPrimitives mutualRasn webValidator aliceSession :=
  ⟨aliceTicket, ⟨"A", 2, ["web"]⟩, webKey, 2, aliceEncTicket, by decide +kernel, by decide,
    by decide, by decide +kernel, rfl⟩

def halfPast : SystemTime := ⟨1767225660 * nanosPerSec + 500000000, by decide, by decide⟩

def aliceBuilt (timestamp : SystemTime) : BuiltApReq where
  message := sentApReq
  der := sentApReqDer
  client := aliceSession.client
  service := aliceSession.service
  sessionKey := aliceSessionKey
  authenticatorCtime := timestamp
  authenticatorCusec := 0
  authenticatorTime := timestamp
  sequenceNumber := none
  subkey := none

def webValidated : ValidatedApReq Unit where
  client := ⟨"A", 1, ["alice"]⟩
  service := ⟨"A", 2, ["web"]⟩
  sessionKey := aliceSessionKey
  subkey := none
  sequenceNumber := none
  ticketStart := aliceSession.startTime
  ticketEnd := aliceSession.endTime
  authenticatorCtime := webNow
  authenticatorCusec := 0
  authenticatorTime := webNow
  pac := none

theorem aliceBuilt_eq {timestamp : SystemTime} (h : timestamp = webNow ∨ timestamp = halfPast) :
    Client.buildApReqWithConfounder mutualPrimitives mutualRasn aliceSession .new timestamp 0
      exchangeConfounder = .ok (aliceBuilt timestamp) := by
  rcases h with rfl | rfl <;> decide +kernel

theorem webValidated_eq : ∃ caches', webValidator.validateApReq mutualPrimitives mutualRasn noPac
    ⟨webNow, webNow⟩ sentApReqDer ⟨.new, none⟩ = (.ok webValidated, caches') :=
  validateApReq_of_new (by decide +kernel : _ = Except.ok (aliceReplayKey 2, webNow, webValidated))

theorem webApRepDer_eq : webValidated.buildApRepWithConfounder mutualPrimitives mutualRasn
    exchangeConfounder ⟨none, some 7, none⟩ = .ok webApRepDer := by
  decide

/-- A request made half a second past: the service accepts it and answers, and the client
turns the answer down. -/
theorem not_verifyApRep_halfPast :
    HoldsServiceKey mutualPrimitives mutualRasn webValidator aliceSession ∧
    Client.buildApReqWithConfounder mutualPrimitives mutualRasn aliceSession .new halfPast 0
      exchangeConfounder = .ok (aliceBuilt halfPast) ∧
    (∃ caches', webValidator.validateApReq mutualPrimitives mutualRasn noPac ⟨webNow, webNow⟩
      (aliceBuilt halfPast).der ⟨.new, none⟩ = (.ok webValidated, caches')) ∧
    webValidated.buildApRepWithConfounder mutualPrimitives mutualRasn exchangeConfounder
      ⟨none, some 7, none⟩ = .ok webApRepDer ∧
    (InitiatorContext.ofBuiltApReq (aliceBuilt halfPast)).verifyApRep mutualPrimitives mutualRasn
      webApRepDer = .error (.apRepTimestampMismatch halfPast webNow) :=
  ⟨webValidator_holdsServiceKey, aliceBuilt_eq (.inr rfl), webValidated_eq, webApRepDer_eq,
    by decide⟩

theorem verifyApRep_iff_onTheMinute : ∃ verified,
    (InitiatorContext.ofBuiltApReq (aliceBuilt webNow)).verifyApRep mutualPrimitives mutualRasn
      webApRepDer = .ok verified ∧ verified.subkey = none ∧ verified.sequenceNumber = some 7 := by
  obtain ⟨caches', hv⟩ := webValidated_eq
  exact (verifyApRep_iff mutualPrimitives mutualRasn mutualRasn_lawful mutualRasn_isWhole noPac
    webValidator ⟨webNow, webNow⟩ ⟨.new, none⟩ caches' aliceSession .new webNow 0 exchangeConfounder
    (aliceBuilt webNow) webValidated exchangeConfounder ⟨none, some 7, none⟩ webApRepDer
    webValidator_holdsServiceKey (aliceBuilt_eq (.inl rfl)) hv webApRepDer_eq).mpr
      ⟨by decide, fun h ↦ absurd h (by decide)⟩

end Exchange

end Rskrb5.Gss
