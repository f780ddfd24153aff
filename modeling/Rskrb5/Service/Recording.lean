import Rskrb5.Service.Replay

namespace Rskrb5.Service

open Lib.Results Crypto EncParts

variable {Pac : Type}

section Order

def encryptionKeyFromRasn (value : EncryptionKey) : Except Error EncryptionKey := .ok value

/-- What is known of a message when its key is recorded. -/
structure CheckedApReq (Pac : Type) where
  client : Principal
  service : Principal
  sessionKey : EncryptionKey
  encTicket : EncTicketPart
  authenticator : Authenticator
  authenticatorCtime : SystemTime
  authenticatorCusec : UInt32
  authenticatorTime : SystemTime
  pac : Option Pac

/-- The conversions that stand behind `record_replay`. -/
def CheckedApReq.toValidated (checked : CheckedApReq Pac) : Except Error (ValidatedApReq Pac) := do
  let subkey ← checked.authenticator.subkey.mapM encryptionKeyFromRasn
  let ticketStart ← ticketStartTime checked.encTicket
  let ticketEnd ← okOr (systemTimeFromKerberosTime checked.encTicket.endTime) .timeOverflow
  return {
    client := checked.client
    service := checked.service
    sessionKey := checked.sessionKey
    subkey
    sequenceNumber := checked.authenticator.seqNumber
    ticketStart
    ticketEnd
    authenticatorCtime := checked.authenticatorCtime
    authenticatorCusec := checked.authenticatorCusec
    authenticatorTime := checked.authenticatorTime
    pac := checked.pac }

namespace ServiceValidator

variable (v : ServiceValidator) (P : Primitives) (R : Rasn) (pac : PacOps Pac)

/-- `validate_ap_req` up to `record_replay`. -/
def checkBeforeRecording (clock : Clock) (bytes : Bytes) :
    Except Error (ReplayKey × SystemTime × CheckedApReq Pac) := do
  let apReq ← (decodeApReq R bytes).mapError apReqError
  let ticketService ← okOr (principalFromParts apReq.ticket.realm apReq.ticket.sname) .invalidString
  let (serviceKey, _) ← (v.serviceKey apReq ticketService).mapError .keytab
  let encTicket ← (decryptTicketEncPart P R apReq.ticket serviceKey).mapError ticketError
  v.validateTicketTimes clock.ticketTimes ticketService encTicket
  v.validateClientAddress ticketService encTicket
  let verified ← findVerifiedPac pac encTicket serviceKey
  let sessionKey ← encryptionKeyFromRasn encTicket.key
  let authenticator ← (decryptApReqAuthenticator P R apReq sessionKey
    (authenticatorUsageForTicket apReq.ticket)).mapError apReqError
  let ticketClient ← okOr (principalFromParts encTicket.crealm encTicket.cname) .invalidString
  let authenticatorClient ←
    okOr (principalFromParts authenticator.crealm authenticator.cname) .invalidString
  ensure (authenticatorClient.components = ticketClient.components)
    (.clientPrincipalMismatch ticketClient.name authenticatorClient.name)
  let cusec ← okOr (integerToU32 authenticator.cusec)
    (.integerOutOfRange "authenticator.cusec" (toString authenticator.cusec))
  let authenticatorCtime ← okOr (systemTimeFromKerberosTime authenticator.ctime) .timeOverflow
  let authenticatorTime ←
    okOr (authenticatorCtime.checkedAdd (Duration.fromMicros cusec.toNat)) .timeOverflow
  let now := v.now.getD clock.authenticator
  ensure (absDuration now authenticatorTime ≤ v.maxClockSkew) (.clockSkew v.maxClockSkew)
  let replayKey : ReplayKey :=
    { service := ticketService, client := authenticatorClient
      ctimeSeconds := authenticator.ctime.seconds, cusec }
  return (replayKey, now,
    { client := authenticatorClient, service := ticketService, sessionKey, encTicket, authenticator,
      authenticatorCtime, authenticatorCusec := cusec, authenticatorTime, pac := verified })

/-- `validate_ap_req` in the order of its steps. -/
def validateApReqInOrder (clock : Clock) (bytes : Bytes) (caches : Caches) :
    Except Error (ValidatedApReq Pac) × Caches :=
  match v.checkBeforeRecording P R pac clock bytes with
  | .error e => (.error e, caches)
  | .ok (replayKey, now, checked) =>
    let (recorded, caches) := recordReplay caches replayKey now
    (do recorded; checked.toValidated, caches)

variable {v P R pac} {clock : Clock} {bytes : Bytes}

theorem mapM_encryptionKeyFromRasn (key : Option EncryptionKey) :
    key.mapM encryptionKeyFromRasn = .ok key := by
  cases key <;> rfl

theorem checkApReq_eq_bind : v.checkApReq P R pac clock bytes =
    v.checkBeforeRecording P R pac clock bytes >>= fun found ↦
      found.2.2.toValidated >>= fun validated ↦ pure (found.1, found.2.1, validated) := by
  simp only [checkApReq, checkBeforeRecording, CheckedApReq.toValidated, encryptionKeyFromRasn,
    mapM_encryptionKeyFromRasn, bind_assoc, pure_bind, ok_bind]

/-- The times of the ticket were converted when they were compared with the clock. -/
theorem exists_ticketTimes {now : SystemTime} {service : Principal} {encTicket : EncTicketPart}
    (h : v.validateTicketTimes now service encTicket = .ok ()) :
    (∃ start, ticketStartTime encTicket = .ok start) ∧
      ∃ endTime, okOr (systemTimeFromKerberosTime encTicket.endTime) .timeOverflow =
        (.ok endTime : Except Error SystemTime) := by
  simp only [validateTicketTimes, bind_eq_ok] at h
  obtain ⟨start, hstart, -, -, endTime, hend, -⟩ := h
  exact ⟨⟨start, hstart⟩, endTime, hend⟩

/-- No conversion behind `record_replay` fails. -/
theorem exists_toValidated {replayKey : ReplayKey} {now : SystemTime} {checked : CheckedApReq Pac}
    (h : v.checkBeforeRecording P R pac clock bytes = .ok (replayKey, now, checked)) :
    ∃ validated, checked.toValidated = .ok validated := by
  simp only [checkBeforeRecording, bind_eq_ok, pure_eq_ok, Except.ok.injEq, Prod.mk.injEq] at h
  obtain ⟨_, -, _, -, _, -, encTicket, -, _, htimes, _, -, _, -, _, -, _, -, _, -, _, -, _, -, _, -, _, -,
    _, -, _, -, -, -, rfl⟩ := h
  obtain ⟨⟨start, hstart⟩, endTime, hend⟩ := exists_ticketTimes htimes
  simp only [CheckedApReq.toValidated, mapM_encryptionKeyFromRasn, hstart, hend, ok_bind]
  exact ⟨_, rfl⟩

/-- The key is recorded after everything that can fail. -/
theorem validateApReqInOrder_eq (caches : Caches) :
    v.validateApReqInOrder P R pac clock bytes caches = v.validateApReq P R pac clock bytes caches := by
  rw [validateApReqInOrder, validateApReq, checkApReq_eq_bind]
  cases hc : v.checkBeforeRecording P R pac clock bytes with
  | error error => rfl
  | ok found =>
    obtain ⟨validated, hvalidated⟩ := exists_toValidated hc
    simp only [hvalidated, ok_bind, pure_eq_ok]

end ServiceValidator

end Order

section Recording

/-- The cache that keys are recorded in: the shared one when there is one. -/
def Caches.active (caches : Caches) : ReplayCache :=
  match caches.sharedReplayCache with
  | some shared => shared.cache
  | none => caches.replayCache

def Caches.withActive (caches : Caches) (cache : ReplayCache) : Caches :=
  match caches.sharedReplayCache with
  | some shared => { caches with sharedReplayCache := some { shared with cache } }
  | none => { caches with replayCache := cache }

variable {caches caches' : Caches} {replayKey : ReplayKey} {now : SystemTime}

theorem active_withActive (cache : ReplayCache) : (caches.withActive cache).active = cache := by
  obtain ⟨own, shared⟩ := caches
  cases shared <;> rfl

/-- A key is put into the active cache, or nothing changes and the error is of the cache's lock. -/
theorem recordReplay_active (caches : Caches) (replayKey : ReplayKey) (now : SystemTime) :
    recordReplay caches replayKey now =
      (ensure (caches.active.entries[replayKey]?.isNone = true) .replay,
        caches.withActive ⟨caches.active.entries.insert replayKey now⟩) ∨
    recordReplay caches replayKey now = (.error .replayCachePoisoned, caches) := by
  obtain ⟨own, shared⟩ := caches
  cases shared with
  | none => exact .inl rfl
  | some shared =>
    obtain ⟨cache, poisoned⟩ := shared
    cases poisoned with
    | true => exact .inr rfl
    | false => exact .inl rfl

theorem withActive_active (caches : Caches) : caches.withActive caches.active = caches := by
  obtain ⟨own, shared⟩ := caches
  cases shared <;> rfl

/-- Recording a key that is there already changes its time only. -/
theorem mem_insert_of_mem {entries : Std.ExtHashMap ReplayKey SystemTime}
    (h : entries[replayKey]?.isNone ≠ true) (key : ReplayKey) :
    key ∈ entries.insert replayKey now ↔ key ∈ entries := by
  rw [Std.ExtHashMap.mem_insert]
  constructor
  · rintro (heq | hm)
    · obtain rfl := eq_of_beq heq
      rw [← Std.ExtHashMap.isSome_getElem?_iff_mem]
      simpa using h
    · exact hm
  · exact .inr

theorem isSome_withActive (cache : ReplayCache) :
    (caches.withActive cache).sharedReplayCache.isSome = caches.sharedReplayCache.isSome := by
  obtain ⟨own, shared⟩ := caches
  cases shared <;> rfl

section Results

variable {result : Except Error Unit} (h : recordReplay caches replayKey now = (result, caches'))

include h

theorem isSome_of_recordReplay : caches'.sharedReplayCache.isSome = caches.sharedReplayCache.isSome := by
  rcases recordReplay_active caches replayKey now with hr | hr
  · obtain ⟨-, rfl⟩ := Prod.mk.inj (hr.symm.trans h)
    exact isSome_withActive _
  · obtain ⟨-, rfl⟩ := Prod.mk.inj (hr.symm.trans h)
    rfl

/-- Whatever comes of a recording, no key is lost. -/
theorem mem_of_recordReplay {key : ReplayKey} (hkey : key ∈ caches.active.entries) :
    key ∈ caches'.active.entries := by
  rcases recordReplay_active caches replayKey now with hr | hr
  · obtain ⟨-, rfl⟩ := Prod.mk.inj (hr.symm.trans h)
    rw [active_withActive]
    exact Std.ExtHashMap.mem_insert.mpr (.inr hkey)
  · obtain ⟨-, rfl⟩ := Prod.mk.inj (hr.symm.trans h)
    exact hkey

end Results

/-- A key that has been recorded was not there before. -/
theorem new_of_recordReplay (h : recordReplay caches replayKey now = (.ok (), caches')) :
    replayKey ∉ caches.active.entries ∧ replayKey ∈ caches'.active.entries := by
  rcases recordReplay_active caches replayKey now with hr | hr
  · obtain ⟨hresult, rfl⟩ := Prod.mk.inj (hr.symm.trans h)
    rw [active_withActive, ← Std.ExtHashMap.isSome_getElem?_iff_mem]
    refine ⟨fun hsome ↦ ?_, Std.ExtHashMap.mem_insert_self⟩
    have hnone := ensure_eq_ok.mp hresult
    rw [Option.isNone_iff_eq_none] at hnone
    rw [hnone] at hsome
    cases hsome
  · cases hr.symm.trans h

variable (v : ServiceValidator) (P : Primitives) (R : Rasn) (pac : PacOps Pac) (clock : Clock) (bytes : Bytes)

/-- An accepted message puts its key into the active cache with the time of the validation, a
replayed one leaves the keys as they are, and any other error leaves everything as it is. -/
theorem validateApReq_recording (caches : Caches) :
    match v.validateApReqInOrder P R pac clock bytes caches with
    | (.ok validated, caches') => ∃ replayKey now,
        Nonempty (v.Evidence P R clock bytes replayKey now validated) ∧
        caches.active.entries[replayKey]? = none ∧
        caches' = caches.withActive caches'.active ∧
        ∀ other, caches'.active.entries[other]? =
          if other = replayKey then some now else caches.active.entries[other]?
    | (.error .replay, caches') => caches' = caches.withActive caches'.active ∧
        ∀ key, key ∈ caches'.active.entries ↔ key ∈ caches.active.entries
    | (.error _, caches') => caches' = caches := by
  rw [ServiceValidator.validateApReqInOrder_eq, ServiceValidator.validateApReq]
  cases hc : v.checkApReq P R pac clock bytes with
  | error error =>
    cases error with
    | replay => exact ⟨(withActive_active caches).symm, fun _ ↦ Iff.rfl⟩
    | _ => rfl
  | ok found =>
    obtain ⟨replayKey, now, validated⟩ := found
    simp only
    rcases recordReplay_active caches replayKey now with hr | hr
    · rw [hr]
      by_cases hnone : caches.active.entries[replayKey]?.isNone = true
      · rw [ensure_of hnone]
        refine ⟨replayKey, now, v.exists_evidence P R pac hc, Option.isNone_iff_eq_none.mp hnone, ?_, ?_⟩
        · rw [active_withActive]
        · intro other
          rw [active_withActive, Std.ExtHashMap.getElem?_insert]
          by_cases heq : other = replayKey
          · simp [heq]
          · rw [if_neg heq, if_neg (by simpa using Ne.symm heq)]
      · rw [ensure_of_not hnone]
        refine ⟨by rw [active_withActive], fun key ↦ ?_⟩
        rw [active_withActive]
        exact mem_insert_of_mem hnone key
    · rw [hr]
      rfl

end Recording

end Rskrb5.Service
