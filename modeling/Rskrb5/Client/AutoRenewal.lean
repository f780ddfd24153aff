import Rskrb5.Client.Login

namespace Rskrb5.Client

open Lib.Results Lib.Programs Crypto

section Window

def sessionRefreshDelayAt (session : AsRepSession) (now : SystemTime) : ℕ :=
  if sessionRefreshDueAt session now then 0
  else
    match session.endTime.durationSince session.authTime with
    | .error _ => 0
    | .ok lifetime =>
      match session.endTime.checkedSub (lifetime / sessionRefreshDivisor) with
      | none => 0
      | some refreshAt => (refreshAt.durationSince now).toOption.getD 0

theorem sessionRefreshDueAt_eq_false {session : AsRepSession} {now : SystemTime}
    (h : sessionRefreshDueAt session now = false) :
    now.nanos < session.endTime.nanos ∧
      ∃ lifetime, session.endTime.durationSince session.authTime = .ok lifetime ∧
        lifetime / sessionRefreshDivisor < (session.endTime.nanos - now.nanos).toNat := by
  simp only [sessionRefreshDueAt, SystemTime.le_def] at h
  split at h
  · cases h
  · next hend =>
    have hlt : now.nanos < session.endTime.nanos := by omega
    have hsince : session.endTime.durationSince now = .ok (session.endTime.nanos - now.nanos).toNat := by
      rw [SystemTime.durationSince, if_pos]
      exact SystemTime.le_def.mpr hlt.le
    refine ⟨hlt, ?_⟩
    split at h
    · cases h
    · next lifetime hlifetime =>
      split at h
      · cases h
      · rw [hsince, decide_eq_false_iff_not, not_le] at h
        exact ⟨lifetime, hlifetime, h⟩

theorem exists_checkedSub {t now : SystemTime} {d : ℕ} (hlt : now.nanos < t.nanos)
    (hd : d < (t.nanos - now.nanos).toNat) :
    ∃ earlier : SystemTime, t.checkedSub d = some earlier ∧ now.nanos < earlier.nanos := by
  have hlower := now.lower
  have hupper := t.upper
  have hnow : now.nanos < t.nanos - d := by omega
  exact ⟨⟨t.nanos - d, by omega, by omega⟩, SystemTime.ofNanos?_eq_some.mpr rfl, hnow⟩

/-- The loop sleeps exactly when the refresh is not due yet. -/
theorem sessionRefreshDelayAt_pos_iff {session : AsRepSession} {now : SystemTime} :
    0 < sessionRefreshDelayAt session now ↔ sessionRefreshDueAt session now = false := by
  cases h : sessionRefreshDueAt session now with
  | true => simp [sessionRefreshDelayAt, h]
  | false =>
    obtain ⟨hend, lifetime, hlifetime, hremaining⟩ := sessionRefreshDueAt_eq_false h
    obtain ⟨refreshAt, hrefreshAt, hlt⟩ := exists_checkedSub hend hremaining
    have hsince : refreshAt.durationSince now = .ok (refreshAt.nanos - now.nanos).toNat := by
      rw [SystemTime.durationSince, if_pos]
      exact SystemTime.le_def.mpr hlt.le
    simp only [sessionRefreshDelayAt, h, hlifetime, hrefreshAt, hsince, Bool.false_eq_true, if_false,
      Except.toOption, Option.getD_some, iff_true]
    omega

end Window

namespace TokioClient

variable {ω : Type} (W : World ω) (P : Primitives) (R : Rasn)

section Loop

/-- The first thing under the lock: how long to sleep. -/
def refreshDelayAt (c : TokioClient) (now : SystemTime) : ℕ :=
  (c.tgt.map fun tgt ↦ sessionRefreshDelayAt tgt now).getD 0

inductive TurnEnd
  | returned
  | refreshed
  | failed
  deriving DecidableEq

/-- The second one, after the sleep. A task that panics does not go on. -/
def refreshOrReturn : ClientProgram ω TurnEnd := do
  let c ← .read
  if c.credentials = none ∧ c.tgt = none then return .returned
  else
    let result ← .attempt (refreshTgtIfNeeded W P R)
    match result with
    | .ok _ => return .refreshed
    | .error (.error _) => return .failed
    | .error (.panicked message) => throw (.panicked message)

/-- `retry_delay.max(Duration::from_millis(1))`. -/
def retryPause (retryDelay : ℕ) : ℕ := max retryDelay (Duration.fromMicros 1000)

/-- A turn of the loop: the client and the world when the loop takes the lock to compute the delay,
and when it takes it again to refresh. -/
structure Turn (ω : Type) where
  looked : TokioClient × ω
  locked : TokioClient × ω

namespace Turn

variable (turn next : Turn ω)

def delay : ℕ := refreshDelayAt turn.looked.1 (W.now turn.looked.2).1

def refresh : Except Stop TurnEnd × TokioClient × ω × List Exchange :=
  (refreshOrReturn W.logged P R).exec (turn.locked.1, turn.locked.2, [])

def ending : Except Stop TurnEnd := (turn.refresh W P R).1

/-- The client as the turn leaves it. -/
def left : TokioClient := (turn.refresh W P R).2.1

def exchanges : List Exchange := (turn.refresh W P R).2.2.2

/-- How long the loop sleeps between the refresh of a turn and that of the next one. -/
def pause (retryDelay : ℕ) : ℕ :=
  (if turn.ending W P R = .ok .failed then retryPause retryDelay else 0) + next.delay W

/-- The loop goes on. Whoever else has the client may use it before the loop takes the lock again. -/
structure Next : Prop where
  goesOn : turn.ending W P R = .ok .refreshed ∨ turn.ending W P R = .ok .failed
  others : Relation.ReflTransGen (Step W P R) (turn.left W P R) next.looked.1

end Turn

/-- The turns that the loop has made, from a client in any state that it can reach. -/
structure AutoRenewal (turns : List (Turn ω)) : Prop where
  start : ∀ turn ∈ turns.head?, Reachable W P R turn.looked.1
  others : ∀ turn ∈ turns, Relation.ReflTransGen (Step W P R) turn.looked.1 turn.locked.1
  linked : turns.IsChain (Turn.Next W P R)

end Loop

section Turns

theorem exec_refreshOrReturn (s : TokioClient × ω) : (refreshOrReturn W P R).exec s =
    if s.1.credentials = none ∧ s.1.tgt = none then (.ok .returned, s)
    else match (refreshTgtIfNeeded W P R).exec s with
      | (.ok _, s') => (.ok .refreshed, s')
      | (.error (.error _), s') => (.ok .failed, s')
      | (.error (.panicked message), s') => (.error (.panicked message), s') := by
  rw [refreshOrReturn, Program.exec_read_bind]
  split
  · rfl
  · rw [Program.exec_bind, Program.attempt, Program.exec_ofExec]
    rcases (refreshTgtIfNeeded W P R).exec s with ⟨e | tgt, s'⟩
    · cases e <;> rfl
    · rfl

theorem Turn.runs_refresh (turn : Turn ω) :
    Runs W.logged P R (.any turn.locked.1.client turn.locked.1.client)
      (fun s ↦ s = (turn.locked.1, turn.locked.2, [])) (refreshTgtIfNeeded W.logged P R) fun tgt s ↦
        s.1.tgt = some tgt ∧ Ensured W.logged turn.locked.1 (W.now turn.locked.2).1
          (IssuedBy W.logged P R turn.locked.1.client.realm s.2) tgt := by
  refine runs_refreshTgtIfNeeded.weaken (fun _ _ h ↦ h) fun tgt s _ h ↦ ?_
  obtain ⟨htgt, s₀, rfl, hensured⟩ := h
  exact ⟨htgt, hensured⟩

theorem Turn.coherent_left {turn : Turn ω} (h : turn.locked.1.Coherent) : (turn.left W P R).Coherent := by
  rw [left, refresh, exec_refreshOrReturn]
  split
  · exact h
  · have hcovers := h.covers turn.locked.1.client
    have hafter := (turn.runs_refresh W P R _ ⟨hcovers, rfl⟩).1.covers hcovers
    revert hafter
    rcases (refreshTgtIfNeeded W.logged P R).exec (turn.locked.1, turn.locked.2, []) with ⟨e | tgt, s'⟩
    · cases e <;> exact fun hafter ↦ hafter.coherent
    · exact fun hafter ↦ hafter.coherent

/-- What the refresh of a turn has done when it says that it went well. -/
theorem Turn.ensured {turn : Turn ω} (hc : turn.locked.1.Coherent) (h : turn.ending W P R = .ok .refreshed) :
    ∃ tgt, (turn.left W P R).tgt = some tgt ∧ Ensured W.logged turn.locked.1 (W.now turn.locked.2).1
      (IssuedBy W.logged P R turn.locked.1.client.realm (turn.refresh W P R).2.2) tgt := by
  have hresult := (turn.runs_refresh W P R _ ⟨hc.covers turn.locked.1.client, rfl⟩).2
  rw [ending, refresh, exec_refreshOrReturn] at h
  rw [left, refresh, exec_refreshOrReturn]
  split at h
  · cases h
  · next hnot =>
    rw [if_neg hnot]
    revert h hresult
    rcases (refreshTgtIfNeeded W.logged P R).exec (turn.locked.1, turn.locked.2, []) with ⟨e | tgt, s'⟩
    · cases e <;> exact fun _ h ↦ nomatch h
    · exact fun hresult _ ↦ ⟨tgt, hresult⟩

variable {W P R} in
theorem coherent_of_steps {c c' : TokioClient} (hc : c.Coherent) (h : Relation.ReflTransGen (Step W P R) c c') :
    c'.Coherent :=
  Lib.Once.invariant_of_step Coherent (fun _ _ hc hstep ↦ hstep.coherent hc) hc h

variable {W P R} in
theorem AutoRenewal.coherent {turns : List (Turn ω)} (h : AutoRenewal W P R turns) :
    ∀ turn ∈ turns, turn.locked.1.Coherent := by
  obtain ⟨hstart, hothers, hlinked⟩ := h
  replace hstart : ∀ turn ∈ turns.head?, turn.looked.1.Coherent := fun turn ht ↦ (hstart turn ht).coherent
  induction turns with
  | nil => simp
  | cons turn turns ih =>
    have hlocked := coherent_of_steps (hstart turn rfl) (hothers turn List.mem_cons_self)
    refine List.forall_mem_cons.mpr ⟨hlocked, ?_⟩
    refine ih (fun t ht ↦ hothers t (List.mem_cons_of_mem _ ht)) (List.isChain_of_isChain_cons hlinked)
      fun next hnext ↦ ?_
    cases turns with
    | nil => cases hnext
    | cons first turns =>
      obtain rfl := Option.some.inj hnext
      rw [List.isChain_cons_cons] at hlinked
      exact coherent_of_steps (Turn.coherent_left W P R hlocked) hlinked.1.others

end Turns

/-- A turn after which there is something to wait for. Its TGT can be replaced once the refresh is
due, a TGT that is left alone is not due by the next turn, and one that is issued is not due then
either and takes the place of the old one. -/
structure Turn.Settles (turn next : Turn ω) : Prop where
  undisturbed : next.looked.1.tgt = (turn.left W P R).tgt
  replaceable : ∀ tgt ∈ turn.locked.1.tgt, sessionRefreshDueAt tgt (W.now turn.locked.2).1 = true →
    sessionRenewableAt tgt (W.now turn.locked.2).1 = true ∨ turn.locked.1.credentials ≠ none
  untouched : ∀ tgt ∈ turn.locked.1.tgt, sessionRefreshDueAt tgt (W.now turn.locked.2).1 = false →
    sessionRefreshDueAt tgt (W.now next.looked.2).1 = false
  issued : ∀ session, IssuedIn P R turn.locked.1.client.realm (turn.exchanges W P R) session →
    sessionRefreshDueAt session (W.now next.looked.2).1 = false
  preferred : ∀ session, IssuedIn P R turn.locked.1.client.realm (turn.exchanges W P R) session →
    ∀ tgt ∈ turn.locked.1.tgt, sessionRenewableAt tgt (W.now turn.locked.2).1 = false →
      ∀ w, preferCurrentSessionAt tgt session (W.now w).1 = false

section Sleeps

variable {W P R} {turn next : Turn ω}

theorem Turn.Settles.delay_pos (h : turn.Settles W P R next) (hc : turn.locked.1.Coherent)
    (hrefreshed : turn.ending W P R = .ok .refreshed) : 0 < next.delay W := by
  obtain ⟨tgt, htgt, hensured⟩ := Turn.ensured W P R hc hrefreshed
  rw [delay, refreshDelayAt, h.undisturbed, htgt]
  refine sessionRefreshDelayAt_pos_iff.mpr ?_
  cases hensured with
  | fresh held _ notDue => exact h.untouched tgt held notDue
  | renewed hissued => exact h.issued tgt hissued.issuedIn
  | stuck held valid notRenewable noCredentials =>
    cases hdue : sessionRefreshDueAt tgt (W.now turn.locked.2).1 with
    | false => exact h.untouched tgt held hdue
    | true =>
      rcases h.replaceable tgt held hdue with hrenewable | hcredentials
      · rw [notRenewable] at hrenewable
        cases hrenewable
      · exact absurd noCredentials hcredentials
  | loggedIn notRenewable hlogged =>
    cases hlogged with
    | issued hissued => exact h.issued tgt hissued.issuedIn
    | preferred session w held hissued hprefers =>
      have hnot := h.preferred session hissued.issuedIn tgt held (notRenewable tgt held) w.1
      exact absurd (hnot.symm.trans hprefers) Bool.false_ne_true

theorem retryPause_pos (retryDelay : ℕ) : 0 < retryPause retryDelay :=
  lt_of_lt_of_le (by decide) (le_max_right _ _)

theorem Turn.Settles.pause_pos (h : turn.Settles W P R next) (hc : turn.locked.1.Coherent)
    (hnext : turn.Next W P R next) (retryDelay : ℕ) : 0 < turn.pause W P R next retryDelay := by
  rcases hnext.goesOn with hrefreshed | hfailed
  · exact Nat.add_pos_right _ (h.delay_pos hc hrefreshed)
  · rw [pause, if_pos hfailed]
    exact Nat.add_pos_left (retryPause_pos retryDelay) _

variable (W P R) in
/-- In every run of the loop whose turns settle, it sleeps between two of them: before a turn that
comes after a refresh, and after a failure. -/
theorem autoRenewal_sleeps (retryDelay : ℕ) {turns : List (Turn ω)} (hrun : AutoRenewal W P R turns)
    (hsettles : turns.IsChain (Turn.Settles W P R)) :
    turns.IsChain fun turn next ↦ (turn.ending W P R = .ok .refreshed → 0 < next.delay W) ∧
      0 < turn.pause W P R next retryDelay := by
  rw [List.isChain_iff_getElem] at hsettles ⊢
  intro i hi
  have hc := hrun.coherent _ (List.getElem_mem (Nat.lt_of_succ_lt hi))
  exact ⟨(hsettles i hi).delay_pos hc, (hsettles i hi).pause_pos hc (hrun.linked.getElem i hi) retryDelay⟩

end Sleeps

section Idle

theorem exec_refreshTgtIfNeeded_of_held {c : TokioClient} {w : ω} {tgt : AsRepSession} (ht : c.tgt = some tgt)
    (hvalid : sessionValidAt tgt (W.now w).1 = true) (hrenewable : sessionRenewableAt tgt (W.now w).1 = false)
    (hcredentials : c.credentials = none) :
    (refreshTgtIfNeeded W P R).exec (c, w) = (.ok tgt, c, (W.now w).2) := by
  have hensure : (ensureTgt W P R).exec (c, w) = (.ok tgt, c, (W.now w).2) := by
    have hnow : (outside (now W)).exec (c, w) = (.ok (W.now w).1, c, (W.now w).2) := rfl
    rw [ensureTgt, Program.exec_read_bind]
    simp only [ht]
    rw [Program.exec_bind_ok hnow]
    simp only [hvalid, hrenewable, hcredentials, true_and, Bool.false_eq_true, if_false, and_self, if_true]
    split <;> rfl
  rw [refreshTgtIfNeeded, Program.exec_bind_ok hensure, Program.exec_read_bind, ht]
  rfl

/-- A client without credentials and with a TGT for an hour from `minute` that cannot be renewed. -/
def idle : Turn Unit := ⟨(restored, ()), (restored, ())⟩

def clockWorld (time : SystemTime) : World Unit := { stillWorld with now := fun w ↦ (time, w) }

/-- Five minutes before the end of the TGT. -/
def late : SystemTime := systemTimeFromU32Seconds 1767228960

theorem restored_tgt : restored.tgt = some (tgtFor "A") := by
  rw [restored_eq]
  rfl

theorem idle_refresh {time : SystemTime} (h : sessionValidAt (tgtFor "A") time = true) :
    idle.refresh (clockWorld time) referralPrimitives referralRasn = (.ok .refreshed, restored, (), []) := by
  have hcredentials : restored.credentials = none := by rw [restored_eq]; rfl
  have hrefresh := exec_refreshTgtIfNeeded_of_held (clockWorld time).logged referralPrimitives referralRasn
    restored_tgt (w := ((), [])) h rfl hcredentials
  have hheld : ¬ (restored.credentials = none ∧ restored.tgt = none) := by simp [restored_tgt]
  have hexec := exec_refreshOrReturn (clockWorld time).logged referralPrimitives referralRasn (restored, (), [])
  rw [if_neg hheld, hrefresh] at hexec
  exact hexec

theorem idle_autoRenewal {time : SystemTime} (h : sessionValidAt (tgtFor "A") time = true) :
    AutoRenewal (clockWorld time) referralPrimitives referralRasn [idle, idle] := by
  have hrestored : (fromTgtSession (clockWorld time) bareConfig (tgtFor "A") ()).1 = restored := by
    rw [restored_eq]
    exact fromTgtSession_own _ bareConfig (tgtRealm_tgtFor "A") ()
  have hreachable : Reachable (clockWorld time) referralPrimitives referralRasn restored :=
    ⟨restored, hrestored ▸ .fromTgtSession bareConfig (tgtFor "A") (), .refl⟩
  have hrefresh := idle_refresh h
  refine ⟨fun turn ht ↦ Option.some.inj ht ▸ hreachable, fun turn ht ↦ ?_, .cons_cons ⟨?_, ?_⟩ (.singleton idle)⟩
  · obtain rfl : turn = idle := by simpa using ht
    exact .refl
  · exact .inl (congrArg Prod.fst hrefresh)
  · rw [Turn.left, hrefresh]
    exact .refl

theorem idle_delay (time : SystemTime) :
    idle.delay (clockWorld time) = sessionRefreshDelayAt (tgtFor "A") time := by
  change refreshDelayAt restored time = _
  rw [refreshDelayAt, restored_tgt]
  rfl

/-- In the last sixth of the life of the TGT every turn goes well and none sleeps. -/
theorem autoRenewal_spins :
    AutoRenewal (clockWorld late) referralPrimitives referralRasn [idle, idle] ∧
    idle.ending (clockWorld late) referralPrimitives referralRasn = .ok .refreshed ∧
    idle.exchanges (clockWorld late) referralPrimitives referralRasn = [] ∧
    idle.delay (clockWorld late) = 0 := by
  have hvalid : sessionValidAt (tgtFor "A") late = true := by decide
  have hrefresh := idle_refresh hvalid
  refine ⟨idle_autoRenewal hvalid, congrArg Prod.fst hrefresh, congrArg (fun r ↦ r.2.2.2) hrefresh, ?_⟩
  rw [idle_delay]
  decide

end Idle

section Relogin

theorem exec_refreshTgtIfNeeded_of_expired {c c' : TokioClient} {w w' : ω} {tgt session : AsRepSession}
    {credentials : TokioClientCredentials} (ht : c.tgt = some tgt)
    (hvalid : sessionValidAt tgt (W.now w).1 = false) (hrenewable : sessionRenewableAt tgt (W.now w).1 = false)
    (hcredentials : c.credentials = some credentials)
    (hlogin : (login W P R).exec (c, (W.now w).2) = (.ok session, c', w')) (ht' : c'.tgt = some session) :
    (refreshTgtIfNeeded W P R).exec (c, w) = (.ok session, c', w') := by
  have hensure : (ensureTgt W P R).exec (c, w) = (.ok session, c', w') := by
    have hnow : (outside (now W)).exec (c, w) = (.ok (W.now w).1, c, (W.now w).2) := rfl
    rw [ensureTgt, Program.exec_read_bind]
    simp only [ht]
    rw [Program.exec_bind_ok hnow]
    simp only [hvalid, hrenewable, Bool.false_eq_true, false_and, if_false]
    rw [loginIfPossible, Program.exec_read_bind, hcredentials]
    exact hlogin
  rw [refreshTgtIfNeeded, Program.exec_bind_ok hensure, Program.exec_read_bind, ht']
  rfl

/-- Alice's TGT of the hour before, which ends now. -/
def lapsedTgt : AsRepSession :=
  let hourBefore := systemTimeFromU32Seconds 1767222060
  { ownTgt minute with authTime := hourBefore, startTime := hourBefore }

def lapsed : TokioClient :=
  ((TokioClient.new bareConfig lapsedTgt.client none).withPrimary lapsedTgt).withKeytabCredential aliceKeytab

def lapsedTurn : Turn Unit := ⟨(lapsed, ()), (lapsed, ())⟩

/-- The turn after the one that has logged in. -/
def renewedTurn : Turn Unit := ⟨(lapsed.loggedIn issuedTgt, ()), (lapsed.loggedIn issuedTgt, ())⟩

def issuedExchange : Exchange := ⟨"A", derAsReq issuedRequest, .ok (derAsRep issuedReply)⟩

theorem lapsed_reachable : Reachable issuingWorld issuedPrimitives issuedRasn lapsed := by
  have hrealm : tgtRealm lapsedTgt = some lapsedTgt.client.realm := by decide +kernel
  have hconstructed := Constructed.fromTgtSession (W := issuingWorld) bareConfig lapsedTgt ()
  rw [fromTgtSession_own _ bareConfig hrealm] at hconstructed
  exact ⟨_, hconstructed, .single ⟨.withKeytabCredential aliceKeytab, (), rfl⟩⟩

theorem issuingWorld_logged_login : (loginTgtWithCredentials issuingWorld.logged issuedPrimitives issuedRasn
    issuedTgt.client issuedOptions (.keytab aliceKeytab)).exec ((), []) =
      (.ok issuedTgt, ((), [issuedExchange])) := by
  decide +kernel

theorem lapsed_refresh : lapsedTurn.refresh issuingWorld issuedPrimitives issuedRasn =
    (.ok .refreshed, lapsed.loggedIn issuedTgt, (), [issuedExchange]) := by
  have hpreferred : preferredSessionAt (some lapsedTgt) issuedTgt minute = issuedTgt := by decide
  have hexchange : (asExchange issuingWorld.logged issuedPrimitives issuedRasn (.keytab aliceKeytab)).exec
      (lapsed, ((), [])) = (.ok issuedTgt, lapsed, ((), [issuedExchange])) :=
    issued_exchange (fun _ ↦ rfl) (fun _ ↦ rfl) issuingWorld_logged_login rfl rfl rfl rfl
  have hlogin : (login issuingWorld.logged issuedPrimitives issuedRasn).exec (lapsed, ((), [])) =
      (.ok issuedTgt, lapsed.loggedIn issuedTgt, ((), [issuedExchange])) :=
    hpreferred ▸ exec_login_issued hexchange rfl
  have htgt : lapsed.tgt = some lapsedTgt := rfl
  have hrefresh := exec_refreshTgtIfNeeded_of_expired issuingWorld.logged issuedPrimitives issuedRasn htgt
    (w := ((), [])) (by decide) rfl rfl hlogin rfl
  have hexec := exec_refreshOrReturn issuingWorld.logged issuedPrimitives issuedRasn (lapsed, (), [])
  rw [if_neg (by simp [lapsed, TokioClient.withKeytabCredential]), hrefresh] at hexec
  exact hexec

/-- The library reads no other part of a reply than the one that the KDC has sealed. -/
theorem eq_issuedPart_of_decode {bytes : Bytes} {encPart : EncKdcRepPart}
    (h : decodeEncKdcRepPart issuedRasn bytes = .ok encPart) : encPart = issuedPart := by
  rw [decodeEncKdcRepPart] at h
  split at h
  · next part hpart =>
    obtain rfl := Except.ok.inj h
    have hmem := Coder.mem_of_ofPairs_decode (mapError_eq_ok.mp hpart)
    simpa [encoded] using hmem
  · cases h

/-- Whatever the client reads out of the exchange has the times that the KDC has written. -/
theorem times_of_issuedIn {session : AsRepSession}
    (h : IssuedIn issuedPrimitives issuedRasn "A" [issuedExchange] session) :
    session.authTime = minute ∧ session.startTime = minute ∧ session.endTime = issuedTgt.endTime := by
  obtain ⟨exchange, hmem, hissued⟩ := h
  obtain rfl := List.mem_singleton.mp hmem
  cases hissued with
  | login request response key _ _ hsession =>
    obtain ⟨asRep, encPart, -, hopen, hkept⟩ := sessionOf_of_processAsRep _ _ hsession
    obtain ⟨plaintext, -, hdecode⟩ := bind_eq_ok.mp hopen
    obtain rfl := eq_issuedPart_of_decode hdecode
    have hminute : systemTimeFromKerberosTime issuedPart.authTime = some minute := by decide
    have hend : systemTimeFromKerberosTime issuedPart.endTime = some issuedTgt.endTime := by decide
    exact ⟨Option.some.inj (hkept.authTime_eq.symm.trans hminute),
      Option.some.inj (hkept.startTime_eq.symm.trans hminute), Option.some.inj (hkept.endTime_eq.symm.trans hend)⟩
  | renewal tgt options timestamp cusec confounder request response _ _ _ hsession =>
    obtain ⟨tgsRep, encPart, hdecode, -⟩ := sessionOf_of_processTgsRepInner _ _ hsession
    obtain ⟨rep, hrep, -⟩ := bind_eq_ok.mp hdecode
    cases hrep

theorem relogin_autoRenewal :
    AutoRenewal issuingWorld issuedPrimitives issuedRasn [lapsedTurn, renewedTurn] := by
  refine ⟨fun turn ht ↦ Option.some.inj ht ▸ lapsed_reachable, fun turn ht ↦ ?_, .cons_cons ⟨?_, ?_⟩ (.singleton _)⟩
  · obtain rfl | rfl : turn = lapsedTurn ∨ turn = renewedTurn := by simpa using ht
    · exact .refl
    · exact .refl
  · exact .inl (congrArg Prod.fst lapsed_refresh)
  · rw [Turn.left, lapsed_refresh]
    exact .refl

theorem relogin_settles :
    [lapsedTurn, renewedTurn].IsChain (Turn.Settles issuingWorld issuedPrimitives issuedRasn) := by
  have hexchanges : lapsedTurn.exchanges issuingWorld issuedPrimitives issuedRasn = [issuedExchange] :=
    congrArg (fun r ↦ r.2.2.2) lapsed_refresh
  have htgt : ∀ tgt ∈ lapsedTurn.locked.1.tgt, tgt = lapsedTgt := fun tgt ht ↦ (Option.some.inj ht).symm
  have htimes : ∀ session, IssuedIn issuedPrimitives issuedRasn lapsedTurn.locked.1.client.realm
      (lapsedTurn.exchanges issuingWorld issuedPrimitives issuedRasn) session →
        session.authTime = minute ∧ session.startTime = minute ∧ session.endTime = issuedTgt.endTime :=
    fun session h ↦ times_of_issuedIn (hexchanges ▸ h)
  refine .cons_cons ⟨?_, fun tgt _ _ ↦ .inr (Option.some_ne_none _), fun tgt ht hnotDue ↦ ?_, fun session h ↦ ?_,
    fun session h tgt ht _ w ↦ ?_⟩ (.singleton _)
  · rw [Turn.left, lapsed_refresh]
    rfl
  · obtain rfl := htgt tgt ht
    exact hnotDue
  · obtain ⟨hauth, -, hend⟩ := htimes session h
    have hlong : sessionRefreshDueAt issuedTgt minute = false := by decide
    change sessionRefreshDueAt session minute = false
    rw [sessionRefreshDueAt, hauth, hend]
    exact hlong
  · obtain rfl := htgt tgt ht
    obtain ⟨-, hstart, hend⟩ := htimes session h
    have hgone : preferCurrentSessionAt lapsedTgt issuedTgt minute = false := by decide
    change preferCurrentSessionAt lapsedTgt session minute = false
    rw [preferCurrentSessionAt, sessionValidAt, sessionValidAt, hstart, hend]
    exact hgone

/-- A turn that logs in again is followed by a sleep. -/
theorem autoRenewal_sleeps_relogin :
    lapsedTurn.ending issuingWorld issuedPrimitives issuedRasn = .ok .refreshed ∧
      lapsedTurn.exchanges issuingWorld issuedPrimitives issuedRasn = [issuedExchange] ∧
      0 < renewedTurn.delay issuingWorld := by
  have hrefreshed : lapsedTurn.ending issuingWorld issuedPrimitives issuedRasn = .ok .refreshed :=
    congrArg Prod.fst lapsed_refresh
  have hsleeps := autoRenewal_sleeps issuingWorld issuedPrimitives issuedRasn 0 relogin_autoRenewal relogin_settles
  exact ⟨hrefreshed, congrArg (fun r ↦ r.2.2.2) lapsed_refresh, (List.isChain_cons_cons.mp hsleeps).1.1 hrefreshed⟩

end Relogin

end TokioClient

end Rskrb5.Client
