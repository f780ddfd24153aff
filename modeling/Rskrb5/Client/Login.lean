import Rskrb5.Client.PrimaryTgt

namespace Rskrb5.Client.TokioClient

open Lib.Results Lib.Programs Crypto

variable {ω : Type} (W : World ω) (P : Primitives) (R : Rasn)

/-- The part of a login that asks the KDC, before anything is stored. -/
def asExchange (credentials : TokioClientCredentials) : ClientProgram ω AsRepSession := do
  let c ← .read
  let options ← asReqOptions W
  outside (loginTgtWithCredentials W P R c.client options credentials)

theorem preferredSessionAt_eq_candidate_iff {current : Option AsRepSession} {candidate : AsRepSession}
    {now : SystemTime} : preferredSessionAt current candidate now = candidate ↔
      ∀ old, current = some old → preferCurrentSessionAt old candidate now = true → old = candidate := by
  cases current with
  | none => exact ⟨fun _ _ h ↦ absurd h (Option.some_ne_none _).symm, fun _ ↦ rfl⟩
  | some old =>
    simp only [preferredSessionAt, Option.some.injEq, forall_eq']
    split
    · next h => exact ⟨fun heq _ ↦ heq, fun heq ↦ heq h⟩
    · next h => exact ⟨fun _ hold ↦ absurd hold h, fun _ ↦ rfl⟩

/-- A client that holds what the KDC issued, under its own realm and nowhere else, and no tickets. -/
structure Installed (realm : String) (issued : AsRepSession) (c : TokioClient) : Prop where
  tgt_eq : c.tgt = some issued
  tgtSessions_eq : ∀ realm', c.tgtSessions[realm']? = if realm = realm' then some issued else none
  serviceTickets_eq : c.serviceTickets = ∅

theorem installed_loggedIn_iff {c : TokioClient} {primary issued : AsRepSession} :
    Installed c.client.realm issued (c.loggedIn primary) ↔ primary = issued := by
  constructor
  · intro h
    exact Option.some.inj h.tgt_eq
  · intro heq
    subst heq
    refine ⟨rfl, fun realm' ↦ ?_, rfl⟩
    simp only [loggedIn, withPrimary, clearServiceTicketCache, getElem?_insert, getElem?_erase,
      Std.ExtTreeMap.getElem?_empty, ite_self]

section Exchange

theorem leaves_fst_asReqOptions : Leaves Prod.fst (asReqOptions W) :=
  .bind (fun _ ↦ rfl) fun _ ↦ .bind (fun _ ↦ rfl) fun _ ↦ .bind (fun _ ↦ rfl) fun _ ↦ .pure _

theorem leaves_asExchange (credentials : TokioClientCredentials) :
    Leaves Prod.fst (asExchange W P R credentials) :=
  .bind (fun _ ↦ rfl) fun _ ↦ .bind (leaves_fst_asReqOptions W) fun _ _ ↦ rfl

theorem tgtRealm_of_asExchange {credentials : TokioClientCredentials} {c : TokioClient} {w : ω}
    {issued : AsRepSession} {s : TokioClient × ω}
    (h : (asExchange W P R credentials).exec (c, w) = (.ok issued, s)) : tgtRealm issued = some c.client.realm := by
  rw [asExchange, Program.exec_read_bind] at h
  obtain ⟨options, s₁, -, hlogin⟩ := Program.exec_bind_eq_ok.mp h
  obtain ⟨hexec, -⟩ := Program.exec_onSnd_eq_ok.mp hlogin
  have hasks := asks_loginTgtWithCredentials (W := W) (P := P) (R := R) c.client options credentials
  have hissued := Goes.ok hasks trivial (congrArg Prod.fst hexec)
  exact hissued.2.tgtRealm_eq

theorem loginWithCredentials_eq (credentials : TokioClientCredentials) :
    loginWithCredentials W P R credentials = asExchange W P R credentials >>= storeIssued W := by
  simp only [loginWithCredentials, asExchange, bind_assoc]
  rfl

variable {W P R}

/-- A login stores whichever it prefers of the primary TGT that it had and the TGT that was issued. -/
theorem exec_loginWithCredentials {credentials : TokioClientCredentials} {c : TokioClient} {w w₁ : ω}
    {issued : AsRepSession} (h : (asExchange W P R credentials).exec (c, w) = (.ok issued, c, w₁)) :
    (loginWithCredentials W P R credentials).exec (c, w) =
      (.ok (preferredSessionAt c.tgt issued (W.now w₁).1),
        c.loggedIn (preferredSessionAt c.tgt issued (W.now w₁).1), (W.now w₁).2) := by
  rw [loginWithCredentials_eq, Program.exec_bind_ok h]
  exact exec_storeIssued (tgtRealm_of_asExchange W P R h) w₁

end Exchange

/-- A login installs what the KDC issued unless it prefers another TGT that the client already had. -/
theorem login_installs_iff {c c' : TokioClient} {w w' : ω} {session : AsRepSession}
    {credentials : TokioClientCredentials} (hcredentials : c.credentials = some credentials)
    (h : (login W P R).exec (c, w) = (.ok session, c', w')) :
    ∃ issued w₁, (asExchange W P R credentials).exec (c, w) = (.ok issued, c, w₁) ∧
      (session = issued ∧ Installed c.client.realm issued c' ↔
        ∀ old, c.tgt = some old → preferCurrentSessionAt old issued (W.now w₁).1 = true → old = issued) := by
  rw [login, Program.exec_read_bind, hcredentials] at h
  change (loginWithCredentials W P R credentials).exec (c, w) = _ at h
  have hleaves := leaves_asExchange W P R credentials (c, w)
  rcases hexchange : (asExchange W P R credentials).exec (c, w) with ⟨e | issued, c₁, w₁⟩
  · rw [loginWithCredentials_eq, Program.exec_bind, hexchange] at h
    cases h
  · rw [hexchange] at hleaves
    obtain rfl : c₁ = c := hleaves
    rw [exec_loginWithCredentials hexchange] at h
    obtain ⟨hsession, hstate⟩ := Prod.mk.inj h
    obtain rfl := Except.ok.inj hsession
    obtain ⟨rfl, -⟩ := Prod.mk.inj hstate
    refine ⟨issued, w₁, rfl, ?_⟩
    rw [installed_loggedIn_iff, and_self]
    exact preferredSessionAt_eq_candidate_iff

section Relogin

/-- `alice` logs in again, and the KDC gives her a TGT that ends before the one that she has. -/
def issuedUntil : UInt32 := 1767227460

def issuedTgt : AsRepSession := krbtgtSession "A" "A" (systemTimeFromU32Seconds issuedUntil)

def aliceKeytab : Keytab := ⟨2, [⟨⟨"A", 1, ["alice"]⟩, 0, 1, referralKey, 1⟩]⟩

def issuedRequest : KdcReq := ⟨5, 10, some [⟨149, []⟩], requestBody "A" (krbtgtName "A")⟩

def issuedCipher : Bytes :=
  [0x5f, 0x42, 0xb4, 0xac, 0xf4, 0xa3, 0x84, 0xd3, 0xca, 0x23, 0xa4, 0xc5, 0x84, 0x99, 0xc7, 0x61,
   0xc4, 0xac, 0xb3, 0xbe, 0xc4, 0x22, 0x93, 0x8d, 0x65, 0x49, 0x84, 0x98, 0xd3, 0xd5, 0x08, 0x4a,
   0x0f, 0x40, 0x6b, 0x2c, 0x1a, 0x0a, 0x76, 0xf4, 0x0e, 0x69, 0xc0, 0xc2, 0x59, 0x8f, 0x47, 0x96,
   0x79, 0x4d, 0x9b, 0x95, 0x37, 0xa1, 0x59, 0xd1, 0x45, 0x5f, 0x6b, 0xe2, 0xfc, 0x72, 0x26, 0x58,
   0x84, 0x6c, 0xec, 0x8a, 0xe3, 0xa7, 0xd4, 0xd4, 0x43, 0x0f, 0x4a, 0xd0, 0x46, 0xbe, 0x7a, 0xde,
   0xb4, 0xc8, 0x94, 0x11, 0xb3, 0xbe, 0xa7, 0x8c, 0x6d, 0xdb, 0xee, 0x90, 0x73, 0xce, 0xcf, 0xb7,
   0x69, 0x63, 0xe1, 0x58, 0x2e, 0x58, 0xef, 0x5f, 0xb6, 0x35, 0xfb, 0x65, 0x5d, 0xc4, 0x2b, 0x22,
   0xe9, 0x55, 0xfb, 0x42, 0x12, 0x50, 0x78, 0xad, 0x30, 0x26, 0xf9, 0x2a, 0x31, 0x4f, 0x13, 0x83,
   0x38, 0xeb, 0x69, 0xce, 0x37, 0xeb, 0x9f, 0x0b, 0x88, 0x39, 0x2c, 0xda, 0x0f, 0x28, 0xc1, 0x2b,
   0x6a]

def issuedReply : KdcRep :=
  ⟨5, 11, none, asBytes "A", aliceName, ticketOf "A" (krbtgtName "A"), ⟨23, none, issuedCipher⟩⟩

def issuedPart : EncKdcRepPart where
  key := referralKey
  lastReq := []
  nonce := 0x42424242
  keyExpiration := none
  flags := List.replicate 32 false
  authTime := wholeTime 1767225660
  startTime := none
  endTime := wholeTime issuedUntil
  renewTill := none
  srealm := asBytes "A"
  sname := krbtgtName "A"
  caddr := none
  encryptedPaData := none

def derAsReq (request : KdcReq) : Bytes :=
  derApplication 10 (derSequence ([derContext 1 (derInteger request.pvno),
    derContext 2 (derInteger request.msgType)] ++
    request.padata.toList.map (fun padata ↦ derContext 3 (derSequence
      (padata.map fun padata ↦ derTypedOctets 1 padata.paType padata.value))) ++
    [derContext 4 (derKdcReqBody request.reqBody)]))

def derAsRep (reply : KdcRep) : Bytes :=
  derApplication 11 (derSequence [derContext 0 (derInteger reply.pvno), derContext 1 (derInteger reply.msgType),
    derContext 3 (derString reply.crealm), derContext 4 (derPrincipalName reply.cname),
    derContext 5 (derTicket reply.ticket), derContext 6 (derEncryptedData reply.encPart)])

def derEncAsRepPart (part : EncKdcRepPart) : Bytes :=
  derApplication 25 (derSequence [derContext 0 (derTypedOctets 0 part.key.etype part.key.value),
    derContext 1 (derSequence []), derContext 2 (derInteger part.nonce.toNat), derContext 4 (derFlags part.flags),
    derContext 5 (derTime part.authTime), derContext 7 (derTime part.endTime),
    derContext 9 (derString part.srealm), derContext 10 (derPrincipalName part.sname)])

def issuedPrimitives : Primitives := .ofKnownAnswers (.ofRc4Sealed [{
  key := referralKey.value
  usage := EncParts.asRepEncpartUsage
  confounder := referralConfounder
  message := derEncAsRepPart issuedPart
  usageKey := [0xa1, 0x33, 0xf1, 0x3d, 0x95, 0x76, 0x20, 0x28, 0xb0, 0x45, 0x1f, 0xc2, 0xe5, 0xd6, 0xb1, 0x6d]
  encryptionKey :=
    [0x86, 0xff, 0xac, 0x2c, 0x62, 0x58, 0xd4, 0xd5, 0x0d, 0x3e, 0x4b, 0xa4, 0xe8, 0x6e, 0x3d, 0xf2]
  cipher := issuedCipher }])

def issuedRasn : Rasn :=
  { Rasn.ofTable {
      ticket := encoded derTicket [ticketOf "A" (krbtgtName "A")]
      asRep := encoded derAsRep [issuedReply]
      encAsRepPart := encoded derEncAsRepPart [issuedPart] } with
    asReq := .ofPairs (encoded derAsReq [issuedRequest]) }

def issuingWorld : World Unit where
  now w := (minute, w)
  fill len w := (.ok (Vector.replicate len 0x42), w)
  sendToRealm _ _ w := (.ok (derAsRep issuedReply), w)
  sendToKpasswdRealm _ _ w := (.error "unreachable", w)

def issuedOptions : AsReqOptions := .fromLibdefaults minute 0x42424242 bareConfig.libdefaults

section Issuing

variable {ω : Type} {W : World ω} {c : TokioClient} {w w' : ω}

/-- In a world where the time and the random bytes stand still, a login is its exchange with the KDC. -/
theorem issued_exchange (hnow : ∀ w, W.now w = (minute, w))
    (hfill : ∀ w, W.fill 4 w = (.ok (Vector.replicate 4 0x42), w))
    (hlogin : (loginTgtWithCredentials W issuedPrimitives issuedRasn issuedTgt.client issuedOptions
      (.keytab aliceKeytab)).exec w = (.ok issuedTgt, w'))
    (hclient : c.client = issuedTgt.client) (hconfig : c.config = bareConfig)
    (hassume : c.assumePreauthentication = false) (hfast : c.fastNegotiation = true) :
    (asExchange W issuedPrimitives issuedRasn (.keytab aliceKeytab)).exec (c, w) = (.ok issuedTgt, c, w') := by
  have hnonce : (outside (randomNonce W)).exec (c, w) = (.ok 0x42424242, c, w) := by
    have hbytes : (fill W 4).exec w = (.ok (List.replicate 4 0x42), w) := by
      rw [fill, Program.exec_ofExec, hfill]
      rfl
    rw [outside, Program.onSnd, Program.exec_ofExec, randomNonce, Program.exec_bind_ok hbytes]
    rfl
  have htime : (outside (now W)).exec (c, w) = (.ok minute, c, w) := by
    change (Except.ok (W.now w).1, c, (W.now w).2) = _
    rw [hnow]
  have hoptions : (asReqOptions W).exec (c, w) = (.ok issuedOptions, c, w) := by
    rw [asReqOptions, Program.exec_read_bind, Program.exec_bind_ok htime, Program.exec_bind_ok hnonce]
    change (Except.ok { AsReqOptions.fromLibdefaults minute _ c.config.libdefaults with
      assumePreauthentication := c.assumePreauthentication, fastNegotiation := c.fastNegotiation }, c, w) = _
    rw [hconfig, hassume, hfast]
    rfl
  rw [asExchange, Program.exec_read_bind, Program.exec_bind_ok hoptions, hclient, outside, Program.onSnd,
    Program.exec_ofExec, hlogin]
  rfl

theorem exec_login_issued (hexchange : (asExchange W issuedPrimitives issuedRasn (.keytab aliceKeytab)).exec (c, w) =
    (.ok issuedTgt, c, w')) (hcredentials : c.credentials = some (.keytab aliceKeytab)) :
    (login W issuedPrimitives issuedRasn).exec (c, w) = (.ok (preferredSessionAt c.tgt issuedTgt (W.now w').1),
      c.loggedIn (preferredSessionAt c.tgt issuedTgt (W.now w').1), (W.now w').2) := by
  rw [login, Program.exec_read_bind, hcredentials]
  exact exec_loginWithCredentials hexchange

end Issuing

theorem issuingWorld_login : (loginTgtWithCredentials issuingWorld issuedPrimitives issuedRasn issuedTgt.client
    issuedOptions (.keytab aliceKeytab)).exec () = (.ok issuedTgt, ()) := by
  decide +kernel

/-- `alice` with a keytab and with the TGT that she has until some time. -/
def returning (endTime : SystemTime) : TokioClient := (home endTime).withKeytabCredential aliceKeytab

theorem returning_exchange (endTime : SystemTime) :
    (asExchange issuingWorld issuedPrimitives issuedRasn (.keytab aliceKeytab)).exec (returning endTime, ()) =
      (.ok issuedTgt, returning endTime, ()) :=
  issued_exchange (fun _ ↦ rfl) (fun _ ↦ rfl) issuingWorld_login rfl rfl rfl rfl

theorem returning_reachable : Reachable issuingWorld issuedPrimitives issuedRasn (returning hourLater) := by
  have hhome : (fromTgtSession issuingWorld bareConfig (ownTgt hourLater) ()).1 = home hourLater :=
    fromTgtSession_own _ bareConfig (by decide +kernel) ()
  exact ⟨home hourLater, hhome ▸ .fromTgtSession bareConfig (ownTgt hourLater) (),
    .single ⟨.withKeytabCredential aliceKeytab, (), rfl⟩⟩

theorem login_keeps_old : Reachable issuingWorld issuedPrimitives issuedRasn (returning hourLater) ∧
    (returning hourLater).credentials = some (.keytab aliceKeytab) ∧
    (asExchange issuingWorld issuedPrimitives issuedRasn (.keytab aliceKeytab)).exec (returning hourLater, ()) =
      (.ok issuedTgt, returning hourLater, ()) ∧
    ∃ c', (login issuingWorld issuedPrimitives issuedRasn).exec (returning hourLater, ()) =
        (.ok (ownTgt hourLater), c', ()) ∧
      c'.tgt = some (ownTgt hourLater) ∧ c'.tgtSessions["A"]? = some (ownTgt hourLater) ∧
        ownTgt hourLater ≠ issuedTgt := by
  have hold : preferredSessionAt (returning hourLater).tgt issuedTgt minute = ownTgt hourLater := by
    have hkept : preferredSessionAt (some (ownTgt hourLater)) issuedTgt minute = ownTgt hourLater := by decide
    exact hkept
  refine ⟨returning_reachable, rfl, returning_exchange hourLater, (returning hourLater).loggedIn (ownTgt hourLater),
    ?_, rfl, ?_, ?_⟩
  · exact hold ▸ exec_login_issued (returning_exchange hourLater) rfl
  · exact Std.ExtTreeMap.getElem?_insert_self
  · decide

def tenMinutesLater : SystemTime := systemTimeFromU32Seconds 1767226260

/-- A TGT that ends before the one that is issued gives way to it. -/
theorem login_installs_iff_returning : (returning tenMinutesLater).tgt = some (ownTgt tenMinutesLater) ∧
    ownTgt tenMinutesLater ≠ issuedTgt ∧ Installed "A" issuedTgt ((returning tenMinutesLater).loggedIn issuedTgt) := by
  have hold : preferredSessionAt (returning tenMinutesLater).tgt issuedTgt minute = issuedTgt := by
    have hgone : preferredSessionAt (some (ownTgt tenMinutesLater)) issuedTgt minute = issuedTgt := by decide
    exact hgone
  have hlogin : (login issuingWorld issuedPrimitives issuedRasn).exec (returning tenMinutesLater, ()) =
      (.ok issuedTgt, (returning tenMinutesLater).loggedIn issuedTgt, ()) :=
    hold ▸ exec_login_issued (returning_exchange tenMinutesLater) rfl
  obtain ⟨issued, w₁, hexchange, hiff⟩ :=
    login_installs_iff _ _ _ (rfl : (returning tenMinutesLater).credentials = some (.keytab aliceKeytab)) hlogin
  have hissued := returning_exchange tenMinutesLater
  obtain rfl : issuedTgt = issued := Except.ok.inj (congrArg Prod.fst (hissued.symm.trans hexchange))
  refine ⟨rfl, by decide, (hiff.mpr fun old hhas hpreferred ↦ ?_).2⟩
  obtain rfl : ownTgt tenMinutesLater = old := Option.some.inj hhas
  have hlater : preferCurrentSessionAt (ownTgt tenMinutesLater) issuedTgt minute = false := by decide
  exact absurd (hlater.symm.trans hpreferred) Bool.false_ne_true

end Relogin

end Rskrb5.Client.TokioClient
