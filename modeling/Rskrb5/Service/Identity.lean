import Rskrb5.Service.Replay

namespace Rskrb5.Service

open Lib.Results Crypto EncParts

/-- A principal with the realm and the components that the KDC sealed into a ticket. -/
def IsTicketClient (client : Principal) (encTicket : EncTicketPart) : Prop :=
  asBytes client.realm = encTicket.crealm ∧ client.components.map asBytes = encTicket.cname.string

instance (client : Principal) (encTicket : EncTicketPart) : Decidable (IsTicketClient client encTicket) :=
  inferInstanceAs (Decidable (_ ∧ _))

theorem map_asBytes_of_mapM {names : List KerberosString} {components : List String}
    (h : names.mapM kerberosStringToString = some components) : components.map asBytes = names := by
  induction names generalizing components with
  | nil =>
    cases h
    rfl
  | cons name names ih =>
    simp only [List.mapM_cons, Option.pure_def, Option.bind_eq_bind, Option.bind_eq_some_iff,
      Option.some.injEq] at h
    obtain ⟨component, hc, rest, hr, rfl⟩ := h
    rw [List.map_cons, ih hr, asBytes_of_fromUtf8 hc]

theorem asBytes_of_principalFromParts {realm : Realm} {name : PrincipalName} {p : Principal}
    (h : principalFromParts realm name = some p) :
    asBytes p.realm = realm ∧ p.components.map asBytes = name.string := by
  simp only [principalFromParts, Option.pure_def, Option.bind_eq_bind, Option.bind_eq_some_iff,
    Option.some.injEq] at h
  obtain ⟨realm', hr, components, hc, rfl⟩ := h
  exact ⟨asBytes_of_fromUtf8 hr, map_asBytes_of_mapM hc⟩

section Contents

variable {Pac : Type} (P : Primitives) (R : Rasn) (pac : PacOps Pac)

/-- The ticket and the authenticator that a validator's keytab opens in a message. -/
def ServiceValidator.Opens (v : ServiceValidator) (bytes : Bytes) (encTicket : EncTicketPart)
    (authenticator : Authenticator) : Prop :=
  ∃ apReq service serviceKey,
    decodeApReq R bytes = .ok apReq ∧
    principalFromParts apReq.ticket.realm apReq.ticket.sname = some service ∧
    (v.serviceKey apReq service).map Prod.fst = .ok serviceKey ∧
    decryptTicketEncPart P R apReq.ticket serviceKey = .ok encTicket ∧
    decryptApReqAuthenticator P R apReq encTicket.key (authenticatorUsageForTicket apReq.ticket) =
      .ok authenticator

variable {P R pac}

theorem ServiceValidator.Opens.unique {v : ServiceValidator} {bytes : Bytes} {t t' : EncTicketPart}
    {a a' : Authenticator} (h : v.Opens P R bytes t a) (h' : v.Opens P R bytes t' a') : t = t' ∧ a = a' := by
  obtain ⟨r, s, k, hr, hs, hk, ht, ha⟩ := h
  obtain ⟨r', s', k', hr', hs', hk', ht', ha'⟩ := h'
  obtain rfl := Except.ok.inj (hr.symm.trans hr')
  obtain rfl := Option.some.inj (hs.symm.trans hs')
  obtain rfl := Except.ok.inj (hk.symm.trans hk')
  obtain rfl := Except.ok.inj (ht.symm.trans ht')
  exact ⟨rfl, Except.ok.inj (ha.symm.trans ha')⟩

theorem checkApReq_of_validateApReq {v : ServiceValidator} {clock : Clock} {bytes : Bytes}
    {caches caches' : Caches} {validated : ValidatedApReq Pac}
    (h : v.validateApReq P R pac clock bytes caches = (.ok validated, caches')) :
    ∃ key now, v.checkApReq P R pac clock bytes = .ok (key, now, validated) := by
  simp only [ServiceValidator.validateApReq] at h
  cases hc : v.checkApReq P R pac clock bytes with
  | error e => simp [hc] at h
  | ok r =>
    obtain ⟨key, now, validated'⟩ := r
    simp only [hc, Prod.mk.injEq, bind_eq_ok, pure_eq_ok, Except.ok.injEq] at h
    obtain ⟨⟨_, -, rfl⟩, -⟩ := h
    exact ⟨key, now, rfl⟩

theorem client_of_checkApReq {v : ServiceValidator} {clock : Clock} {bytes : Bytes} {key : ReplayKey}
    {now : SystemTime} {validated : ValidatedApReq Pac}
    (h : v.checkApReq P R pac clock bytes = .ok (key, now, validated)) :
    ∃ encTicket authenticator, v.Opens P R bytes encTicket authenticator ∧
      asBytes validated.client.realm = authenticator.crealm ∧
      validated.client.components.map asBytes = encTicket.cname.string := by
  obtain ⟨e⟩ := v.exists_evidence P R pac h
  refine ⟨e.encTicket, e.authenticator, ⟨e.apReq, validated.service, e.key, e.decode_eq, e.service_eq, ?_,
    e.encTicket_eq, e.authenticator_eq⟩, (asBytes_of_principalFromParts e.client_eq).1, ?_⟩
  · rw [e.serviceKey_eq]
    rfl
  · rw [e.components_eq]
    exact (asBytes_of_principalFromParts e.ticketClient_eq).2

variable (P R pac)

/-- An accepted message opens, and its client is the client of the ticket exactly when the
authenticator names the realm of the ticket. -/
theorem isTicketClient_iff (v : ServiceValidator) (clock : Clock) (bytes : Bytes)
    (caches caches' : Caches) (validated : ValidatedApReq Pac)
    (h : v.validateApReq P R pac clock bytes caches = (.ok validated, caches')) :
    (∃ encTicket authenticator, v.Opens P R bytes encTicket authenticator) ∧
      ∀ encTicket authenticator, v.Opens P R bytes encTicket authenticator →
        (IsTicketClient validated.client encTicket ↔ authenticator.crealm = encTicket.crealm) := by
  obtain ⟨key, now, hc⟩ := checkApReq_of_validateApReq h
  obtain ⟨t, a, ho, hrealm, hcomp⟩ := client_of_checkApReq hc
  refine ⟨⟨t, a, ho⟩, fun encTicket authenticator ho' ↦ ?_⟩
  obtain ⟨rfl, rfl⟩ := ho.unique ho'
  rw [IsTicketClient, hrealm]
  exact and_iff_left hcomp

end Contents

section Exchange

def otherRealmAuthenticator : Authenticator := { aliceAuthenticator with crealm := asBytes "B" }

def otherRealmAuthenticatorDer : Bytes :=
  [0x62, 0x38, 0x30, 0x36, 0xa0, 0x03, 0x02, 0x01, 0x05, 0xa1, 0x03, 0x1b, 0x01, 0x42, 0xa2, 0x12,
   0x30, 0x10, 0xa0, 0x03, 0x02, 0x01, 0x01, 0xa1, 0x09, 0x30, 0x07, 0x1b, 0x05, 0x61, 0x6c, 0x69,
   0x63, 0x65, 0xa4, 0x03, 0x02, 0x01, 0x00, 0xa5, 0x11, 0x18, 0x0f, 0x32, 0x30, 0x32, 0x36, 0x30,
   0x31, 0x30, 0x31, 0x30, 0x30, 0x30, 0x31, 0x30, 0x30, 0x5a]

def otherRealmAuthenticatorCipher : Bytes :=
  [0x85, 0xad, 0x88, 0x6a, 0x51, 0x60, 0xcc, 0xa5, 0x89, 0xce, 0x88, 0x2e, 0x67, 0x90, 0xc1, 0x5a,
   0x26, 0xea, 0x4e, 0xf0, 0x44, 0xf2, 0x41, 0x94, 0xa3, 0xe9, 0x2b, 0xff, 0x12, 0xc2, 0xcf, 0x65,
   0xd2, 0x24, 0x56, 0x00, 0xe5, 0x6c, 0xc7, 0x81, 0x06, 0x83, 0x9a, 0x4b, 0xfc, 0xac, 0x51, 0x7c,
   0xaa, 0x33, 0x96, 0x61, 0x62, 0xf8, 0x9f, 0xc7, 0x24, 0x79, 0xe4, 0x05, 0x4f, 0xb3, 0x82, 0x32,
   0x6f, 0x9d, 0xca, 0x81, 0x36, 0x2c, 0x39, 0xaa, 0x7c, 0xe6, 0x67, 0x44, 0x96, 0x14, 0xdc, 0x6a,
   0xbf, 0xd7]

def otherRealmSealed : Rc4Sealed where
  key := aliceSessionKey.value
  usage := apReqAuthenticatorUsage
  confounder := exchangeConfounder
  message := otherRealmAuthenticatorDer
  usageKey := authenticatorUsageKey
  encryptionKey :=
    [0x23, 0x20, 0x58, 0xfe, 0x94, 0xe0, 0x59, 0xb2, 0xec, 0xc9, 0x04, 0xe0, 0x02, 0x81, 0x58, 0xb9]
  cipher := otherRealmAuthenticatorCipher

def realmPrimitives : Primitives :=
  .ofKnownAnswers (.ofRc4Sealed [ticketSealed, authenticatorSealed, otherRealmSealed])

def realmRasn : Rasn := .ofTable {
  apReq := [aliceAuthenticatorCipher, otherRealmAuthenticatorCipher].map fun cipher ↦
    (aliceApReq 2 cipher, aliceApReqDer 2 cipher)
  authenticator := [(aliceAuthenticator, aliceAuthenticatorDer),
    (otherRealmAuthenticator, otherRealmAuthenticatorDer)]
  encTicketPart := [(aliceEncTicket, aliceEncTicketDer)] }

theorem validateApReq_of_new {Pac : Type} {P : Primitives} {R : Rasn} {pac : PacOps Pac}
    {v : ServiceValidator} {clock : Clock} {bytes : Bytes} {key : ReplayKey} {now : SystemTime}
    {validated : ValidatedApReq Pac} (h : v.checkApReq P R pac clock bytes = .ok (key, now, validated)) :
    ∃ caches', v.validateApReq P R pac clock bytes ⟨.new, none⟩ = (.ok validated, caches') := by
  have hn : (∅ : Std.ExtHashMap ReplayKey SystemTime)[key]? = none := Std.ExtHashMap.getElem?_empty
  refine ⟨⟨⟨ReplayCache.new.entries.insert key now⟩, none⟩, ?_⟩
  rw [ServiceValidator.validateApReq, h]
  simp only [recordReplay, ReplayCache.insert, ReplayCache.new, hn]
  rfl

theorem validateApReq_realm {cipher : Bytes} {crealm : String}
    (h : cipher = aliceAuthenticatorCipher ∧ crealm = "A" ∨
      cipher = otherRealmAuthenticatorCipher ∧ crealm = "B") :
    ∃ validated caches', webValidator.validateApReq realmPrimitives realmRasn noPac ⟨webNow, webNow⟩
      (aliceApReqDer 2 cipher) ⟨.new, none⟩ = (.ok validated, caches') ∧
      validated.client = ⟨crealm, 1, ["alice"]⟩ := by
  have hmap : (webValidator.checkApReq realmPrimitives realmRasn noPac ⟨webNow, webNow⟩
      (aliceApReqDer 2 cipher)).map (fun r ↦ r.2.2.client) = .ok ⟨crealm, 1, ["alice"]⟩ := by
    rcases h with ⟨rfl, rfl⟩ | ⟨rfl, rfl⟩ <;> decide +kernel
  cases hc : webValidator.checkApReq realmPrimitives realmRasn noPac ⟨webNow, webNow⟩
      (aliceApReqDer 2 cipher) with
  | error e => simp [hc, Except.map] at hmap
  | ok r =>
    simp only [hc, Except.map, Except.ok.injEq] at hmap
    obtain ⟨caches', hv⟩ := validateApReq_of_new hc
    exact ⟨r.2.2, caches', hv, hmap⟩

theorem opens_otherRealm : webValidator.Opens realmPrimitives realmRasn
    (aliceApReqDer 2 otherRealmAuthenticatorCipher) aliceEncTicket otherRealmAuthenticator :=
  ⟨aliceApReq 2 otherRealmAuthenticatorCipher, ⟨"A", 2, ["web"]⟩, webKey, by decide +kernel,
    by decide, by decide, by decide +kernel, by decide⟩

/-- The holder of a ticket for `alice@A` is accepted as `alice@B`. -/
theorem exists_not_isTicketClient : ∃ validated caches' encTicket authenticator,
    webValidator.validateApReq realmPrimitives realmRasn noPac ⟨webNow, webNow⟩
      (aliceApReqDer 2 otherRealmAuthenticatorCipher) ⟨.new, none⟩ = (.ok validated, caches') ∧
    webValidator.Opens realmPrimitives realmRasn (aliceApReqDer 2 otherRealmAuthenticatorCipher)
      encTicket authenticator ∧
    encTicket.crealm = asBytes "A" ∧ validated.client.realm = "B" ∧
    ¬ IsTicketClient validated.client encTicket := by
  obtain ⟨validated, caches', hv, hclient⟩ := validateApReq_realm (.inr ⟨rfl, rfl⟩)
  refine ⟨validated, caches', _, _, hv, opens_otherRealm, rfl, by rw [hclient], ?_⟩
  rw [hclient]
  decide

theorem isTicketClient_iff_alice : ∃ validated caches',
    webValidator.validateApReq realmPrimitives realmRasn noPac ⟨webNow, webNow⟩
      (aliceApReqDer 2 aliceAuthenticatorCipher) ⟨.new, none⟩ = (.ok validated, caches') ∧
    (∃ encTicket authenticator, webValidator.Opens realmPrimitives realmRasn
      (aliceApReqDer 2 aliceAuthenticatorCipher) encTicket authenticator) ∧
    ∀ encTicket authenticator, webValidator.Opens realmPrimitives realmRasn
        (aliceApReqDer 2 aliceAuthenticatorCipher) encTicket authenticator →
      (IsTicketClient validated.client encTicket ↔ authenticator.crealm = encTicket.crealm) := by
  obtain ⟨validated, caches', hv, -⟩ := validateApReq_realm (.inl ⟨rfl, rfl⟩)
  exact ⟨validated, caches', hv, isTicketClient_iff realmPrimitives realmRasn noPac webValidator _ _ _ _ _ hv⟩

end Exchange

end Rskrb5.Service
