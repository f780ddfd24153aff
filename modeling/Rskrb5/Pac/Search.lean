import Rskrb5.Pac.Verification
import Rskrb5.Service.Replay

namespace Rskrb5.Pac

open Lib.Results Crypto Service

def adIfRelevant : Int32 := 1
def adWin2kPac : Int32 := 128

/-- The octets of the elements, and one more for each of them. -/
def size (authorizationData : AuthorizationData) : ℕ := (authorizationData.map fun entry ↦ entry.data.length + 1).sum

theorem size_tail_lt (entry : AuthorizationDataValue) (rest : AuthorizationData) :
    size rest < size (entry :: rest) := by
  simp only [size, List.map_cons, List.sum_cons]
  omega

/-- The decoder of what an element contains. A value takes more octets than the values that it is made of. -/
structure Unwrapper where
  decode : Bytes → Except String AuthorizationData
  size_le : ∀ {bytes nested}, decode bytes = .ok nested → size nested ≤ bytes.length

theorem Unwrapper.size_lt (A : Unwrapper) {entry : AuthorizationDataValue} {nested : AuthorizationData}
    (h : A.decode entry.data = .ok nested) (rest : AuthorizationData) : size nested < size (entry :: rest) := by
  have hnested := A.size_le h
  simp only [size, List.map_cons, List.sum_cons] at hnested ⊢
  omega

/-- The failures of a search: those of the PAC that it ends at, and one of its own. -/
inductive SearchError
  | derDecode (message : String)
  | pac (source : Error)
  deriving DecidableEq

section Search

variable (A : Unwrapper) (Z : Compcol)

def findPacInAuthorizationData : AuthorizationData → Except SearchError (Option Pac)
  | [] => .ok none
  | entry :: rest =>
    if entry.adType = adWin2kPac then ((Pac.parseAndProcess Z entry.data).mapError .pac).map some
    else if entry.adType = adIfRelevant then
      match _h : A.decode entry.data with
      | .error message => .error (.derDecode message)
      | .ok nested =>
        match findPacInAuthorizationData nested with
        | .error e => .error e
        | .ok (some pac) => .ok (some pac)
        | .ok none => findPacInAuthorizationData rest
    else findPacInAuthorizationData rest
  termination_by authorizationData => size authorizationData
  decreasing_by
    · exact A.size_lt _h rest
    · exact size_tail_lt entry rest
    · exact size_tail_lt entry rest

/-- Everything that a search could end at, in its order: the PACs, and what cannot be unwrapped. -/
def ends : AuthorizationData → List (Except String Bytes)
  | [] => []
  | entry :: rest =>
    if entry.adType = adWin2kPac then .ok entry.data :: ends rest
    else if entry.adType = adIfRelevant then
      match _h : A.decode entry.data with
      | .error message => .error message :: ends rest
      | .ok nested => ends nested ++ ends rest
    else ends rest
  termination_by authorizationData => size authorizationData
  decreasing_by
    · exact size_tail_lt entry rest
    · exact size_tail_lt entry rest
    · exact A.size_lt _h rest
    · exact size_tail_lt entry rest
    · exact size_tail_lt entry rest

/-- What a search makes of its end. -/
def processed : Option (Except String Bytes) → Except SearchError (Option Pac)
  | none => .ok none
  | some (.error message) => .error (.derDecode message)
  | some (.ok bytes) => ((Pac.parseAndProcess Z bytes).mapError .pac).map some

theorem processed_append (front back : List (Except String Bytes)) : processed Z (front ++ back).head? =
    match processed Z front.head? with
    | .ok none => processed Z back.head?
    | result => result := by
  cases front with
  | nil => rfl
  | cons first front =>
    rw [List.cons_append, List.head?_cons, List.head?_cons]
    cases first with
    | error message => rfl
    | ok bytes =>
      rw [processed]
      cases Pac.parseAndProcess Z bytes <;> rfl

section Ends

variable {A} {entry : AuthorizationDataValue} (rest : AuthorizationData)

theorem ends_pac (h : entry.adType = adWin2kPac) : ends A (entry :: rest) = .ok entry.data :: ends A rest := by
  rw [ends, if_pos h]

theorem ends_other (h : entry.adType ≠ adWin2kPac) (h' : entry.adType ≠ adIfRelevant) :
    ends A (entry :: rest) = ends A rest := by
  rw [ends, if_neg h, if_neg h']

theorem ends_relevant (h : entry.adType ≠ adWin2kPac) (h' : entry.adType = adIfRelevant) :
    ends A (entry :: rest) = match A.decode entry.data with
      | .error message => .error message :: ends A rest
      | .ok nested => ends A nested ++ ends A rest := by
  rw [ends, if_neg h, if_pos h']
  split <;> simp only [*]

end Ends

/-- The search ends at the first place that it could end at. -/
theorem findPac_eq_processed (authorizationData : AuthorizationData) :
    findPacInAuthorizationData A Z authorizationData = processed Z (ends A authorizationData).head? := by
  fun_induction findPacInAuthorizationData A Z authorizationData with
  | case1 =>
    rw [ends]
    rfl
  | case2 entry rest hpac =>
    rw [ends_pac rest hpac]
    rfl
  | case3 entry rest hpac hrelevant message hdecode =>
    rw [ends_relevant rest hpac hrelevant, hdecode]
    rfl
  | case4 entry rest hpac hrelevant nested hdecode e hnested ih =>
    rw [ends_relevant rest hpac hrelevant, hdecode]
    dsimp only
    rw [processed_append, ← ih, hnested]
  | case5 entry rest hpac hrelevant nested hdecode pac hnested ih =>
    rw [ends_relevant rest hpac hrelevant, hdecode]
    dsimp only
    rw [processed_append, ← ih, hnested]
  | case6 entry rest hpac hrelevant nested hdecode hnested ih ih' =>
    rw [ends_relevant rest hpac hrelevant, hdecode]
    dsimp only
    rw [processed_append, ← ih, hnested]
    exact ih'
  | case7 entry rest hpac hrelevant ih =>
    rw [ends_other rest hpac hrelevant]
    exact ih

end Search

section Trust

variable (A : Unwrapper) (Z : Compcol) (P : Primitives) (display : SearchError → String)

/-- The PAC module as the service calls it. An error is passed on as its text. -/
def pacOps : PacOps Pac where
  findPacInAuthorizationData authorizationData :=
    (findPacInAuthorizationData A Z authorizationData).mapError display
  verify pac key := (pac.verify P key).mapError fun e ↦ display (.pac e)

/-- A PAC that has what a service needs, and a server signature by the key of the service. -/
structure Trusted (bytes : Bytes) (key : EncryptionKey) (pac : Pac) : Prop where
  processed_eq : Pac.parseAndProcess Z bytes = .ok pac
  complete : pac.kerbValidationInfo.isSome ∧ pac.kdcChecksum.isSome ∧ pac.clientInfo.isSome
  signed : ∃ checksum etype, pac.serverChecksum = some checksum ∧
    kerberosEtypeForChecksumType checksum.signatureType = some etype ∧ key.etype = etype.etypeId ∧
    etype.verifyChecksum P key.value pac.zeroSignatureData checksum.signature pacServerChecksumKeyUsage = true

/-- A ticket carries no PAC, or one that can be trusted in front of everything else that a search could end at. -/
def Carries (encTicket : EncTicketPart) (key : EncryptionKey) (found : Option Pac) : Prop :=
  match found with
  | none => ∀ authorizationData, encTicket.authorizationData = some authorizationData → ends A authorizationData = []
  | some pac => ∃ authorizationData bytes, encTicket.authorizationData = some authorizationData ∧
    (ends A authorizationData).head? = some (.ok bytes) ∧ Trusted Z P bytes key pac

variable {A Z P display} {key : EncryptionKey} {encTicket : EncTicketPart}

theorem verify_eq_ok {pac : Pac} {u : Unit} : pac.verify P key = .ok u ↔
    (pac.kerbValidationInfo.isSome ∧ pac.kdcChecksum.isSome ∧ pac.clientInfo.isSome) ∧
      ∃ checksum etype, pac.serverChecksum = some checksum ∧
        kerberosEtypeForChecksumType checksum.signatureType = some etype ∧ key.etype = etype.etypeId ∧
        etype.verifyChecksum P key.value pac.zeroSignatureData checksum.signature pacServerChecksumKeyUsage = true := by
  simp only [Pac.verify, requireServiceBuffers, verifyServerChecksum, bind_eq_ok, ensure_eq_ok, okOr_eq_ok,
    exists_const]
  constructor
  · rintro ⟨⟨hinfo, hserver, hkdc, hclient⟩, verified, ⟨checksum, hchecksum, etype, hetype, hverify⟩, rfl⟩
    split at hverify
    · cases hverify
    · next hkey =>
      exact ⟨⟨hinfo, hkdc, hclient⟩, checksum, etype, hchecksum, hetype, not_not.mp hkey, Except.ok.inj hverify⟩
  · rintro ⟨⟨hinfo, hkdc, hclient⟩, checksum, etype, hchecksum, hetype, hkey, hverify⟩
    refine ⟨⟨hinfo, by rw [hchecksum]; rfl, hkdc, hclient⟩, true, ⟨checksum, hchecksum, etype, hetype, ?_⟩, rfl⟩
    rw [if_neg (not_not.mpr hkey), hverify]
    rfl

theorem findPac_eq_none {authorizationData : AuthorizationData} :
    findPacInAuthorizationData A Z authorizationData = .ok none ↔ ends A authorizationData = [] := by
  rw [findPac_eq_processed, ← List.head?_eq_none_iff]
  rcases (ends A authorizationData).head? with _ | message | bytes
  · simp [processed]
  · simp [processed]
  · cases hpac : Pac.parseAndProcess Z bytes <;> simp [processed, hpac, Except.mapError, Except.map]

theorem findPac_eq_some {authorizationData : AuthorizationData} {pac : Pac} :
    findPacInAuthorizationData A Z authorizationData = .ok (some pac) ↔
      ∃ bytes, (ends A authorizationData).head? = some (.ok bytes) ∧ Pac.parseAndProcess Z bytes = .ok pac := by
  rw [findPac_eq_processed]
  rcases (ends A authorizationData).head? with _ | message | bytes
  · simp [processed]
  · simp [processed]
  · cases hpac : Pac.parseAndProcess Z bytes <;> simp [processed, hpac, Except.mapError, Except.map]

theorem findVerifiedPac_eq_ok {found : Option Pac} :
    ServiceValidator.findVerifiedPac (pacOps A Z P display) encTicket key = .ok found ↔
      Carries A Z P encTicket key found := by
  rw [ServiceValidator.findVerifiedPac]
  cases hdata : encTicket.authorizationData with
  | none => cases found <;> simp [Carries, hdata]
  | some authorizationData =>
    have hsearch : ∀ result, (((pacOps A Z P display).findPacInAuthorizationData authorizationData).mapError
        Service.Error.pac = .ok result ↔ findPacInAuthorizationData A Z authorizationData = .ok result) := by
      intro result
      rw [mapError_eq_ok, pacOps, mapError_eq_ok]
    simp only [bind_eq_ok, hsearch]
    cases found with
    | none =>
      simp only [Carries, hdata, Option.some.injEq, forall_eq', ← findPac_eq_none (Z := Z)]
      constructor
      · rintro ⟨_ | pac, hfound, h⟩
        · exact hfound
        · obtain ⟨_, -, h⟩ := bind_eq_ok.mp h
          cases h
      · intro hfound
        exact ⟨none, hfound, rfl⟩
    | some pac =>
      simp only [Carries, hdata, Option.some.injEq, exists_and_left, exists_eq_left']
      constructor
      · rintro ⟨_ | pac', hfound, h⟩
        · cases h
        · obtain ⟨_, hverify, h⟩ := bind_eq_ok.mp h
          obtain rfl := Option.some.inj (Except.ok.inj h)
          obtain ⟨bytes, hends, hprocessed⟩ := findPac_eq_some.mp hfound
          rw [pacOps, mapError_eq_ok, mapError_eq_ok] at hverify
          obtain ⟨hcomplete, hsigned⟩ := verify_eq_ok.mp hverify
          exact ⟨bytes, hends, hprocessed, hcomplete, hsigned⟩
      · rintro ⟨bytes, hends, hprocessed, hcomplete, hsigned⟩
        refine ⟨some pac, findPac_eq_some.mpr ⟨bytes, hends, hprocessed⟩, bind_eq_ok.mpr ⟨(), ?_, rfl⟩⟩
        rw [pacOps, mapError_eq_ok, mapError_eq_ok]
        exact verify_eq_ok.mpr ⟨hcomplete, hsigned⟩

end Trust

section Filter

variable {Pac : Type} {pac : PacOps Pac} {P : Primitives} {R : Rasn} {v : ServiceValidator} {clock : Clock}
  {bytes : Bytes}

/-- The key that the service opens the ticket of a message with, and what it finds. -/
structure Sealed (P : Primitives) (R : Rasn) (v : ServiceValidator) (bytes : Bytes) (key : EncryptionKey)
    (encTicket : EncTicketPart) : Prop where
  opened : ∃ apReq service kvno, decodeApReq R bytes = .ok apReq ∧
    principalFromParts apReq.ticket.realm apReq.ticket.sname = some service ∧
    v.serviceKey apReq service = .ok (key, kvno) ∧ decryptTicketEncPart P R apReq.ticket key = .ok encTicket

def withoutPac (validated : ValidatedApReq Pac) : ValidatedApReq Unit := { validated with pac := none }

theorem findVerifiedPac_noPac (encTicket : EncTicketPart) (key : EncryptionKey) :
    ServiceValidator.findVerifiedPac noPac encTicket key = .ok none := by
  rw [ServiceValidator.findVerifiedPac]
  cases encTicket.authorizationData <;> rfl

/-- The PAC of a ticket is one more check, on which the others do not depend. -/
theorem checkApReq_iff {replayKey : ReplayKey} {now : SystemTime} {validated : ValidatedApReq Pac} :
    v.checkApReq P R pac clock bytes = .ok (replayKey, now, validated) ↔
      v.checkApReq P R noPac clock bytes = .ok (replayKey, now, withoutPac validated) ∧
        ∃ key encTicket, Sealed P R v bytes key encTicket ∧
          ServiceValidator.findVerifiedPac pac encTicket key = .ok validated.pac := by
  simp only [ServiceValidator.checkApReq, bind_eq_ok, mapError_eq_ok, okOr_eq_ok, ensure_eq_ok, pure_eq_ok,
    Except.ok.injEq, Prod.mk.injEq, Prod.exists, findVerifiedPac_noPac]
  constructor
  · rintro ⟨apReq, hd, service, hs, key, kvno, hk, encTicket, ht, u, htimes, u', haddress, found, hpac, hrest⟩
    obtain ⟨authenticator, ha, ticketClient, htc, client, hc, u₁, hcomp, cusec, hcu, ctime, hct, time, htime, u₂,
      hskew, start, hstart, endTime, hend, hkey, hnow, rfl⟩ := hrest
    refine ⟨⟨apReq, hd, service, hs, key, kvno, hk, encTicket, ht, u, htimes, u', haddress, none, rfl, authenticator,
      ha, ticketClient, htc, client, hc, u₁, hcomp, cusec, hcu, ctime, hct, time, htime, u₂, hskew, start, hstart,
      endTime, hend, hkey, hnow, rfl⟩, key, encTicket, ⟨apReq, service, kvno, hd, hs, hk, ht⟩, hpac⟩
  · rintro ⟨⟨apReq, hd, service, hs, key, kvno, hk, encTicket, ht, u, htimes, u', haddress, _, rfl, hrest⟩, key',
      encTicket', ⟨apReq', service', kvno', hd', hs', hk', ht'⟩, hpac⟩
    obtain rfl := Except.ok.inj (hd.symm.trans hd')
    obtain rfl := Option.some.inj (hs.symm.trans hs')
    obtain ⟨rfl, rfl⟩ := Prod.mk.inj (Except.ok.inj (hk.symm.trans hk'))
    obtain rfl := Except.ok.inj (ht.symm.trans ht')
    obtain ⟨authenticator, ha, ticketClient, htc, client, hc, u₁, hcomp, cusec, hcu, ctime, hct, time, htime, u₂,
      hskew, start, hstart, endTime, hend, hkey, hnow, hsame⟩ := hrest
    refine ⟨apReq, hd, service, hs, key, kvno, hk, encTicket, ht, u, htimes, u', haddress, _, hpac, authenticator, ha,
      ticketClient, htc, client, hc, u₁, hcomp, cusec, hcu, ctime, hct, time, htime, u₂, hskew, start, hstart,
      endTime, hend, hkey, hnow, ?_⟩
    rw [withoutPac, ValidatedApReq.mk.injEq] at hsame
    obtain ⟨h₁, h₂, h₃, h₄, h₅, h₆, h₇, h₈, h₉, h₁₀, -⟩ := hsame
    rw [h₁, h₂, h₃, h₄, h₅, h₆, h₇, h₈, h₉, h₁₀]

end Filter

/-- With the PACs looked at, a service accepts what it accepts without that, if the ticket carries what it returns. A
message with a PAC that cannot be trusted is forgotten: it may come again with a better one. -/
theorem accepts_iff_carries (A : Unwrapper) (Z : Compcol) (P : Primitives) (display : SearchError → String) (R : Rasn)
    (v : ServiceValidator) (clock : Clock) (bytes : Bytes) (caches : Caches) :
    (∀ validated caches', v.validateApReq P R (pacOps A Z P display) clock bytes caches = (.ok validated, caches') ↔
      v.validateApReq P R noPac clock bytes caches = (.ok (withoutPac validated), caches') ∧
        ∃ key encTicket, Sealed P R v bytes key encTicket ∧ Carries A Z P encTicket key validated.pac) ∧
    ((∀ key encTicket found, Sealed P R v bytes key encTicket → ¬ Carries A Z P encTicket key found) →
      (v.validateApReq P R (pacOps A Z P display) clock bytes caches).2 = caches) := by
  refine ⟨fun validated caches' ↦ ?_, fun hnone ↦ ?_⟩
  · rw [validateApReq_eq, validateApReq_eq]
    constructor
    · rintro ⟨replayKey, now, hcheck, hrecorded⟩
      obtain ⟨hplain, key, encTicket, hsealed, hfound⟩ := checkApReq_iff.mp hcheck
      exact ⟨⟨replayKey, now, hplain, hrecorded⟩, key, encTicket, hsealed, findVerifiedPac_eq_ok.mp hfound⟩
    · rintro ⟨⟨replayKey, now, hplain, hrecorded⟩, key, encTicket, hsealed, hcarries⟩
      refine ⟨replayKey, now, checkApReq_iff.mpr ⟨hplain, key, encTicket, hsealed, ?_⟩, hrecorded⟩
      exact findVerifiedPac_eq_ok.mpr hcarries
  · rw [ServiceValidator.validateApReq]
    cases hcheck : v.checkApReq P R (pacOps A Z P display) clock bytes with
    | error e => rfl
    | ok checked =>
      obtain ⟨-, key, encTicket, hsealed, hfound⟩ := checkApReq_iff.mp hcheck
      exact absurd (findVerifiedPac_eq_ok.mp hfound) (hnone key encTicket _ hsealed)

end Rskrb5.Pac
