import Rskrb5.Gss.Initiator
import Rskrb5.Http.Segments

namespace Rskrb5.Http

open Lib.Offsets Lib.Results Crypto EncParts Spnego Gss

/-- What the message of an invalid token is the text of. -/
inductive InvalidToken
  | header (message : String)
  | spnego (source : Spnego.Error)
  | apRep (source : Gss.Error)
  | unexpected (message : String)
  deriving DecidableEq

inductive ClientNegotiateResponse
  | noAuthenticateHeader
  | noNegotiateChallenge
  | challenge
  | accepted (apRep : Option VerifiedApRep)
  | rejected
  | invalidToken (source : InvalidToken)
  deriving DecidableEq

section Classify

variable (P : Primitives) (R : Rasn) (B : Base64)

def negotiateChallengeIsBare (challenge : List Char) : Bool :=
  let parts := challenge.dropWhile (!isWhitespace ·)
  eqIgnoreAsciiCase (.ofList (schemeToken challenge)) httpNegotiate && (parts = [] || trim parts.tail = [])

def classifyResponseToken (context : InitiatorContext) (responseToken : Bytes) : ClientNegotiateResponse :=
  match Krb5MechToken.decode responseToken with
  | .error source => .invalidToken (.spnego source)
  | .ok krb5 =>
    match krb5.tokenId with
    | .apRep =>
      match context.verifyApRep P R krb5.message with
      | .ok apRep => .accepted (some apRep)
      | .error source => .invalidToken (.apRep source)
    | .krbError => .rejected
    | .apReq => .invalidToken (.unexpected "expected AP-REP token, got AP-REQ token")

def classifyNegTokenResp (context : InitiatorContext) (response : NegTokenResp) : ClientNegotiateResponse :=
  match response.negState, response.responseToken with
  | some .reject, _ => .rejected
  | some .acceptIncomplete, none => .challenge
  | some .requestMic, none => .challenge
  | _, none => .accepted none
  | _, some responseToken => classifyResponseToken P R context responseToken

def classifyNegotiateChallenge (context : InitiatorContext) (challenge : List Char) : ClientNegotiateResponse :=
  if negotiateChallengeIsBare challenge then .challenge
  else
    match parseNegotiateHeader B (.ofList challenge) with
    | .error source => .invalidToken (.spnego source)
    | .ok (.init _) => .invalidToken (.unexpected "expected NegTokenResp, got NegTokenInit")
    | .ok (.resp response) => classifyNegTokenResp P R context response

-- The values of the headers are read by the crate that they come from.
variable {HeaderValue : Type} (toStr : HeaderValue → Except String (List Char))

/-- `none` stands for a slice of a header that does not start or end at a character. -/
def classifyHeaders (context : InitiatorContext) (sawWwwAuthenticate : Bool) :
    List HeaderValue → Option ClientNegotiateResponse
  | [] => some (if sawWwwAuthenticate then .noNegotiateChallenge else .noAuthenticateHeader)
  | value :: values =>
    match toStr value with
    | .error source => some (.invalidToken (.header source))
    | .ok header => do
      match ← negotiateChallenge header with
      | some challenge => return classifyNegotiateChallenge P R B context challenge
      | none => classifyHeaders context true values

/-- A response is what its headers called `WWW-Authenticate` hold, in their order. -/
def classifyNegotiateResponse (context : InitiatorContext) (headers : List HeaderValue) :
    Option ClientNegotiateResponse :=
  classifyHeaders P R B toStr context false headers

end Classify

section Evidence

variable (P : Primitives) (R : Rasn) (B : Base64) {HeaderValue : Type}
  (toStr : HeaderValue → Except String (List Char))

/-- The first of all challenges of a response whose scheme is Negotiate. -/
def firstChallenge : List HeaderValue → Option (List Char)
  | [] => none
  | value :: values =>
    match toStr value with
    | .error _ => none
    | .ok header =>
      match ((headerPieces header).map trim).find? (IsNegotiate ·) with
      | some challenge => some challenge
      | none => firstChallenge values

/-- The octets of the token that a challenge carries. -/
def challengeBytes (challenge : List Char) : Option Bytes :=
  (B.decode (.ofList (trim (challenge.dropWhile (!isWhitespace ·)).tail))).toOption

/-- The octets are a NegTokenResp that holds an AP-REP, or a bare one. -/
def CarriesApRep (bytes message : Bytes) : Prop :=
  ∃ mechToken oid, Krb5MechToken.decode mechToken = .ok ⟨oid, .apRep, message⟩ ∧
    ((∃ token, SpnegoToken.decode bytes = .ok (.resp token) ∧ token.responseToken = some mechToken) ∨
      (mechToken = bytes ∧ ∀ token, SpnegoToken.decode bytes ≠ .ok token))

/-- An AP-REP that the initiator's key opens, and that holds the time of its request. -/
structure IsVerified (context : InitiatorContext) (message : Bytes) (verified : VerifiedApRep) : Prop where
  verifyApRep : context.verifyApRep P R message = .ok verified
  opens : ∃ apRep encPart, decodeApRep R message = .ok apRep ∧
    decryptApRepEncPart P R apRep context.sessionKey = .ok encPart ∧
    encPart.Echoes context.authenticatorCtime context.authenticatorCusec

/-- What a challenge has to carry for its response to be accepted. -/
structure Evidence (context : InitiatorContext) (challenge : List Char) (apRep : Option VerifiedApRep) : Prop where
  carried : ∃ bytes, challengeBytes B challenge = some bytes ∧
    ((∃ token, SpnegoToken.decode bytes = .ok (.resp token) ∧ token.negState = some .acceptCompleted) ∨
      ∃ message verified, CarriesApRep bytes message ∧ context.verifyApRep P R message = .ok verified)
  not_rejected : ∀ token, parseNegotiateHeader B (.ofList challenge) = .ok (.resp token) →
    token.negState ≠ some .reject
  verified : ∀ verified, apRep = some verified →
    ∃ bytes message, challengeBytes B challenge = some bytes ∧ CarriesApRep bytes message ∧
      IsVerified P R context message verified

variable {P R B toStr} {context : InitiatorContext} {challenge : List Char} {token : NegTokenResp}
  {apRep : Option VerifiedApRep}

theorem isVerified_of_verifyApRep {message : Bytes} {verified : VerifiedApRep}
    (h : context.verifyApRep P R message = .ok verified) : IsVerified P R context message verified := by
  obtain ⟨apRep, hdecode, hcheck⟩ := bind_eq_ok.mp h
  obtain ⟨encPart, hopen, hechoes, -⟩ := (checkApRep_eq_ok P R apRepErrors).mp hcheck
  exact ⟨h, apRep, encPart, mapError_eq_ok.mp hdecode, hopen, hechoes⟩

/-- A response is read from the octets of its challenge, or it is made up for a bare token. -/
theorem bytes_of_parseNegotiateHeader (h : parseNegotiateHeader B (.ofList challenge) = .ok (.resp token)) :
    ∃ bytes, challengeBytes B challenge = some bytes ∧
      (SpnegoToken.decode bytes = .ok (.resp token) ∨
        (∀ token, SpnegoToken.decode bytes ≠ .ok token) ∧ token.responseToken = some bytes) := by
  simp only [parseNegotiateHeader, String.toList_ofList, bind_eq_ok, ensure_eq_ok, mapError_eq_ok] at h
  obtain ⟨-, -, -, -, bytes, hbytes, h⟩ := h
  refine ⟨bytes, by rw [challengeBytes, hbytes]; rfl, ?_⟩
  split at h
  · next hdecode =>
    obtain rfl := Except.ok.inj h
    exact .inl hdecode
  · next error hdecode =>
    refine .inr ⟨fun token hok ↦ ?_, ?_⟩
    · rw [hdecode] at hok
      cases hok
    · unfold rawKrb5NegotiateToken at h
      split at h
      · cases h
      · split at h
        all_goals first | cases h; rfl | cases h

theorem decode_of_tokenless (hparse : parseNegotiateHeader B (.ofList challenge) = .ok (.resp token))
    (hnone : token.responseToken = none) :
    ∃ bytes, challengeBytes B challenge = some bytes ∧ SpnegoToken.decode bytes = .ok (.resp token) := by
  obtain ⟨bytes, hbytes, hdecode⟩ := bytes_of_parseNegotiateHeader hparse
  refine ⟨bytes, hbytes, hdecode.resolve_right fun hraw ↦ ?_⟩
  rw [hnone] at hraw
  cases hraw.2

theorem classifyResponseToken_eq_accepted {responseToken : Bytes} :
    classifyResponseToken P R context responseToken = .accepted apRep ↔
      ∃ oid message verified, Krb5MechToken.decode responseToken = .ok ⟨oid, .apRep, message⟩ ∧
        context.verifyApRep P R message = .ok verified ∧ apRep = some verified := by
  constructor
  · intro h
    unfold classifyResponseToken at h
    split at h
    · cases h
    · next krb5 hdecode =>
      obtain ⟨oid, tokenId, message⟩ := krb5
      split at h
      · next htoken =>
        obtain rfl : tokenId = .apRep := htoken
        split at h
        · next verified hverify =>
          cases h
          exact ⟨oid, message, verified, hdecode, hverify, rfl⟩
        · cases h
      · cases h
      · cases h
  · intro h
    obtain ⟨oid, message, verified, hdecode, hverify, rfl⟩ := h
    simp only [classifyResponseToken, hdecode, hverify]

/-- The paths that end in acceptance. -/
theorem classifyNegTokenResp_eq_accepted :
    classifyNegTokenResp P R context token = .accepted apRep ↔
      (token.responseToken = none ∧ (token.negState = none ∨ token.negState = some .acceptCompleted) ∧ apRep = none) ∨
      (token.negState ≠ some .reject ∧ ∃ mechToken, token.responseToken = some mechToken ∧
        classifyResponseToken P R context mechToken = .accepted apRep) := by
  obtain ⟨negState, supportedMech, responseToken, mechListMic⟩ := token
  cases negState with
  | none => cases responseToken <;> simp [classifyNegTokenResp, eq_comm]
  | some state => cases state <;> cases responseToken <;> simp [classifyNegTokenResp, eq_comm]

theorem not_bare_of_parse {token : SpnegoToken} (h : parseNegotiateHeader B (.ofList challenge) = .ok token) :
    negotiateChallengeIsBare challenge = false := by
  simp only [parseNegotiateHeader, String.toList_ofList, bind_eq_ok, ensure_eq_ok] at h
  obtain ⟨-, hparts, -, hencoded, -⟩ := h
  simp [negotiateChallengeIsBare, hparts, hencoded.2]

theorem classifyNegotiateChallenge_eq_accepted :
    classifyNegotiateChallenge P R B context challenge = .accepted apRep ↔
      ∃ token, parseNegotiateHeader B (.ofList challenge) = .ok (.resp token) ∧
        classifyNegTokenResp P R context token = .accepted apRep := by
  constructor
  · intro h
    unfold classifyNegotiateChallenge at h
    split at h
    · cases h
    · split at h
      · cases h
      · cases h
      · next token hparse => exact ⟨token, hparse, h⟩
  · intro h
    obtain ⟨token, hparse, h⟩ := h
    rw [classifyNegotiateChallenge, not_bare_of_parse hparse, hparse]
    exact h

theorem classifyHeaders_eq_accepted {headers : List HeaderValue} {saw : Bool} :
    classifyHeaders P R B toStr context saw headers = some (.accepted apRep) ↔
      ∃ challenge, firstChallenge toStr headers = some challenge ∧
        classifyNegotiateChallenge P R B context challenge = .accepted apRep := by
  induction headers generalizing saw with
  | nil => cases saw <;> simp [classifyHeaders, firstChallenge]
  | cons value headers ih =>
    rw [classifyHeaders, firstChallenge]
    cases toStr value with
    | error source => simp
    | ok header =>
      dsimp only
      rw [negotiateChallenge_eq]
      cases ((headerPieces header).map trim).find? (IsNegotiate ·) with
      | some challenge => simp
      | none => simpa using ih

/-- With a state or a token in the response, its acceptance has been checked. -/
theorem evidence_of_accepted (hparse : parseNegotiateHeader B (.ofList challenge) = .ok (.resp token))
    (hstated : token.negState ≠ none ∨ token.responseToken ≠ none)
    (h : classifyNegTokenResp P R context token = .accepted apRep) : Evidence P R B context challenge apRep := by
  rcases classifyNegTokenResp_eq_accepted.mp h with ⟨hnone, hstate, rfl⟩ | ⟨hstate, mechToken, hmech, haccepted⟩
  · obtain ⟨bytes, hbytes, htoken⟩ := decode_of_tokenless hparse hnone
    have hcompleted : token.negState = some .acceptCompleted := by
      refine hstate.resolve_left fun hmissing ↦ ?_
      exact hstated.elim (absurd hmissing) (absurd hnone)
    refine ⟨⟨bytes, hbytes, .inl ⟨token, htoken, hcompleted⟩⟩, fun token' hparse' ↦ ?_, fun verified heq ↦ ?_⟩
    · cases hparse.symm.trans hparse'
      rw [hcompleted]
      decide
    · cases heq
  · obtain ⟨bytes, hbytes, hdecode⟩ := bytes_of_parseNegotiateHeader hparse
    obtain ⟨oid, message, verified, hkrb5, hverify, rfl⟩ := classifyResponseToken_eq_accepted.mp haccepted
    have hcarries : CarriesApRep bytes message := by
      refine ⟨mechToken, oid, hkrb5, ?_⟩
      rcases hdecode with hdecode | ⟨hno, hraw⟩
      · exact .inl ⟨token, hdecode, hmech⟩
      · exact .inr ⟨Option.some.inj (hmech.symm.trans hraw), hno⟩
    refine ⟨⟨bytes, hbytes, .inr ⟨message, verified, hcarries, hverify⟩⟩, fun token' hparse' ↦ ?_,
      fun verified' heq ↦ ?_⟩
    · cases hparse.symm.trans hparse'
      exact hstate
    · cases heq
      exact ⟨bytes, message, hbytes, hcarries, isVerified_of_verifyApRep hverify⟩

/-- A response with neither a state nor a token is no evidence. -/
theorem not_evidence_of_empty (hparse : parseNegotiateHeader B (.ofList challenge) = .ok (.resp token))
    (hstate : token.negState = none) (hnone : token.responseToken = none) :
    ¬ Evidence P R B context challenge apRep := by
  intro h
  obtain ⟨bytes, hbytes, htoken⟩ := decode_of_tokenless hparse hnone
  obtain ⟨bytes', hbytes', hcarried⟩ := h.carried
  cases hbytes.symm.trans hbytes'
  rcases hcarried with ⟨token', htoken', hcompleted⟩ | ⟨message, verified, ⟨mechToken, oid, -, hmech⟩, -⟩
  · cases htoken.symm.trans htoken'
    rw [hstate] at hcompleted
    cases hcompleted
  · rcases hmech with ⟨token', htoken', hmech⟩ | ⟨-, hno⟩
    · cases htoken.symm.trans htoken'
      rw [hnone] at hmech
      cases hmech
    · exact hno _ htoken

theorem accepted_of_empty {headers : List HeaderValue} (hfirst : firstChallenge toStr headers = some challenge)
    (hparse : parseNegotiateHeader B (.ofList challenge) = .ok (.resp token))
    (hstate : token.negState = none) (hnone : token.responseToken = none) :
    classifyNegotiateResponse P R B toStr context headers = some (.accepted none) := by
  refine classifyHeaders_eq_accepted.mpr ⟨challenge, hfirst, ?_⟩
  refine classifyNegotiateChallenge_eq_accepted.mpr ⟨token, hparse, ?_⟩
  exact classifyNegTokenResp_eq_accepted.mpr (.inl ⟨hnone, .inl hstate, rfl⟩)

variable (P R B toStr) in
/-- Acceptance rests on evidence exactly when the first Negotiate challenge does not carry a response
that has neither a state nor a token. -/
theorem accepts_on_evidence_iff (context : InitiatorContext) (headers : List HeaderValue) :
    (∀ apRep, classifyNegotiateResponse P R B toStr context headers = some (.accepted apRep) →
      ∃ challenge, firstChallenge toStr headers = some challenge ∧ Evidence P R B context challenge apRep) ↔
    ¬ ∃ challenge token, firstChallenge toStr headers = some challenge ∧
      parseNegotiateHeader B (.ofList challenge) = .ok (.resp token) ∧ token.negState = none ∧
      token.responseToken = none := by
  constructor
  · intro h hex
    obtain ⟨challenge, token, hfirst, hparse, hstate, hnone⟩ := hex
    obtain ⟨challenge', hfirst', hevidence⟩ := h none (accepted_of_empty hfirst hparse hstate hnone)
    cases hfirst.symm.trans hfirst'
    exact not_evidence_of_empty hparse hstate hnone hevidence
  · intro hno apRep h
    obtain ⟨challenge, hfirst, h⟩ := classifyHeaders_eq_accepted.mp h
    obtain ⟨token, hparse, h⟩ := classifyNegotiateChallenge_eq_accepted.mp h
    refine ⟨challenge, hfirst, evidence_of_accepted hparse ?_ h⟩
    by_contra hempty
    rw [not_or, not_not, not_not] at hempty
    exact hno ⟨challenge, token, hfirst, hparse, hempty⟩

end Evidence

section Samples

/-- A NegTokenResp with no fields. -/
def emptyRespBytes : Bytes := [0xa1, 0x02, 0x30, 0x00]

def emptyRespText : String := "oQIwAA=="

/-- The engine on the one token of the header. -/
def emptyRespBase64 : Base64 where
  encode bytes := if bytes = emptyRespBytes then emptyRespText else ""
  decode text := if text = emptyRespText then .ok emptyRespBytes else .error "not in the table"

/-- Header values of visible ASCII characters are read as such. -/
def visibleAscii (value : Bytes) : Except String (List Char) :=
  if value.all (fun byte ↦ (32 ≤ byte ∧ byte < 127) ∨ byte = 9) then .ok (value.map fun byte ↦ Char.ofNat byte.toNat)
  else .error "failed to convert header to a str"

def emptyRespChallenge : List Char := ("Negotiate " ++ emptyRespText).toList

/-- A response that says nothing of the context is accepted. -/
theorem accepts_emptyResp :
    classifyNegotiateResponse mutualPrimitives mutualRasn emptyRespBase64 visibleAscii
      (.ofBuiltApReq (aliceBuilt Service.webNow)) [utf8 emptyRespChallenge] = some (.accepted none) ∧
    ¬ ∀ apRep, classifyNegotiateResponse mutualPrimitives mutualRasn emptyRespBase64 visibleAscii
        (.ofBuiltApReq (aliceBuilt Service.webNow)) [utf8 emptyRespChallenge] = some (.accepted apRep) →
      ∃ challenge, firstChallenge visibleAscii [utf8 emptyRespChallenge] = some challenge ∧
        Evidence mutualPrimitives mutualRasn emptyRespBase64 (.ofBuiltApReq (aliceBuilt Service.webNow)) challenge
          apRep := by
  have hfirst : firstChallenge visibleAscii [utf8 emptyRespChallenge] = some emptyRespChallenge := by decide
  have hparse : parseNegotiateHeader emptyRespBase64 (.ofList emptyRespChallenge) =
      .ok (.resp ⟨none, none, none, none⟩) := by
    decide +kernel
  refine ⟨accepted_of_empty hfirst hparse rfl rfl, fun h ↦ ?_⟩
  obtain ⟨challenge, hfirst', hevidence⟩ := h none (accepted_of_empty hfirst hparse rfl rfl)
  cases hfirst.symm.trans hfirst'
  exact not_evidence_of_empty hparse rfl rfl hevidence

end Samples

end Rskrb5.Http
