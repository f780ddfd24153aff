import Rskrb5.Client.Tokio

namespace Rskrb5.Client

open Lib.Results Lib.Programs Crypto EncParts
open Kadmin (ChangePasswordResult Reply)

structure KpasswdRequestOptions where
  timestamp : SystemTime
  cusec : UInt32
  sequenceNumber : UInt32
  senderAddress : HostAddress
  recipientAddress : Option HostAddress
  deriving DecidableEq

structure BuiltKpasswdRequest where
  request : Kadmin.Request
  der : Bytes
  replyKey : EncryptionKey
  apReq : BuiltApReq
  deriving DecidableEq

def KpasswdRequestOptions.new (timestamp : SystemTime) (cusec sequenceNumber : UInt32)
    (senderAddress : HostAddress) : KpasswdRequestOptions where
  timestamp := timestamp
  cusec := cusec
  sequenceNumber := sequenceNumber
  senderAddress := senderAddress
  recipientAddress := none

def kpasswdKrbPrivOptions (options : KpasswdRequestOptions) : Except Error EncKrbPrivPartOptions := do
  let timestamp ← checkedKerberosTime options.timestamp
  return {
    timestamp := some timestamp
    usec := some options.cusec.toNat
    seqNumber := some options.sequenceNumber
    senderAddress := options.senderAddress
    recipientAddress := options.recipientAddress }

def kpasswdApRepErrors : ApRepErrors Error where
  apRepError := apRepError
  timeOverflow := .timeOverflow
  integerOutOfRange := .invalidUnsignedInteger
  timestampMismatch := .kpasswdApRepTimestampMismatch

section Requests

variable (P : Primitives) (R : Rasn)

def buildKpasswdApReqWithConfounder (serviceTicket : TgsRepSession) (replyKey : EncryptionKey)
    (options : KpasswdRequestOptions) (apReqConfounder : Bytes) : Except Error BuiltApReq :=
  buildApReqWithConfounder P R serviceTicket
    { ApReqOptions.new with subkey := some replyKey, sequenceNumber := some options.sequenceNumber }
    options.timestamp options.cusec apReqConfounder

/-- An AP-REP is asked for only when there is no KRB-ERROR. -/
def verifyKpasswdApRep (reply : Reply) (request : BuiltKpasswdRequest) :
    Except Error (Option VerifiedApRep) :=
  if reply.isKrbError then return none
  else do
    let apRep ← okOr reply.apRep .missingKpasswdApRep
    (validateApRep apRep).mapError apRepError
    let verified ← checkApRep P R kpasswdApRepErrors apRep request.apReq.sessionKey
      request.apReq.authenticatorCtime request.apReq.authenticatorCusec request.apReq.authenticatorTime
    return some verified

def resultKey (verified : Option VerifiedApRep) (request : BuiltKpasswdRequest) : EncryptionKey :=
  (verified.bind VerifiedApRep.subkey).getD request.replyKey

end Requests

variable {ω : Type} (W : World ω) (P : Primitives) (R : Rasn)

section Exchange

def fillKrbPrivConfounder (len : ℕ) : Program ω Error Bytes :=
  .ofExec fun w ↦ (((W.fill len w).1.map Vector.toList).mapError fun message ↦ .kadmin (.random message),
    (W.fill len w).2)

def buildChangePasswordRequest (apReq : ApReq) (changeData : ChangePasswdData)
    (replyKey : EncryptionKey) (options : EncKrbPrivPartOptions) :
    Program ω Error Kadmin.BuiltChangePasswordRequest := do
  let userData ← (Kadmin.encodeChangePasswdData R changeData).mapError Error.kadmin
  let etype ← okOr (KerberosEtype.fromEtypeId replyKey.etype)
    (Error.kadmin (.unsupportedEtype replyKey.etype))
  let confounder ← fillKrbPrivConfounder W etype.confounderLen
  let krbPriv ← ((buildKrbPrivWithConfounder P R userData options replyKey none confounder).mapError
    Kadmin.krbPrivError).mapError Error.kadmin
  (Kadmin.buildChangePasswordRequestFromParts R apReq krbPriv replyKey).mapError Error.kadmin

def buildKpasswdRequest (serviceTicket : TgsRepSession) (changeData : ChangePasswdData)
    (options : KpasswdRequestOptions) : Program ω Error BuiltKpasswdRequest := do
  let etype ← okOr (KerberosEtype.fromEtypeId serviceTicket.sessionKey.etype)
    (Error.unsupportedEtype serviceTicket.sessionKey.etype)
  let value ← fill W etype.keyLen
  let replyKey : EncryptionKey := ⟨serviceTicket.sessionKey.etype, value⟩
  let apReqConfounder ← fill W etype.confounderLen
  let apReq ← buildKpasswdApReqWithConfounder P R serviceTicket replyKey options apReqConfounder
  let krbPrivOptions ← kpasswdKrbPrivOptions options
  let built ← buildChangePasswordRequest W P R apReq.message changeData replyKey krbPrivOptions
  return { request := built.request, der := built.der, replyKey := built.replyKey, apReq }

def sendToKpasswdRealm (realm : String) (request : Bytes) : Program ω Error Bytes :=
  .ofExec fun w ↦ ((W.sendToKpasswdRealm realm request w).1.mapError .transport,
    (W.sendToKpasswdRealm realm request w).2)

variable (send : Bytes → Program ω Error Bytes)

/-- The bytes that come back for a request. -/
def answerTo (request : Kadmin.Request) : Program ω Error Bytes := do
  let frame ← (request.encode R).mapError Error.kadmin
  send frame

/-- A request is sent to an address, or to the servers of a realm. -/
def exchangeKpasswdRequest (request : Kadmin.Request) : Program ω Error Reply := do
  let response ← answerTo R send request
  (Reply.parse R response).mapError Error.kadmin

def exchangeKpasswdResult (request : Kadmin.Request) (replyKey : EncryptionKey) :
    Program ω Error ChangePasswordResult := do
  let reply ← exchangeKpasswdRequest R send request
  let result ← (reply.decryptResult P R replyKey).mapError Error.kadmin
  result.ensureSuccess.mapError Error.kadmin
  return result

end Exchange

section Outcomes

variable {R} {response : Bytes} {reply : Reply} {result : ChangePasswordResult}

/-- A frame without an AP-REP whose KRB-ERROR brings a result in its data, in clear text. -/
def ClearResult (R : Rasn) (response : Bytes) (result : ChangePasswordResult) : Prop :=
  ∃ frame krbError eData, Kadmin.parseHeader response = .ok frame ∧
    frame.version = Kadmin.changePasswordReplyVersion ∧ frame.payloadLength = 0 ∧
    KrbError.decodeKrbError R frame.body = .ok krbError ∧ krbError.eData = some eData ∧
    ChangePasswordResult.parse eData = .ok result

/-- A KRB-PRIV that opens under a key and has a result in it. -/
def SealedResult (P : Primitives) (R : Rasn) (reply : Reply) (key : EncryptionKey)
    (result : ChangePasswordResult) : Prop :=
  ∃ krbPriv encPart, reply.krbPriv = some krbPriv ∧
    Kadmin.decryptKrbPrivEncPart P R krbPriv key = .ok encPart ∧
    ChangePasswordResult.parse encPart.userData = .ok result

theorem parse_shape (h : Reply.parse R response = .ok reply) :
    reply.krbError = none ∧ reply.result = none ∨ reply.krbError.isSome ∧ reply.krbPriv = none := by
  simp only [Reply.parse, bind_eq_ok, ensure_eq_ok] at h
  obtain ⟨frame, -, -, -, h⟩ := h
  split at h
  · simp only [Reply.parseKrbError, bind_eq_ok, pure_eq_ok, Except.ok.injEq] at h
    obtain ⟨krbError, -, result, -, rfl⟩ := h
    exact .inr ⟨rfl, rfl⟩
  · simp only [Reply.parseApRep, bind_eq_ok, pure_eq_ok, Except.ok.injEq] at h
    obtain ⟨-, -, apRep, -, krbPriv, -, rfl⟩ := h
    exact .inl ⟨rfl, rfl⟩

theorem SealedResult.krbError_eq_none {P : Primitives} {key : EncryptionKey}
    (hs : SealedResult P R reply key result) (h : Reply.parse R response = .ok reply) :
    reply.krbError = none := by
  obtain ⟨krbPriv, -, hpriv, -⟩ := hs
  rcases parse_shape h with ⟨hnone, -⟩ | ⟨-, hnone⟩
  · exact hnone
  · simp [hpriv] at hnone

theorem isSome_krbError_of_result (h : Reply.parse R response = .ok reply)
    (hresult : reply.result = some result) : reply.krbError.isSome ∧ reply.krbPriv = none := by
  rcases parse_shape h with ⟨-, hnone⟩ | herror
  · simp [hresult] at hnone
  · exact herror

theorem clearResult_iff : ClearResult R response result ↔
    ∃ reply, Reply.parse R response = .ok reply ∧ reply.result = some result := by
  simp only [ClearResult, Reply.parse, bind_eq_ok, ensure_eq_ok]
  constructor
  · intro h
    obtain ⟨frame, krbError, eData, hframe, hversion, hlength, hdecode, hdata, hresult⟩ := h
    have hmap : krbError.eData.mapM ChangePasswordResult.parse = .ok (some result) :=
      mapM_eq_ok_some.mpr ⟨eData, hdata, hresult⟩
    have hparse : Reply.parseKrbError R frame = .ok ⟨frame.messageLength, frame.version,
        frame.payloadLength, none, none, some krbError, some result⟩ := by
      simp only [Reply.parseKrbError, hdecode, hmap, Except.mapError, ok_bind, pure_eq_ok]
    exact ⟨_, ⟨frame, hframe, (), hversion, (if_pos hlength).trans hparse⟩, rfl⟩
  · intro h
    obtain ⟨reply, ⟨frame, hframe, -, hversion, h⟩, hresult⟩ := h
    split at h
    · next hlength =>
      simp only [Reply.parseKrbError, bind_eq_ok, mapError_eq_ok, pure_eq_ok, Except.ok.injEq] at h
      obtain ⟨krbError, hdecode, _, hparse, rfl⟩ := h
      obtain ⟨eData, hdata, hparse⟩ := mapM_eq_ok_some.mp (hparse.trans (congrArg _ hresult))
      exact ⟨frame, krbError, eData, hframe, hversion, hlength, hdecode, hdata, hparse⟩
    · simp only [Reply.parseApRep, bind_eq_ok, pure_eq_ok, Except.ok.injEq] at h
      obtain ⟨-, -, apRep, -, krbPriv, -, rfl⟩ := h
      simp at hresult

theorem parse_success_iff {data : Bytes} :
    (∃ result, ChangePasswordResult.parse data = .ok result ∧ result.code = Kadmin.kpasswdSuccess) ↔
      ∃ text, data = 0 :: 0 :: text := by
  simp only [ChangePasswordResult.parse, bind_eq_ok, ensure_eq_ok, pure_eq_ok, Except.ok.injEq]
  constructor
  · intro h
    obtain ⟨_, ⟨-, hlen, rfl⟩, hcode⟩ := h
    obtain ⟨a, tail, rfl⟩ := List.exists_cons_of_length_pos (Nat.lt_of_lt_of_le Nat.two_pos hlen)
    obtain ⟨b, text, rfl⟩ := List.exists_cons_of_length_pos (Nat.le_of_succ_le_succ hlen)
    obtain ⟨rfl, rfl⟩ := u16FromBeBytes_pair_eq_zero.mp hcode
    exact ⟨text, rfl⟩
  · intro h
    obtain ⟨text, rfl⟩ := h
    exact ⟨_, ⟨(), by simp, rfl⟩, u16FromBeBytes_pair_eq_zero.mpr ⟨rfl, rfl⟩⟩

/-- A KRB-ERROR whose data begins with the code of a success. -/
def ClearTextSuccess (R : Rasn) (response : Bytes) : Prop :=
  ∃ frame krbError text, Kadmin.parseHeader response = .ok frame ∧
    frame.version = Kadmin.changePasswordReplyVersion ∧ frame.payloadLength = 0 ∧
    KrbError.decodeKrbError R frame.body = .ok krbError ∧ krbError.eData = some (0 :: 0 :: text)

theorem clearTextSuccess_iff : ClearTextSuccess R response ↔
    ∃ result, ClearResult R response result ∧ result.code = Kadmin.kpasswdSuccess := by
  constructor
  · intro h
    obtain ⟨frame, krbError, text, hframe, hversion, hlength, hdecode, hdata⟩ := h
    obtain ⟨result, hparse, hcode⟩ := parse_success_iff.mpr ⟨text, rfl⟩
    exact ⟨result, ⟨frame, krbError, _, hframe, hversion, hlength, hdecode, hdata, hparse⟩, hcode⟩
  · intro h
    obtain ⟨result, ⟨frame, krbError, eData, hframe, hversion, hlength, hdecode, hdata, hparse⟩, hcode⟩ := h
    obtain ⟨text, rfl⟩ := parse_success_iff.mp ⟨result, hparse, hcode⟩
    exact ⟨frame, krbError, text, hframe, hversion, hlength, hdecode, hdata⟩

theorem decryptResult_eq_ok (h : Reply.parse R response = .ok reply) {key : EncryptionKey} :
    reply.decryptResult P R key = .ok result ↔
      SealedResult P R reply key result ∨ reply.result = some result := by
  cases hresult : reply.result with
  | some clear =>
    have hpriv := (isSome_krbError_of_result h hresult).2
    simp [Reply.decryptResult, hresult, SealedResult, hpriv]
  | none =>
    simp only [Reply.decryptResult, hresult, bind_eq_ok, ensure_eq_ok, okOr_eq_ok, reduceCtorEq, or_false]
    constructor
    · intro h
      obtain ⟨-, -, krbPriv, hpriv, encPart, hdec, hparse⟩ := h
      exact ⟨krbPriv, encPart, hpriv, hdec, hparse⟩
    · intro hsealed
      have hnone := hsealed.krbError_eq_none h
      obtain ⟨krbPriv, encPart, hpriv, hdec, hparse⟩ := hsealed
      exact ⟨(), hnone, krbPriv, hpriv, encPart, hdec, hparse⟩

theorem ensureSuccess_eq_ok : result.ensureSuccess = .ok () ↔ result.code = Kadmin.kpasswdSuccess := by
  simp [ChangePasswordResult.ensureSuccess, ChangePasswordResult.isSuccess]

/-- What is made of the bytes that come back, with the key that a reply says to use. -/
def readResult (P : Primitives) (R : Rasn) (keyOf : Reply → Except Error EncryptionKey)
    (response : Bytes) : Except Error ChangePasswordResult := do
  let reply ← (Reply.parse R response).mapError .kadmin
  let key ← keyOf reply
  let result ← (reply.decryptResult P R key).mapError .kadmin
  result.ensureSuccess.mapError .kadmin
  return result

theorem readResult_eq_ok {keyOf : Reply → Except Error EncryptionKey} :
    readResult P R keyOf response = .ok result ↔
      ∃ reply key, Reply.parse R response = .ok reply ∧ keyOf reply = .ok key ∧
        (SealedResult P R reply key result ∨ reply.result = some result) ∧
        result.code = Kadmin.kpasswdSuccess := by
  simp only [readResult, bind_eq_ok, mapError_eq_ok, pure_eq_ok, Except.ok.injEq]
  constructor
  · intro h
    obtain ⟨reply, hparse, key, hkey, _, hdec, ⟨⟩, hok, rfl⟩ := h
    exact ⟨reply, key, hparse, hkey, (decryptResult_eq_ok P hparse).mp hdec, ensureSuccess_eq_ok.mp hok⟩
  · intro h
    obtain ⟨reply, key, hparse, hkey, hdec, hok⟩ := h
    exact ⟨reply, hparse, key, hkey, result, (decryptResult_eq_ok P hparse).mpr hdec, (),
      ensureSuccess_eq_ok.mpr hok, rfl⟩

theorem exchangeKpasswdResult_eq (send : Bytes → Program ω Error Bytes) (request : Kadmin.Request)
    (replyKey : EncryptionKey) :
    exchangeKpasswdResult P R send request replyKey =
      answerTo R send request >>= fun response ↦ liftM (readResult P R (fun _ ↦ .ok replyKey) response) := by
  simp only [exchangeKpasswdResult, exchangeKpasswdRequest, bind_assoc]
  congr 1
  funext response
  simp only [readResult, Program.lift_bind]
  rfl

theorem readResult_fixed_iff {replyKey : EncryptionKey} :
    (∃ result, readResult P R (fun _ ↦ .ok replyKey) response = .ok result) ↔
      (∃ reply result, Reply.parse R response = .ok reply ∧ SealedResult P R reply replyKey result ∧
        result.code = Kadmin.kpasswdSuccess) ∨ ClearTextSuccess R response := by
  simp only [readResult_eq_ok, clearTextSuccess_iff, clearResult_iff, Except.ok.injEq]
  constructor
  · intro h
    obtain ⟨result, reply, _, hparse, rfl, hsealed | hclear, hcode⟩ := h
    · exact .inl ⟨reply, result, hparse, hsealed, hcode⟩
    · exact .inr ⟨result, ⟨reply, hparse, hclear⟩, hcode⟩
  · rintro (⟨reply, result, hparse, hsealed, hcode⟩ | ⟨result, ⟨reply, hparse, hclear⟩, hcode⟩)
    · exact ⟨result, reply, replyKey, hparse, rfl, .inl hsealed, hcode⟩
    · exact ⟨result, reply, replyKey, hparse, rfl, .inr hclear, hcode⟩

def kpasswdKey (P : Primitives) (R : Rasn) (request : BuiltKpasswdRequest) (reply : Reply) :
    Except Error EncryptionKey := do
  let verified ← verifyKpasswdApRep P R reply request
  return resultKey verified request

/-- A reply whose AP-REP answers the request and whose KRB-PRIV opens with a success in it,
under the key that the AP-REP settles. -/
def AuthenticatedSuccess (P : Primitives) (R : Rasn) (request : BuiltKpasswdRequest)
    (response : Bytes) : Prop :=
  ∃ reply verified result, Reply.parse R response = .ok reply ∧
    verifyKpasswdApRep P R reply request = .ok (some verified) ∧
    SealedResult P R reply (resultKey (some verified) request) result ∧
    result.code = Kadmin.kpasswdSuccess

theorem verifyKpasswdApRep_eq_none (request : BuiltKpasswdRequest) :
    verifyKpasswdApRep P R reply request = .ok none ↔ reply.krbError.isSome := by
  by_cases herror : reply.krbError.isSome <;> simp [verifyKpasswdApRep, Reply.isKrbError, herror]

theorem readResult_kpasswdKey_iff {request : BuiltKpasswdRequest} :
    (∃ result, readResult P R (kpasswdKey P R request) response = .ok result) ↔
      AuthenticatedSuccess P R request response ∨ ClearTextSuccess R response := by
  simp only [readResult_eq_ok, clearTextSuccess_iff, clearResult_iff, kpasswdKey, bind_eq_ok, pure_eq_ok,
    Except.ok.injEq]
  constructor
  · intro h
    obtain ⟨result, reply, _, hparse, ⟨verified, hverified, rfl⟩, hsealed | hclear, hcode⟩ := h
    · cases verified with
      | some verified => exact .inl ⟨reply, verified, result, hparse, hverified, hsealed, hcode⟩
      | none =>
        have hsome := (verifyKpasswdApRep_eq_none P request).mp hverified
        simp [hsealed.krbError_eq_none hparse] at hsome
    · exact .inr ⟨result, ⟨reply, hparse, hclear⟩, hcode⟩
  · rintro (⟨reply, verified, result, hparse, hverified, hsealed, hcode⟩ |
      ⟨result, ⟨reply, hparse, hclear⟩, hcode⟩)
    · exact ⟨result, reply, _, hparse, ⟨some verified, hverified, rfl⟩, .inl hsealed, hcode⟩
    · have herror := (isSome_krbError_of_result hparse hclear).1
      have hnone := (verifyKpasswdApRep_eq_none P (R := R) request).mpr herror
      exact ⟨result, reply, _, hparse, ⟨none, hnone, rfl⟩, .inr hclear, hcode⟩

end Outcomes

namespace TokioClient

section PasswordChange

def changepwService (realm : String) : Principal := ⟨realm, krbNtPrincipal, ["kadmin", "changepw"]⟩

def changepwTicket (service : Principal) : ClientProgram ω TgsRepSession := do
  let c ← .read
  match c.credentials with
  | some (.password password) =>
    let options ← asReqOptions W
    outside (loginAsServiceWithPasswordConfig W P R c.client service password options)
  | some (.keytab keytab) =>
    let options ← asReqOptions W
    outside (loginAsServiceWithKeytabConfig W P R c.client service keytab options)
  | none => getServiceTicket W P R service

def hasPassword (c : TokioClient) : Bool :=
  match c.credentials with
  | some (.password _) => true
  | _ => false

/-- Only a change of the client's own password goes into its credentials. -/
def changePasswordForWithOptions (target : Principal) (newPassword : Bytes)
    (options : KpasswdRequestOptions) : ClientProgram ω ChangePasswordResult := do
  let c ← .read
  let ticket ← changepwTicket W P R (changepwService target.realm)
  let changeData ← raise ((Kadmin.changePasswdDataForTarget R newPassword target.nameType
    target.components target.realm).mapError .kadmin)
  let request ← outside (buildKpasswdRequest W P R ticket changeData options)
  let reply ← outside (exchangeKpasswdRequest R (sendToKpasswdRealm W target.realm) request.request)
  let verified ← raise (verifyKpasswdApRep P R reply request)
  let result ← raise ((reply.decryptResult P R (resultKey verified request)).mapError .kadmin)
  raise (result.ensureSuccess.mapError .kadmin)
  .update fun c' ↦ if target = c.client ∧ c.hasPassword then c'.withPasswordCredential newPassword else c'
  return result

end PasswordChange

section Credentials

/-- No run of the program changes the credentials, whatever the client holds, coherent or not. -/
abbrev LeavesCredentials {α : Type} (x : ClientProgram ω α) : Prop :=
  Leaves (fun s : TokioClient × ω ↦ s.1.credentials) x

theorem leaves_expectTgt (message : String) :
    LeavesCredentials (expectTgt message : ClientProgram ω AsRepSession) := by
  refine .bind .read fun c ↦ ?_
  cases c.tgt with
  | none => exact .throw _
  | some tgt => exact .pure _

theorem leaves_asReqOptions : LeavesCredentials (asReqOptions W) :=
  .bind .read fun _ ↦ .bind (.onSnd _ _) fun _ ↦ .bind (.onSnd _ _) fun _ ↦ .pure _

theorem leaves_tgsReqOptions : LeavesCredentials (tgsReqOptions W) :=
  .bind .read fun _ ↦ .bind (.onSnd _ _) fun _ ↦ .bind (.onSnd _ _) fun _ ↦ .pure _

theorem credentials_cacheTgtSessionAt (c : TokioClient) (tgt : AsRepSession) (now : SystemTime) :
    (c.cacheTgtSessionAt tgt now).2.credentials = c.credentials := by
  simp only [cacheTgtSessionAt]
  split
  · rfl
  · split <;> rfl

theorem credentials_storeRenewed (c : TokioClient) (renewed : AsRepSession) (realm : String) :
    (c.storeRenewed renewed realm).credentials = c.credentials := by
  simp only [storeRenewed]
  split <;> rfl

theorem leaves_cacheServiceTicket (ticket : TgsRepSession) :
    LeavesCredentials (cacheServiceTicket W ticket) :=
  .bind (.onSnd _ _) fun _ ↦ .update fun _ ↦ rfl

theorem leaves_cacheTgtSession (tgt : AsRepSession) : LeavesCredentials (cacheTgtSession W tgt) :=
  .bind (.onSnd _ _) fun now s ↦ credentials_cacheTgtSessionAt s.1 tgt now

theorem leaves_cacheTgtSessions (tgts : List AsRepSession) :
    LeavesCredentials (cacheTgtSessions W tgts) := by
  induction tgts with
  | nil => exact .pure _
  | cons tgt tgts ih => exact .bind (leaves_cacheTgtSession W tgt) fun _ ↦ ih

theorem leaves_renewTgtSessionForRealm (realm : String) :
    LeavesCredentials (renewTgtSessionForRealm W P R realm) := by
  refine .bind .read fun c ↦ .bind (.lift _) fun tgt ↦ .bind (leaves_tgsReqOptions W) fun options ↦ ?_
  refine .bind (.onSnd _ _) fun renewed ↦ .bind (.lift _) fun renewedRealm ↦ ?_
  refine .bind (.update fun c ↦ ?_) fun _ ↦ .pure _
  rw [credentials_storeRenewed]
  split <;> rfl

theorem leaves_renewTgt : LeavesCredentials (renewTgt W P R) :=
  .bind .read fun _ ↦ .bind (leaves_renewTgtSessionForRealm W P R _) fun _ ↦ leaves_expectTgt _

theorem leaves_loginFromCache : LeavesCredentials (loginFromCache W P R) := by
  refine .bind .read fun c ↦ ?_
  cases c.tgt with
  | none => exact .throw _
  | some tgt =>
    refine .bind (.onSnd _ _) fun now ↦ ?_
    split
    · exact leaves_expectTgt _
    split
    · exact leaves_renewTgt W P R
    · exact .throw _

theorem leaves_loginWithCredentials (credentials : TokioClientCredentials) :
    LeavesCredentials (loginWithCredentials W P R credentials) := by
  refine .bind .read fun c ↦ .bind (leaves_asReqOptions W) fun options ↦ .bind (.onSnd _ _) fun session ↦ ?_
  refine .bind (.update fun _ ↦ rfl) fun _ ↦ .bind (leaves_cacheTgtSession W session) fun _ ↦ ?_
  exact .bind (.update fun _ ↦ rfl) fun _ ↦ leaves_expectTgt _

theorem leaves_login : LeavesCredentials (login W P R) := by
  refine .bind .read fun c ↦ ?_
  cases c.credentials with
  | none => exact leaves_loginFromCache W P R
  | some credentials => exact leaves_loginWithCredentials W P R credentials

theorem leaves_loginIfPossible : LeavesCredentials (loginIfPossible W P R) := by
  refine .bind .read fun c ↦ ?_
  cases c.credentials with
  | none => exact .throw _
  | some _ => exact leaves_login W P R

theorem leaves_ensureTgt : LeavesCredentials (ensureTgt W P R) := by
  refine .bind .read fun c ↦ ?_
  cases c.tgt with
  | none => exact leaves_loginIfPossible W P R
  | some tgt =>
    refine .bind (.onSnd _ _) fun now ↦ ?_
    split
    · exact .pure _
    split
    · exact leaves_renewTgt W P R
    split
    · exact .pure _
    · exact leaves_loginIfPossible W P R

theorem leaves_cachedTgtSessionForRealm (realm : String) :
    LeavesCredentials (cachedTgtSessionForRealm W realm) := by
  refine .bind .read fun c ↦ ?_
  cases c.tgtSessions[realm]? with
  | none => exact .pure _
  | some tgt => exact .bind (.onSnd _ _) fun _ ↦ .pure _

theorem leaves_renewCachedTgtSessionForRealm (realm : String) :
    LeavesCredentials (renewCachedTgtSessionForRealm W P R realm) := by
  refine .bind .read fun c ↦ ?_
  cases c.tgtSessions[realm]? with
  | none => exact .pure _
  | some tgt =>
    refine .bind (.onSnd _ _) fun now ↦ ?_
    split
    · exact .pure _
    refine .bind (leaves_tgsReqOptions W) fun options ↦ .bind (.attempt (.onSnd _ _)) fun renewed ↦ ?_
    cases renewed with
    | error e => exact .pure _
    | ok renewed =>
      refine .bind (.lift _) fun renewedRealm ↦ .bind (.update fun c ↦ ?_) fun _ ↦ .pure _
      exact credentials_storeRenewed c renewed renewedRealm

theorem leaves_cachedOrRenewedTicket (service : Principal) :
    LeavesCredentials (cachedOrRenewedTicket W P R service) := by
  refine .bind .read fun c ↦ ?_
  cases c.serviceTickets[serviceCacheKey service]? with
  | none => exact .pure _
  | some ticket =>
    refine .bind (.onSnd _ _) fun now ↦ ?_
    split
    · exact .pure _
    split
    · exact .pure _
    refine .bind (leaves_tgsReqOptions W) fun options ↦ .bind (.attempt (.onSnd _ _)) fun renewed ↦ ?_
    cases renewed with
    | error e => exact .pure _
    | ok renewed => exact .bind (leaves_cacheServiceTicket W _) fun _ ↦ .pure _

theorem leaves_startingTgt (realm : String) : LeavesCredentials (startingTgt W P R realm) := by
  refine .bind .read fun c ↦ .bind (leaves_cachedTgtSessionForRealm W realm) fun cached ↦ ?_
  cases cached with
  | some tgt => exact .pure _
  | none =>
    dsimp only
    split
    · exact leaves_ensureTgt W P R
    refine .bind (leaves_renewCachedTgtSessionForRealm W P R realm) fun renewed ↦ ?_
    cases renewed with
    | some tgt => exact .pure _
    | none => exact leaves_ensureTgt W P R

theorem leaves_getServiceTicket (service : Principal) :
    LeavesCredentials (getServiceTicket W P R service) := by
  refine .bind .read fun c ↦ .bind (leaves_cachedOrRenewedTicket W P R _) fun cached ↦ ?_
  cases cached with
  | some ticket => exact .pure _
  | none =>
    refine .bind (leaves_startingTgt W P R _) fun tgt ↦ .bind (leaves_tgsReqOptions W) fun options ↦ ?_
    refine .bind (.onSnd _ _) fun result ↦ .bind (leaves_cacheTgtSessions W _) fun _ ↦ ?_
    exact .bind (leaves_cacheServiceTicket W _) fun _ ↦ .pure _

theorem leaves_changepwTicket (service : Principal) :
    LeavesCredentials (changepwTicket W P R service) := by
  refine .bind .read fun c ↦ ?_
  split
  · exact .bind (leaves_asReqOptions W) fun _ ↦ .onSnd _ _
  · exact .bind (leaves_asReqOptions W) fun _ ↦ .onSnd _ _
  · exact leaves_getServiceTicket W P R service

end Credentials

section Authenticated

variable (target : Principal) (newPassword : Bytes) (options : KpasswdRequestOptions)

/-- A password change up to the bytes that come back for its request. -/
def startPasswordChange : ClientProgram ω (BuiltKpasswdRequest × Bytes) := do
  let ticket ← changepwTicket W P R (changepwService target.realm)
  let changeData ← raise ((Kadmin.changePasswdDataForTarget R newPassword target.nameType
    target.components target.realm).mapError .kadmin)
  let request ← outside (buildKpasswdRequest W P R ticket changeData options)
  let response ← outside (answerTo R (sendToKpasswdRealm W target.realm) request.request)
  return (request, response)

theorem leaves_startPasswordChange :
    LeavesCredentials (startPasswordChange W P R target newPassword options) := by
  refine .bind (leaves_changepwTicket W P R _) fun ticket ↦ .bind (.lift _) fun changeData ↦ ?_
  exact .bind (.onSnd _ _) fun request ↦ .bind (.onSnd _ _) fun response ↦ .pure _

theorem raise_bind {α β : Type} (x : Except Error α) (f : α → Except Error β) :
    (raise (x >>= f) : ClientProgram ω β) = raise x >>= fun a ↦ raise (f a) := by
  cases x <;> rfl

theorem changePasswordForWithOptions_eq :
    changePasswordForWithOptions W P R target newPassword options = (do
      let c ← .read
      let answer ← startPasswordChange W P R target newPassword options
      let result ← raise (readResult P R (kpasswdKey P R answer.1) answer.2)
      .update fun c' ↦ if target = c.client ∧ c.hasPassword then c'.withPasswordCredential newPassword else c'
      return result) := by
  simp only [changePasswordForWithOptions, startPasswordChange, exchangeKpasswdRequest, outside,
    Program.onSnd_bind, bind_assoc, pure_bind, readResult, kpasswdKey, raise_bind]
  rfl

theorem changePasswordForWithOptions_spec (c : TokioClient) (w : ω) :
    let run := (changePasswordForWithOptions W P R target newPassword options).exec (c, w)
    match (startPasswordChange W P R target newPassword options).exec (c, w) with
    | (.error stop, s) => run = (.error stop, s) ∧ s.1.credentials = c.credentials
    | (.ok (request, response), _) =>
      run.1 = (readResult P R (kpasswdKey P R request) response).mapError .error ∧
      (run.2.1.credentials ≠ c.credentials → ∃ result, run.1 = .ok result) := by
  have hleaves := leaves_startPasswordChange W P R target newPassword options (c, w)
  simp only [changePasswordForWithOptions_eq, Program.exec_bind, Program.read, Program.exec_ofExec]
  revert hleaves
  rcases (startPasswordChange W P R target newPassword options).exec (c, w) with
    ⟨stop | ⟨request, response⟩, s⟩
  · exact fun hleaves ↦ ⟨rfl, hleaves⟩
  · intro hleaves
    dsimp only
    cases hread : readResult P R (kpasswdKey P R request) response with
    | error e => exact ⟨rfl, fun hne ↦ absurd hleaves hne⟩
    | ok result => exact ⟨rfl, fun _ ↦ ⟨result, rfl⟩⟩

end Authenticated

end TokioClient

open TokioClient in
/-- A password change reports success, and may replace the client's password, only on a reply
that is sealed under the keys of the exchange or on a KRB-ERROR that claims it in clear text. -/
theorem passwordChange_success_iff (W : World ω) (P : Primitives) (R : Rasn) :
    (∀ (target : Principal) (newPassword : Bytes) (options : KpasswdRequestOptions) (c : TokioClient) (w : ω),
      let run := (changePasswordForWithOptions W P R target newPassword options).exec (c, w)
      match (startPasswordChange W P R target newPassword options).exec (c, w) with
      | (.error stop, s) => run = (.error stop, s) ∧ s.1.credentials = c.credentials
      | (.ok (request, response), _) =>
        ((∃ result, run.1 = .ok result) ↔
          AuthenticatedSuccess P R request response ∨ ClearTextSuccess R response) ∧
        (run.2.1.credentials ≠ c.credentials →
          AuthenticatedSuccess P R request response ∨ ClearTextSuccess R response)) ∧
    ∀ (send : Bytes → Program ω Error Bytes) (request : Kadmin.Request) (replyKey : EncryptionKey) (w : ω),
      let run := (exchangeKpasswdResult P R send request replyKey).exec w
      match (answerTo R send request).exec w with
      | (.error e, w') => run = (.error e, w')
      | (.ok response, _) =>
        (∃ result, run.1 = .ok result) ↔
          (∃ reply result, Reply.parse R response = .ok reply ∧ SealedResult P R reply replyKey result ∧
            result.code = Kadmin.kpasswdSuccess) ∨ ClearTextSuccess R response := by
  constructor
  · intro target newPassword options c w
    have hspec := changePasswordForWithOptions_spec W P R target newPassword options c w
    revert hspec
    dsimp only
    rcases (startPasswordChange W P R target newPassword options).exec (c, w) with
      ⟨stop | ⟨request, response⟩, s⟩
    · exact id
    · intro h
      obtain ⟨hrun, hchanged⟩ := h
      have hiff : (∃ result, ((changePasswordForWithOptions W P R target newPassword options).exec
          (c, w)).1 = .ok result) ↔
          AuthenticatedSuccess P R request response ∨ ClearTextSuccess R response := by
        simp only [hrun, mapError_eq_ok, readResult_kpasswdKey_iff]
      exact ⟨hiff, fun hne ↦ hiff.mp (hchanged hne)⟩
  · intro send request replyKey w
    simp only [exchangeKpasswdResult_eq, Program.exec_bind, ← readResult_fixed_iff]
    rcases (answerTo R send request).exec w with ⟨e | response, w'⟩
    · rfl
    · exact Iff.rfl

section Forged

def changeRequest : Kadmin.Request where
  apReq := {
    pvno := 5
    msgType := 14
    apOptions := List.replicate 32 false
    ticket := ⟨5, asBytes "A", ⟨1, [asBytes "kadmin", asBytes "changepw"]⟩,
      ⟨23, some 2, List.replicate 8 0xaa⟩⟩
    authenticator := ⟨23, none, List.replicate 8 0xbb⟩ }
  krbPriv := ⟨5, 21, ⟨23, none, List.replicate 8 0xcc⟩⟩

def changeApReqDer : Bytes :=
  [0x6e, 0x73, 0x30, 0x71, 0xa0, 0x03, 0x02, 0x01, 0x05, 0xa1, 0x03, 0x02, 0x01, 0x0e, 0xa2, 0x07,
   0x03, 0x05, 0x00, 0x00, 0x00, 0x00, 0x00, 0xa3, 0x47, 0x61, 0x45, 0x30, 0x43, 0xa0, 0x03, 0x02,
   0x01, 0x05, 0xa1, 0x03, 0x1b, 0x01, 0x41, 0xa2, 0x1d, 0x30, 0x1b, 0xa0, 0x03, 0x02, 0x01, 0x01,
   0xa1, 0x14, 0x30, 0x12, 0x1b, 0x06, 0x6b, 0x61, 0x64, 0x6d, 0x69, 0x6e, 0x1b, 0x08, 0x63, 0x68,
   0x61, 0x6e, 0x67, 0x65, 0x70, 0x77, 0xa3, 0x18, 0x30, 0x16, 0xa0, 0x03, 0x02, 0x01, 0x17, 0xa1,
   0x03, 0x02, 0x01, 0x02, 0xa2, 0x0a, 0x04, 0x08, 0xaa, 0xaa, 0xaa, 0xaa, 0xaa, 0xaa, 0xaa, 0xaa,
   0xa4, 0x13, 0x30, 0x11, 0xa0, 0x03, 0x02, 0x01, 0x17, 0xa2, 0x0a, 0x04, 0x08, 0xbb, 0xbb, 0xbb,
   0xbb, 0xbb, 0xbb, 0xbb, 0xbb]

def changeKrbPrivDer : Bytes :=
  [0x75, 0x21, 0x30, 0x1f, 0xa0, 0x03, 0x02, 0x01, 0x05, 0xa1, 0x03, 0x02, 0x01, 0x15, 0xa3, 0x13,
   0x30, 0x11, 0xa0, 0x03, 0x02, 0x01, 0x17, 0xa2, 0x0a, 0x04, 0x08, 0xcc, 0xcc, 0xcc, 0xcc, 0xcc,
   0xcc, 0xcc, 0xcc]

/-- A KRB-ERROR that anyone can write, with a success code and a text as its data. -/
def forgedKrbError : KrbError where
  pvno := 5
  msgType := 30
  ctime := none
  cusec := none
  stime := wholeTime 1767225661
  susec := 0
  errorCode := 60
  crealm := none
  cname := none
  realm := asBytes "A"
  sname := ⟨1, [asBytes "kadmin", asBytes "changepw"]⟩
  eText := none
  eData := some (0 :: 0 :: asBytes "password changed")

def forgedKrbErrorDer : Bytes :=
  [0x7e, 0x63, 0x30, 0x61, 0xa0, 0x03, 0x02, 0x01, 0x05, 0xa1, 0x03, 0x02, 0x01, 0x1e, 0xa4, 0x11,
   0x18, 0x0f, 0x32, 0x30, 0x32, 0x36, 0x30, 0x31, 0x30, 0x31, 0x30, 0x30, 0x30, 0x31, 0x30, 0x31,
   0x5a, 0xa5, 0x03, 0x02, 0x01, 0x00, 0xa6, 0x03, 0x02, 0x01, 0x3c, 0xa9, 0x03, 0x1b, 0x01, 0x41,
   0xaa, 0x1d, 0x30, 0x1b, 0xa0, 0x03, 0x02, 0x01, 0x01, 0xa1, 0x14, 0x30, 0x12, 0x1b, 0x06, 0x6b,
   0x61, 0x64, 0x6d, 0x69, 0x6e, 0x1b, 0x08, 0x63, 0x68, 0x61, 0x6e, 0x67, 0x65, 0x70, 0x77, 0xac,
   0x14, 0x04, 0x12, 0x00, 0x00, 0x70, 0x61, 0x73, 0x73, 0x77, 0x6f, 0x72, 0x64, 0x20, 0x63, 0x68,
   0x61, 0x6e, 0x67, 0x65, 0x64]

def forgedReply : Bytes := Kadmin.encodeFrame Kadmin.changePasswordReplyVersion [] forgedKrbErrorDer

def forgedRasn : Rasn := .ofTable {
  apReq := [(changeRequest.apReq, changeApReqDer)]
  krbPriv := [(changeRequest.krbPriv, changeKrbPrivDer)]
  krbError := [(forgedKrbError, forgedKrbErrorDer)] }

def forgingWorld : World Unit where
  now w := (.unixEpoch, w)
  fill len w := (.ok (Vector.replicate len 0x42), w)
  sendToRealm _ _ w := (.error "unreachable", w)
  sendToKpasswdRealm _ _ w := (.ok forgedReply, w)

/-- The forged reply has no KRB-PRIV, and yet the change is reported as a success. -/
theorem exchangeKpasswdResult_forged :
    (exchangeKpasswdResult (.ofKnownAnswers (.ofRc4Sealed [])) forgedRasn (sendToKpasswdRealm forgingWorld "A")
      changeRequest ⟨23, List.replicate 16 0x11⟩).exec () = (.ok ⟨0, "password changed"⟩, ()) ∧
    (answerTo forgedRasn (sendToKpasswdRealm forgingWorld "A") changeRequest).exec () = (.ok forgedReply, ()) ∧
    ∃ reply, Reply.parse forgedRasn forgedReply = .ok reply ∧ reply.krbPriv = none ∧ reply.apRep = none := by
  refine ⟨by decide +kernel, by decide +kernel, ?_⟩
  refine ⟨⟨107, 1, 0, none, none, some forgedKrbError, some ⟨0, "password changed"⟩⟩, ?_, rfl, rfl⟩
  decide

end Forged

end Rskrb5.Client
