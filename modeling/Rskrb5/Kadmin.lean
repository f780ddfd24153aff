import Rskrb5.KrbError

namespace Rskrb5

open Lib.Results Crypto EncParts

section Utf8Lossy

def isUtf8Continuation (byte : UInt8) : Bool := byte &&& 0xc0 = 0x80

def isUtf8Second (first second : UInt8) : Bool :=
  if first = 0xe0 then 0xa0 ≤ second ∧ second ≤ 0xbf
  else if first = 0xed then 0x80 ≤ second ∧ second ≤ 0x9f
  else if first = 0xf0 then 0x90 ≤ second ∧ second ≤ 0xbf
  else if first = 0xf4 then 0x80 ≤ second ∧ second ≤ 0x8f
  else isUtf8Continuation second

def utf8Bits (byte : UInt8) : ℕ := (byte &&& 0x3f).toNat

def replacementCharacter : Char := Char.ofNat 0xfffd

/-- The first character of a text and how many bytes it takes. A replacement character
stands for the longest beginning of a sequence that goes wrong. -/
def utf8LossyChar (b0 : UInt8) (rest : Bytes) : Char × ℕ :=
  if b0 < 0x80 then (Char.ofNat b0.toNat, 1)
  else if 0xc2 ≤ b0 ∧ b0 ≤ 0xdf then
    match rest with
    | b1 :: _ =>
      if isUtf8Continuation b1 then (Char.ofNat ((b0 &&& 0x1f).toNat * 0x40 + utf8Bits b1), 2)
      else (replacementCharacter, 1)
    | [] => (replacementCharacter, 1)
  else if 0xe0 ≤ b0 ∧ b0 ≤ 0xf4 then
    match rest with
    | b1 :: rest =>
      if ¬ isUtf8Second b0 b1 then (replacementCharacter, 1)
      else
        match rest with
        | b2 :: rest =>
          let value := ((b0 &&& 0x0f).toNat * 0x40 + utf8Bits b1) * 0x40 + utf8Bits b2
          if ¬ isUtf8Continuation b2 then (replacementCharacter, 2)
          else if b0 ≤ 0xef then (Char.ofNat value, 3)
          else
            match rest with
            | b3 :: _ =>
              if isUtf8Continuation b3 then (Char.ofNat (value * 0x40 + utf8Bits b3), 4)
              else (replacementCharacter, 3)
            | [] => (replacementCharacter, 3)
        | [] => (replacementCharacter, 2)
    | [] => (replacementCharacter, 1)
  else (replacementCharacter, 1)

/-- Every character takes a byte, so the length bounds the number of turns. -/
def utf8LossyChars : ℕ → Bytes → List Char
  | 0, _ => []
  | _, [] => []
  | fuel + 1, b0 :: rest =>
    let (char, width) := utf8LossyChar b0 rest
    char :: utf8LossyChars fuel ((b0 :: rest).drop width)

/-- `String::from_utf8_lossy`. -/
def fromUtf8Lossy (bytes : Bytes) : String := String.ofList (utf8LossyChars bytes.length bytes)

end Utf8Lossy

namespace Kadmin

def changePasswordRequestVersion : UInt16 := 0xff80
def changePasswordReplyVersion : UInt16 := 1
def kpasswdSuccess : UInt16 := 0
def headerLen : ℕ := 6

/-- Where the source keeps the text of another module's error the error itself is kept. -/
inductive Error
  | frameTooShort (actual : ℕ)
  | invalidMessageLength (messageLength : UInt16)
  | invalidKerberosMessage (field : String) (expected : Int32) (actual : String)
  | truncatedFrame (expected actual : ℕ)
  | invalidReplyVersion (version : UInt16)
  | invalidRequestVersion (version : UInt16)
  | invalidApReqLength (apReqLength : UInt16) (bodyLength : ℕ)
  | invalidApRepLength (apRepLength : UInt16) (bodyLength : ℕ)
  | responseTooShort (actual : ℕ)
  | missingReplyResult
  | missingKrbPriv
  | missingKrbError
  | missingApRep
  | invalidErrorReplyPayload
  | unsupportedEtype (etype : Int32)
  | keyEtypeMismatch (keyEtype encryptedDataEtype : Int32)
  | crypto (source : Crypto.Error)
  | random (message : String)
  | passwordChangeFailed (code : UInt16) (text : String)
  | decode (target message : String)
  | decodeOther (target : String) (source : EncPartError)
  | encode (target message : String)
  | invalidKerberosString (message : String)
  | apReqTooLarge (actual : ℕ)
  | frameTooLarge (actual : ℕ)
  deriving DecidableEq

def partError (target : String) : EncPartError → Error
  | .decode target message => .decode target message
  | .encode target message => .encode target message
  | .invalidMessage field expected actual => .invalidKerberosMessage field expected actual
  | other => .decodeOther target other

def apReqError : EncPartError → Error := partError "AP-REQ"
def apRepError : EncPartError → Error := partError "AP-REP"

def krbErrorError : KrbError.Error → Error
  | .decode target message => .decode target message
  | .encode target message => .encode target message
  | .invalidMessage field expected actual => .invalidKerberosMessage field expected actual
  | other => .decode "KRB-ERROR" other.text

def krbPrivError : EncPartError → Error
  | .decode target message => .decode target message
  | .encode target message => .encode target message
  | .invalidMessage field expected actual => .invalidKerberosMessage field expected actual
  | .unsupportedEtype etype => .unsupportedEtype etype
  | .keyEtypeMismatch keyEtype encryptedDataEtype => .keyEtypeMismatch keyEtype encryptedDataEtype
  | .crypto source => .crypto source

section Frames

structure Frame where
  messageLength : UInt16
  version : UInt16
  payloadLength : UInt16
  body : Bytes
  deriving DecidableEq

/-- The callers have checked that both bytes are there. -/
def readU16 (bytes : Bytes) (offset : ℕ) : UInt16 := u16FromBeBytes ((bytes.drop offset).take 2)

def parseHeader (bytes : Bytes) : Except Error Frame := do
  ensure (headerLen ≤ bytes.length) (.frameTooShort bytes.length)
  let messageLength := readU16 bytes 0
  ensure (headerLen ≤ messageLength.toNat) (.invalidMessageLength messageLength)
  ensure (messageLength.toNat ≤ bytes.length) (.truncatedFrame messageLength.toNat bytes.length)
  return {
    messageLength
    version := readU16 bytes 2
    payloadLength := readU16 bytes 4
    body := (bytes.take messageLength.toNat).drop headerLen }

def encodeFrame (version : UInt16) (payload rest : Bytes) : Bytes :=
  u16ToBeBytes (UInt16.ofNat (headerLen + payload.length + rest.length)) ++ u16ToBeBytes version
    ++ u16ToBeBytes (UInt16.ofNat payload.length) ++ payload ++ rest

end Frames

section Results

structure ChangePasswordResult where
  code : UInt16
  text : String
  deriving DecidableEq

def ChangePasswordResult.parse (bytes : Bytes) : Except Error ChangePasswordResult := do
  ensure (2 ≤ bytes.length) (.responseTooShort bytes.length)
  return { code := readU16 bytes 0, text := fromUtf8Lossy (bytes.drop 2) }

def ChangePasswordResult.isSuccess (result : ChangePasswordResult) : Bool := result.code = kpasswdSuccess

def ChangePasswordResult.ensureSuccess (result : ChangePasswordResult) : Except Error Unit :=
  ensure (result.isSuccess = true) (.passwordChangeFailed result.code result.text)

end Results

variable (P : Primitives) (R : Rasn)

section Requests

def principalName (nameType : Int32) (components : List String) : Except Error PrincipalName := do
  let string ← components.mapM fun component ↦
    (kerberosString R component).mapError .invalidKerberosString
  return ⟨nameType, string⟩

def changePasswdDataForTarget (newPasswd : Bytes) (nameType : Int32) (components : List String)
    (realm : String) : Except Error ChangePasswdData := do
  let targName ← principalName R nameType components
  let targRealm ← (kerberosString R realm).mapError .invalidKerberosString
  return ⟨newPasswd, some targName, some targRealm⟩

def encodeChangePasswdData (changeData : ChangePasswdData) : Except Error Bytes :=
  (R.changePasswdData.encode changeData).mapError (.encode "ChangePasswdData")

def decodeChangePasswdData (bytes : Bytes) : Except Error ChangePasswdData :=
  (R.changePasswdData.decode bytes).mapError (.decode "ChangePasswdData")

def decodeKrbPriv (bytes : Bytes) : Except Error KrbPriv :=
  (Rskrb5.decodeKrbPriv R bytes).mapError krbPrivError

def encodeKrbPriv (krbPriv : KrbPriv) : Except Error Bytes :=
  (Rskrb5.encodeKrbPriv R krbPriv).mapError krbPrivError

def decryptKrbPrivEncPart (krbPriv : KrbPriv) (key : EncryptionKey) : Except Error EncKrbPrivPart :=
  (Rskrb5.decryptKrbPrivEncPart P R krbPriv key).mapError krbPrivError

structure Request where
  apReq : ApReq
  krbPriv : KrbPriv
  deriving DecidableEq

def Request.parse (bytes : Bytes) : Except Error Request := do
  let frame ← parseHeader bytes
  ensure (frame.version = changePasswordRequestVersion) (.invalidRequestVersion frame.version)
  let apReqEnd := frame.payloadLength.toNat
  ensure (¬ (apReqEnd = 0 ∨ frame.body.length ≤ apReqEnd))
    (.invalidApReqLength frame.payloadLength frame.body.length)
  let apReq ← (decodeApReq R (frame.body.take apReqEnd)).mapError apReqError
  let krbPriv ← decodeKrbPriv R (frame.body.drop apReqEnd)
  return { apReq, krbPriv }

def Request.encode (request : Request) : Except Error Bytes := do
  let apReq ← (encodeApReq R request.apReq).mapError apReqError
  let krbPriv ← encodeKrbPriv R request.krbPriv
  ensure (apReq.length < 2 ^ 16) (.apReqTooLarge apReq.length)
  let messageLength := headerLen + apReq.length + krbPriv.length
  ensure (messageLength < 2 ^ 16) (.frameTooLarge messageLength)
  return encodeFrame changePasswordRequestVersion apReq krbPriv

structure BuiltChangePasswordRequest where
  request : Request
  der : Bytes
  replyKey : EncryptionKey
  deriving DecidableEq

def buildChangePasswordRequestFromParts (apReq : ApReq) (krbPriv : KrbPriv)
    (replyKey : EncryptionKey) : Except Error BuiltChangePasswordRequest := do
  let request : Request := { apReq, krbPriv }
  let der ← request.encode R
  return { request, der, replyKey }

def buildChangePasswordRequestWithConfounder (apReq : ApReq) (changeData : ChangePasswdData)
    (replyKey : EncryptionKey) (options : EncKrbPrivPartOptions) (confounder : Bytes) :
    Except Error BuiltChangePasswordRequest := do
  let userData ← encodeChangePasswdData R changeData
  let krbPriv ← (buildKrbPrivWithConfounder P R userData options replyKey none confounder).mapError
    krbPrivError
  buildChangePasswordRequestFromParts R apReq krbPriv replyKey

end Requests

section Replies

structure Reply where
  messageLength : UInt16
  version : UInt16
  apRepLength : UInt16
  apRep : Option ApRep
  krbPriv : Option KrbPriv
  krbError : Option KrbError
  result : Option ChangePasswordResult
  deriving DecidableEq

/-- A reply without an AP-REP: its result is read from clear text. -/
def Reply.parseKrbError (frame : Frame) : Except Error Reply := do
  let krbError ← (KrbError.decodeKrbError R frame.body).mapError krbErrorError
  let result ← krbError.eData.mapM ChangePasswordResult.parse
  return {
    messageLength := frame.messageLength
    version := frame.version
    apRepLength := frame.payloadLength
    apRep := none
    krbPriv := none
    krbError := some krbError
    result }

def Reply.parseApRep (frame : Frame) : Except Error Reply := do
  let apRepEnd := frame.payloadLength.toNat
  ensure (apRepEnd < frame.body.length) (.invalidApRepLength frame.payloadLength frame.body.length)
  let apRep ← (decodeApRep R (frame.body.take apRepEnd)).mapError apRepError
  let krbPriv ← decodeKrbPriv R (frame.body.drop apRepEnd)
  return {
    messageLength := frame.messageLength
    version := frame.version
    apRepLength := frame.payloadLength
    apRep := some apRep
    krbPriv := some krbPriv
    krbError := none
    result := none }

def Reply.parse (bytes : Bytes) : Except Error Reply := do
  let frame ← parseHeader bytes
  ensure (frame.version = changePasswordReplyVersion) (.invalidReplyVersion frame.version)
  if frame.payloadLength = 0 then Reply.parseKrbError R frame else Reply.parseApRep R frame

def Reply.isKrbError (reply : Reply) : Bool := reply.krbError.isSome

def Reply.decryptResult (reply : Reply) (key : EncryptionKey) : Except Error ChangePasswordResult :=
  match reply.result with
  | some result => .ok result
  | none => do
    ensure (reply.krbError = none) .missingReplyResult
    let krbPriv ← okOr reply.krbPriv .missingKrbPriv
    let encPart ← decryptKrbPrivEncPart P R krbPriv key
    ChangePasswordResult.parse encPart.userData

def Reply.encode (reply : Reply) : Except Error Bytes :=
  match reply.krbError with
  | some krbError => do
    ensure (¬ (reply.apRep.isSome ∨ reply.krbPriv.isSome)) .invalidErrorReplyPayload
    let body ← (KrbError.encodeKrbError R krbError).mapError krbErrorError
    let frameLength := headerLen + body.length
    ensure (frameLength < 2 ^ 16) (.frameTooLarge frameLength)
    return encodeFrame changePasswordReplyVersion [] body
  | none => do
    let apRep ← okOr reply.apRep .missingApRep
    let krbPriv ← okOr reply.krbPriv .missingKrbPriv
    let encodedApRep ← (encodeApRep R apRep).mapError apRepError
    ensure (encodedApRep.length < 2 ^ 16) (.frameTooLarge encodedApRep.length)
    let encodedKrbPriv ← encodeKrbPriv R krbPriv
    let frameLength := headerLen + encodedApRep.length + encodedKrbPriv.length
    ensure (frameLength < 2 ^ 16) (.frameTooLarge frameLength)
    return encodeFrame changePasswordReplyVersion encodedApRep encodedKrbPriv

end Replies

end Kadmin

end Rskrb5
