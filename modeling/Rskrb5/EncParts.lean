import Rskrb5.Crypto.Sealing
import Rskrb5.Messages

namespace Rskrb5

open Lib.Results Crypto

/-- The errors that the message modules share; each module has its own copy. -/
inductive EncPartError
  | decode (target message : String)
  | encode (target message : String)
  | invalidMessage (field : String) (expected : Int32) (actual : String)
  | unsupportedEtype (etype : Int32)
  | keyEtypeMismatch (keyEtype encryptedDataEtype : Int32)
  | crypto (source : Crypto.Error)
  deriving DecidableEq

namespace EncParts

def krb5Pvno : Int32 := 5
def krb5TktVno : Int32 := 5
def krbApReqMsgType : Int32 := 14
def krbApRepMsgType : Int32 := 15
def krbAsRepMsgType : Int32 := 11
def krbTgsRepMsgType : Int32 := 13
def krbPrivMsgType : Int32 := 21
def krbCredMsgType : Int32 := 22
def kdcRepTicketUsage : UInt32 := 2
def asRepEncpartUsage : UInt32 := 3
def tgsReqApReqAuthenticatorUsage : UInt32 := 7
def tgsRepEncpartSessionKeyUsage : UInt32 := 8
def apReqAuthenticatorUsage : UInt32 := 11
def apRepEncpartUsage : UInt32 := 12
def krbPrivEncpartUsage : UInt32 := 13
def krbCredEncpartUsage : UInt32 := 14

def decode {α : Type} (coder : Coder α) (target : String) (bytes : Bytes) : Except EncPartError α :=
  (coder.decode bytes).mapError (.decode target)

def encode {α : Type} (coder : Coder α) (target : String) (value : α) : Except EncPartError Bytes :=
  (coder.encode value).mapError (.encode target)

def validateInteger (field : String) (actual : ℤ) (expected : Int32) : Except EncPartError Unit :=
  ensure (actual = expected.toInt) (.invalidMessage field expected (toString actual))

section Envelope

variable (P : Primitives)

def decryptData (data : EncryptedData) (key : EncryptionKey) (usage : UInt32) :
    Except EncPartError Bytes := do
  ensure (key.etype = data.etype) (.keyEtypeMismatch key.etype data.etype)
  let etype ← okOr (KerberosEtype.fromEtypeId key.etype) (.unsupportedEtype key.etype)
  (etype.decryptMessage P key.value data.cipher usage).mapError .crypto

def encryptData (plaintext : Bytes) (key : EncryptionKey) (kvno : Option UInt32) (usage : UInt32)
    (confounder : Bytes) : Except EncPartError EncryptedData := do
  let etype ← okOr (KerberosEtype.fromEtypeId key.etype) (.unsupportedEtype key.etype)
  let cipher ←
    (etype.encryptMessageWithConfounder P key.value plaintext usage confounder).mapError .crypto
  return { etype := key.etype, kvno, cipher }

theorem encryptData_eq_ok {plaintext : Bytes} {key : EncryptionKey} {kvno : Option UInt32}
    {usage : UInt32} {confounder : Bytes} {data : EncryptedData} :
    encryptData P plaintext key kvno usage confounder = .ok data ↔
      ∃ etype, KerberosEtype.fromEtypeId key.etype = some etype ∧ data.etype = key.etype ∧
        data.kvno = kvno ∧
        etype.encryptMessageWithConfounder P key.value plaintext usage confounder = .ok data.cipher := by
  simp only [encryptData, bind_eq_ok, okOr_eq_ok, mapError_eq_ok, pure_eq_ok, Except.ok.injEq]
  constructor
  · intro h
    obtain ⟨etype, he, cipher, hc, rfl⟩ := h
    exact ⟨etype, he, rfl, rfl, hc⟩
  · intro h
    obtain ⟨etype, he, h1, h2, hc⟩ := h
    exact ⟨etype, he, data.cipher, hc, by cases data; simp_all⟩

theorem decryptData_encryptData {plaintext : Bytes} {key : EncryptionKey} {kvno : Option UInt32}
    {usage : UInt32} {confounder : Bytes} {data : EncryptedData} {etype : KerberosEtype}
    (he : KerberosEtype.fromEtypeId key.etype = some etype)
    (h : encryptData P plaintext key kvno usage confounder = .ok data) :
    decryptData P data key usage = .ok (etype.padded plaintext) := by
  obtain ⟨etype', he', hd, -, hc⟩ := (encryptData_eq_ok P).mp h
  obtain rfl := Option.some.inj (he.symm.trans he')
  simp only [decryptData, hd, ensure_of, ok_bind, he, okOr, etype.decrypt_of_encrypt P hc]
  rfl

end Envelope

end EncParts

open EncParts

section Messages

variable (P : Primitives) (R : Rasn)

section ApReq

def validateApReqMessage (apReq : ApReq) : Except EncPartError Unit := do
  validateInteger "pvno" apReq.pvno krb5Pvno
  validateInteger "msg-type" apReq.msgType krbApReqMsgType

def decodeApReq (bytes : Bytes) : Except EncPartError ApReq := do
  let apReq ← decode R.apReq "AP-REQ" bytes
  validateApReqMessage apReq
  return apReq

def encodeApReq (apReq : ApReq) : Except EncPartError Bytes := encode R.apReq "AP-REQ" apReq

def decodeAuthenticator (bytes : Bytes) : Except EncPartError Authenticator :=
  decode R.authenticator "Authenticator" bytes

def decryptApReqAuthenticator (apReq : ApReq) (key : EncryptionKey) (usage : UInt32) :
    Except EncPartError Authenticator := do
  let plaintext ← decryptData P apReq.authenticator key usage
  decodeAuthenticator R (Der.trimZeroPaddedDer plaintext)

def authenticatorUsageForTicket (ticket : Ticket) : UInt32 :=
  if ticket.sname.string.head? = some (asBytes "krbtgt") then tgsReqApReqAuthenticatorUsage
  else apReqAuthenticatorUsage

def buildApReqWithConfounder (ticket : Ticket) (apOptions : KerberosFlags)
    (authenticator : Authenticator) (key : EncryptionKey) (usage : UInt32) (kvno : Option UInt32)
    (confounder : Bytes) : Except EncPartError ApReq := do
  let plaintext ← encode R.authenticator "Authenticator" authenticator
  let authenticator ← encryptData P plaintext key kvno usage confounder
  return { pvno := krb5Pvno.toInt, msgType := krbApReqMsgType.toInt, apOptions, ticket, authenticator }

theorem buildApReqWithConfounder_eq_ok {ticket : Ticket} {apOptions : KerberosFlags}
    {authenticator : Authenticator} {key : EncryptionKey} {usage : UInt32} {kvno : Option UInt32}
    {confounder : Bytes} {apReq : ApReq}
    (h : buildApReqWithConfounder P R ticket apOptions authenticator key usage kvno confounder =
      .ok apReq) :
    ∃ plaintext data, R.authenticator.encode authenticator = .ok plaintext ∧
      encryptData P plaintext key kvno usage confounder = .ok data ∧
      apReq = ⟨krb5Pvno.toInt, krbApReqMsgType.toInt, apOptions, ticket, data⟩ := by
  simp only [buildApReqWithConfounder, encode, bind_eq_ok, mapError_eq_ok, pure_eq_ok,
    Except.ok.injEq] at h
  obtain ⟨plaintext, hp, data, hd, rfl⟩ := h
  exact ⟨plaintext, data, hp, hd, rfl⟩

end ApReq

section Ticket

def validateTicket (ticket : Ticket) : Except EncPartError Unit :=
  validateInteger "tkt-vno" ticket.tktVno krb5TktVno

def decodeTicket (bytes : Bytes) : Except EncPartError Ticket := do
  let ticket ← decode R.ticket "Ticket" bytes
  validateTicket ticket
  return ticket

def encodeTicket (ticket : Ticket) : Except EncPartError Bytes := encode R.ticket "Ticket" ticket

def decodeEncTicketPart (bytes : Bytes) : Except EncPartError EncTicketPart :=
  decode R.encTicketPart "EncTicketPart" bytes

def decryptTicketEncPart (ticket : Ticket) (key : EncryptionKey) : Except EncPartError EncTicketPart := do
  let plaintext ← decryptData P ticket.encPart key kdcRepTicketUsage
  decodeEncTicketPart R (Der.trimZeroPaddedDer plaintext)

def buildTicketWithConfounder (realm : Realm) (sname : PrincipalName) (encPart : EncTicketPart)
    (key : EncryptionKey) (kvno : Option UInt32) (confounder : Bytes) : Except EncPartError Ticket := do
  let plaintext ← encode R.encTicketPart "EncTicketPart" encPart
  let encPart ← encryptData P plaintext key kvno kdcRepTicketUsage confounder
  return { tktVno := krb5TktVno.toInt, realm, sname, encPart }

theorem buildTicketWithConfounder_eq_ok {realm : Realm} {sname : PrincipalName}
    {encPart : EncTicketPart} {key : EncryptionKey} {kvno : Option UInt32} {confounder : Bytes}
    {ticket : Ticket}
    (h : buildTicketWithConfounder P R realm sname encPart key kvno confounder = .ok ticket) :
    ∃ plaintext data, R.encTicketPart.encode encPart = .ok plaintext ∧
      encryptData P plaintext key kvno kdcRepTicketUsage confounder = .ok data ∧
      ticket = ⟨krb5TktVno.toInt, realm, sname, data⟩ := by
  simp only [buildTicketWithConfounder, encode, bind_eq_ok, mapError_eq_ok, pure_eq_ok,
    Except.ok.injEq] at h
  obtain ⟨plaintext, hp, data, hd, rfl⟩ := h
  exact ⟨plaintext, data, hp, hd, rfl⟩

end Ticket

section ApRep

def validateApRep (apRep : ApRep) : Except EncPartError Unit := do
  validateInteger "pvno" apRep.pvno krb5Pvno
  validateInteger "msg-type" apRep.msgType krbApRepMsgType

def decodeApRep (bytes : Bytes) : Except EncPartError ApRep := do
  let apRep ← decode R.apRep "AP-REP" bytes
  validateApRep apRep
  return apRep

def encodeApRep (apRep : ApRep) : Except EncPartError Bytes := encode R.apRep "AP-REP" apRep

def decodeEncApRepPart (bytes : Bytes) : Except EncPartError EncApRepPart :=
  decode R.encApRepPart "EncApRepPart" bytes

/-- Unlike its siblings this hands the plaintext to the decoder untrimmed. -/
def decryptApRepEncPart (apRep : ApRep) (key : EncryptionKey) : Except EncPartError EncApRepPart := do
  let plaintext ← decryptData P apRep.encPart key apRepEncpartUsage
  decodeEncApRepPart R plaintext

def buildApRepWithConfounder (encPart : EncApRepPart) (key : EncryptionKey) (kvno : Option UInt32)
    (confounder : Bytes) : Except EncPartError ApRep := do
  let plaintext ← encode R.encApRepPart "EncApRepPart" encPart
  let encPart ← encryptData P plaintext key kvno apRepEncpartUsage confounder
  return { pvno := krb5Pvno.toInt, msgType := krbApRepMsgType.toInt, encPart }

theorem buildApRepWithConfounder_eq_ok {encPart : EncApRepPart} {key : EncryptionKey}
    {kvno : Option UInt32} {confounder : Bytes} {apRep : ApRep}
    (h : buildApRepWithConfounder P R encPart key kvno confounder = .ok apRep) :
    ∃ plaintext data, R.encApRepPart.encode encPart = .ok plaintext ∧
      encryptData P plaintext key kvno apRepEncpartUsage confounder = .ok data ∧
      apRep = ⟨krb5Pvno.toInt, krbApRepMsgType.toInt, data⟩ := by
  simp only [buildApRepWithConfounder, encode, bind_eq_ok, mapError_eq_ok, pure_eq_ok,
    Except.ok.injEq] at h
  obtain ⟨plaintext, hp, data, hd, rfl⟩ := h
  exact ⟨plaintext, data, hp, hd, rfl⟩

end ApRep

section KdcRep

def validateKdcRep (kdcRep : KdcRep) (msgType : Int32) : Except EncPartError Unit := do
  validateInteger "pvno" kdcRep.pvno krb5Pvno
  validateInteger "msg-type" kdcRep.msgType msgType
  validateTicket kdcRep.ticket

def decodeAsRep (bytes : Bytes) : Except EncPartError KdcRep := do
  let asRep ← decode R.asRep "AS-REP" bytes
  validateKdcRep asRep krbAsRepMsgType
  return asRep

def decodeTgsRep (bytes : Bytes) : Except EncPartError KdcRep := do
  let tgsRep ← decode R.tgsRep "TGS-REP" bytes
  validateKdcRep tgsRep krbTgsRepMsgType
  return tgsRep

def encodeAsRep (asRep : KdcRep) : Except EncPartError Bytes := encode R.asRep "AS-REP" asRep

def encodeTgsRep (tgsRep : KdcRep) : Except EncPartError Bytes := encode R.tgsRep "TGS-REP" tgsRep

/-- The application tag of either reply is accepted; the first error is reported. -/
def decodeEncKdcRepPart (bytes : Bytes) : Except EncPartError EncKdcRepPart :=
  match decode R.encAsRepPart "EncAsRepPart" bytes with
  | .ok encPart => .ok encPart
  | .error asRepError => (decode R.encTgsRepPart "EncTgsRepPart" bytes).mapError fun _ ↦ asRepError

def decryptKdcRepEncPart (data : EncryptedData) (key : EncryptionKey) (usage : UInt32) :
    Except EncPartError EncKdcRepPart := do
  let plaintext ← decryptData P data key usage
  decodeEncKdcRepPart R (Der.trimZeroPaddedDer plaintext)

def decryptAsRepEncPart (asRep : KdcRep) (key : EncryptionKey) : Except EncPartError EncKdcRepPart :=
  decryptKdcRepEncPart P R asRep.encPart key asRepEncpartUsage

def decryptTgsRepEncPart (tgsRep : KdcRep) (key : EncryptionKey) : Except EncPartError EncKdcRepPart :=
  decryptKdcRepEncPart P R tgsRep.encPart key tgsRepEncpartSessionKeyUsage

def encryptAsRepEncPartWithConfounder (encPart : EncKdcRepPart) (key : EncryptionKey)
    (kvno : Option UInt32) (confounder : Bytes) : Except EncPartError EncryptedData := do
  let plaintext ← encode R.encAsRepPart "EncAsRepPart" encPart
  encryptData P plaintext key kvno asRepEncpartUsage confounder

def encryptTgsRepEncPartWithConfounder (encPart : EncKdcRepPart) (key : EncryptionKey)
    (kvno : Option UInt32) (confounder : Bytes) : Except EncPartError EncryptedData := do
  let plaintext ← encode R.encTgsRepPart "EncTgsRepPart" encPart
  encryptData P plaintext key kvno tgsRepEncpartSessionKeyUsage confounder

theorem encryptAsRepEncPartWithConfounder_eq_ok {encPart : EncKdcRepPart} {key : EncryptionKey}
    {kvno : Option UInt32} {confounder : Bytes} {data : EncryptedData}
    (h : encryptAsRepEncPartWithConfounder P R encPart key kvno confounder = .ok data) :
    ∃ plaintext, R.encAsRepPart.encode encPart = .ok plaintext ∧
      encryptData P plaintext key kvno asRepEncpartUsage confounder = .ok data := by
  simpa only [encryptAsRepEncPartWithConfounder, encode, bind_eq_ok, mapError_eq_ok] using h

theorem encryptTgsRepEncPartWithConfounder_eq_ok {encPart : EncKdcRepPart} {key : EncryptionKey}
    {kvno : Option UInt32} {confounder : Bytes} {data : EncryptedData}
    (h : encryptTgsRepEncPartWithConfounder P R encPart key kvno confounder = .ok data) :
    ∃ plaintext, R.encTgsRepPart.encode encPart = .ok plaintext ∧
      encryptData P plaintext key kvno tgsRepEncpartSessionKeyUsage confounder = .ok data := by
  simpa only [encryptTgsRepEncPartWithConfounder, encode, bind_eq_ok, mapError_eq_ok] using h

end KdcRep

section KrbPriv

structure EncKrbPrivPartOptions where
  timestamp : Option KerberosTime
  usec : Option ℤ
  seqNumber : Option UInt32
  senderAddress : HostAddress
  recipientAddress : Option HostAddress
  deriving DecidableEq

def buildEncKrbPrivPart (userData : Bytes) (options : EncKrbPrivPartOptions) : EncKrbPrivPart where
  userData := userData
  timestamp := options.timestamp
  usec := options.usec
  seqNumber := options.seqNumber
  senderAddress := options.senderAddress
  recipientAddress := options.recipientAddress

def validateKrbPriv (krbPriv : KrbPriv) : Except EncPartError Unit := do
  validateInteger "pvno" krbPriv.pvno krb5Pvno
  validateInteger "msg-type" krbPriv.msgType krbPrivMsgType

def decodeKrbPriv (bytes : Bytes) : Except EncPartError KrbPriv := do
  let krbPriv ← decode R.krbPriv "KRB-PRIV" bytes
  validateKrbPriv krbPriv
  return krbPriv

def encodeKrbPriv (krbPriv : KrbPriv) : Except EncPartError Bytes := encode R.krbPriv "KRB-PRIV" krbPriv

def decodeEncKrbPrivPart (bytes : Bytes) : Except EncPartError EncKrbPrivPart :=
  decode R.encKrbPrivPart "EncKrbPrivPart" bytes

def decryptKrbPrivEncPart (krbPriv : KrbPriv) (key : EncryptionKey) :
    Except EncPartError EncKrbPrivPart := do
  let plaintext ← decryptData P krbPriv.encPart key krbPrivEncpartUsage
  decodeEncKrbPrivPart R (Der.trimZeroPaddedDer plaintext)

def buildKrbPrivWithConfounder (userData : Bytes) (options : EncKrbPrivPartOptions)
    (key : EncryptionKey) (kvno : Option UInt32) (confounder : Bytes) : Except EncPartError KrbPriv := do
  let plaintext ← encode R.encKrbPrivPart "EncKrbPrivPart" (buildEncKrbPrivPart userData options)
  let encPart ← encryptData P plaintext key kvno krbPrivEncpartUsage confounder
  return { pvno := krb5Pvno.toInt, msgType := krbPrivMsgType.toInt, encPart }

theorem buildKrbPrivWithConfounder_eq_ok {userData : Bytes} {options : EncKrbPrivPartOptions}
    {key : EncryptionKey} {kvno : Option UInt32} {confounder : Bytes} {krbPriv : KrbPriv}
    (h : buildKrbPrivWithConfounder P R userData options key kvno confounder = .ok krbPriv) :
    ∃ plaintext data, R.encKrbPrivPart.encode (buildEncKrbPrivPart userData options) = .ok plaintext ∧
      encryptData P plaintext key kvno krbPrivEncpartUsage confounder = .ok data ∧
      krbPriv = ⟨krb5Pvno.toInt, krbPrivMsgType.toInt, data⟩ := by
  simp only [buildKrbPrivWithConfounder, encode, bind_eq_ok, mapError_eq_ok, pure_eq_ok,
    Except.ok.injEq] at h
  obtain ⟨plaintext, hp, data, hd, rfl⟩ := h
  exact ⟨plaintext, data, hp, hd, rfl⟩

end KrbPriv

section KrbCred

def decodeEncKrbCredPart (bytes : Bytes) : Except EncPartError EncKrbCredPart :=
  decode R.encKrbCredPart "EncKrbCredPart" bytes

/-- Like the AP-REP helper this hands the plaintext to the decoder untrimmed. -/
def decryptKrbCredEncPart (krbCred : KrbCred) (key : EncryptionKey) :
    Except EncPartError EncKrbCredPart := do
  let plaintext ← decryptData P krbCred.encPart key krbCredEncpartUsage
  decodeEncKrbCredPart R plaintext

end KrbCred

end Messages

section ApRepCheck

structure VerifiedApRep where
  ctime : SystemTime
  cusec : UInt32
  authenticatorTime : SystemTime
  subkey : Option EncryptionKey
  sequenceNumber : Option UInt32
  deriving DecidableEq

/-- The errors that the services, the initiators and the password change give the same
check. -/
structure ApRepErrors (ε : Type) where
  apRepError : EncPartError → ε
  timeOverflow : ε
  integerOutOfRange : String → String → ε
  timestampMismatch : SystemTime → SystemTime → ε

variable {ε : Type} (P : Primitives) (R : Rasn) (errors : ApRepErrors ε)

/-- The reply has to carry the times that its AP-REQ was built with, exactly. -/
def checkApRep (apRep : ApRep) (sessionKey : EncryptionKey) (authenticatorCtime : SystemTime)
    (authenticatorCusec : UInt32) (authenticatorTime : SystemTime) : Except ε VerifiedApRep := do
  let encPart ← (decryptApRepEncPart P R apRep sessionKey).mapError errors.apRepError
  let ctime ← okOr (systemTimeFromKerberosTime encPart.ctime) errors.timeOverflow
  let cusec ← okOr (integerToU32 encPart.cusec)
    (errors.integerOutOfRange "ap-rep.cusec" (toString encPart.cusec))
  let time ← okOr (ctime.checkedAdd (Duration.fromMicros cusec.toNat)) errors.timeOverflow
  ensure (ctime = authenticatorCtime ∧ cusec = authenticatorCusec)
    (errors.timestampMismatch authenticatorTime time)
  return {
    ctime
    cusec
    authenticatorTime := time
    subkey := encPart.subkey
    sequenceNumber := encPart.seqNumber }

def EncApRepPart.Echoes (encPart : EncApRepPart) (ctime : SystemTime) (cusec : UInt32) : Prop :=
  systemTimeFromKerberosTime encPart.ctime = some ctime ∧ integerToU32 encPart.cusec = some cusec

theorem checkApRep_eq_ok {apRep : ApRep} {sessionKey : EncryptionKey} {ctime : SystemTime}
    {cusec : UInt32} {time : SystemTime} {verified : VerifiedApRep} :
    checkApRep P R errors apRep sessionKey ctime cusec time = .ok verified ↔
      ∃ encPart, decryptApRepEncPart P R apRep sessionKey = .ok encPart ∧ encPart.Echoes ctime cusec ∧
        ctime.checkedAdd (Duration.fromMicros cusec.toNat) = some verified.authenticatorTime ∧
        verified = ⟨ctime, cusec, verified.authenticatorTime, encPart.subkey, encPart.seqNumber⟩ := by
  simp only [checkApRep, EncApRepPart.Echoes, bind_eq_ok, mapError_eq_ok, okOr_eq_ok, ensure_eq_ok,
    pure_eq_ok, Except.ok.injEq]
  constructor
  · intro h
    obtain ⟨encPart, hd, t, ht, u, hu, t', ht', _, ⟨rfl, rfl⟩, rfl⟩ := h
    exact ⟨encPart, hd, ⟨ht, hu⟩, ht', rfl⟩
  · intro h
    obtain ⟨encPart, hd, ⟨ht, hu⟩, ht', hv⟩ := h
    exact ⟨encPart, hd, ctime, ht, cusec, hu, _, ht', (), ⟨rfl, rfl⟩, hv.symm⟩

end ApRepCheck

end Rskrb5
