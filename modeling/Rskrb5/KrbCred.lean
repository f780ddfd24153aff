import Rskrb5.EncParts

namespace Rskrb5

open Lib.Results Crypto EncParts

namespace CCache

structure CredentialTimes where
  authTime : UInt32
  startTime : UInt32
  endTime : UInt32
  renewTill : UInt32
  deriving DecidableEq

structure AuthorizationDataEntry where
  adType : Int32
  data : Bytes
  deriving DecidableEq

structure Credential where
  client : Principal
  server : Principal
  key : EncryptionKey
  times : CredentialTimes
  isSkey : Bool
  ticketFlags : Vector UInt8 4
  addresses : List HostAddress
  authData : List AuthorizationDataEntry
  ticket : Bytes
  secondTicket : Bytes
  deriving DecidableEq

end CCache

def flagsFromSlice (bytes : Bytes) : KerberosFlags :=
  bytes.flatMap fun byte ↦ (List.range 8).map fun i ↦ (byte >>> UInt8.ofNat (7 - i)) &&& 1 = 1

inductive KrbCredError
  | part (source : EncPartError)
  | ticketKeyEtypeMismatch (keyEtype encryptedDataEtype : Int32)
  | invalidKerberosString (message : String)
  | timeOutOfRange
  | unsupportedCredentialAuthData
  | unsupportedSecondTicket
  | invalidString
  | missingKrbCredInfoField (field : String)
  | ticketInfoCountMismatch (ticketCount infoCount : ℕ)
  deriving DecidableEq

namespace KrbCred

def ticketError : EncPartError → KrbCredError
  | .keyEtypeMismatch keyEtype encryptedDataEtype => .ticketKeyEtypeMismatch keyEtype encryptedDataEtype
  | e => .part e

variable (P : Primitives) (R : Rasn)

def kerberosTimeFromU32 (seconds : UInt32) : Except KrbCredError KerberosTime :=
  okOr (KerberosTime.fromTimestamp seconds.toNat 0) .timeOutOfRange

def ccacheCredentialToKrbCredInfo (credential : CCache.Credential) : Except KrbCredError KrbCredInfo := do
  let prealm ← (kerberosString R credential.client.realm).mapError .invalidKerberosString
  let pname ← (principalName R credential.client).mapError .invalidKerberosString
  let authTime ← kerberosTimeFromU32 credential.times.authTime
  let startTime ← kerberosTimeFromU32 credential.times.startTime
  let endTime ← kerberosTimeFromU32 credential.times.endTime
  let renewTill ← kerberosTimeFromU32 credential.times.renewTill
  let srealm ← (kerberosString R credential.server.realm).mapError .invalidKerberosString
  let sname ← (principalName R credential.server).mapError .invalidKerberosString
  return {
    key := credential.key
    prealm := some prealm
    pname := some pname
    flags := some (flagsFromSlice credential.ticketFlags.toList)
    authTime := some authTime
    startTime := some startTime
    endTime := some endTime
    renewTill := some renewTill
    srealm := some srealm
    sname := some sname
    caddr := if credential.addresses.isEmpty then none else some credential.addresses }

def ccacheCredentialToParts (credential : CCache.Credential) :
    Except KrbCredError (Ticket × KrbCredInfo) := do
  ensure (credential.authData = []) .unsupportedCredentialAuthData
  ensure (credential.secondTicket = []) .unsupportedSecondTicket
  let ticket ← (decodeTicket R credential.ticket).mapError ticketError
  let info ← ccacheCredentialToKrbCredInfo R credential
  return (ticket, info)

def ccacheCredentialsToKrbCredParts (credentials : List CCache.Credential) :
    Except KrbCredError (List Ticket × EncKrbCredPart) := do
  let parts ← credentials.mapM (ccacheCredentialToParts R)
  return (parts.map Prod.fst, {
    ticketInfo := parts.map Prod.snd
    nonce := none
    timestamp := none
    usec := none
    senderAddress := none
    recipientAddress := none })

def encryptCcacheCredentialsToKrbCredWithConfounder (credentials : List CCache.Credential)
    (key : EncryptionKey) (confounder : Bytes) : Except KrbCredError KrbCred := do
  let (tickets, encPart) ← ccacheCredentialsToKrbCredParts R credentials
  let plaintext ← (encode R.encKrbCredPart "EncKrbCredPart" encPart).mapError .part
  let encPart ← (encryptData P plaintext key none krbCredEncpartUsage confounder).mapError .part
  return { pvno := krb5Pvno.toInt, msgType := krbCredMsgType.toInt, tickets, encPart }

theorem encryptCcacheCredentials_eq_ok {credentials : List CCache.Credential} {key : EncryptionKey}
    {confounder : Bytes} {krbCred : KrbCred} {tickets : List Ticket} {encPart : EncKrbCredPart}
    (hp : ccacheCredentialsToKrbCredParts R credentials = .ok (tickets, encPart))
    (h : encryptCcacheCredentialsToKrbCredWithConfounder P R credentials key confounder = .ok krbCred) :
    ∃ plaintext data, R.encKrbCredPart.encode encPart = .ok plaintext ∧
      encryptData P plaintext key none krbCredEncpartUsage confounder = .ok data ∧
      krbCred = ⟨krb5Pvno.toInt, krbCredMsgType.toInt, tickets, data⟩ := by
  simp only [encryptCcacheCredentialsToKrbCredWithConfounder, hp, ok_bind, encode, bind_eq_ok,
    mapError_eq_ok, pure_eq_ok, Except.ok.injEq] at h
  obtain ⟨plaintext, he, data, hd, rfl⟩ := h
  exact ⟨plaintext, data, he, hd, rfl⟩

end KrbCred

end Rskrb5
