import Rskrb5.Client.Authenticators

namespace Rskrb5

structure PaForUser where
  userName : PrincipalName
  userRealm : Realm
  cksum : Checksum
  authPackage : KerberosString
  deriving DecidableEq

/-- The coders of the padata that a service adds to its requests. -/
structure DelegationCoders where
  paForUser : Coder PaForUser

structure DelegationCoders.Lawful (C : DelegationCoders) : Prop where
  paForUser : C.paForUser.Lawful fun _ ↦ True

namespace Client

open Lib.Results Lib.Programs Crypto EncParts

def paForUserType : Int32 := 129
def paForUserChecksumUsage : UInt32 := 17
def kdcOptionCnameInAddlTkt : UInt32 := 0x00020000

variable (P : Primitives) (R : Rasn) (C : DelegationCoders)

section Padata

def s4uByteArray (user : Principal) (authPackage : String) : Bytes :=
  (u32ToBeBytes user.nameType.toUInt32).reverse ++ user.components.flatMap asBytes ++ asBytes user.realm ++
    asBytes authPackage

def paForUserPadataWithAuthPackage (user : Principal) (tgtSessionKey : EncryptionKey) (authPackage : String) :
    Except Error PaData := do
  let s4uBytes := s4uByteArray user authPackage
  let checksum := kerbChecksumHmacMd5 P tgtSessionKey.value s4uBytes paForUserChecksumUsage
  let userName ← principalToRasn R user
  let userRealm ← kerberosString R user.realm
  let authPackage ← kerberosString R authPackage
  let value ← (C.paForUser.encode ⟨userName, userRealm, ⟨Rc4HmacEtype.checksumTypeId, checksum⟩,
    authPackage⟩).mapError (.message "PA-FOR-USER")
  return ⟨paForUserType, value⟩

def paForUserPadata (user : Principal) (tgtSessionKey : EncryptionKey) : Except Error PaData :=
  paForUserPadataWithAuthPackage P R C user tgtSessionKey "Kerberos"

end Padata

section Requests

/-- The service asks for a ticket to itself, in the name of the user. -/
def buildS4u2selfReqWithConfounder (serviceTgt : AsRepSession) (user : Principal) (options : TgsReqOptions)
    (timestamp : SystemTime) (cusec : UInt32) (confounder : Bytes) : Except Error BuiltTgsReq := do
  let kept := options.padata.filter fun padata ↦ padata.paType ≠ paForUserType
  let forUser ← paForUserPadata P R C user serviceTgt.sessionKey
  let service := serviceTgt.client
  let request ← buildTgsReqForRealmWithConfounder P R serviceTgt service.realm service
    { options with padata := kept ++ [forUser] } timestamp cusec confounder
  return { request with client := user }

def buildS4u2proxyReqWithConfounder (serviceTgt : AsRepSession) (evidenceTicket : TgsRepSession)
    (targetService : Principal) (options : TgsReqOptions) (timestamp : SystemTime) (cusec : UInt32)
    (confounder : Bytes) : Except Error BuiltTgsReq := do
  ensure (principalMatches evidenceTicket.service serviceTgt.client)
    (.servicePrincipalMismatch serviceTgt.client.name evidenceTicket.service.name)
  let ticket ← (decodeTicket R evidenceTicket.ticket).mapError ticketError
  let request ← buildTgsReqForRealmWithConfounder P R serviceTgt targetService.realm targetService
    { options with
      kdcOptionBits := options.kdcOptionBits ||| kdcOptionCnameInAddlTkt
      additionalTickets := options.additionalTickets ++ [ticket] } timestamp cusec confounder
  return { request with client := evidenceTicket.client }

end Requests

section Exchanges

variable {ω : Type} (W : World ω)

def buildS4u2selfReq (serviceTgt : AsRepSession) (user : Principal) (options : TgsReqOptions) :
    Program ω Error BuiltTgsReq := do
  let (timestamp, cusec) ← currentPreauthTime W
  let confounder ← confounderFor W serviceTgt.sessionKey
  buildS4u2selfReqWithConfounder P R C serviceTgt user options timestamp cusec confounder

def buildS4u2proxyReq (serviceTgt : AsRepSession) (evidenceTicket : TgsRepSession) (targetService : Principal)
    (options : TgsReqOptions) : Program ω Error BuiltTgsReq := do
  let (timestamp, cusec) ← currentPreauthTime W
  let confounder ← confounderFor W serviceTgt.sessionKey
  buildS4u2proxyReqWithConfounder P R serviceTgt evidenceTicket targetService options timestamp cusec confounder

def s4u2selfWithConfig (serviceTgt : AsRepSession) (user : Principal) (options : TgsReqOptions) :
    Program ω Error TgsRepSession := do
  let request ← buildS4u2selfReq P R C W serviceTgt user options
  exchangeTgsReqWithConfig W P R request serviceTgt.sessionKey

def s4u2proxyWithConfig (serviceTgt : AsRepSession) (evidenceTicket : TgsRepSession) (targetService : Principal)
    (options : TgsReqOptions) : Program ω Error TgsRepSession := do
  let request ← buildS4u2proxyReq P R W serviceTgt evidenceTicket targetService options
  exchangeTgsReqWithConfig W P R request serviceTgt.sessionKey

namespace TokioClient

def s4u2selfWithOptions (user : Principal) (options : TgsReqOptions) : ClientProgram ω TgsRepSession := do
  let serviceTgt ← ensureTgt W P R
  outside (s4u2selfWithConfig P R C W serviceTgt user options)

def s4u2self (user : Principal) : ClientProgram ω TgsRepSession := do
  let options ← tgsReqOptions W
  s4u2selfWithOptions P R C W user options

def s4u2proxyWithOptions (evidenceTicket : TgsRepSession) (targetService : Principal) (options : TgsReqOptions) :
    ClientProgram ω TgsRepSession := do
  let serviceTgt ← ensureTgt W P R
  outside (s4u2proxyWithConfig P R W serviceTgt evidenceTicket targetService options)

def s4u2proxy (evidenceTicket : TgsRepSession) (targetService : Principal) : ClientProgram ω TgsRepSession := do
  let options ← tgsReqOptions W
  s4u2proxyWithOptions P R W evidenceTicket targetService options

end TokioClient

end Exchanges

end Client

end Rskrb5
