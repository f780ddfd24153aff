import Rskrb5.Crypto.StringToKey
import Rskrb5.Kadmin
import Rskrb5.Keytab
import Rskrb5.KrbCred
import Std.Data.ExtTreeMap

namespace Rskrb5

open Lib.Results Crypto EncParts

def u32FromBeBytes (bytes : Bytes) : UInt32 := UInt32.ofNat (beNat bytes)

/-- `str::eq_ignore_ascii_case`. -/
def eqIgnoreAsciiCase (a b : String) : Bool := a.toLower = b.toLower

structure LibDefaults where
  canonicalize : Bool
  defaultTgsEnctypeIds : List Int32
  defaultTktEnctypeIds : List Int32
  kdcDefaultOptions : UInt32
  renewLifetime : ℕ
  ticketLifetime : ℕ

structure Config where
  libdefaults : LibDefaults
  domainRealm : Std.ExtTreeMap String String

def trimEndDots (domainName : String) : String :=
  String.ofList (domainName.toList.reverse.dropWhile (· = '.')).reverse

def Config.resolveRealm (config : Config) (domainName : String) : Option String :=
  let domainName := trimEndDots domainName
  match config.domainRealm[domainName]? with
  | some realm => some realm
  | none =>
    (domainName.splitOn ".").tails.tail.findSome? fun parts ↦
      if parts = [] then none else config.domainRealm["." ++ ".".intercalate parts]?

namespace Client

def krbNtPrincipal : Int32 := 1
def krbNtSrvInst : Int32 := 2
def defaultTicketLifetime : ℕ := Duration.fromSecs (24 * 60 * 60)
def defaultTktEnctypes : List Int32 := [20, 19, 18, 17]
def defaultTgsEnctypes : List Int32 := defaultTktEnctypes
def sessionRefreshDivisor : ℕ := 6
def paTgsReq : Int32 := 1
def paEncTimestampType : Int32 := 2
def paEtypeInfo : Int32 := 11
def paEtypeInfo2 : Int32 := 19
def paFxFast : Int32 := 136
def paReqEncPaRep : Int32 := 149
def kdcErrPreauthRequired : Int32 := 25
def asReqPaEncTimestampUsage : UInt32 := 1
def asReqChecksumUsage : UInt32 := 56
def tgsReqAuthenticatorChecksumUsage : UInt32 := 6
def tgsReqAuthenticatorUsage : UInt32 := 7
def ticketFlagEncPaRep : UInt32 := 0x00010000
def kdcOptionRenewable : UInt32 := 0x00800000
def kdcOptionCanonicalize : UInt32 := 0x00010000
def kdcOptionRenew : UInt32 := 0x00000002
def krbAsReqMsgType : Int32 := 10
def krbTgsReqMsgType : Int32 := 12

/-- What a KDC issued: a ticket with its session key, names and times. -/
structure AsRepSession where
  client : Principal
  service : Principal
  sessionKey : EncryptionKey
  ticket : Bytes
  ticketFlags : Vector UInt8 4
  authTime : SystemTime
  startTime : SystemTime
  endTime : SystemTime
  renewTill : Option SystemTime
  keyExpiration : Option SystemTime
  deriving DecidableEq

abbrev TgsRepSession := AsRepSession

structure BuiltAsReq where
  message : KdcReq
  der : Bytes
  client : Principal
  service : Principal
  nonce : UInt32
  deriving DecidableEq

structure BuiltTgsReq where
  message : KdcReq
  der : Bytes
  client : Principal
  service : Principal
  kdcRealm : String
  nonce : UInt32
  deriving DecidableEq

structure BuiltApReq where
  message : ApReq
  der : Bytes
  client : Principal
  service : Principal
  sessionKey : EncryptionKey
  authenticatorCtime : SystemTime
  authenticatorCusec : UInt32
  authenticatorTime : SystemTime
  sequenceNumber : Option UInt32
  subkey : Option EncryptionKey
  deriving DecidableEq

structure PreauthKeyInfo where
  etype : Int32
  salt : Option String
  s2kparams : Option Bytes
  deriving DecidableEq

structure KdcError where
  ctime : Option SystemTime
  cusec : Option UInt32
  stime : SystemTime
  susec : UInt32
  errorCode : Int32
  text : Option String
  client : Option Principal
  service : Principal
  eData : Option Bytes
  methodData : List PaData
  preauthKeyInfo : List PreauthKeyInfo
  deriving DecidableEq

/-- The errors of client exchanges. The failures of the network are one error here. -/
inductive Error
  | decode (target message : String)
  | encode (target message : String)
  | invalidString
  | invalidKerberosString (message : String)
  | invalidMessage (field : String) (expected : Int32) (actual : String)
  | invalidUnsignedInteger (field actual : String)
  | emptyEtypes
  | unsupportedEtype (etype : Int32)
  | keyEtypeMismatch (keyEtype encryptedDataEtype : Int32)
  | apRepKeyEtypeMismatch (keyEtype encryptedDataEtype : Int32)
  | apReqKeyEtypeMismatch (keyEtype encryptedDataEtype : Int32)
  | ticketKeyEtypeMismatch (keyEtype encryptedDataEtype : Int32)
  | missingKpasswdApRep
  | kpasswdApRepTimestampMismatch (expected actual : SystemTime)
  | clientPrincipalMismatch (expected actual : String)
  | servicePrincipalMismatch (expected actual : String)
  | nonceMismatch (expected actual : UInt32)
  | invalidFastNegotiationResponse
  | unsupportedChecksumType (checksumType : Int32)
  | fastNegotiationChecksumMismatch
  | maxReferralDepth (max : ℕ)
  | invalidReferralTicket (service : String)
  | invalidTgtSession (service : String)
  | noClientCredentials
  | noTgtSession
  | crypto (source : Crypto.Error)
  | keytab (source : Keytab.Error)
  | kadmin (source : Kadmin.Error)
  | message (target text : String)
  | random (message : String)
  | timeOverflow
  | kdc (error : KdcError)
  | noSupportedPreauthEtype (requested : List Int32)
  | transport (message : String)
  deriving DecidableEq

def partError (keyEtypeMismatch : Int32 → Int32 → Error) : EncPartError → Error
  | .decode target message => .decode target message
  | .encode target message => .encode target message
  | .invalidMessage field expected actual => .invalidMessage field expected actual
  | .unsupportedEtype etype => .unsupportedEtype etype
  | .keyEtypeMismatch keyEtype encryptedDataEtype => keyEtypeMismatch keyEtype encryptedDataEtype
  | .crypto source => .crypto source

def apReqError : EncPartError → Error := partError .apReqKeyEtypeMismatch
def ticketError : EncPartError → Error := partError .ticketKeyEtypeMismatch
def kdcRepError : EncPartError → Error := partError .keyEtypeMismatch
def apRepError : EncPartError → Error := partError .apRepKeyEtypeMismatch

def krbErrorError : KrbError.Error → Error
  | .decode target message => .decode target message
  | .encode target message => .encode target message
  | .invalidMessage field expected actual => .invalidMessage field expected actual
  | .integerOutOfRange field value => .invalidUnsignedInteger field value
  | .timeOverflow => .timeOverflow
  | other => .decode "KRB-ERROR" other.text

section Options

structure AsReqOptions where
  now : SystemTime
  ticketLifetime : ℕ
  renewLifetime : Option ℕ
  nonce : UInt32
  etypes : List Int32
  kdcOptionBits : UInt32
  padata : List PaData
  assumePreauthentication : Bool
  fastNegotiation : Bool
  deriving DecidableEq

structure TgsReqOptions where
  now : SystemTime
  ticketLifetime : ℕ
  renewLifetime : Option ℕ
  nonce : UInt32
  etypes : List Int32
  kdcOptionBits : UInt32
  padata : List PaData
  additionalTickets : List Ticket
  deriving DecidableEq

structure ApReqOptions where
  apOptionBits : UInt32
  checksum : Option Checksum
  subkey : Option EncryptionKey
  sequenceNumber : Option UInt32
  deriving DecidableEq

def AsReqOptions.new (now : SystemTime) (nonce : UInt32) : AsReqOptions where
  now := now
  ticketLifetime := defaultTicketLifetime
  renewLifetime := none
  nonce := nonce
  etypes := defaultTktEnctypes
  kdcOptionBits := 0
  padata := []
  assumePreauthentication := false
  fastNegotiation := true

def TgsReqOptions.new (now : SystemTime) (nonce : UInt32) : TgsReqOptions where
  now := now
  ticketLifetime := defaultTicketLifetime
  renewLifetime := none
  nonce := nonce
  etypes := defaultTgsEnctypes
  kdcOptionBits := 0
  padata := []
  additionalTickets := []

def ApReqOptions.new : ApReqOptions where
  apOptionBits := 0
  checksum := none
  subkey := none
  sequenceNumber := none

def configuredRenewLifetime (defaults : LibDefaults) : Option ℕ :=
  if defaults.renewLifetime ≠ 0 then some defaults.renewLifetime else none

def configuredEtypes (configured fallback : List Int32) : List Int32 :=
  if configured.isEmpty then fallback else configured

def configuredKdcOptionBits (defaults : LibDefaults) : UInt32 :=
  if defaults.canonicalize then defaults.kdcDefaultOptions ||| kdcOptionCanonicalize
  else defaults.kdcDefaultOptions

def AsReqOptions.fromLibdefaults (now : SystemTime) (nonce : UInt32) (defaults : LibDefaults) :
    AsReqOptions :=
  { AsReqOptions.new now nonce with
    ticketLifetime := defaults.ticketLifetime
    renewLifetime := configuredRenewLifetime defaults
    etypes := configuredEtypes defaults.defaultTktEnctypeIds defaultTktEnctypes
    kdcOptionBits := configuredKdcOptionBits defaults }

def TgsReqOptions.fromLibdefaults (now : SystemTime) (nonce : UInt32) (defaults : LibDefaults) :
    TgsReqOptions :=
  { TgsReqOptions.new now nonce with
    ticketLifetime := defaults.ticketLifetime
    renewLifetime := configuredRenewLifetime defaults
    etypes := configuredEtypes defaults.defaultTgsEnctypeIds defaultTgsEnctypes
    kdcOptionBits := configuredKdcOptionBits defaults }

def renewalKdcOptionBits (bits : UInt32) : UInt32 := bits ||| kdcOptionRenewable ||| kdcOptionRenew

def TgsReqOptions.withRenewal (options : TgsReqOptions) : TgsReqOptions :=
  { options with kdcOptionBits := renewalKdcOptionBits options.kdcOptionBits }

def requestKdcOptionBits (bits : UInt32) (renewLifetime : Option ℕ) : UInt32 :=
  if renewLifetime.isSome then bits ||| kdcOptionRenewable else bits

def kdcOptionsFromBits (bits : UInt32) : KerberosFlags := flagsFromSlice (u32ToBeBytes bits)

def apOptionsFromBits (bits : UInt32) : KerberosFlags := flagsFromSlice (u32ToBeBytes bits)

/-- The first four bytes of a bit string, with zeros where it is shorter. -/
def ticketFlagsToBytes (flags : KerberosFlags) : Vector UInt8 4 :=
  Vector.ofFn fun i ↦ (List.range 8).foldl
    (fun byte j ↦ byte <<< 1 ||| if flags[8 * i.val + j]?.getD false then 1 else 0) 0

def ticketFlagsContainBits (flags : KerberosFlags) (bits : UInt32) : Bool :=
  u32FromBeBytes (ticketFlagsToBytes flags).toList &&& bits = bits

end Options

section Principals

def tgtService (realm : String) : Principal := ⟨realm, krbNtSrvInst, ["krbtgt", realm]⟩

/-- Name types play no part in a comparison. -/
def principalMatches (left right : Principal) : Bool :=
  left.realm = right.realm ∧ left.components = right.components

def isTgtPrincipal (principal : Principal) : Bool :=
  principal.components.head?.any (eqIgnoreAsciiCase · "krbtgt") && 2 ≤ principal.components.length

def tgtRealm (session : AsRepSession) : Option String :=
  if isTgtPrincipal session.service then session.service.components.getLast? else none

def serviceRealm (config : Config) (service : Principal) : Option String :=
  service.components.getLast?.bind config.resolveRealm

theorem principalMatches_iff {left right : Principal} : principalMatches left right = true ↔
    left.realm = right.realm ∧ left.components = right.components := by
  simp [principalMatches]

theorem tgtRealm_of_matches {session : AsRepSession} {realm : String}
    (h : principalMatches session.service (tgtService realm) = true) : tgtRealm session = some realm := by
  obtain ⟨-, hc⟩ := principalMatches_iff.mp h
  simp [tgtRealm, isTgtPrincipal, hc, tgtService, eqIgnoreAsciiCase]

end Principals

end Client

end Rskrb5
