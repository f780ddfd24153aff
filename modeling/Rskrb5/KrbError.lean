import Rskrb5.EncParts

namespace Rskrb5

open Lib.Results EncParts

namespace KrbError

def krbErrorMsgType : Int32 := 30

/-- The errors of the KRB-ERROR helpers. The text of a UTF-8 error is left out. -/
inductive Error
  | decode (target message : String)
  | encode (target message : String)
  | invalidString
  | integerOutOfRange (field value : String)
  | invalidMessage (field : String) (expected : Int32) (actual : String)
  | timeOverflow
  deriving DecidableEq

def Error.text : Error → String
  | decode target message => s!"failed to decode {target}: {message}"
  | encode target message => s!"failed to encode {target}: {message}"
  | invalidString => "invalid Kerberos string"
  | integerOutOfRange field value => s!"integer field {field} is out of range: {value}"
  | invalidMessage field expected actual => s!"invalid {field}: expected {expected}, got {actual}"
  | timeOverflow => "Kerberos time overflows SystemTime"

end KrbError

structure KrbErrorInfo where
  ctime : Option SystemTime
  cusec : Option UInt32
  stime : SystemTime
  susec : UInt32
  errorCode : Int32
  client : Option Principal
  service : Principal
  eText : Option String
  eData : Option Bytes
  deriving DecidableEq

namespace KrbError

def validateInteger (field : String) (actual : ℤ) (expected : Int32) : Except Error Unit :=
  ensure (actual = expected.toInt) (.invalidMessage field expected (toString actual))

def checkedSystemTime (time : KerberosTime) : Except Error SystemTime :=
  okOr (systemTimeFromKerberosTime time) .timeOverflow

def checkedU32 (field : String) (value : ℤ) : Except Error UInt32 :=
  okOr (integerToU32 value) (.integerOutOfRange field (toString value))

def clientPrincipal (error : KrbError) : Except Error (Option Principal) :=
  match error.crealm, error.cname with
  | some realm, some name => (okOr (principalFromParts realm name) .invalidString).map some
  | _, _ => .ok none

def krbErrorInfo (error : KrbError) : Except Error KrbErrorInfo := do
  validateInteger "pvno" error.pvno krb5Pvno
  validateInteger "msg-type" error.msgType krbErrorMsgType
  let client ← clientPrincipal error
  let ctime ← error.ctime.mapM checkedSystemTime
  let cusec ← error.cusec.mapM (checkedU32 "cusec")
  let stime ← checkedSystemTime error.stime
  let susec ← checkedU32 "susec" error.susec
  let service ← okOr (principalFromParts error.realm error.sname) .invalidString
  let eText ← error.eText.mapM fun text ↦ okOr (kerberosStringToString text) .invalidString
  return { ctime, cusec, stime, susec, errorCode := error.errorCode, client, service, eText,
           eData := error.eData }

variable (R : Rasn)

def decodeKrbError (bytes : Bytes) : Except Error KrbError := do
  let krbError ← (R.krbError.decode bytes).mapError (.decode "KRB-ERROR")
  let _ ← krbErrorInfo krbError
  return krbError

def encodeKrbError (krbError : KrbError) : Except Error Bytes :=
  (R.krbError.encode krbError).mapError (.encode "KRB-ERROR")

def decodeMethodData (bytes : Bytes) : Except Error (List PaData) :=
  (R.methodData.decode bytes).mapError (.decode "METHOD-DATA")

def preauthMethodData (krbError : KrbError) (preauthRequiredErrorCode : Int32) :
    Except Error (List PaData) := do
  let info ← krbErrorInfo krbError
  if info.errorCode ≠ preauthRequiredErrorCode then return []
  else return (← info.eData.mapM (decodeMethodData R)).getD []

end KrbError

end Rskrb5
