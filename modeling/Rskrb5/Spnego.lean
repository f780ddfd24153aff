import Rskrb5.Client
import Rskrb5.Spnego.Der

namespace Rskrb5.Spnego

open Lib.Results Lib.Readers

inductive NegState
  | acceptCompleted
  | acceptIncomplete
  | reject
  | requestMic
  deriving DecidableEq

namespace NegState

def value : NegState → UInt32
  | acceptCompleted => 0
  | acceptIncomplete => 1
  | reject => 2
  | requestMic => 3

def fromValue : UInt32 → Except Error NegState
  | 0 => .ok acceptCompleted
  | 1 => .ok acceptIncomplete
  | 2 => .ok reject
  | 3 => .ok requestMic
  | actual => .error (.invalidNegState actual)

end NegState

structure NegTokenInit where
  mechTypes : List ObjectIdentifier
  reqFlags : Option Bytes
  mechToken : Option Bytes
  mechListMic : Option Bytes
  deriving DecidableEq

structure NegTokenResp where
  negState : Option NegState
  supportedMech : Option ObjectIdentifier
  responseToken : Option Bytes
  mechListMic : Option Bytes
  deriving DecidableEq

inductive NegotiationToken
  | init (token : NegTokenInit)
  | resp (token : NegTokenResp)
  deriving DecidableEq

inductive SpnegoToken
  | init (token : NegTokenInit)
  | resp (token : NegTokenResp)
  deriving DecidableEq

section Encode

def encodeExplicit (tag : UInt8) (innerDer : Bytes) : Bytes := encodeTlv tag innerDer

/-- An optional field is left out when it is absent. -/
def encodeOptional {α : Type} (tag : UInt8) (encode : α → Bytes) : Option α → Bytes
  | none => []
  | some a => encodeExplicit tag (encode a)

def NegTokenInit.encode (token : NegTokenInit) : Except Error Bytes := do
  ensure (token.mechTypes ≠ []) .missingMechTypes
  let mechTypes ← writeAll encodeOid token.mechTypes
  let fields := encodeExplicit tagContext0 (encodeTlv tagSequence mechTypes)
    ++ encodeOptional tagContext1 (encodeTlv tagBitString) token.reqFlags
    ++ encodeOptional tagContext2 (encodeTlv tagOctetString) token.mechToken
    ++ encodeOptional tagContext3 (encodeTlv tagOctetString) token.mechListMic
  return encodeExplicit tagContext0 (encodeTlv tagSequence fields)

def NegTokenResp.encode (token : NegTokenResp) : Except Error Bytes := do
  let supportedMech ← token.supportedMech.mapM encodeOid
  let fields :=
    encodeOptional tagContext0 (fun state : NegState ↦ encodeTlv tagEnumerated (encodeU32 state.value))
      token.negState
    ++ encodeOptional tagContext1 id supportedMech
    ++ encodeOptional tagContext2 (encodeTlv tagOctetString) token.responseToken
    ++ encodeOptional tagContext3 (encodeTlv tagOctetString) token.mechListMic
  return encodeExplicit tagContext1 (encodeTlv tagSequence fields)

def SpnegoToken.encode : SpnegoToken → Except Error Bytes
  | .init token => do
    let oid ← encodeOid .spnego
    let choice ← token.encode
    return encodeTlv tagApplication0 (oid ++ choice)
  | .resp token => token.encode

end Encode

section Decode

/-- What the loop over the fields of a NegTokenInit has seen so far. -/
structure InitFields where
  mechTypes : Option (List ObjectIdentifier) := none
  reqFlags : Option Bytes := none
  mechToken : Option Bytes := none
  mechListMic : Option Bytes := none
  deriving DecidableEq

def readOids (bytes : Bytes) : Except Error (List ObjectIdentifier) := do
  let (oids, _) ← readInput (untilEnd readOid) bytes
  return oids

def InitFields.set (fields : InitFields) (field : Tlv) : Except Error InitFields :=
  if field.tag = tagContext0 then do
    let sequence ← readSingleTlv field.value tagSequence
    let oids ← readOids sequence.value
    return { fields with mechTypes := some oids }
  else if field.tag = tagContext1 then do
    let flags ← readSingleTlv field.value tagBitString
    return { fields with reqFlags := some flags.value }
  else if field.tag = tagContext2 then do
    let token ← readSingleTlv field.value tagOctetString
    return { fields with mechToken := some token.value }
  else if field.tag = tagContext3 then do
    let mic ← readSingleTlv field.value tagOctetString
    return { fields with mechListMic := some mic.value }
  else .error (.unexpectedTag tagContext0 field.tag)

def NegTokenResp.set (fields : NegTokenResp) (field : Tlv) : Except Error NegTokenResp :=
  if field.tag = tagContext0 then do
    let enumerated ← readSingleTlv field.value tagEnumerated
    let value ← decodeU32 enumerated.value
    let state ← NegState.fromValue value
    return { fields with negState := some state }
  else if field.tag = tagContext1 then do
    let mech ← readSingleTlv field.value tagObjectIdentifier
    let oid ← decodeOidTlv mech
    return { fields with supportedMech := some oid }
  else if field.tag = tagContext2 then do
    let token ← readSingleTlv field.value tagOctetString
    return { fields with responseToken := some token.value }
  else if field.tag = tagContext3 then do
    let mic ← readSingleTlv field.value tagOctetString
    return { fields with mechListMic := some mic.value }
  else .error (.unexpectedTag tagContext0 field.tag)

section Fields

variable {σ : Type} (set : σ → Tlv → Except Error σ)

def fieldTurn (fields : σ) : DerReader (ForInStep σ) := do
  let field ← readTlv
  let fields ← set fields field
  return .yield fields

/-- The sequence of fields of a negotiation token. A field that comes again replaces the earlier one. -/
def decodeFields (start : σ) (bytes : Bytes) : Except Error σ := do
  let sequence ← readSingleTlv bytes tagSequence
  let (fields, _) ← readInput (loop hasRest (fieldTurn set) start) sequence.value
  return fields

end Fields

def decodeNegTokenInit (bytes : Bytes) : Except Error NegTokenInit := do
  let fields ← decodeFields InitFields.set {} bytes
  let mechTypes ← okOr fields.mechTypes .missingMechTypes
  ensure (mechTypes ≠ []) .missingMechTypes
  let { reqFlags, mechToken, mechListMic, .. } := fields
  return { mechTypes, reqFlags, mechToken, mechListMic }

def decodeNegTokenResp (bytes : Bytes) : Except Error NegTokenResp :=
  decodeFields NegTokenResp.set
    { negState := none, supportedMech := none, responseToken := none, mechListMic := none } bytes

def decodeNegotiationChoice (choice : Tlv) : Except Error NegotiationToken :=
  if choice.tag = tagContext0 then .init <$> decodeNegTokenInit choice.value
  else if choice.tag = tagContext1 then .resp <$> decodeNegTokenResp choice.value
  else .error (.unexpectedTag tagContext0 choice.tag)

def NegotiationToken.decode (bytes : Bytes) : Except Error NegotiationToken := do
  let choice ← readWhole bytes
  decodeNegotiationChoice choice

/-- The token behind the identifier of an initial context token. -/
def decodeFramed (bytes : Bytes) : Except Error SpnegoToken := do
  let token ← readWhole bytes
  let (oid, content) ← readInput readOid token.value
  ensure (oid = .spnego) (.unexpectedSpnegoOid oid)
  match ← NegotiationToken.decode content.rest with
  | .init token => return .init token
  | .resp _ => .error (.wrongNegotiationToken "NegTokenInit" "NegTokenResp")

def decodeBare (bytes : Bytes) : Except Error SpnegoToken := do
  match ← NegotiationToken.decode bytes with
  | .init token => return .init token
  | .resp token => return .resp token

def SpnegoToken.decode (bytes : Bytes) : Except Error SpnegoToken := do
  ensure (bytes ≠ []) .emptyInput
  if bytes.getD 0 0 = tagApplication0 then decodeFramed bytes else decodeBare bytes

end Decode

section Krb5Mech

inductive Krb5TokenId
  | apReq
  | apRep
  | krbError
  deriving DecidableEq

def Krb5TokenId.fromBytes (bytes : Bytes) : Except Error Krb5TokenId :=
  if bytes = [0x01, 0x00] then .ok apReq
  else if bytes = [0x02, 0x00] then .ok apRep
  else if bytes = [0x03, 0x00] then .ok krbError
  else .error (.unknownKrb5TokenId bytes)

structure Krb5MechToken where
  oid : ObjectIdentifier
  tokenId : Krb5TokenId
  message : Bytes
  deriving DecidableEq

def Krb5MechToken.decode (bytes : Bytes) : Except Error Krb5MechToken := do
  let token ← readWhole bytes
  expectTag token tagApplication0
  let (oid, content) ← readInput readOid token.value
  ensure (oid = .krb5) (.unsupportedMechanism oid)
  let (tokId, content) ← (takeItems (fun _ _ _ ↦ Error.truncatedDer) 2).run content
  let tokenId ← Krb5TokenId.fromBytes tokId
  ensure (content.rest ≠ []) .missingKerberosMessage
  return { oid, tokenId, message := content.rest }

def rawKrb5NegotiateToken (bytes : Bytes) (spnegoError : Error) : Except Error SpnegoToken :=
  match Krb5MechToken.decode bytes with
  | .error _ => .error spnegoError
  | .ok krb5 =>
    match krb5.tokenId with
    | .apReq =>
      .ok (.init { mechTypes := [.krb5], reqFlags := none, mechToken := some bytes, mechListMic := none })
    | .apRep =>
      .ok (.resp { negState := some .acceptCompleted, supportedMech := some .krb5,
                   responseToken := some bytes, mechListMic := none })
    | .krbError =>
      .ok (.resp { negState := some .reject, supportedMech := none,
                   responseToken := some bytes, mechListMic := none })

end Krb5Mech

section Header

def httpNegotiate : String := "Negotiate"

/-- `char::is_whitespace`: the characters with the Unicode property White_Space. -/
def isWhitespace (c : Char) : Bool :=
  let n := c.toNat
  (0x9 ≤ n ∧ n ≤ 0xd) || n = 0x20 || n = 0x85 || n = 0xa0 || n = 0x1680 || (0x2000 ≤ n ∧ n ≤ 0x200a) ||
    n = 0x2028 || n = 0x2029 || n = 0x202f || n = 0x205f || n = 0x3000

/-- `str::trim`. -/
def trim (text : List Char) : List Char :=
  ((text.dropWhile isWhitespace).reverse.dropWhile isWhitespace).reverse

/-- The engine of the base64 crate that is called `STANDARD`. -/
structure Base64 where
  encode : Bytes → String
  decode : String → Except String Bytes

def base64Alphabet : List Char := "ABCDEFGHIJKLMNOPQRSTUVWXYZabcdefghijklmnopqrstuvwxyz0123456789+/=".toList

/-- What the crate says of the engine: it decodes what it encoded, every three bytes make four
characters of the standard alphabet, and the last of them are padded. -/
structure Base64.Standard (B : Base64) (bytes : Bytes) : Prop where
  decode_encode : B.decode (B.encode bytes) = .ok bytes
  alphabet : ∀ c ∈ (B.encode bytes).toList, c ∈ base64Alphabet
  length : (B.encode bytes).toList.length = (bytes.length + 2) / 3 * 4

def negotiateHeader (B : Base64) (token : SpnegoToken) : Except Error String := do
  let bytes ← token.encode
  return httpNegotiate ++ " " ++ B.encode bytes

def parseNegotiateHeader (B : Base64) (header : String) : Except Error SpnegoToken := do
  let scheme := header.toList.takeWhile (!isWhitespace ·)
  let parts := header.toList.dropWhile (!isWhitespace ·)
  ensure (parts ≠ []) .invalidNegotiateHeader
  let encoded := trim parts.tail
  ensure (eqIgnoreAsciiCase (.ofList scheme) httpNegotiate ∧ encoded ≠ []) .invalidNegotiateHeader
  let bytes ← (B.decode (.ofList encoded)).mapError .base64
  match SpnegoToken.decode bytes with
  | .ok token => return token
  | .error spnegoError => rawKrb5NegotiateToken bytes spnegoError

end Header

end Rskrb5.Spnego
