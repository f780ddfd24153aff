import Rskrb5.Gss.Initiator
import Rskrb5.Lib.Base64
import Rskrb5.Pac.Reader
import Rskrb5.Spnego.RoundTrip

namespace Rskrb5.Spnego

open Lib.Results Lib.Readers

section Mechanisms

namespace ObjectIdentifier

def msLegacyKrb5 : ObjectIdentifier := ⟨[1, 2, 840, 48018, 1, 2, 2], by decide⟩

def isKerberosMechanism (oid : ObjectIdentifier) : Bool := oid = krb5 ∨ oid = msLegacyKrb5

end ObjectIdentifier

def ensureKerberosMechanism (mechTypes : List ObjectIdentifier) : Except Error Unit :=
  match mechTypes with
  | [] => .error .missingMechTypes
  | first :: _ => ensure (mechTypes.any ObjectIdentifier.isKerberosMechanism) (.unsupportedMechanism first)

def Krb5TokenId.bytes : Krb5TokenId → Bytes
  | apReq => [0x01, 0x00]
  | apRep => [0x02, 0x00]
  | krbError => [0x03, 0x00]

namespace Krb5MechToken

def new (tokenId : Krb5TokenId) (message : Bytes) : Krb5MechToken := ⟨.krb5, tokenId, message⟩

def apReq (message : Bytes) : Krb5MechToken := new .apReq message

def apRep (message : Bytes) : Krb5MechToken := new .apRep message

def encode (token : Krb5MechToken) : Except Error Bytes := do
  ensure (token.message ≠ []) .missingKerberosMessage
  let oid ← encodeOid token.oid
  return encodeTlv tagApplication0 (oid ++ token.tokenId.bytes ++ token.message)

end Krb5MechToken

def NegTokenInit.krb5 (mechToken : Bytes) : NegTokenInit where
  mechTypes := [.krb5]
  reqFlags := none
  mechToken := some mechToken
  mechListMic := none

namespace NegTokenResp

def acceptCompleted : NegTokenResp := ⟨some .acceptCompleted, some .krb5, none, none⟩

def reject : NegTokenResp := ⟨some .reject, none, none, none⟩

def withResponseToken (token : NegTokenResp) (responseToken : Bytes) : NegTokenResp :=
  { token with responseToken := some responseToken }

end NegTokenResp

def responseTokenHeader (B : Base64) (token : NegTokenResp) : Except Error String := do
  let bytes ← token.encode
  return httpNegotiate ++ " " ++ B.encode bytes

def rejectHeader (B : Base64) : Except Error String := responseTokenHeader B .reject

end Mechanisms

section Read

theorem fromBytes_bytes (tokenId : Krb5TokenId) : Krb5TokenId.fromBytes tokenId.bytes = .ok tokenId := by
  cases tokenId <;> rfl

theorem Krb5MechToken.encode_eq_ok {tokenId : Krb5TokenId} {message bytes : Bytes}
    (h : (new tokenId message).encode = .ok bytes) : message ≠ [] ∧
      bytes = encodeTlv tagApplication0 (written encodeOid .krb5 ++ tokenId.bytes ++ message) := by
  obtain ⟨_, hne, h⟩ := bind_eq_ok.mp h
  obtain ⟨oid, hoid, h⟩ := bind_eq_ok.mp h
  obtain rfl := Except.ok.inj h
  have hkrb5 : encodeOid .krb5 = .ok oid := hoid
  exact ⟨ensure_eq_ok.mp hne, by rw [written_eq hkrb5]; rfl⟩

theorem Krb5MechToken.decode_encode {tokenId : Krb5TokenId} {message bytes : Bytes}
    (h : (new tokenId message).encode = .ok bytes) (hlength : bytes.length < 2 ^ 64) :
    decode bytes = .ok (new tokenId message) := by
  obtain ⟨hne, rfl⟩ := encode_eq_ok h
  have hcontent := lt_of_encodeTlv hlength
  have hoid : Reads readOid (written encodeOid .krb5) .krb5 := by
    refine reads_readOid (by decide) (Nat.lt_of_le_of_lt ?_ hcontent)
    rw [List.append_assoc, List.length_append]
    exact Nat.le_add_right _ _
  have hid : Reads (takeItems (fun _ _ _ ↦ Error.truncatedDer) 2) tokenId.bytes tokenId.bytes :=
    .takeItems _ (by cases tokenId <;> rfl)
  rw [decode, readWhole_encodeTlv (by decide) hcontent, ok_bind, expectTag, ensure_of rfl, ok_bind,
    readInput, List.append_assoc, hoid 0, ok_bind]
  dsimp only
  rw [ensure_of rfl, ok_bind]
  change (takeItems _ 2).run _ >>= _ = _
  rw [hid, ok_bind]
  dsimp only
  rw [fromBytes_bytes, ok_bind, ensure_of hne]
  rfl

end Read

section Engine

def standardBase64 : Base64 where
  encode bytes := .ofList (Lib.Base64.encode bytes)
  decode text := okOr (Lib.Base64.decode text.toList) "invalid base64"

theorem standardBase64_standard (bytes : Bytes) : standardBase64.Standard bytes where
  decode_encode := by
    change okOr (Lib.Base64.decode (String.ofList _).toList) _ = _
    rw [String.toList_ofList, Lib.Base64.decode_encode]
    rfl
  alphabet := by
    have halphabet : base64Alphabet = Lib.Base64.alphabet ++ ['='] := by decide
    intro c hc
    change c ∈ (String.ofList _).toList at hc
    rw [String.toList_ofList] at hc
    rw [halphabet, List.mem_append, List.mem_singleton]
    exact Lib.Base64.mem_encode bytes c hc
  length := by
    change (String.ofList _).toList.length = _
    rw [String.toList_ofList, Lib.Base64.length_encode]

end Engine

end Rskrb5.Spnego

namespace Rskrb5.Gss

open Lib.Results Lib.Readers Crypto EncParts Service Client Spnego

def gssapiChecksumType : Int32 := 32771

def contextFlagDeleg : UInt32 := 1
def contextFlagConf : UInt32 := 16
def contextFlagInteg : UInt32 := 32

section Checksum

/-- The flags are ORed into the word behind the length and the channel bindings. -/
def addFlag (checksum : Bytes) (flag : UInt32) : Bytes :=
  let checksum :=
    if flag = contextFlagDeleg ∧ checksum.length < 28 then checksum ++ zeros (28 - checksum.length) else checksum
  let current := Pac.u32FromLeBytes ((checksum.drop 20).take 4)
  checksum.take 20 ++ Pac.u32ToLeBytes (current ||| flag) ++ checksum.drop 24

def authenticatorChecksum (flags : List UInt32) : Bytes :=
  flags.foldl addFlag (Pac.u32ToLeBytes 16 ++ zeros 20)

end Checksum

structure InitiatorContextOptions where
  contextFlags : List UInt32
  apOptionBits : UInt32
  subkey : Option EncryptionKey
  sequenceNumber : Option UInt32
  deriving DecidableEq

def InitiatorContextOptions.new : InitiatorContextOptions where
  contextFlags := [contextFlagInteg, contextFlagConf]
  apOptionBits := 0
  subkey := none
  sequenceNumber := none

/-- The errors of the module that contexts meet. Those of tokens and of AP-REPs have types of their own,
and where the source keeps the text of another error this keeps the error. -/
inductive ContextError
  | spnego (source : Spnego.Error)
  | gss (source : Error)
  | missingMechToken
  | missingApReq
  | missingApRep
  | invalidKerberosString (source : Client.Error)
  | random (message : String)
  | service (source : Service.Error)
  | client (source : Client.Error)
  deriving DecidableEq

def clientErrorToSpnego : Client.Error → ContextError
  | .decode target message => .gss (.decode target message)
  | .encode target message => .gss (.encode target message)
  | .invalidString => .invalidKerberosString .invalidString
  | .invalidKerberosString message => .invalidKerberosString (.invalidKerberosString message)
  | .unsupportedEtype etype => .gss (.unsupportedEtype etype)
  | .crypto source => .gss (.crypto source)
  | .random message => .random message
  | .timeOverflow => .gss .timeOverflow
  | other => .client other

section Tokens

def krb5ApReqOf (mechTypes : List ObjectIdentifier) (mechToken : Option Bytes) : Except ContextError Bytes := do
  (ensureKerberosMechanism mechTypes).mapError .spnego
  let token ← okOr mechToken .missingMechToken
  let krb5 ← (Krb5MechToken.decode token).mapError .spnego
  ensure (krb5.tokenId = .apReq) .missingApReq
  return krb5.message

/-- `SpnegoToken::krb5_ap_req`, whose two branches are the same on the fields of their tokens. -/
def krb5ApReq : SpnegoToken → Except ContextError Bytes
  | .init token => krb5ApReqOf token.mechTypes token.mechToken
  | .resp token => do
    let mech ← okOr token.supportedMech (.spnego .missingMechTypes)
    krb5ApReqOf [mech] token.responseToken

end Tokens

section Contexts

variable (P : Primitives) (R : Rasn) (B : Base64)

/-- The context that an initiator keeps, with the tokens that its request went out in. -/
structure SentContext extends InitiatorContext where
  krb5Token : Krb5MechToken
  spnegoToken : SpnegoToken
  header : String

def InitiatorContextOptions.apReqOptions (options : InitiatorContextOptions) : ApReqOptions where
  apOptionBits := options.apOptionBits
  checksum := some ⟨gssapiChecksumType, authenticatorChecksum options.contextFlags⟩
  subkey := options.subkey
  sequenceNumber := options.sequenceNumber

def initSecContextWithConfounder (serviceTicket : TgsRepSession) (options : InitiatorContextOptions)
    (timestamp : SystemTime) (cusec : UInt32) (confounder : Bytes) : Except ContextError SentContext := do
  let built ← (Client.buildApReqWithConfounder P R serviceTicket options.apReqOptions timestamp cusec
    confounder).mapError clientErrorToSpnego
  let krb5Token := Krb5MechToken.apReq built.der
  let krb5TokenDer ← krb5Token.encode.mapError .spnego
  let spnegoToken : SpnegoToken := .init (.krb5 krb5TokenDer)
  let header ← (negotiateHeader B spnegoToken).mapError .spnego
  return { InitiatorContext.ofBuiltApReq built with krb5Token, spnegoToken, header }

def InitiatorContext.verifyApRepResponseHeader (context : InitiatorContext) (header : String) :
    Except ContextError VerifiedApRep := do
  match ← (parseNegotiateHeader B header).mapError ContextError.spnego with
  | .init _ => .error (.spnego (.wrongNegotiationToken "NegTokenResp" "NegTokenInit"))
  | .resp response =>
    let responseToken ← okOr response.responseToken .missingMechToken
    let krb5 ← (Krb5MechToken.decode responseToken).mapError .spnego
    ensure (krb5.tokenId = .apRep) .missingApRep
    (context.verifyApRep P R krb5.message).mapError .gss

structure AcceptedContext (Pac : Type) where
  apReq : ValidatedApReq Pac
  deriving DecidableEq

variable {Pac : Type}

def AcceptedContext.apRepResponseHeaderWithConfounder (accepted : AcceptedContext Pac) (confounder : Bytes)
    (options : ApRepOptions) : Except ContextError String := do
  let apRep ← (accepted.apReq.buildApRepWithConfounder P R confounder options).mapError .service
  let krb5Token ← (Krb5MechToken.apRep apRep).encode.mapError .spnego
  (responseTokenHeader B (NegTokenResp.acceptCompleted.withResponseToken krb5Token)).mapError .spnego

/-- The random bytes are those that the generator would give this call. -/
def AcceptedContext.apRepResponseHeader (accepted : AcceptedContext Pac)
    (fill : (len : ℕ) → Except String (Vector UInt8 len)) (options : ApRepOptions) :
    Except ContextError String := do
  let sessionKey := accepted.apReq.sessionKey
  let etype ← okOr (KerberosEtype.fromEtypeId sessionKey.etype) (.gss (.unsupportedEtype sessionKey.etype))
  let confounder ← (fill etype.confounderLen).mapError .random
  accepted.apRepResponseHeaderWithConfounder P R B confounder.toList options

/-- `accept_sec_context_header` up to the validator. -/
def headerApReq (header : String) : Except ContextError Bytes := do
  let token ← (parseNegotiateHeader B header).mapError .spnego
  krb5ApReq token

variable (pac : PacOps Pac)

def acceptSecContextHeader (v : ServiceValidator) (clock : Clock) (header : String) (caches : Caches) :
    Except ContextError (AcceptedContext Pac) × Caches :=
  match headerApReq B header with
  | .error e => (.error e, caches)
  | .ok apReq =>
    let (validated, caches) := v.validateApReq P R pac clock apReq caches
    ((validated.mapError .service).map AcceptedContext.mk, caches)

end Contexts

section Transparency

variable {P : Primitives} {R : Rasn} {B : Base64} {Pac : Type}

/-- The text of a header that carries these octets. -/
def negotiateText (B : Base64) (bytes : Bytes) : String := httpNegotiate ++ " " ++ B.encode bytes

theorem length_le_negotiateText (hB : ∀ bytes, B.Standard bytes) (bytes : Bytes) :
    bytes.length ≤ (negotiateText B bytes).length := by
  have hlength := (hB bytes).length
  rw [String.length_toList] at hlength
  rw [negotiateText, String.length_append, hlength]
  omega

theorem parse_negotiateText (hB : ∀ bytes, B.Standard bytes) {bytes : Bytes} (hne : bytes ≠ []) :
    parseNegotiateHeader B (negotiateText B bytes) =
      match SpnegoToken.decode bytes with
      | .ok token => .ok token
      | .error spnegoError => rawKrb5NegotiateToken bytes spnegoError := by
  have htext : ∀ c ∈ (B.encode bytes).toList, isWhitespace c = false :=
    fun c hc ↦ isWhitespace_of_alphabet c ((hB bytes).alphabet c hc)
  have htext_ne : (B.encode bytes).toList ≠ [] := by
    have hpos := List.length_pos_iff.mpr hne
    rw [← List.length_pos_iff, (hB bytes).length]
    omega
  have hlist : (negotiateText B bytes).toList = httpNegotiate.toList ++ ' ' :: (B.encode bytes).toList := by
    simp [negotiateText, String.toList_append]
  have hspan : ∀ text, (httpNegotiate.toList ++ ' ' :: text).takeWhile (!isWhitespace ·) = httpNegotiate.toList ∧
      (httpNegotiate.toList ++ ' ' :: text).dropWhile (!isWhitespace ·) = ' ' :: text :=
    fun _ ↦ ⟨rfl, rfl⟩
  rw [parseNegotiateHeader, hlist, (hspan _).1, (hspan _).2]
  dsimp only [List.tail_cons]
  rw [trim_eq_self htext, ensure_of (by simp), ok_bind, ensure_of ⟨by simp [eqIgnoreAsciiCase], htext_ne⟩, ok_bind,
    String.ofList_toList, (hB bytes).decode_encode]
  rfl

theorem initSecContext_eq_ok {session : TgsRepSession} {options : InitiatorContextOptions} {timestamp : SystemTime}
    {cusec : UInt32} {confounder : Bytes} {context : SentContext}
    (h : initSecContextWithConfounder P R B session options timestamp cusec confounder = .ok context) :
    ∃ built krb5 bytes, Client.buildApReqWithConfounder P R session options.apReqOptions timestamp cusec
        confounder = .ok built ∧
      context.toInitiatorContext = .ofBuiltApReq built ∧ (Krb5MechToken.apReq built.der).encode = .ok krb5 ∧
      SpnegoToken.encode (.init (.krb5 krb5)) = .ok bytes ∧ context.header = negotiateText B bytes ∧
      context.krb5Token = .apReq built.der := by
  simp only [initSecContextWithConfounder, negotiateHeader, bind_eq_ok, mapError_eq_ok, pure_eq_ok,
    Except.ok.injEq] at h
  obtain ⟨built, hbuilt, krb5, hkrb5, header, ⟨bytes, hbytes, rfl⟩, rfl⟩ := h
  exact ⟨built, krb5, bytes, hbuilt, rfl, hkrb5, hbytes, rfl, rfl⟩

theorem length_krb5_le {krb5 bytes : Bytes} (h : SpnegoToken.encode (.init (.krb5 krb5)) = .ok bytes) :
    krb5.length ≤ bytes.length := by
  simp only [SpnegoToken.encode, NegTokenInit.encode, bind_eq_ok, pure_eq_ok, Except.ok.injEq] at h
  obtain ⟨oid, -, choice, ⟨-, -, mechTypes, -, rfl⟩, rfl⟩ := h
  simp only [NegTokenInit.krb5, encodeOptional, encodeExplicit, encodeTlv, List.length_cons, List.length_append]
  omega

theorem length_responseToken_le {krb5 bytes : Bytes}
    (h : (NegTokenResp.acceptCompleted.withResponseToken krb5).encode = .ok bytes) :
    krb5.length ≤ bytes.length := by
  simp only [NegTokenResp.encode, bind_eq_ok, pure_eq_ok, Except.ok.injEq] at h
  obtain ⟨mech, -, rfl⟩ := h
  simp only [NegTokenResp.withResponseToken, encodeOptional, encodeExplicit, encodeTlv, List.length_cons,
    List.length_append]
  omega

theorem krb5ApReqOf_krb5 {message krb5 : Bytes} {mech : ObjectIdentifier} (hmech : mech = .krb5)
    (hkrb5 : (Krb5MechToken.apReq message).encode = .ok krb5) (hlength : krb5.length < 2 ^ 63) :
    krb5ApReqOf [mech] (some krb5) = .ok message := by
  have hdecode : Krb5MechToken.decode krb5 = .ok (.apReq message) :=
    Krb5MechToken.decode_encode hkrb5 (by omega)
  have hkerberos : ensureKerberosMechanism [mech] = .ok () := by
    subst hmech
    decide
  simp only [krb5ApReqOf, hkerberos, okOr, hdecode, Except.mapError, ok_bind]
  rfl

theorem headerApReq_init (hB : ∀ bytes, B.Standard bytes) {message krb5 bytes : Bytes}
    (hkrb5 : (Krb5MechToken.apReq message).encode = .ok krb5)
    (hbytes : SpnegoToken.encode (.init (.krb5 krb5)) = .ok bytes) (hlength : bytes.length < 2 ^ 63) :
    headerApReq B (negotiateText B bytes) = .ok message := by
  have hdecode : SpnegoToken.decode bytes = .ok (.init (.krb5 krb5)) := by
    refine decode_encode (fun oid hoid ↦ ?_) hbytes (by omega)
    obtain rfl := List.mem_singleton.mp hoid
    decide
  rw [headerApReq, parse_negotiateText hB (ne_nil_of_encode hbytes), hdecode]
  exact krb5ApReqOf_krb5 rfl hkrb5 (Nat.lt_of_le_of_lt (length_krb5_le hbytes) hlength)

/-- A bare mechanism token is no SPNEGO token, by its identifier. -/
theorem decode_krb5 {tokenId : Krb5TokenId} {message krb5 : Bytes}
    (h : (Krb5MechToken.new tokenId message).encode = .ok krb5) (hlength : krb5.length < 2 ^ 63) :
    SpnegoToken.decode krb5 = .error (.unexpectedSpnegoOid .krb5) := by
  obtain ⟨hne, rfl⟩ := Krb5MechToken.encode_eq_ok h
  have hcontent := lt_of_encodeTlv hlength
  have hoid : Reads readOid (written encodeOid .krb5) .krb5 := by
    refine reads_readOid (by decide) (Nat.lt_of_le_of_lt ?_ (Nat.lt_trans hcontent (by norm_num)))
    rw [List.append_assoc, List.length_append]
    exact Nat.le_add_right _ _
  rw [SpnegoToken.decode, ensure_of (by simp [encodeTlv]), ok_bind]
  change decodeFramed _ = _
  rw [decodeFramed, readWhole_encodeTlv (by decide) (by omega), ok_bind, readInput,
    List.append_assoc, hoid 0, ok_bind]
  rfl

theorem headerApReq_raw (hB : ∀ bytes, B.Standard bytes) {message krb5 : Bytes}
    (hkrb5 : (Krb5MechToken.apReq message).encode = .ok krb5) (hlength : krb5.length < 2 ^ 63) :
    headerApReq B (negotiateText B krb5) = .ok message := by
  have hne : krb5 ≠ [] := by
    obtain ⟨-, rfl⟩ := Krb5MechToken.encode_eq_ok hkrb5
    simp [encodeTlv]
  have hdecode : Krb5MechToken.decode krb5 = .ok (.apReq message) :=
    Krb5MechToken.decode_encode hkrb5 (by omega)
  have hraw : rawKrb5NegotiateToken krb5 (.unexpectedSpnegoOid .krb5) = .ok (.init (.krb5 krb5)) := by
    rw [rawKrb5NegotiateToken, hdecode]
    rfl
  rw [headerApReq, parse_negotiateText hB hne, decode_krb5 hkrb5 hlength]
  dsimp only
  rw [hraw]
  exact krb5ApReqOf_krb5 rfl hkrb5 hlength

/-- What the validator made of a request, as the result of the context. -/
def accepting {Pac : Type} (result : Except Service.Error (ValidatedApReq Pac) × Caches) :
    Except ContextError (AcceptedContext Pac) × Caches :=
  ((result.1.mapError .service).map AcceptedContext.mk, result.2)

theorem acceptSecContextHeader_of_apReq {pac : PacOps Pac} {v : ServiceValidator} {clock : Clock} {header : String}
    {caches : Caches} {apReq : Bytes} (h : headerApReq B header = .ok apReq) :
    acceptSecContextHeader P R B pac v clock header caches =
      accepting (v.validateApReq P R pac clock apReq caches) := by
  rw [acceptSecContextHeader, h]
  rfl

theorem apRepResponseHeader_eq_ok {accepted : AcceptedContext Pac} {confounder : Bytes} {options : ApRepOptions}
    {header : String} (h : accepted.apRepResponseHeaderWithConfounder P R B confounder options = .ok header) :
    ∃ apRep krb5 bytes, accepted.apReq.buildApRepWithConfounder P R confounder options = .ok apRep ∧
      (Krb5MechToken.apRep apRep).encode = .ok krb5 ∧
      (NegTokenResp.acceptCompleted.withResponseToken krb5).encode = .ok bytes ∧
      header = negotiateText B bytes := by
  simp only [AcceptedContext.apRepResponseHeaderWithConfounder, responseTokenHeader, bind_eq_ok, mapError_eq_ok,
    pure_eq_ok, Except.ok.injEq] at h
  obtain ⟨apRep, hrep, krb5, hkrb5, bytes, hbytes, rfl⟩ := h
  exact ⟨apRep, krb5, bytes, hrep, hkrb5, hbytes, rfl⟩

/-- The token of an answer is read back, and the AP-REP in it. -/
theorem parse_apRepResponseHeader (hB : ∀ bytes, B.Standard bytes) {apRep krb5 bytes : Bytes}
    (hkrb5 : (Krb5MechToken.apRep apRep).encode = .ok krb5)
    (hbytes : (NegTokenResp.acceptCompleted.withResponseToken krb5).encode = .ok bytes)
    (hlength : bytes.length < 2 ^ 63) :
    parseNegotiateHeader B (negotiateText B bytes) = .ok (.resp (NegTokenResp.acceptCompleted.withResponseToken krb5)) ∧
      Krb5MechToken.decode krb5 = .ok (.apRep apRep) := by
  have hencode : SpnegoToken.encode (.resp (NegTokenResp.acceptCompleted.withResponseToken krb5)) = .ok bytes := hbytes
  have hoids : ∀ oid ∈ SpnegoToken.oids (.resp (NegTokenResp.acceptCompleted.withResponseToken krb5)),
      oid.leading < 120 := by
    intro oid hoid
    obtain rfl := List.mem_singleton.mp hoid
    decide
  have hdecode := decode_encode hoids hencode (by omega)
  refine ⟨?_, Krb5MechToken.decode_encode hkrb5 ?_⟩
  · rw [parse_negotiateText hB (ne_nil_of_encode hencode), hdecode]
  · exact Nat.lt_of_le_of_lt (length_responseToken_le hbytes) (by omega)

theorem verifyApRepResponseHeader_of_apRep (hB : ∀ bytes, B.Standard bytes) (context : InitiatorContext)
    {apRep krb5 bytes : Bytes} (hkrb5 : (Krb5MechToken.apRep apRep).encode = .ok krb5)
    (hbytes : (NegTokenResp.acceptCompleted.withResponseToken krb5).encode = .ok bytes)
    (hlength : bytes.length < 2 ^ 63) :
    context.verifyApRepResponseHeader P R B (negotiateText B bytes) =
      (context.verifyApRep P R apRep).mapError .gss := by
  obtain ⟨hparse, hdecode⟩ := parse_apRepResponseHeader hB hkrb5 hbytes hlength
  rw [InitiatorContext.verifyApRepResponseHeader, hparse]
  simp only [NegTokenResp.withResponseToken, Except.mapError, ok_bind, okOr, hdecode]
  rfl

/-- No string is longer than `isize::MAX`. The headers carry the Kerberos messages and nothing else: a service
makes of an initiator's header, and of the bare mechanism token in its place, what it makes of the AP-REQ,
and an initiator makes of the header of an answer what it makes of the AP-REP. -/
theorem headers_transparent (hB : ∀ bytes, B.Standard bytes) (pac : PacOps Pac) (session : TgsRepSession)
    (options : InitiatorContextOptions) (timestamp : SystemTime) (cusec : UInt32) (confounder : Bytes)
    (context : SentContext)
    (h : initSecContextWithConfounder P R B session options timestamp cusec confounder = .ok context)
    (hlength : context.header.length < 2 ^ 63) :
    (∀ v clock caches, acceptSecContextHeader P R B pac v clock context.header caches =
        accepting (v.validateApReq P R pac clock context.apReqDer caches)) ∧
      (∃ krb5, context.krb5Token.encode = .ok krb5 ∧ ∀ v clock caches,
        acceptSecContextHeader P R B pac v clock (negotiateText B krb5) caches =
          accepting (v.validateApReq P R pac clock context.apReqDer caches)) ∧
      ∀ (accepted : AcceptedContext Pac) confounder options header,
        accepted.apRepResponseHeaderWithConfounder P R B confounder options = .ok header → header.length < 2 ^ 63 →
        ∃ apRep, accepted.apReq.buildApRepWithConfounder P R confounder options = .ok apRep ∧
          context.verifyApRepResponseHeader P R B header = (context.verifyApRep P R apRep).mapError .gss := by
  obtain ⟨built, krb5, bytes, -, hcontext, hkrb5, hbytes, hheader, htoken⟩ := initSecContext_eq_ok h
  have hder : context.apReqDer = built.der := by rw [hcontext]; rfl
  have hlen : bytes.length < 2 ^ 63 := by
    rw [hheader] at hlength
    exact Nat.lt_of_le_of_lt (length_le_negotiateText hB bytes) hlength
  refine ⟨fun v clock caches ↦ ?_, ⟨krb5, by rw [htoken]; exact hkrb5, fun v clock caches ↦ ?_⟩,
    fun accepted confounder options header hanswer hshort ↦ ?_⟩
  · rw [hder, hheader]
    exact acceptSecContextHeader_of_apReq (headerApReq_init hB hkrb5 hbytes hlen)
  · rw [hder]
    refine acceptSecContextHeader_of_apReq (headerApReq_raw hB hkrb5 ?_)
    exact Nat.lt_of_le_of_lt (length_krb5_le hbytes) hlen
  · obtain ⟨apRep, krb5, bytes, hrep, hkrb5, hbytes, rfl⟩ := apRepResponseHeader_eq_ok hanswer
    refine ⟨apRep, hrep, verifyApRepResponseHeader_of_apRep hB _ hkrb5 hbytes ?_⟩
    exact Nat.lt_of_le_of_lt (length_le_negotiateText hB bytes) hshort

theorem exists_encode_krb5 (tokenId : Krb5TokenId) {message : Bytes} (hne : message ≠ []) :
    ∃ krb5, (Krb5MechToken.new tokenId message).encode = .ok krb5 := by
  have hleading : ObjectIdentifier.krb5.leading < 120 := by decide
  have hoid := encodeOid_of_leading hleading
  exact ⟨_, bind_eq_ok.mpr ⟨(), ensure_eq_ok.mpr hne, bind_eq_ok.mpr ⟨_, hoid, rfl⟩⟩⟩

theorem exists_encode_init (krb5 : Bytes) : ∃ bytes, SpnegoToken.encode (.init (.krb5 krb5)) = .ok bytes := by
  have hread : (NegTokenInit.krb5 krb5).Readable := by
    intro oid hmem
    obtain rfl := List.mem_singleton.mp hmem
    decide
  have hne : (NegTokenInit.krb5 krb5).mechTypes ≠ [] := List.cons_ne_nil _ _
  have hencode := NegTokenInit.encode_eq hne hread
  exact ⟨_, SpnegoToken.encode_init hencode⟩

theorem exists_encode_resp (krb5 : Bytes) :
    ∃ bytes, (NegTokenResp.acceptCompleted.withResponseToken krb5).encode = .ok bytes := by
  have hread : (NegTokenResp.acceptCompleted.withResponseToken krb5).Readable := by
    intro oid hmem
    obtain rfl := Option.some.inj hmem
    decide
  exact ⟨_, NegTokenResp.encode_eq hread⟩

variable (B) in
/-- Every AP-REP that has octets goes out in a header. -/
theorem exists_apRepResponseHeader {accepted : AcceptedContext Pac} {confounder : Bytes} {options : ApRepOptions}
    {apRep : Bytes} (h : accepted.apReq.buildApRepWithConfounder P R confounder options = .ok apRep)
    (hne : apRep ≠ []) : ∃ krb5 bytes, (Krb5MechToken.apRep apRep).encode = .ok krb5 ∧
      (NegTokenResp.acceptCompleted.withResponseToken krb5).encode = .ok bytes ∧
      accepted.apRepResponseHeaderWithConfounder P R B confounder options = .ok (negotiateText B bytes) := by
  obtain ⟨krb5, hkrb5⟩ := exists_encode_krb5 .apRep hne
  obtain ⟨bytes, hbytes⟩ := exists_encode_resp krb5
  have htoken : (Krb5MechToken.apRep apRep).encode = .ok krb5 := hkrb5
  refine ⟨krb5, bytes, htoken, hbytes, ?_⟩
  simp only [AcceptedContext.apRepResponseHeaderWithConfounder, h, Except.mapError, ok_bind, htoken,
    responseTokenHeader, hbytes]
  rfl

variable (P R B) in
/-- Every request that has octets goes out in a context. -/
theorem exists_initSecContext {session : TgsRepSession} {options : InitiatorContextOptions} {timestamp : SystemTime}
    {cusec : UInt32} {confounder : Bytes} {built : BuiltApReq}
    (h : Client.buildApReqWithConfounder P R session options.apReqOptions timestamp cusec confounder = .ok built)
    (hne : built.der ≠ []) :
    ∃ context krb5 bytes, initSecContextWithConfounder P R B session options timestamp cusec confounder = .ok context ∧
      context.toInitiatorContext = .ofBuiltApReq built ∧ (Krb5MechToken.apReq built.der).encode = .ok krb5 ∧
      SpnegoToken.encode (.init (.krb5 krb5)) = .ok bytes ∧ context.header = negotiateText B bytes := by
  obtain ⟨krb5, hkrb5⟩ := exists_encode_krb5 .apReq hne
  obtain ⟨bytes, hbytes⟩ := exists_encode_init krb5
  refine ⟨{ InitiatorContext.ofBuiltApReq built with
    krb5Token := .apReq built.der, spnegoToken := .init (.krb5 krb5), header := negotiateText B bytes }, krb5, bytes,
    ?_, rfl, hkrb5, hbytes, rfl⟩
  have htoken : (Krb5MechToken.apReq built.der).encode = .ok krb5 := hkrb5
  simp only [initSecContextWithConfounder, h, Except.mapError, ok_bind, htoken, negotiateHeader, hbytes]
  rfl

end Transparency

section Exchange

/-- The request of `alice@A` with the flags that its header asks for. -/
def flaggedAuthenticator : Authenticator :=
  { aliceAuthenticator with
    cksum := some ⟨gssapiChecksumType, authenticatorChecksum [contextFlagInteg, contextFlagConf]⟩, seqNumber := some 7 }

def flaggedAuthenticatorDer : Bytes :=
  [0x62, 0x64, 0x30, 0x62, 0xa0, 0x03, 0x02, 0x01, 0x05, 0xa1, 0x03, 0x1b, 0x01, 0x41, 0xa2, 0x12, 0x30,
   0x10, 0xa0, 0x03, 0x02, 0x01, 0x01, 0xa1, 0x09, 0x30, 0x07, 0x1b, 0x05, 0x61, 0x6c, 0x69, 0x63, 0x65,
   0xa3, 0x25, 0x30, 0x23, 0xa0, 0x05, 0x02, 0x03, 0x00, 0x80, 0x03, 0xa1, 0x1a, 0x04, 0x18, 0x10, 0x00,
   0x00, 0x00, 0x00, 0x00, 0x00, 0x00, 0x00, 0x00, 0x00, 0x00, 0x00, 0x00, 0x00, 0x00, 0x00, 0x00, 0x00,
   0x00, 0x30, 0x00, 0x00, 0x00, 0xa4, 0x03, 0x02, 0x01, 0x00, 0xa5, 0x11, 0x18, 0x0f, 0x32, 0x30, 0x32,
   0x36, 0x30, 0x31, 0x30, 0x31, 0x30, 0x30, 0x30, 0x31, 0x30, 0x30, 0x5a, 0xa7, 0x03, 0x02, 0x01, 0x07]

def flaggedAuthenticatorCipher : Bytes :=
  [0x0b, 0x86, 0x5d, 0xc1, 0x10, 0x7d, 0xa4, 0xd9, 0x22, 0x77, 0xea, 0xc5, 0xd8, 0x74, 0x48, 0x83, 0xf9,
   0xdc, 0x9e, 0x7d, 0x50, 0x06, 0xe9, 0x80, 0x9a, 0x4c, 0xc7, 0x06, 0xc6, 0x27, 0x42, 0xef, 0x07, 0x73,
   0xa4, 0xf0, 0x97, 0x35, 0x5c, 0x44, 0x78, 0xd2, 0xa8, 0x20, 0x87, 0x90, 0xd4, 0xfe, 0x97, 0x28, 0xcc,
   0x88, 0x97, 0xdf, 0x05, 0x0c, 0x9f, 0x90, 0x93, 0x8f, 0x38, 0x40, 0x77, 0x50, 0x5e, 0xa5, 0x95, 0x82,
   0x55, 0x88, 0x26, 0x69, 0x4d, 0x2f, 0x54, 0xca, 0xa4, 0x0c, 0x98, 0x67, 0x45, 0x30, 0xe5, 0xd0, 0x39,
   0xee, 0x50, 0xd4, 0x7f, 0x35, 0xf8, 0xf3, 0x51, 0x4b, 0x17, 0x99, 0xac, 0x48, 0x81, 0x30, 0x17, 0x53,
   0xaa, 0x34, 0x1e, 0x8b, 0x8c, 0x98, 0xaf, 0x1f, 0xa0, 0x61, 0x79, 0x2c, 0x77, 0xfa, 0x6a, 0xa9, 0xb8,
   0x45, 0x83, 0xe7, 0x25, 0x4b, 0x6b, 0xed]

def flaggedAuthenticatorSealed : Rc4Sealed where
  key := aliceSessionKey.value
  usage := apReqAuthenticatorUsage
  confounder := exchangeConfounder
  message := flaggedAuthenticatorDer
  usageKey := authenticatorUsageKey
  encryptionKey :=
    [0x0a, 0x65, 0x6c, 0xc6, 0xc3, 0xea, 0xa9, 0x28, 0xbf, 0x13, 0x5b, 0xb2, 0xf5, 0x31, 0x10, 0xae]
  cipher := flaggedAuthenticatorCipher

def flaggedApReq : ApReq :=
  { aliceApReq 2 [] with authenticator := ⟨23, some 2, flaggedAuthenticatorCipher⟩ }

def flaggedApReqDer : Bytes :=
  [0x6e, 0x82, 0x01, 0x73, 0x30, 0x82, 0x01, 0x6f, 0xa0, 0x03, 0x02, 0x01, 0x05, 0xa1, 0x03, 0x02, 0x01,
   0x0e, 0xa2, 0x07, 0x03, 0x05, 0x00, 0x00, 0x00, 0x00, 0x00, 0xa3, 0x81, 0xc6] ++
  aliceTicketDer ++
  [0xa4, 0x81, 0x90, 0x30, 0x81, 0x8d, 0xa0, 0x03, 0x02, 0x01, 0x17, 0xa1, 0x03, 0x02, 0x01, 0x02, 0xa2,
   0x81, 0x80, 0x04, 0x7e] ++ flaggedAuthenticatorCipher

def flaggedPrimitives : Primitives :=
  .ofKnownAnswers (.ofRc4Sealed [ticketSealed, flaggedAuthenticatorSealed, webApRepSealed])

def flaggedTable : Rasn.Table where
  apReq := [(flaggedApReq, flaggedApReqDer)]
  authenticator := [(flaggedAuthenticator, flaggedAuthenticatorDer)]
  ticket := [(aliceTicket, aliceTicketDer)]
  encTicketPart := [(aliceEncTicket, aliceEncTicketDer)]
  apRep := [(⟨5, 15, ⟨23, none, webApRepCipher⟩⟩, webApRepDer)]
  encApRepPart := [(webEncApRep, webEncApRepDer)]

def flaggedRasn : Rasn := .ofTable flaggedTable

/-- The octets of the header. -/
def flaggedToken : Bytes :=
  written SpnegoToken.encode (.init (.krb5 (written Krb5MechToken.encode (.apReq flaggedApReqDer))))

def flaggedBuilt : BuiltApReq :=
  { aliceBuilt webNow with message := flaggedApReq, der := flaggedApReqDer, sequenceNumber := some 7 }

def flaggedOptions : InitiatorContextOptions := { InitiatorContextOptions.new with sequenceNumber := some 7 }

def flaggedValidated : ValidatedApReq Unit := { webValidated with sequenceNumber := some 7 }

/-- The octets of the header of the answer. -/
def flaggedAnswerToken : Bytes :=
  written NegTokenResp.encode
    (NegTokenResp.acceptCompleted.withResponseToken (written Krb5MechToken.encode (.apRep webApRepDer)))

/-- A generator that counts. -/
def flaggedFill (len : ℕ) : Except String (Vector UInt8 len) := .ok (Vector.ofFn fun i ↦ UInt8.ofNat i)

/-- The three steps of the exchange, and the sizes of the tokens that carry its messages. -/
theorem flaggedExchange :
    Client.buildApReqWithConfounder flaggedPrimitives flaggedRasn aliceSession flaggedOptions.apReqOptions
        webNow 0 exchangeConfounder = .ok flaggedBuilt ∧
      webValidator.checkApReq flaggedPrimitives flaggedRasn noPac ⟨webNow, webNow⟩ flaggedApReqDer =
        .ok (aliceReplayKey 2, webNow, flaggedValidated) ∧
      flaggedValidated.buildApRepWithConfounder flaggedPrimitives flaggedRasn exchangeConfounder ⟨none, some 7, none⟩ =
        .ok webApRepDer ∧
      ((Lib.Base64.encode flaggedToken).length < 1000 ∧ flaggedApReqDer ≠ []) ∧
      (Lib.Base64.encode flaggedAnswerToken).length < 1000 ∧ webApRepDer ≠ [] := by
  decide +kernel

theorem length_standardText (bytes : Bytes) :
    (negotiateText standardBase64 bytes).length = 10 + (Lib.Base64.encode bytes).length := by
  have htext : (standardBase64.encode bytes).length = (Lib.Base64.encode bytes).length := String.length_ofList
  have hscheme : (httpNegotiate ++ " ").length = 10 := by decide
  rw [negotiateText, String.length_append, htext, hscheme]

theorem exists_flaggedContext :
    ∃ context, initSecContextWithConfounder flaggedPrimitives flaggedRasn standardBase64 aliceSession flaggedOptions
        webNow 0 exchangeConfounder = .ok context ∧ context.toInitiatorContext = .ofBuiltApReq flaggedBuilt ∧
      headerApReq standardBase64 context.header = .ok flaggedApReqDer ∧ context.header.length < 2 ^ 63 := by
  obtain ⟨hbuilt, -, -, ⟨hlength, hne⟩, -⟩ := flaggedExchange
  obtain ⟨context, krb5, bytes, hcontext, hof, hkrb5, hbytes, hheader⟩ :=
    exists_initSecContext flaggedPrimitives flaggedRasn standardBase64 hbuilt hne
  have htoken : bytes = flaggedToken := by
    have hwritten : written Krb5MechToken.encode (.apReq flaggedApReqDer) = krb5 := written_eq hkrb5
    rw [flaggedToken, hwritten, written_eq hbytes]
  have htext : context.header.length < 2 ^ 63 := by
    rw [hheader, length_standardText, htoken]
    omega
  refine ⟨context, hcontext, hof, ?_, htext⟩
  have hle := length_le_negotiateText standardBase64_standard bytes
  rw [hheader] at htext ⊢
  exact headerApReq_init standardBase64_standard hkrb5 hbytes (Nat.lt_of_le_of_lt hle htext)

theorem exists_flaggedAnswer :
    ∃ header, (AcceptedContext.mk flaggedValidated).apRepResponseHeader flaggedPrimitives flaggedRasn standardBase64
        flaggedFill ⟨none, some 7, none⟩ = .ok header ∧ header.length < 2 ^ 63 := by
  obtain ⟨-, -, hrep, -, hlength, hne⟩ := flaggedExchange
  have haccepted : (AcceptedContext.mk flaggedValidated).apReq.buildApRepWithConfounder flaggedPrimitives flaggedRasn
      exchangeConfounder ⟨none, some 7, none⟩ = .ok webApRepDer := hrep
  obtain ⟨krb5, bytes, hkrb5, hbytes, hheader⟩ := exists_apRepResponseHeader standardBase64 haccepted hne
  have htoken : bytes = flaggedAnswerToken := by
    rw [flaggedAnswerToken, written_eq hkrb5, written_eq hbytes]
  refine ⟨_, hheader, ?_⟩
  rw [length_standardText, htoken]
  omega

theorem headers_transparent_flagged :
    ∃ context, initSecContextWithConfounder flaggedPrimitives flaggedRasn standardBase64 aliceSession flaggedOptions
        webNow 0
        exchangeConfounder = .ok context ∧ context.apReqDer = flaggedApReqDer ∧
      ∀ v clock caches, acceptSecContextHeader flaggedPrimitives flaggedRasn standardBase64 noPac v clock context.header
          caches = accepting (v.validateApReq flaggedPrimitives flaggedRasn noPac clock context.apReqDer caches) := by
  obtain ⟨context, hcontext, hof, -, hlength⟩ := exists_flaggedContext
  refine ⟨context, hcontext, by rw [hof]; rfl, ?_⟩
  exact (headers_transparent standardBase64_standard noPac aliceSession flaggedOptions webNow 0 exchangeConfounder
    context
    hcontext hlength).1

end Exchange

end Rskrb5.Gss
