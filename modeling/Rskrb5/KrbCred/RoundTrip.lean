import Rskrb5.Client

namespace Rskrb5.KrbCred

open Lib.Results Crypto EncParts Client

section Reading

variable (R : Rasn)

def kerberosTimeToU32 (time : KerberosTime) : Except KrbCredError UInt32 :=
  okOr (integerToU32 time.seconds) .timeOutOfRange

def optionalKerberosTimeToU32 (time : Option KerberosTime) : Except KrbCredError UInt32 := do
  let seconds ← time.mapM kerberosTimeToU32
  return seconds.getD 0

def checkedPrincipal (realm : Realm) (name : PrincipalName) : Except KrbCredError Principal :=
  okOr (principalFromParts realm name) .invalidString

def requiredPrincipal (field : String) :
    Option Realm → Option PrincipalName → Except KrbCredError Principal
  | some realm, some name => checkedPrincipal realm name
  | _, _ => .error (.missingKrbCredInfoField field)

def optionalPrincipal : Option Realm → Option PrincipalName → Except KrbCredError (Option Principal)
  | some realm, some name => some <$> checkedPrincipal realm name
  | none, none => .ok none
  | _, _ => .error (.missingKrbCredInfoField "KrbCredInfo.srealm/sname")

def serverPrincipal (ticket : Ticket) (info : KrbCredInfo) : Except KrbCredError Principal := do
  match ← optionalPrincipal info.srealm info.sname with
  | some server => return server
  | none => checkedPrincipal ticket.realm ticket.sname

def krbCredInfoToCcacheCredential (ticket : Ticket) (info : KrbCredInfo) :
    Except KrbCredError CCache.Credential := do
  let client ← requiredPrincipal "KrbCredInfo.pname" info.prealm info.pname
  let server ← serverPrincipal ticket info
  let authTime ← optionalKerberosTimeToU32 info.authTime
  let startTime ← optionalKerberosTimeToU32 (info.startTime.or info.authTime)
  let endTime ← optionalKerberosTimeToU32 info.endTime
  let renewTill ← optionalKerberosTimeToU32 info.renewTill
  let ticket ← (encodeTicket R ticket).mapError ticketError
  return {
    client
    server
    key := info.key
    times := { authTime, startTime, endTime, renewTill }
    isSkey := false
    ticketFlags := (info.flags.map ticketFlagsToBytes).getD (.replicate 4 0)
    addresses := info.caddr.getD []
    authData := []
    ticket
    secondTicket := [] }

def decryptedKrbCredToCcacheCredentials (krbCred : KrbCred) (encPart : EncKrbCredPart) :
    Except KrbCredError (List CCache.Credential) := do
  ensure (krbCred.tickets.length = encPart.ticketInfo.length)
    (.ticketInfoCountMismatch krbCred.tickets.length encPart.ticketInfo.length)
  (krbCred.tickets.zip encPart.ticketInfo).mapM fun part ↦ krbCredInfoToCcacheCredential R part.1 part.2

end Reading

section Fields

theorem optionalKerberosTimeToU32_fromU32 {seconds : UInt32} {time : KerberosTime}
    (h : kerberosTimeFromU32 seconds = .ok time) : optionalKerberosTimeToU32 (some time) = .ok seconds := by
  obtain ⟨hseconds, -⟩ := fromTimestamp_eq_some (okOr_eq_ok.mp h)
  have hto : kerberosTimeToU32 time = .ok seconds := by
    rw [kerberosTimeToU32, hseconds]
    exact okOr_eq_ok.mpr (integerToU32_ofNat seconds)
  rw [optionalKerberosTimeToU32, Option.mapM_some, hto]
  rfl

/-- The bits of a byte, the most significant one first. -/
def byteBit (byte : UInt8) (i : ℕ) : Bool := (byte >>> UInt8.ofNat (7 - i)) &&& 1 = 1

theorem foldl_byteBit (byte : UInt8) :
    (List.range 8).foldl (fun (acc : UInt8) j ↦ acc <<< 1 ||| if byteBit byte j then 1 else 0) 0 = byte := by
  have hall : ∀ n : Fin 256, (List.range 8).foldl
      (fun (acc : UInt8) j ↦ acc <<< 1 ||| if byteBit (UInt8.ofNat n) j then 1 else 0) 0 = UInt8.ofNat n := by
    decide +kernel
  simpa using hall ⟨byte.toNat, byte.toNat_lt⟩

theorem getElem?_flagsFromSlice (bytes : Bytes) (i : ℕ) {j : ℕ} (hj : j < 8) :
    (flagsFromSlice bytes)[8 * i + j]? = bytes[i]?.map fun byte ↦ byteBit byte j := by
  induction bytes generalizing i with
  | nil => simp [flagsFromSlice]
  | cons byte bytes ih =>
    have hcons : flagsFromSlice (byte :: bytes) =
        (List.range 8).map (byteBit byte) ++ flagsFromSlice bytes := rfl
    rw [hcons]
    cases i with
    | zero => simp [List.getElem?_append_left, hj]
    | succ i =>
      have hle : ((List.range 8).map (byteBit byte)).length ≤ 8 * (i + 1) + j := by
        rw [List.length_map, List.length_range]
        omega
      rw [List.getElem?_append_right hle, List.length_map, List.length_range, List.getElem?_cons_succ,
        ← ih i]
      congr 1
      omega

theorem ticketFlagsToBytes_flagsFromSlice (bytes : Vector UInt8 4) :
    ticketFlagsToBytes (flagsFromSlice bytes.toList) = bytes := by
  ext i hi
  rw [ticketFlagsToBytes, Vector.getElem_ofFn]
  have hbyte : bytes.toList[i]? = some bytes[i] := by simp [hi]
  have hfold : ∀ (js : List ℕ) (acc : UInt8), (∀ j ∈ js, j < 8) →
      js.foldl (fun (byte : UInt8) j ↦ byte <<< 1 |||
        if (flagsFromSlice bytes.toList)[8 * i + j]?.getD false then 1 else 0) acc =
      js.foldl (fun (acc : UInt8) j ↦ acc <<< 1 ||| if byteBit bytes[i] j then 1 else 0) acc := by
    intro js
    induction js with
    | nil => exact fun _ _ ↦ rfl
    | cons j js ih =>
      intro acc hjs
      rw [List.foldl_cons, List.foldl_cons, ih _ fun j' hj' ↦ hjs j' (List.mem_cons_of_mem j hj'),
        getElem?_flagsFromSlice _ _ (hjs j List.mem_cons_self), hbyte]
      rfl
  rw [hfold _ _ fun j ↦ List.mem_range.mp, foldl_byteBit]

end Fields

section RoundTrip

variable {R : Rasn} {credential : CCache.Credential} {credentials : List CCache.Credential}

/-- Of a ticket that the library can read, the bytes are its encoding. -/
def CanonicalTicket (R : Rasn) (credential : CCache.Credential) : Prop :=
  ∀ ticket, R.ticket.decode credential.ticket = .ok ticket → R.ticket.encode ticket = .ok credential.ticket

theorem krbCredInfoToCcacheCredential_toInfo {info : KrbCredInfo} {ticket : Ticket}
    (hinfo : ccacheCredentialToKrbCredInfo R credential = .ok info)
    (hticket : R.ticket.encode ticket = .ok credential.ticket) (hauth : credential.authData = [])
    (hsecond : credential.secondTicket = []) :
    krbCredInfoToCcacheCredential R ticket info = .ok { credential with isSkey := false } := by
  simp only [ccacheCredentialToKrbCredInfo, bind_eq_ok, mapError_eq_ok, pure_eq_ok, Except.ok.injEq] at hinfo
  obtain ⟨prealm, hprealm, pname, hpname, authTime, ha, startTime, hs, endTime, he, renewTill, hr,
    srealm, hsrealm, sname, hsname, rfl⟩ := hinfo
  have hencode : (encodeTicket R ticket).mapError ticketError = .ok credential.ticket := by
    rw [encodeTicket, encode, hticket]
    rfl
  have haddresses : (if credential.addresses.isEmpty then none else some credential.addresses).getD [] =
      credential.addresses := by
    cases credential.addresses <;> rfl
  simp only [krbCredInfoToCcacheCredential, requiredPrincipal, serverPrincipal, optionalPrincipal,
    checkedPrincipal, principalFromParts_principalName hprealm hpname,
    principalFromParts_principalName hsrealm hsname, okOr, Option.or, ok_bind,
    optionalKerberosTimeToU32_fromU32 ha, optionalKerberosTimeToU32_fromU32 hs,
    optionalKerberosTimeToU32_fromU32 he, optionalKerberosTimeToU32_fromU32 hr, hencode, Option.map_some,
    Option.getD_some, ticketFlagsToBytes_flagsFromSlice, haddresses, pure_eq_ok, Except.map_ok]
  rw [← hauth, ← hsecond]

theorem krbCredInfoToCcacheCredential_toParts {part : Ticket × KrbCredInfo}
    (hcanonical : CanonicalTicket R credential) (h : ccacheCredentialToParts R credential = .ok part) :
    krbCredInfoToCcacheCredential R part.1 part.2 = .ok { credential with isSkey := false } := by
  simp only [ccacheCredentialToParts, decodeTicket, decode, bind_eq_ok, ensure_eq_ok, mapError_eq_ok,
    pure_eq_ok, Except.ok.injEq] at h
  obtain ⟨-, hauth, -, hsecond, ticket, ⟨decoded, hdecode, -, -, rfl⟩, info, hinfo, rfl⟩ := h
  exact krbCredInfoToCcacheCredential_toInfo hinfo (hcanonical decoded hdecode) hauth hsecond

theorem mapM_krbCredInfoToCcacheCredential {parts : List (Ticket × KrbCredInfo)}
    (hcanonical : ∀ credential ∈ credentials, CanonicalTicket R credential)
    (h : credentials.mapM (ccacheCredentialToParts R) = .ok parts) :
    parts.mapM (fun part ↦ krbCredInfoToCcacheCredential R part.1 part.2) =
      .ok (credentials.map fun credential ↦ { credential with isSkey := false }) := by
  induction credentials generalizing parts with
  | nil =>
    obtain rfl := Except.ok.inj h
    rfl
  | cons credential credentials ih =>
    simp only [List.mapM_cons, bind_eq_ok, pure_eq_ok, Except.ok.injEq] at h
    obtain ⟨part, hpart, rest, hrest, rfl⟩ := h
    have hhead := krbCredInfoToCcacheCredential_toParts (hcanonical credential List.mem_cons_self) hpart
    have htail := ih (fun other hm ↦ hcanonical other (List.mem_cons_of_mem credential hm)) hrest
    rw [List.mapM_cons, hhead, htail]
    rfl

/-- Credentials come back without the mark that their session key is the second ticket's. -/
theorem decrypted_of_parts {tickets : List Ticket} {encPart : EncKrbCredPart} {krbCred : KrbCred}
    (hcanonical : ∀ credential ∈ credentials, CanonicalTicket R credential)
    (h : ccacheCredentialsToKrbCredParts R credentials = .ok (tickets, encPart))
    (htickets : krbCred.tickets = tickets) :
    decryptedKrbCredToCcacheCredentials R krbCred encPart =
      .ok (credentials.map fun credential ↦ { credential with isSkey := false }) := by
  simp only [ccacheCredentialsToKrbCredParts, bind_eq_ok, pure_eq_ok, Except.ok.injEq, Prod.mk.injEq] at h
  obtain ⟨parts, hparts, rfl, rfl⟩ := h
  have hlength : krbCred.tickets.length = (parts.map Prod.snd).length := by
    rw [htickets, List.length_map, List.length_map]
  have hzip : (parts.map Prod.fst).zip (parts.map Prod.snd) = parts :=
    (List.zip_of_prod rfl rfl).symm
  rw [decryptedKrbCredToCcacheCredentials, ensure_of hlength, ok_bind, htickets, hzip]
  exact mapM_krbCredInfoToCcacheCredential hcanonical hparts

/-- Converting credentials to the parts of a KRB-CRED and back gives the same credentials, exactly
when none of them has the flag that the parts have no room for. -/
theorem krbCred_roundTrip_iff (R : Rasn) (credentials : List CCache.Credential) (tickets : List Ticket)
    (encPart : EncKrbCredPart) (krbCred : KrbCred)
    (hcanonical : ∀ credential ∈ credentials, CanonicalTicket R credential)
    (h : ccacheCredentialsToKrbCredParts R credentials = .ok (tickets, encPart))
    (htickets : krbCred.tickets = tickets) :
    decryptedKrbCredToCcacheCredentials R krbCred encPart = .ok credentials ↔
      ∀ credential ∈ credentials, credential.isSkey = false := by
  rw [decrypted_of_parts hcanonical h htickets, Except.ok.injEq]
  constructor
  · intro heq credential hm
    rw [← heq] at hm
    obtain ⟨other, -, rfl⟩ := List.mem_map.mp hm
    rfl
  · intro hall
    refine (List.map_congr_left fun credential hm ↦ ?_).trans (List.map_id' credentials)
    rw [← hall credential hm]

def sampleTicket : Ticket where
  tktVno := 5
  realm := asBytes "A"
  sname := ⟨2, [asBytes "host", asBytes "www"]⟩
  encPart := ⟨23, some 1, [1, 2]⟩

def sampleTicketDer : Bytes :=
  [0x61, 0x38, 0x30, 0x36, 0xa0, 0x03, 0x02, 0x01, 0x05, 0xa1, 0x03, 0x1b, 0x01, 0x41, 0xa2, 0x16, 0x30,
    0x14, 0xa0, 0x03, 0x02, 0x01, 0x02, 0xa1, 0x0d, 0x30, 0x0b, 0x1b, 0x04, 0x68, 0x6f, 0x73, 0x74, 0x1b,
    0x03, 0x77, 0x77, 0x77, 0xa3, 0x12, 0x30, 0x10, 0xa0, 0x03, 0x02, 0x01, 0x17, 0xa1, 0x03, 0x02, 0x01,
    0x01, 0xa2, 0x04, 0x04, 0x02, 0x01, 0x02]

def sampleCredential (isSkey : Bool) : CCache.Credential where
  client := ⟨"A", 1, ["alice"]⟩
  server := ⟨"A", 2, ["host", "www"]⟩
  key := ⟨23, List.replicate 16 0x22⟩
  times := ⟨1767225660, 0, 1767229260, 0⟩
  isSkey := isSkey
  ticketFlags := #v[0x40, 0xe1, 0, 0]
  addresses := [⟨2, [192, 0, 2, 1]⟩]
  authData := []
  ticket := sampleTicketDer
  secondTicket := []

def sampleRasn : Rasn := .ofTable { ticket := [(sampleTicket, sampleTicketDer)] }

theorem canonicalTicket_sampleCredential (isSkey : Bool) :
    CanonicalTicket sampleRasn (sampleCredential isSkey) := by
  intro ticket h
  have hmem := Coder.mem_of_ofPairs_decode h
  obtain rfl := List.mem_singleton.mp hmem
  rfl

def sampleKrbCred : KrbCred := ⟨5, 22, [sampleTicket], ⟨23, none, []⟩⟩

def sampleInfo : EncKrbCredPart :=
  match ccacheCredentialsToKrbCredParts sampleRasn [sampleCredential false] with
  | .ok (_, encPart) => encPart
  | .error _ => ⟨[], none, none, none, none, none⟩

theorem toParts_sampleCredential (isSkey : Bool) :
    ccacheCredentialsToKrbCredParts sampleRasn [sampleCredential isSkey] =
      .ok ([sampleTicket], sampleInfo) := by
  cases isSkey <;> decide

theorem krbCred_roundTrip_iff_sample :
    decryptedKrbCredToCcacheCredentials sampleRasn sampleKrbCred sampleInfo = .ok [sampleCredential false] :=
  (krbCred_roundTrip_iff sampleRasn [sampleCredential false] [sampleTicket] sampleInfo sampleKrbCred
    (by simpa using canonicalTicket_sampleCredential false) (toParts_sampleCredential false) rfl).mpr
    (by decide)

/-- A ticket for user-to-user authentication is accepted, and comes back as an ordinary one. -/
theorem skey_lost :
    CanonicalTicket sampleRasn (sampleCredential true) ∧
    ccacheCredentialsToKrbCredParts sampleRasn [sampleCredential true] = .ok ([sampleTicket], sampleInfo) ∧
    decryptedKrbCredToCcacheCredentials sampleRasn sampleKrbCred sampleInfo = .ok [sampleCredential false] ∧
    sampleCredential false ≠ sampleCredential true := by
  refine ⟨canonicalTicket_sampleCredential true, toParts_sampleCredential true, ?_, by decide⟩
  exact decrypted_of_parts (by simpa using canonicalTicket_sampleCredential true)
    (toParts_sampleCredential true) rfl

end RoundTrip

end Rskrb5.KrbCred
