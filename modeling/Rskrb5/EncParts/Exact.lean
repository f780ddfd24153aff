import Rskrb5.KrbCred

namespace Rskrb5

open Lib.Results Crypto EncParts

/-- The kinds of message with an encrypted part. The authenticator's key usage depends on
the ticket it goes with. -/
inductive PartKind
  | ticket
  | authenticator (usage : UInt32)
  | apRep
  | asRep
  | tgsRep
  | krbPriv
  | krbCred
  deriving DecidableEq

namespace PartKind

def Message : PartKind → Type
  | ticket => Ticket
  | authenticator _ => ApReq
  | apRep => ApRep
  | asRep => KdcRep
  | tgsRep => KdcRep
  | krbPriv => KrbPriv
  | krbCred => KrbCred

def Part : PartKind → Type
  | ticket => EncTicketPart
  | authenticator _ => Authenticator
  | apRep => EncApRepPart
  | asRep => EncKdcRepPart
  | tgsRep => EncKdcRepPart
  | krbPriv => EncKrbPrivPart
  | krbCred => EncKrbCredPart

def usage : PartKind → UInt32
  | ticket => kdcRepTicketUsage
  | authenticator usage => usage
  | apRep => apRepEncpartUsage
  | asRep => asRepEncpartUsage
  | tgsRep => tgsRepEncpartSessionKeyUsage
  | krbPriv => krbPrivEncpartUsage
  | krbCred => krbCredEncpartUsage

def encPart : (k : PartKind) → k.Message → EncryptedData
  | ticket, (m : Ticket) => m.encPart
  | authenticator _, (m : ApReq) => m.authenticator
  | apRep, (m : ApRep) => m.encPart
  | asRep, (m : KdcRep) => m.encPart
  | tgsRep, (m : KdcRep) => m.encPart
  | krbPriv, (m : KrbPriv) => m.encPart
  | krbCred, (m : KrbCred) => m.encPart

variable (P : Primitives) (R : Rasn)

def decrypt : (k : PartKind) → k.Message → EncryptionKey → Except EncPartError k.Part
  | ticket => decryptTicketEncPart P R
  | authenticator usage => fun m key ↦ decryptApReqAuthenticator P R m key usage
  | apRep => decryptApRepEncPart P R
  | asRep => decryptAsRepEncPart P R
  | tgsRep => decryptTgsRepEncPart P R
  | krbPriv => decryptKrbPrivEncPart P R
  | krbCred => decryptKrbCredEncPart P R

def decodePart : (k : PartKind) → Bytes → Except EncPartError k.Part
  | ticket => decodeEncTicketPart R
  | authenticator _ => decodeAuthenticator R
  | apRep => decodeEncApRepPart R
  | asRep => decodeEncKdcRepPart R
  | tgsRep => decodeEncKdcRepPart R
  | krbPriv => decodeEncKrbPrivPart R
  | krbCred => decodeEncKrbCredPart R

def encodePart : (k : PartKind) → k.Part → Except String Bytes
  | ticket => R.encTicketPart.encode
  | authenticator _ => R.authenticator.encode
  | apRep => R.encApRepPart.encode
  | asRep => R.encAsRepPart.encode
  | tgsRep => R.encTgsRepPart.encode
  | krbPriv => R.encKrbPrivPart.encode
  | krbCred => R.encKrbCredPart.encode

def IsWhole : (k : PartKind) → k.Part → Prop
  | ticket => EncTicketPart.IsWhole
  | authenticator _ => Authenticator.IsWhole
  | apRep => EncApRepPart.IsWhole
  | asRep => EncKdcRepPart.IsWhole
  | tgsRep => EncKdcRepPart.IsWhole
  | krbPriv => EncKrbPrivPart.IsWhole
  | krbCred => EncKrbCredPart.IsWhole

/-- A message that the matching build or encrypt helper made around a part. -/
def Built : (k : PartKind) → k.Part → EncryptionKey → Option UInt32 → Bytes → k.Message → Prop
  | ticket, v, key, kvno, confounder, m =>
    ∃ realm sname, buildTicketWithConfounder P R realm sname v key kvno confounder = .ok m
  | authenticator usage, v, key, kvno, confounder, m =>
    ∃ tkt options, buildApReqWithConfounder P R tkt options v key usage kvno confounder = .ok m
  | apRep, v, key, kvno, confounder, m => buildApRepWithConfounder P R v key kvno confounder = .ok m
  | asRep, v, key, kvno, confounder, m =>
    encryptAsRepEncPartWithConfounder P R v key kvno confounder = .ok (KdcRep.encPart m)
  | tgsRep, v, key, kvno, confounder, m =>
    encryptTgsRepEncPartWithConfounder P R v key kvno confounder = .ok (KdcRep.encPart m)
  | krbPriv, v, key, kvno, confounder, m =>
    ∃ userData options, v = buildEncKrbPrivPart userData options ∧
      buildKrbPrivWithConfounder P R userData options key kvno confounder = .ok m
  | krbCred, v, key, kvno, confounder, m => kvno = none ∧
    ∃ credentials tickets, KrbCred.ccacheCredentialsToKrbCredParts R credentials = .ok (tickets, v) ∧
      KrbCred.encryptCcacheCredentialsToKrbCredWithConfounder P R credentials key confounder = .ok m

/-- The kinds whose helper removes zero padding before it decodes. -/
def trims : PartKind → Bool
  | apRep => false
  | krbCred => false
  | _ => true

theorem decrypt_eq (k : PartKind) (m : k.Message) (key : EncryptionKey) :
    k.decrypt P R m key = (do
      let plaintext ← decryptData P (k.encPart m) key k.usage
      k.decodePart R (if k.trims then Der.trimZeroPaddedDer plaintext else plaintext)) := by
  cases k <;> rfl

def received (k : PartKind) (etype : KerberosEtype) (d : Bytes) : Bytes :=
  if k.trims then d else etype.padded d

theorem decrypt_of_encrypted (k : PartKind) {d : Bytes} (hd : Der.IsDefinite d) {key : EncryptionKey}
    {kvno : Option UInt32} {confounder : Bytes} {etype : KerberosEtype} {m : k.Message}
    (he : KerberosEtype.fromEtypeId key.etype = some etype)
    (hm : encryptData P d key kvno k.usage confounder = .ok (k.encPart m)) :
    k.decrypt P R m key = k.decodePart R (k.received etype d) := by
  rw [decrypt_eq, decryptData_encryptData P he hm, ok_bind, received]
  split
  · cases etype with
    | des3CbcSha1Kd => exact congrArg _ (Der.trimZeroPaddedDer_zeroPad hd des3BlockSize)
    | _ => exact congrArg _ (Der.trimZeroPaddedDer_of_isDefinite hd)
  · rfl

theorem received_eq_self_iff (k : PartKind) (etype : KerberosEtype) (d : Bytes) :
    k.received etype d = d ↔
      ¬ ((k = apRep ∨ k = krbCred) ∧ etype = .des3CbcSha1Kd ∧ d.length % des3BlockSize ≠ 0) := by
  have hk : (k.trims = false) ↔ (k = apRep ∨ k = krbCred) := by cases k <;> simp [trims]
  rw [← hk, received]
  cases ht : k.trims
  · have hp := etype.padded_eq_self_iff d
    rw [Nat.dvd_iff_mod_eq_zero] at hp
    simp only [Bool.false_eq_true, if_false, hp, true_and, ne_eq, not_and, not_not]
  · simp

/-- Whatever decoder is used, it is given exactly the bytes that were encrypted. -/
def HandsBack (k : PartKind) (etype : KerberosEtype) (d : Bytes) : Prop :=
  ∀ (R : Rasn) (key : EncryptionKey) (kvno : Option UInt32) (confounder : Bytes) (m : k.Message),
    KerberosEtype.fromEtypeId key.etype = some etype →
      encryptData P d key kvno k.usage confounder = .ok (k.encPart m) →
        k.decrypt P R m key = k.decodePart R d

def tellCoder (d : Bytes) {α : Type} : Coder α where
  encode _ := .error ""
  decode bytes := .error (if bytes = d then "same" else "other")

def tellRasn (d : Bytes) : Rasn where
  kerberosStringError _ := none
  apReq := tellCoder d
  authenticator := tellCoder d
  ticket := tellCoder d
  encTicketPart := tellCoder d
  apRep := tellCoder d
  encApRepPart := tellCoder d
  asRep := tellCoder d
  tgsRep := tellCoder d
  encAsRepPart := tellCoder d
  encTgsRepPart := tellCoder d
  krbPriv := tellCoder d
  encKrbPrivPart := tellCoder d
  krbCred := tellCoder d
  encKrbCredPart := tellCoder d
  krbError := tellCoder d
  asReq := tellCoder d
  tgsReq := tellCoder d
  kdcReqBody := tellCoder d
  paEncTsEnc := tellCoder d
  encryptedData := tellCoder d
  methodData := tellCoder d
  etypeInfo2 := tellCoder d
  etypeInfo := tellCoder d
  paReqEncPaRep := tellCoder d
  changePasswdData := tellCoder d

theorem decodePart_tellRasn (k : PartKind) {d bytes : Bytes}
    (h : k.decodePart (tellRasn d) bytes = k.decodePart (tellRasn d) d) : bytes = d := by
  by_contra hne
  have hs : (if bytes = d then "same" else "other") = "same" := by
    cases k <;>
      simpa [decodePart, decodeEncTicketPart, decodeAuthenticator, decodeEncApRepPart,
        decodeEncKdcRepPart, decodeEncKrbPrivPart, decodeEncKrbCredPart, EncParts.decode, tellRasn,
        tellCoder, Except.mapError] using (EncPartError.decode.inj (Except.error.inj h)).2
  rw [if_neg hne] at hs
  exact absurd hs (by decide)

theorem exists_encrypted (k : PartKind) (etype : KerberosEtype) (d : Bytes) :
    ∃ key kvno confounder, ∃ m : k.Message, KerberosEtype.fromEtypeId key.etype = some etype ∧
      encryptData P d key kvno k.usage confounder = .ok (k.encPart m) := by
  obtain ⟨cipher, hc⟩ := etype.encrypt_ok P (length_zeros etype.keyLen)
    (length_zeros etype.confounderLen) d k.usage
  have hm : ∀ data : EncryptedData, ∃ m : k.Message, k.encPart m = data := by
    intro data
    let tkt : Ticket := ⟨5, [], ⟨0, []⟩, data⟩
    cases k
    · exact ⟨tkt, rfl⟩
    · exact ⟨(⟨5, 14, [], tkt, data⟩ : ApReq), rfl⟩
    · exact ⟨(⟨5, 15, data⟩ : ApRep), rfl⟩
    · exact ⟨(⟨5, 11, none, [], ⟨0, []⟩, tkt, data⟩ : KdcRep), rfl⟩
    · exact ⟨(⟨5, 13, none, [], ⟨0, []⟩, tkt, data⟩ : KdcRep), rfl⟩
    · exact ⟨(⟨5, 21, data⟩ : KrbPriv), rfl⟩
    · exact ⟨(⟨5, 22, [], data⟩ : KrbCred), rfl⟩
  obtain ⟨m, hm⟩ := hm ⟨etype.etypeId, none, cipher⟩
  refine ⟨⟨etype.etypeId, zeros etype.keyLen⟩, none, zeros etype.confounderLen, m,
    KerberosEtype.fromEtypeId_etypeId etype, ?_⟩
  rw [hm, encryptData_eq_ok]
  exact ⟨etype, KerberosEtype.fromEtypeId_etypeId etype, rfl, rfl, hc⟩

theorem handsBack_iff_received (k : PartKind) (etype : KerberosEtype) {d : Bytes}
    (hd : Der.IsDefinite d) : k.HandsBack P etype d ↔ k.received etype d = d := by
  constructor
  · intro h
    obtain ⟨key, kvno, confounder, m, he, hm⟩ := exists_encrypted P k etype d
    have hdec := h (tellRasn d) key kvno confounder m he hm
    rw [decrypt_of_encrypted P (tellRasn d) k hd he hm] at hdec
    exact decodePart_tellRasn k hdec
  · intro h R key kvno confounder m he hm
    rw [decrypt_of_encrypted P R k hd he hm, h]

section Values

variable {R} (hR : R.Lawful)

theorem decodeEncKdcRepPart_of_asRep {v : EncKdcRepPart} {d : Bytes}
    (h : R.encAsRepPart.decode d = .ok v) : decodeEncKdcRepPart R d = .ok v := by
  simp only [decodeEncKdcRepPart, EncParts.decode, h, Except.mapError]

theorem decodeEncKdcRepPart_of_tgsRep {v : EncKdcRepPart} {d : Bytes} {e : String}
    (he : R.encAsRepPart.decode d = .error e) (h : R.encTgsRepPart.decode d = .ok v) :
    decodeEncKdcRepPart R d = .ok v := by
  simp only [decodeEncKdcRepPart, EncParts.decode, he, h, Except.mapError]

include hR

theorem decodePart_of_encodePart (k : PartKind) {v : k.Part} {d : Bytes} (hw : k.IsWhole v)
    (h : k.encodePart R v = .ok d) : k.decodePart R d = .ok v := by
  cases k with
  | ticket => exact mapError_eq_ok.mpr (hR.encTicketPart.decode_encode hw h)
  | authenticator _ => exact mapError_eq_ok.mpr (hR.authenticator.decode_encode hw h)
  | apRep => exact mapError_eq_ok.mpr (hR.encApRepPart.decode_encode hw h)
  | asRep => exact decodeEncKdcRepPart_of_asRep (hR.encAsRepPart.decode_encode hw h)
  | tgsRep =>
    obtain ⟨e, he⟩ := hR.encAsRepPart_rejects h
    exact decodeEncKdcRepPart_of_tgsRep he (hR.encTgsRepPart.decode_encode hw h)
  | krbPriv => exact mapError_eq_ok.mpr (hR.encKrbPrivPart.decode_encode hw h)
  | krbCred => exact mapError_eq_ok.mpr (hR.encKrbCredPart.decode_encode hw h)

omit hR

theorem Built.encrypted {k : PartKind} {v : k.Part} {key : EncryptionKey} {kvno : Option UInt32}
    {confounder : Bytes} {m : k.Message} (h : k.Built P R v key kvno confounder m) :
    ∃ d, k.encodePart R v = .ok d ∧
      encryptData P d key kvno k.usage confounder = .ok (k.encPart m) := by
  cases k with
  | ticket =>
    obtain ⟨realm, sname, h⟩ := h
    obtain ⟨d, data, hd, he, rfl⟩ := buildTicketWithConfounder_eq_ok P R h
    exact ⟨d, hd, he⟩
  | authenticator usage =>
    obtain ⟨tkt, options, h⟩ := h
    obtain ⟨d, data, hd, he, rfl⟩ := buildApReqWithConfounder_eq_ok P R h
    exact ⟨d, hd, he⟩
  | apRep =>
    obtain ⟨d, data, hd, he, rfl⟩ := buildApRepWithConfounder_eq_ok P R h
    exact ⟨d, hd, he⟩
  | asRep => exact encryptAsRepEncPartWithConfounder_eq_ok P R h
  | tgsRep => exact encryptTgsRepEncPartWithConfounder_eq_ok P R h
  | krbPriv =>
    obtain ⟨userData, options, rfl, h⟩ := h
    obtain ⟨d, data, hd, he, rfl⟩ := buildKrbPrivWithConfounder_eq_ok P R h
    exact ⟨d, hd, he⟩
  | krbCred =>
    obtain ⟨rfl, credentials, tickets, hp, h⟩ := h
    obtain ⟨d, data, hd, he, rfl⟩ := KrbCred.encryptCcacheCredentials_eq_ok P R hp h
    exact ⟨d, hd, he⟩

theorem decrypt_of_built (hR : R.Lawful) {k : PartKind} {etype : KerberosEtype} {d : Bytes}
    (hr : k.received etype d = d) {v : k.Part} {key : EncryptionKey} {kvno : Option UInt32}
    {confounder : Bytes} {m : k.Message} (hw : k.IsWhole v) (hd : Der.IsDefinite d)
    (henc : k.encodePart R v = .ok d) (he : KerberosEtype.fromEtypeId key.etype = some etype)
    (hb : k.Built P R v key kvno confounder m) : k.decrypt P R m key = .ok v := by
  obtain ⟨d', henc', hm⟩ := hb.encrypted P
  obtain rfl := Except.ok.inj (henc.symm.trans henc')
  rw [decrypt_of_encrypted P R k hd he hm, hr]
  exact decodePart_of_encodePart hR k hw henc

end Values

/-- The helpers hand back what was encrypted, and so the value that was built, except for
AP-REP and KRB-CRED parts under DES3 whose encoding is not a whole number of blocks. -/
theorem handsBack_iff (k : PartKind) (etype : KerberosEtype) {d : Bytes} (hd : Der.IsDefinite d) :
    (k.HandsBack P etype d ↔
      ¬ ((k = apRep ∨ k = krbCred) ∧ etype = .des3CbcSha1Kd ∧ d.length % des3BlockSize ≠ 0)) ∧
    (¬ ((k = apRep ∨ k = krbCred) ∧ etype = .des3CbcSha1Kd ∧ d.length % des3BlockSize ≠ 0) →
      ∀ (R : Rasn) (v : k.Part) (key : EncryptionKey) (kvno : Option UInt32) (confounder : Bytes)
        (m : k.Message), R.Lawful → k.IsWhole v → k.encodePart R v = .ok d →
          KerberosEtype.fromEtypeId key.etype = some etype → k.Built P R v key kvno confounder m →
            k.decrypt P R m key = .ok v) := by
  rw [handsBack_iff_received P k etype hd, ← received_eq_self_iff]
  exact ⟨Iff.rfl, fun hr R v key kvno confounder m hR hw henc he hb ↦
    decrypt_of_built P hR hr hw hd henc he hb⟩

/-- `EncAPRepPart` with `ctime` 2026-01-01 00:00:00 and `cusec` zero: 28 bytes. -/
def encApRepPartDer : Bytes :=
  [0x7b, 0x1a, 0x30, 0x18, 0xa0, 0x11, 0x18, 0x0f, 0x32, 0x30, 0x32, 0x36, 0x30, 0x31, 0x30, 0x31,
   0x30, 0x30, 0x30, 0x30, 0x30, 0x30, 0x5a, 0xa1, 0x03, 0x02, 0x01, 0x00]

theorem isDefinite_encApRepPartDer : Der.IsDefinite encApRepPartDer :=
  ⟨by decide, [0x7b], [0x1a], encApRepPartDer.drop 2, .low (by decide), .short (by decide), rfl⟩

theorem handsBack_apRep_aes : Der.IsDefinite encApRepPartDer ∧
    apRep.HandsBack fips197 (.sha1 .aes128) encApRepPartDer :=
  ⟨isDefinite_encApRepPartDer,
    (handsBack_iff fips197 apRep (.sha1 .aes128) isDefinite_encApRepPartDer).1.mpr (by decide)⟩

theorem not_handsBack_apRep_des3 : Der.IsDefinite encApRepPartDer ∧
    ¬ apRep.HandsBack fips197 .des3CbcSha1Kd encApRepPartDer := by
  refine ⟨isDefinite_encApRepPartDer, ?_⟩
  rw [handsBack_iff_received fips197 apRep _ isDefinite_encApRepPartDer, received_eq_self_iff]
  decide

end PartKind

end Rskrb5
