import Rskrb5.Spnego

namespace Rskrb5.Spnego

open Lib.Results Lib.Readers

section Fields

variable {σ α : Type} {set : σ → Tlv → Except Error σ}

/-- A field of a sequence, with what the reader does to its fields when it meets it. -/
abbrev Item (σ : Type) := Tlv × (σ → σ)

def encodeItem (item : Item σ) : Bytes := encodeTlv item.1.tag item.1.value

def optionalItem (tag : UInt8) (encode : α → Bytes) (update : α → σ → σ) : Option α → List (Item σ)
  | none => []
  | some a => [(⟨tag, encode a⟩, update a)]

theorem encodeOptional_some (tag : UInt8) (encode : α → Bytes) (a : α) :
    encodeOptional tag encode (some a) = encodeTlv tag (encode a) := rfl

theorem flatMap_optionalItem (tag : UInt8) (encode : α → Bytes) (update : α → σ → σ) (field : Option α) :
    (optionalItem tag encode update field).flatMap encodeItem = encodeOptional tag encode field := by
  cases field with
  | none => rfl
  | some a => simp [optionalItem, encodeItem, encodeOptional, encodeExplicit]

theorem mem_optionalItem {tag : UInt8} {encode : α → Bytes} {update : α → σ → σ} {field : Option α}
    {item : Item σ} :
    item ∈ optionalItem tag encode update field ↔ ∃ a ∈ field, item = (⟨tag, encode a⟩, update a) := by
  cases field with
  | none => simp [optionalItem]
  | some a => simp [optionalItem]

theorem parses_fieldTurn (fields : σ) : Parses (fieldTurn set fields) fun _ used ↦ used ≠ [] :=
  parses_readTlv.bind fun field used h ↦ .skip fun _ _ ↦ .pure (by simp [h.1])

theorem decodeFields_items {items : List (Item σ)} (start : σ)
    (hlength : (items.flatMap encodeItem).length < 2 ^ 64)
    (hset : ∀ item ∈ items, item.1.tag &&& 0x1f ≠ 0x1f ∧ ∀ fields, item.1.value.length < 2 ^ 64 →
      set fields item.1 = .ok (item.2 fields)) :
    decodeFields set start (encodeTlv tagSequence (items.flatMap encodeItem)) =
      .ok (items.foldl (fun fields item ↦ item.2 fields) start) := by
  have hitem : ∀ item ∈ items, item.1.value.length < 2 ^ 64 := by
    intro item hmem
    have hle : (encodeItem item).length ≤ (items.flatMap encodeItem).length := length_le_flatMap hmem
    exact lt_of_encodeTlv (hle.trans_lt hlength)
  have hread : ∀ fields, ∀ item ∈ items,
      Reads (fieldTurn set fields) (encodeItem item) (.yield (item.2 fields)) := by
    intro fields item hmem
    obtain ⟨htag, hok⟩ := hset item hmem
    exact (reads_readTlv htag (hitem item hmem)).last
      (.skip (.lift (hok fields (hitem item hmem))) (.pure _))
  have hmore : ∀ offset xs, xs <:+ items → offset + (xs.flatMap encodeItem).length =
      (items.flatMap encodeItem).length → hasRest ⟨offset, xs.flatMap encodeItem ++ []⟩ = !xs.isEmpty := by
    intro offset xs hxs _
    cases xs with
    | nil => rfl
    | cons item xs => simp [hasRest, encodeItem, encodeTlv]
  have hloop := run_loop_items parses_fieldTurn hread hmore (s := start) (Nat.zero_add _)
  rw [List.append_nil] at hloop
  rw [decodeFields, readSingleTlv_encodeTlv (by decide) hlength, ok_bind]
  dsimp only
  rw [readInput, hloop]
  rfl

theorem decodeFields_eq_ok {inv : σ → ℕ → Prop} {start fields : σ} {bytes : Bytes} (hstart : inv start 0)
    (hset : ∀ fields used field fields' n, inv fields used →
      (∀ tag value, value.length ≤ field.value.length → (encodeTlv tag value).length ≤ n) →
      set fields field = .ok fields' → inv fields' (used + n))
    (h : decodeFields set start bytes = .ok fields) :
    ∃ used, inv fields used ∧
      ∀ tag value, value.length ≤ used → (encodeTlv tag value).length ≤ bytes.length := by
  obtain ⟨sequence, hsequence, h⟩ := bind_eq_ok.mp h
  obtain ⟨⟨fields, c⟩, hread, h⟩ := bind_eq_ok.mp h
  obtain rfl := Except.ok.inj h
  have hloop : Parses (loop hasRest (fieldTurn set) start) fun fields used ↦ inv fields used.length := by
    refine .loop hstart fun fields used hinv ↦ parses_readTlv.bind fun field used' hfield ↦ ?_
    refine .skip fun fields' hset' ↦ .pure ?_
    simpa using hset fields used.length field fields' used'.length hinv hfield.2 hset'
  obtain ⟨used, hused, hinv⟩ := hloop.of_readInput hread
  refine ⟨used.length, hinv, fun tag value hle ↦ ?_⟩
  refine length_of_readSingleTlv hsequence tag value ?_
  rw [hused, List.length_append]
  omega

end Fields

section InitTokens

def InitFields.items (fields : InitFields) : List (Item InitFields) :=
  optionalItem tagContext0 (fun oids ↦ encodeTlv tagSequence (oids.flatMap (written encodeOid)))
      (fun oids fields ↦ { fields with mechTypes := some oids }) fields.mechTypes
    ++ optionalItem tagContext1 (encodeTlv tagBitString)
      (fun flags fields ↦ { fields with reqFlags := some flags }) fields.reqFlags
    ++ optionalItem tagContext2 (encodeTlv tagOctetString)
      (fun token fields ↦ { fields with mechToken := some token }) fields.mechToken
    ++ optionalItem tagContext3 (encodeTlv tagOctetString)
      (fun mic fields ↦ { fields with mechListMic := some mic }) fields.mechListMic

def NegTokenInit.fields (token : NegTokenInit) : InitFields :=
  ⟨some token.mechTypes, token.reqFlags, token.mechToken, token.mechListMic⟩

/-- Identifiers whose first two arcs fit the one byte that a reader takes them from. -/
def NegTokenInit.Readable (token : NegTokenInit) : Prop := ∀ oid ∈ token.mechTypes, oid.leading < 120

theorem NegTokenInit.encode_eq {token : NegTokenInit} (hne : token.mechTypes ≠ []) (h : token.Readable) :
    token.encode =
      .ok (encodeTlv tagContext0 (encodeTlv tagSequence (token.fields.items.flatMap encodeItem))) := by
  have hoids : ∀ oid ∈ token.mechTypes, encodeOid oid = .ok (written encodeOid oid) :=
    fun oid hoid ↦ write_eq_written ⟨_, encodeOid_of_leading (h oid hoid)⟩
  rw [encode, ensure_of hne, writeAll_of_forall hoids]
  simp only [InitFields.items, List.flatMap_append, flatMap_optionalItem]
  rfl

theorem readOids_flatMap {oids : List ObjectIdentifier} (h : ∀ oid ∈ oids, oid.leading < 120)
    (hlength : (oids.flatMap (written encodeOid)).length < 2 ^ 64) :
    readOids (oids.flatMap (written encodeOid)) = .ok oids := by
  have hread := run_untilEnd (parses_readOid.mono fun _ _ h ↦ h.1)
    (fun oid hoid ↦ reads_readOid (h oid hoid) ((length_le_flatMap hoid).trans_lt hlength)) 0
  rw [readOids, readInput, hread]
  rfl

theorem InitFields.foldl_items (fields : InitFields) :
    fields.items.foldl (fun fields item ↦ item.2 fields) {} = fields := by
  obtain ⟨mechTypes, reqFlags, mechToken, mechListMic⟩ := fields
  cases mechTypes <;> cases reqFlags <;> cases mechToken <;> cases mechListMic <;> rfl

theorem InitFields.set_items {fields : InitFields}
    (h : ∀ oids ∈ fields.mechTypes, ∀ oid ∈ oids, oid.leading < 120) (item : Item InitFields)
    (hitem : item ∈ fields.items) : item.1.tag &&& 0x1f ≠ 0x1f ∧ ∀ fields : InitFields,
      item.1.value.length < 2 ^ 64 → fields.set item.1 = .ok (item.2 fields) := by
  simp only [items, List.mem_append, mem_optionalItem] at hitem
  obtain ((⟨oids, hoids, rfl⟩ | ⟨flags, -, rfl⟩) | ⟨token, -, rfl⟩) | ⟨mic, -, rfl⟩ := hitem
  · refine ⟨show tagContext0 &&& 0x1f ≠ 0x1f by decide, fun fields hlength ↦ ?_⟩
    have hvalue := lt_of_encodeTlv hlength
    change (readSingleTlv _ tagSequence >>= _) = _
    rw [readSingleTlv_encodeTlv (by decide) hvalue, ok_bind, readOids_flatMap (h oids hoids) hvalue]
    rfl
  · refine ⟨show tagContext1 &&& 0x1f ≠ 0x1f by decide, fun fields hlength ↦ ?_⟩
    change (readSingleTlv _ tagBitString >>= _) = _
    rw [readSingleTlv_encodeTlv (by decide) (lt_of_encodeTlv hlength)]
    rfl
  · refine ⟨show tagContext2 &&& 0x1f ≠ 0x1f by decide, fun fields hlength ↦ ?_⟩
    change (readSingleTlv _ tagOctetString >>= _) = _
    rw [readSingleTlv_encodeTlv (by decide) (lt_of_encodeTlv hlength)]
    rfl
  · refine ⟨show tagContext3 &&& 0x1f ≠ 0x1f by decide, fun fields hlength ↦ ?_⟩
    change (readSingleTlv _ tagOctetString >>= _) = _
    rw [readSingleTlv_encodeTlv (by decide) (lt_of_encodeTlv hlength)]
    rfl

theorem decodeNegTokenInit_fields {token : NegTokenInit} (hne : token.mechTypes ≠ []) (h : token.Readable)
    (hlength : (token.fields.items.flatMap encodeItem).length < 2 ^ 64) :
    decodeNegTokenInit (encodeTlv tagSequence (token.fields.items.flatMap encodeItem)) = .ok token := by
  have hoids : ∀ oids ∈ token.fields.mechTypes, ∀ oid ∈ oids, oid.leading < 120 := by
    intro oids hoids
    obtain rfl : token.mechTypes = oids := Option.some.inj hoids
    exact h
  have hfields := decodeFields_items {} hlength (InitFields.set_items hoids)
  rw [InitFields.foldl_items] at hfields
  rw [decodeNegTokenInit, hfields, ok_bind]
  change (ensure (token.mechTypes ≠ []) _ >>= _) = _
  rw [ensure_of hne]
  rfl

/-- What the loop has kept takes no more room than what it has read. -/
def InitFields.Bounded (fields : InitFields) (used : ℕ) : Prop :=
  (fields.items.flatMap encodeItem).length ≤ used ∧
    ∀ oids ∈ fields.mechTypes, ∀ oid ∈ oids, oid.leading < 120

theorem readOids_eq_ok {bytes : Bytes} {oids : List ObjectIdentifier} (h : readOids bytes = .ok oids) :
    (∀ oid ∈ oids, oid.leading < 120) ∧ (oids.flatMap (written encodeOid)).length ≤ bytes.length := by
  obtain ⟨⟨oids, c⟩, hread, h⟩ := bind_eq_ok.mp h
  obtain rfl := Except.ok.inj h
  have hparses := (parses_untilEnd (parses_readOid.mono fun _ _ h ↦ h.2.1)).and
    (parses_untilEnd_length (parses_readOid.mono fun _ _ h ↦ h.2.2))
  obtain ⟨used, hused, hleading, hle⟩ := hparses.of_readInput hread
  refine ⟨hleading, hle.trans ?_⟩
  rw [hused, List.length_append]
  omega

theorem InitFields.bounded_set (fields : InitFields) (used : ℕ) (field : Tlv) (fields' : InitFields) (n : ℕ)
    (hinv : fields.Bounded used)
    (hfield : ∀ tag value, value.length ≤ field.value.length → (encodeTlv tag value).length ≤ n)
    (h : fields.set field = .ok fields') : fields'.Bounded (used + n) := by
  obtain ⟨hused, hoids⟩ := hinv
  simp only [items, List.flatMap_append, flatMap_optionalItem, List.length_append] at hused
  simp only [Bounded, items, List.flatMap_append, flatMap_optionalItem, List.length_append]
  rw [set] at h
  split at h
  · obtain ⟨sequence, hsequence, h⟩ := bind_eq_ok.mp h
    obtain ⟨oids, hread, h⟩ := bind_eq_ok.mp h
    obtain rfl := Except.ok.inj h
    obtain ⟨hleading, hle⟩ := readOids_eq_ok hread
    have hlength := hfield tagContext0 _ (length_of_readSingleTlv hsequence tagSequence _ hle)
    refine ⟨?_, by simpa using hleading⟩
    simp only [encodeOptional_some]
    omega
  · split at h
    · obtain ⟨flags, hflags, h⟩ := bind_eq_ok.mp h
      obtain rfl := Except.ok.inj h
      have hlength := hfield tagContext1 _ (length_of_readSingleTlv hflags tagBitString _ le_rfl)
      refine ⟨?_, hoids⟩
      simp only [encodeOptional_some]
      omega
    · split at h
      · obtain ⟨token, htoken, h⟩ := bind_eq_ok.mp h
        obtain rfl := Except.ok.inj h
        have hlength := hfield tagContext2 _ (length_of_readSingleTlv htoken tagOctetString _ le_rfl)
        refine ⟨?_, hoids⟩
        simp only [encodeOptional_some]
        omega
      · split at h
        · obtain ⟨mic, hmic, h⟩ := bind_eq_ok.mp h
          obtain rfl := Except.ok.inj h
          have hlength := hfield tagContext3 _ (length_of_readSingleTlv hmic tagOctetString _ le_rfl)
          refine ⟨?_, hoids⟩
          simp only [encodeOptional_some]
          omega
        · cases h

theorem decodeNegTokenInit_eq_ok {bytes : Bytes} {token : NegTokenInit}
    (h : decodeNegTokenInit bytes = .ok token) : token.mechTypes ≠ [] ∧ token.Readable ∧
      (encodeTlv tagSequence (token.fields.items.flatMap encodeItem)).length ≤ bytes.length := by
  obtain ⟨fields, hfields, h⟩ := bind_eq_ok.mp h
  obtain ⟨mechTypes, hmech, h⟩ := bind_eq_ok.mp h
  obtain ⟨_, hne, h⟩ := bind_eq_ok.mp h
  obtain rfl := Except.ok.inj h
  have hmech := okOr_eq_ok.mp hmech
  have hstart : InitFields.Bounded {} 0 := ⟨le_rfl, nofun⟩
  obtain ⟨used, ⟨hused, hoids⟩, hlength⟩ := decodeFields_eq_ok hstart InitFields.bounded_set hfields
  refine ⟨ensure_eq_ok.mp hne, hoids mechTypes hmech, hlength tagSequence _ ?_⟩
  rw [NegTokenInit.fields, ← hmech]
  exact hused

end InitTokens

section RespTokens

namespace NegTokenResp

def items (fields : NegTokenResp) : List (Item NegTokenResp) :=
  optionalItem tagContext0 (fun state : NegState ↦ encodeTlv tagEnumerated (encodeU32 state.value))
      (fun state fields ↦ { fields with negState := some state }) fields.negState
    ++ optionalItem tagContext1 (written encodeOid)
      (fun oid fields ↦ { fields with supportedMech := some oid }) fields.supportedMech
    ++ optionalItem tagContext2 (encodeTlv tagOctetString)
      (fun token fields ↦ { fields with responseToken := some token }) fields.responseToken
    ++ optionalItem tagContext3 (encodeTlv tagOctetString)
      (fun mic fields ↦ { fields with mechListMic := some mic }) fields.mechListMic

def Readable (token : NegTokenResp) : Prop := ∀ oid ∈ token.supportedMech, oid.leading < 120

theorem encode_eq {token : NegTokenResp} (h : token.Readable) :
    token.encode = .ok (encodeTlv tagContext1 (encodeTlv tagSequence (token.items.flatMap encodeItem))) := by
  have hmech : token.supportedMech.mapM encodeOid = .ok (token.supportedMech.map (written encodeOid)) := by
    cases hoid : token.supportedMech with
    | none => rfl
    | some oid =>
      have hok := write_eq_written ⟨_, encodeOid_of_leading (h oid hoid)⟩
      change (do return some (← encodeOid oid)) = Except.ok (some (written encodeOid oid))
      rw [hok]
      rfl
  have hmap : encodeOptional tagContext1 id (token.supportedMech.map (written encodeOid)) =
      encodeOptional tagContext1 (written encodeOid) token.supportedMech := by
    cases token.supportedMech <;> rfl
  rw [encode, hmech, ok_bind, hmap]
  simp only [items, List.flatMap_append, flatMap_optionalItem]
  rfl

theorem foldl_items (fields : NegTokenResp) :
    fields.items.foldl (fun fields item ↦ item.2 fields) ⟨none, none, none, none⟩ = fields := by
  obtain ⟨negState, supportedMech, responseToken, mechListMic⟩ := fields
  cases negState <;> cases supportedMech <;> cases responseToken <;> cases mechListMic <;> rfl

theorem decodeU32_value (state : NegState) :
    decodeU32 (encodeU32 state.value) = .ok state.value ∧ NegState.fromValue state.value = .ok state := by
  cases state <;> exact ⟨by decide, rfl⟩

theorem length_encodeU32_value (state : NegState) : (encodeU32 state.value).length = 1 := by
  cases state <;> decide

theorem ne_nil_of_decodeU32 {bytes : Bytes} {value : UInt32} (h : decodeU32 bytes = .ok value) :
    bytes ≠ [] := by
  obtain ⟨_, hlength, -⟩ := bind_eq_ok.mp h
  exact (ensure_eq_ok.mp hlength).1

theorem decodeOidTlv_written {oid : ObjectIdentifier} (h : oid.leading < 120) :
    ∃ value, written encodeOid oid = encodeTlv tagObjectIdentifier value ∧
      decodeOidTlv ⟨tagObjectIdentifier, value⟩ = .ok oid := by
  refine ⟨_, written_eq (encodeOid_of_leading h), ?_⟩
  rw [decodeOidTlv, expectTag, ensure_of rfl]
  exact decodeOidValue_oidValue h

theorem set_items {fields : NegTokenResp} (h : fields.Readable) (item : Item NegTokenResp)
    (hitem : item ∈ fields.items) : item.1.tag &&& 0x1f ≠ 0x1f ∧ ∀ fields : NegTokenResp,
      item.1.value.length < 2 ^ 64 → fields.set item.1 = .ok (item.2 fields) := by
  simp only [items, List.mem_append, mem_optionalItem] at hitem
  obtain ((⟨state, -, rfl⟩ | ⟨oid, hoid, rfl⟩) | ⟨token, -, rfl⟩) | ⟨mic, -, rfl⟩ := hitem
  · refine ⟨show tagContext0 &&& 0x1f ≠ 0x1f by decide, fun fields hlength ↦ ?_⟩
    obtain ⟨hvalue, hstate⟩ := decodeU32_value state
    change (readSingleTlv _ tagEnumerated >>= _) = _
    rw [readSingleTlv_encodeTlv (by decide) (lt_of_encodeTlv hlength), ok_bind, hvalue, ok_bind, hstate]
    rfl
  · refine ⟨show tagContext1 &&& 0x1f ≠ 0x1f by decide, fun fields hlength ↦ ?_⟩
    obtain ⟨value, hvalue, hread⟩ := decodeOidTlv_written (h oid hoid)
    change (readSingleTlv (written encodeOid oid) tagObjectIdentifier >>= _) = _
    change (written encodeOid oid).length < 2 ^ 64 at hlength
    rw [hvalue] at hlength ⊢
    rw [readSingleTlv_encodeTlv (by decide) (lt_of_encodeTlv hlength), ok_bind, hread]
    rfl
  · refine ⟨show tagContext2 &&& 0x1f ≠ 0x1f by decide, fun fields hlength ↦ ?_⟩
    change (readSingleTlv _ tagOctetString >>= _) = _
    rw [readSingleTlv_encodeTlv (by decide) (lt_of_encodeTlv hlength)]
    rfl
  · refine ⟨show tagContext3 &&& 0x1f ≠ 0x1f by decide, fun fields hlength ↦ ?_⟩
    change (readSingleTlv _ tagOctetString >>= _) = _
    rw [readSingleTlv_encodeTlv (by decide) (lt_of_encodeTlv hlength)]
    rfl

theorem decodeNegTokenResp_items {token : NegTokenResp} (h : token.Readable)
    (hlength : (token.items.flatMap encodeItem).length < 2 ^ 64) :
    decodeNegTokenResp (encodeTlv tagSequence (token.items.flatMap encodeItem)) = .ok token := by
  rw [decodeNegTokenResp, decodeFields_items _ hlength (set_items h), foldl_items]

def Bounded (fields : NegTokenResp) (used : ℕ) : Prop :=
  (fields.items.flatMap encodeItem).length ≤ used ∧ fields.Readable

theorem bounded_set (fields : NegTokenResp) (used : ℕ) (field : Tlv) (fields' : NegTokenResp) (n : ℕ)
    (hinv : fields.Bounded used)
    (hfield : ∀ tag value, value.length ≤ field.value.length → (encodeTlv tag value).length ≤ n)
    (h : fields.set field = .ok fields') : fields'.Bounded (used + n) := by
  obtain ⟨hused, hoid⟩ := hinv
  simp only [items, List.flatMap_append, flatMap_optionalItem, List.length_append] at hused
  simp only [Bounded, items, List.flatMap_append, flatMap_optionalItem, List.length_append]
  rw [set] at h
  split at h
  · obtain ⟨enumerated, henum, h⟩ := bind_eq_ok.mp h
    obtain ⟨value, hvalue, h⟩ := bind_eq_ok.mp h
    obtain ⟨state, hstate, h⟩ := bind_eq_ok.mp h
    obtain rfl := Except.ok.inj h
    have hone : (encodeU32 state.value).length ≤ enumerated.value.length := by
      rw [length_encodeU32_value]
      exact List.length_pos_iff.mpr (ne_nil_of_decodeU32 hvalue)
    have hlength := hfield tagContext0 _ (length_of_readSingleTlv henum tagEnumerated _ hone)
    refine ⟨?_, hoid⟩
    simp only [encodeOptional_some]
    omega
  · split at h
    · obtain ⟨mech, hmech, h⟩ := bind_eq_ok.mp h
      obtain ⟨oid, hread, h⟩ := bind_eq_ok.mp h
      obtain rfl := Except.ok.inj h
      obtain ⟨_, -, hvalue⟩ := bind_eq_ok.mp hread
      obtain ⟨hlt, hle⟩ := oidValue_of_decodeOidValue hvalue
      have hlength := hfield tagContext1 _ (length_of_readSingleTlv hmech tagObjectIdentifier _ hle)
      rw [← written_eq (encodeOid_of_leading hlt)] at hlength
      refine ⟨?_, by simpa [Readable] using hlt⟩
      simp only [encodeOptional_some]
      omega
    · split at h
      · obtain ⟨token, htoken, h⟩ := bind_eq_ok.mp h
        obtain rfl := Except.ok.inj h
        have hlength := hfield tagContext2 _ (length_of_readSingleTlv htoken tagOctetString _ le_rfl)
        refine ⟨?_, hoid⟩
        simp only [encodeOptional_some]
        omega
      · split at h
        · obtain ⟨mic, hmic, h⟩ := bind_eq_ok.mp h
          obtain rfl := Except.ok.inj h
          have hlength := hfield tagContext3 _ (length_of_readSingleTlv hmic tagOctetString _ le_rfl)
          refine ⟨?_, hoid⟩
          simp only [encodeOptional_some]
          omega
        · cases h

end NegTokenResp

theorem decodeNegTokenResp_eq_ok {bytes : Bytes} {token : NegTokenResp}
    (h : decodeNegTokenResp bytes = .ok token) : token.Readable ∧
      (encodeTlv tagSequence (token.items.flatMap encodeItem)).length ≤ bytes.length := by
  have hstart : NegTokenResp.Bounded ⟨none, none, none, none⟩ 0 := ⟨le_rfl, nofun⟩
  obtain ⟨used, ⟨hused, hoid⟩, hlength⟩ := decodeFields_eq_ok hstart NegTokenResp.bounded_set h
  exact ⟨hoid, hlength tagSequence _ hused⟩

end RespTokens

end Rskrb5.Spnego
