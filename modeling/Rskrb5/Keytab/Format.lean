import Rskrb5.FileFormat
import Rskrb5.Keytab

namespace Rskrb5.Keytab

open Lib.Results Lib.Readers FileFormat

def keytabFirstByte : UInt8 := 5

/-- Version 1 is written in the byte order of the target. -/
def endianForVersion (target : Endian) (version : UInt8) : Endian :=
  if version = 1 ∧ target = .little then .little else .big

section Parse

variable (version : UInt8) (endian : Endian)

def readLength : FileReader ℕ := do
  let len ← readI16 endian
  nonNegative len.toInt32

def readCountedString : FileReader String := do
  let len ← readLength endian
  let raw ← readBytes len
  utf8String raw

def readPrincipal : FileReader Principal := do
  let count ← readI16 endian
  let count ← componentCount version (-2 ^ 15) count.toInt
  let realm ← readCountedString endian
  let components ← times (readCountedString endian) count
  let nameType ← readNameType endian version
  return { realm, nameType, components }

/-- The 32-bit key version is there when four bytes are left for it. -/
def readKvno32 (kvno8 : UInt8) : FileReader UInt32 := do
  let c ← get
  if 4 ≤ c.rest.length then readU32 endian else return kvno8.toUInt32

def readKvno (kvno8 : UInt8) : FileReader UInt32 := do
  let kvno ← readKvno32 endian kvno8
  return if kvno = 0 then kvno8.toUInt32 else kvno

def readEntry : FileReader Entry := do
  let principal ← readPrincipal version endian
  let timestamp ← readU32 endian
  let kvno8 ← readU8
  let etype ← readI16 endian
  let keyLen ← readLength endian
  let value ← readBytes keyLen
  let kvno ← readKvno endian kvno8
  return { principal, timestamp, kvno8, key := ⟨etype.toInt32, value⟩, kvno }

def checkedAbs (value : Int32) : Except FileError ℕ := do
  ensure (value.toInt ≠ -2 ^ 31) .lengthOverflow
  return value.toInt.natAbs

/-- One turn of the loop over the file: the end, a hole, or an entry in a slice of its own. -/
def readRecord (entries : List Entry) : FileReader (ForInStep (List Entry)) := do
  let entryLen ← readI32 endian
  if entryLen = 0 then return .done entries
  else if entryLen.toInt < 0 then
    let skip ← checkedAbs entryLen
    let _ ← readBytes skip
    return .yield entries
  else
    let entryBytes ← readBytes entryLen.toInt.toNat
    let (entry, _) ← readInput (readEntry version endian) entryBytes
    return .yield (entries ++ [entry])

def hasRecord (c : Cursor UInt8) : Bool := 4 ≤ c.rest.length

def readRecords : FileReader (List Entry) := loop hasRecord (readRecord version endian) []

end Parse

def parse (target : Endian) (bytes : Bytes) : Except FileError Keytab := do
  ensure (2 ≤ bytes.length) (.tooShort bytes.length)
  let firstByte := bytes.getD 0 0
  ensure (firstByte = keytabFirstByte) (.invalidFirstByte firstByte)
  let version := bytes.getD 1 0
  ensure (version = 1 ∨ version = 2) (.invalidVersion version)
  let (entries, _) ← (readRecords version (endianForVersion target version)).run ⟨2, bytes.drop 2⟩
  return { version, entries }

section Write

variable (version : UInt8) (endian : Endian)

def writeCountedString (value : String) : Except FileError Bytes := do
  let len ← writeU16Checked endian (asBytes value).length
  return len ++ asBytes value

def writePrincipal (principal : Principal) : Except FileError Bytes := do
  let count ← writeU16Checked endian (writtenCount version principal.components)
  let realm ← writeCountedString endian principal.realm
  let components ← writeAll (writeCountedString endian) principal.components
  return count ++ (realm ++ (components ++ writeNameType endian version principal.nameType))

def writeBody (entry : Entry) : Except FileError Bytes := do
  let principal ← writePrincipal version endian entry.principal
  let etype ← writeU16Checked endian entry.key.etype.toInt
  let keyLen ← writeU16Checked endian entry.key.value.length
  return principal ++ (writeU32 endian entry.timestamp ++ ([entry.kvno8] ++ (etype ++ (keyLen ++
    (entry.key.value ++ writeU32 endian entry.kvno)))))

def writeEntry (entry : Entry) : Except FileError Bytes := do
  let body ← writeBody version endian entry
  let bodyLen ← writeI32LenChecked endian body.length
  return bodyLen ++ body

end Write

def toBytes (target : Endian) (keytab : Keytab) : Except FileError Bytes := do
  let records ← writeAll (writeEntry keytab.version (endianForVersion target keytab.version))
    keytab.entries
  return [keytabFirstByte, keytab.version] ++ records

/-- Everything that the reader takes for a signed 16-bit number is below the half of the writer's
range. -/
structure Entry.Fits (version : UInt8) (entry : Entry) : Prop where
  count : writtenCount version entry.principal.components < 2 ^ 15
  realm : (asBytes entry.principal.realm).length < 2 ^ 15
  components : ∀ component ∈ entry.principal.components, (asBytes component).length < 2 ^ 15
  etype : entry.key.etype.toInt < 2 ^ 15
  key : entry.key.value.length < 2 ^ 15

/-- Version 1 has no name types, and a 32-bit key version of zero stands for the 8-bit one. -/
structure Entry.Normal (version : UInt8) (entry : Entry) : Prop where
  nameType : version = 1 → entry.principal.nameType = 0
  kvno : entry.kvno ≠ 0 ∨ entry.kvno8 = 0

section Reads

variable {version : UInt8} {endian : Endian}

theorem toInt_toInt16 {value : ℤ} (h0 : 0 ≤ value) (hlt : value < 2 ^ 15) :
    (UInt16.ofNat value.toNat).toInt16.toInt = value := by
  have hnat : (UInt16.ofNat value.toNat).toBitVec.toNat = value.toNat := by
    change (UInt16.ofNat value.toNat).toNat = _
    rw [UInt16.toNat_ofNat', Nat.mod_eq_of_lt (by omega)]
  change (UInt16.ofNat value.toNat).toBitVec.toInt = value
  rw [BitVec.toInt_eq_toNat_of_lt (by omega), hnat]
  omega

theorem reads_readI16_of_writeU16Checked {value : ℤ} {bs : Bytes} (hlt : value < 2 ^ 15)
    (h : writeU16Checked endian value = .ok bs) :
    ∃ read : Int16, read.toInt = value ∧ Reads (readI16 endian) bs read := by
  obtain ⟨⟨h0, -⟩, rfl⟩ := writeU16Checked_eq_ok.mp h
  exact ⟨_, toInt_toInt16 h0 hlt, reads_readI16 _⟩

theorem reads_readLength {n : ℕ} {bs : Bytes} (hlt : n < 2 ^ 15)
    (h : writeU16Checked endian n = .ok bs) : Reads (readLength endian) bs n := by
  obtain ⟨read, hn, hread⟩ := reads_readI16_of_writeU16Checked (by exact_mod_cast hlt) h
  refine hread.last (.lift ?_)
  rw [nonNegative_eq_ok, Int16.toInt_toInt32, hn]

theorem reads_readCountedString {s : String} {bs : Bytes} (hlt : (asBytes s).length < 2 ^ 15)
    (h : writeCountedString endian s = .ok bs) : Reads (readCountedString endian) bs s := by
  obtain ⟨len, hlen, hbs⟩ := bind_eq_ok.mp h
  obtain rfl := Except.ok.inj hbs
  have htext : Reads (liftM (utf8String (asBytes s)) : FileReader String) [] s :=
    .lift (utf8String_eq_ok.mpr rfl)
  exact (reads_readLength hlt hlen).bind ((Reads.takeItems _ rfl).last htext)

theorem reads_readPrincipal {principal : Principal} {bs : Bytes}
    (hcount : writtenCount version principal.components < 2 ^ 15)
    (hrealm : (asBytes principal.realm).length < 2 ^ 15)
    (hcomponents : ∀ component ∈ principal.components, (asBytes component).length < 2 ^ 15)
    (hname : version = 1 → principal.nameType = 0)
    (h : writePrincipal version endian principal = .ok bs) :
    Reads (readPrincipal version endian) bs principal := by
  simp only [writePrincipal, bind_eq_ok, pure_eq_ok, Except.ok.injEq] at h
  obtain ⟨count, hc, realm, hr, components, hs, rfl⟩ := h
  obtain ⟨rfl, hall⟩ := writeAll_eq_ok hs
  obtain ⟨read, hread, hreads⟩ := reads_readI16_of_writeU16Checked (by exact_mod_cast hcount) hc
  have hcountOk : componentCount version (-2 ^ 15) read.toInt = .ok principal.components.length := by
    rw [componentCount_eq_ok (by norm_num) (by norm_num) read.le_toInt (by have := read.toInt_lt; omega),
      hread, writtenCount]
  refine hreads.bind (.skip (.lift hcountOk) ?_)
  refine (reads_readCountedString hrealm hr).bind ?_
  refine (Reads.times fun s hm ↦ reads_readCountedString (hcomponents s hm) (hall s hm)).bind ?_
  exact (reads_readNameType hname).last (.pure _)

theorem reads_readKvno {kvno8 : UInt8} {kvno : UInt32} (h : kvno ≠ 0 ∨ kvno8 = 0) :
    Reads (readKvno endian kvno8) (writeU32 endian kvno) kvno := by
  have hread : Reads (readKvno32 endian kvno8) (writeU32 endian kvno) kvno := by
    intro offset rest
    have hrest : 4 ≤ (writeU32 endian kvno ++ rest).length := by simp
    rw [readKvno32, StateT.run_bind, StateT.run_get, pure_eq_ok, ok_bind]
    dsimp only
    rw [if_pos hrest, reads_readU32]
  have hkvno : (if kvno = 0 then kvno8.toUInt32 else kvno) = kvno := by
    split
    · next h0 =>
      rw [h.resolve_left (not_not.mpr h0), h0]
      rfl
    · rfl
  refine hread.last ?_
  rw [hkvno]
  exact .pure kvno

theorem reads_readEntry {entry : Entry} {bs : Bytes} (hf : entry.Fits version)
    (hn : entry.Normal version) (h : writeBody version endian entry = .ok bs) :
    Reads (readEntry version endian) bs entry := by
  simp only [writeBody, bind_eq_ok, pure_eq_ok, Except.ok.injEq] at h
  obtain ⟨principal, hp, etype, he, keyLen, hk, rfl⟩ := h
  obtain ⟨read, hread, hetype⟩ := reads_readI16_of_writeU16Checked hf.etype he
  have hread32 : read.toInt32 = entry.key.etype := by
    rw [← Int32.toInt_inj, Int16.toInt_toInt32, hread]
  refine (reads_readPrincipal hf.count hf.realm hf.components hn.nameType hp).bind ?_
  refine (reads_readU32 _).bind ((reads_readU8 _).bind (hetype.bind ?_))
  refine (reads_readLength hf.key hk).bind ((Reads.takeItems _ rfl).bind ?_)
  refine (reads_readKvno hn.kvno).last ?_
  rw [hread32]
  exact .pure _

theorem four_le_length_of_writeBody {entry : Entry} {body : Bytes}
    (h : writeBody version endian entry = .ok body) : 4 ≤ body.length := by
  simp only [writeBody, bind_eq_ok, pure_eq_ok, Except.ok.injEq] at h
  obtain ⟨principal, -, etype, -, keyLen, -, rfl⟩ := h
  simp only [List.length_append, length_writeU32]
  omega

theorem reads_readRecord {entry : Entry} {bs : Bytes} (hf : entry.Fits version)
    (hn : entry.Normal version) (h : writeEntry version endian entry = .ok bs) (entries : List Entry) :
    Reads (readRecord version endian entries) bs (.yield (entries ++ [entry])) := by
  simp only [writeEntry, bind_eq_ok, pure_eq_ok, Except.ok.injEq] at h
  obtain ⟨body, hbody, bodyLen, hlen, rfl⟩ := h
  obtain ⟨⟨hlow, hhigh⟩, rfl⟩ := writeI32LenChecked_eq_ok.mp hlen
  have hpos := four_le_length_of_writeBody hbody
  have hint : (Int32.ofInt (body.length : ℤ)).toInt = body.length := Int32.toInt_ofInt_of_le hlow hhigh
  have hzero : Int32.ofInt (body.length : ℤ) ≠ 0 := by
    intro heq
    rw [heq] at hint
    simp at hint
    omega
  refine (reads_readI32 _).bind ?_
  rw [if_neg hzero, if_neg (by omega), hint]
  have hentry := (reads_readEntry hf hn hbody).readInput_eq
  exact (Reads.takeItems _ (by simp)).last (.skip (.lift hentry) (.pure _))

end Reads

section Loaded

variable {version : UInt8} {endian : Endian}

theorem parses_readLength : Parses (readLength endian) fun n _ ↦ n < 2 ^ 15 := by
  refine parses_readI16.bind fun len _ _ ↦ .lift fun n hn ↦ ?_
  rw [nonNegative_eq_ok, Int16.toInt_toInt32] at hn
  have hlt := len.toInt_lt
  omega

theorem parses_readCountedString :
    Parses (readCountedString endian) fun s _ ↦ (asBytes s).length < 2 ^ 15 := by
  refine parses_readLength.bind fun n _ hn ↦ (Parses.takeItems _ n).bind fun raw _ hraw ↦ .lift fun s hs ↦ ?_
  rw [← utf8String_eq_ok.mp hs, hraw.1, hraw.2]
  exact hn

theorem parses_readPrincipal :
    Parses (readPrincipal version endian) fun principal _ ↦
      (writtenCount version principal.components < 2 ^ 15 ∧ (asBytes principal.realm).length < 2 ^ 15 ∧
        ∀ component ∈ principal.components, (asBytes component).length < 2 ^ 15) ∧
      (version = 1 → principal.nameType = 0) := by
  refine parses_readI16.bind fun count _ _ ↦ ?_
  have hlt := count.toInt_lt
  have hcount : Parses (liftM (componentCount version (-2 ^ 15) count.toInt) : FileReader ℕ)
      fun n _ ↦ (if version = 1 then n + 1 else n) < 2 ^ 15 := by
    refine .lift fun n hn ↦ ?_
    rw [componentCount_eq_ok (by norm_num) (by norm_num) count.le_toInt (by omega)] at hn
    split at hn
    · next hv =>
      rw [if_pos hv]
      omega
    · next hv =>
      rw [if_neg hv]
      omega
  refine hcount.bind fun n _ hn ↦ parses_readCountedString.bind fun realm _ hr ↦ ?_
  refine (parses_readCountedString.times n).bind fun components _ hc ↦ ?_
  refine (parses_readNameType version).bind fun nameType _ ht ↦ .pure ?_
  exact ⟨⟨by rwa [writtenCount, hc.1], hr, hc.2⟩, ht⟩

theorem parses_readKvno (kvno8 : UInt8) :
    Parses (readKvno endian kvno8) fun kvno _ ↦ kvno ≠ 0 ∨ kvno8 = 0 := by
  have hread : Parses (readKvno32 endian kvno8) fun _ _ ↦ True := by
    refine Parses.get.bind fun c _ _ ↦ ?_
    split
    · exact parses_readU32.mono fun _ _ _ ↦ trivial
    · exact .pure trivial
  refine hread.bind fun kvno _ _ ↦ .pure ?_
  split
  · by_cases h8 : kvno8 = 0
    · exact .inr h8
    · refine .inl fun h ↦ h8 ?_
      rw [← UInt8.toNat_inj, ← UInt8.toNat_toUInt32, h]
      rfl
  · next h0 => exact .inl h0

/-- What a file can hold: every etype that a signed 16-bit number can be. -/
theorem parses_readEntry : Parses (readEntry version endian) fun entry _ ↦
    entry.Fits version ∧ entry.Normal version := by
  refine parses_readPrincipal.bind fun principal _ hp ↦ parses_readU32.bind fun timestamp _ _ ↦ ?_
  refine parses_readU8.bind fun kvno8 _ _ ↦ parses_readI16.bind fun etype _ _ ↦ ?_
  refine parses_readLength.bind fun n _ hn ↦ (Parses.takeItems _ n).bind fun value _ hv ↦ ?_
  refine (parses_readKvno kvno8).bind fun kvno _ hk ↦ .pure ?_
  have hetype : etype.toInt32.toInt < 2 ^ 15 := by
    rw [Int16.toInt_toInt32]
    exact etype.toInt_lt
  have hkey : value.length < 2 ^ 15 := by rwa [hv.1, hv.2]
  exact ⟨⟨hp.1.1, hp.1.2.1, hp.1.2.2, hetype, hkey⟩, ⟨hp.2, hk⟩⟩

theorem parses_readRecord (entries : List Entry) :
    Parses (readRecord version endian entries) fun x used ↦ used ≠ [] ∧
      ((∀ entry ∈ entries, entry.Fits version ∧ entry.Normal version) →
        ∀ entry ∈ x.value, entry.Fits version ∧ entry.Normal version) := by
  refine parses_readI32.bind fun entryLen used hused ↦ ?_
  have hne : ∀ used', used ++ used' ≠ [] := by
    intro used' h
    simp [(List.append_eq_nil_iff.mp h).1] at hused
  split
  · exact .pure ⟨hne _, id⟩
  split
  · have hskip : Parses (liftM (checkedAbs entryLen) : FileReader ℕ) fun _ _ ↦ True :=
      .lift fun _ _ ↦ trivial
    exact hskip.bind fun skip _ _ ↦ (Parses.takeItems _ skip).bind fun _ _ _ ↦ .pure ⟨hne _, id⟩
  · refine (Parses.takeItems _ _).bind fun entryBytes _ _ ↦ ?_
    have hentry : Parses (liftM (readInput (readEntry version endian) entryBytes) :
        FileReader (Entry × Cursor UInt8)) fun x _ ↦ x.1.Fits version ∧ x.1.Normal version := by
      refine .lift fun x hx ↦ ?_
      obtain ⟨_, -, hfits⟩ := parses_readEntry.of_readInput hx
      exact hfits
    refine hentry.bind fun x _ hx ↦ .pure ⟨hne _, fun h ↦ ?_⟩
    simpa only [ForInStep.value, List.forall_mem_append, List.forall_mem_singleton] using ⟨h, hx⟩

theorem parses_readRecords : Parses (readRecords version endian) fun entries _ ↦
    ∀ entry ∈ entries, entry.Fits version ∧ entry.Normal version :=
  .loop (by simp) fun entries _ h ↦ (parses_readRecord entries).mono fun _ _ hx ↦ hx.2 h

theorem writeCountedString_of_lt (endian : Endian) {s : String} (hlt : (asBytes s).length < 2 ^ 15) :
    ∃ len, len.length = 2 ∧ writeCountedString endian s = .ok (len ++ asBytes s) := by
  have hlen := writeU16Checked_of_lt endian (Int.natCast_nonneg (asBytes s).length) (by omega)
  refine ⟨writeU16 endian (UInt16.ofNat (asBytes s).length), length_writeU16 _, ?_⟩
  rw [writeCountedString, hlen]
  rfl

theorem writeAll_of_lt (endian : Endian) {components : List String}
    (h : ∀ s ∈ components, (asBytes s).length < 2 ^ 15) :
    ∃ bs, writeAll (writeCountedString endian) components = .ok bs ∧
      bs.length ≤ components.length * 32769 := by
  have hwritten : ∀ s ∈ components, writeCountedString endian s =
      .ok (written (writeCountedString endian) s) := by
    intro s hs
    obtain ⟨len, -, hs⟩ := writeCountedString_of_lt endian (h s hs)
    exact write_eq_written ⟨_, hs⟩
  refine ⟨_, writeAll_of_forall hwritten, ?_⟩
  refine length_flatMap_le fun s hs ↦ ?_
  obtain ⟨len, hlen, hs'⟩ := writeCountedString_of_lt endian (h s hs)
  have hlt := h s hs
  rw [written_eq hs', List.length_append, hlen]
  omega

/-- The longest entry that a file can hold is about half as long as the length field allows. -/
theorem writeBody_of_fits (endian : Endian) {entry : Entry} (hf : entry.Fits version)
    (h0 : 0 ≤ entry.key.etype.toInt) :
    ∃ body, writeBody version endian entry = .ok body ∧ body.length < 2 ^ 31 := by
  have hc := hf.count
  have he := hf.etype
  have hr := hf.realm
  have hk := hf.key
  have hcount := writeU16Checked_of_lt endian
    (Int.natCast_nonneg (writtenCount version entry.principal.components)) (by omega)
  have hkey := writeU16Checked_of_lt endian (Int.natCast_nonneg entry.key.value.length) (by omega)
  have hetype := writeU16Checked_of_lt endian h0 (by omega)
  obtain ⟨len, hlen, hrealm⟩ := writeCountedString_of_lt endian hf.realm
  obtain ⟨components, hcomponents, hle⟩ := writeAll_of_lt endian hf.components
  simp only [writeBody, writePrincipal, hcount, hkey, hrealm, hcomponents, hetype, ok_bind,
    pure_eq_ok]
  refine ⟨_, rfl, ?_⟩
  have hn : entry.principal.components.length < 2 ^ 15 := by
    refine Nat.lt_of_le_of_lt ?_ hf.count
    rw [writtenCount]
    split <;> omega
  have hname : (writeNameType endian version entry.principal.nameType).length ≤ 4 := by
    rw [writeNameType]
    split <;> simp
  simp only [List.length_append, length_writeU16, length_writeU32, hlen, List.length_singleton]
  omega

theorem writeEntry_of_fits (endian : Endian) {entry : Entry} (hf : entry.Fits version)
    (h0 : 0 ≤ entry.key.etype.toInt) :
    writeEntry version endian entry = .ok (written (writeEntry version endian) entry) := by
  obtain ⟨body, hbody, hlt⟩ := writeBody_of_fits endian hf h0
  have hwrite : writeEntry version endian entry =
      .ok (writeI32 endian (Int32.ofInt (body.length : ℤ)) ++ body) := by
    rw [writeEntry, hbody, ok_bind, writeI32LenChecked_of_lt endian hlt]
    rfl
  exact write_eq_written ⟨_, hwrite⟩

theorem etype_of_writeEntry {entry : Entry} {bs : Bytes} (h : writeEntry version endian entry = .ok bs) :
    0 ≤ entry.key.etype.toInt := by
  simp only [writeEntry, writeBody, bind_eq_ok, writeU16Checked_eq_ok] at h
  obtain ⟨body, ⟨principal, -, etype, ⟨⟨h0, -⟩, -⟩, -⟩, -⟩ := h
  exact h0

theorem run_readRecords {entries : List Entry} (hf : ∀ entry ∈ entries, entry.Fits version)
    (hn : ∀ entry ∈ entries, entry.Normal version)
    (hall : ∀ entry ∈ entries, writeEntry version endian entry =
      .ok (written (writeEntry version endian) entry)) (offset : ℕ) :
    (readRecords version endian).run ⟨offset, entries.flatMap (written (writeEntry version endian))⟩ =
      .ok (entries, ⟨offset + (entries.flatMap (written (writeEntry version endian))).length, []⟩) := by
  have hfour : ∀ entry ∈ entries, 4 ≤ (written (writeEntry version endian) entry).length := by
    intro entry hentry
    obtain ⟨body, -, hwrite⟩ := bind_eq_ok.mp (hall entry hentry)
    obtain ⟨len, hlen, heq⟩ := bind_eq_ok.mp hwrite
    obtain ⟨-, rfl⟩ := writeI32LenChecked_eq_ok.mp hlen
    rw [← Except.ok.inj heq, List.length_append, length_writeI32]
    omega
  have hmore : ∀ o xs, xs <:+ entries → o + (xs.flatMap (written (writeEntry version endian))).length =
        offset + (entries.flatMap (written (writeEntry version endian))).length →
      hasRecord ⟨o, xs.flatMap (written (writeEntry version endian)) ++ []⟩ = !xs.isEmpty := by
    intro o xs hxs _
    cases xs with
    | nil => rfl
    | cons entry xs =>
      have h4 := hfour entry (hxs.subset List.mem_cons_self)
      simp only [hasRecord, List.flatMap_cons, List.append_nil, List.length_append, List.isEmpty_cons,
        Bool.not_false, decide_eq_true_eq]
      omega
  have hloop := run_loop_items (fun entries ↦ (parses_readRecord entries).mono fun _ _ h ↦ h.1)
    (fun entries entry hentry ↦ reads_readRecord (hf entry hentry) (hn entry hentry)
      (hall entry hentry) entries) hmore (s := []) rfl
  rwa [List.append_nil, foldl_append_singleton] at hloop

end Loaded

section Files

variable {target : Endian}

theorem parse_eq_ok {bytes : Bytes} {keytab : Keytab} (h : parse target bytes = .ok keytab) :
    (keytab.version = 1 ∨ keytab.version = 2) ∧
      ∀ entry ∈ keytab.entries, entry.Fits keytab.version ∧ entry.Normal keytab.version := by
  simp only [parse, bind_eq_ok, ensure_eq_ok, pure_eq_ok, Except.ok.injEq] at h
  obtain ⟨-, -, -, -, -, hversion, ⟨entries, c⟩, hloop, rfl⟩ := h
  obtain ⟨_, -, -, hentries⟩ := parses_readRecords _ _ _ hloop
  exact ⟨hversion, hentries⟩

theorem parse_toBytes {keytab : Keytab} {bytes : Bytes} (hversion : keytab.version = 1 ∨ keytab.version = 2)
    (hf : ∀ entry ∈ keytab.entries, entry.Fits keytab.version)
    (hn : ∀ entry ∈ keytab.entries, entry.Normal keytab.version)
    (h : keytab.toBytes target = .ok bytes) : parse target bytes = .ok keytab := by
  obtain ⟨records, hrecords, hbytes⟩ := bind_eq_ok.mp h
  obtain rfl := Except.ok.inj hbytes
  obtain ⟨rfl, hall⟩ := writeAll_eq_ok hrecords
  simp [parse, hversion, run_readRecords hf hn hall, ensure_of]

/-- A keytab that was written is read back exactly when its counts, lengths and etypes fit the
signed 16-bit numbers of the reader. -/
theorem parse_toBytes_iff (target : Endian) (keytab : Keytab) (bytes : Bytes)
    (hversion : keytab.version = 1 ∨ keytab.version = 2)
    (hn : ∀ entry ∈ keytab.entries, entry.Normal keytab.version)
    (h : keytab.toBytes target = .ok bytes) :
    parse target bytes = .ok keytab ↔ ∀ entry ∈ keytab.entries, entry.Fits keytab.version := by
  constructor
  · exact fun hp entry hentry ↦ ((parse_eq_ok hp).2 entry hentry).1
  · exact fun hf ↦ parse_toBytes hversion hf hn h

/-- A keytab that was read is written and read back exactly when it has no negative etype. -/
theorem toBytes_of_parse_iff (target : Endian) (bytes : Bytes) (keytab : Keytab)
    (h : parse target bytes = .ok keytab) :
    (∃ saved, keytab.toBytes target = .ok saved ∧ parse target saved = .ok keytab) ↔
      ∀ entry ∈ keytab.entries, 0 ≤ entry.key.etype.toInt := by
  obtain ⟨hversion, hentries⟩ := parse_eq_ok h
  constructor
  · intro h entry hentry
    obtain ⟨saved, hsaved, -⟩ := h
    obtain ⟨records, hrecords, -⟩ := bind_eq_ok.mp hsaved
    exact etype_of_writeEntry ((writeAll_eq_ok hrecords).2 entry hentry)
  · intro h0
    have hall := writeAll_of_forall fun entry hentry ↦ writeEntry_of_fits
      (endianForVersion target keytab.version) (hentries entry hentry).1 (h0 entry hentry)
    have hsaved : keytab.toBytes target = .ok ([keytabFirstByte, keytab.version] ++ keytab.entries.flatMap
        (written (writeEntry keytab.version (endianForVersion target keytab.version)))) := by
      rw [toBytes, hall]
      rfl
    exact ⟨_, hsaved, parse_toBytes hversion (fun entry hentry ↦ (hentries entry hentry).1)
      (fun entry hentry ↦ (hentries entry hentry).2) hsaved⟩

section Samples

def hostEntry (etype : Int32) : Entry where
  principal := ⟨"A", 1, ["host", "a"]⟩
  timestamp := 60
  kvno8 := 2
  key := ⟨etype, [1, 2, 3]⟩
  kvno := 2

def hostKeytab (etype : Int32) : Keytab := ⟨2, [hostEntry etype]⟩

def hostBytes (etypeHigh etypeLow : UInt8) : Bytes :=
  [5, 2, 0, 0, 0, 34, 0, 2, 0, 1, 65, 0, 4, 104, 111, 115, 116, 0, 1, 97, 0, 0, 0, 1, 0, 0, 0, 60, 2,
    etypeHigh, etypeLow, 0, 3, 1, 2, 3, 0, 0, 0, 2]

theorem normal_hostEntry (etype : Int32) : (hostEntry etype).Normal 2 :=
  ⟨fun h ↦ absurd h (by decide), .inl (by simp [hostEntry])⟩

theorem fits_hostEntry : (hostEntry 18).Fits 2 := by
  refine ⟨?_, ?_, ?_, ?_, ?_⟩ <;> decide

theorem toBytes_hostKeytab : (hostKeytab 18).toBytes .little = .ok (hostBytes 0 18) := by decide +kernel

theorem parse_hostBytes : parse .little (hostBytes 0 18) = .ok (hostKeytab 18) :=
  (parse_toBytes_iff .little (hostKeytab 18) _ (.inr rfl)
    (List.forall_mem_singleton.mpr (normal_hostEntry 18)) toBytes_hostKeytab).mpr
    (List.forall_mem_singleton.mpr fits_hostEntry)

/-- An etype in the upper half of the writer's range comes back negative. -/
theorem parse_toBytes_upper_etype : (∀ entry ∈ (hostKeytab 32768).entries, entry.Normal 2) ∧
    (hostKeytab 32768).toBytes .little = .ok (hostBytes 128 0) ∧
    parse .little (hostBytes 128 0) ≠ .ok (hostKeytab 32768) :=
  ⟨List.forall_mem_singleton.mpr (normal_hostEntry 32768), by decide, by decide⟩

theorem toBytes_of_parse_hostBytes :
    ∃ saved, (hostKeytab 18).toBytes .little = .ok saved ∧ parse .little saved = .ok (hostKeytab 18) := by
  have hparse : parse .little (hostBytes 0 18) = .ok (hostKeytab 18) := by decide
  refine (toBytes_of_parse_iff .little (hostBytes 0 18) (hostKeytab 18) hparse).mpr ?_
  exact List.forall_mem_singleton.mpr (by decide)

/-- A negative etype is read, and then refused. -/
theorem toBytes_negative_etype : parse .little (hostBytes 255 123) = .ok (hostKeytab (-133)) ∧
    (hostKeytab (-133)).toBytes .little = .error .lengthOverflow := by
  decide

end Samples

end Files

end Rskrb5.Keytab
