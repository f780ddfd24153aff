import Rskrb5.Keytab.Format

namespace Rskrb5.Keytab

open Lib.Results Lib.Readers FileFormat

/-- What follows the key of a record: a 32-bit key version with more behind it, or too little for one. -/
inductive Tail
  | present (kvno : UInt32) (extra : Bytes)
  | omitted (rest : Bytes)

/-- An entry as it stands in a file. -/
structure Record where
  principal : Principal
  timestamp : UInt32
  kvno8 : UInt8
  etype : Int16
  value : Bytes
  tail : Tail

inductive Piece
  | entry (record : Record)
  | hole (contents : Bytes)

/-- What follows the last piece of a file. -/
inductive Trailer
  | short (rest : Bytes)
  | zero (rest : Bytes)

section Layout

variable (version : UInt8) (endian : Endian)

def countedString (s : String) : Bytes := writeU16 endian (UInt16.ofNat (asBytes s).length) ++ asBytes s

def principalBytes (principal : Principal) : Bytes :=
  writeU16 endian (UInt16.ofNat (writtenCount version principal.components)) ++
    (countedString endian principal.realm ++ (principal.components.flatMap (countedString endian) ++
      writeNameType endian version principal.nameType))

def Tail.bytes : Tail → Bytes
  | .present kvno extra => writeU32 endian kvno ++ extra
  | .omitted rest => rest

def Record.body (record : Record) : Bytes :=
  principalBytes version endian record.principal ++ (writeU32 endian record.timestamp ++
    ([record.kvno8] ++ (writeU16 endian record.etype.toUInt16 ++
      (writeU16 endian (UInt16.ofNat record.value.length) ++
        (record.value ++ record.tail.bytes endian)))))

def Piece.bytes : Piece → Bytes
  | .entry record => writeI32 endian (Int32.ofInt (record.body version endian).length) ++
      record.body version endian
  | .hole contents => writeI32 endian (Int32.ofInt (-contents.length)) ++ contents

def Trailer.bytes : Trailer → Bytes
  | .short rest => rest
  | .zero rest => writeI32 endian 0 ++ rest

end Layout

def fileBytes (target : Endian) (version : UInt8) (pieces : List Piece) (trailer : Trailer) : Bytes :=
  [keytabFirstByte, version] ++ (pieces.flatMap (Piece.bytes version (endianForVersion target version)) ++
    trailer.bytes (endianForVersion target version))

/-- A 32-bit key version of zero stands for the 8-bit one, as does a missing one. -/
def Tail.effectiveKvno (kvno8 : UInt8) : Tail → UInt32
  | .present kvno _ => if kvno = 0 then kvno8.toUInt32 else kvno
  | .omitted _ => kvno8.toUInt32

/-- The entry that a record encodes. Version 1 has no room for the name type. -/
def Record.entry (version : UInt8) (record : Record) : Entry where
  principal :=
    { record.principal with
      nameType := if version = 1 then 0 else record.principal.nameType }
  timestamp := record.timestamp
  kvno8 := record.kvno8
  key := ⟨record.etype.toInt32, record.value⟩
  kvno := record.tail.effectiveKvno record.kvno8

def Piece.entries (version : UInt8) : Piece → List Entry
  | .entry record => [record.entry version]
  | .hole _ => []

def Tail.Fits : Tail → Prop
  | .present _ _ => True
  | .omitted rest => rest.length < 4

structure Record.Fits (version : UInt8) (endian : Endian) (record : Record) : Prop where
  count : writtenCount version record.principal.components < 2 ^ 15
  realm : (asBytes record.principal.realm).length < 2 ^ 15
  components : ∀ component ∈ record.principal.components, (asBytes component).length < 2 ^ 15
  value : record.value.length < 2 ^ 15
  tail : record.tail.Fits
  length : (record.body version endian).length < 2 ^ 31

def Piece.Fits (version : UInt8) (endian : Endian) : Piece → Prop
  | .entry record => record.Fits version endian
  | .hole contents => 1 ≤ contents.length ∧ contents.length < 2 ^ 31

def Trailer.Fits : Trailer → Prop
  | .short rest => rest.length < 4
  | .zero _ => True

variable {version : UInt8} {endian : Endian}

theorem writeCountedString_eq {s : String} (hlt : (asBytes s).length < 2 ^ 15) :
    writeCountedString endian s = .ok (countedString endian s) := by
  rw [writeCountedString, writeU16Checked_of_lt endian (Int.natCast_nonneg _) (by omega)]
  rfl

theorem writePrincipal_eq {principal : Principal}
    (hcount : writtenCount version principal.components < 2 ^ 15)
    (hrealm : (asBytes principal.realm).length < 2 ^ 15)
    (hcomponents : ∀ component ∈ principal.components, (asBytes component).length < 2 ^ 15) :
    writePrincipal version endian principal = .ok (principalBytes version endian principal) := by
  have hwritten : ∀ s ∈ principal.components,
      written (writeCountedString endian) s = countedString endian s :=
    fun s hs ↦ written_eq (writeCountedString_eq (hcomponents s hs))
  have hall : writeAll (writeCountedString endian) principal.components =
      .ok (principal.components.flatMap (countedString endian)) := by
    rw [writeAll_of_forall fun s hs ↦ write_eq_written ⟨_, writeCountedString_eq (hcomponents s hs)⟩,
      List.flatMap_congr hwritten]
  rw [writePrincipal, writeU16Checked_of_lt endian (Int.natCast_nonneg _) (by omega),
    writeCountedString_eq hrealm, hall]
  rfl

theorem principalBytes_nameType (principal : Principal) :
    principalBytes version endian
        { principal with
          nameType := if version = 1 then 0 else principal.nameType } =
      principalBytes version endian principal := by
  rw [principalBytes, principalBytes, writeNameType, writeNameType]
  split <;> rfl

theorem reads_principalBytes {principal : Principal}
    (hcount : writtenCount version principal.components < 2 ^ 15)
    (hrealm : (asBytes principal.realm).length < 2 ^ 15)
    (hcomponents : ∀ component ∈ principal.components, (asBytes component).length < 2 ^ 15) :
    Reads (readPrincipal version endian) (principalBytes version endian principal)
      { principal with
        nameType := if version = 1 then 0 else principal.nameType } := by
  rw [← principalBytes_nameType]
  exact reads_readPrincipal hcount hrealm hcomponents (fun hv ↦ if_pos hv)
    (writePrincipal_eq hcount hrealm hcomponents)

theorem run_readKvno (kvno8 : UInt8) {tail : Tail} (h : tail.Fits) (offset : ℕ) :
    ∃ c, (readKvno endian kvno8).run ⟨offset, tail.bytes endian⟩ = .ok (tail.effectiveKvno kvno8, c) := by
  cases tail with
  | present kvno extra =>
    have hfour : 4 ≤ (writeU32 endian kvno ++ extra).length := by simp
    have hread : (readKvno32 endian kvno8).run ⟨offset, writeU32 endian kvno ++ extra⟩ =
        .ok (kvno, ⟨offset + (writeU32 endian kvno).length, extra⟩) := by
      rw [readKvno32, run_get_bind, if_pos hfour]
      exact reads_readU32 kvno offset extra
    refine ⟨⟨offset + (writeU32 endian kvno).length, extra⟩, ?_⟩
    rw [readKvno, Tail.bytes, run_bind_of_ok hread]
    rfl
  | omitted rest =>
    have hfew : ¬ 4 ≤ rest.length := Nat.not_le.mpr h
    have hread : (readKvno32 endian kvno8).run ⟨offset, rest⟩ = .ok (kvno8.toUInt32, ⟨offset, rest⟩) := by
      rw [readKvno32, run_get_bind, if_neg hfew]
      rfl
    refine ⟨⟨offset, rest⟩, ?_⟩
    rw [readKvno, Tail.bytes, run_bind_of_ok hread, Tail.effectiveKvno]
    split <;> rfl

theorem readInput_readEntry {record : Record} (h : record.Fits version endian) :
    ∃ c, readInput (readEntry version endian) (record.body version endian) =
      .ok (record.entry version, c) := by
  have hvalue : Reads (readLength endian) (writeU16 endian (UInt16.ofNat record.value.length))
      record.value.length :=
    reads_readLength h.value
      (writeU16Checked_of_lt endian (Int.natCast_nonneg record.value.length) (by have := h.value; omega))
  have hetype : Reads (readI16 endian) (writeU16 endian record.etype.toUInt16) record.etype := by
    have hread : Reads (readI16 endian) _ _ := reads_readI16 record.etype.toUInt16
    rwa [Int16.toInt16_toUInt16] at hread
  have hkey : Reads (readBytes record.value.length) record.value record.value := .takeItems _ rfl
  rw [readInput, readEntry, Record.body,
    (reads_principalBytes h.count h.realm h.components).run_bind, (reads_readU32 _).run_bind,
    (reads_readU8 _).run_bind, hetype.run_bind, hvalue.run_bind, hkey.run_bind]
  obtain ⟨c, hkvno⟩ := run_readKvno record.kvno8 h.tail _
  refine ⟨c, ?_⟩
  rw [run_bind_of_ok hkvno]
  rfl

theorem Piece.four_le_length (piece : Piece) (version : UInt8) (endian : Endian) :
    4 ≤ (piece.bytes version endian).length := by
  cases piece <;> simp [Piece.bytes]

theorem Record.body_ne_nil (record : Record) : record.body version endian ≠ [] := by
  simp [Record.body]

theorem reads_entry {record : Record} (h : record.Fits version endian) (entries : List Entry) :
    Reads (readRecord version endian entries) (Piece.bytes version endian (.entry record))
      (.yield (entries ++ [record.entry version])) := by
  obtain ⟨c, hentry⟩ := readInput_readEntry h
  have hpos : 0 < (record.body version endian).length := List.length_pos_iff.mpr record.body_ne_nil
  have hlt := h.length
  have hint : (Int32.ofInt (record.body version endian).length).toInt = (record.body version endian).length :=
    Int32.toInt_ofInt_of_le (by omega) (by omega)
  have hzero : Int32.ofInt (record.body version endian).length ≠ 0 := by
    intro heq
    rw [heq, Int32.toInt_zero] at hint
    omega
  refine (reads_readI32 _).bind ?_
  rw [if_neg hzero, if_neg (by omega), hint]
  exact (Reads.takeItems _ (by simp)).last (.skip (.lift hentry) (.pure _))

theorem reads_hole {contents : Bytes} (hpos : 1 ≤ contents.length) (hlt : contents.length < 2 ^ 31)
    (entries : List Entry) :
    Reads (readRecord version endian entries) (Piece.bytes version endian (.hole contents))
      (.yield entries) := by
  have hint : (Int32.ofInt (-contents.length)).toInt = -contents.length :=
    Int32.toInt_ofInt_of_le (by omega) (by omega)
  have hzero : Int32.ofInt (-contents.length) ≠ 0 := by
    intro heq
    rw [heq, Int32.toInt_zero] at hint
    omega
  have habs : checkedAbs (Int32.ofInt (-contents.length)) = .ok contents.length := by
    have hne : -(contents.length : ℤ) ≠ -2 ^ 31 := by omega
    rw [checkedAbs, hint, ensure_of hne]
    simp
  refine (reads_readI32 _).bind ?_
  rw [if_neg hzero, if_pos (by omega)]
  exact .skip (.lift habs) ((Reads.takeItems _ rfl).last (.pure _))

theorem reads_piece {piece : Piece} (h : piece.Fits version endian) (entries : List Entry) :
    Reads (readRecord version endian entries) (piece.bytes version endian)
      (.yield (entries ++ piece.entries version)) := by
  cases piece with
  | entry record => exact reads_entry h entries
  | hole contents =>
    rw [Piece.entries, List.append_nil]
    exact reads_hole h.1 h.2 entries

theorem run_trailer (version : UInt8) {trailer : Trailer} (h : trailer.Fits) (entries : List Entry) (offset : ℕ) :
    ∃ c, (loop hasRecord (readRecord version endian) entries).run ⟨offset, trailer.bytes endian⟩ =
      .ok (entries, c) := by
  have hbody : ∀ entries, Parses (readRecord version endian entries) fun _ used ↦ used ≠ [] :=
    fun entries ↦ (parses_readRecord entries).mono fun _ _ h ↦ h.1
  cases trailer with
  | short rest =>
    have hmore : ¬ hasRecord ⟨offset, rest⟩ = true := by
      simpa [hasRecord, Trailer.Fits] using h
    refine ⟨⟨offset, rest⟩, ?_⟩
    rw [Trailer.bytes, run_loop hbody, if_neg hmore]
  | zero rest =>
    have hmore : hasRecord ⟨offset, writeI32 endian 0 ++ rest⟩ = true := by
      simp [hasRecord]
    have hturn : Reads (readRecord version endian entries) (writeI32 endian 0) (.done entries) :=
      (reads_readI32 0).last (.pure _)
    refine ⟨⟨offset + (writeI32 endian 0).length, rest⟩, ?_⟩
    rw [Trailer.bytes, run_loop hbody, if_pos hmore, hturn.run_bind]
    rfl

theorem foldl_append_entries (pieces : List Piece) (entries : List Entry) :
    pieces.foldl (fun entries piece ↦ entries ++ piece.entries version) entries =
      entries ++ pieces.flatMap (Piece.entries version) := by
  induction pieces generalizing entries with
  | nil => simp
  | cons piece pieces ih => rw [List.foldl_cons, ih, List.flatMap_cons, List.append_assoc]

/-- A file of records and holes in any order is read as the entries of its records. -/
theorem parse_fileBytes (target : Endian) (version : UInt8) (pieces : List Piece) (trailer : Trailer)
    (hversion : version = 1 ∨ version = 2)
    (hpieces : ∀ piece ∈ pieces, piece.Fits version (endianForVersion target version))
    (htrailer : trailer.Fits) :
    parse target (fileBytes target version pieces trailer) =
      .ok ⟨version, pieces.flatMap (Piece.entries version)⟩ := by
  have hmore : ∀ piece ∈ pieces, ∀ offset rest,
      hasRecord ⟨offset, piece.bytes version (endianForVersion target version) ++ rest⟩ = true := by
    intro piece _ offset rest
    have hfour := piece.four_le_length version (endianForVersion target version)
    simp only [hasRecord, List.length_append, decide_eq_true_eq]
    omega
  have hloop := run_loop_append (fun entries ↦ (parses_readRecord entries).mono fun _ _ h ↦ h.1)
    (fun entries piece hpiece ↦ reads_piece (hpieces piece hpiece) entries) hmore [] 2
    (trailer.bytes (endianForVersion target version))
  rw [foldl_append_entries, List.nil_append] at hloop
  obtain ⟨c, hc⟩ := run_trailer version htrailer (pieces.flatMap (Piece.entries version))
    (2 + (pieces.flatMap (Piece.bytes version (endianForVersion target version))).length)
  rw [hc] at hloop
  simp [parse, fileBytes, hversion, readRecords, hloop, ensure_of]

section Samples

def hostRecord (kvno8 : UInt8) (tail : Tail) : Record where
  principal := ⟨"A", 1, ["host", "a"]⟩
  timestamp := 60
  kvno8 := kvno8
  etype := 18
  value := [1, 2, 3]
  tail := tail

/-- A hole that looks like a record of one byte, between two entries. -/
def hostPieces : List Piece :=
  [.entry (hostRecord 2 (.present 0 [9])), .hole [0, 0, 0, 1], .entry (hostRecord 3 (.omitted [7]))]

theorem fits_hostRecord (kvno8 : UInt8) {tail : Tail} (htail : tail.Fits)
    (hlength : (tail.bytes .big).length ≤ 8) : (hostRecord kvno8 tail).Fits 2 .big := by
  have hhead : (principalBytes 2 .big ⟨"A", 1, ["host", "a"]⟩).length = 18 := by decide
  have hrealm : (asBytes "A").length < 2 ^ 15 := by decide
  have hcomponents : ∀ component ∈ ["host", "a"], (asBytes component).length < 2 ^ 15 := by decide
  refine ⟨by simp [writtenCount, hostRecord], hrealm, hcomponents, by simp [hostRecord], htail, ?_⟩
  simp only [Record.body, hostRecord, List.length_append, hhead, length_writeU32, length_writeU16,
    List.length_cons, List.length_nil]
  omega

theorem parse_hostPieces :
    parse .little (fileBytes .little 2 hostPieces (.zero [0, 0, 0, 9])) =
      .ok ⟨2, [(hostRecord 2 (.present 2 [])).entry 2, (hostRecord 3 (.present 3 [])).entry 2]⟩ := by
  refine (parse_fileBytes .little 2 hostPieces (.zero [0, 0, 0, 9]) (.inr rfl) ?_ trivial).trans rfl
  have hshort : (Tail.omitted [7]).Fits := by simp [Tail.Fits]
  rw [hostPieces, List.forall_mem_cons, List.forall_mem_cons, List.forall_mem_singleton]
  exact ⟨fits_hostRecord 2 trivial (by decide), ⟨by decide, by decide⟩, fits_hostRecord 3 hshort (by decide)⟩

end Samples

end Rskrb5.Keytab
