import Rskrb5.CCache
import Rskrb5.Lib.Prefixes

namespace Rskrb5.CCache

open Lib.Results Lib.Readers FileFormat

section Stability

variable {version : UInt8} {endian : Endian}

theorem stable_readUnsigned (width : ℕ) : Stable (readUnsigned endian width) :=
  (Stable.takeItems _ width).bind fun _ ↦ .pure _

theorem stable_readU8 : Stable readU8 := (stable_readUnsigned 1).bind fun _ ↦ .pure _

theorem stable_readU16 : Stable (readU16 endian) := (stable_readUnsigned 2).bind fun _ ↦ .pure _

theorem stable_readI16 : Stable (readI16 endian) := (stable_readUnsigned 2).bind fun _ ↦ .pure _

theorem stable_readU32 : Stable (readU32 endian) := (stable_readUnsigned 4).bind fun _ ↦ .pure _

theorem stable_readI32 : Stable (readI32 endian) := (stable_readUnsigned 4).bind fun _ ↦ .pure _

theorem stable_readNameType : Stable (readNameType endian version) := by
  rw [readNameType]
  split
  · exact .pure 0
  · exact stable_readI32

theorem stable_readCount : Stable (readCount endian) := stable_readI32.bind fun _ ↦ .lift _

theorem stable_readData : Stable (readData endian) := stable_readCount.bind fun len ↦ .takeItems _ len

theorem stable_readCountedString : Stable (readCountedString endian) := stable_readData.bind fun _ ↦ .lift _

theorem stable_readHeaderField : Stable (readHeaderField endian) :=
  stable_readU16.bind fun _ ↦ stable_readU16.bind fun length ↦ (Stable.takeItems _ length.toNat).bind fun _ ↦
    (Stable.lift _).bind fun _ ↦ .pure _

theorem stable_readHeaderFields (stop : ℕ) : Stable (readHeaderFields endian stop) :=
  .loop (fun _ _ ↦ rfl) (fun _ ↦ stable_readHeaderField.bind fun _ ↦ .pure _) parses_readHeaderTurn []

/-- More input only makes the header's length easier to meet. -/
theorem stable_readHeader : Stable (readHeader endian) := by
  refine stable_readU16.bind fun length ↦ .get_bind fun start header c' h rest ↦ ?_
  obtain ⟨_, c₁, hensure, h⟩ := run_bind_eq_ok.mp h
  obtain ⟨hfits, rfl⟩ := run_lift_eq_ok.mp hensure
  have hcheck (fields : List HeaderField) (offset : ℕ) : Stable (do
      ensure (offset = start.offset + length.toNat) FileError.invalidHeaderLength
      return { fields } : FileReader Header) :=
    (Stable.lift _).bind fun _ ↦ .pure _
  have hfields : Stable (do
      let fields ← readHeaderFields endian (start.offset + length.toNat)
      let c ← get
      ensure (c.offset = start.offset + length.toNat) FileError.invalidHeaderLength
      return { fields } : FileReader Header) :=
    (stable_readHeaderFields _).bind fun fields ↦ .get_bind fun c ↦ hcheck fields c.offset c
  have hmore : length.toNat ≤ (start.followedBy rest).rest.length := by
    rw [Cursor.followedBy, List.length_append]
    exact Nat.le_add_right_of_le (ensure_eq_ok.mp hfits)
  rw [run_lift_bind (ensure_of hmore _)]
  exact hfields start header c' h rest

theorem stable_readVersionHeader : Stable (readVersionHeader version endian) := by
  rw [readVersionHeader]
  split
  · exact stable_readHeader
  · exact .pure _

theorem stable_readPrincipal : Stable (readPrincipal version endian) :=
  stable_readNameType.bind fun _ ↦ stable_readI32.bind fun _ ↦ (Stable.lift _).bind fun count ↦
    stable_readCountedString.bind fun _ ↦ (stable_readCountedString.times count).bind fun _ ↦ .pure _

theorem stable_readEtype : Stable (readEtype version endian) := by
  refine stable_readI16.bind fun etype ↦ ?_
  split
  · exact stable_readI16.bind fun _ ↦ .pure _
  · exact .pure _

theorem stable_readTimes : Stable (readTimes endian) :=
  stable_readU32.bind fun _ ↦ stable_readU32.bind fun _ ↦ stable_readU32.bind fun _ ↦
    stable_readU32.bind fun _ ↦ .pure _

theorem stable_readTicketFlags : Stable readTicketFlags := (Stable.takeItems _ 4).bind fun _ ↦ .pure _

theorem stable_readHostAddress : Stable (readHostAddress endian) :=
  stable_readI16.bind fun _ ↦ stable_readData.bind fun _ ↦ .pure _

theorem stable_readAuthorizationDataEntry : Stable (readAuthorizationDataEntry endian) :=
  stable_readI16.bind fun _ ↦ stable_readData.bind fun _ ↦ .pure _

theorem stable_readList {α : Type} {r : FileReader α} (hr : Stable r) : Stable (readList endian r) :=
  stable_readCount.bind fun count ↦ hr.times count

theorem stable_readCredential : Stable (readCredential version endian) := by
  refine stable_readPrincipal.bind fun client ↦ stable_readPrincipal.bind fun server ↦ ?_
  refine stable_readEtype.bind fun etype ↦ stable_readData.bind fun value ↦ stable_readTimes.bind fun times ↦ ?_
  refine stable_readU8.bind fun isSkey ↦ stable_readTicketFlags.bind fun flags ↦ ?_
  refine (stable_readList stable_readHostAddress).bind fun addresses ↦ ?_
  refine (stable_readList stable_readAuthorizationDataEntry).bind fun authData ↦ ?_
  exact stable_readData.bind fun ticket ↦ stable_readData.bind fun secondTicket ↦ .pure _

end Stability

section Cuts

variable {target : Endian} {file read : File} {bytes input : Bytes}

/-- The cache with its first credentials only. -/
def File.keeping (file : File) (k : ℕ) : File := { file with credentials := file.credentials.take k }

theorem File.Normal.keeping (hn : file.Normal) (k : ℕ) : (file.keeping k).Normal :=
  ⟨hn.version, hn.header, hn.defaultPrincipal,
    fun credential hm ↦ hn.credentials credential (List.mem_of_mem_take hm)⟩

/-- A cache is written as its start, with a part for each credential behind it. -/
theorem toBytes_eq_ok : file.toBytes target = .ok bytes ↔ ∃ header principal,
    writeVersionHeader file.version (endianForVersion target file.version) file.header = .ok header ∧
    writePrincipal file.version (endianForVersion target file.version) file.defaultPrincipal = .ok principal ∧
    (∀ credential ∈ file.credentials,
      writeCredential file.version (endianForVersion target file.version) credential =
        .ok (written (writeCredential file.version (endianForVersion target file.version)) credential)) ∧
    bytes = ccacheFirstByte :: file.version :: (header ++ (principal ++
      file.credentials.flatMap (written (writeCredential file.version (endianForVersion target file.version))))) := by
  simp only [File.toBytes, bind_eq_ok, pure_eq_ok, Except.ok.injEq]
  constructor
  · intro h
    obtain ⟨header, hheader, principal, hprincipal, credentials, hcredentials, rfl⟩ := h
    obtain ⟨rfl, hall⟩ := writeAll_eq_ok hcredentials
    exact ⟨header, principal, hheader, hprincipal, hall, rfl⟩
  · intro h
    obtain ⟨header, principal, hheader, hprincipal, hall, rfl⟩ := h
    exact ⟨header, hheader, principal, hprincipal, _, writeAll_of_forall hall, rfl⟩

/-- A cut that is read at all ends behind a credential, or behind the principal. -/
theorem readFile_of_isPrefix (hn : file.Normal) (h : file.toBytes target = .ok bytes)
    (hcut : ccacheFirstByte :: file.version :: input <+: bytes) {c : Cursor UInt8}
    (hrun : (readFile file.version (endianForVersion target file.version)).run ⟨2, input⟩ = .ok (read, c)) :
    ∃ k ≤ file.credentials.length,
      (file.keeping k).toBytes target = .ok (ccacheFirstByte :: file.version :: input) ∧ read = file.keeping k := by
  obtain ⟨header, principal, hheader, hprincipal, hall, rfl⟩ := toBytes_eq_ok.mp h
  rw [List.cons_prefix_cons, List.cons_prefix_cons] at hcut
  obtain ⟨header', c₁, hrun₁, hrun⟩ := run_bind_eq_ok.mp hrun
  obtain ⟨rfl, hc₁, hinput₁, hcut₁⟩ :=
    stable_readVersionHeader.split (reads_readVersionHeader hn.header hheader) hcut.2.2 hrun₁
  obtain ⟨principal', c₂, hrun₂, hrun⟩ := run_bind_eq_ok.mp hrun
  rw [hc₁] at hrun₂
  obtain ⟨rfl, hc₂, hinput₂, hcut₂⟩ :=
    stable_readPrincipal.split (reads_readPrincipal hn.defaultPrincipal hprincipal) hcut₁ hrun₂
  obtain ⟨credentials, c₃, hrun₃, hread⟩ := run_bind_eq_ok.mp hrun
  rw [hc₂] at hrun₃
  obtain ⟨k, hk, hinput₃, rfl⟩ := untilEnd_of_isPrefix stable_readCredential
    (parses_readCredential.mono fun _ _ h ↦ h.2)
    (fun credential hm ↦ reads_readCredential_of_normal (hn.credentials credential hm) (hall credential hm))
    hcut₂ hrun₃
  obtain ⟨rfl, -⟩ := Prod.mk.inj (Except.ok.inj hread)
  refine ⟨k, hk, toBytes_eq_ok.mpr ⟨header, principal, hheader, hprincipal,
    fun credential hm ↦ hall credential (List.mem_of_mem_take hm), ?_⟩, rfl⟩
  rw [hinput₁, hinput₂, hinput₃]
  rfl

end Cuts

/-- A proper part of what is written of a cache is read exactly when it ends behind the default principal or a
credential, and then as the cache without the credentials that are missing. -/
theorem parse_truncated_iff {target : Endian} {file : File} {bytes input : Bytes} (hn : file.Normal)
    (h : file.toBytes target = .ok bytes) (hcut : input <+: bytes) (hproper : input ≠ bytes) (read : File) :
    parse target input = .ok read ↔ ∃ k < file.credentials.length,
      (file.keeping k).toBytes target = .ok input ∧ read = file.keeping k := by
  constructor
  · intro hparse
    simp only [parse, bind_eq_ok, ensure_eq_ok, pure_eq_ok, Except.ok.injEq] at hparse
    obtain ⟨-, hlength, -, -, -, -, ⟨file', c⟩, hrun, rfl⟩ := hparse
    obtain ⟨first, version, input, rfl⟩ : ∃ first version rest, input = first :: version :: rest := by
      rcases input with _ | ⟨first, _ | ⟨version, rest⟩⟩
      · exact absurd hlength (by decide)
      · exact absurd hlength (by simp)
      · exact ⟨first, version, rest, rfl⟩
    obtain ⟨rfl, rfl⟩ : first = ccacheFirstByte ∧ version = file.version := by
      obtain ⟨_, _, -, -, -, rfl⟩ := toBytes_eq_ok.mp h
      rw [List.cons_prefix_cons, List.cons_prefix_cons] at hcut
      exact ⟨hcut.1, hcut.2.1⟩
    obtain ⟨k, hk, hkept, rfl⟩ := readFile_of_isPrefix hn h hcut hrun
    refine ⟨k, lt_of_le_of_ne hk ?_, hkept, rfl⟩
    -- all the credentials are no proper part
    intro heq
    subst heq
    rw [File.keeping, List.take_length, h] at hkept
    exact hproper (Except.ok.inj hkept).symm
  · intro h
    obtain ⟨k, -, hinput, rfl⟩ := h
    exact parse_toBytes (hn.keeping k) hinput

section OneTicket

def oneTicket : File where
  defaultPrincipal := ⟨"A", 1, ["a"]⟩
  credentials := [{
    client := ⟨"A", 1, ["a"]⟩
    server := ⟨"A", 2, ["h", "b"]⟩
    key := ⟨18, [1, 2]⟩
    times := ⟨1, 2, 3, 4⟩
    isSkey := false
    ticketFlags := #v[0, 1, 2, 3]
    addresses := [⟨2, [10, 0, 0, 1]⟩]
    authData := [⟨1, [7]⟩]
    ticket := [9, 8]
    secondTicket := [] }]
  version := 3
  header := ⟨[]⟩

theorem parse_truncated_iff_principal :
    parse .big ((written (File.toBytes .big) oneTicket).take 20) = .ok (oneTicket.keeping 0) := by
  have hn : oneTicket.Normal :=
    ⟨by decide, fun _ ↦ rfl, fun h ↦ absurd h (by decide), fun _ _ h ↦ absurd h (by decide)⟩
  have h : oneTicket.toBytes .big = .ok (written (File.toBytes .big) oneTicket) := by decide
  exact (parse_truncated_iff hn h (List.take_prefix _ _) (by decide) _).mpr
    ⟨0, by decide, by decide, rfl⟩

end OneTicket

end Rskrb5.CCache
