import Mathlib.Data.List.Induction
import Rskrb5.CCache
import Rskrb5.Lib.Lists

namespace Rskrb5.CCache

open Lib.Lists

/-- What a cache keeps about itself, in the ticket of a credential for a server that does not exist. -/
structure ConfigEntry where
  key : String
  principal : Option String
  value : Bytes
  deriving DecidableEq

def parseConfigEntry (credential : Credential) : Option ConfigEntry :=
  let components := credential.server.components
  if credential.server.realm ≠ xCacheconfRealm then none
  else if ¬ (2 ≤ components.length ∧ components.length ≤ 3) ∨ components.head? ≠ some xCacheconfComponent then none
  else some { key := components.getD 1 "", principal := components[2]?, value := credential.ticket }

def configEntries (cache : CCache) : List ConfigEntry := cache.credentials.filterMap parseConfigEntry

def configEntryValue (cache : CCache) (key : String) (principal : Option String) : Option Bytes :=
  (cache.configEntries.find? fun entry ↦ entry.key = key ∧ entry.principal = principal).map ConfigEntry.value

def configComponents (key : String) (principal : Option String) : List String :=
  [xCacheconfComponent, key] ++ principal.toList

def Credential.configEntry (client : Principal) (key : String) (principal : Option String) (value : Bytes) :
    Credential where
  client := client
  server := ⟨xCacheconfRealm, 0, configComponents key principal⟩
  key := ⟨0, []⟩
  times := ⟨0, 0, 0, 0⟩
  isSkey := false
  ticketFlags := .replicate 4 0
  addresses := []
  authData := []
  ticket := value
  secondTicket := []

def File.upsertConfigEntry (file : File) (key : String) (principal : Option String) (value : Bytes) :
    Option Credential × File :=
  file.upsertCredential (.configEntry file.defaultPrincipal key principal value)

/-- A credential that is read as the entry for a key, whosever it is. -/
def storesConfig (key : String) (principal : Option String) (credential : Credential) : Bool :=
  credential.server.realm = xCacheconfRealm ∧ credential.server.components = configComponents key principal

section Entries

variable {credential : Credential} {key : String} {principal : Option String}

theorem eq_configComponents_iff {components : List String} : components = configComponents key principal ↔
    (2 ≤ components.length ∧ components.length ≤ 3) ∧ components.head? = some xCacheconfComponent ∧
      components.getD 1 "" = key ∧ components[2]? = principal := by
  rcases components with _ | ⟨component, _ | ⟨name, _ | ⟨owner, _ | ⟨more, rest⟩⟩⟩⟩ <;>
    cases principal <;> simp [configComponents]

theorem parseConfigEntry_eq_some_iff {entry : ConfigEntry} : parseConfigEntry credential = some entry ↔
    storesConfig entry.key entry.principal credential = true ∧ credential.ticket = entry.value := by
  obtain ⟨key, principal, value⟩ := entry
  rw [parseConfigEntry, storesConfig, decide_eq_true_eq, eq_configComponents_iff]
  by_cases hrealm : credential.server.realm = xCacheconfRealm
  · rw [if_neg (not_not_intro hrealm)]
    split
    · next h =>
      refine ⟨fun hnone ↦ absurd hnone (Option.some_ne_none _).symm, fun hstores ↦ ?_⟩
      exact absurd h (not_or.mpr ⟨not_not_intro hstores.1.2.1, not_not_intro hstores.1.2.2.1⟩)
    · next h =>
      obtain ⟨hlength, hhead⟩ := not_or.mp h
      simp [hrealm, not_not.mp hlength, not_not.mp hhead, and_assoc]
  · rw [if_pos hrealm]
    simp [hrealm]

theorem isConfigCredential_iff : isConfigCredential credential = true ↔
    ∃ key principal, storesConfig key principal credential = true := by
  simp only [isConfigCredential, storesConfig, decide_eq_true_eq, eq_configComponents_iff]
  constructor
  · intro h
    obtain ⟨hrealm, hlength, hhead⟩ := h
    exact ⟨_, _, hrealm, by omega, hhead, rfl, rfl⟩
  · intro h
    obtain ⟨key, principal, hrealm, hlength, hhead, -, -⟩ := h
    exact ⟨hrealm, by omega, hhead⟩

theorem storesConfig_unique {key' : String} {principal' : Option String}
    (h : storesConfig key principal credential = true) (h' : storesConfig key' principal' credential = true) :
    key = key' ∧ principal = principal' := by
  rw [storesConfig, decide_eq_true_eq, eq_configComponents_iff] at h h'
  obtain ⟨-, -, -, hkey, hprincipal⟩ := h
  obtain ⟨-, -, -, hkey', hprincipal'⟩ := h'
  exact ⟨hkey.symm.trans hkey', hprincipal.symm.trans hprincipal'⟩

theorem any_parseConfigEntry (credential : Credential) (key : String) (principal : Option String) :
    (parseConfigEntry credential).any (fun entry ↦ entry.key = key ∧ entry.principal = principal) =
      storesConfig key principal credential := by
  rw [Bool.eq_iff_iff, Option.any_eq_true]
  constructor
  · intro h
    obtain ⟨entry, hentry, hmatches⟩ := h
    obtain ⟨rfl, rfl⟩ := decide_eq_true_eq.mp hmatches
    exact (parseConfigEntry_eq_some_iff.mp hentry).1
  · intro hstores
    exact ⟨⟨key, principal, credential.ticket⟩, parseConfigEntry_eq_some_iff.mpr ⟨hstores, rfl⟩,
      decide_eq_true ⟨rfl, rfl⟩⟩

theorem configEntryValue_eq (cache : CCache) (key : String) (principal : Option String) :
    cache.configEntryValue key principal =
      (cache.credentials.find? (storesConfig key principal)).map Credential.ticket := by
  rw [configEntryValue, configEntries, List.find?_filterMap]
  simp only [any_parseConfigEntry]
  cases hfirst : cache.credentials.find? (storesConfig key principal) with
  | none => rfl
  | some first =>
    have hentry : parseConfigEntry first = some ⟨key, principal, first.ticket⟩ :=
      parseConfigEntry_eq_some_iff.mpr ⟨List.find?_some hfirst, rfl⟩
    rw [Option.bind_some, hentry]
    rfl

end Entries

section Writes

/-- An entry of the client with the name type that configuration is written with, or one that has the value
already, is found first. -/
def File.FirstIsOwn (file : File) (key : String) (principal : Option String) (value : Bytes) : Prop :=
  ∀ first, file.credentials.find? (storesConfig key principal) = some first →
    first.client = file.defaultPrincipal ∧ first.server.nameType = 0 ∨ first.ticket = value

structure ReadsOwnWrite (before after : File) (key : String) (principal : Option String) (value : Bytes) : Prop where
  written : after.configEntryValue key principal = some value
  others : ∀ key' principal', (key', principal') ≠ (key, principal) →
    after.configEntryValue key' principal' = before.configEntryValue key' principal'
  entries : after.entries = before.entries

variable {file : File} {key key' : String} {principal principal' : Option String} {value : Bytes}
  {credential existing : Credential}

def samePrincipals (credential existing : Credential) : Bool :=
  existing.client = credential.client ∧ existing.server = credential.server

theorem upsertCredential_eq_put (credential : Credential) (credentials : List Credential) :
    (upsertCredential credential credentials).2 = put (samePrincipals credential) credential credentials := by
  induction credentials with
  | nil => rfl
  | cons existing rest ih =>
    simp only [upsertCredential, put, samePrincipals, decide_eq_true_eq, ih]
    split <;> rfl

/-- The entry that is written for the default principal. -/
def File.written (file : File) (key : String) (principal : Option String) (value : Bytes) : Credential :=
  .configEntry file.defaultPrincipal key principal value

theorem snd_upsertConfigEntry (file : File) (key : String) (principal : Option String) (value : Bytes) :
    (file.upsertConfigEntry key principal value).2 =
      { file with
        credentials := put (samePrincipals (file.written key principal value)) (file.written key principal value)
          file.credentials } := by
  rw [← upsertCredential_eq_put]
  rfl

theorem storesConfig_written : storesConfig key principal (file.written key principal value) = true :=
  decide_eq_true ⟨rfl, rfl⟩

/-- What is written over is an entry for the same key. -/
theorem storesConfig_of_samePrincipals (h : samePrincipals (file.written key principal value) existing = true) :
    storesConfig key principal existing = true := by
  rw [storesConfig, (of_decide_eq_true h).2]
  exact storesConfig_written

theorem samePrincipals_written_iff (value : Bytes) (h : storesConfig key principal existing = true) :
    samePrincipals (file.written key principal value) existing = true ↔
      existing.client = file.defaultPrincipal ∧ existing.server.nameType = 0 := by
  obtain ⟨hrealm, hcomponents⟩ := of_decide_eq_true h
  rw [samePrincipals, decide_eq_true_eq]
  refine and_congr_right fun _ ↦ ⟨fun hserver ↦ congrArg Principal.nameType hserver, fun hname ↦ ?_⟩
  have hserver : existing.server = ⟨existing.server.realm, existing.server.nameType, existing.server.components⟩ :=
    rfl
  rw [hserver, hrealm, hname, hcomponents]
  rfl

theorem entries_upsertConfigEntry (file : File) (key : String) (principal : Option String) (value : Bytes) :
    (file.upsertConfigEntry key principal value).2.entries = file.entries := by
  have hconfig : ∀ existing, storesConfig key principal existing = true →
      (!isConfigCredential existing) = false :=
    fun existing h ↦ by rw [isConfigCredential_iff.mpr ⟨key, principal, h⟩]; rfl
  rw [snd_upsertConfigEntry]
  exact filter_put (p := fun credential ↦ !isConfigCredential credential) (hconfig _ storesConfig_written)
    (fun existing h ↦ hconfig existing (storesConfig_of_samePrincipals h)) file.credentials

theorem configEntryValue_upsertConfigEntry_other (value : Bytes) (h : (key', principal') ≠ (key, principal)) :
    (file.upsertConfigEntry key principal value).2.configEntryValue key' principal' =
      file.configEntryValue key' principal' := by
  have hother : ∀ existing, storesConfig key principal existing = true →
      storesConfig key' principal' existing = false := by
    intro existing hstores
    rw [Bool.eq_false_iff]
    intro hstores'
    obtain ⟨rfl, rfl⟩ := storesConfig_unique hstores hstores'
    exact h rfl
  rw [configEntryValue_eq, configEntryValue_eq, snd_upsertConfigEntry]
  exact congrArg _ (find?_put_of_not (hother _ storesConfig_written)
    (fun existing h ↦ hother existing (storesConfig_of_samePrincipals h)) file.credentials)

theorem configEntryValue_upsertConfigEntry_iff :
    (file.upsertConfigEntry key principal value).2.configEntryValue key principal = some value ↔
      file.FirstIsOwn key principal value := by
  rw [configEntryValue_eq, snd_upsertConfigEntry,
    find?_put storesConfig_written (fun existing h ↦ storesConfig_of_samePrincipals h), Option.map_some,
    Option.some_inj, File.FirstIsOwn]
  cases hfirst : file.credentials.find? (storesConfig key principal) with
  | none =>
    rw [Option.elim_none]
    exact iff_of_true rfl fun first h ↦ absurd h.symm (Option.some_ne_none first)
  | some first =>
    simp only [Option.elim_some, Option.some_inj, forall_eq']
    rw [← samePrincipals_written_iff value (List.find?_some hfirst)]
    split
    · next hsame => exact iff_of_true rfl (.inl hsame)
    · next hsame => exact (or_iff_right hsame).symm

end Writes

/-- A value that is written into the configuration of a cache is read back from it exactly when no entry of
another client, or with another name type, comes first; nothing else is ever changed. -/
theorem upsertConfigEntry_reads_own_write_iff (file : File) (key : String) (principal : Option String)
    (value : Bytes) : ReadsOwnWrite file (file.upsertConfigEntry key principal value).2 key principal value ↔
      file.FirstIsOwn key principal value :=
  ⟨fun h ↦ configEntryValue_upsertConfigEntry_iff.mp h.written, fun h ↦
    ⟨configEntryValue_upsertConfigEntry_iff.mpr h, fun _ _ ↦ configEntryValue_upsertConfigEntry_other value,
      entries_upsertConfigEntry file key principal value⟩⟩

section Renamed

/-- The cache of `alice`, with the realm that she started in, after it was given to `bob`. -/
def renamed : File :=
  { ((File.new ⟨"A", 1, ["alice"]⟩).upsertConfigEntry "start_realm" none (asBytes "A")).2 with
    defaultPrincipal := ⟨"B", 1, ["bob"]⟩ }

theorem renamed_not_reads_own_write :
    (renamed.upsertConfigEntry "start_realm" none (asBytes "B")).2.configEntryValue "start_realm" none =
      some (asBytes "A") ∧
    ¬ ReadsOwnWrite renamed (renamed.upsertConfigEntry "start_realm" none (asBytes "B")).2 "start_realm" none
      (asBytes "B") := by
  have hread : (renamed.upsertConfigEntry "start_realm" none (asBytes "B")).2.configEntryValue "start_realm" none =
      some (asBytes "A") := by
    decide
  refine ⟨hread, fun h ↦ ?_⟩
  have hvalue : asBytes "A" ≠ asBytes "B" := by decide
  exact hvalue (Option.some.inj (hread.symm.trans h.written))

end Renamed

end Rskrb5.CCache
