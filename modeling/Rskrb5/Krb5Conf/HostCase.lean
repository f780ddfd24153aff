import Rskrb5.Client.Realms
import Rskrb5.Client.Tokio
import Rskrb5.Krb5Conf.Sections

namespace Rskrb5.Krb5Conf

open Lib.Arithmetic Lib.Results Lib.Texts Lib.Suffixes

/-- What the client reads of a configuration. -/
def Config.forClient (config : Config) : Rskrb5.Config where
  libdefaults :=
    { canonicalize := config.libdefaults.canonicalize
      defaultTgsEnctypeIds := config.libdefaults.defaultTgsEnctypeIds
      defaultTktEnctypeIds := config.libdefaults.defaultTktEnctypeIds
      kdcDefaultOptions := config.libdefaults.kdcDefaultOptions
      renewLifetime := Duration.fromSecs config.libdefaults.renewLifetime
      ticketLifetime := Duration.fromSecs config.libdefaults.ticketLifetime }
  domainRealm := config.domainRealm

/-- `str::to_ascii_lowercase`. -/
def lowercase (s : String) : String := .ofList (toAsciiLowercase s.toList)

section Keys

variable {build : Build} {domainRealm : Std.ExtTreeMap String String} {config config' : Config}

def LowercaseKeys (domainRealm : Std.ExtTreeMap String String) : Prop :=
  ∀ key ∈ domainRealm, lowercase key = key

theorem lowercaseKeys_parseDomainRealm {lines : List Line} {parsed : Std.ExtTreeMap String String}
    (hkeys : LowercaseKeys domainRealm) (h : parseDomainRealm domainRealm lines = .ok parsed) :
    LowercaseKeys parsed := by
  induction lines generalizing domainRealm with
  | nil =>
    obtain rfl := Except.ok.inj h
    exact hkeys
  | cons line lines ih =>
    rw [parseDomainRealm, List.foldlM_cons] at h
    obtain ⟨next, hnext, h⟩ := bind_eq_ok.mp h
    obtain ⟨⟨domain, realm⟩, -, hinsert⟩ := bind_eq_ok.mp hnext
    obtain rfl := Except.ok.inj hinsert
    refine ih (fun key hkey ↦ ?_) h
    rcases Std.ExtTreeMap.mem_insert.mp hkey with heq | hkey
    · rw [← compare_eq_iff_eq.mp heq]
      simp [lowercase]
    · exact hkeys key hkey

theorem lowercaseKeys_applyConfSection {sect : ConfSection} (hkeys : LowercaseKeys config.domainRealm)
    (h : applyConfSection build config sect = .ok config') : LowercaseKeys config'.domainRealm := by
  obtain ⟨kind, lines⟩ := sect
  rw [applyConfSection] at h
  cases kind with
  | libDefaults =>
    obtain ⟨libdefaults, -, h⟩ := bind_eq_ok.mp h
    obtain rfl := Except.ok.inj h
    exact hkeys
  | realms =>
    obtain ⟨realms, -, h⟩ := bind_eq_ok.mp h
    obtain rfl := Except.ok.inj h
    exact hkeys
  | domainRealm =>
    obtain ⟨parsed, hparsed, h⟩ := bind_eq_ok.mp h
    obtain rfl := Except.ok.inj h
    exact lowercaseKeys_parseDomainRealm hkeys hparsed
  | unknown =>
    obtain rfl := Except.ok.inj h
    exact hkeys

/-- A configuration that was parsed maps names in lower case only. -/
theorem lowercaseKeys_parse {env : Environment} {input : List Char} (h : Config.parse build env input = .ok config) :
    LowercaseKeys config.domainRealm := by
  rw [parse_eq_foldlM] at h
  have hnew : LowercaseKeys (Config.new env).domainRealm := fun key hkey ↦ absurd hkey (by simp [Config.new])
  generalize Config.new env = start, sections input = sects at h hnew
  induction sects generalizing start with
  | nil =>
    obtain rfl := Except.ok.inj h
    exact hnew
  | cons sect rest ih =>
    rw [List.foldlM_cons] at h
    obtain ⟨next, hnext, h⟩ := bind_eq_ok.mp h
    exact ih next h (lowercaseKeys_applyConfSection hnew hnext)

end Keys

section Hosts

theorem toLower_eq_dot_iff (c : Char) : c.toLower = '.' ↔ c = '.' := toLower_eq_iff rfl (by decide)

theorem trimEndDots_lowercase (host : String) : trimEndDots (lowercase host) = lowercase (trimEndDots host) := by
  have hdrop : ∀ text : List Char, (text.map Char.toLower).dropWhile (· = '.') =
      (text.dropWhile (· = '.')).map Char.toLower := by
    intro text
    rw [List.dropWhile_map]
    congr 2
    funext c
    simp [toLower_eq_dot_iff]
  rw [trimEndDots, trimEndDots, lowercase, lowercase, String.toList_ofList, String.toList_ofList,
    toAsciiLowercase, toAsciiLowercase, ← List.map_reverse, hdrop, List.map_reverse]

theorem marked_lowercase (name : String) : marked '.' (lowercase name).toList.tail =
    (marked '.' name.toList.tail).map toAsciiLowercase := by
  rw [lowercase, String.toList_ofList, toAsciiLowercase, ← List.map_tail]
  exact marked_map toLower_eq_dot_iff name.toList.tail

theorem hostKeys_lowercase (host : String) : hostKeys (lowercase host) = (hostKeys host).map lowercase := by
  have hof : String.ofList ∘ toAsciiLowercase = lowercase ∘ String.ofList := by
    funext key
    rw [Function.comp_apply, Function.comp_apply, lowercase, String.toList_ofList]
  rw [hostKeys, hostKeys, trimEndDots_lowercase, marked_lowercase, List.map_cons, List.map_map, List.map_map, hof]

end Hosts

section Lookups

/-- Of some keys, the longest that is mapped, and what it is mapped to. -/
structure LongestMapped (domainRealm : Std.ExtTreeMap String String) (keys : List String)
    (key realm : String) : Prop where
  mem : key ∈ keys
  mapped : domainRealm[key]? = some realm
  longest : ∀ other ∈ keys, other ∈ domainRealm → other.length ≤ key.length

variable {config : Rskrb5.Config} {host realm : String}

theorem mem_of_getElem? {domainRealm : Std.ExtTreeMap String String} {key : String}
    (h : domainRealm[key]? = some realm) : key ∈ domainRealm := by
  rw [Std.ExtTreeMap.mem_iff_isSome_getElem?, h]
  rfl

theorem resolveRealm_eq_some_iff : config.resolveRealm host = some realm ↔
    ∃ key, LongestMapped config.domainRealm (hostKeys host) key realm := by
  rw [resolveRealm_eq_findSome?, findSome?_eq_some_iff_of_pairwise (pairwise_hostKeys host)]
  constructor
  · intro h
    obtain ⟨key, hmem, hmapped, hlongest⟩ := h
    refine ⟨key, hmem, hmapped, fun other hother hm ↦ ?_⟩
    by_contra hlt
    rw [Std.ExtTreeMap.mem_iff_isSome_getElem?, hlongest other hother (not_le.mp hlt)] at hm
    cases hm
  · intro h
    obtain ⟨key, h⟩ := h
    refine ⟨key, h.mem, h.mapped, fun other hother hlt ↦ ?_⟩
    cases hm : config.domainRealm[other]? with
    | none => rfl
    | some _ => exact absurd (h.longest other hother (mem_of_getElem? hm)) (not_le.mpr hlt)

/-- The longest part of a host that is mapped, letter case aside, has no upper-case letter, or it is
mapped to the realm that the longest mapped part without one has. -/
def CaseSafe (config : Rskrb5.Config) (host : String) : Prop :=
  ∀ name ∈ hostKeys host, ∀ realm,
    LongestMapped config.domainRealm ((hostKeys host).map lowercase) (lowercase name) realm →
    lowercase name ≠ name →
    ∃ key, LongestMapped config.domainRealm ((hostKeys host).filter (fun key ↦ lowercase key = key)) key realm

theorem longestMapped_filter_iff {keys : List String} {key : String}
    (hkeys : LowercaseKeys config.domainRealm) :
    LongestMapped config.domainRealm (keys.filter (fun key ↦ lowercase key = key)) key realm ↔
      LongestMapped config.domainRealm keys key realm := by
  have hmem : ∀ key ∈ config.domainRealm, key ∈ keys.filter (fun key ↦ lowercase key = key) ↔ key ∈ keys := by
    intro key hmapped
    rw [List.mem_filter, decide_eq_true_eq, and_iff_left (hkeys key hmapped)]
  constructor
  · intro h
    refine ⟨(hmem key (mem_of_getElem? h.mapped)).mp h.mem, h.mapped, fun other hother hmapped ↦ ?_⟩
    exact h.longest other ((hmem other hmapped).mpr hother) hmapped
  · intro h
    refine ⟨(hmem key (mem_of_getElem? h.mapped)).mpr h.mem, h.mapped, fun other hother hmapped ↦ ?_⟩
    exact h.longest other ((hmem other hmapped).mp hother) hmapped

theorem mem_hostKeys_lowercase {key : String} (hkeys : LowercaseKeys config.domainRealm)
    (hmem : key ∈ hostKeys host) (hmapped : key ∈ config.domainRealm) : key ∈ hostKeys (lowercase host) := by
  rw [hostKeys_lowercase, List.mem_map]
  exact ⟨key, hmem, hkeys key hmapped⟩

theorem resolveRealm_of_lowercase (hkeys : LowercaseKeys config.domainRealm) (hsafe : CaseSafe config host)
    (h : config.resolveRealm (lowercase host) = some realm) : config.resolveRealm host = some realm := by
  obtain ⟨lower, hlower⟩ := resolveRealm_eq_some_iff.mp h
  have hmem := hlower.mem
  rw [hostKeys_lowercase, List.mem_map] at hmem
  obtain ⟨name, hname, rfl⟩ := hmem
  rw [resolveRealm_eq_some_iff]
  by_cases hcase : lowercase name = name
  · rw [hcase] at hlower
    refine ⟨name, hname, hlower.mapped, fun other hother hmapped ↦ ?_⟩
    exact hlower.longest other (mem_hostKeys_lowercase hkeys hother hmapped) hmapped
  · rw [hostKeys_lowercase] at hlower
    obtain ⟨key, hkey⟩ := hsafe name hname realm hlower hcase
    exact ⟨key, (longestMapped_filter_iff hkeys).mp hkey⟩

theorem caseSafe_of_resolveRealm (hkeys : LowercaseKeys config.domainRealm)
    (h : config.resolveRealm host = config.resolveRealm (lowercase host)) : CaseSafe config host := by
  intro name hname realm hlower hcase
  rw [← hostKeys_lowercase] at hlower
  have hrealm : config.resolveRealm host = some realm := by
    rw [h, resolveRealm_eq_some_iff]
    exact ⟨lowercase name, hlower⟩
  obtain ⟨key, hkey⟩ := resolveRealm_eq_some_iff.mp hrealm
  exact ⟨key, (longestMapped_filter_iff hkeys).mpr hkey⟩

theorem resolveRealm_lowercase_iff (hkeys : LowercaseKeys config.domainRealm) :
    config.resolveRealm host = config.resolveRealm (lowercase host) ↔ CaseSafe config host := by
  refine ⟨caseSafe_of_resolveRealm hkeys, fun hsafe ↦ ?_⟩
  cases hlower : config.resolveRealm (lowercase host) with
  | some realm => exact resolveRealm_of_lowercase hkeys hsafe hlower
  | none =>
    cases hhost : config.resolveRealm host with
    | none => rfl
    | some realm =>
      obtain ⟨key, hkey⟩ := resolveRealm_eq_some_iff.mp hhost
      have hmem := mem_hostKeys_lowercase hkeys hkey.mem (mem_of_getElem? hkey.mapped)
      rw [resolveRealm_eq_findSome?, List.findSome?_eq_none_iff] at hlower
      exact absurd ((hlower key hmem).symm.trans hkey.mapped) nofun

end Lookups

section Clients

open Client

/-- Neither the realm of a host nor the realm of a service on it depends on the case of the host. -/
structure CaseBlind (config : Rskrb5.Config) (host : String) : Prop where
  realm : config.resolveRealm host = config.resolveRealm (lowercase host)
  service : ∀ (c : TokioClient) (realm : String) (nameType : Int32) (components : List String),
    c.config = config →
    (c.resolveServicePrincipal ⟨realm, nameType, components ++ [host]⟩).realm =
      (c.resolveServicePrincipal ⟨realm, nameType, components ++ [lowercase host]⟩).realm

theorem realm_resolveServicePrincipal {c : TokioClient} {host : String}
    (h : c.config.resolveRealm host = c.config.resolveRealm (lowercase host)) (realm : String)
    (nameType : Int32) (components : List String) :
    (c.resolveServicePrincipal ⟨realm, nameType, components ++ [host]⟩).realm =
      (c.resolveServicePrincipal ⟨realm, nameType, components ++ [lowercase host]⟩).realm := by
  rw [TokioClient.resolveServicePrincipal, TokioClient.resolveServicePrincipal]
  dsimp only
  split
  · simp [serviceRealm, h]
  · rfl

/-- A lookup with a parsed configuration does not depend on the case of the host exactly when no part
with an upper-case letter decides the realm, but for a shorter part with the same realm. -/
theorem caseBlind_iff (build : Build) (env : Environment) (input : List Char) (config : Config) (host : String)
    (h : Config.parse build env input = .ok config) :
    CaseBlind config.forClient host ↔ CaseSafe config.forClient host := by
  rw [← resolveRealm_lowercase_iff (lowercaseKeys_parse h)]
  refine ⟨fun h ↦ h.realm, fun h ↦ ⟨h, ?_⟩⟩
  intro c realm nameType components hc
  exact realm_resolveServicePrincipal (hc ▸ h) realm nameType components

end Clients

section Samples

def domainText : List Char := "[domain_realm]\n.example.com = EX\n".toList

def domainConfig : Config :=
  { Config.new noEnvironment with
    domainRealm := (∅ : Std.ExtTreeMap String String).insert ".example.com" "EX" }

theorem parse_domainText : Config.parse .checked noEnvironment domainText = .ok domainConfig := rfl

theorem getElem?_domainConfig (key : String) :
    domainConfig.forClient.domainRealm[key]? = if ".example.com" = key then some "EX" else none := by
  have hempty : (∅ : Std.ExtTreeMap String String)[key]? = none := Std.ExtTreeMap.getElem?_empty
  change ((∅ : Std.ExtTreeMap String String).insert ".example.com" "EX")[key]? = _
  rw [Std.ExtTreeMap.getElem?_insert, hempty]
  simp only [compare_eq_iff_eq]

theorem caseBlind_upper_name : ∃ config, Config.parse .checked noEnvironment domainText = .ok config ∧
    CaseBlind config.forClient "HOST.example.com" := by
  refine ⟨domainConfig, parse_domainText, ?_⟩
  refine (caseBlind_iff .checked noEnvironment domainText domainConfig "HOST.example.com" parse_domainText).mpr ?_
  intro name hname realm h hcase
  have hmapped := h.mapped
  rw [getElem?_domainConfig] at hmapped
  -- the one name with an upper-case letter is the host itself, which is not mapped
  have hlower : ∀ name ∈ hostKeys "HOST.example.com", ".example.com" = lowercase name →
      lowercase name = name := by decide +kernel
  split at hmapped
  · next hkey => exact absurd (hlower name hname hkey) hcase
  · cases hmapped

/-- A domain in upper case is not found, though it is mapped in lower case. -/
theorem upper_domain_unmapped : ∃ config, Config.parse .checked noEnvironment domainText = .ok config ∧
    config.forClient.resolveRealm "host.EXAMPLE.com" = none ∧
    config.forClient.resolveRealm (lowercase "host.EXAMPLE.com") = some "EX" := by
  refine ⟨domainConfig, parse_domainText, ?_⟩
  have hhost : hostKeys "host.EXAMPLE.com" = ["host.EXAMPLE.com", ".EXAMPLE.com", ".com"] := by
    decide
  have hlower : hostKeys (lowercase "host.EXAMPLE.com") = ["host.example.com", ".example.com", ".com"] := by
    decide
  rw [resolveRealm_eq_findSome?, resolveRealm_eq_findSome?, hhost, hlower]
  simp only [getElem?_domainConfig]
  decide

end Samples

end Rskrb5.Krb5Conf
