import Rskrb5.Client
import Rskrb5.Lib.Suffixes

namespace Rskrb5

open Lib.Suffixes

/-- A key that names a domain, and so every host in it. -/
structure DottedSuffix (key domainName : String) : Prop where
  suffix : key.toList <:+ domainName.toList
  dotted : key.toList.head? = some '.'
  proper : key ≠ domainName

/-- What a name without dots at its end is mapped to: by itself, or by the longest domain it is in. -/
inductive Resolution (config : Config) (domainName : String) : Option String → Prop
  | exact (realm : String) (h : config.domainRealm[domainName]? = some realm) :
      Resolution config domainName (some realm)
  | domain (key realm : String) (hname : config.domainRealm[domainName]? = none)
      (hkey : DottedSuffix key domainName) (h : config.domainRealm[key]? = some realm)
      (hlongest : ∀ other, DottedSuffix other domainName → other ∈ config.domainRealm →
        other.length ≤ key.length) : Resolution config domainName (some realm)
  | unmapped (hname : config.domainRealm[domainName]? = none)
      (h : ∀ key, DottedSuffix key domainName → config.domainRealm[key]? = none) :
      Resolution config domainName none

variable {config : Config} {domainName host : String}

theorem mem_marked_iff {key : String} (h : key ≠ domainName) :
    key.toList ∈ marked '.' domainName.toList ↔ DottedSuffix key domainName := by
  rw [mem_marked]
  exact ⟨fun hm ↦ ⟨hm.1, hm.2, h⟩, fun hm ↦ ⟨hm.suffix, hm.dotted⟩⟩

theorem resolveRealm_eq : config.resolveRealm host =
    config.domainRealm[trimEndDots host]?.or
      ((marked '.' (trimEndDots host).toList).findSome? fun key ↦ config.domainRealm[String.ofList key]?) := by
  rw [Config.resolveRealm, ← findSome?_tails_splitOn _ fun key ↦ config.domainRealm[key]?]
  cases config.domainRealm[trimEndDots host]? <;> rfl

/-- What a host is looked up by, in order: its name, and the domains that it is in. -/
def hostKeys (host : String) : List String :=
  trimEndDots host :: (marked '.' (trimEndDots host).toList.tail).map String.ofList

theorem resolveRealm_eq_findSome? :
    config.resolveRealm host = (hostKeys host).findSome? fun key ↦ config.domainRealm[key]? := by
  rw [resolveRealm_eq, hostKeys, List.findSome?_cons, List.findSome?_map]
  cases hname : config.domainRealm[trimEndDots host]? with
  | some realm => rfl
  | none => rw [Option.none_or, findSome?_marked_tail (by rwa [String.ofList_toList])]; rfl

theorem pairwise_hostKeys (host : String) : (hostKeys host).Pairwise fun key key' ↦ key'.length < key.length := by
  have hmarked := pairwise_marked '.' (trimEndDots host).toList.tail
  rw [hostKeys, List.pairwise_cons, List.pairwise_map]
  simp only [String.length_ofList]
  refine ⟨fun key hkey ↦ ?_, hmarked⟩
  obtain ⟨key, hmem, rfl⟩ := List.mem_map.mp hkey
  obtain ⟨hsuffix, hdotted⟩ := mem_marked.mp hmem
  have hle := hsuffix.length_le
  have hpos : 0 < key.length := by
    cases key with
    | nil => cases hdotted
    | cons => exact Nat.succ_pos _
  rw [List.length_tail, String.length_toList] at hle
  rw [String.length_ofList]
  omega

theorem resolution_resolveRealm : Resolution config (trimEndDots host) (config.resolveRealm host) := by
  rw [resolveRealm_eq]
  generalize trimEndDots host = domainName
  cases hname : config.domainRealm[domainName]? with
  | some realm => exact .exact realm hname
  | none =>
    rw [Option.none_or]
    cases hfound : (marked '.' domainName.toList).findSome? fun key ↦ config.domainRealm[String.ofList key]? with
    | some realm =>
      obtain ⟨key, hmem, hkey, hlongest⟩ :=
        (findSome?_eq_some_iff_of_pairwise (pairwise_marked '.' domainName.toList)).mp hfound
      have hne : String.ofList key ≠ domainName := by
        intro heq
        subst heq
        rw [hname] at hkey
        cases hkey
      rw [← String.toList_ofList (l := key)] at hmem
      refine .domain _ realm hname ((mem_marked_iff hne).mp hmem) hkey fun other hother hmapped ↦ ?_
      by_contra hlt
      rw [String.length_ofList, ← String.length_toList, not_le] at hlt
      have hnone := hlongest other.toList ((mem_marked_iff hother.proper).mpr hother) hlt
      rw [Std.ExtTreeMap.mem_iff_isSome_getElem?, ← String.ofList_toList (s := other), hnone] at hmapped
      cases hmapped
    | none =>
      refine .unmapped hname fun key hkey ↦ ?_
      have hnone := List.findSome?_eq_none_iff.mp hfound key.toList ((mem_marked_iff hkey.proper).mpr hkey)
      rwa [String.ofList_toList] at hnone

theorem length_lt_of_ne {key other : String} (hkey : key.toList <:+ domainName.toList)
    (hother : other.toList <:+ domainName.toList) (hne : key ≠ other) (hle : other.length ≤ key.length) :
    other.length < key.length := by
  refine Nat.lt_of_le_of_ne hle fun heq ↦ hne ?_
  rw [← String.length_toList, ← String.length_toList] at heq
  exact String.toList_inj.mp ((List.suffix_of_suffix_length_le hkey hother heq.ge).eq_of_length heq.symm)

/-- The name and the map determine the resolution. -/
theorem Resolution.unique {result result' : Option String} (h : Resolution config domainName result)
    (h' : Resolution config domainName result') : result = result' := by
  have hmapped : ∀ {key realm : String}, config.domainRealm[key]? = some realm → key ∈ config.domainRealm := by
    intro key realm hkey
    rw [Std.ExtTreeMap.mem_iff_isSome_getElem?, hkey]
    rfl
  cases h with
  | exact realm h =>
    cases h' with
    | exact realm' h' => exact h.symm.trans h'
    | domain key' realm' hname' => simp [h] at hname'
    | unmapped hname' => simp [h] at hname'
  | domain key realm hname hkey h hlongest =>
    cases h' with
    | exact realm' h' => simp [h'] at hname
    | domain key' realm' hname' hkey' h' hlongest' =>
      by_cases heq : key = key'
      · rw [← h, ← h', heq]
      · have hlt := length_lt_of_ne hkey.suffix hkey'.suffix heq (hlongest key' hkey' (hmapped h'))
        exact absurd (hlongest' key hkey (hmapped h)) (Nat.not_le_of_lt hlt)
    | unmapped hname' hnone => simp [hnone key hkey] at h
  | unmapped hname hnone =>
    cases h' with
    | exact realm' h' => simp [h'] at hname
    | domain key' realm' hname' hkey' h' => simp [hnone key' hkey'] at h'
    | unmapped => rfl

theorem getElem?_insert_of_ne {map : Std.ExtTreeMap String String} {key other realm : String} (h : key ≠ other) :
    (map.insert key realm)[other]? = map[other]? := by
  rw [Std.ExtTreeMap.getElem?_insert, if_neg (mt compare_eq_iff_eq.mp h)]

theorem mem_insert_of_ne {map : Std.ExtTreeMap String String} {key other realm : String} (h : key ≠ other) :
    other ∈ map.insert key realm ↔ other ∈ map := by
  rw [Std.ExtTreeMap.mem_iff_isSome_getElem?, Std.ExtTreeMap.mem_iff_isSome_getElem?, getElem?_insert_of_ne h]

/-- A mapping of another name, unless of a domain longer than any that is mapped, changes nothing. -/
theorem Resolution.insert {key realm : String} {result : Option String} (hname : key ≠ domainName)
    (hdomain : DottedSuffix key domainName → ∃ longer ∈ config.domainRealm,
      (longer = domainName ∨ DottedSuffix longer domainName) ∧ key.length < longer.length)
    (h : Resolution config domainName result) :
    Resolution { config with domainRealm := config.domainRealm.insert key realm } domainName result := by
  cases h with
  | exact realm' h => exact .exact realm' ((getElem?_insert_of_ne hname).trans h)
  | domain found realm' hunmapped hfound h hlongest =>
    have hshorter : DottedSuffix key domainName → key.length < found.length := by
      intro hkey
      obtain ⟨longer, hmem, rfl | hlonger, hlt⟩ := hdomain hkey
      · rw [Std.ExtTreeMap.mem_iff_isSome_getElem?, hunmapped] at hmem
        cases hmem
      · exact hlt.trans_le (hlongest longer hlonger hmem)
    have hne : key ≠ found := by
      intro heq
      subst heq
      exact absurd (hshorter hfound) (lt_irrefl _)
    refine .domain found realm' ((getElem?_insert_of_ne hname).trans hunmapped) hfound
      ((getElem?_insert_of_ne hne).trans h) fun other hother hmem ↦ ?_
    by_cases hkey : key = other
    · subst hkey
      exact (hshorter hother).le
    · exact hlongest other hother ((mem_insert_of_ne hkey).mp hmem)
  | unmapped hunmapped h =>
    refine .unmapped ((getElem?_insert_of_ne hname).trans hunmapped) fun other hother ↦ ?_
    have hne : key ≠ other := by
      intro heq
      subst heq
      obtain ⟨longer, hmem, hlonger, -⟩ := hdomain hother
      rw [Std.ExtTreeMap.mem_iff_isSome_getElem?] at hmem
      rcases hlonger with rfl | hlonger
      · simp [hunmapped] at hmem
      · simp [h longer hlonger] at hmem
    exact (getElem?_insert_of_ne hne).trans (h other hother)

/-- A lookup gives the resolution of the name, which a mapping of a name that is neither the name
itself nor a longer domain of it does not change. -/
theorem resolveRealm_longest (config : Config) (host : String) :
    (∀ result, config.resolveRealm host = result ↔ Resolution config (trimEndDots host) result) ∧
    ∀ key realm, key ≠ trimEndDots host →
      (DottedSuffix key (trimEndDots host) → ∃ longer ∈ config.domainRealm,
        (longer = trimEndDots host ∨ DottedSuffix longer (trimEndDots host)) ∧ key.length < longer.length) →
      ({ config with domainRealm := config.domainRealm.insert key realm } : Config).resolveRealm host =
        config.resolveRealm host := by
  refine ⟨fun result ↦ ⟨fun h ↦ h ▸ resolution_resolveRealm, fun h ↦ resolution_resolveRealm.unique h⟩, ?_⟩
  intro key realm hname hdomain
  exact resolution_resolveRealm.unique (resolution_resolveRealm.insert hname hdomain)

end Rskrb5
