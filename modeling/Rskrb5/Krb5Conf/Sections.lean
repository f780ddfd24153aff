import Rskrb5.Krb5Conf

namespace Rskrb5.Krb5Conf

open Lib.Arithmetic Lib.Results Lib.Texts Spnego

/-- A section of a text: what its header names, and the lines up to the next header. -/
structure ConfSection where
  kind : SectionKind
  lines : List Line

/-- The realm blocks of a section. -/
def ConfSection.blocks (build : Build) (sect : ConfSection) : List Realm :=
  match sect.kind, parseRealms build sect.lines with
  | .realms, .ok realms => realms
  | _, _ => []

def sectionsFrom (current : SectionKind) (lines : List Line) : List (List Char × ℕ) → List ConfSection
  | [] => [⟨current, lines⟩]
  | (raw, index) :: rest =>
    let cleaned := trim (stripComments raw)
    if cleaned = [] then sectionsFrom current lines rest
    else
      match SectionKind.parse cleaned with
      | some kind => ⟨current, lines⟩ :: sectionsFrom kind [] rest
      | none =>
        if current ≠ .unknown then sectionsFrom current (lines ++ [⟨index + 1, cleaned⟩]) rest
        else sectionsFrom current lines rest

/-- The sections of a text, with what stands before the first header. -/
def sections (input : List Char) : List ConfSection := sectionsFrom .unknown [] (lines input).zipIdx

def applyConfSection (build : Build) (config : Config) (sect : ConfSection) : Except Error Config :=
  applySection build config sect.kind sect.lines

variable {build : Build}

theorem foldlM_parseRawLine (raws : List (List Char × ℕ)) (state : ParseState) :
    (raws.foldlM (parseRawLine build) state >>=
        fun state ↦ applySection build state.config state.current state.lines) =
      (sectionsFrom state.current state.lines raws).foldlM (applyConfSection build) state.config := by
  induction raws generalizing state with
  | nil => exact (bind_pure (applySection build state.config state.current state.lines)).symm
  | cons raw raws ih =>
    rw [List.foldlM_cons, bind_assoc, sectionsFrom, parseRawLine]
    by_cases hempty : trim (stripComments raw.1) = []
    · simp only [hempty, if_true, ok_bind, ih]
    simp only [hempty, if_false]
    cases hkind : SectionKind.parse (trim (stripComments raw.1)) with
    | some kind =>
      simp only [List.foldlM_cons, applyConfSection, bind_assoc]
      congr 1
      funext config
      rw [pure_eq_ok, ok_bind, ih]
    | none =>
      by_cases hcurrent : state.current ≠ .unknown
      · simp only [hcurrent, if_true, ok_bind, ih, not_false_eq_true, ne_eq]
      · simp only [hcurrent, if_false, ok_bind, ih]

/-- A text is read section by section. -/
theorem parse_eq_foldlM (build : Build) (env : Environment) (input : List Char) :
    Config.parse build env input = (sections input).foldlM (applyConfSection build) (.new env) :=
  foldlM_parseRawLine _ ⟨.new env, .unknown, []⟩

theorem realms_of_applyConfSection {config config' : Config} {sect : ConfSection}
    (h : applyConfSection build config sect = .ok config') :
    config'.realms = if sect.kind = .realms then sect.blocks build else config.realms := by
  obtain ⟨kind, lines⟩ := sect
  simp only [applyConfSection] at h
  cases kind with
  | libDefaults =>
    obtain ⟨libdefaults, -, h⟩ := bind_eq_ok.mp h
    obtain rfl := Except.ok.inj h
    rfl
  | realms =>
    obtain ⟨realms, hrealms, h⟩ := bind_eq_ok.mp h
    obtain rfl := Except.ok.inj h
    simp only [ConfSection.blocks, hrealms, if_true]
  | domainRealm =>
    obtain ⟨domainRealm, -, h⟩ := bind_eq_ok.mp h
    obtain rfl := Except.ok.inj h
    rfl
  | unknown =>
    obtain rfl := Except.ok.inj h
    rfl

/-- Sections that are not of realms leave the realms as they are. -/
theorem realms_of_others {config config' : Config} {others : List ConfSection}
    (hothers : ∀ sect ∈ others, sect.kind ≠ .realms)
    (h : others.foldlM (applyConfSection build) config = .ok config') : config'.realms = config.realms := by
  induction others generalizing config with
  | nil =>
    obtain rfl := Except.ok.inj h
    rfl
  | cons sect others ih =>
    rw [List.foldlM_cons] at h
    obtain ⟨next, hnext, h⟩ := bind_eq_ok.mp h
    rw [ih (fun other hm ↦ hothers other (List.mem_cons_of_mem sect hm)) h,
      realms_of_applyConfSection hnext, if_neg (hothers sect List.mem_cons_self)]

/-- The last section of realms replaces what the earlier ones gave. -/
theorem realms_of_last {config config' : Config} {before after : List ConfSection} {last : ConfSection}
    (hlast : last.kind = .realms) (hafter : ∀ sect ∈ after, sect.kind ≠ .realms)
    (h : (before ++ last :: after).foldlM (applyConfSection build) config = .ok config') :
    config'.realms = last.blocks build := by
  rw [List.foldlM_append] at h
  obtain ⟨earlier, -, h⟩ := bind_eq_ok.mp h
  rw [List.foldlM_cons] at h
  obtain ⟨next, hnext, h⟩ := bind_eq_ok.mp h
  rw [realms_of_others hafter h, realms_of_applyConfSection hnext, if_pos hlast]

theorem exists_last_realms (all : List ConfSection) : (∀ sect ∈ all, sect.kind ≠ .realms) ∨
    ∃ before last after, all = before ++ last :: after ∧ last.kind = .realms ∧
      ∀ sect ∈ after, sect.kind ≠ .realms := by
  induction all with
  | nil => exact .inl nofun
  | cons sect rest ih =>
    rcases ih with hnone | ⟨before, last, after, rfl, hlast, hafter⟩
    · by_cases hkind : sect.kind = .realms
      · exact .inr ⟨[], sect, rest, rfl, hkind, hnone⟩
      · exact .inl (List.forall_mem_cons.mpr ⟨hkind, hnone⟩)
    · exact .inr ⟨sect :: before, last, after, rfl, hlast, hafter⟩

/-- Whenever a section of realms is the last one, it repeats all blocks of the earlier ones. -/
def LastRepeats (build : Build) (all : List ConfSection) : Prop :=
  ∀ before last after, all = before ++ last :: after → last.kind = .realms →
    (∀ sect ∈ after, sect.kind ≠ .realms) →
    ∀ earlier ∈ before, ∀ realm ∈ earlier.blocks build, realm ∈ last.blocks build

theorem blocks_of_ne {sect : ConfSection} (h : sect.kind ≠ .realms) : sect.blocks build = [] := by
  obtain ⟨kind, lines⟩ := sect
  cases kind with
  | realms => exact absurd rfl h
  | _ => rfl

theorem lastRepeats_of_pairwise {all : List ConfSection}
    (h : all.Pairwise fun a b ↦ a.kind ≠ .realms ∨ b.kind ≠ .realms) : LastRepeats build all := by
  intro before last after heq hlast _ earlier hm realm hrealm
  subst heq
  rcases (List.pairwise_append.mp h).2.2 earlier hm last List.mem_cons_self with hne | hne
  · rw [blocks_of_ne hne] at hrealm
    exact absurd hrealm List.not_mem_nil
  · exact absurd hlast hne

/-- Every realm block of a text that is accepted is in the configuration, exactly when the last
section of realms repeats the blocks of the earlier ones. -/
theorem realms_kept_iff (build : Build) (env : Environment) (input : List Char) (config : Config)
    (h : Config.parse build env input = .ok config) :
    (∀ sect ∈ sections input, ∀ realm ∈ sect.blocks build, realm ∈ config.realms) ↔
      LastRepeats build (sections input) := by
  rw [parse_eq_foldlM] at h
  constructor
  · intro hkept before last after hall hlast hafter earlier hm realm hrealm
    rw [hall] at h
    rw [← realms_of_last hlast hafter h]
    exact hkept earlier (hall ▸ List.mem_append_left _ hm) realm hrealm
  · intro hrepeats sect hm realm hrealm
    have hkind : sect.kind = .realms := by
      by_contra hne
      rw [blocks_of_ne hne] at hrealm
      exact List.not_mem_nil hrealm
    rcases exists_last_realms (sections input) with hnone | ⟨before, last, after, hall, hlast, hafter⟩
    · exact absurd hkind (hnone sect hm)
    · rw [hall] at h hm
      rw [realms_of_last hlast hafter h]
      rcases List.mem_append.mp hm with hm | hm
      · exact hrepeats before last after hall hlast hafter sect hm realm hrealm
      rcases List.mem_cons.mp hm with rfl | hm
      · exact hrealm
      · exact absurd hkind (hafter sect hm)

section Samples

def noEnvironment : Environment := ⟨none, none⟩

/-- A file with one realm. -/
def realmFile (name : String) : List Char :=
  ("[realms]\n" ++ name ++ " = \x7b\n kdc = kdc." ++ name ++ "\n\x7d\n").toList

def sampleRealm (name : String) : Realm := ⟨name, [], "", ["kdc." ++ name ++ ":88"], [], []⟩

/-- Sections of every kind, those of defaults twice. -/
def sampleText : List Char :=
  "[libdefaults]\nrdns = no\n".toList ++ realmFile "A" ++
    "[domain_realm]\n.a = A\n[libdefaults]\nrdns = yes\n".toList

theorem realms_sampleText : (Config.parse .checked noEnvironment sampleText).map Config.realms =
    .ok [sampleRealm "A"] := by
  decide +kernel

theorem realms_kept_iff_sampleText : ∃ config, Config.parse .checked noEnvironment sampleText = .ok config ∧
    ∀ sect ∈ sections sampleText, ∀ realm ∈ sect.blocks .checked, realm ∈ config.realms := by
  cases hp : Config.parse .checked noEnvironment sampleText with
  | error error =>
    have hrealms := realms_sampleText
    rw [hp] at hrealms
    cases hrealms
  | ok config =>
    refine ⟨config, rfl, ?_⟩
    exact (realms_kept_iff .checked noEnvironment sampleText config hp).mpr (lastRepeats_of_pairwise (by decide))

/-- Of two files that define a realm each, the realm of the first is lost. -/
theorem realm_of_first_file_lost :
    (Config.parse .checked noEnvironment (realmFile "A")).map Config.realms = .ok [sampleRealm "A"] ∧
    (Config.parse .checked noEnvironment (realmFile "B")).map Config.realms = .ok [sampleRealm "B"] ∧
    (Config.loadPaths .checked noEnvironment [realmFile "A", realmFile "B"]).map Config.realms =
      .ok [sampleRealm "B"] ∧
    ∃ sect ∈ sections (Config.joinFiles [realmFile "A", realmFile "B"]),
      sampleRealm "A" ∈ sect.blocks .checked := by
  decide

end Samples

end Rskrb5.Krb5Conf
