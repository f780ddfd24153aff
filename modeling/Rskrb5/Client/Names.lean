import Rskrb5.Client
import Rskrb5.Lib.Escapes
import Rskrb5.Lib.Lists
import Rskrb5.Lib.Offsets

namespace Rskrb5.Client

open Lib.Results Lib.Lists Lib.Offsets Lib.Escapes

/-- `panicked` stands for a slice that does not start or end at a character. -/
inductive NameError
  | invalidPrincipalName (value : String) (reason : String)
  | panicked
  deriving DecidableEq

section Parse

def invalidPrincipalName (value : List Char) (reason : String) : NameError :=
  .invalidPrincipalName (.ofList value) reason

def unescapedSeparatorStep (separator : Char) (s : Bool × List ℕ) (item : ℕ × Char) : Bool × List ℕ :=
  if s.1 then (false, s.2)
  else if item.2 = '\\' then (true, s.2)
  else if item.2 = separator then (false, s.2 ++ [item.1])
  else (false, s.2)

def unescapedSeparatorIndices (value : List Char) (separator : Char) : List ℕ :=
  ((charIndices value).foldl (unescapedSeparatorStep separator) (false, [])).2

def unescapeStep (s : Bool × List Char) (ch : Char) : Bool × List Char :=
  if s.1 then (false, s.2 ++ [ch])
  else if ch = '\\' then (true, s.2)
  else (false, s.2 ++ [ch])

def unescapePrincipalComponent (value component : List Char) : Except NameError (List Char) := do
  let (escaped, out) := component.foldl unescapeStep (false, [])
  ensure (escaped = false) (invalidPrincipalName value "principal contains a trailing escape character")
  return out

def parseNameAndRealm (value : List Char) : Except NameError (List Char × List Char) := do
  ensure (value ≠ []) (invalidPrincipalName value "principal name is empty")
  match unescapedSeparatorIndices value '@' with
  | [separator] =>
    let (name, realm) ← okOr (splitAt? value separator) .panicked
    let (_, realm) ← okOr (splitAt? realm '@'.utf8Size) .panicked
    ensure (name ≠ []) (invalidPrincipalName value "principal name component is empty")
    let realm ← unescapePrincipalComponent value realm
    ensure (realm ≠ []) (invalidPrincipalName value "principal realm is empty")
    return (name, realm)
  | [] => .error (invalidPrincipalName value "principal realm separator is missing")
  | _ => .error (invalidPrincipalName value "principal contains more than one unescaped realm separator")

def parseComponent (value name : List Char) (s : List (List Char) × ℕ) (separator : ℕ) :
    Except NameError (List (List Char) × ℕ) := do
  let piece ← okOr (slice? name s.2 separator) .panicked
  let component ← unescapePrincipalComponent value piece
  return (s.1 ++ [component], separator + '/'.utf8Size)

def parsePrincipalComponents (value name : List Char) : Except NameError (List (List Char)) := do
  let (components, start) ← (unescapedSeparatorIndices name '/').foldlM (parseComponent value name) ([], 0)
  let (_, piece) ← okOr (splitAt? name start) .panicked
  let component ← unescapePrincipalComponent value piece
  let components := components ++ [component]
  ensure (∀ component ∈ components, component ≠ [])
    (invalidPrincipalName value "principal contains an empty name component")
  return components

def user (realm name : List Char) : Principal := ⟨.ofList realm, krbNtPrincipal, [.ofList name]⟩

def parseUser (value : List Char) : Except NameError Principal := do
  let (name, realm) ← parseNameAndRealm value
  match ← parsePrincipalComponents value name with
  | [component] => return user realm component
  | _ => .error (invalidPrincipalName value "user principal must contain exactly one name component")

def parseService (value : List Char) : Except NameError Principal := do
  let (name, realm) ← parseNameAndRealm value
  let components ← parsePrincipalComponents value name
  ensure (components.length = 2)
    (invalidPrincipalName value "service principal must contain service and host components")
  return ⟨.ofList realm, krbNtSrvInst, components.map .ofList⟩

end Parse

section Scan

abbrev NameToken := Token '\\'

def atSign : NameToken := .plain '@' (by decide)

def slash : NameToken := .plain '/' (by decide)

/-- The offsets at which one unit stands. -/
def positions (separator : NameToken) (offset : ℕ) : List NameToken → List ℕ
  | [] => []
  | token :: tokens =>
    if token = separator then offset :: positions separator (offset + byteLen token.write) tokens
    else positions separator (offset + byteLen token.write) tokens

variable {c : Char} {tokens : List NameToken}

theorem positions_append (separator : NameToken) (offset : ℕ) (tokens more : List NameToken) :
    positions separator offset (tokens ++ more) =
      positions separator offset tokens ++ positions separator (offset + byteLen (write tokens)) more := by
  induction tokens generalizing offset with
  | nil => rfl
  | cons token tokens ih =>
    rw [List.cons_append, positions, positions, ih, write_cons, byteLen_append, Nat.add_assoc]
    split <;> rfl

theorem positions_of_not_mem {separator : NameToken} (h : separator ∉ tokens) (offset : ℕ) :
    positions separator offset tokens = [] := by
  induction tokens generalizing offset with
  | nil => rfl
  | cons token tokens ih =>
    obtain ⟨hne, hrest⟩ := List.ne_and_not_mem_of_not_mem_cons h
    rw [positions, if_neg (Ne.symm hne), ih hrest]

theorem positions_append_cons {separator : NameToken} (h : separator ∉ tokens) (offset : ℕ) (more : List NameToken) :
    positions separator offset (tokens ++ separator :: more) =
      (offset + byteLen (write tokens)) ::
        positions separator (offset + byteLen (write tokens) + byteLen separator.write) more := by
  rw [positions_append, positions_of_not_mem h, positions, if_pos rfl, List.nil_append]

theorem foldl_unescapedSeparatorStep (hc : c ≠ '\\') (offset : ℕ) (found : List ℕ) (tokens : List NameToken) :
    (charIndicesFrom offset (write tokens)).foldl (unescapedSeparatorStep c) (false, found) =
      (false, found ++ positions (.plain c hc) offset tokens) := by
  induction tokens generalizing offset found with
  | nil => rw [positions, List.append_nil]; rfl
  | cons token tokens ih =>
    rw [write_cons, charIndicesFrom_append, List.foldl_append, positions]
    have htoken : (charIndicesFrom offset token.write).foldl (unescapedSeparatorStep c) (false, found) =
        (false, found ++ if token = .plain c hc then [offset] else []) := by
      cases token with
      | plain ch h =>
        by_cases heq : ch = c
        · subst heq
          simp [Token.write, charIndicesFrom, unescapedSeparatorStep, h]
        · simp [Token.write, charIndicesFrom, unescapedSeparatorStep, h, heq]
      | escaped ch => simp [Token.write, charIndicesFrom, unescapedSeparatorStep]
    rw [htoken, ih]
    split <;> simp

/-- A dangling escape is no separator. -/
theorem unescapedSeparatorIndices_write (hc : c ≠ '\\') {rest : List Char} (hrest : rest = [] ∨ rest = ['\\'])
    (tokens : List NameToken) :
    unescapedSeparatorIndices (write tokens ++ rest) c = positions (.plain c hc) 0 tokens := by
  rw [unescapedSeparatorIndices, charIndices, charIndicesFrom_append, List.foldl_append,
    foldl_unescapedSeparatorStep hc]
  rcases hrest with rfl | rfl
  · rfl
  · rfl

theorem foldl_unescapeStep (out : List Char) (tokens : List NameToken) :
    (write tokens).foldl unescapeStep (false, out) = (false, out ++ chars tokens) := by
  induction tokens generalizing out with
  | nil => rw [chars, List.map_nil, List.append_nil]; rfl
  | cons token tokens ih =>
    have htoken : token.write.foldl unescapeStep (false, out) = (false, out ++ [token.char]) := by
      cases token with
      | plain ch h => simp [Token.write, Token.char, unescapeStep, h]
      | escaped ch => simp [Token.write, Token.char, unescapeStep]
    rw [write_cons, List.foldl_append, htoken, ih]
    simp

theorem unescapePrincipalComponent_write (value : List Char) (tokens : List NameToken) :
    unescapePrincipalComponent value (write tokens) = .ok (chars tokens) := by
  rw [unescapePrincipalComponent, foldl_unescapeStep]
  rfl

theorem unescapePrincipalComponent_dangling (value : List Char) (tokens : List NameToken) :
    unescapePrincipalComponent value (write tokens ++ ['\\']) =
      .error (invalidPrincipalName value "principal contains a trailing escape character") := by
  rw [unescapePrincipalComponent, List.foldl_append, foldl_unescapeStep]
  rfl

end Scan

section NameAndRealm

variable {name realm tokens : List NameToken} {value rest : List Char}

theorem parseNameAndRealm_write (hrest : rest = [] ∨ rest = ['\\']) (hname : atSign ∉ name) (hrealm : atSign ∉ realm)
    (hvalue : value = write (name ++ atSign :: realm) ++ rest) :
    parseNameAndRealm value = (do
      ensure (write name ≠ []) (invalidPrincipalName value "principal name component is empty")
      let realm ← unescapePrincipalComponent value (write realm ++ rest)
      ensure (realm ≠ []) (invalidPrincipalName value "principal realm is empty")
      return (write name, realm)) := by
  have hfound : unescapedSeparatorIndices value '@' = [byteLen (write name)] := by
    rw [hvalue, unescapedSeparatorIndices_write (by decide) hrest]
    exact (positions_append_cons hname 0 realm).trans (by rw [positions_of_not_mem hrealm, Nat.zero_add])
  have htext : value = write name ++ ('@' :: (write realm ++ rest)) := by
    rw [hvalue, write_append, List.append_assoc]
    rfl
  have hne : value ≠ [] := by
    rw [htext]
    simp
  have hsplit : splitAt? value (byteLen (write name)) = some (write name, '@' :: (write realm ++ rest)) := by
    rw [htext, splitAt?_append]
  have hbehind : splitAt? ('@' :: (write realm ++ rest)) '@'.utf8Size = some (['@'], write realm ++ rest) :=
    splitAt?_append ['@'] _
  rw [parseNameAndRealm, ensure_of hne, ok_bind, hfound]
  simp only [hsplit, hbehind, okOr, ok_bind]

theorem parseNameAndRealm_eq_ok {result : List Char × List Char} :
    parseNameAndRealm value = .ok result ↔
      ∃ name realm, tokenize '\\' value = some (name ++ atSign :: realm) ∧ atSign ∉ name ∧ atSign ∉ realm ∧
        name ≠ [] ∧ realm ≠ [] ∧ result = (write name, chars realm) := by
  constructor
  · intro h
    obtain ⟨tokens, hvalue⟩ := exists_write '\\' value
    obtain ⟨rest, hrest, hvalue⟩ : ∃ rest, (rest = [] ∨ rest = ['\\']) ∧ value = write tokens ++ rest := by
      rcases hvalue with hvalue | hvalue
      · exact ⟨[], .inl rfl, by rw [hvalue, List.append_nil]⟩
      · exact ⟨['\\'], .inr rfl, hvalue⟩
    have hfound : unescapedSeparatorIndices value '@' = positions atSign 0 tokens := by
      rw [hvalue]
      exact unescapedSeparatorIndices_write (by decide) hrest tokens
    by_cases hat : atSign ∈ tokens
    · obtain ⟨name, realm, rfl, hname⟩ := List.eq_append_cons_of_mem hat
      rw [positions_append_cons hname] at hfound
      by_cases hmore : atSign ∈ realm
      · obtain ⟨between, behind, rfl, hbetween⟩ := List.eq_append_cons_of_mem hmore
        rw [positions_append_cons hbetween] at hfound
        rw [parseNameAndRealm, hfound] at h
        simp at h
      · rw [parseNameAndRealm_write hrest hname hmore hvalue] at h
        simp only [bind_eq_ok, ensure_eq_ok, pure_eq_ok, Except.ok.injEq, ne_eq, write_eq_nil] at h
        obtain ⟨-, hname_ne, found, hunescape, -, hfound_ne, rfl⟩ := h
        rcases hrest with rfl | rfl
        · rw [List.append_nil] at hvalue hunescape
          rw [unescapePrincipalComponent_write] at hunescape
          obtain rfl := Except.ok.inj hunescape
          exact ⟨name, realm, hvalue ▸ tokenize_write _, hname, hmore, hname_ne, mt chars_eq_nil.mpr hfound_ne, rfl⟩
        · rw [unescapePrincipalComponent_dangling] at hunescape
          cases hunescape
    · rw [positions_of_not_mem hat] at hfound
      rw [parseNameAndRealm, hfound] at h
      simp at h
  · intro h
    obtain ⟨name, realm, htokens, hname, hrealm, hname_ne, hrealm_ne, rfl⟩ := h
    have hvalue : value = write (name ++ atSign :: realm) ++ [] := by
      rw [List.append_nil, write_of_tokenize htokens]
    rw [parseNameAndRealm_write (.inl rfl) hname hrealm hvalue, ensure_of (mt write_eq_nil.mp hname_ne), ok_bind,
      List.append_nil, unescapePrincipalComponent_write, ok_bind, ensure_of (mt chars_eq_nil.mp hrealm_ne)]
    rfl

end NameAndRealm

section Components

variable {name before part : List NameToken} {parts : List (List NameToken)} {value : List Char}

variable (value) in
/-- The loop over the separators of a name that has been read up to some part of it. -/
theorem parseComponents_run (hpart : slash ∉ part) (hparts : ∀ part ∈ parts, slash ∉ part)
    (hname : name = before ++ (part ++ separated slash parts)) (components : List (List Char)) :
    ((positions slash (byteLen (write before)) (part ++ separated slash parts)).foldlM
        (parseComponent value (write name)) (components, byteLen (write before)) >>= fun s ↦ do
      let (_, piece) ← okOr (splitAt? (write name) s.2) .panicked
      let component ← unescapePrincipalComponent value piece
      return s.1 ++ [component]) = .ok (components ++ (part :: parts).map chars) := by
  induction parts generalizing before part components with
  | nil =>
    rw [separated_nil, List.append_nil] at hname ⊢
    rw [positions_of_not_mem hpart, hname, write_append, List.foldlM_nil, pure_eq_ok, ok_bind]
    dsimp only
    rw [splitAt?_append]
    simp only [okOr, ok_bind, unescapePrincipalComponent_write]
    rfl
  | cons next parts ih =>
    obtain ⟨hnext, hparts⟩ := List.forall_mem_cons.mp hparts
    have hbefore : name = (before ++ part ++ [slash]) ++ (next ++ separated slash parts) := by
      simp [hname]
    have hoffset : byteLen (write (before ++ part ++ [slash])) =
        byteLen (write before) + byteLen (write part) + byteLen slash.write := by
      simp [Nat.add_assoc]
    have hpiece : slice? (write name) (byteLen (write before)) (byteLen (write before) + byteLen (write part)) =
        some (write part) := by
      rw [hname, write_append, write_append]
      exact slice?_append _ _ _
    have hstep : parseComponent value (write name) (components, byteLen (write before))
        (byteLen (write before) + byteLen (write part)) =
        .ok (components ++ [chars part], byteLen (write (before ++ part ++ [slash]))) := by
      rw [parseComponent, hpiece, hoffset]
      simp only [okOr, ok_bind, unescapePrincipalComponent_write]
      rfl
    rw [separated_cons, positions_append_cons hpart, List.foldlM_cons, hstep, ok_bind, ← hoffset,
      ih hnext hparts hbefore]
    simp

theorem parsePrincipalComponents_write (hpart : slash ∉ part) (hparts : ∀ part ∈ parts, slash ∉ part) :
    parsePrincipalComponents value (write (part ++ separated slash parts)) = (do
      ensure (∀ component ∈ (part :: parts).map chars, component ≠ [])
        (invalidPrincipalName value "principal contains an empty name component")
      return (part :: parts).map chars) := by
  have hfound : unescapedSeparatorIndices (write (part ++ separated slash parts)) '/' =
      positions slash 0 (part ++ separated slash parts) := by
    rw [← List.append_nil (write _)]
    exact unescapedSeparatorIndices_write (by decide) (.inl rfl) (part ++ separated slash parts)
  have hname : part ++ separated slash parts = [] ++ (part ++ separated slash parts) := rfl
  have hrun := parseComponents_run value hpart hparts hname []
  obtain ⟨⟨found, start⟩, hloop, hrun⟩ := bind_eq_ok.mp hrun
  obtain ⟨⟨front, piece⟩, hpiece, hrun⟩ := bind_eq_ok.mp hrun
  obtain ⟨component, hcomponent, hrun⟩ := bind_eq_ok.mp hrun
  have hcomponents : found ++ [component] = (part :: parts).map chars := Except.ok.inj hrun
  rw [write_nil, byteLen_nil] at hloop
  rw [parsePrincipalComponents, hfound, hloop, ok_bind]
  dsimp only
  rw [hpiece, ok_bind]
  dsimp only
  rw [hcomponent, ok_bind, hcomponents]

/-- The components of a name are what stands between its slashes. -/
theorem parsePrincipalComponents_eq_ok {components : List (List Char)} :
    parsePrincipalComponents value (write name) = .ok components ↔
      ∃ part parts, name = part ++ separated slash parts ∧ (∀ part' ∈ part :: parts, part' ≠ [] ∧ slash ∉ part') ∧
        components = (part :: parts).map chars := by
  have hchars : ∀ parts : List (List NameToken),
      (∀ component ∈ parts.map chars, component ≠ []) ↔ ∀ part ∈ parts, part ≠ [] := by
    intro parts
    rw [List.forall_mem_map]
    simp only [ne_eq, chars_eq_nil]
  constructor
  · intro h
    obtain ⟨part, parts, rfl, hpart, hparts⟩ := exists_separated slash name
    rw [parsePrincipalComponents_write hpart hparts] at h
    simp only [bind_eq_ok, ensure_eq_ok, pure_eq_ok, Except.ok.injEq, hchars] at h
    obtain ⟨-, hne, rfl⟩ := h
    have hfree : ∀ part' ∈ part :: parts, slash ∉ part' := List.forall_mem_cons.mpr ⟨hpart, hparts⟩
    exact ⟨part, parts, rfl, fun part' hm ↦ ⟨hne part' hm, hfree part' hm⟩, rfl⟩
  · intro h
    obtain ⟨part, parts, rfl, hall, rfl⟩ := h
    obtain ⟨⟨-, hpart⟩, hparts⟩ := List.forall_mem_cons.mp hall
    rw [parsePrincipalComponents_write hpart fun part' hm ↦ (hparts part' hm).2,
      ensure_of ((hchars _).mpr fun part' hm ↦ (hall part' hm).1)]
    rfl

end Components

section Principals

variable {value : List Char} {p : Principal}

theorem intercalate_eq_separated (sep : NameToken) (part : List NameToken) (parts : List (List NameToken)) :
    [sep].intercalate (part :: parts) = part ++ separated sep parts := by
  induction parts generalizing part with
  | nil => simp
  | cons next parts ih => rw [List.intercalate_cons_cons, ih, separated_cons, List.append_assoc]; rfl

/-- A text that names a realm and components: no escape dangles, one `@` is not escaped, and neither
is a `/` within a component. -/
structure Spells (value : List Char) (components : List (List NameToken)) (realm : List NameToken) : Prop where
  tokens : tokenize '\\' value = some ([slash].intercalate components ++ atSign :: realm)
  components : ∀ component ∈ components, component ≠ [] ∧ atSign ∉ component ∧ slash ∉ component
  realm_ne : realm ≠ []
  realm_atSign : atSign ∉ realm

theorem mem_intercalate {token sep : NameToken} (hne : token ≠ sep) (parts : List (List NameToken)) :
    token ∈ [sep].intercalate parts ↔ ∃ part ∈ parts, token ∈ part := by
  cases parts with
  | nil => simp
  | cons part parts =>
    rw [intercalate_eq_separated, separated, List.mem_append, List.mem_flatMap, List.exists_mem_cons_iff]
    simp only [List.mem_cons, hne, false_or]

theorem atSign_ne_slash : atSign ≠ slash := by decide

theorem parse_eq_ok {realm : List Char} {components : List (List Char)} :
    (∃ name, parseNameAndRealm value = .ok (name, realm) ∧ parsePrincipalComponents value name = .ok components) ↔
      ∃ parts tokens, parts ≠ [] ∧ Spells value parts tokens ∧ realm = chars tokens ∧ components = parts.map chars := by
  constructor
  · intro h
    obtain ⟨name, hname, hcomponents⟩ := h
    obtain ⟨name, tokens, htokens, hat, hrealm, hne, hrealm_ne, heq⟩ := parseNameAndRealm_eq_ok.mp hname
    obtain ⟨rfl, rfl⟩ := Prod.mk.inj heq
    obtain ⟨part, parts, rfl, hall, rfl⟩ := parsePrincipalComponents_eq_ok.mp hcomponents
    rw [← intercalate_eq_separated] at htokens hat
    rw [mem_intercalate atSign_ne_slash] at hat
    refine ⟨part :: parts, tokens, List.cons_ne_nil _ _, ⟨htokens, fun part' hm ↦ ?_, hrealm_ne, hrealm⟩, rfl, rfl⟩
    exact ⟨(hall part' hm).1, fun hat' ↦ hat ⟨part', hm, hat'⟩, (hall part' hm).2⟩
  · intro h
    obtain ⟨parts, tokens, hne, h, rfl, rfl⟩ := h
    obtain ⟨part, parts, rfl⟩ := List.exists_cons_of_ne_nil hne
    refine ⟨write ([slash].intercalate (part :: parts)), parseNameAndRealm_eq_ok.mpr ?_,
      parsePrincipalComponents_eq_ok.mpr ?_⟩
    · refine ⟨_, _, h.tokens, ?_, h.realm_atSign, ?_, h.realm_ne, rfl⟩
      · rw [mem_intercalate atSign_ne_slash]
        intro h
        obtain ⟨part', hm, hat⟩ := h
        exact (h.components part' hm).2.1 hat
      · rw [intercalate_eq_separated]
        exact List.append_ne_nil_of_left_ne_nil (h.components part List.mem_cons_self).1 _
    · exact ⟨part, parts, intercalate_eq_separated slash part parts,
        fun part' hm ↦ ⟨(h.components part' hm).1, (h.components part' hm).2.2⟩, rfl⟩

theorem parseUser_eq_ok : parseUser value = .ok p ↔
    ∃ component realm, Spells value [component] realm ∧ p = user (chars realm) (chars component) := by
  constructor
  · intro h
    obtain ⟨⟨name, realm⟩, hname, h⟩ := bind_eq_ok.mp h
    obtain ⟨components, hcomponents, h⟩ := bind_eq_ok.mp h
    obtain ⟨parts, tokens, -, hspells, rfl, rfl⟩ := parse_eq_ok.mp ⟨name, hname, hcomponents⟩
    split at h
    · next component hone =>
      obtain ⟨part, rfl, rfl⟩ := List.map_eq_singleton_iff.mp hone
      exact ⟨part, tokens, hspells, (Except.ok.inj h).symm⟩
    · cases h
  · intro h
    obtain ⟨component, realm, hspells, rfl⟩ := h
    obtain ⟨name, hname, hcomponents⟩ := parse_eq_ok.mpr ⟨[component], realm, by simp, hspells, rfl, rfl⟩
    rw [parseUser, hname, ok_bind]
    dsimp only
    rw [hcomponents]
    rfl

theorem parseService_eq_ok : parseService value = .ok p ↔
    ∃ service host realm, Spells value [service, host] realm ∧
      p = ⟨.ofList (chars realm), krbNtSrvInst, [.ofList (chars service), .ofList (chars host)]⟩ := by
  constructor
  · intro h
    obtain ⟨⟨name, realm⟩, hname, h⟩ := bind_eq_ok.mp h
    obtain ⟨components, hcomponents, h⟩ := bind_eq_ok.mp h
    obtain ⟨parts, tokens, -, hspells, rfl, rfl⟩ := parse_eq_ok.mp ⟨name, hname, hcomponents⟩
    obtain ⟨u, hlength, h⟩ := bind_eq_ok.mp h
    rw [ensure_eq_ok, List.length_map, List.length_eq_two] at hlength
    obtain ⟨service, host, rfl⟩ := hlength
    exact ⟨service, host, tokens, hspells, (Except.ok.inj h).symm⟩
  · intro h
    obtain ⟨service, host, realm, hspells, rfl⟩ := h
    obtain ⟨name, hname, hcomponents⟩ := parse_eq_ok.mpr ⟨[service, host], realm, by simp, hspells, rfl, rfl⟩
    rw [parseService, hname, ok_bind]
    dsimp only
    have htwo : ([service, host].map chars).length = 2 := rfl
    rw [hcomponents, ok_bind, ensure_of htwo]
    rfl

end Principals

section Render

def IsSpecial (c : Char) : Prop := c = '\\' ∨ c = '/' ∨ c = '@'

instance : DecidablePred IsSpecial := fun _ ↦ inferInstanceAs (Decidable (_ ∨ _))

/-- A text with a backslash before each backslash, `/` and `@`. -/
def escapeText (text : List Char) : List Char :=
  text.flatMap fun c ↦ if IsSpecial c then ['\\', c] else [c]

def render (components : List (List Char)) (realm : List Char) : List Char :=
  ['/'].intercalate (components.map escapeText) ++ '@' :: escapeText realm

def escapeTokens (text : List Char) : List NameToken := text.map (Token.of IsSpecial (.inl rfl))

theorem write_escapeTokens (text : List Char) : write (escapeTokens text) = escapeText text := by
  rw [write, escapeTokens, List.flatMap_map, escapeText]
  congr 1
  funext c
  unfold Token.of
  split <;> rfl

theorem chars_escapeTokens (text : List Char) : chars (escapeTokens text) = text := chars_map_of _ _ text

theorem atSign_not_mem_escapeTokens (text : List Char) : atSign ∉ escapeTokens text :=
  plain_not_mem_map_of _ (.inr (.inr rfl)) _ text

theorem slash_not_mem_escapeTokens (text : List Char) : slash ∉ escapeTokens text :=
  plain_not_mem_map_of _ (.inr (.inl rfl)) _ text

theorem write_intercalate (parts : List (List NameToken)) :
    write ([slash].intercalate parts) = ['/'].intercalate (parts.map write) := by
  cases parts with
  | nil => rfl
  | cons part parts =>
    induction parts generalizing part with
    | nil => simp
    | cons next parts ih =>
      rw [List.intercalate_cons_cons, write_append, write_append, ih]
      simp only [List.map_cons, List.intercalate_cons_cons]
      rfl

theorem spells_render {components : List (List Char)} {realm : List Char} (hrealm : realm ≠ [])
    (hcomponents : ∀ component ∈ components, component ≠ []) :
    Spells (render components realm) (components.map escapeTokens) (escapeTokens realm) := by
  refine ⟨?_, fun part hm ↦ ?_, mt List.map_eq_nil_iff.mp hrealm, atSign_not_mem_escapeTokens realm⟩
  · rw [tokenize_eq_some_iff, write_append, write_intercalate, List.map_map, render]
    simp only [Function.comp_def, write_escapeTokens, write_cons]
    rfl
  · obtain ⟨component, hcomponent, rfl⟩ := List.mem_map.mp hm
    exact ⟨mt List.map_eq_nil_iff.mp (hcomponents component hcomponent), atSign_not_mem_escapeTokens component,
      slash_not_mem_escapeTokens component⟩

/-- Parsing takes back what escaping has written, and accepts nothing but texts that spell the name. -/
theorem parse_escaped :
    (∀ realm component : List Char, realm ≠ [] → component ≠ [] →
      parseUser (render [component] realm) = .ok (user realm component)) ∧
    (∀ realm service host : List Char, realm ≠ [] → service ≠ [] → host ≠ [] →
      parseService (render [service, host] realm) =
        .ok ⟨.ofList realm, krbNtSrvInst, [.ofList service, .ofList host]⟩) ∧
    (∀ value p, parseUser value = .ok p ↔
      ∃ component realm, Spells value [component] realm ∧ p = user (chars realm) (chars component)) ∧
    (∀ value p, parseService value = .ok p ↔ ∃ service host realm, Spells value [service, host] realm ∧
      p = ⟨.ofList (chars realm), krbNtSrvInst, [.ofList (chars service), .ofList (chars host)]⟩) := by
  refine ⟨fun realm component hrealm hcomponent ↦ ?_, fun realm service host hrealm hservice hhost ↦ ?_,
    fun value p ↦ parseUser_eq_ok, fun value p ↦ parseService_eq_ok⟩
  · refine parseUser_eq_ok.mpr ⟨_, _, spells_render hrealm (by simpa using hcomponent), ?_⟩
    rw [chars_escapeTokens, chars_escapeTokens]
  · refine parseService_eq_ok.mpr ⟨_, _, _, spells_render hrealm (by simpa using ⟨hservice, hhost⟩), ?_⟩
    rw [chars_escapeTokens, chars_escapeTokens, chars_escapeTokens]

end Render

end Rskrb5.Client
