import Mathlib.Tactic.MkIffOfInductiveProp
import Rskrb5.Krb5Conf

namespace Rskrb5.Krb5Conf

open Lib.Arithmetic Lib.Results Lib.Texts Spnego

/-- A line that assigns, by what stands on the two sides of its first equals sign. -/
structure Assigned where
  number : ℕ
  key : List Char
  value : List Char

def Assigned.line (assigned : Assigned) : Line := ⟨assigned.number, assigned.key ++ '=' :: assigned.value⟩

def Assigned.name (assigned : Assigned) : String := .ofList (toAsciiLowercase (trim assigned.key))

def Assigned.text (assigned : Assigned) : List Char := trim assigned.value

/-- The lines between the braces of a block. -/
inductive Body
  | done
  | assign (assigned : Assigned) (rest : Body)
  | nested (header : Assigned) (inner : Body) (closing : Line) (rest : Body)

def Body.lines : Body → List Line
  | .done => []
  | .assign assigned rest => assigned.line :: rest.lines
  | .nested header inner closing rest => header.line :: (inner.lines ++ closing :: rest.lines)

/-- The assignments of a block that are not in a block within it. -/
def Body.direct : Body → List Assigned
  | .done => []
  | .assign assigned rest => assigned :: rest.direct
  | .nested _ _ _ rest => rest.direct

/-- How many blocks stand within one another at most. -/
def Body.nesting : Body → ℕ
  | .done => 0
  | .assign _ rest => rest.nesting
  | .nested _ inner _ rest => max (inner.nesting + 1) rest.nesting

structure Block where
  header : Assigned
  body : Body
  closing : Line

def Block.lines (block : Block) : List Line :=
  block.header.line :: (block.body.lines ++ [block.closing])

/-- A value without the mark of a final one, and whether it has that mark. -/
def mark (value : List Char) : List Char × Bool :=
  match stripSuffix '*' value with
  | some host => (trimEndMatches isWhitespace host, true)
  | none => (value, false)

/-- The values up to the first that is marked as final. -/
def untilFinal (complete : List Char → List Char) : List (List Char) → List String
  | [] => []
  | value :: values =>
    .ofList (complete (mark value).1) :: if (mark value).2 then [] else untilFinal complete values

def withKdcPort (host : List Char) : List Char := if ':' ∈ host then host else host ++ ":88".toList

def valuesOf (name : String) (direct : List Assigned) : List (List Char) :=
  (direct.filter (·.name = name)).map Assigned.text

def Block.realm (block : Block) : Realm :=
  let direct := block.body.direct
  let adminServer := untilFinal id (valuesOf "admin_server" direct)
  let kpasswdServer := untilFinal id (valuesOf "kpasswd_server" direct)
  { realm := .ofList (trim block.header.key)
    adminServer
    defaultDomain := (((valuesOf "default_domain" direct).getLast?).map String.ofList).getD ""
    kdc := untilFinal withKdcPort (valuesOf "kdc" direct)
    kpasswdServer := if kpasswdServer = [] then adminServer.map derivedKpasswdServer else kpasswdServer
    masterKdc := untilFinal id (valuesOf "master_kdc" direct) }

section Forms

def BraceFree (text : List Char) : Prop := '{' ∉ text ∧ '}' ∉ text
  deriving Decidable

def Closes (line : Line) : Prop := trim line.text = ['}']
  deriving Decidable

/-- Its key has no equals sign and is not of version 4, in whatever case it is written. -/
@[mk_iff] structure Assigned.Supported (assigned : Assigned) : Prop where
  noEquals : '=' ∉ assigned.key
  noVersion4 : ¬ "v4_".toList <:+: toAsciiLowercase (trim assigned.key)

/-- A brace-free line whose value has at most one mark of a final one. -/
@[mk_iff] structure Assigned.Plain (assigned : Assigned) : Prop extends assigned.Supported where
  key : BraceFree assigned.key
  value : BraceFree assigned.value
  oneMark : (mark assigned.text).1.getLast? ≠ some '*'

def recognised : List String := ["admin_server", "default_domain", "kdc", "kpasswd_server", "master_kdc"]

/-- A line that opens a block within a block. -/
@[mk_iff] structure Assigned.Nests (assigned : Assigned) : Prop extends assigned.Supported where
  tag : BraceFree assigned.key
  unrecognised : assigned.name ∉ recognised
  opens : assigned.text = ['{']

def Body.WellFormed : Body → Prop
  | .done => True
  | .assign assigned rest => assigned.Plain ∧ rest.WellFormed
  | .nested header inner closing rest =>
    header.Nests ∧ inner.WellFormed ∧ Closes closing ∧ rest.WellFormed

@[mk_iff] structure Block.WellFormed (block : Block) : Prop where
  noEquals : '=' ∉ block.header.key
  opens : block.header.text = ['{']
  body : block.body.WellFormed
  closing : Closes block.closing

instance (assigned : Assigned) : Decidable assigned.Supported :=
  decidable_of_iff _ (assigned.supported_iff).symm

instance (assigned : Assigned) : Decidable assigned.Plain := decidable_of_iff _ (assigned.plain_iff).symm

instance (assigned : Assigned) : Decidable assigned.Nests := decidable_of_iff _ (assigned.nests_iff).symm

instance Body.decidableWellFormed : (body : Body) → Decidable body.WellFormed
  | .done => inferInstanceAs (Decidable True)
  | .assign assigned rest =>
    have := rest.decidableWellFormed
    inferInstanceAs (Decidable (assigned.Plain ∧ rest.WellFormed))
  | .nested header inner closing rest =>
    have := inner.decidableWellFormed
    have := rest.decidableWellFormed
    inferInstanceAs (Decidable (header.Nests ∧ inner.WellFormed ∧ Closes closing ∧ rest.WellFormed))

instance (block : Block) : Decidable block.WellFormed := decidable_of_iff _ (block.wellFormed_iff).symm

end Forms

section Trimming

variable {text : List Char}

theorem trim_eq (h : Trimmed isWhitespace text) : trim text = text := by
  change trimEndMatches isWhitespace (text.dropWhile isWhitespace) = text
  rw [dropWhile_of_head? h.head, trimEndMatches_of_getLast? h.last]

theorem trimmed_trim (text : List Char) : Trimmed isWhitespace (trim text) :=
  trimmed_trimEndMatches (head?_dropWhile isWhitespace text)

/-- What is trimmed is white space. -/
theorem exists_eq_trim (text : List Char) : ∃ before after, text = before ++ (trim text ++ after) ∧
    (∀ c ∈ before, isWhitespace c = true) ∧ ∀ c ∈ after, isWhitespace c = true := by
  have hfront := List.takeWhile_append_dropWhile (p := isWhitespace) (l := text)
  have hback := List.takeWhile_append_dropWhile (p := isWhitespace) (l := (text.dropWhile isWhitespace).reverse)
  refine ⟨text.takeWhile isWhitespace, ((text.dropWhile isWhitespace).reverse.takeWhile isWhitespace).reverse,
    ?_, fun c hc ↦ List.mem_takeWhile_imp hc, fun c hc ↦ List.mem_takeWhile_imp (List.mem_reverse.mp hc)⟩
  rw [trim, ← List.reverse_append, hback, List.reverse_reverse, hfront]

theorem count_trim {c : Char} (h : isWhitespace c = false) (text : List Char) : (trim text).count c = text.count c := by
  obtain ⟨before, after, heq, hbefore, hafter⟩ := exists_eq_trim text
  have hnone : ∀ more : List Char, (∀ c ∈ more, isWhitespace c = true) → more.count c = 0 := by
    intro more hmore
    refine List.count_eq_zero.mpr fun hc ↦ ?_
    rw [hmore c hc] at h
    cases h
  conv_rhs => rw [heq, List.count_append, List.count_append, hnone before hbefore, hnone after hafter]
  omega

theorem mem_trim_iff {c : Char} (h : isWhitespace c = false) : c ∈ trim text ↔ c ∈ text := by
  rw [← List.count_pos_iff, ← List.count_pos_iff, count_trim h]

end Trimming

section Marks

variable {value : List Char}

theorem mark_append (host : List Char) : mark (host ++ ['*']) = (trimEndMatches isWhitespace host, true) := by
  rw [mark, stripSuffix_append]

theorem mark_of_getLast? (h : value.getLast? ≠ some '*') : mark value = (value, false) := by
  rw [mark, stripSuffix_of_getLast? h]

theorem exists_eq_append_of_getLast? {c : Char} (h : value.getLast? = some c) : ∃ host, value = host ++ [c] :=
  ⟨value.dropLast, (List.dropLast_append_getLast? c h).symm⟩

theorem head?_append {host more : List Char} (h : Trimmed isWhitespace (host ++ more)) :
    ∀ c ∈ host.head?, isWhitespace c = false :=
  fun c hc ↦ h.head c (head?_of_start (List.prefix_append host more) c hc)

theorem trimmed_mark (h : Trimmed isWhitespace value) : Trimmed isWhitespace (mark value).1 := by
  by_cases hlast : value.getLast? = some '*'
  · obtain ⟨host, rfl⟩ := exists_eq_append_of_getLast? hlast
    rw [mark_append]
    exact trimmed_trimEndMatches (head?_append h)
  · rwa [mark_of_getLast? hlast]

theorem getLast?_of_oneMark {host : List Char} (h : (mark (host ++ ['*'])).1.getLast? ≠ some '*') :
    host.getLast? ≠ some '*' := by
  intro hlast
  have hself : trimEndMatches isWhitespace host = host := by
    refine trimEndMatches_of_getLast? fun c hc ↦ ?_
    obtain rfl := Option.some.inj (hlast.symm.trans hc)
    rfl
  rw [mark_append, hself] at h
  exact h hlast

theorem addDefaultPort_eq (ht : Trimmed isWhitespace value) (h : (mark value).1.getLast? ≠ some '*') :
    addDefaultPort value 88 = withKdcPort (mark value).1 ++ if (mark value).2 then ['*'] else [] := by
  have hfinish : ∀ host : List Char, ∀ marker : List Char,
      (if ':' ∈ host then host ++ marker else host ++ ':' :: (toString 88).toList ++ marker) =
        withKdcPort host ++ marker := by
    intro host marker
    rw [withKdcPort]
    split <;> rfl
  rw [addDefaultPort, trim_eq ht, hfinish]
  by_cases hlast : value.getLast? = some '*'
  · obtain ⟨host, rfl⟩ := exists_eq_append_of_getLast? hlast
    have hstars : trimEndMatches (· = '*') (host ++ ['*']) = host := by
      rw [trimEndMatches_append_of_all (by simp)]
      refine trimEndMatches_of_getLast? fun c hc ↦ ?_
      have hne := getLast?_of_oneMark h
      rw [Option.mem_def.mp hc] at hne
      simpa using hne
    have htrim : trim host = trimEndMatches isWhitespace host := by
      change trimEndMatches isWhitespace (host.dropWhile isWhitespace) = _
      rw [dropWhile_of_head? (head?_append ht)]
    rw [hstars, htrim, mark_append, if_pos hlast]
    rfl
  · have hstars : trimEndMatches (· = '*') value = value := by
      refine trimEndMatches_of_getLast? fun c hc ↦ ?_
      rw [Option.mem_def.mp hc] at hlast
      simpa using hlast
    rw [hstars, trim_eq ht, mark_of_getLast? hlast, if_neg hlast]
    rfl

theorem withKdcPort_trimmed {host : List Char} (h : Trimmed isWhitespace host)
    (hlast : host.getLast? ≠ some '*') :
    Trimmed isWhitespace (withKdcPort host) ∧ (withKdcPort host).getLast? ≠ some '*' := by
  rw [withKdcPort]
  split
  · exact ⟨h, hlast⟩
  · have hend : (host ++ ":88".toList).getLast? = some '8' := by
      rw [List.getLast?_append]
      rfl
    refine ⟨⟨fun c hc ↦ ?_, fun c hc ↦ ?_⟩, by rw [hend]; decide⟩
    · cases host with
      | nil =>
        obtain rfl := Option.some.inj hc
        rfl
      | cons first host => exact h.head c hc
    · rw [hend] at hc
      obtain rfl := Option.some.inj hc
      rfl

/-- A default port goes before the mark. -/
theorem mark_addDefaultPort (ht : Trimmed isWhitespace value) (h : (mark value).1.getLast? ≠ some '*') :
    Trimmed isWhitespace (addDefaultPort value 88) ∧
      mark (addDefaultPort value 88) = (withKdcPort (mark value).1, (mark value).2) := by
  obtain ⟨hport, hlast⟩ := withKdcPort_trimmed (trimmed_mark ht) h
  rw [addDefaultPort_eq ht h]
  cases (mark value).2 with
  | false =>
    rw [if_neg (by decide), List.append_nil]
    exact ⟨hport, mark_of_getLast? hlast⟩
  | true =>
    rw [if_pos rfl, mark_append, trimEndMatches_of_getLast? hport.last]
    refine ⟨⟨fun c hc ↦ ?_, fun c hc ↦ ?_⟩, rfl⟩
    · cases hhost : withKdcPort (mark value).1 with
      | nil =>
        rw [hhost] at hc
        obtain rfl := Option.some.inj hc
        rfl
      | cons first host =>
        rw [hhost] at hc hport
        exact hport.head c hc
    · rw [List.getLast?_append] at hc
      obtain rfl := Option.some.inj hc
      rfl

end Marks

section Lists

variable {hosts : Hosts} {value : List Char}

theorem appendUntilFinal_eq (h : hosts.finalSeen = false) (ht : Trimmed isWhitespace value) :
    hosts.appendUntilFinal value = ⟨hosts.values ++ [.ofList (mark value).1], (mark value).2⟩ := by
  rw [Hosts.appendUntilFinal, h, if_neg (by decide), trim_eq ht, mark]
  cases stripSuffix '*' value <;> rfl

theorem appendUntilFinal_trim (value : List Char) :
    hosts.appendUntilFinal (trim value) = hosts.appendUntilFinal value := by
  rw [Hosts.appendUntilFinal, Hosts.appendUntilFinal, trim_eq (trimmed_trim value)]

/-- What is appended has no white space at its ends. -/
theorem trimmed_appendUntilFinal (h : ∀ host ∈ hosts.values, Trimmed isWhitespace host.toList) (value : List Char) :
    ∀ host ∈ (hosts.appendUntilFinal value).values, Trimmed isWhitespace host.toList := by
  rw [← appendUntilFinal_trim]
  cases hseen : hosts.finalSeen with
  | true => rwa [Hosts.appendUntilFinal, if_pos hseen]
  | false =>
    rw [appendUntilFinal_eq hseen (trimmed_trim value), List.forall_mem_append, List.forall_mem_singleton,
      String.toList_ofList]
    exact ⟨h, trimmed_mark (trimmed_trim value)⟩

theorem foldl_appendUntilFinal_of_seen (f : List Char → List Char) (values : List (List Char))
    (h : hosts.finalSeen = true) :
    (values.foldl (fun hosts value ↦ hosts.appendUntilFinal (f value)) hosts) = hosts := by
  induction values with
  | nil => rfl
  | cons value values ih =>
    rw [List.foldl_cons, Hosts.appendUntilFinal, if_pos h]
    exact ih

/-- What is appended, each value completed by `f`, are the values up to the final one. -/
theorem foldl_appendUntilFinal {f complete : List Char → List Char} {values : List (List Char)}
    (hf : ∀ value ∈ values, Trimmed isWhitespace (f value) ∧
      mark (f value) = (complete (mark value).1, (mark value).2)) (h : hosts.finalSeen = false) :
    (values.foldl (fun hosts value ↦ hosts.appendUntilFinal (f value)) hosts).values =
      hosts.values ++ untilFinal complete values := by
  induction values generalizing hosts with
  | nil => simp [untilFinal]
  | cons value values ih =>
    obtain ⟨ht, hmark⟩ := hf value List.mem_cons_self
    rw [List.foldl_cons, appendUntilFinal_eq h ht, hmark, untilFinal]
    cases hseen : (mark value).2 with
    | true => rw [foldl_appendUntilFinal_of_seen f values rfl, if_pos rfl]
    | false =>
      rw [ih (fun value hm ↦ hf value (List.mem_cons_of_mem _ hm)) rfl, if_neg (by decide), List.append_assoc]
      rfl

end Lists

section Fields

/-- What a line of a realm does, by its key and value. -/
def RealmHosts.add (hosts : RealmHosts) (name : String) (value : List Char) : RealmHosts :=
  match name with
  | "admin_server" => { hosts with adminServer := hosts.adminServer.appendUntilFinal value }
  | "default_domain" => { hosts with defaultDomain := .ofList value }
  | "kdc" => { hosts with kdc := hosts.kdc.appendUntilFinal (addDefaultPort value 88) }
  | "kpasswd_server" => { hosts with kpasswdServer := hosts.kpasswdServer.appendUntilFinal value }
  | "master_kdc" => { hosts with masterKdc := hosts.masterKdc.appendUntilFinal value }
  | _ => hosts

def RealmHosts.addAll (hosts : RealmHosts) (direct : List Assigned) : RealmHosts :=
  direct.foldl (fun hosts assigned ↦ hosts.add assigned.name assigned.text) hosts

theorem parseAssignment_line {assigned : Assigned} (h : '=' ∉ assigned.key) (sectionName : String) :
    parseAssignment assigned.line sectionName = .ok (trim assigned.key, assigned.text) := by
  rw [parseAssignment, Assigned.line, splitOnce_append h]
  rfl

theorem add_of_unrecognised {name : String} (h : name ∉ recognised) (hosts : RealmHosts) (value : List Char) :
    hosts.add name value = hosts := by
  unfold RealmHosts.add
  split
  all_goals first | rfl | exact absurd (by decide) h

theorem parseLine_of_directive {line : Line} {name : String} {value : List Char}
    (h : parseDirective line "realms" = .ok (name, value)) (hosts : RealmHosts) :
    hosts.parseLine line = .ok (hosts.add name value) := by
  rw [RealmHosts.parseLine, h, ok_bind]
  dsimp only
  by_cases hname : name ∈ recognised
  · simp only [recognised, List.mem_cons, List.not_mem_nil, or_false] at hname
    rcases hname with rfl | rfl | rfl | rfl | rfl <;> rfl
  · rw [add_of_unrecognised hname]
    split
    all_goals first | rfl | exact absurd (by decide) hname

theorem parseLine_eq_ok {line : Line} {hosts hosts' : RealmHosts} (h : hosts.parseLine line = .ok hosts') :
    ∃ name value, parseDirective line "realms" = .ok (name, value) ∧ hosts' = hosts.add name value := by
  cases hdirective : parseDirective line "realms" with
  | error e =>
    rw [RealmHosts.parseLine, hdirective] at h
    cases h
  | ok directive =>
    rw [parseLine_of_directive hdirective] at h
    exact ⟨_, _, rfl, (Except.ok.inj h).symm⟩

theorem parseLine_line {assigned : Assigned} (h : assigned.Supported) (hosts : RealmHosts) :
    hosts.parseLine assigned.line = .ok (hosts.add assigned.name assigned.text) := by
  refine parseLine_of_directive ?_ hosts
  rw [parseDirective, parseAssignment_line h.noEquals, ok_bind]
  dsimp only
  rw [ensure_of h.noVersion4]
  rfl

theorem foldlM_parseLine {direct : List Assigned} (h : ∀ assigned ∈ direct, assigned.Supported)
    (hosts : RealmHosts) :
    (direct.map Assigned.line).foldlM RealmHosts.parseLine hosts = .ok (hosts.addAll direct) := by
  induction direct generalizing hosts with
  | nil => rfl
  | cons assigned direct ih =>
    rw [List.map_cons, List.foldlM_cons, parseLine_line (h assigned List.mem_cons_self), ok_bind,
      ih fun assigned hm ↦ h assigned (List.mem_cons_of_mem _ hm)]
    rfl

theorem valuesOf_cons (name : String) (assigned : Assigned) (direct : List Assigned) :
    valuesOf name (assigned :: direct) =
      if assigned.name = name then assigned.text :: valuesOf name direct else valuesOf name direct := by
  by_cases h : assigned.name = name <;> simp [valuesOf, h]

/-- Every field is made of the values of its own key, in their order. -/
theorem addAll_eq (hosts : RealmHosts) (direct : List Assigned) :
    hosts.addAll direct =
      { adminServer := (valuesOf "admin_server" direct).foldl Hosts.appendUntilFinal hosts.adminServer
        defaultDomain := (((valuesOf "default_domain" direct).getLast?).map String.ofList).getD
          hosts.defaultDomain
        kdc := (valuesOf "kdc" direct).foldl
          (fun kdc value ↦ kdc.appendUntilFinal (addDefaultPort value 88)) hosts.kdc
        kpasswdServer := (valuesOf "kpasswd_server" direct).foldl Hosts.appendUntilFinal hosts.kpasswdServer
        masterKdc := (valuesOf "master_kdc" direct).foldl Hosts.appendUntilFinal hosts.masterKdc } := by
  induction direct generalizing hosts with
  | nil => rfl
  | cons assigned direct ih =>
    change (hosts.add assigned.name assigned.text).addAll direct = _
    simp only [ih, valuesOf_cons]
    by_cases hname : assigned.name ∈ recognised
    · simp only [recognised, List.mem_cons, List.not_mem_nil, or_false] at hname
      rcases hname with h | h | h | h | h <;> simp [h, RealmHosts.add, List.getLast?_cons]
    · simp only [add_of_unrecognised hname]
      simp only [recognised, List.mem_cons, List.not_mem_nil, or_false, not_or] at hname
      simp [hname]

end Fields

section Depth

/-- The lines that a block is parsed from: those at its own depth, which its inner headers are among. -/
def Body.kept : Body → List Assigned
  | .done => []
  | .assign assigned rest => assigned :: rest.kept
  | .nested header _ _ rest => header :: rest.kept

variable {build : Build} {depth : ℤ}

theorem braceDelta_eq_ok {text : List Char} {opening closing : ℕ} (hopening : text.count '{' = opening)
    (hclosing : text.count '}' = closing) (hle : opening ≤ 1) (hle' : closing ≤ 1) :
    braceDelta build text = .ok (opening - closing) := by
  rw [braceDelta, hopening, hclosing, asI32_of_lt (by omega), asI32_of_lt (by omega),
    build.i32_of_fits (by omega) (by omega)]
  rfl

theorem count_line {c : Char} (hspace : isWhitespace c = false) (hne : c ≠ '=') (assigned : Assigned) :
    assigned.line.text.count c = assigned.key.count c + assigned.text.count c := by
  rw [Assigned.line, List.count_append, List.count_cons_of_ne hne.symm, Assigned.text, count_trim hspace]

theorem BraceFree.counts {text : List Char} (h : BraceFree text) : text.count '{' = 0 ∧ text.count '}' = 0 :=
  ⟨List.count_eq_zero.mpr h.1, List.count_eq_zero.mpr h.2⟩

theorem head?_of_not_mem {assigned : Assigned} (hkey : '}' ∉ assigned.key) (htext : '}' ∉ assigned.text) :
    (trim assigned.line.text).head? ≠ some '}' := by
  intro h
  have hmem := (mem_trim_iff (by decide)).mp (List.mem_of_head? h)
  rw [Assigned.line, List.mem_append, List.mem_cons] at hmem
  rcases hmem with hmem | hmem | hmem
  · exact hkey hmem
  · exact absurd hmem (by decide)
  · exact htext ((mem_trim_iff (by decide)).mpr hmem)

theorem takeBlock_cons (hpos : 0 < depth) (block : List Line) (line : Line) (rest : List Line) {delta : ℤ}
    (hdelta : braceDelta build line.text = .ok delta) :
    takeBlock build depth block (line :: rest) = (do
      let depth' ← okOr (build.i32 (depth + delta)) .panicked
      ensure (0 ≤ depth') (.invalidRealmsSection "unpaired closing brace")
      takeBlock build depth'
        (if depth = 1 ∧ (trim line.text).head? ≠ some '}' then block ++ [line] else block) rest) := by
  rw [takeBlock, if_neg (by omega)]
  dsimp only
  rw [hdelta, ok_bind]

theorem takeBlock_of_fits (hpos : 0 < depth) (block : List Line) (line : Line) (rest : List Line) {delta : ℤ}
    (hdelta : braceDelta build line.text = .ok delta) (hlow : 0 ≤ depth + delta) (hhigh : depth + delta < 2 ^ 31) :
    takeBlock build depth block (line :: rest) = takeBlock build (depth + delta)
      (if depth = 1 ∧ (trim line.text).head? ≠ some '}' then block ++ [line] else block) rest := by
  rw [takeBlock_cons hpos _ _ _ hdelta, build.i32_of_fits (by omega) hhigh]
  change (ensure (0 ≤ depth + delta) _ >>= fun _ ↦ _) = _
  rw [ensure_of hlow]
  rfl

section Lines

variable {assigned : Assigned} {closing : Line}

theorem braceDelta_plain (h : assigned.Plain) : braceDelta build assigned.line.text = .ok 0 := by
  have hopening := count_line (c := '{') rfl (by decide) assigned
  have hclosing := count_line (c := '}') rfl (by decide) assigned
  have hvalue := h.value.counts
  rw [h.key.counts.1, Assigned.text, count_trim rfl, hvalue.1] at hopening
  rw [h.key.counts.2, Assigned.text, count_trim rfl, hvalue.2] at hclosing
  exact braceDelta_eq_ok hopening hclosing (by decide) (by decide)

theorem braceDelta_nests (h : assigned.Nests) : braceDelta build assigned.line.text = .ok 1 := by
  have hopening := count_line (c := '{') rfl (by decide) assigned
  have hclosing := count_line (c := '}') rfl (by decide) assigned
  rw [h.tag.counts.1, h.opens] at hopening
  rw [h.tag.counts.2, h.opens] at hclosing
  exact braceDelta_eq_ok hopening hclosing (by decide) (by decide)

theorem braceDelta_closes (h : Closes closing) : braceDelta build closing.text = .ok (-1) := by
  have hopening := count_trim (c := '{') rfl closing.text
  have hclosing := count_trim (c := '}') rfl closing.text
  rw [h] at hopening hclosing
  exact braceDelta_eq_ok hopening.symm hclosing.symm (by decide) (by decide)

theorem takeBlock_plain (h : assigned.Plain) (hpos : 0 < depth) (hlt : depth < 2 ^ 31) (block rest : List Line) :
    takeBlock build depth block (assigned.line :: rest) =
      takeBlock build depth (if depth = 1 then block ++ [assigned.line] else block) rest := by
  have htext : '}' ∉ assigned.text := fun hm ↦ h.value.2 ((mem_trim_iff (by decide)).mp hm)
  rw [takeBlock_of_fits hpos _ _ _ (braceDelta_plain h) (by omega) (by omega), Int.add_zero]
  simp only [head?_of_not_mem h.key.2 htext, ne_eq, not_false_eq_true, and_true]

theorem takeBlock_nests (h : assigned.Nests) (hpos : 0 < depth) (hlt : depth + 1 < 2 ^ 31) (block rest : List Line) :
    takeBlock build depth block (assigned.line :: rest) =
      takeBlock build (depth + 1) (if depth = 1 then block ++ [assigned.line] else block) rest := by
  have hclose : '}' ∉ assigned.text := by
    rw [h.opens]
    decide
  rw [takeBlock_of_fits hpos _ _ _ (braceDelta_nests h) (by omega) hlt]
  simp only [head?_of_not_mem h.tag.2 hclose, ne_eq, not_false_eq_true, and_true]

theorem takeBlock_closes (h : Closes closing) (hpos : 0 < depth) (hlt : depth < 2 ^ 31) (block rest : List Line) :
    takeBlock build depth block (closing :: rest) = takeBlock build (depth - 1) block rest := by
  rw [takeBlock_of_fits hpos _ _ _ (braceDelta_closes h) (by omega) (by omega), h]
  simp [Int.sub_eq_add_neg]

/-- What a build says of a depth that leaves its word. -/
def overflow : Build → Error
  | .checked => .panicked
  | .wrapping => .invalidRealmsSection "unpaired closing brace"

theorem takeBlock_overflows (h : assigned.Nests) (hdepth : depth + 1 = 2 ^ 31) (block rest : List Line) :
    takeBlock build depth block (assigned.line :: rest) = .error (overflow build) := by
  rw [takeBlock_cons (by omega) _ _ _ (braceDelta_nests h), hdepth]
  cases build with
  | checked =>
    rw [Build.i32_checked le_rfl]
    rfl
  | wrapping =>
    rw [Build.i32_wrapping le_rfl (by decide)]
    rfl

end Lines

/-- Reading what is between the braces comes back to the depth that it began at, and keeps lines at
the depth of one only. -/
theorem takeBlock_body {body : Body} (h : body.WellFormed) (hpos : 0 < depth)
    (hlt : depth + body.nesting < 2 ^ 31) (block rest : List Line) :
    takeBlock build depth block (body.lines ++ rest) =
      takeBlock build depth (if depth = 1 then block ++ body.kept.map Assigned.line else block) rest := by
  induction body generalizing depth block rest with
  | done => simp [Body.lines, Body.kept]
  | assign assigned tail ih =>
    obtain ⟨hplain, htail⟩ := h
    rw [Body.nesting] at hlt
    rw [Body.lines, List.cons_append, takeBlock_plain hplain hpos (by omega), ih htail hpos hlt]
    split <;> simp [Body.kept]
  | nested header inner closing tail ihInner ih =>
    obtain ⟨hnests, hinner, hcloses, htail⟩ := h
    rw [Body.nesting] at hlt
    rw [Body.lines, List.cons_append, List.append_assoc, List.cons_append,
      takeBlock_nests hnests hpos (by omega), ihInner hinner (by omega) (by omega), if_neg (by omega),
      takeBlock_closes hcloses (by omega) (by omega), Int.add_sub_cancel, ih htail hpos (by omega)]
    split <;> simp [Body.kept]

/-- Blocks within one another beyond the largest depth are not read to their end. -/
theorem takeBlock_deep {body : Body} (h : body.WellFormed) (hpos : 0 < depth) (hlt : depth < 2 ^ 31)
    (hdeep : 2 ^ 31 ≤ depth + body.nesting) (block rest : List Line) :
    takeBlock build depth block (body.lines ++ rest) = .error (overflow build) := by
  induction body generalizing depth block rest with
  | done =>
    rw [Body.nesting] at hdeep
    omega
  | assign assigned tail ih =>
    obtain ⟨hplain, htail⟩ := h
    rw [Body.lines, List.cons_append, takeBlock_plain hplain hpos hlt]
    exact ih htail hpos hlt hdeep _ _
  | nested header inner closing tail ihInner ih =>
    obtain ⟨hnests, hinner, hcloses, htail⟩ := h
    rw [Body.nesting] at hdeep
    rw [Body.lines, List.cons_append, List.append_assoc, List.cons_append]
    by_cases hfull : depth + 1 = 2 ^ 31
    · exact takeBlock_overflows hnests hfull _ _
    rw [takeBlock_nests hnests hpos (by omega)]
    by_cases hinside : 2 ^ 31 ≤ depth + 1 + inner.nesting
    · exact ihInner hinner (by omega) (by omega) hinside _ _
    rw [takeBlock_body hinner (by omega) (by omega), takeBlock_closes hcloses (by omega) (by omega),
      Int.add_sub_cancel]
    exact ih htail hpos hlt (by omega) _ _

end Depth

section Realms

theorem supported_kept {body : Body} (h : body.WellFormed) : ∀ assigned ∈ body.kept, assigned.Supported := by
  induction body with
  | done => simp [Body.kept]
  | assign assigned tail ih =>
    rw [Body.kept, List.forall_mem_cons]
    exact ⟨h.1.toSupported, ih h.2⟩
  | nested header inner closing tail _ ih =>
    rw [Body.kept, List.forall_mem_cons]
    exact ⟨h.1.toSupported, ih h.2.2.2⟩

theorem oneMark_direct {body : Body} (h : body.WellFormed) :
    ∀ assigned ∈ body.direct, (mark assigned.text).1.getLast? ≠ some '*' := by
  induction body with
  | done => simp [Body.direct]
  | assign assigned tail ih =>
    rw [Body.direct, List.forall_mem_cons]
    exact ⟨h.1.oneMark, ih h.2⟩
  | nested header inner closing tail _ ih => exact ih h.2.2.2

/-- The headers of inner blocks have keys that no field is made of. -/
theorem valuesOf_kept {body : Body} (h : body.WellFormed) {name : String} (hname : name ∈ recognised) :
    valuesOf name body.kept = valuesOf name body.direct := by
  induction body with
  | done => rfl
  | assign assigned tail ih => rw [Body.kept, Body.direct, valuesOf_cons, valuesOf_cons, ih h.2]
  | nested header inner closing tail _ ih =>
    have hne : header.name ≠ name := fun heq ↦ h.1.unrecognised (heq ▸ hname)
    rw [Body.kept, Body.direct, valuesOf_cons, if_neg hne, ih h.2.2.2]

theorem mem_valuesOf {body : Body} (h : body.WellFormed) {name : String} :
    ∀ value ∈ valuesOf name body.direct,
      Trimmed isWhitespace value ∧ (mark value).1.getLast? ≠ some '*' := by
  intro value hvalue
  obtain ⟨assigned, hm, rfl⟩ := List.mem_map.mp hvalue
  exact ⟨trimmed_trim _, oneMark_direct h assigned (List.mem_of_mem_filter hm)⟩

theorem hosts_plain {body : Body} (h : body.WellFormed) (name : String) :
    ((valuesOf name body.direct).foldl Hosts.appendUntilFinal ⟨[], false⟩).values =
      untilFinal id (valuesOf name body.direct) :=
  foldl_appendUntilFinal (f := id) (fun value hm ↦ ⟨(mem_valuesOf h value hm).1, rfl⟩) rfl

theorem hosts_kdc {body : Body} (h : body.WellFormed) :
    ((valuesOf "kdc" body.direct).foldl
      (fun (kdc : Hosts) value ↦ kdc.appendUntilFinal (addDefaultPort value 88)) ⟨[], false⟩).values =
        untilFinal withKdcPort (valuesOf "kdc" body.direct) :=
  foldl_appendUntilFinal (f := (addDefaultPort · 88))
    (fun value hm ↦ mark_addDefaultPort (mem_valuesOf h value hm).1 (mem_valuesOf h value hm).2) rfl

theorem realm_parse {block : Block} (h : block.WellFormed) :
    Realm.parse (trim block.header.key) (block.body.kept.map Assigned.line) = .ok block.realm := by
  have hkept : ∀ name ∈ recognised, valuesOf name block.body.kept = valuesOf name block.body.direct :=
    fun name hname ↦ valuesOf_kept h.body hname
  rw [Realm.parse, foldlM_parseLine (supported_kept h.body), ok_bind, addAll_eq, hkept _ (by decide),
    hkept _ (by decide), hkept _ (by decide), hkept _ (by decide), hkept _ (by decide)]
  simp only [hosts_plain h.body, hosts_kdc h.body]
  rfl

theorem parseAssignment_header {block : Block} (h : block.WellFormed) :
    parseAssignment block.header.line "realms" = .ok (trim block.header.key, ['{']) := by
  rw [parseAssignment_line h.noEquals, h.opens]

section Runs

variable {build : Build} {block : Block}

theorem parseRealmBlock_eq (h : block.WellFormed) (rest : List Line) :
    parseRealmBlock build block.header.line rest = do
      let (depth, lines, rest) ← takeBlock build 1 [] rest
      ensure (depth = 0)
        (.invalidRealmsSection ("realm block for " ++ .ofList (trim block.header.key) ++ " is not closed"))
      let realm ← Realm.parse (trim block.header.key) lines
      return (realm, rest) := by
  have hopens : '{' ∈ ['{'] := List.mem_cons_self
  have hdelta : braceDelta build ['{'] = .ok 1 := braceDelta_eq_ok rfl rfl (by decide) (by decide)
  rw [parseRealmBlock, parseAssignment_header h, ok_bind]
  dsimp only
  rw [ensure_of hopens, ok_bind, hdelta, ok_bind, ensure_of (by decide)]
  rfl

theorem parseRealmBlock_lines (h : block.WellFormed) (hlt : block.body.nesting + 1 < 2 ^ 31) (rest : List Line) :
    parseRealmBlock build block.header.line (block.body.lines ++ block.closing :: rest) =
      .ok (block.realm, rest) := by
  have htake : takeBlock build 1 [] (block.body.lines ++ block.closing :: rest) =
      .ok (0, block.body.kept.map Assigned.line, rest) := by
    rw [takeBlock_body h.body (by decide) (by omega), takeBlock_closes h.closing (by decide) (by decide)]
    cases rest <;> simp [takeBlock]
  rw [parseRealmBlock_eq h, htake, ok_bind]
  dsimp only
  rw [ensure_of rfl, ok_bind, realm_parse h]
  rfl

theorem parseRealmBlock_unclosed (h : block.WellFormed) (hlt : block.body.nesting + 1 < 2 ^ 31) :
    parseRealmBlock build block.header.line block.body.lines = .error (.invalidRealmsSection
      ("realm block for " ++ .ofList (trim block.header.key) ++ " is not closed")) := by
  have htake : takeBlock build 1 [] block.body.lines = .ok (1, block.body.kept.map Assigned.line, []) := by
    have hbody := @takeBlock_body build 1 block.body h.body (by decide) (by omega) [] []
    rwa [List.append_nil] at hbody
  rw [parseRealmBlock_eq h, htake, ok_bind]
  dsimp only
  rw [ensure_of_not (by decide)]
  rfl

theorem parseRealmBlock_deep (h : block.WellFormed) (hdeep : 2 ^ 31 ≤ block.body.nesting + 1) (rest : List Line) :
    parseRealmBlock build block.header.line (block.body.lines ++ rest) = .error (overflow build) := by
  rw [parseRealmBlock_eq h, takeBlock_deep h.body (by decide) (by decide) (by omega)]
  rfl

theorem parseRealmBlock_closing {closing : Line} (h : Closes closing) (rest : List Line) :
    parseRealmBlock build closing rest = .error (.invalidLine "realms" closing.number (.ofList closing.text)) := by
  have hequals : '=' ∉ closing.text := by
    rw [← mem_trim_iff (by decide), h]
    decide
  rw [parseRealmBlock, parseAssignment, splitOnce_of_not_mem hequals]
  rfl

/-- A block that is written as one, with a depth that a signed number of 32 bits holds. -/
structure Block.Readable (block : Block) : Prop extends block.WellFormed where
  shallow : block.body.nesting + 1 < 2 ^ 31

variable {blocks : List Block}

theorem parseRealmBlocks_append (h : ∀ block ∈ blocks, block.Readable) (fuel : ℕ) (rest : List Line) :
    parseRealmBlocks build (blocks.length + fuel) (blocks.flatMap Block.lines ++ rest) =
      (parseRealmBlocks build fuel rest).map (blocks.map Block.realm ++ ·) := by
  induction blocks with
  | nil =>
    rw [List.length_nil, Nat.zero_add, List.flatMap_nil, List.nil_append]
    cases parseRealmBlocks build fuel rest <;> rfl
  | cons block blocks ih =>
    have hlines : (block :: blocks).flatMap Block.lines ++ rest = block.header.line ::
        (block.body.lines ++ block.closing :: (blocks.flatMap Block.lines ++ rest)) := by
      simp [Block.lines]
    have hlength : (block :: blocks).length + fuel = blocks.length + fuel + 1 := by
      rw [List.length_cons]
      omega
    have hblock := h block List.mem_cons_self
    rw [hlines, hlength, parseRealmBlocks, parseRealmBlock_lines hblock.toWellFormed hblock.shallow, ok_bind]
    dsimp only
    rw [ih fun block hm ↦ h block (List.mem_cons_of_mem _ hm)]
    cases parseRealmBlocks build fuel rest <;> rfl

/-- Behind some blocks, the rest is parsed with no less fuel than it has lines. -/
theorem parseRealms_append (h : ∀ block ∈ blocks, block.Readable) (rest : List Line) :
    ∃ fuel, rest.length ≤ fuel ∧ parseRealms build (blocks.flatMap Block.lines ++ rest) =
      (parseRealmBlocks build fuel rest).map (blocks.map Block.realm ++ ·) := by
  have hle : blocks.length ≤ (blocks.flatMap Block.lines).length := by
    clear h
    induction blocks with
    | nil => exact Nat.le_refl 0
    | cons block blocks ih =>
      rw [List.flatMap_cons, List.length_append, Block.lines, List.length_cons, List.length_cons]
      omega
  refine ⟨(blocks.flatMap Block.lines).length - blocks.length + rest.length, by omega, ?_⟩
  rw [← parseRealmBlocks_append h, parseRealms, List.length_append]
  congr 1
  omega

theorem parseRealms_of_error (h : ∀ block ∈ blocks, block.Readable) {line : Line} {rest : List Line} {e : Error}
    (he : parseRealmBlock build line rest = .error e) :
    parseRealms build (blocks.flatMap Block.lines ++ line :: rest) = .error e := by
  obtain ⟨fuel, hfuel, heq⟩ := @parseRealms_append build blocks h (line :: rest)
  obtain ⟨fuel, rfl⟩ : ∃ n, fuel = n + 1 := ⟨fuel - 1, by rw [List.length_cons] at hfuel; omega⟩
  rw [heq, parseRealmBlocks, he]
  rfl

end Runs

/-- An error is returned, where the program goes on. -/
def Rejected {α : Type} (result : Except Error α) : Prop := ∃ e, result = .error e ∧ e ≠ .panicked

/-- A section of realm blocks gives one realm for each block, made of what the block assigns itself.
Without its last closing line, or with a further one between blocks or at its end, it is rejected. -/
structure ReadsBlocks (build : Build) (blocks : List Block) : Prop where
  realms : parseRealms build (blocks.flatMap Block.lines) = .ok (blocks.map Block.realm)
  unclosed : blocks ≠ [] → Rejected (parseRealms build (blocks.flatMap Block.lines).dropLast)
  closedTwice : ∀ before after closing, blocks = before ++ after → Closes closing →
    Rejected (parseRealms build (before.flatMap Block.lines ++ closing :: after.flatMap Block.lines))

section Readable

variable {build : Build} {blocks : List Block}

theorem parseRealms_unclosed (h : ∀ block ∈ blocks, block.Readable) (hne : blocks ≠ []) :
    Rejected (parseRealms build (blocks.flatMap Block.lines).dropLast) := by
  obtain ⟨before, last, hall⟩ := (List.eq_nil_or_concat blocks).resolve_left hne
  rw [List.concat_eq_append] at hall
  subst hall
  have hlast := h last (by simp)
  have hlines : ((before ++ [last]).flatMap Block.lines).dropLast =
      before.flatMap Block.lines ++ last.header.line :: last.body.lines := by
    have hshape : (before ++ [last]).flatMap Block.lines =
        (before.flatMap Block.lines ++ last.header.line :: last.body.lines) ++ [last.closing] := by
      simp [Block.lines]
    rw [hshape, List.dropLast_concat]
  have hunclosed := @parseRealmBlock_unclosed build last hlast.toWellFormed hlast.shallow
  rw [hlines]
  exact ⟨_, parseRealms_of_error (fun block hm ↦ h block (List.mem_append_left _ hm)) hunclosed, nofun⟩

theorem readsBlocks_of_readable (h : ∀ block ∈ blocks, block.Readable) : ReadsBlocks build blocks := by
  refine ⟨?_, parseRealms_unclosed h, ?_⟩
  · obtain ⟨fuel, -, heq⟩ := @parseRealms_append build blocks h []
    have hend : parseRealmBlocks build fuel [] = .ok [] := by
      cases fuel <;> rfl
    rw [List.append_nil] at heq
    rw [heq, hend]
    exact congrArg Except.ok (List.append_nil _)
  · intro before after closing heq hcloses
    subst heq
    exact ⟨_, parseRealms_of_error (fun block hm ↦ h block (List.mem_append_left _ hm))
      (parseRealmBlock_closing hcloses _), nofun⟩

/-- The first block that is too deep ends the parse. -/
theorem parseRealms_deep {before after : List Block} {deep : Block} (hbefore : ∀ block ∈ before, block.Readable)
    (h : deep.WellFormed) (hdeep : 2 ^ 31 ≤ deep.body.nesting + 1) :
    parseRealms build ((before ++ deep :: after).flatMap Block.lines) = .error (overflow build) := by
  have hlines : (before ++ deep :: after).flatMap Block.lines = before.flatMap Block.lines ++
      deep.header.line :: (deep.body.lines ++ deep.closing :: after.flatMap Block.lines) := by
    simp [Block.lines]
  rw [hlines]
  exact parseRealms_of_error hbefore (parseRealmBlock_deep h hdeep _)

end Readable

/-- A section of realm blocks is read by its block structure exactly when no block of it is nested
beyond the depths that a signed number of 32 bits holds. -/
theorem readsBlocks_iff (build : Build) (blocks : List Block) (h : ∀ block ∈ blocks, block.WellFormed) :
    ReadsBlocks build blocks ↔ ∀ block ∈ blocks, block.body.nesting + 1 < 2 ^ 31 := by
  constructor
  · intro hreads block hm
    -- the first of the blocks that are too deep, where there is one
    cases hfirst : blocks.find? fun block ↦ decide (2 ^ 31 ≤ block.body.nesting + 1) with
    | none =>
      exact not_le.mp fun hdeep ↦ List.find?_eq_none.mp hfirst block hm (decide_eq_true hdeep)
    | some deep =>
      obtain ⟨hdeep, before, after, hall, hbefore⟩ := List.find?_eq_some_iff_append.mp hfirst
      have hreadable : ∀ block ∈ before, block.Readable := by
        intro block hm
        have hshallow := hbefore block hm
        rw [Bool.not_eq_true', decide_eq_false_iff_not, not_le] at hshallow
        exact ⟨h block (hall ▸ List.mem_append_left _ hm), hshallow⟩
      have herror := @parseRealms_deep build before after deep hreadable
        (h deep (hall ▸ List.mem_append_right _ List.mem_cons_self)) (of_decide_eq_true hdeep)
      rw [← hall, hreads.realms] at herror
      cases herror
  · exact fun hshallow ↦ readsBlocks_of_readable fun block hm ↦ ⟨h block hm, hshallow block hm⟩

end Realms

section Samples

def assigns (key value : String) : Assigned := ⟨1, (key ++ " ").toList, (" " ++ value).toList⟩

def closingLine : Line := ⟨1, ['}']⟩

/-- A block with hosts before and behind a final one, and with a block in it. -/
def sampleBlock : Block where
  header := assigns "A" "\x7b"
  body :=
    .assign (assigns "kdc" "a") <|
    .nested (assigns "sub" "\x7b") (.assign (assigns "kdc" "x") .done) closingLine <|
    .assign (assigns "KDC" "b:750*") <|
    .assign (assigns "kdc" "c") <|
    .assign (assigns "admin_server" "d") .done
  closing := closingLine

theorem readsBlocks_iff_sampleBlock : ReadsBlocks .checked [sampleBlock] ∧
    parseRealms .checked sampleBlock.lines = .ok [⟨"A", ["d"], "", ["a:88", "b:750"], ["d:464"], []⟩] := by
  have hreads : ReadsBlocks .checked [sampleBlock] :=
    (readsBlocks_iff .checked [sampleBlock] (by decide)).mpr (by decide)
  have hrealms := hreads.realms
  rw [List.flatMap_singleton] at hrealms
  exact ⟨hreads, hrealms.trans (by decide)⟩

/-- A block within a block, `n` times. -/
def nest : ℕ → Body
  | 0 => .done
  | n + 1 => .nested (assigns "sub" "\x7b") (nest n) closingLine .done

theorem wellFormed_nest (n : ℕ) : (nest n).WellFormed := by
  induction n with
  | zero => trivial
  | succ n ih => exact ⟨by decide, ih, by decide, trivial⟩

theorem nesting_nest (n : ℕ) : (nest n).nesting = n := by
  induction n with
  | zero => rfl
  | succ n ih => rw [nest, Body.nesting, ih, Body.nesting, Nat.max_zero]

/-- A block with `n` blocks in it, each within the one before it. -/
def nestedBlock (n : ℕ) : Block := ⟨assigns "A" "\x7b", nest n, closingLine⟩

theorem wellFormed_nestedBlock (n : ℕ) : (nestedBlock n).WellFormed where
  noEquals := (by decide : '=' ∉ (assigns "A" "\x7b").key)
  opens := rfl
  body := wellFormed_nest n
  closing := rfl

theorem parseRealms_nestedBlock (build : Build) {n : ℕ} (h : 2 ^ 31 ≤ n + 1) :
    parseRealms build (nestedBlock n).lines = .error (overflow build) := by
  have hdeep := @parseRealms_deep build [] [] (nestedBlock n) (by simp) (wellFormed_nestedBlock n)
    (h.trans_eq (congrArg (· + 1) (nesting_nest n).symm))
  rwa [List.nil_append, List.flatMap_singleton] at hdeep

/-- With one block more within one another than depths are left, one build panics, and the other takes
the block for one that is closed twice. -/
theorem deep_block_not_read : (nestedBlock (2 ^ 31 - 1)).WellFormed ∧
    parseRealms .checked (nestedBlock (2 ^ 31 - 1)).lines = .error .panicked ∧
    parseRealms .wrapping (nestedBlock (2 ^ 31 - 1)).lines =
      .error (.invalidRealmsSection "unpaired closing brace") :=
  ⟨wellFormed_nestedBlock _, parseRealms_nestedBlock .checked le_rfl, parseRealms_nestedBlock .wrapping le_rfl⟩

end Samples

end Rskrb5.Krb5Conf
