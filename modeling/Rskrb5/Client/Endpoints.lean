import Rskrb5.Krb5Conf.Blocks

namespace Rskrb5.Client

open Lib.Results Lib.Texts Spnego Krb5Conf

structure InvalidKdcEndpoint where
  value : String
  deriving DecidableEq

section Endpoints

def parseKdcPort (endpoint port : List Char) : Except InvalidKdcEndpoint UInt16 := do
  let port ← okOr (parseUnsigned 10 16 port) ⟨.ofList endpoint⟩
  return UInt16.ofNat port

/-- What stands behind the bracket of a host is a port, or nothing. -/
def portBehindBracket (value suffix : List Char) (defaultPort : UInt16) : Except InvalidKdcEndpoint UInt16 :=
  match suffix with
  | ':' :: port => parseKdcPort value port
  | [] => .ok defaultPort
  | _ => .error ⟨.ofList value⟩

def parseBracketed (value rest : List Char) (defaultPort : UInt16) :
    Except InvalidKdcEndpoint (List Char × UInt16) := do
  let (host, suffix) ← okOr (splitOnce ']' rest) ⟨.ofList value⟩
  ensure (host ≠ []) ⟨.ofList value⟩
  let port ← portBehindBracket value suffix defaultPort
  return (host, port)

/-- An endpoint without a port. A single colon would stand before one. -/
def parseWithoutPort (value : List Char) (defaultPort : UInt16) :
    Except InvalidKdcEndpoint (List Char × UInt16) := do
  ensure (value.count ':' ≠ 1) ⟨.ofList value⟩
  return (value, defaultPort)

def parsePlain (value : List Char) (defaultPort : UInt16) : Except InvalidKdcEndpoint (List Char × UInt16) :=
  match rsplitOnce ':' value with
  | some (host, port) =>
    if host ≠ [] ∧ port ≠ [] ∧ port.all Char.isDigit ∧ host.getLast? ≠ some ':' then do
      let port ← parseKdcPort value port
      return (host, port)
    else parseWithoutPort value defaultPort
  | none => parseWithoutPort value defaultPort

def parseKdcEndpoint (value : List Char) (defaultPort : UInt16) :
    Except InvalidKdcEndpoint (List Char × UInt16) :=
  match trim value with
  | [] => .error ⟨""⟩
  | '[' :: rest => parseBracketed (trim value) rest defaultPort
  | _ => parsePlain (trim value) defaultPort

end Endpoints

section Hosts

variable {value host suffix : List Char} {defaultPort port : UInt16}

theorem parseKdcEndpoint_of_trimmed (ht : Trimmed isWhitespace value) (hne : value ≠ [])
    (hbracket : value.head? ≠ some '[') : parseKdcEndpoint value defaultPort = parsePlain value defaultPort := by
  unfold parseKdcEndpoint
  rw [trim_eq ht]
  split
  · exact absurd rfl hne
  · exact absurd rfl hbracket
  · rfl

theorem parseKdcEndpoint_bracket {rest : List Char} (ht : Trimmed isWhitespace ('[' :: rest)) :
    parseKdcEndpoint ('[' :: rest) defaultPort = parseBracketed ('[' :: rest) rest defaultPort := by
  unfold parseKdcEndpoint
  rw [trim_eq ht]
  rfl

theorem parseBracketed_eq_ok {rest : List Char} (h : parseBracketed value rest defaultPort = .ok (host, port)) :
    ∃ suffix, rest = host ++ ']' :: suffix ∧ ']' ∉ host ∧ host ≠ [] ∧
      (suffix = [] ∨ ∃ digits, suffix = ':' :: digits) := by
  simp only [parseBracketed, bind_eq_ok, okOr_eq_ok, ensure_eq_ok, pure_eq_ok, Except.ok.injEq] at h
  obtain ⟨⟨host, suffix⟩, hsplit, -, hne, found, hport, heq⟩ := h
  obtain ⟨rfl, rfl⟩ := Prod.mk.inj heq
  refine ⟨suffix, eq_of_splitOnce hsplit, not_mem_of_splitOnce hsplit, hne, ?_⟩
  dsimp only at hport
  unfold portBehindBracket at hport
  split at hport
  · next digits => exact .inr ⟨digits, rfl⟩
  · exact .inl rfl
  · cases hport

theorem parsePlain_eq_ok (h : parsePlain value defaultPort = .ok (host, port)) :
    (value = host ∧ value.count ':' ≠ 1) ∨
      ∃ digits, value = host ++ ':' :: digits ∧ ':' ∉ digits ∧ host ≠ [] := by
  have hwithout : parseWithoutPort value defaultPort = .ok (host, port) → value = host ∧ value.count ':' ≠ 1 := by
    intro h
    simp only [parseWithoutPort, bind_eq_ok, ensure_eq_ok, pure_eq_ok, Except.ok.injEq] at h
    obtain ⟨-, hcount, heq⟩ := h
    exact ⟨(Prod.mk.inj heq).1, hcount⟩
  unfold parsePlain at h
  split at h
  · next host' digits hsplit =>
    split at h
    · next hport =>
      obtain ⟨found, -, heq⟩ := bind_eq_ok.mp h
      obtain ⟨rfl, -⟩ := Prod.mk.inj (Except.ok.inj heq)
      obtain ⟨htext, hdigits⟩ := rsplitOnce_eq_some hsplit
      exact .inr ⟨digits, htext, hdigits, hport.1⟩
    · exact .inl (hwithout h)
  · exact .inl (hwithout h)

end Hosts

section Derived

/-- The part of an endpoint that a server for password changes is derived from. -/
def hostPart (admin : List Char) : List Char := admin.takeWhile (· ≠ ':')

/-- No colon within the brackets, or one colon at most where there are no brackets. -/
def ColonFreeHost : List Char → Prop
  | '[' :: rest => ':' ∉ rest.takeWhile (· ≠ ']')
  | admin => admin.count ':' ≤ 1

variable {admin host : List Char} {defaultPort port : UInt16}

theorem toList_derivedKpasswdServer (admin : String) :
    (derivedKpasswdServer admin).toList = hostPart admin.toList ++ ":464".toList := by
  simp [derivedKpasswdServer, hostPart]

theorem colon_not_mem_hostPart (admin : List Char) : ':' ∉ hostPart admin := by
  intro hm
  have hne := List.mem_takeWhile_imp hm
  exact of_decide_eq_true hne rfl

theorem hostPart_append (h : ':' ∉ host) (rest : List Char) : hostPart (host ++ rest) = host ++ hostPart rest :=
  List.takeWhile_append_of_pos fun _ hc ↦ decide_eq_true fun heq ↦ h (heq ▸ hc)

theorem hostPart_of_not_mem (h : ':' ∉ host) : hostPart host = host := by
  have happend := hostPart_append h []
  rwa [List.append_nil, hostPart, hostPart, List.takeWhile_nil, List.append_nil] at happend

/-- A colon ends the part, so it is not the whole of a host with one. -/
theorem hostPart_eq_iff (hadmin : admin = host ∨ ∃ digits, admin = host ++ ':' :: digits) :
    hostPart admin = host ↔ ':' ∉ host := by
  constructor
  · exact fun h ↦ h ▸ colon_not_mem_hostPart admin
  · intro hcolon
    rcases hadmin with rfl | ⟨digits, rfl⟩
    · exact hostPart_of_not_mem hcolon
    · rw [hostPart_append hcolon]
      simp [hostPart]

theorem parsePort464 (endpoint : List Char) : parseKdcPort endpoint "464".toList = .ok 464 := rfl

theorem trimmed_derived (hhead : ∀ c ∈ host.head?, isWhitespace c = false) :
    Trimmed isWhitespace (host ++ ":464".toList) := by
  refine ⟨fun c hc ↦ ?_, fun c hc ↦ ?_⟩
  · cases host with
    | nil =>
      obtain rfl := Option.some.inj hc
      rfl
    | cons first host => exact hhead c hc
  · rw [List.getLast?_append] at hc
    obtain rfl := Option.some.inj hc
    rfl

/-- A host without brackets and colons, with the port behind it. -/
theorem parse_derived (hhead : ∀ c ∈ host.head?, isWhitespace c = false) (hbracket : host.head? ≠ some '[')
    (hcolon : ':' ∉ host) :
    parseKdcEndpoint (host ++ ":464".toList) defaultPort =
      if host = [] then .error ⟨":464"⟩ else .ok (host, 464) := by
  have htext : host ++ ":464".toList = host ++ ':' :: "464".toList := rfl
  split
  · next hnil =>
    subst hnil
    rfl
  · next hne =>
    have hfirst : (host ++ ":464".toList).head? ≠ some '[' := by
      obtain ⟨first, rest, rfl⟩ := List.exists_cons_of_ne_nil hne
      exact hbracket
    have hlast : host.getLast? ≠ some ':' := fun hlast ↦ hcolon (List.mem_of_getLast? hlast)
    rw [parseKdcEndpoint_of_trimmed (trimmed_derived hhead) (by simp) hfirst, htext, parsePlain,
      rsplitOnce_append (by decide)]
    dsimp only
    rw [if_pos ⟨hne, by decide, by decide, hlast⟩, parsePort464]
    rfl

theorem trimmed_bracketed (rest : List Char) : Trimmed isWhitespace ('[' :: (rest ++ ":464".toList)) := by
  have hopening : ∀ c ∈ ('[' :: rest).head?, isWhitespace c = false := by
    intro c hc
    obtain rfl := Option.some.inj hc
    rfl
  exact trimmed_derived hopening

/-- A bracket that is cut off before its end is refused. -/
theorem parse_unclosed {rest : List Char} (h : ']' ∉ rest) :
    parseKdcEndpoint ('[' :: (rest ++ ":464".toList)) defaultPort =
      .error ⟨.ofList ('[' :: (rest ++ ":464".toList))⟩ := by
  have hopen : ']' ∉ rest ++ ":464".toList := by
    rw [List.mem_append, not_or]
    exact ⟨h, by decide⟩
  rw [parseKdcEndpoint_bracket (trimmed_bracketed rest), parseBracketed, splitOnce_of_not_mem hopen]
  rfl

theorem parse_closed (h : ']' ∉ host) (hne : host ≠ []) :
    parseKdcEndpoint ('[' :: (host ++ [']'] ++ ":464".toList)) defaultPort = .ok (host, 464) := by
  have htext : host ++ [']'] ++ ":464".toList = host ++ ']' :: ":464".toList := by simp
  rw [parseKdcEndpoint_bracket (trimmed_bracketed _), htext, parseBracketed, splitOnce_append h]
  simp only [okOr, ok_bind, ensure_of hne]
  rfl

theorem hostPart_cut {before : List Char} (h : ':' ∉ before) (after : List Char) :
    hostPart ('[' :: (before ++ ':' :: after)) = '[' :: before := by
  have hfront : ':' ∉ '[' :: before := by simpa using h
  have happend := hostPart_append hfront (':' :: after)
  simpa [hostPart] using happend

theorem hostPart_closed {suffix : List Char} (h : ':' ∉ host) (hsuffix : hostPart suffix = []) :
    hostPart ('[' :: (host ++ ']' :: suffix)) = '[' :: (host ++ [']']) := by
  have hfront : ':' ∉ '[' :: (host ++ [']']) := by simpa using h
  have happend := hostPart_append hfront suffix
  rw [hsuffix, List.append_nil] at happend
  simpa using happend

theorem derived_bracketed {rest : List Char} (ht : Trimmed isWhitespace ('[' :: rest))
    (h : parseKdcEndpoint ('[' :: rest) defaultPort = .ok (host, port)) :
    parseKdcEndpoint (hostPart ('[' :: rest) ++ ":464".toList) 464 = .ok (host, 464) ↔
      ColonFreeHost ('[' :: rest) := by
  rw [parseKdcEndpoint_bracket ht] at h
  obtain ⟨suffix, rfl, hbracket, hne, hsuffix⟩ := parseBracketed_eq_ok h
  have htake : (host ++ ']' :: suffix).takeWhile (· ≠ ']') = host := by
    have hfree : ∀ c ∈ host, decide (c ≠ ']') = true :=
      fun c hc ↦ decide_eq_true fun heq ↦ hbracket (heq ▸ hc)
    rw [List.takeWhile_append_of_pos hfree]
    simp
  rw [ColonFreeHost, htake]
  constructor
  · intro hparse hcolon
    obtain ⟨before, after, rfl, hbefore⟩ := List.eq_append_cons_of_mem hcolon
    have hopen : ']' ∉ before := fun hm ↦ hbracket (List.mem_append_left _ hm)
    rw [List.append_assoc, List.cons_append, hostPart_cut hbefore, List.cons_append, parse_unclosed hopen] at hparse
    cases hparse
  · intro hcolon
    have hend : hostPart suffix = [] := by
      rcases hsuffix with rfl | ⟨digits, rfl⟩ <;> simp [hostPart]
    rw [hostPart_closed hcolon hend, List.cons_append]
    exact parse_closed hbracket hne

theorem colonFreeHost_iff (hadmin : admin.head? ≠ some '[')
    (hshape : (admin = host ∧ admin.count ':' ≠ 1) ∨
      ∃ digits, admin = host ++ ':' :: digits ∧ ':' ∉ digits ∧ host ≠ []) :
    ColonFreeHost admin ↔ ':' ∉ host := by
  have hcount : ColonFreeHost admin ↔ admin.count ':' ≤ 1 := by
    unfold ColonFreeHost
    split
    · exact absurd rfl hadmin
    · exact Iff.rfl
  rw [hcount, ← List.count_eq_zero]
  rcases hshape with ⟨rfl, hne⟩ | ⟨digits, rfl, hdigits, -⟩
  · omega
  · rw [List.count_append, List.count_cons_self, List.count_eq_zero.mpr hdigits]
    omega

theorem derived_plain (ht : Trimmed isWhitespace admin) (hne : admin ≠ []) (hbracket : admin.head? ≠ some '[')
    (h : parseKdcEndpoint admin defaultPort = .ok (host, port)) :
    parseKdcEndpoint (hostPart admin ++ ":464".toList) 464 = .ok (host, 464) ↔ ColonFreeHost admin := by
  rw [parseKdcEndpoint_of_trimmed ht hne hbracket] at h
  have hshape := parsePlain_eq_ok h
  have hhost : host ≠ [] := by
    rcases hshape with ⟨rfl, -⟩ | ⟨digits, -, -, hhost⟩
    · exact hne
    · exact hhost
  have hpart : hostPart admin = host ↔ ':' ∉ host := by
    refine hostPart_eq_iff ?_
    rcases hshape with ⟨rfl, -⟩ | ⟨digits, heq, -⟩
    · exact .inl rfl
    · exact .inr ⟨digits, heq⟩
  have hstart : ∀ c ∈ (hostPart admin).head?, c ∈ admin.head? := head?_of_start (List.takeWhile_prefix _)
  rw [parse_derived (fun c hc ↦ ht.head c (hstart c hc)) (fun hc ↦ hbracket (hstart _ hc))
    (colon_not_mem_hostPart admin), colonFreeHost_iff hbracket hshape, ← hpart]
  constructor
  · intro hparse
    split at hparse
    · cases hparse
    · exact (Prod.mk.inj (Except.ok.inj hparse)).1
  · intro heq
    rw [heq, if_neg hhost]

/-- What a server is derived from points at the same host exactly when its host has no colon. -/
theorem parse_derived_iff (ht : Trimmed isWhitespace admin)
    (h : parseKdcEndpoint admin defaultPort = .ok (host, port)) :
    parseKdcEndpoint (hostPart admin ++ ":464".toList) 464 = .ok (host, 464) ↔ ColonFreeHost admin := by
  cases admin with
  | nil => cases h
  | cons first rest =>
    by_cases hbracket : first = '['
    · subst hbracket
      exact derived_bracketed ht h
    · exact derived_plain ht (List.cons_ne_nil _ _) (by simpa using hbracket) h

end Derived

section Realms

/-- A realm for which no server for password changes has been read. -/
structure Underived (hosts : RealmHosts) : Prop where
  admin : ∀ host ∈ hosts.adminServer.values, Trimmed isWhitespace host.toList
  kpasswd : hosts.kpasswdServer.values = []

theorem Underived.add {hosts : RealmHosts} (h : Underived hosts) {name : String} (hname : name ≠ "kpasswd_server")
    (value : List Char) : Underived (hosts.add name value) := by
  by_cases hadmin : name = "admin_server"
  · subst hadmin
    exact ⟨trimmed_appendUntilFinal h.admin value, h.kpasswd⟩
  · have hsame : (hosts.add name value).adminServer = hosts.adminServer ∧
        (hosts.add name value).kpasswdServer = hosts.kpasswdServer := by
      unfold RealmHosts.add
      split
      all_goals first | exact ⟨rfl, rfl⟩ | contradiction
    exact ⟨hsame.1 ▸ h.admin, hsame.2 ▸ h.kpasswd⟩

theorem Underived.foldlM {lines : List Line}
    (hnone : ∀ line ∈ lines, ∀ value, parseDirective line "realms" ≠ .ok ("kpasswd_server", value))
    {hosts hosts' : RealmHosts} (hstart : Underived hosts)
    (h : lines.foldlM RealmHosts.parseLine hosts = .ok hosts') : Underived hosts' := by
  induction lines generalizing hosts with
  | nil =>
    obtain rfl := Except.ok.inj h
    exact hstart
  | cons line lines ih =>
    rw [List.foldlM_cons] at h
    obtain ⟨next, hnext, h⟩ := bind_eq_ok.mp h
    obtain ⟨name, value, hdirective, rfl⟩ := parseLine_eq_ok hnext
    have hname : name ≠ "kpasswd_server" := by
      intro heq
      subst heq
      exact hnone line List.mem_cons_self value hdirective
    exact ih (fun line hm ↦ hnone line (List.mem_cons_of_mem _ hm)) (hstart.add hname value) h

theorem derived_of_parse {name : List Char} {lines : List Line} {realm : Krb5Conf.Realm}
    (h : Krb5Conf.Realm.parse name lines = .ok realm)
    (hnone : ∀ line ∈ lines, ∀ value, parseDirective line "realms" ≠ .ok ("kpasswd_server", value)) :
    (∀ host ∈ realm.adminServer, Trimmed isWhitespace host.toList) ∧
      realm.kpasswdServer = realm.adminServer.map derivedKpasswdServer := by
  obtain ⟨hosts, hfold, hrealm⟩ := bind_eq_ok.mp h
  have hstart : Underived ⟨⟨[], false⟩, "", ⟨[], false⟩, ⟨[], false⟩, ⟨[], false⟩⟩ := ⟨by simp, rfl⟩
  have hunderived := Underived.foldlM hnone hstart hfold
  obtain rfl := Except.ok.inj hrealm
  exact ⟨hunderived.admin, if_pos hunderived.kpasswd⟩

/-- The server for password changes that a realm derives from one of its others is on the same host
exactly when that host is written without a colon. -/
theorem derived_kpasswd_iff (name : List Char) (lines : List Line) (realm : Krb5Conf.Realm)
    (h : Krb5Conf.Realm.parse name lines = .ok realm)
    (hnone : ∀ line ∈ lines, ∀ value, parseDirective line "realms" ≠ .ok ("kpasswd_server", value))
    (i : ℕ) (admin : String) (hadmin : realm.adminServer[i]? = some admin)
    (defaultPort port : UInt16) (host : List Char)
    (hparse : parseKdcEndpoint admin.toList defaultPort = .ok (host, port)) :
    (∃ entry, realm.kpasswdServer[i]? = some entry ∧ parseKdcEndpoint entry.toList 464 = .ok (host, 464)) ↔
      ColonFreeHost admin.toList := by
  obtain ⟨htrimmed, hderived⟩ := derived_of_parse h hnone
  have ht := htrimmed admin (List.mem_of_getElem? hadmin)
  rw [← parse_derived_iff ht hparse, ← toList_derivedKpasswdServer, hderived, List.getElem?_map, hadmin]
  simp

end Realms

section Samples

def adminLine (admin : String) : Line := ⟨1, ("admin_server = " ++ admin).toList⟩

def adminRealm (admin derived : String) : Krb5Conf.Realm := ⟨"A", [admin], "", [], [derived], []⟩

theorem derived_kpasswd_named : ∃ entry, (adminRealm "kdc:749" "kdc:464").kpasswdServer[0]? = some entry ∧
    parseKdcEndpoint entry.toList 464 = .ok ("kdc".toList, 464) := by
  refine (derived_kpasswd_iff ['A'] [adminLine "kdc:749"] _ (by decide) ?_ 0 "kdc:749" rfl 749 749
    "kdc".toList (by decide +kernel)).mpr (by simp [ColonFreeHost])
  intro line hm value h
  obtain rfl := List.mem_singleton.mp hm
  have hadmin : parseDirective (adminLine "kdc:749") "realms" = .ok ("admin_server", "kdc:749".toList) := by
    decide
  rw [hadmin] at h
  simp at h

/-- Of an address between brackets, all behind its first colon is lost. -/
theorem derived_kpasswd_bracketed :
    Krb5Conf.Realm.parse ['A'] [adminLine "[::1]:749"] = .ok (adminRealm "[::1]:749" "[:464") ∧
    parseKdcEndpoint "[::1]:749".toList 749 = .ok ("::1".toList, 749) ∧
    parseKdcEndpoint "[:464".toList 464 = .error ⟨"[:464"⟩ := by
  decide

end Samples

end Rskrb5.Client
