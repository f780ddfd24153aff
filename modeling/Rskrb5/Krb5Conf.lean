import Mathlib.Data.List.Infix
import Rskrb5.Lib.Arithmetic
import Rskrb5.Lib.Texts
import Rskrb5.Spnego

namespace Rskrb5.Krb5Conf

open Lib.Arithmetic Lib.Results Lib.Texts Spnego

/-- `panicked` stands for a sum of braces that leaves its word in a build that checks. -/
inductive Error
  | emptyConfigPathList
  | invalidLine (sectionName : String) (line : ℕ) (text : String)
  | unsupportedDirective (message : String)
  | invalidBoolean (value : String)
  | invalidDuration (value : String)
  | durationOverflow (value : String)
  | invalidInteger (line : ℕ) (key value : String)
  | invalidRealmsSection (message : String)
  | panicked
  deriving DecidableEq

/-- A line without its comment, and its number in the text. -/
structure Line where
  number : ℕ
  text : List Char
  deriving DecidableEq

section Values

def parseWords (value : List Char) : List String :=
  ((value.splitOnP isWhitespace).filter (· ≠ [])).map String.ofList

def parseBoolean (value : List Char) : Except Error Bool :=
  match String.ofList (toAsciiLowercase (trim value)) with
  | "1" | "t" | "true" | "y" | "yes" => .ok true
  | "0" | "f" | "false" | "n" | "no" => .ok false
  | _ => .error (.invalidBoolean (.ofList value))

def invalidInteger (value : List Char) (line : Line) (key : String) : Error :=
  .invalidInteger line.number key (.ofList value)

def parseI32 (value : List Char) (line : Line) (key : String) : Except Error Int32 := do
  let value ← okOr (parseSigned 32 value) (invalidInteger value line key)
  return Int32.ofInt value

def parseI32List (value : List Char) (line : Line) (key : String) : Except Error (List Int32) :=
  ((value.splitOnP fun c ↦ c = ',' ∨ c = ' ' ∨ c = '\t').filter fun part ↦ trim part ≠ []).mapM
    fun part ↦ parseI32 (trim part) line key

/-- `trim_start_matches("0x")`. -/
def trimStart0x : List Char → List Char
  | '0' :: 'x' :: rest => trimStart0x rest
  | text => text

def parseHexU32 (value : List Char) (line : Line) (key : String) : Except Error UInt32 := do
  let value := trimStart0x (trim value)
  let value ← okOr (parseUnsigned 16 32 value) (invalidInteger value line key)
  return UInt32.ofNat value

end Values

section Durations

def checkedMul (a b : ℕ) : Option ℕ := if a * b < 2 ^ 64 then some (a * b) else none

def checkedAdd (a b : ℕ) : Option ℕ := if a + b < 2 ^ 64 then some (a + b) else none

def isAlphabetic (c : Char) : Bool := c.isUpper || c.isLower

variable (original : List Char)

def parseU64 (value : List Char) : Except Error ℕ :=
  okOr (parseUnsigned 10 64 value) (.invalidDuration (.ofList original))

def unitSeconds (number : ℕ) (unit : List Char) : Except Error ℕ :=
  match unit with
  | ['h'] => okOr (checkedMul number (60 * 60)) (.durationOverflow (.ofList original))
  | ['m'] => okOr (checkedMul number 60) (.durationOverflow (.ofList original))
  | ['s'] => .ok number
  | _ => .error (.invalidDuration (.ofList original))

/-- Durations are whole seconds here. Every turn takes a digit, so the length bounds their number. -/
def parseUnits : ℕ → ℕ → List Char → Except Error ℕ
  | 0, duration, _ => .ok duration
  | _, duration, [] => .ok duration
  | fuel + 1, duration, text => do
    let digits := text.takeWhile Char.isDigit
    let rest := text.dropWhile Char.isDigit
    ensure (digits ≠ []) (.invalidDuration (.ofList original))
    let number ← parseU64 original digits
    let seconds ← unitSeconds original number (rest.takeWhile isAlphabetic)
    let duration ← okOr (checkedAdd duration seconds) (.durationOverflow (.ofList original))
    parseUnits fuel duration (rest.dropWhile isAlphabetic)

def parseUnitDuration (input : List Char) : Except Error ℕ := do
  ensure (input ≠ []) (.invalidDuration (.ofList original))
  parseUnits original input.length 0 input

def parseColonDuration (input : List Char) : Except Error ℕ :=
  match input.splitOnP (· = ':') with
  | [hours, minutes] => do
    let hours ← parseU64 original hours
    let minutes ← parseU64 original minutes
    colonSeconds hours minutes 0
  | [hours, minutes, seconds] => do
    let hours ← parseU64 original hours
    let minutes ← parseU64 original minutes
    let seconds ← parseU64 original seconds
    colonSeconds hours minutes seconds
  | _ => .error (.invalidDuration (.ofList original))
where
  colonSeconds (hours minutes seconds : ℕ) : Except Error ℕ :=
    let total := do
      let hours ← checkedMul hours (60 * 60)
      let minutes ← checkedMul minutes 60
      let total ← checkedAdd hours minutes
      checkedAdd total seconds
    okOr total (.durationOverflow (.ofList original))

def parseDayDuration (days rest : List Char) : Except Error ℕ := do
  let days ← parseU64 original days
  let daySeconds ← okOr (checkedMul days (24 * 60 * 60)) (.durationOverflow (.ofList original))
  if rest = [] then return daySeconds
  else
    let units ← parseUnitDuration original rest
    okOr (checkedAdd daySeconds units) (.durationOverflow (.ofList original))

/-- The duration in seconds. -/
def parseDuration : Except Error ℕ :=
  let normalized := original.filter (!isWhitespace ·)
  if normalized = [] then .error (.invalidDuration (.ofList original))
  else
    match splitOnce 'd' normalized with
    | some (days, rest) => parseDayDuration original days rest
    | none =>
      match parseUnitDuration original normalized with
      | .ok duration => .ok duration
      | .error _ =>
        match parseUnsigned 10 64 normalized with
        | some (seconds + 1) => .ok (seconds + 1)
        | _ =>
          if ':' ∈ normalized then parseColonDuration original normalized
          else .error (.invalidDuration (.ofList original))

end Durations

section Enctypes

def isWeakEnctype (value : String) : Bool :=
  value.toLower ∈ ["des-cbc-crc", "des-cbc-md4", "des-cbc-md5", "des-cbc-raw", "des3-cbc-raw",
    "des-hmac-sha1", "arcfour-hmac-exp", "rc4-hmac-exp", "arcfour-hmac-md5-exp", "des"]

def supportedEnctypeId (value : String) : Option Int32 :=
  match value.toLower with
  | "aes128-cts-hmac-sha1-96" | "aes128-cts" | "aes128-sha1" => some 17
  | "aes256-cts-hmac-sha1-96" | "aes256-cts" | "aes256-sha1" => some 18
  | "aes128-cts-hmac-sha256-128" | "aes128-sha2" => some 19
  | "aes256-cts-hmac-sha384-192" | "aes256-sha2" => some 20
  | "des3-cbc-sha1-kd" => some 16
  | "arcfour-hmac" | "rc4-hmac" | "arcfour-hmac-md5" => some 23
  | _ => none

def parseSupportedEnctypeIds (enctypes : List String) (allowWeakCrypto : Bool) : List Int32 :=
  (enctypes.filter fun name ↦ allowWeakCrypto || !isWeakEnctype name).filterMap supportedEnctypeId

def defaultEnctypes : List String :=
  ["aes256-cts-hmac-sha1-96", "aes128-cts-hmac-sha1-96", "des3-cbc-sha1", "arcfour-hmac-md5",
    "camellia256-cts-cmac", "camellia128-cts-cmac", "des-cbc-crc", "des-cbc-md5", "des-cbc-md4"]

def defaultPreauthTypes : List Int32 := [17, 16, 15, 14]

end Enctypes

/-- The variables that the defaults depend on. -/
structure Environment where
  uid : Option String
  home : Option String

/-- Durations are in seconds. -/
structure LibDefaults where
  allowWeakCrypto : Bool
  canonicalize : Bool
  ccacheType : Int32
  clockskew : ℕ
  defaultCcacheName : String
  defaultClientKeytabName : String
  defaultKeytabName : String
  defaultRealm : String
  defaultTgsEnctypes : List String
  defaultTktEnctypes : List String
  defaultTgsEnctypeIds : List Int32
  defaultTktEnctypeIds : List Int32
  dnsCanonicalizeHostname : Bool
  dnsLookupKdc : Bool
  dnsLookupRealm : Bool
  forwardable : Bool
  ignoreAcceptorHostname : Bool
  k5loginAuthoritative : Bool
  k5loginDirectory : String
  kdcDefaultOptions : UInt32
  kdcTimeSync : Int32
  noAddresses : Bool
  permittedEnctypes : List String
  permittedEnctypeIds : List Int32
  preferredPreauthTypes : List Int32
  proxiable : Bool
  rdns : Bool
  realmTryDomains : Int32
  renewLifetime : ℕ
  safeChecksumType : Int32
  ticketLifetime : ℕ
  udpPreferenceLimit : Int32
  verifyApReqNofail : Bool
  deriving DecidableEq

/-- One entry of a section of realms. -/
structure Realm where
  realm : String
  adminServer : List String
  defaultDomain : String
  kdc : List String
  kpasswdServer : List String
  masterKdc : List String
  deriving DecidableEq

structure Config where
  libdefaults : LibDefaults
  realms : List Realm
  domainRealm : Std.ExtTreeMap String String

/-- The trimmed key and value of a line. -/
def parseAssignment (line : Line) (sectionName : String) : Except Error (List Char × List Char) := do
  let (key, value) ← okOr (splitOnce '=' line.text) (.invalidLine sectionName line.number (.ofList line.text))
  return (trim key, trim value)

/-- The key of a line in lower case, which may not be of version 4. -/
def parseDirective (line : Line) (sectionName : String) : Except Error (String × List Char) := do
  let (key, value) ← parseAssignment line sectionName
  let key := toAsciiLowercase key
  ensure (¬ "v4_".toList <:+: key) (.unsupportedDirective "v4 configurations are not supported")
  return (.ofList key, value)

section Defaults

namespace LibDefaults

def refreshEnctypeIds (defaults : LibDefaults) : LibDefaults :=
  { defaults with
    defaultTgsEnctypeIds := parseSupportedEnctypeIds defaults.defaultTgsEnctypes defaults.allowWeakCrypto
    defaultTktEnctypeIds := parseSupportedEnctypeIds defaults.defaultTktEnctypes defaults.allowWeakCrypto
    permittedEnctypeIds := parseSupportedEnctypeIds defaults.permittedEnctypes defaults.allowWeakCrypto }

def new (env : Environment) : LibDefaults :=
  refreshEnctypeIds {
    allowWeakCrypto := false
    canonicalize := false
    ccacheType := 4
    clockskew := 300
    defaultCcacheName := ""
    defaultClientKeytabName := "/usr/local/var/krb5/user/" ++ env.uid.getD "0" ++ "/client.keytab"
    defaultKeytabName := "/etc/krb5.keytab"
    defaultRealm := ""
    defaultTgsEnctypes := defaultEnctypes
    defaultTktEnctypes := defaultEnctypes
    defaultTgsEnctypeIds := []
    defaultTktEnctypeIds := []
    dnsCanonicalizeHostname := true
    dnsLookupKdc := false
    dnsLookupRealm := false
    forwardable := false
    ignoreAcceptorHostname := false
    k5loginAuthoritative := false
    k5loginDirectory := env.home.getD ""
    kdcDefaultOptions := 0x00000010
    kdcTimeSync := 1
    noAddresses := true
    permittedEnctypes := defaultEnctypes
    permittedEnctypeIds := []
    preferredPreauthTypes := defaultPreauthTypes
    proxiable := false
    rdns := true
    realmTryDomains := -1
    renewLifetime := 0
    safeChecksumType := 8
    ticketLifetime := 24 * 60 * 60
    udpPreferenceLimit := 1465
    verifyApReqNofail := false }

def parseLine (defaults : LibDefaults) (line : Line) : Except Error LibDefaults := do
  let (key, value) ← parseDirective line "libdefaults"
  match key with
  | "allow_weak_crypto" => return { defaults with allowWeakCrypto := ← parseBoolean value }
  | "canonicalize" => return { defaults with canonicalize := ← parseBoolean value }
  | "ccache_type" => return { defaults with ccacheType := ← parseI32 value line key }
  | "clockskew" => return { defaults with clockskew := ← parseDuration value }
  | "default_ccache_name" => return { defaults with defaultCcacheName := .ofList value }
  | "default_client_keytab_name" => return { defaults with defaultClientKeytabName := .ofList value }
  | "default_keytab_name" => return { defaults with defaultKeytabName := .ofList value }
  | "default_realm" => return { defaults with defaultRealm := .ofList value }
  | "default_tgs_enctypes" => return { defaults with defaultTgsEnctypes := parseWords value }
  | "default_tkt_enctypes" => return { defaults with defaultTktEnctypes := parseWords value }
  | "dns_canonicalize_hostname" => return { defaults with dnsCanonicalizeHostname := ← parseBoolean value }
  | "dns_lookup_kdc" => return { defaults with dnsLookupKdc := ← parseBoolean value }
  | "dns_lookup_realm" => return { defaults with dnsLookupRealm := ← parseBoolean value }
  | "forwardable" => return { defaults with forwardable := ← parseBoolean value }
  | "ignore_acceptor_hostname" => return { defaults with ignoreAcceptorHostname := ← parseBoolean value }
  | "k5login_authoritative" => return { defaults with k5loginAuthoritative := ← parseBoolean value }
  | "k5login_directory" => return { defaults with k5loginDirectory := .ofList value }
  | "kdc_default_options" => return { defaults with kdcDefaultOptions := ← parseHexU32 value line key }
  | "kdc_timesync" => return { defaults with kdcTimeSync := ← parseI32 value line key }
  | "noaddresses" | "no_addresses" => return { defaults with noAddresses := ← parseBoolean value }
  | "permitted_enctypes" => return { defaults with permittedEnctypes := parseWords value }
  | "preferred_preauth_types" =>
    return { defaults with preferredPreauthTypes := ← parseI32List value line key }
  | "proxiable" => return { defaults with proxiable := ← parseBoolean value }
  | "rdns" => return { defaults with rdns := ← parseBoolean value }
  | "realm_try_domains" => return { defaults with realmTryDomains := ← parseI32 value line key }
  | "renew_lifetime" => return { defaults with renewLifetime := ← parseDuration value }
  | "safe_checksum_type" => return { defaults with safeChecksumType := ← parseI32 value line key }
  | "ticket_lifetime" => return { defaults with ticketLifetime := ← parseDuration value }
  | "udp_preference_limit" => return { defaults with udpPreferenceLimit := ← parseI32 value line key }
  | "verify_ap_req_nofail" => return { defaults with verifyApReqNofail := ← parseBoolean value }
  | _ => return defaults

def parseLines (defaults : LibDefaults) (lines : List Line) : Except Error LibDefaults := do
  let defaults ← lines.foldlM parseLine defaults
  return defaults.refreshEnctypeIds

end LibDefaults

end Defaults

section Realms

def addDefaultPort (value : List Char) (port : ℕ) : List Char :=
  let trimmed := trim value
  let finalMarker := if trimmed.getLast? = some '*' then ['*'] else []
  let host := trim (trimEndMatches (· = '*') trimmed)
  if ':' ∈ host then host ++ finalMarker
  else host ++ ':' :: (toString port).toList ++ finalMarker

/-- A list of hosts, and whether its final one has been seen. -/
structure Hosts where
  values : List String
  finalSeen : Bool

def Hosts.appendUntilFinal (hosts : Hosts) (value : List Char) : Hosts :=
  if hosts.finalSeen then hosts
  else
    match stripSuffix '*' (trim value) with
    | some stripped => ⟨hosts.values ++ [.ofList (trimEndMatches isWhitespace stripped)], true⟩
    | none => ⟨hosts.values ++ [.ofList (trim value)], false⟩

/-- A realm while its lines are read. -/
structure RealmHosts where
  adminServer : Hosts
  defaultDomain : String
  kdc : Hosts
  kpasswdServer : Hosts
  masterKdc : Hosts

def RealmHosts.parseLine (hosts : RealmHosts) (line : Line) : Except Error RealmHosts := do
  let (key, value) ← parseDirective line "realms"
  match key with
  | "admin_server" => return { hosts with adminServer := hosts.adminServer.appendUntilFinal value }
  | "default_domain" => return { hosts with defaultDomain := .ofList value }
  | "kdc" => return { hosts with kdc := hosts.kdc.appendUntilFinal (addDefaultPort value 88) }
  | "kpasswd_server" => return { hosts with kpasswdServer := hosts.kpasswdServer.appendUntilFinal value }
  | "master_kdc" => return { hosts with masterKdc := hosts.masterKdc.appendUntilFinal value }
  | _ => return hosts

def derivedKpasswdServer (admin : String) : String :=
  .ofList (admin.toList.takeWhile (· ≠ ':')) ++ ":464"

def Realm.parse (name : List Char) (lines : List Line) : Except Error Realm := do
  let hosts ← lines.foldlM RealmHosts.parseLine
    ⟨⟨[], false⟩, "", ⟨[], false⟩, ⟨[], false⟩, ⟨[], false⟩⟩
  let adminServer := hosts.adminServer.values
  let kpasswdServer := hosts.kpasswdServer.values
  return {
    realm := .ofList name
    adminServer
    defaultDomain := hosts.defaultDomain
    kdc := hosts.kdc.values
    kpasswdServer := if kpasswdServer = [] then adminServer.map derivedKpasswdServer else kpasswdServer
    masterKdc := hosts.masterKdc.values }

def braceDelta (build : Build) (value : List Char) : Except Error ℤ :=
  okOr (build.i32 (asI32 (value.count '{') - asI32 (value.count '}'))) .panicked

/-- The depth at the end of a block, the block's own lines, and the lines behind it. -/
def takeBlock (build : Build) (depth : ℤ) (block : List Line) :
    List Line → Except Error (ℤ × List Line × List Line)
  | [] => .ok (depth, block, [])
  | line :: rest =>
    if depth ≤ 0 then .ok (depth, block, line :: rest)
    else do
      let block :=
        if depth = 1 ∧ (trim line.text).head? ≠ some '}' then block ++ [line] else block
      let delta ← braceDelta build line.text
      let depth ← okOr (build.i32 (depth + delta)) .panicked
      ensure (0 ≤ depth) (.invalidRealmsSection "unpaired closing brace")
      takeBlock build depth block rest

def parseRealmBlock (build : Build) (line : Line) (rest : List Line) : Except Error (Realm × List Line) := do
  let (name, value) ← parseAssignment line "realms"
  ensure ('{' ∈ value)
    (.invalidRealmsSection ("realm block for " ++ .ofList name ++ " does not start with '\x7b'"))
  let depth ← braceDelta build value
  ensure (0 ≤ depth) (.invalidRealmsSection "unpaired closing brace")
  let (depth, block, rest) ← takeBlock build depth [] rest
  ensure (depth = 0) (.invalidRealmsSection ("realm block for " ++ .ofList name ++ " is not closed"))
  let realm ← Realm.parse name block
  return (realm, rest)

/-- Every block takes a line, so the number of lines bounds the number of blocks. -/
def parseRealmBlocks (build : Build) : ℕ → List Line → Except Error (List Realm)
  | 0, _ => .ok []
  | _, [] => .ok []
  | fuel + 1, line :: rest => do
    let (realm, rest) ← parseRealmBlock build line rest
    let realms ← parseRealmBlocks build fuel rest
    return realm :: realms

def parseRealms (build : Build) (lines : List Line) : Except Error (List Realm) :=
  parseRealmBlocks build lines.length lines

end Realms

section Sections

def parseDomainRealm (domainRealm : Std.ExtTreeMap String String) (lines : List Line) :
    Except Error (Std.ExtTreeMap String String) :=
  lines.foldlM (fun domainRealm line ↦ do
    let (domain, realm) ← parseAssignment line "domain_realm"
    return domainRealm.insert (.ofList (toAsciiLowercase domain)) (.ofList realm)) domainRealm

inductive SectionKind
  | libDefaults
  | realms
  | domainRealm
  | unknown
  deriving DecidableEq

def SectionKind.parse : List Char → Option SectionKind
  | '[' :: rest =>
    if ']' ∈ rest then
      match String.ofList (toAsciiLowercase (trim (rest.takeWhile (· ≠ ']')))) with
      | "libdefaults" => some .libDefaults
      | "realms" => some .realms
      | "domain_realm" => some .domainRealm
      | _ => some .unknown
    else none
  | _ => none

def applySection (build : Build) (config : Config) (kind : SectionKind) (lines : List Line) : Except Error Config :=
  match kind with
  | .libDefaults => do
    let libdefaults ← config.libdefaults.parseLines lines
    return { config with libdefaults }
  | .realms => do
    let realms ← parseRealms build lines
    return { config with realms }
  | .domainRealm => do
    let domainRealm ← parseDomainRealm config.domainRealm lines
    return { config with domainRealm }
  | .unknown => .ok config

def stripComments (line : List Char) : List Char := line.takeWhile fun c ↦ c ≠ '#' ∧ c ≠ ';'

/-- The configuration so far, and the section that is being read. -/
structure ParseState where
  config : Config
  current : SectionKind
  lines : List Line

def parseRawLine (build : Build) (state : ParseState) (raw : List Char × ℕ) : Except Error ParseState :=
  let cleaned := trim (stripComments raw.1)
  if cleaned = [] then .ok state
  else
    match SectionKind.parse cleaned with
    | some kind => do
      let config ← applySection build state.config state.current state.lines
      return { config, current := kind, lines := [] }
    | none =>
      if state.current ≠ .unknown then
        .ok { state with lines := state.lines ++ [⟨raw.2 + 1, cleaned⟩] }
      else .ok state

namespace Config

def new (env : Environment) : Config := ⟨.new env, [], ∅⟩

def parse (build : Build) (env : Environment) (input : List Char) : Except Error Config := do
  let state ← (lines input).zipIdx.foldlM (parseRawLine build) ⟨.new env, .unknown, []⟩
  applySection build state.config state.current state.lines

/-- The contents of files as one text. -/
def joinFiles (contents : List (List Char)) : List Char :=
  ['
'].intercalate (contents.map (· ++ ['
']))

/-- The contents are those of the files that the non-empty paths of a list name. -/
def loadPaths (build : Build) (env : Environment) (contents : List (List Char)) : Except Error Config := do
  ensure (contents ≠ []) .emptyConfigPathList
  parse build env (joinFiles contents)

end Config

end Sections

end Rskrb5.Krb5Conf
