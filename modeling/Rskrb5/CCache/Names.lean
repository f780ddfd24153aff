import Rskrb5.CCache
import Rskrb5.Lib.Once
import Rskrb5.Lib.Programs
import Rskrb5.Lib.Texts

namespace Rskrb5.CCache.Names

open Lib.Results Lib.Programs Lib.Texts FileFormat

section Paths

/-- The parts of a path, on Unix. -/
inductive Component
  | rootDir
  | curDir
  | parentDir
  | normal (name : List Char)
  deriving DecidableEq

def component (piece : List Char) : Option Component :=
  if piece = [] ∨ piece = ['.'] then none
  else if piece = ['.', '.'] then some .parentDir
  else some (.normal piece)

/-- What comes before the first separator of a path. Only there does a dot count. -/
def leading (piece : List Char) (rooted : Bool) : Option Component :=
  if piece = [] then if rooted then some .rootDir else none
  else if piece = ['.'] then some .curDir
  else component piece

def components (path : List Char) : List Component :=
  match path.splitOn '/' with
  | [] => []
  | piece :: pieces => (leading piece (pieces ≠ [])).toList ++ pieces.filterMap component

def join (directory name : List Char) : List Char :=
  if name.head? = some '/' then name
  else if directory = [] ∨ directory.getLast? = some '/' then directory ++ name
  else directory ++ '/' :: name

def fileName (path : List Char) : Option (List Char) :=
  match (components path).getLast? with
  | some (.normal name) => some name
  | _ => none

/-- The path has a parent that is not the empty path. -/
def hasParent (path : List Char) : Bool :=
  match (components path).getLast? with
  | none | some .rootDir => false
  | some _ => (components path).dropLast ≠ []

/-- The parts of a path that has a separator behind it. -/
def below (path : List Char) : List Component :=
  match path.splitOn '/' with
  | [] => []
  | piece :: pieces => (leading piece true).toList ++ pieces.filterMap component

theorem components_slash {name : List Char} (h : '/' ∉ name) (path : List Char) :
    components (path ++ '/' :: name) = below path ++ (component name).toList := by
  obtain ⟨piece, pieces, hpieces⟩ := List.exists_cons_of_ne_nil (List.splitOn_ne_nil '/' path)
  rw [components, below, List.splitOn_append_cons_self, List.splitOn_eq_singleton h, hpieces]
  cases hname : component name with
  | none => simp [hname]
  | some part => simp [hname]

theorem below_eq_components {path : List Char} (h : path ≠ []) : below path = components path := by
  obtain ⟨c, rest, rfl⟩ := List.exists_cons_of_ne_nil h
  obtain ⟨piece, pieces, hrest⟩ := List.exists_cons_of_ne_nil (List.splitOn_ne_nil '/' rest)
  rw [below, components, List.splitOn_cons_eq_if_modifyHead, hrest]
  by_cases hslash : (c == '/') = true
  · simp [hslash]
  · simp [hslash, leading]

/-- A name without separators is that of an entry of the directory that it is joined to. -/
theorem components_join {name : List Char} (h : '/' ∉ name) (hname : component name = some (.normal name))
    (directory : List Char) : components (join directory name) = components directory ++ [.normal name] := by
  have hhead : name.head? ≠ some '/' := fun hslash ↦ h (List.mem_of_mem_head? hslash)
  have hdots : name ≠ [] ∧ name ≠ ['.'] := by
    constructor <;> rintro rfl <;> simp [component] at hname
  rw [join, if_neg hhead]
  split
  · next hdirectory =>
    rcases hdirectory with rfl | hslash
    · simp [components, List.splitOn_eq_singleton h, leading, hdots.1, hdots.2, hname]
    · obtain ⟨q, rfl⟩ : ∃ q, directory = q ++ ['/'] := ⟨_, (List.dropLast_append_getLast? _ hslash).symm⟩
      rw [List.append_assoc, List.singleton_append, components_slash h, hname, components_slash (by simp)]
      simp [component]
  · next hdirectory =>
    rw [components_slash h, hname, below_eq_components (fun hnil ↦ hdirectory (.inl hnil))]
    rfl

end Paths

section Names

/-- `str::replace`: the occurrences from the left, that do not overlap. -/
def replace (pattern new : List Char) (text : List Char) : List Char := go 0 text
where
  go : ℕ → List Char → List Char
  | _, [] => []
  | skipped + 1, _ :: rest => go skipped rest
  | 0, c :: rest =>
    if pattern.isPrefixOf (c :: rest) then new ++ go (pattern.length - 1) rest else c :: go 0 rest

/-- `str::contains`. -/
def contains (pattern : List Char) : List Char → Bool
  | [] => pattern.isEmpty
  | c :: rest => pattern.isPrefixOf (c :: rest) || contains pattern rest

/-- The value of `UID` for the user, in paths. -/
def expandPathTokens (uid : Option (List Char)) (value : List Char) : List Char :=
  if contains "%\x7b".toList value then
    let uid := uid.getD "0".toList
    replace "%\x7beuid\x7d".toList uid (replace "%\x7buid\x7d".toList uid value)
  else value

inductive NameError
  | empty
  | unsupportedType (nameType : List Char)
  deriving DecidableEq

def isWindowsDrivePath (drive path : List Char) : Bool :=
  match drive with
  | [c] => c.isAlpha && (path.head? = some '\\' || path.head? = some '/')
  | _ => false

def filePathFromName (uid : Option (List Char)) (name : List Char) (allowedTypes : List (List Char)) :
    Except NameError (List Char) := do
  ensure (name ≠ []) .empty
  match splitOnce ':' name with
  | none => return expandPathTokens uid name
  | some (nameType, path) =>
    if isWindowsDrivePath nameType path then return expandPathTokens uid name
    else if allowedTypes.any (fun allowed ↦ toAsciiLowercase nameType = toAsciiLowercase allowed) then do
      ensure (path ≠ []) .empty
      return expandPathTokens uid path
    else throw (.unsupportedType nameType)

inductive IoError
  | notFound
  | other (message : String)
  deriving DecidableEq

inductive StoreError
  | invalidCacheName
  | unsupportedCacheType (cacheType : List Char)
  | io (source : IoError)
  | file (source : FileError)
  deriving DecidableEq

def dirPrimaryFile : List Char := "primary".toList
def dirDefaultPrimaryCache : List Char := "tkt".toList

def dirSubsidiaryPath (name : List Char) : Option (List Char) :=
  match splitOnce ':' name with
  | some (cacheType, ':' :: path) =>
    if toAsciiLowercase cacheType = toAsciiLowercase "DIR".toList then some path else none
  | _ => none

def dirCollectionPath (name : List Char) : Option (List Char) :=
  match splitOnce ':' name with
  | some (cacheType, residual) =>
    if toAsciiLowercase cacheType = toAsciiLowercase "DIR".toList ∧ residual.head? ≠ some ':' then some residual
    else none
  | none => none

def validateDirSubsidiaryPath (uid : Option (List Char)) (path : List Char) : Except StoreError (List Char) := do
  ensure (path ≠ []) .invalidCacheName
  let path := expandPathTokens uid path
  let filename ← okOr (fileName path) .invalidCacheName
  ensure (hasParent path ∧ dirDefaultPrimaryCache <+: filename) .invalidCacheName
  return path

def nameError : NameError → StoreError
  | .empty => .invalidCacheName
  | .unsupportedType nameType => .unsupportedCacheType nameType

def directFilePathFromCacheName (uid : Option (List Char)) (name : List Char) : Except StoreError (List Char) :=
  match dirSubsidiaryPath name with
  | some path => validateDirSubsidiaryPath uid path
  | none => (filePathFromName uid name ["FILE".toList, "WRFILE".toList]).mapError nameError

def parseDirPrimaryName (contents : List Char) : Except StoreError (List Char) := do
  let (line, _) ← okOr (splitOnce '\n' contents) .invalidCacheName
  ensure (dirDefaultPrimaryCache <+: line ∧ '/' ∉ line ∧ '\\' ∉ line) .invalidCacheName
  return line

end Names

section Files

/-- Files by the parts of their paths: there are no links, and no detours over parent directories. A write that is
refused changes nothing. -/
structure FileSystem where
  read : List Component → Except IoError Bytes
  refusal : List Component → Option IoError

def FileSystem.put (files : FileSystem) (path : List Char) (bytes : Bytes) : FileSystem :=
  { files with read := Function.update files.read (components path) (.ok bytes) }

def readFileBytes (path : List Char) : Program FileSystem StoreError (Except IoError Bytes) :=
  .ofExec fun files ↦ (.ok (files.read (components path)), files)

def readToString (path : List Char) : Program FileSystem StoreError (Except IoError (List Char)) :=
  .ofExec fun files ↦ (.ok do
    let bytes ← files.read (components path)
    let text ← okOr (fromUtf8 bytes) (.other "stream did not contain valid UTF-8")
    return text.toList, files)

def writeFile (path : List Char) (bytes : Bytes) : Program FileSystem StoreError Unit :=
  .ofExec fun files ↦ match files.refusal (components path) with
    | some e => (.error (.io e), files)
    | none => (.ok (), files.put path bytes)

variable (uid : Option (List Char)) (target : Endian)

def dirCollectionPrimaryPath (directory : List Char) : Program FileSystem StoreError (List Char) := do
  ensure (directory ≠ []) StoreError.invalidCacheName
  let directory := expandPathTokens uid directory
  let primaryPath := join directory dirPrimaryFile
  match ← readToString primaryPath with
  | .ok contents =>
    let primary ← parseDirPrimaryName contents
    return join directory primary
  | .error .notFound =>
    writeFile primaryPath (asBytes "tkt\n")
    return join directory dirDefaultPrimaryCache
  | .error e => throw (.io e)

def filePathFromCacheName (name : List Char) : Program FileSystem StoreError (List Char) :=
  match dirCollectionPath name with
  | some directory => dirCollectionPrimaryPath uid directory
  | none => directFilePathFromCacheName uid name

def load (path : List Char) : Program FileSystem StoreError File := do
  match ← readFileBytes path with
  | .ok bytes => (parse target bytes).mapError StoreError.file
  | .error e => throw (.io e)

def loadName (name : List Char) : Program FileSystem StoreError File := do
  let path ← filePathFromCacheName uid name
  load target path

def save (file : File) (path : List Char) : Program FileSystem StoreError Unit := do
  let bytes ← (file.toBytes target).mapError StoreError.file
  writeFile path bytes

def saveName (file : File) (name : List Char) : Program FileSystem StoreError Unit := do
  let path ← filePathFromCacheName uid name
  save target file path

end Files

section Collections

variable {uid : Option (List Char)} {target : Endian} {directory path : List Char} {files files' : FileSystem}

theorem read_put (files : FileSystem) (path : List Char) (bytes : Bytes) :
    (files.put path bytes).read (components path) = .ok bytes := Function.update_self _ _ _

theorem read_put_of_ne {path : List Char} {bytes : Bytes} {parts : List Component} (h : parts ≠ components path) :
    (files.put path bytes).read parts = files.read parts := Function.update_of_ne h _ _

theorem writeFile_eq_ok {bytes : Bytes} (h : (writeFile path bytes).exec files = (.ok (), files')) :
    files' = files.put path bytes := by
  rw [writeFile, Program.exec_ofExec] at h
  split at h
  · cases h
  · exact (Prod.mk.inj h).2.symm

theorem readToString_notFound {parts : List Component} (h : (do
      let bytes ← files.read parts
      let text ← okOr (fromUtf8 bytes) (.other "stream did not contain valid UTF-8")
      return text.toList) = Except.error IoError.notFound) : files.read parts = .error .notFound := by
  rcases hread : files.read parts with e | bytes
  · rw [hread] at h
    exact congrArg _ (Except.error.inj h)
  · rw [hread, ok_bind] at h
    rcases htext : fromUtf8 bytes with _ | text
    · rw [htext] at h
      cases h
    · rw [htext] at h
      cases h

/-- The name of a cache in a collection. -/
structure IsPrimary (primary : List Char) : Prop where
  default : dirDefaultPrimaryCache <+: primary
  slash : '/' ∉ primary

theorem IsPrimary.component {primary : List Char} (h : IsPrimary primary) :
    component primary = some (.normal primary) := by
  obtain ⟨rest, rfl⟩ := h.default
  simp [Names.component, dirDefaultPrimaryCache]

theorem isPrimary_default : IsPrimary dirDefaultPrimaryCache := ⟨List.prefix_refl _, by decide⟩

theorem parseDirPrimaryName_eq_ok {contents line : List Char} (h : parseDirPrimaryName contents = .ok line) :
    IsPrimary line := by
  simp only [parseDirPrimaryName, bind_eq_ok, okOr_eq_ok, ensure_eq_ok, pure_eq_ok, Except.ok.injEq] at h
  obtain ⟨⟨line', rest⟩, -, _, ⟨hdefault, hslash, -⟩, rfl⟩ := h
  exact ⟨hdefault, hslash⟩

/-- The file of a collection that names its primary cache. -/
def primaryPath (uid : Option (List Char)) (directory : List Char) : List Char :=
  join (expandPathTokens uid directory) dirPrimaryFile

theorem components_primaryPath : components (primaryPath uid directory) =
    components (expandPathTokens uid directory) ++ [.normal dirPrimaryFile] :=
  components_join (by decide) (by decide) _

theorem components_join_primary {primary : List Char} (h : IsPrimary primary) (directory : List Char) :
    components (join directory primary) = components directory ++ [.normal primary] :=
  components_join h.slash h.component directory

/-- The default is written where a collection has no primary file. -/
def CreatesPrimary (uid : Option (List Char)) (directory : List Char) (files files' : FileSystem) : Prop :=
  files.read (components (primaryPath uid directory)) = .error .notFound ∧
    files' = files.put (primaryPath uid directory) (asBytes "tkt\n")

def ReadsPrimary (uid : Option (List Char)) (directory : List Char) (files : FileSystem) (primary : List Char) :
    Prop :=
  ∃ bytes text, files.read (components (primaryPath uid directory)) = .ok bytes ∧ fromUtf8 bytes = some text ∧
    parseDirPrimaryName text.toList = .ok primary

theorem exec_dirCollectionPrimaryPath_of_reads (hdirectory : directory ≠ []) {primary : List Char}
    (h : ReadsPrimary uid directory files primary) : (dirCollectionPrimaryPath uid directory).exec files =
      (.ok (join (expandPathTokens uid directory) primary), files) := by
  obtain ⟨bytes, text, hread, htext, hparse⟩ := h
  have hcontents : (readToString (primaryPath uid directory)).exec files = (.ok (.ok text.toList), files) := by
    rw [readToString, Program.exec_ofExec, hread, ok_bind, htext]
    rfl
  rw [dirCollectionPrimaryPath, ensure_of hdirectory]
  refine Program.exec_bind_eq_ok.mpr ⟨(), files, rfl, ?_⟩
  refine Program.exec_bind_eq_ok.mpr ⟨_, files, hcontents, ?_⟩
  exact Program.exec_bind_eq_ok.mpr ⟨primary, files, Program.exec_liftExcept_eq_ok.mpr ⟨hparse, rfl⟩, rfl⟩

theorem dirCollectionPrimaryPath_eq_ok
    (h : (dirCollectionPrimaryPath uid directory).exec files = (.ok path, files')) :
    directory ≠ [] ∧ (files' = files ∨ CreatesPrimary uid directory files files') ∧
      ∃ primary, IsPrimary primary ∧ path = join (expandPathTokens uid directory) primary ∧
        ReadsPrimary uid directory files' primary := by
  obtain ⟨_, s, hensure, h⟩ := Program.exec_bind_eq_ok.mp h
  obtain ⟨hdirectory, rfl⟩ := Program.exec_liftExcept_eq_ok.mp hensure
  refine ⟨ensure_eq_ok.mp hdirectory, ?_⟩
  obtain ⟨contents, s, hcontents, h⟩ := Program.exec_bind_eq_ok.mp h
  rw [readToString, Program.exec_ofExec] at hcontents
  obtain ⟨hread, rfl⟩ := Prod.mk.inj hcontents
  rcases contents with e | contents
  · cases e with
    | other message => cases h
    | notFound =>
      obtain ⟨_, s, hwrite, h⟩ := Program.exec_bind_eq_ok.mp h
      obtain ⟨hpath, rfl⟩ := Prod.mk.inj h
      obtain rfl := Except.ok.inj hpath
      have hput := writeFile_eq_ok hwrite
      refine ⟨.inr ⟨readToString_notFound (Except.ok.inj hread), hput⟩, _, isPrimary_default, rfl, ?_⟩
      refine ⟨asBytes "tkt\n", "tkt\n", ?_, fromUtf8_asBytes _, by decide⟩
      rw [hput]
      exact read_put _ _ _
  · obtain ⟨primary, s, hprimary, h⟩ := Program.exec_bind_eq_ok.mp h
    obtain ⟨hparse, rfl⟩ := Program.exec_liftExcept_eq_ok.mp hprimary
    obtain ⟨hpath, rfl⟩ := Prod.mk.inj h
    obtain rfl := Except.ok.inj hpath
    refine ⟨.inl rfl, primary, parseDirPrimaryName_eq_ok hparse, rfl, ?_⟩
    obtain ⟨bytes, hbytes, hread⟩ := bind_eq_ok.mp (Except.ok.inj hread)
    obtain ⟨text, htext, hread⟩ := bind_eq_ok.mp hread
    obtain rfl := Except.ok.inj hread
    exact ⟨bytes, text, hbytes, okOr_eq_ok.mp htext, hparse⟩

end Collections

section Stores

variable {uid : Option (List Char)} {target : Endian} {name path : List Char} {files files' : FileSystem}
  {file : File} {bytes : Bytes}

/-- What has to stay for a name to lead to the same file. -/
def Kept (uid : Option (List Char)) (name path : List Char) (parts : List Component) : Prop :=
  parts = components path ∨
    ∃ directory, dirCollectionPath name = some directory ∧ parts = components (primaryPath uid directory)

theorem exec_filePathFromCacheName_of_kept
    (h : (filePathFromCacheName uid name).exec files = (.ok path, files')) {files'' : FileSystem}
    (hkept : ∀ directory, dirCollectionPath name = some directory →
      files''.read (components (primaryPath uid directory)) = files'.read (components (primaryPath uid directory))) :
    (filePathFromCacheName uid name).exec files'' = (.ok path, files'') := by
  rw [filePathFromCacheName] at h ⊢
  cases hname : dirCollectionPath name with
  | none =>
    simp only [hname] at h ⊢
    rw [Program.exec_liftExcept_eq_ok.mp h |>.1]
    rfl
  | some directory =>
    simp only [hname] at h ⊢
    obtain ⟨hdirectory, -, primary, -, rfl, bytes, text, hread, htext⟩ := dirCollectionPrimaryPath_eq_ok h
    exact exec_dirCollectionPrimaryPath_of_reads hdirectory ⟨bytes, text, (hkept directory hname).trans hread, htext⟩

/-- A name that leads to a file makes no other file than the missing primary of its collection. -/
theorem filePathFromCacheName_eq_ok (h : (filePathFromCacheName uid name).exec files = (.ok path, files')) :
    (∀ parts, files'.read parts = files.read parts ∨ ∃ directory, dirCollectionPath name = some directory ∧
      parts = components (primaryPath uid directory) ∧ files.read parts = .error .notFound ∧
      files'.read parts = .ok (asBytes "tkt\n")) ∧
    ∀ directory, dirCollectionPath name = some directory → ∃ primary, IsPrimary primary ∧
      path = join (expandPathTokens uid directory) primary ∧ ReadsPrimary uid directory files' primary := by
  rw [filePathFromCacheName] at h
  cases hname : dirCollectionPath name with
  | none =>
    simp only [hname] at h
    obtain ⟨-, rfl⟩ := Program.exec_liftExcept_eq_ok.mp h
    exact ⟨fun _ ↦ .inl rfl, fun _ hsome ↦ by cases hsome⟩
  | some directory =>
    simp only [hname] at h
    obtain ⟨-, hcreated, primary, hprimary, hpath, hreads⟩ := dirCollectionPrimaryPath_eq_ok h
    refine ⟨fun parts ↦ ?_, fun _ hsome ↦ Option.some.inj hsome ▸ ⟨primary, hprimary, hpath, hreads⟩⟩
    rcases hcreated with rfl | ⟨hmissing, rfl⟩
    · exact .inl rfl
    · by_cases hparts : parts = components (primaryPath uid directory)
      · subst hparts
        exact .inr ⟨directory, rfl, rfl, hmissing, read_put _ _ _⟩
      · exact .inl (read_put_of_ne hparts)

theorem saveName_eq_ok (h : (saveName uid target file name).exec files = (.ok (), files')) :
    ∃ path bytes files₁, (filePathFromCacheName uid name).exec files = (.ok path, files₁) ∧
      file.toBytes target = .ok bytes ∧ files' = files₁.put path bytes := by
  obtain ⟨path, files₁, hpath, h⟩ := Program.exec_bind_eq_ok.mp h
  obtain ⟨bytes, s, hbytes, h⟩ := Program.exec_bind_eq_ok.mp h
  obtain ⟨htoBytes, rfl⟩ := Program.exec_liftExcept_eq_ok.mp hbytes
  exact ⟨path, bytes, _, hpath, mapError_eq_ok.mp htoBytes, writeFile_eq_ok h⟩

theorem exec_loadName (h : (filePathFromCacheName uid name).exec files = (.ok path, files))
    (hread : files.read (components path) = .ok bytes) :
    (loadName uid target name).exec files = ((parse target bytes).mapError .file, files) := by
  have hbytes : (readFileBytes path).exec files = (.ok (.ok bytes), files) := by
    rw [readFileBytes, Program.exec_ofExec, hread]
  rw [loadName, Program.exec_bind_ok h, load, Program.exec_bind_ok hbytes]
  rfl

end Stores

section Runs

variable {uid : Option (List Char)} {target : Endian} {name path : List Char} {files files' : FileSystem}
  {file : File} {bytes : Bytes} {parts : List Component}

/-- What is done with a name. -/
inductive Use
  | resolve (name : List Char)
  | load (name : List Char)
  | save (name : List Char) (file : File)

def Use.run (uid : Option (List Char)) (target : Endian) : Use → Program FileSystem StoreError Unit
  | resolve name => do
    let _ ← filePathFromCacheName uid name
    return ()
  | load name => do
    let _ ← loadName uid target name
    return ()
  | save name file => saveName uid target file name

/-- Nothing is saved where a name leads to, or over the primary file of its collection. -/
def Use.Avoids (uid : Option (List Char)) (name path : List Char) (files : FileSystem) : Use → Prop
  | save name' _ => ∀ path', ((filePathFromCacheName uid name').exec files).1 = .ok path' →
      ¬ Kept uid name path (components path')
  | _ => True

def UsesElsewhere (uid : Option (List Char)) (target : Endian) (name path : List Char) (files files' : FileSystem) :
    Prop :=
  ∃ use : Use, use.Avoids uid name path files ∧ files' = ((use.run uid target).exec files).2

/-- A file is left as it is, also where the program stops. -/
abbrev Keeps {α : Type} (parts : List Component) (bytes : Bytes) (x : Program FileSystem StoreError α) : Prop :=
  Triple (fun files ↦ files.read parts = .ok bytes) x (fun _ files ↦ files.read parts = .ok bytes)
    fun _ files ↦ files.read parts = .ok bytes

theorem Keeps.lift {α : Type} (x : Except StoreError α) : Keeps parts bytes (liftM x) :=
  Triple.lift (fun _ _ _ hs ↦ hs) fun _ _ _ hs ↦ hs

theorem Keeps.bind {α β : Type} {x : Program FileSystem StoreError α} {f : α → Program FileSystem StoreError β}
    (hx : Keeps parts bytes x) (hf : ∀ a, Keeps parts bytes (f a)) : Keeps parts bytes (x >>= f) :=
  Triple.bind hx hf

theorem Keeps.read {α : Type} {x : Program FileSystem StoreError α} (h : Keeps parts bytes x)
    (hread : files.read parts = .ok bytes) : (x.exec files).2.read parts = .ok bytes := by
  have hx := h files hread
  revert hx
  rcases x.exec files with ⟨e | a, files'⟩ <;> exact id

theorem keeps_writeFile {new : Bytes} (h : parts ≠ components path) : Keeps parts bytes (writeFile path new) := by
  intro files hread
  rw [writeFile, Program.exec_ofExec]
  cases files.refusal (components path) with
  | some e => exact hread
  | none => exact (read_put_of_ne h).trans hread

theorem keeps_dirCollectionPrimaryPath (directory : List Char) :
    Keeps parts bytes (dirCollectionPrimaryPath uid directory) := by
  have hread : Triple (fun files ↦ files.read parts = .ok bytes) (readToString (primaryPath uid directory))
      (fun contents files ↦ files.read parts = .ok bytes ∧ (contents = .error .notFound →
        files.read (components (primaryPath uid directory)) = .error .notFound))
      fun _ files ↦ files.read parts = .ok bytes := by
    intro files hread
    rw [readToString, Program.exec_ofExec]
    exact ⟨hread, readToString_notFound⟩
  refine (Keeps.lift _).bind fun _ ↦ hread.bind fun contents ↦ ?_
  rcases contents with e | contents
  · cases e with
    | other message => exact Triple.throw fun _ h ↦ h.1
    | notFound =>
      -- the missing file is not the one that can be read
      intro files h
      have hne : parts ≠ components (primaryPath uid directory) := by
        rintro rfl
        have hmissing := h.2 rfl
        rw [h.1] at hmissing
        cases hmissing
      exact ((keeps_writeFile hne).bind fun _ ↦ Triple.pure fun _ hs ↦ hs) files h.1
  · intro files h
    exact ((Keeps.lift _).bind fun _ ↦ Triple.pure fun _ hs ↦ hs) files h.1

theorem keeps_filePathFromCacheName (name : List Char) : Keeps parts bytes (filePathFromCacheName uid name) := by
  rw [filePathFromCacheName]
  cases dirCollectionPath name with
  | none => exact Keeps.lift _
  | some directory => exact keeps_dirCollectionPrimaryPath directory

theorem keeps_load (path : List Char) : Keeps parts bytes (load target path) := by
  have hread : Keeps parts bytes (readFileBytes path) := fun files hread ↦ hread
  refine hread.bind fun contents ↦ ?_
  cases contents with
  | error e => exact Triple.throw fun _ hs ↦ hs
  | ok bytes => exact Keeps.lift _

theorem read_of_usesElsewhere (hkept : Kept uid name path parts)
    (h : UsesElsewhere uid target name path files files') (hread : files.read parts = .ok bytes) :
    files'.read parts = .ok bytes := by
  obtain ⟨use, havoids, rfl⟩ := h
  cases use with
  | resolve name' =>
    have hkeeps : Keeps parts bytes ((Use.resolve name').run uid target) :=
      (keeps_filePathFromCacheName name').bind fun _ ↦ Triple.pure fun _ hs ↦ hs
    exact hkeeps.read hread
  | load name' =>
    have hkeeps : Keeps parts bytes ((Use.load name').run uid target) :=
      ((keeps_filePathFromCacheName name').bind keeps_load).bind fun _ ↦ Triple.pure fun _ hs ↦ hs
    exact hkeeps.read hread
  | save name' file =>
    have hresolve : Keeps parts bytes (filePathFromCacheName uid name') := keeps_filePathFromCacheName name'
    have hresolved := hresolve.read hread
    simp only [Use.run, saveName, Program.exec_bind]
    simp only [Use.Avoids] at havoids
    revert hresolved havoids
    rcases (filePathFromCacheName uid name').exec files with ⟨e | path', s⟩
    · exact fun _ hs ↦ hs
    · intro havoids hs
      have hne : parts ≠ components path' := fun heq ↦ havoids path' rfl (heq ▸ hkept)
      have hkeeps : Keeps parts bytes (save target file path') :=
        (Keeps.lift _).bind fun _ ↦ keeps_writeFile hne
      exact hkeeps.read hs

theorem components_ne_nil {path : List Char} (h : path ≠ []) : components path ≠ [] := by
  obtain ⟨c, rest, rfl⟩ := List.exists_cons_of_ne_nil h
  obtain ⟨piece, pieces, hrest⟩ := List.exists_cons_of_ne_nil (List.splitOn_ne_nil '/' rest)
  rw [← below_eq_components h, below, List.splitOn_cons_eq_if_modifyHead, hrest]
  by_cases hslash : (c == '/') = true
  · simp [hslash, leading]
  · simp only [hslash, Bool.false_eq_true, if_false, List.modifyHead_cons, leading, component, reduceCtorEq, false_or]
    split_ifs <;> simp

/-- A name that points at the cache itself, and not at its collection, is of the same file where the directory has
a name and nothing is left to be replaced in the path. -/
theorem exec_filePathFromCacheName_subsidiary {directory primary : List Char} (hprimary : IsPrimary primary)
    (hpath : components path = components directory ++ [.normal primary]) :
    (filePathFromCacheName uid ("DIR::".toList ++ path)).exec files = (.ok path, files) ↔
      directory ≠ [] ∧ expandPathTokens uid path = path := by
  have hsplit : splitOnce ':' ("DIR::".toList ++ path) = some ("DIR".toList, ':' :: path) :=
    @splitOnce_append ':' "DIR".toList (by decide) (':' :: path)
  have hcollection : dirCollectionPath ("DIR::".toList ++ path) = none := by
    rw [dirCollectionPath, hsplit]
    simp
  have hsubsidiary : dirSubsidiaryPath ("DIR::".toList ++ path) = some path := by
    rw [dirSubsidiaryPath, hsplit]
    simp
  have hne : path ≠ [] := by
    rintro rfl
    simp [components, leading] at hpath
  have hname : fileName path = some primary := by rw [fileName, hpath, List.getLast?_concat]
  have hparent : hasParent path = true ↔ directory ≠ [] := by
    rw [hasParent, hpath, List.getLast?_concat, List.dropLast_concat]
    refine decide_eq_true_iff.trans ⟨?_, components_ne_nil⟩
    rintro hsome rfl
    exact hsome rfl
  have hvalid : validateDirSubsidiaryPath uid path = .ok path ↔ directory ≠ [] ∧ expandPathTokens uid path = path := by
    rw [validateDirSubsidiaryPath, ensure_of hne, ok_bind, ← hparent]
    simp only [bind_eq_ok, okOr_eq_ok, ensure_eq_ok, pure_eq_ok, Except.ok.injEq]
    constructor
    · rintro ⟨filename, -, _, ⟨hparent', -⟩, hexpand⟩
      rw [hexpand] at hparent'
      exact ⟨hparent', hexpand⟩
    · rintro ⟨hparent', hexpand⟩
      rw [hexpand]
      exact ⟨primary, hname, (), ⟨hparent', hprimary.default⟩, rfl⟩
  rw [filePathFromCacheName, hcollection, directFilePathFromCacheName, hsubsidiary, ← hvalid]
  exact Program.exec_liftExcept_eq_ok.trans (and_iff_left rfl)

/-- A cache that was saved under a name is loaded from the name, and from the name of the file itself where the name
is that of a collection, after any resolving, loading and saving of other names, whether it succeeds or not, that
does not save over the file or the primary file of the collection. It is what was saved if the version of its format
can tell that. Saving touches nothing but the file and a primary file that was missing, and the cache of a collection
is a file of its directory. -/
theorem save_loads (target : Endian) (uid : Option (List Char)) (name : List Char) (file : File)
    (files files' : FileSystem) (h : (saveName uid target file name).exec files = (.ok (), files')) :
    ∃ path bytes, ((filePathFromCacheName uid name).exec files).1 = .ok path ∧
      file.toBytes target = .ok bytes ∧ (parse target bytes = .ok file ↔ file.Normal) ∧
      (∀ parts, parts ≠ components path → files'.read parts = files.read parts ∨
        ∃ directory, dirCollectionPath name = some directory ∧ parts = components (primaryPath uid directory) ∧
          files.read parts = .error .notFound ∧ files'.read parts = .ok (asBytes "tkt\n")) ∧
      (∀ directory, dirCollectionPath name = some directory → ∃ primary, IsPrimary primary ∧
        components path = components (expandPathTokens uid directory) ++ [.normal primary]) ∧
      ∀ files'', Relation.ReflTransGen (UsesElsewhere uid target name path) files' files'' →
        (loadName uid target name).exec files'' = ((parse target bytes).mapError .file, files'') ∧
        ∀ directory, dirCollectionPath name = some directory →
          ((filePathFromCacheName uid ("DIR::".toList ++ path)).exec files'' = (.ok path, files'') ↔
            expandPathTokens uid directory ≠ [] ∧ expandPathTokens uid path = path) ∧
          (expandPathTokens uid directory ≠ [] → expandPathTokens uid path = path →
            (loadName uid target ("DIR::".toList ++ path)).exec files'' =
              ((parse target bytes).mapError .file, files'')) := by
  obtain ⟨path, bytes, files₁, hpath, hbytes, rfl⟩ := saveName_eq_ok h
  obtain ⟨hframe, hcollection⟩ := filePathFromCacheName_eq_ok hpath
  have hcomponents : ∀ directory, dirCollectionPath name = some directory → ∃ primary, IsPrimary primary ∧
      components path = components (expandPathTokens uid directory) ++ [.normal primary] := by
    intro directory hname
    obtain ⟨primary, hprimary, rfl, -⟩ := hcollection directory hname
    exact ⟨primary, hprimary, components_join_primary hprimary _⟩
  refine ⟨path, bytes, congrArg Prod.fst hpath, hbytes, ⟨fun hparse ↦ (parse_eq_ok hparse).1,
    fun hnormal ↦ parse_toBytes hnormal hbytes⟩, fun parts hparts ↦ ?_, hcomponents, fun files'' hrun ↦ ?_⟩
  · rw [read_put_of_ne hparts]
    exact hframe parts
  have hinv : ∀ parts bytes', Kept uid name path parts → (files₁.put path bytes).read parts = .ok bytes' →
      files''.read parts = .ok bytes' :=
    Lib.Once.invariant_of_step
      (fun s ↦ ∀ parts bytes', Kept uid name path parts → (files₁.put path bytes).read parts = .ok bytes' →
        s.read parts = .ok bytes')
      (fun s s' hs hstep parts bytes' hkept hread ↦ read_of_usesElsewhere hkept hstep (hs parts bytes' hkept hread))
      (fun _ _ _ hread ↦ hread) hrun
  have hread : files''.read (components path) = .ok bytes := hinv _ _ (.inl rfl) (read_put _ _ _)
  constructor
  · refine exec_loadName (exec_filePathFromCacheName_of_kept hpath fun directory hname ↦ ?_) hread
    obtain ⟨primary, hprimary, rfl, bytes', text, hprimaryRead, -⟩ := hcollection directory hname
    rw [hprimaryRead]
    refine hinv _ _ (.inr ⟨directory, hname, rfl⟩) ((read_put_of_ne ?_).trans hprimaryRead)
    rw [components_primaryPath, components_join_primary hprimary]
    intro heq
    obtain rfl : dirPrimaryFile = primary := by simpa using heq
    exact absurd hprimary.default (by decide)
  · intro directory hname
    obtain ⟨primary, hprimary, hparts⟩ := hcomponents directory hname
    have hiff := @exec_filePathFromCacheName_subsidiary uid path files'' _ primary hprimary hparts
    exact ⟨hiff, fun hdirectory hexpand ↦ exec_loadName (hiff.mpr ⟨hdirectory, hexpand⟩) hread⟩

end Runs

section Saved

/-- Alice's cache is the first one of a collection, and Bob has one elsewhere. -/
def noFiles : FileSystem := ⟨fun _ ↦ .error .notFound, fun _ ↦ none⟩

def aliceCache : File := .new ⟨"A", 1, ["alice"]⟩
def bobCache : File := .new ⟨"A", 1, ["bob"]⟩

def collectionName : List Char := "DIR:/tmp/krb5cc".toList
def bobName : List Char := "FILE:/tmp/bob".toList

def aliceSaved : FileSystem := ((saveName none .little aliceCache collectionName).exec noFiles).2
def bothSaved : FileSystem := ((saveName none .little bobCache bobName).exec aliceSaved).2

def aliceFile : List Char := "/tmp/krb5cc/tkt".toList
def bobFile : List Char := "/tmp/bob".toList

theorem resolved :
    (((filePathFromCacheName none collectionName).exec noFiles).1 = .ok aliceFile ∧
      ((saveName none .little aliceCache collectionName).exec noFiles).1 = .ok () ∧
      dirCollectionPath collectionName = some "/tmp/krb5cc".toList) ∧
    ((filePathFromCacheName none bobName).exec aliceSaved).1 = .ok bobFile ∧
      components bobFile ≠ components aliceFile ∧
      components bobFile ≠ components (primaryPath none "/tmp/krb5cc".toList) := by
  decide +kernel

theorem saved_elsewhere : UsesElsewhere none .little collectionName aliceFile aliceSaved bothSaved := by
  obtain ⟨⟨-, -, hcollection⟩, hresolve, hfile, hprimary⟩ := resolved
  refine ⟨.save bobName bobCache, fun path' hpath hkept ↦ ?_, rfl⟩
  obtain rfl := Except.ok.inj (hresolve.symm.trans hpath)
  rcases hkept with heq | ⟨directory, hdirectory, heq⟩
  · exact hfile heq
  · obtain rfl := Option.some.inj (hcollection.symm.trans hdirectory)
    exact hprimary heq

theorem save_loads_collection :
    (loadName none .little collectionName).exec bothSaved = (.ok aliceCache, bothSaved) ∧
      (loadName none .little ("DIR::".toList ++ aliceFile)).exec bothSaved = (.ok aliceCache, bothSaved) := by
  obtain ⟨⟨hresolve, hsave, hcollection⟩, -⟩ := resolved
  have hnormal : aliceCache.Normal :=
    ⟨by decide, fun _ ↦ rfl, fun hversion ↦ absurd hversion (by decide), by simp [aliceCache, File.new]⟩
  obtain ⟨path, bytes, hpath, -, hiff, -, -, hrun⟩ := save_loads .little none collectionName aliceCache noFiles
    aliceSaved (Prod.ext hsave rfl)
  obtain rfl := Except.ok.inj (hresolve.symm.trans hpath)
  obtain ⟨hload, hsubsidiary⟩ := hrun bothSaved (.single saved_elsewhere)
  rw [hiff.mpr hnormal] at hload hsubsidiary
  exact ⟨hload, (hsubsidiary "/tmp/krb5cc".toList hcollection).2 (by decide +kernel) (by decide +kernel)⟩

end Saved

end Rskrb5.CCache.Names
