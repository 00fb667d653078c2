import KSlide.Errors
import KSlide.Interleaving.Reads
import KSlide.Json.Conversions
import KSlide.Json.Edits
import KSlide.Json.Indented
import Mathlib.Data.List.Infix
import Mathlib.Data.List.Sort
import Mathlib.Logic.Function.Basic

/-
This file gives the installer as a program of file actions, any of which can be the last one.
-/

namespace KSlide.Install
open Interleaving Program List

/-- The components of a path below a root. -/
abbrev Path := List String

inductive Node where
  | file (content : List UInt8)
  | folder
deriving DecidableEq

/-- A target is the folder that the installer changes, with every file and folder in it. -/
abbrev Target := Path → Option Node

def Target.put (target : Target) (path : Path) (node : Node) : Target :=
  Function.update target path (some node)

def Target.remove (target : Target) (path : Path) : Target := Function.update target path none

inductive Action where
  | look (path : Path)
  | mkdir (path : Path)
  | truncate (path : Path)
  | append (path : Path)
  | unlink (path : Path)
  | replace (path : Path)
deriving DecidableEq

abbrev Installation := Program Action Target Raised

def look (path : Path) : Installation (Option Node) :=
  .read (.look path) fun target => .ok (target path)

/-- A file stands in the way of a folder at its place or below it. -/
def makeFolder (path folder : Path) (target : Target) : Except Raised Unit × Target :=
  match target folder with
  | none => (.ok (), target.put folder .folder)
  | some .folder => (.ok (), target)
  | some (.file _) =>
    (.error (.other (if folder = path then "FileExistsError" else "NotADirectoryError")), target)

/-- The missing folders of a path are made from the outermost. -/
def mkdir (path : Path) : Installation Unit :=
  path.inits.foldlM (fun _ folder => .transact (.mkdir folder) (makeFolder path folder)) ()

/-- The bytes of a file reach the disk one after the other. -/
def fill (path : Path) (written : List UInt8) : List UInt8 → Installation Unit
  | [] => pure ()
  | byte :: rest => do
    .write (.append path) fun target => target.put path (.file (written ++ [byte]))
    fill path (written ++ [byte]) rest

def copy2 (content : List UInt8) (path : Path) : Installation Unit := do
  .write (.truncate path) fun target => target.put path (.file [])
  fill path [] content

/-- The new file replaces the old one in a single step, and it cannot replace a folder. -/
def atomicWrite (path : Path) (content : List UInt8) : Installation Unit := do
  mkdir path.dropLast
  .transact (.replace path) fun target =>
    match target path with
    | some .folder => (.error (.other "IsADirectoryError"), target)
    | _ => (.ok (), target.put path (.file content))

/-- Neither a name of the file system nor a part of a path has a separator. -/
def Legal (path : Path) : Prop := ∀ part ∈ path, '/' ∉ part.toList

/-- A source tree lists its files and its folders, and each of them lies in its folders. -/
structure SourceRoot where
  place : String
  gitSha : String
  entries : List (Path × Node)
  legal : ∀ entry ∈ entries, Legal entry.1
  distinct : (entries.map Prod.fst).Nodup
  closed : ∀ entry ∈ entries, ∀ folder, folder <+: entry.1 → folder ≠ entry.1 → folder ≠ [] →
    (folder, .folder) ∈ entries

/-- The installer puts one file of the source tree at a path of the target. -/
structure Copy where
  destination : Path
  content : List UInt8
deriving DecidableEq

def key (path : Path) : String := "/".intercalate path

def Copy.key (copy : Copy) : String := Install.key copy.destination

namespace SourceRoot

def isFolder (tree : SourceRoot) (path : Path) : Bool := tree.entries.lookup path = some .folder

/-- Only the files below the folder are met. -/
def below (source : Path) (entry : Path × Node) : Option (Path × List UInt8) :=
  match entry.2 with
  | .folder => none
  | .file content =>
    if source.isPrefixOf entry.1 && entry.1 != source then
      some (entry.1.drop source.length, content)
    else none

/-- A single file has its name as its relative path, and the files of a folder are sorted. -/
def files (tree : SourceRoot) (source : Path) : List (Path × List UInt8) :=
  match tree.entries.lookup source with
  | some (.file content) => [(source.drop (source.length - 1), content)]
  | _ => (tree.entries.filterMap (below source)).insertionSort fun first second =>
    first.1 ≤ second.1

def copies (tree : SourceRoot) (place : Path × Path) : List Copy :=
  (tree.files place.1).map fun file => ⟨place.2 ++ file.1, file.2⟩

end SourceRoot

def opencodeRoot (scope : String) : Path := if scope == "project" then [".opencode"] else []

def engineRoot (scope : String) : Path :=
  [if scope == "project" then ".k-slide-engine" else "k-slide-engine"]

def manifestPath (scope : String) : Path :=
  [if scope == "project" then ".k-slide-install.json" else "k-slide-install.json"]

def legacyPath (scope : String) : Path := opencodeRoot scope ++ ["plugin", "k-slide-access-key.ts"]

/-- These folders and files of the source tree go to these folders of the target. -/
def places (scope : String) : List (Path × Path) := [
  ([".opencode", "commands"], opencodeRoot scope ++ ["commands"]),
  ([".opencode", "agents"], opencodeRoot scope ++ ["agents"]),
  ([".opencode", "skills", "k-slide"], opencodeRoot scope ++ ["skills", "k-slide"]),
  ([".opencode", "internal", "lib"], opencodeRoot scope ++ ["internal", "lib"]),
  ([".opencode", "plugin"], opencodeRoot scope ++ ["plugin"]),
  ([".opencode", "tools"], opencodeRoot scope ++ ["tools"]),
  ([".opencode", "package.json"], opencodeRoot scope),
  (["src"], engineRoot scope ++ ["src"]),
  (["schemas"], engineRoot scope ++ ["schemas"]),
  (["prompts"], engineRoot scope ++ ["prompts"]),
  (["termbase"], engineRoot scope ++ ["termbase"]),
  (["constraints-production.txt"], engineRoot scope),
  (["pyproject.toml"], engineRoot scope)]

/-- Only a project has the folders of the employee. -/
def workFolders (scope : String) : List Path :=
  if scope == "project" then [[".k-slide-input"], [".k-slide-runs"], [".k-slide-config"]] else []

/-- The file hash of the standard library, which the model takes as a parameter. -/
class FileHash where
  sha : List UInt8 → String

/-- The files of a manifest map the key of each path to the hash of its content. -/
abbrev Recorded := List (String × String)

/-- A known key keeps its place. -/
def setItem (files : Recorded) (key value : String) : Recorded :=
  if (files.lookup key).isSome then
    files.map fun entry => if entry.1 = key then (key, value) else entry
  else files ++ [(key, value)]

def update (files added : Recorded) : Recorded :=
  added.foldl (fun files entry => setItem files entry.1 entry.2) files

def encode (text : List Char) : List UInt8 := (String.ofList text).toUTF8.data.toList

def decode (content : List UInt8) : Option String := String.fromUTF8? ⟨content.toArray⟩

def installerVersion : String := "0.3.5"

def manifest (tree : SourceRoot) (scope : String) (files : Recorded) : Json := .obj [
  ("schema_version", .str "1.0"),
  ("installer_version", .str installerVersion),
  ("source_git_sha", .str tree.gitSha),
  ("scope", .str scope),
  ("source_root", .str tree.place),
  ("files", .obj (files.map fun entry => (entry.1, .str entry.2))),
  ("host_instructions_policy", .str "never_overwrite_AGENTS.md")]

def manifestText (tree : SourceRoot) (scope : String) (files : Recorded) : List UInt8 :=
  encode ((manifest tree scope files).indentedChars 0 ++ ['\n'])

/-- A manifest that is no file or no object is empty. -/
def loadManifest (path : String) : Option Node → Except Raised Json
  | some (.file content) =>
    match (decode content).bind fun text => Json.loads text.toList with
    | none => .error (.kslide ⟨.installInvalid,
        "Existing K-Slide install manifest is unreadable.", [("path", .str path)]⟩)
    | some value => .ok (if value.isObject then value else .obj [])
  | _ => .ok (.obj [])

def recorded [Python.Printing] (manifest : Json) : Recorded :=
  match Python.get manifest "files" (.obj []) with
  | .obj fields => fields.map fun entry => (entry.1, Python.str entry.2)
  | _ => []

section
variable [FileHash] [Python.Printing]

def collision (key : String) : Raised := .kslide ⟨.installCollision,
  "K-Slide refused to overwrite an unrelated existing file.",
  [("path", .str key),
    ("guidance", .str "Back up or remove the conflicting K-Slide-owned file, then retry.")]⟩

def localModification (key : String) : Raised := .kslide ⟨.installLocalModification,
  "K-Slide refused to overwrite a locally modified owned file.",
  [("path", .str key),
    ("guidance", .str "Restore the installed version or review the change before upgrading.")]⟩

/-- This says whether the file is to be copied over what stands at its place. -/
def replaces (previous : Recorded) (copy : Copy) : Option Node → Except Raised Bool
  | none => .ok true
  | some .folder => .error (.other "IsADirectoryError")
  | some (.file existing) =>
    if FileHash.sha existing = FileHash.sha copy.content then .ok false
    else
      match previous.lookup copy.key with
      | none => .error (collision copy.key)
      | some hash =>
        if FileHash.sha existing = hash then .ok true
        else .error (localModification copy.key)

def copyIf (copy : Copy) : Bool → Installation Unit
  | true => copy2 copy.content copy.destination
  | false => pure ()

def copyFile (previous installed : Recorded) (copy : Copy) : Installation Recorded := do
  mkdir copy.destination.dropLast
  let existing ← look copy.destination
  let needed ← .lift (replaces previous copy existing)
  copyIf copy needed
  return setItem installed copy.key (FileHash.sha copy.content)

def copyOwned (tree : SourceRoot) (previous : Recorded) (place : Path × Path) :
    Installation Recorded :=
  (tree.copies place).foldlM (copyFile previous) []

def copyPlace (tree : SourceRoot) (previous files : Recorded) (place : Path × Path) :
    Installation Recorded := do
  let installed ← copyOwned tree previous place
  return update files installed

def legacyModification (key : String) : Raised := .kslide ⟨.installLocalModification,
  "K-Slide refused to remove a locally modified legacy file.",
  [("path", .str key), ("guidance", .str
    "Remove the legacy K-Slide helper after reviewing the local change, then retry.")]⟩

/-- A legacy file goes only while it has the content that the manifest records. -/
def unlinkLegacy (path : Path) (expected : String) (target : Target) :
    Except Raised Unit × Target :=
  match target path with
  | none => (.ok (), target)
  | some .folder => (.error (legacyModification (key path)), target)
  | some (.file content) =>
    if FileHash.sha content = expected then (.ok (), target.remove path)
    else (.error (legacyModification (key path)), target)

def removeLegacyOwnedFile (path : Path) (previous : Recorded) : Installation Unit :=
  match previous.lookup (key path) with
  | none => pure ()
  | some expected => .transact (.unlink path) (unlinkLegacy path expected)

def scopeInvalid : Raised := .kslide ⟨.installInvalid,
  "Installation scope must be project or global.", []⟩

def sourceInvalid : Raised := .kslide ⟨.installInvalid, "K-Slide source tree is incomplete.", []⟩

def SourceRoot.complete (tree : SourceRoot) : Bool :=
  tree.isFolder [".opencode", "commands"] && tree.isFolder ["src", "k_slide"]

/-- The manifest is written after every file is in place. -/
def install (root : String) (tree : SourceRoot) (scope : String) : Installation Path := do
  .lift (require (["project", "global"].elem scope) scopeInvalid)
  .lift (require tree.complete sourceInvalid)
  mkdir []
  let found ← look (manifestPath scope)
  let previousManifest ← .lift (loadManifest (root ++ "/" ++ key (manifestPath scope)) found)
  let previous := recorded previousManifest
  removeLegacyOwnedFile (legacyPath scope) previous
  let files ← (places scope).foldlM (copyPlace tree previous) []
  (workFolders scope).foldlM (fun _ folder => mkdir folder) ()
  atomicWrite (manifestPath scope) (manifestText tree scope files)
  return manifestPath scope

end

section
variable {target after : Target} {path : Path}

/-- No file stands at the path or above it. -/
def Free (target : Target) (path : Path) : Prop :=
  ∀ folder, folder <+: path → ∀ content, target folder ≠ some (.file content)

/-- Each missing folder of the list is there. -/
def Target.grown (target : Target) (folders : List Path) : Target := fun folder =>
  if folder ∈ folders ∧ target folder = none then some .folder else target folder

/-- Each missing folder of the path is there. -/
def Target.opened (target : Target) (path : Path) : Target := target.grown path.inits

theorem grown_file {folders : List Path} {content : List UInt8} :
    target.grown folders path = some (.file content) ↔ target path = some (.file content) := by
  unfold Target.grown
  split_ifs with made
  · simp [made.2]
  · rfl

theorem grown_nil : target.grown [] = target := by
  funext folder
  simp [Target.grown]

theorem grown_cons (first : Path) (folders : List Path) :
    (target.grown [first]).grown folders = target.grown (first :: folders) := by
  funext folder
  by_cases same : folder = first
  · cases found : target first with
    | none => simp [Target.grown, same, found]
    | some node => simp [Target.grown, same, found]
  · simp [Target.grown, same]

theorem makeFolder_ok {folder : Path} : makeFolder path folder target = (.ok (), after) ↔
    (∀ content, target folder ≠ some (.file content)) ∧ after = target.grown [folder] := by
  cases found : target folder with
  | none =>
    have grown : target.put folder .folder = target.grown [folder] := by
      funext other
      by_cases same : other = folder
      · simp [Target.grown, Target.put, same, found]
      · simp [Target.grown, Target.put, same]
    simp [makeFolder, found, grown, eq_comm]
  | some node =>
    have grown : target.grown [folder] = target := by
      funext other
      by_cases same : other = folder
      · simp [Target.grown, same, found]
      · simp [Target.grown, same]
    cases node with
    | file content => simp [makeFolder, found]
    | folder => simp [makeFolder, found, grown, eq_comm]

theorem run_makeFolders {folders : List Path} :
    (folders.foldlM (fun _ folder => .transact (.mkdir folder) (makeFolder path folder)) () :
      Installation Unit).run target = (.ok (), after) ↔
      (∀ folder ∈ folders, ∀ content, target folder ≠ some (.file content)) ∧
        after = target.grown folders := by
  induction folders generalizing target with
  | nil =>
    show ((Except.ok (), target) : Except Raised Unit × Target) = (.ok (), after) ↔ _
    simp [grown_nil, eq_comm]
  | cons first folders ih =>
    rw [foldlM_cons, run_bind_value]
    simp only [run_transact, forall_mem_cons]
    constructor
    · rintro ⟨⟨⟩, between, made, rest⟩
      obtain ⟨here, rfl⟩ := makeFolder_ok.mp made
      obtain ⟨later, same⟩ := ih.mp rest
      have free : ∀ folder ∈ folders, ∀ content, target folder ≠ some (.file content) :=
        fun folder listed content found => later folder listed content (grown_file.mpr found)
      exact ⟨⟨here, free⟩, by rw [same, grown_cons]⟩
    · rintro ⟨⟨here, later⟩, same⟩
      have free : ∀ folder ∈ folders, ∀ content,
          target.grown [first] folder ≠ some (.file content) :=
        fun folder listed content found => later folder listed content (grown_file.mp found)
      exact ⟨(), _, makeFolder_ok.mpr ⟨here, rfl⟩, ih.mpr ⟨free, by rw [same, grown_cons]⟩⟩

/-- A folder is made exactly when no file is in its way. -/
theorem run_mkdir : (mkdir path).run target = (.ok (), after) ↔
    Free target path ∧ after = target.opened path := by
  rw [mkdir, run_makeFolders]
  simp only [mem_inits]
  rfl

theorem run_fill {written rest : List UInt8} (begun : target path = some (.file written)) :
    (fill path written rest).run target = (.ok (), target.put path (.file (written ++ rest))) := by
  induction rest generalizing target written with
  | nil =>
    have same : target.put path (.file written) = target := by
      rw [Target.put, ← begun, Function.update_eq_self]
    rw [fill, run_pure, append_nil, same]
  | cons byte rest ih =>
    rw [fill, run_bind, run_write]
    have later : (target.put path (.file (written ++ [byte]))) path =
        some (.file (written ++ [byte])) := Function.update_self ..
    show (fill path (written ++ [byte]) rest).run _ = _
    rw [ih later, append_assoc, singleton_append]
    simp only [Target.put, Function.update_idem]

@[simp] theorem run_copy2 (content : List UInt8) : (copy2 content path).run target =
    (.ok (), target.put path (.file content)) := by
  rw [copy2, run_bind, run_write]
  have begun : (target.put path (.file [])) path = some (.file []) := Function.update_self ..
  show (fill path [] content).run _ = _
  rw [run_fill begun]
  simp only [Target.put, Function.update_idem, nil_append]

@[simp] theorem run_look : (look path).run target = (.ok (target path), target) := run_read ..

end

end KSlide.Install
