import KSlide.Json.Conversions
import KSlide.Json.Lines
import KSlide.Readings
import KSlide.Recertification.Candidate
import KSlide.Text.Spelling
import Mathlib.Algebra.Ring.Nat
import Mathlib.Data.List.ReduceOption
import Mathlib.Data.List.Sort

/-
This file gives the inventory of the deployed packages and the lock that it is written to.
-/

namespace KSlide
open Python List

def dependencyInventorySchemaVersion : String := "1.0"

def nonDeployedBasePackages : List String := ["k-slide", "pip", "setuptools", "wheel"]

def scannerPackages : List String :=
  ["pip-audit", "semgrep", "cyclonedx-bom", "cyclonedx-python-lib"]

section
variable [Unicode] [Printing]

omit [Unicode] in
/-- A false value has the empty text. -/
def textOrEmpty (value : Json) : String := if value.truthy then str value else ""

def canonicalPackageName (name : Json) : String :=
  String.ofList (Text.canonicalName (textOrEmpty name).toList)

omit [Printing] in
/-- A deployed package has a canonical name and a version without white space around it. -/
structure DependencyPackage where
  name : String
  version : String
  named : ∃ text, name.toList = Text.canonicalName text
  versioned : Text.Stripped version.toList
  present : name ≠ "" ∧ version ≠ ""
  deployed : name ∉ scannerPackages ∧ name ∉ nonDeployedBasePackages

/-- A package that is not deployed is left out. -/
def readDependency (item : Json) : Except Raised (Option DependencyPackage) :=
  if item.isObject then
    let name := canonicalPackageName (get item "name" .null)
    let version := String.ofList (Text.strip (textOrEmpty (get item "version" .null)).toList)
    if present : name = "" ∨ version = "" then
      .error (evidenceInvalid "dependency inventory package name/version is missing")
    else if scanner : name ∈ scannerPackages then
      .error (evidenceInvalid ("scanner package " ++ name ++
        " is not part of the production dependency subject"))
    else if base : name ∈ nonDeployedBasePackages then .ok none
    else .ok (some ⟨name, version, ⟨_, String.toList_ofList⟩,
      String.toList_ofList ▸ Text.stripped_strip _, not_or.mp present, scanner, base⟩)
  else .error (evidenceInvalid "dependency inventory contains a non-object package")

omit [Printing] in
/-- The records have one version for each name. -/
structure DependencyRecords where
  packages : List DependencyPackage
  distinct : (packages.map (·.name)).Nodup

omit [Printing] in
def recordDependency (records : DependencyRecords) :
    Option DependencyPackage → Except Raised DependencyRecords
  | none => .ok records
  | some package =>
    if known : package.name ∈ records.packages.map (·.name) then
      if records.packages.any fun other =>
          other.name == package.name && other.version != package.version then
        .error (evidenceInvalid ("dependency inventory contains conflicting versions for " ++
          package.name))
      else .error (evidenceInvalid ("dependency inventory contains a duplicate package: " ++
        package.name))
    else .ok ⟨records.packages ++ [package], by
      rw [map_append, map_singleton, nodup_append_comm]
      exact nodup_cons.mpr ⟨known, records.distinct⟩⟩

omit [Printing] in
/-- An inventory lists its packages in the order of their names. -/
structure DependencyInventory where
  packages : List DependencyPackage
  sorted : packages.Pairwise fun first second => first.name < second.name

namespace DependencyRecords

omit [Printing] in
def inventory (records : DependencyRecords) : DependencyInventory where
  packages := records.packages.insertionSort fun first second => first.name ≤ second.name
  sorted := by
    have ordered := pairwise_insertionSort
      (fun first second : DependencyPackage => first.name ≤ second.name) records.packages
    have permuted := perm_insertionSort
      (fun first second : DependencyPackage => first.name ≤ second.name) records.packages
    have distinct := pairwise_map.mp ((permuted.map (·.name)).nodup_iff.mpr records.distinct)
    exact (ordered.and distinct).imp fun {_ _} both => lt_of_le_of_ne both.1 both.2

end DependencyRecords

def canonicalDependencyInventory (packages : List Json) : Except Raised DependencyInventory := do
  let records ← packages.foldlM
    (fun records item => readDependency item >>= recordDependency records) ⟨[], nodup_nil⟩
  return records.inventory

namespace DependencyPackage

omit [Printing] in
def json (package : DependencyPackage) : Json :=
  .obj [("name", .str package.name), ("version", .str package.version)]

omit [Printing] in
/-- The requirement of a package fixes its version. -/
def requirement (package : DependencyPackage) : List Char :=
  package.name.toList ++ ("==".toList ++ package.version.toList)

end DependencyPackage

namespace DependencyInventory

omit [Printing] in
def json (inventory : DependencyInventory) : Json :=
  .obj [("packages", .arr (inventory.packages.map (·.json))),
    ("schema_version", .str dependencyInventorySchemaVersion)]

omit [Printing] in
def lockText (inventory : DependencyInventory) : String :=
  String.ofList (inventory.packages.flatMap fun package => package.requirement ++ ['\n'])

end DependencyInventory

def dependencyLockText (inventory : Json) : Except Raised String :=
  if inventory.isObject then do
    let packages ← tuple (get inventory "packages" (.arr []))
    let canonical ← canonicalDependencyInventory packages
    require (!canonical.packages.isEmpty)
      (evidenceInvalid "production dependency inventory is empty")
    return canonical.lockText
  else .error (.other "AttributeError")

/-- A lock file is a file of its own with a text. -/
inductive LockFile where
  | missing | unreadable
  | text (letters : String)

omit [Unicode] [Printing] in
/-- A blank line and a comment have no requirement. -/
def readRequirement (raw : List Char) : Except Raised (Option Json) :=
  let line := Text.strip raw
  if line = [] ∨ line.head? = some '#' then .ok none
  else
    match Text.partition "==".toList line with
    | none => .error (evidenceInvalid "production dependency lock contains an unsupported requirement")
    | some (name, version) =>
      if Text.strip name = [] ∨ Text.strip version = [] ∨
          Text.within " @ ".toList line = true ∨ line.head? = some '-' then
        .error (evidenceInvalid "production dependency lock contains an unsupported requirement")
      else .ok (some (.obj [("name", .str (String.ofList (Text.strip name))),
        ("version", .str (String.ofList (Text.strip version)))]))

def loadDependencyLock (name : String) : LockFile → Except Raised DependencyInventory
  | .missing =>
    .error (evidenceInvalid ("production dependency lock is missing or symlinked: " ++ name))
  | .unreadable => .error (evidenceInvalid ("production dependency lock is unreadable: " ++ name))
  | .text letters => do
    let lines := Text.splitLines (Text.universalNewlines letters.toList)
    let packages ← lines.mapM readRequirement
    let inventory ← canonicalDependencyInventory packages.reduceOption
    require (!inventory.packages.isEmpty) (evidenceInvalid "production dependency lock is empty")
    return inventory

def dependencyInventoryHash [Sha256] (inventory : Json) : Except Raised String :=
  match inventory.get? "packages" with
  | some (.arr packages) => do
    let canonical ← canonicalDependencyInventory packages
    require (get inventory "schema_version" (.str dependencyInventorySchemaVersion) =
        .str dependencyInventorySchemaVersion)
      (evidenceInvalid "unsupported dependency inventory schema")
    return stableRevision canonical.json
  | _ => .error (evidenceInvalid "dependency inventory packages are missing")

variable {records start : DependencyRecords} {packages items : List Json}
variable {inventory canonical : DependencyInventory} {package : DependencyPackage}

omit [Printing] in
theorem DependencyPackage.ext {first second : DependencyPackage} (named : first.name = second.name)
    (versioned : first.version = second.version) : first = second := by
  cases first
  cases second
  cases named
  cases versioned
  rfl

omit [Printing] in
theorem DependencyInventory.ext {first second : DependencyInventory}
    (same : first.packages = second.packages) : first = second := by
  cases first
  cases second
  cases same
  rfl

omit [Printing] in
/-- A recorded package stands behind the earlier ones. -/
theorem recordDependency_ok {found : Option DependencyPackage} :
    recordDependency start found = .ok records ↔
      records.packages = start.packages ++ found.toList := by
  have same : records.packages = start.packages ↔ start = records := by
    constructor
    · intro equal
      cases start
      cases records
      cases equal
      rfl
    · intro equal
      rw [equal]
  cases found with
  | none =>
    rw [recordDependency, Except.ok.injEq, Option.toList_none, append_nil, same]
  | some package =>
    rw [recordDependency]
    split
    · rename_i known
      constructor
      · intro recorded
        split at recorded <;> cases recorded
      · intro equal
        have distinct := records.distinct
        rw [equal, map_append, nodup_append] at distinct
        exact absurd rfl (distinct.2.2 package.name known package.name (mem_singleton_self _))
    · rw [Except.ok.injEq]
      constructor
      · intro equal
        rw [← equal]
        rfl
      · intro equal
        cases records
        cases equal
        rfl

theorem foldlM_ok : packages.foldlM
      (fun records item => readDependency item >>= recordDependency records) start = .ok records ↔
    ∃ found, packages.mapM readDependency = .ok found ∧
      records.packages = start.packages ++ found.reduceOption := by
  induction packages generalizing start with
  | nil =>
    rw [foldlM_nil, pure_ok, mapM_nil]
    constructor
    · intro same
      refine ⟨[], rfl, ?_⟩
      rw [same]
      exact (append_nil _).symm
    · rintro ⟨found, read, same⟩
      cases read
      cases start
      cases records
      cases same.trans (append_nil _)
      rfl
  | cons item rest ih =>
    rw [foldlM_cons, mapM_cons]
    simp only [bind_ok, pure_ok, recordDependency_ok, ih]
    constructor
    · rintro ⟨next, ⟨first, read, step⟩, found, others, same⟩
      refine ⟨first :: found, ⟨first, read, found, others, rfl⟩, ?_⟩
      rw [same, step, append_assoc]
      cases first <;> rfl
    · rintro ⟨_, ⟨first, read, found, others, rfl⟩, same⟩
      have joined : records.packages = start.packages ++ first.toList ++ found.reduceOption := by
        rw [same, append_assoc]
        cases first <;> rfl
      have distinct := records.distinct
      rw [joined, map_append, nodup_append] at distinct
      exact ⟨⟨start.packages ++ first.toList, distinct.1⟩, ⟨first, read, rfl⟩, found, others,
        joined⟩

theorem canonicalDependencyInventory_ok :
    canonicalDependencyInventory packages = .ok inventory ↔
      ∃ found, packages.mapM readDependency = .ok found ∧
        (found.reduceOption.map (·.name)).Nodup ∧ inventory.packages =
          found.reduceOption.insertionSort fun first second => first.name ≤ second.name := by
  unfold canonicalDependencyInventory
  simp only [bind_ok, pure_ok, foldlM_ok, nil_append]
  constructor
  · rintro ⟨records, ⟨found, read, same⟩, rfl⟩
    exact ⟨found, read, same ▸ records.distinct, same ▸ rfl⟩
  · rintro ⟨found, read, distinct, same⟩
    exact ⟨⟨found.reduceOption, distinct⟩, ⟨found, read, rfl⟩, DependencyInventory.ext same.symm⟩

/-- The text of a lock can be read when its packages do not look like other lines. -/
structure DependencyPackage.Readable (package : DependencyPackage) : Prop where
  name_unbroken : ∀ letter ∈ package.name.toList, Text.isBreak letter = false
  version_unbroken : ∀ letter ∈ package.version.toList, Text.isBreak letter = false
  not_comment : package.name.toList.head? ≠ some '#'
  not_option : package.name.toList.head? ≠ some '-'
  name_not_direct : ¬ " @ ".toList <:+: package.name.toList
  version_not_direct : ¬ " @ ".toList <:+: package.version.toList
  separated : ¬ "==".toList <:+: package.name.toList ∧ package.name.toList.getLast? ≠ some '='

omit [Unicode] [Printing] in
theorem first_equals {name rest : List Char} : Text.First "==".toList name rest ↔
    ¬ "==".toList <:+: name ∧ name.getLast? ≠ some '=' := by
  have sign : "==".toList = ['=', '='] := rfl
  rw [sign]
  constructor
  · intro first
    constructor
    · rintro ⟨before, after, same⟩
      apply first (['=', '='] ++ after) (cons_ne_nil _ _)
      · rw [← same, append_assoc]
        exact suffix_append _ _
      · rw [append_assoc]
        exact prefix_append _ _
    · intro final
      obtain ⟨before, same⟩ := getLast?_eq_some_iff.mp final
      apply first ['='] (cons_ne_nil _ _)
      · rw [same]
        exact suffix_append _ _
      · exact ⟨'=' :: rest, rfl⟩
  · rintro ⟨absent, final⟩ part occupied ⟨before, same⟩ ⟨more, starts⟩
    cases part with
    | nil => exact occupied rfl
    | cons letter others =>
      have first : '=' = letter := (List.cons.inj starts).1
      cases others with
      | nil =>
        apply final
        rw [← same, ← first]
        exact getLast?_concat
      | cons next others =>
        have second : '=' = next := (List.cons.inj (List.cons.inj starts).2).1
        apply absent
        rw [← same, ← first, ← second]
        exact ⟨before, others, append_assoc _ _ _⟩

omit [Printing] in
theorem sorted_insertionSort (inventory : DependencyInventory) :
    (inventory.packages.insertionSort fun first second => first.name ≤ second.name) =
      inventory.packages :=
  (inventory.sorted.imp fun {_ _} before => le_of_lt before).insertionSort_eq

omit [Unicode] [Printing] in
theorem reduceOption_some {Item : Type} (items : List Item) :
    (items.map some).reduceOption = items := by
  show (items.map some).filterMap id = items
  rw [filterMap_map]
  exact filterMap_some

theorem readDependency_some {item : Json} : readDependency item = .ok (some package) ↔
    item.isObject = true ∧ package.name = canonicalPackageName (get item "name" .null) ∧
      package.version =
        String.ofList (Text.strip (textOrEmpty (get item "version" .null)).toList) := by
  constructor
  · intro read
    unfold readDependency at read
    split at read
    · rename_i object
      dsimp only at read
      split at read
      · cases read
      · split at read
        · cases read
        · split at read
          · cases read
          · cases read
            exact ⟨object, rfl, rfl⟩
    · cases read
  · rintro ⟨object, named, versioned⟩
    have present := package.present
    have deployed := package.deployed
    rw [named] at present deployed
    rw [versioned] at present
    unfold readDependency
    rw [if_pos object]
    dsimp only
    rw [dif_neg (not_or.mpr present), dif_neg deployed.1, dif_neg deployed.2]
    exact congrArg _ (congrArg some (DependencyPackage.ext named.symm versioned.symm))

variable [Casing]

omit [Printing] in
theorem DependencyPackage.canonicalName_name (package : DependencyPackage) :
    Text.canonicalName package.name.toList = package.name.toList := by
  obtain ⟨text, same⟩ := package.named
  rw [same, Text.canonicalName_canonicalName]

/-- A written package is read back. -/
theorem readDependency_json : readDependency package.json = .ok (some package) := by
  have named : canonicalPackageName (get package.json "name" .null) = package.name := by
    show String.ofList (Text.canonicalName (textOrEmpty (.str package.name)).toList) = _
    rw [textOrEmpty, Json.truthy_str, if_pos (bne_iff_ne.mpr package.present.1), str_str,
      package.canonicalName_name, String.ofList_toList]
  have versioned : String.ofList (Text.strip (textOrEmpty (get package.json "version" .null)).toList) =
      package.version := by
    show String.ofList (Text.strip (textOrEmpty (.str package.version)).toList) = _
    rw [textOrEmpty, Json.truthy_str, if_pos (bne_iff_ne.mpr package.present.2), str_str,
      Text.strip_of_stripped package.versioned, String.ofList_toList]
  exact readDependency_some.mpr ⟨rfl, named.symm, versioned.symm⟩

theorem canonical_json : canonicalDependencyInventory (inventory.packages.map (·.json)) =
    .ok inventory := by
  rw [canonicalDependencyInventory_ok]
  have read : (inventory.packages.map (·.json)).mapM readDependency =
      .ok (inventory.packages.map some) := by
    rw [mapM_forall, forall₂_map_left_iff, forall₂_map_right_iff, forall₂_same]
    exact fun package _ => readDependency_json
  refine ⟨_, read, ?_, ?_⟩
  · rw [reduceOption_some]
    exact pairwise_map.mpr (inventory.sorted.imp fun {_ _} before => ne_of_lt before)
  · rw [reduceOption_some, sorted_insertionSort]

namespace DependencyPackage

variable (package : DependencyPackage)

omit [Printing] in
theorem stripped_name : Text.Stripped package.name.toList := by
  obtain ⟨text, same⟩ := package.named
  rw [same]
  exact Text.stripped_canonicalName text

omit [Printing] [Casing] in
theorem occupied : package.name.toList ≠ [] ∧ package.version.toList ≠ [] := by
  rw [Ne, String.toList_eq_nil_iff, Ne, String.toList_eq_nil_iff]
  exact package.present

omit [Printing] [Casing] in
theorem head_requirement : package.requirement.head? = package.name.toList.head? :=
  head?_append_of_ne_nil _ package.occupied.1

omit [Printing] in
theorem strip_requirement : Text.strip package.requirement = package.requirement := by
  apply Text.strip_of_stripped
  constructor
  · intro letter first
    rw [package.head_requirement] at first
    exact package.stripped_name.1 letter first
  · intro letter final
    unfold requirement at final
    rw [← append_assoc, getLast?_append_of_ne_nil _ package.occupied.2] at final
    exact package.versioned.2 letter final

omit [Printing] [Casing] in
/-- The sign of a direct reference stands in the name or in the version. -/
theorem direct_requirement {package : DependencyPackage}
    (direct : " @ ".toList <:+: package.requirement) :
    " @ ".toList <:+: package.name.toList ∨ " @ ".toList <:+: package.version.toList := by
  have absent : '=' ∉ " @ ".toList := by decide
  rcases Text.infix_append_cons absent direct with name | later
  · exact Or.inl name
  · have rest : " @ ".toList <:+: [] ++ '=' :: package.version.toList := later
    rcases Text.infix_append_cons absent rest with empty | version
    · exact absurd (infix_nil.mp empty) (by decide)
    · exact Or.inr version

omit [Printing] [Casing] in
theorem requirement_ne_nil : package.requirement ≠ [] := by
  intro empty
  exact package.occupied.1 (append_eq_nil_iff.mp empty).1

omit [Printing] in
theorem Readable.readRequirement {package : DependencyPackage} (readable : package.Readable) :
    readRequirement package.requirement = .ok (some package.json) := by
  have parts : Text.partition "==".toList package.requirement =
      some (package.name.toList, package.version.toList) :=
    (Text.partition_iff (by decide)).mpr ⟨rfl, first_equals.mpr readable.separated⟩
  have plain : ¬ (package.requirement = [] ∨ package.requirement.head? = some '#') := by
    rw [package.head_requirement]
    exact not_or.mpr ⟨package.requirement_ne_nil, readable.not_comment⟩
  have direct : Text.within " @ ".toList package.requirement ≠ true := by
    rw [Ne, Text.within, decide_eq_true_eq]
    intro direct
    exact (direct_requirement direct).elim readable.name_not_direct readable.version_not_direct
  unfold KSlide.readRequirement
  dsimp only
  rw [package.strip_requirement, if_neg plain, parts]
  dsimp only
  rw [Text.strip_of_stripped package.stripped_name, Text.strip_of_stripped package.versioned,
    package.head_requirement, if_neg, String.ofList_toList, String.ofList_toList]
  · rfl
  · rintro (empty | empty | found | option)
    · exact package.occupied.1 empty
    · exact package.occupied.2 empty
    · exact direct found
    · exact readable.not_option option

omit [Printing] [Casing] in
theorem requirement_unbroken {package : DependencyPackage}
    (unbroken : (∀ letter ∈ package.name.toList, Text.isBreak letter = false) ∧
      ∀ letter ∈ package.version.toList, Text.isBreak letter = false) :
    ∀ letter ∈ package.requirement, Text.isBreak letter = false := by
  have signs : ∀ letter ∈ "==".toList, Text.isBreak letter = false :=
    Text.unbroken_of_all (by decide)
  intro letter listed
  rcases mem_append.mp listed with name | rest
  · exact unbroken.1 letter name
  · rcases mem_append.mp rest with sign | version
    · exact signs letter sign
    · exact unbroken.2 letter version

end DependencyPackage

omit [Printing] [Casing] in
theorem lines_lockText (unbroken : ∀ package ∈ inventory.packages,
    ∀ letter ∈ package.requirement, Text.isBreak letter = false) :
    Text.splitLines (Text.universalNewlines inventory.lockText.toList) =
      inventory.packages.map (·.requirement) := by
  have plain : '\r' ∉ inventory.lockText.toList := by
    unfold DependencyInventory.lockText
    rw [String.toList_ofList]
    intro listed
    obtain ⟨package, known, inside⟩ := mem_flatMap.mp listed
    rcases mem_append.mp inside with here | final
    · exact absurd (unbroken package known _ here) (by decide)
    · exact absurd (mem_singleton.mp final) (by decide)
  rw [Text.universalNewlines_of_not_mem plain, DependencyInventory.lockText, String.toList_ofList,
    Text.splitLines_flatMap unbroken]

theorem loaded_of_readable (name : String) (occupied : inventory.packages ≠ [])
    (readable : ∀ package ∈ inventory.packages, package.Readable) :
    loadDependencyLock name (.text inventory.lockText) = .ok inventory := by
  have lines := lines_lockText fun package listed =>
    DependencyPackage.requirement_unbroken
      ⟨(readable package listed).name_unbroken, (readable package listed).version_unbroken⟩
  have read : (inventory.packages.map (·.requirement)).mapM readRequirement =
      .ok (inventory.packages.map fun package => some package.json) := by
    rw [mapM_forall, forall₂_map_left_iff, forall₂_map_right_iff, forall₂_same]
    exact fun package listed => (readable package listed).readRequirement
  have kept : (inventory.packages.map fun package => some package.json).reduceOption =
      inventory.packages.map (·.json) := by
    rw [← reduceOption_some (inventory.packages.map (·.json)), map_map]
    rfl
  unfold loadDependencyLock
  simp only [bind_ok, pure_ok, require_ok]
  refine ⟨_, lines ▸ read, inventory, kept ▸ canonical_json, (), ?_, rfl⟩
  simpa using occupied

/-- A line is read as a package, or as nothing. -/
def ReadAs (line : List Char) (found : Option DependencyPackage) : Prop :=
  ∃ item, readRequirement line = .ok item ∧
    item.elim (found = none) fun value => readDependency value = .ok found

variable {line : List Char} {lines : List (List Char)} {found : Option DependencyPackage}

omit [Casing] in
theorem reads_lines {read : List (Option Json)} {results : List (Option DependencyPackage)}
    (parsed : lines.mapM readRequirement = .ok read)
    (resolved : read.reduceOption.mapM readDependency = .ok results) :
    ∃ found, List.Forall₂ ReadAs lines found ∧ found.reduceOption = results.reduceOption := by
  rw [mapM_forall] at parsed
  induction parsed generalizing results with
  | nil =>
    cases resolved
    exact ⟨[], List.Forall₂.nil, rfl⟩
  | @cons line item lines items head tail ih =>
    cases item with
    | none =>
      obtain ⟨found, related, same⟩ := ih resolved
      exact ⟨none :: found, List.Forall₂.cons ⟨none, head, rfl⟩ related, same⟩
    | some value =>
      rw [reduceOption_cons_of_some, mapM_cons] at resolved
      simp only [bind_ok, pure_ok] at resolved
      obtain ⟨result, first, others, later, rfl⟩ := resolved
      obtain ⟨found, related, same⟩ := ih later
      refine ⟨result :: found, List.Forall₂.cons ⟨some value, head, first⟩ related, ?_⟩
      cases result with
      | none => exact same
      | some package => exact congrArg (package :: ·) same

omit [Unicode] [Printing] [Casing] in
/-- A requirement is read from the two sides of its first separator. -/
theorem readRequirement_some {item : Json} (read : readRequirement line = .ok (some item)) :
    ∃ name version, Text.partition "==".toList (Text.strip line) = some (name, version) ∧
      (Text.strip line).head? ≠ some '#' ∧ (Text.strip line).head? ≠ some '-' ∧
      ¬ " @ ".toList <:+: Text.strip line ∧
      Text.strip name ≠ [] ∧ Text.strip version ≠ [] ∧
      item = .obj [("name", .str (String.ofList (Text.strip name))),
        ("version", .str (String.ofList (Text.strip version)))] := by
  unfold readRequirement at read
  dsimp only at read
  split at read
  · cases read
  · rename_i plain
    split at read
    · cases read
    · rename_i name version parts
      split at read
      · cases read
      · rename_i accepted
        cases read
        simp only [not_or, Text.within, decide_eq_true_eq] at plain accepted
        exact ⟨name, version, parts, plain.2, accepted.2.2.2, accepted.2.2.1, accepted.1,
          accepted.2.1, rfl⟩

omit [Unicode] [Casing] in
theorem textOrEmpty_str (text : String) : textOrEmpty (.str text) = text := by
  unfold textOrEmpty
  rw [Json.truthy_str, str_str]
  split
  · rfl
  · rename_i empty
    have same : text = "" := by simpa using empty
    exact same.symm

omit [Casing] in
theorem reads_some (reads : ReadAs line (some package)) :
    ∃ name version, Text.partition "==".toList (Text.strip line) = some (name, version) ∧
      (Text.strip line).head? ≠ some '#' ∧ (Text.strip line).head? ≠ some '-' ∧
      ¬ " @ ".toList <:+: Text.strip line ∧
      package.name.toList = Text.canonicalName name ∧
      package.version.toList = Text.strip version := by
  obtain ⟨item, read, resolved⟩ := reads
  cases item with
  | none => cases resolved
  | some value =>
    obtain ⟨name, version, parts, comment, option, direct, -, -, same⟩ :=
      readRequirement_some read
    obtain ⟨-, named, versioned⟩ := readDependency_some.mp resolved
    refine ⟨name, version, parts, comment, option, direct, ?_, ?_⟩
    · rw [named, same]
      show (String.ofList (Text.canonicalName (textOrEmpty (.str _)).toList)).toList = _
      rw [textOrEmpty_str, String.toList_ofList, String.toList_ofList, Text.canonicalName,
        Text.strip_strip]
      rfl
    · rw [versioned, same]
      show (String.ofList (Text.strip (textOrEmpty (.str _)).toList)).toList = _
      rw [textOrEmpty_str, String.toList_ofList, String.toList_ofList, Text.strip_strip]

omit [Unicode] [Printing] [Casing] in
/-- The part before the first sign has fewer signs, or it is the whole name. -/
theorem partition_count {name version first more : List Char}
    (parts : Text.partition "==".toList (name ++ ("==".toList ++ version)) = some (first, more)) :
    first.count '=' ≤ name.count '=' ∧ (first.count '=' = name.count '=' → first = name) := by
  have occupied : "==".toList ≠ [] := by decide
  obtain ⟨found, others, parts', begins⟩ := Text.partition_some occupied name version
  rw [parts, Option.some.injEq, Prod.mk.injEq] at parts'
  rw [← parts'.1] at begins
  obtain ⟨lost, same⟩ := begins
  have shape := ((Text.partition_iff occupied).mp parts).1
  rw [← same, append_assoc, append_cancel_left_eq] at shape
  rw [← same, count_append]
  refine ⟨Nat.le_add_right _ _, fun equal => ?_⟩
  cases lost with
  | nil => exact (append_nil first).symm
  | cons letter lost =>
    have sign : letter = '=' := (List.cons.inj shape).1
    rw [sign, count_cons_self] at equal
    omega

omit [Unicode] [Printing] [Casing] in
theorem isPlain_of_isBreak {letter : Char} (broken : Text.isBreak letter = true) :
    Text.isPlain letter = true ∧ Text.isSeparator letter = false := by
  constructor
  · have space : Text.isSpace letter = true := by
      simp only [Text.isBreak, Text.isSpace, Bool.or_eq_true, Bool.and_eq_true, decide_eq_true_eq,
        beq_iff_eq] at broken ⊢
      omega
    rw [Text.isPlain, space, Bool.true_or]
  · by_contra separator
    simp only [Text.isSeparator, Bool.not_eq_false, Bool.or_eq_true, beq_iff_eq] at separator
    rcases separator with (same | same) | same <;> rw [same] at broken <;>
      exact absurd broken (by decide)

theorem reads_unbroken (reads : ReadAs line (some package))
    (unbroken : ∀ letter ∈ line, Text.isBreak letter = false) :
    (∀ letter ∈ package.name.toList, Text.isBreak letter = false) ∧
      ∀ letter ∈ package.version.toList, Text.isBreak letter = false := by
  obtain ⟨name, version, parts, -, -, -, named, versioned⟩ := reads_some reads
  have shape := ((Text.partition_iff (by decide)).mp parts).1
  have inside {letter : Char} (listed : letter ∈ Text.strip line) : Text.isBreak letter = false :=
    unbroken letter ((Text.strip_within line).subset listed)
  rw [shape] at inside
  constructor
  · intro letter listed
    by_contra broken
    rw [Bool.not_eq_false] at broken
    obtain ⟨plain, other⟩ := isPlain_of_isBreak broken
    rw [named, ← count_pos_iff] at listed
    have kept := count_pos_iff.mp (listed.trans_le (Text.count_canonicalName plain other))
    rw [inside (mem_append_left _ kept)] at broken
    cases broken
  · intro letter listed
    rw [versioned] at listed
    have kept := (Text.strip_within version).subset listed
    exact inside (mem_append_right _ (mem_append_right _ kept))

/-- The weight of a package counts the signs of its name. -/
def weight (found : Option DependencyPackage) : Nat :=
  found.elim 0 fun package => package.name.toList.count '=' + 1

theorem reads_requirement (reads : ReadAs package.requirement found)
    (unbroken : (∀ letter ∈ package.name.toList, Text.isBreak letter = false) ∧
      ∀ letter ∈ package.version.toList, Text.isBreak letter = false) :
    weight found ≤ weight (some package) ∧
      (weight found = weight (some package) → package.Readable) := by
  have full : weight (some package) = package.name.toList.count '=' + 1 := rfl
  cases found with
  | none =>
    have empty : weight none = 0 := rfl
    omega
  | some other =>
    obtain ⟨name, version, parts, comment, option, direct, named, versioned⟩ := reads_some reads
    rw [package.strip_requirement] at parts comment option direct
    rw [package.head_requirement] at comment option
    have fewer : weight (some other) ≤ name.count '=' + 1 := by
      show other.name.toList.count '=' + 1 ≤ _
      rw [named]
      exact Nat.add_le_add_right (Text.count_canonicalName (by decide) (by decide)) 1
    obtain ⟨below, whole⟩ := partition_count parts
    refine ⟨by omega, fun equal => ?_⟩
    have same : name = package.name.toList := whole (by omega)
    rw [same] at parts
    have first := ((Text.partition_iff (by decide)).mp parts).2
    constructor
    · exact unbroken.1
    · exact unbroken.2
    · exact comment
    · exact option
    · exact fun found => direct (found.trans (prefix_append _ _).isInfix)
    · exact fun found => direct (found.trans
        (((suffix_append _ _).trans (suffix_append _ _)).isInfix))
    · exact first_equals.mp first

omit [Casing] [Printing] in
theorem weight_reduceOption (results : List (Option DependencyPackage)) :
    (results.map weight).sum =
      (results.reduceOption.map fun package => weight (some package)).sum := by
  induction results with
  | nil => rfl
  | cons result rest ih =>
    cases result with
    | none =>
      rw [reduceOption_cons_of_none, ← ih, map_cons, sum_cons]
      exact Nat.zero_add _
    | some package =>
      rw [reduceOption_cons_of_some, map_cons, sum_cons, ih, map_cons,
        sum_cons]

/-- Requirements that keep their weight together are all readable. -/
theorem readable_of_weight {packages : List DependencyPackage}
    {results : List (Option DependencyPackage)}
    (related : List.Forall₂ (fun package found => ReadAs package.requirement found) packages results)
    (unbroken : ∀ package ∈ packages,
      (∀ letter ∈ package.name.toList, Text.isBreak letter = false) ∧
        ∀ letter ∈ package.version.toList, Text.isBreak letter = false) :
    (results.map weight).sum ≤ (packages.map fun package => weight (some package)).sum ∧
      ((results.map weight).sum = (packages.map fun package => weight (some package)).sum →
        ∀ package ∈ packages, package.Readable) := by
  induction related with
  | nil => exact ⟨le_refl _, fun _ _ listed => by cases listed⟩
  | @cons package result packages results head tail ih =>
    rw [forall_mem_cons] at unbroken
    obtain ⟨below, readable⟩ := reads_requirement head unbroken.1
    obtain ⟨others, rest⟩ := ih unbroken.2
    rw [map_cons, map_cons, sum_cons, sum_cons, forall_mem_cons]
    exact ⟨by omega, fun equal => ⟨readable (by omega), rest (by omega)⟩⟩

theorem readable_of_loaded {name : String}
    (loaded : loadDependencyLock name (.text inventory.lockText) = .ok inventory) :
    ∀ package ∈ inventory.packages, package.Readable := by
  unfold loadDependencyLock at loaded
  simp only [bind_ok, pure_ok, require_ok] at loaded
  obtain ⟨items, parsed, canonical, built, _, -, same⟩ := loaded
  rw [same] at built
  obtain ⟨found, read, -, sorted⟩ := canonicalDependencyInventory_ok.mp built
  obtain ⟨results, related, kept⟩ := reads_lines parsed read
  have permuted : inventory.packages.Perm results.reduceOption := by
    rw [sorted, kept]
    exact perm_insertionSort _ _
  have unbroken : ∀ package ∈ inventory.packages,
      (∀ letter ∈ package.name.toList, Text.isBreak letter = false) ∧
        ∀ letter ∈ package.version.toList, Text.isBreak letter = false := by
    intro package listed
    rw [permuted.mem_iff, reduceOption_mem_iff] at listed
    obtain ⟨line, known, reads⟩ := related_item related listed
    exact reads_unbroken reads (Text.splitLines_unbroken _ line known)
  have lines := @lines_lockText _ inventory fun package listed =>
    DependencyPackage.requirement_unbroken (unbroken package listed)
  rw [lines, forall₂_map_left_iff] at related
  apply (readable_of_weight related unbroken).2
  rw [weight_reduceOption]
  exact (permuted.map fun package => weight (some package)).sum_nat.symm

/-- An accepted inventory has a canonical form and a lock. -/
structure Locks (inventory : Json) (canonical : DependencyInventory) (text : String) : Prop where
  built : (tuple (get inventory "packages" (.arr [])) >>= canonicalDependencyInventory) =
    .ok canonical
  written : dependencyLockText inventory = .ok text

/-- The locks of the inventories are read back, and different inventories have different locks. -/
structure LockCodec [Sha256] (inventories : Set Json) : Prop where
  loaded : ∀ inventory ∈ inventories, ∀ canonical text name, Locks inventory canonical text →
    loadDependencyLock name (.text text) = .ok canonical
  hashed : ∀ inventory ∈ inventories, ∀ canonical text, Locks inventory canonical text →
    get inventory "schema_version" (.str dependencyInventorySchemaVersion) =
        .str dependencyInventorySchemaVersion →
      dependencyInventoryHash inventory = dependencyInventoryHash canonical.json
  distinct : ∀ first ∈ inventories, ∀ second ∈ inventories, ∀ canonical other text,
    Locks first canonical text → Locks second other text → canonical = other

variable {value : Json} {text : String}

omit [Casing] in
theorem Locks.lockText (locks : Locks value canonical text) :
    text = canonical.lockText ∧ canonical.packages ≠ [] := by
  have written := locks.written
  unfold dependencyLockText at written
  split at written
  · simp only [bind_ok, pure_ok, require_ok] at written
    obtain ⟨packages, listed, other, built, _, occupied, same⟩ := written
    have equal := locks.built
    rw [listed] at equal
    have both : other = canonical := Except.ok.inj (built.symm.trans equal)
    rw [← both]
    exact ⟨same.symm, by simpa using occupied⟩
  · cases written

omit [Casing] in
theorem canonical_objects (plain : ∀ item ∈ items, item.isObject = false)
    (built : canonicalDependencyInventory items = .ok canonical) : canonical.packages = [] := by
  obtain ⟨found, read, -, sorted⟩ := canonicalDependencyInventory_ok.mp built
  cases items with
  | nil =>
    cases read
    exact sorted
  | cons first rest =>
    rw [mapM_cons] at read
    simp only [bind_ok] at read
    obtain ⟨_, item, -⟩ := read
    rw [readDependency, plain first mem_cons_self] at item
    cases item

omit [Casing] in
theorem Locks.listed (locks : Locks value canonical text) :
    ∃ packages, value.get? "packages" = some (.arr packages) ∧
      canonicalDependencyInventory packages = .ok canonical := by
  obtain ⟨-, occupied⟩ := locks.lockText
  obtain ⟨items, read, built⟩ := bind_ok.mp locks.built
  unfold Python.get at read
  cases known : value.get? "packages" with
  | none =>
    rw [known] at read
    cases read
    exact absurd (canonical_objects (by simp) built) occupied
  | some found =>
    rw [known, Option.getD_some] at read
    cases found with
    | arr packages =>
      cases read
      exact ⟨items, rfl, built⟩
    | str letters =>
      cases read
      refine absurd (canonical_objects ?_ built) occupied
      intro item inside
      obtain ⟨letter, -, same⟩ := mem_map.mp inside
      exact same ▸ rfl
    | obj fields =>
      cases read
      refine absurd (canonical_objects ?_ built) occupied
      intro item inside
      obtain ⟨field, -, same⟩ := mem_map.mp inside
      exact same ▸ rfl
    | _ => cases read

theorem Locks.hash [Sha256] (locks : Locks value canonical text)
    (supported : get value "schema_version" (.str dependencyInventorySchemaVersion) =
      .str dependencyInventorySchemaVersion) :
    dependencyInventoryHash value = dependencyInventoryHash canonical.json := by
  obtain ⟨packages, listed, built⟩ := locks.listed
  have first : dependencyInventoryHash value = .ok (stableRevision canonical.json) := by
    simp [dependencyInventoryHash, listed, built, supported, require, bind, Except.bind, pure,
      Except.pure]
  have second : dependencyInventoryHash canonical.json = .ok (stableRevision canonical.json) := by
    show (canonicalDependencyInventory (canonical.packages.map (·.json)) >>= _) = _
    rw [canonical_json]
    rfl
  rw [first, second]

/-- The locks of inventories are a codec exactly when their packages are readable. -/
theorem dependencyLock_codec [Sha256] (inventories : Set Json) : LockCodec inventories ↔
    ∀ inventory ∈ inventories, ∀ canonical text, Locks inventory canonical text →
      ∀ package ∈ canonical.packages, package.Readable := by
  constructor
  · intro codec inventory listed canonical text locks
    have loaded := codec.loaded inventory listed canonical text "" locks
    rw [locks.lockText.1] at loaded
    exact readable_of_loaded loaded
  · intro readable
    have loaded : ∀ inventory ∈ inventories, ∀ canonical text name,
        Locks inventory canonical text →
          loadDependencyLock name (.text text) = .ok canonical := by
      intro inventory listed canonical text name locks
      obtain ⟨same, occupied⟩ := locks.lockText
      rw [same]
      exact loaded_of_readable name occupied (readable inventory listed canonical text locks)
    constructor
    · exact loaded
    · intro inventory listed canonical text locks supported
      exact locks.hash supported
    · intro first here second there canonical other text locks locks'
      have one := loaded first here canonical text "" locks
      rw [loaded second there other text "" locks'] at one
      exact (Except.ok.inj one).symm

/-- A written inventory is accepted. -/
theorem locks_json (occupied : inventory.packages ≠ []) :
    Locks inventory.json inventory inventory.lockText := by
  have built : (tuple (get inventory.json "packages" (.arr [])) >>= canonicalDependencyInventory) =
      .ok inventory := by
    show canonicalDependencyInventory (inventory.packages.map (·.json)) = _
    exact canonical_json
  refine ⟨built, ?_⟩
  obtain ⟨packages, listed, accepted⟩ := bind_ok.mp built
  have object : inventory.json.isObject = true := rfl
  unfold dependencyLockText
  rw [if_pos object]
  simp only [bind_ok, pure_ok, require_ok]
  exact ⟨packages, listed, inventory, accepted, (), by simpa using occupied, rfl⟩

end

section
attribute [local instance] Unicode.basic Sha256.polynomial Text.casing_basic

/-- This text stands for every printed list and object. -/
@[reducible] def Python.Printing.blank : Python.Printing where
  text _ := ""

attribute [local instance] Python.Printing.blank

/-- A name with a leading separator gets a leading hyphen. -/
def hyphenPackage : DependencyPackage where
  name := "-core"
  version := "1.0"
  named := ⟨"_Core".toList, by decide⟩
  versioned := Text.stripped_strip "1.0".toList
  present := by decide
  deployed := by decide

def hyphenInventory : DependencyInventory where
  packages := [hyphenPackage]
  sorted := pairwise_singleton _ _

/-- The lock of the inventory has a line that looks like an option. -/
theorem hyphen_lost : ¬ ∀ inventories : Set Json, LockCodec inventories := by
  intro claimed
  have locks := @locks_json _ _ hyphenInventory _ (cons_ne_nil _ _)
  have loaded := (claimed {hyphenInventory.json}).loaded _ rfl _ _ "" locks
  exact (readable_of_loaded loaded hyphenPackage (mem_singleton_self _)).not_option (by decide)

def pillowPackage : DependencyPackage where
  name := "pillow"
  version := "10.4.0"
  named := ⟨"Pillow".toList, by decide⟩
  versioned := Text.stripped_strip "10.4.0".toList
  present := by decide
  deployed := by decide

def pillowInventory : DependencyInventory where
  packages := [pillowPackage]
  sorted := pairwise_singleton _ _

theorem pillow_readable : pillowPackage.Readable where
  name_unbroken := Text.unbroken_of_all (by decide)
  version_unbroken := Text.unbroken_of_all (by decide)
  not_comment := by decide
  not_option := by decide
  name_not_direct := by decide
  version_not_direct := by decide
  separated := by decide

/-- The inventory with one readable package has a lock that is read back. -/
theorem pillow_codec : LockCodec {pillowInventory.json} := by
  apply (dependencyLock_codec {pillowInventory.json}).mpr
  intro inventory same canonical text locks package listed
  have known := @locks_json _ _ pillowInventory _ (cons_ne_nil _ _)
  rw [Set.mem_singleton_iff.mp same] at locks
  have equal : canonical = pillowInventory := Except.ok.inj (locks.built.symm.trans known.built)
  rw [equal] at listed
  rw [mem_singleton.mp listed]
  exact pillow_readable

end
end KSlide
