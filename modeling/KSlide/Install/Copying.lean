import KSlide.Install.Installer

/-
This file proves when the files of a source tree all go to their places in the target.
-/

namespace KSlide.Install
open Interleaving Program List

/-- The parts of a path are read back from its key. -/
theorem key_injective {first second : Path} (legal : Legal first) (legal' : Legal second)
    (occupied : first ≠ []) (occupied' : second ≠ []) (same : key first = key second) :
    first = second := by
  have parts {path : Path} (legal : Legal path) (occupied : path ≠ []) :
      (key path).toList.splitOn '/' = path.map String.toList := by
    rw [key, String.toList_intercalate]
    apply splitOn_intercalate
    · intro part listed
      obtain ⟨name, known, rfl⟩ := mem_map.mp listed
      exact legal name known
    · simpa using occupied
  have equal : first.map String.toList = second.map String.toList := by
    rw [← parts legal occupied, ← parts legal' occupied', same]
  exact map_injective_iff.mpr (fun _ _ => String.toList_inj.mp) equal

theorem decode_encode (text : List Char) : decode (encode text) = some (String.ofList text) := by
  have bytes : ByteArray.mk (encode text).toArray = (String.ofList text).toByteArray := by
    rw [encode, Array.toArray_toList]
    rfl
  rw [decode, bytes, String.fromUTF8?, dif_pos (String.ofList text).isValidUTF8]
  rfl

theorem readable_files (files : Recorded) :
    Json.ReadableFields (files.map fun entry => (entry.1, .str entry.2)) := by
  induction files with
  | nil => trivial
  | cons entry files ih => exact ⟨trivial, ih⟩

/-- The installer reads the manifest that it wrote. -/
theorem loadManifest_text (path : String) (tree : SourceRoot) (scope : String)
    (files : Recorded) :
    loadManifest path (some (.file (manifestText tree scope files))) =
      .ok (manifest tree scope files).sorted := by
  have readable : (manifest tree scope files).Readable :=
    ⟨trivial, trivial, trivial, trivial, trivial, readable_files files, trivial, trivial⟩
  have object : (manifest tree scope files).sorted.isObject = true := rfl
  simp only [loadManifest, manifestText, decode_encode, Option.bind_some, String.toList_ofList,
    Json.loads_indented readable, object, if_true]

theorem lookup_texts (files : Recorded) (name : String) :
    (files.map fun entry => (entry.1, Json.str entry.2)).lookup name =
      (files.lookup name).map Json.str := by
  induction files with
  | nil => rfl
  | cons entry files ih =>
    rw [map_cons, Json.lookup_entry, ih]
    obtain ⟨first, value⟩ := entry
    rw [lookup_cons]
    by_cases same : name = first
    · simp [same]
    · simp [same, beq_eq_false_iff_ne.mpr same]

theorem lookup_printed [Python.Printing] (fields : List (String × Json)) (name : String) :
    (fields.map fun entry => (entry.1, Python.str entry.2)).lookup name =
      (fields.lookup name).map Python.str := by
  induction fields with
  | nil => rfl
  | cons entry fields ih =>
    rw [map_cons, lookup_cons, ih]
    obtain ⟨first, value⟩ := entry
    rw [lookup_cons]
    cases name == first <;> rfl

/-- The recorded hashes are read back from the manifest. -/
theorem lookup_recorded [Python.Printing] (tree : SourceRoot) (scope : String) {files : Recorded}
    (distinct : (files.map Prod.fst).Nodup) (name : String) :
    (recorded (manifest tree scope files).sorted).lookup name = files.lookup name := by
  have fields : (manifest tree scope files).sorted.get? "files" =
      some (Json.obj (files.map fun entry => (entry.1, .str entry.2))).sorted := by
    rw [manifest, Json.get?_sorted (by simp only [map_cons, map_nil]; decide)]
    rfl
  have names : ((files.map fun entry => (entry.1, Json.str entry.2)).map Prod.fst).Nodup := by
    rw [map_map]
    exact distinct
  have stored := Json.get?_sorted names name
  rw [Json.sorted, Json.collect, Json.get?, lookup_texts] at stored
  rw [recorded, Python.get, fields, Option.getD_some, Json.sorted, Json.collect]
  show List.lookup name (List.map _ _) = _
  rw [lookup_printed, stored]
  cases files.lookup name <;> rfl

section

variable {files : Recorded}

theorem mem_setItem {name value : String} {entry : String × String}
    (listed : entry ∈ setItem files name value) : entry = (name, value) ∨ entry ∈ files := by
  unfold setItem at listed
  split_ifs at listed with known
  · obtain ⟨found, member, rfl⟩ := mem_map.mp listed
    split_ifs with same
    · exact Or.inl rfl
    · exact Or.inr member
  · rcases mem_append.mp listed with member | added
    · exact Or.inr member
    · exact Or.inl (mem_singleton.mp added)

theorem keys_setItem (files : Recorded) (name value : String) :
    (setItem files name value).map Prod.fst =
      if (files.lookup name).isSome then files.map Prod.fst else files.map Prod.fst ++ [name] := by
  unfold setItem
  split_ifs with known
  · rw [map_map]
    apply map_congr_left
    intro entry listed
    by_cases same : entry.1 = name
    · simp [same]
    · simp [same]
  · simp

theorem lookup_isSome {name : String} :
    (files.lookup name).isSome = true ↔ name ∈ files.map Prod.fst := by
  rw [Option.isSome_iff_ne_none, ne_eq, lookup_eq_none_iff]
  simp only [not_forall, mem_map, bne_iff_ne, ne_eq, not_not]
  constructor
  · rintro ⟨entry, listed, same⟩
    exact ⟨entry, listed, same.symm⟩
  · rintro ⟨entry, listed, same⟩
    exact ⟨entry, listed, same.symm⟩

theorem nodup_setItem (distinct : (files.map Prod.fst).Nodup)
    (name value : String) : ((setItem files name value).map Prod.fst).Nodup := by
  rw [keys_setItem]
  split_ifs with known
  · exact distinct
  · rw [lookup_isSome] at known
    apply nodup_append.mpr
    refine ⟨distinct, nodup_singleton name, ?_⟩
    intro first listed other added same
    rw [mem_singleton.mp added] at same
    exact known (same ▸ listed)

theorem mem_keys_setItem {name value other : String} :
    other ∈ (setItem files name value).map Prod.fst ↔
      other = name ∨ other ∈ files.map Prod.fst := by
  rw [keys_setItem]
  split_ifs with known
  · rw [lookup_isSome] at known
    constructor
    · exact Or.inr
    · rintro (rfl | listed)
      · exact known
      · exact listed
  · simp [or_comm]

end

section
variable [FileHash]

/-- The files of a manifest are the copies that were made. -/
structure Listing (copies : List Copy) (files : Recorded) : Prop where
  distinct : (files.map Prod.fst).Nodup
  sound : ∀ entry ∈ files, ∃ copy ∈ copies, entry = (copy.key, FileHash.sha copy.content)
  whole : ∀ copy ∈ copies, copy.key ∈ files.map Prod.fst

theorem listing_nil : Listing [] [] := ⟨nodup_nil, nofun, nofun⟩

theorem Listing.setItem {copies : List Copy} {files : Recorded} (listing : Listing copies files)
    (copy : Copy) : Listing (copies ++ [copy])
      (Install.setItem files copy.key (FileHash.sha copy.content)) where
  distinct := nodup_setItem listing.distinct ..
  sound := by
    intro entry listed
    rcases mem_setItem listed with rfl | old
    · exact ⟨copy, by simp, rfl⟩
    · obtain ⟨made, known, same⟩ := listing.sound entry old
      exact ⟨made, mem_append_left _ known, same⟩
  whole := by
    intro made listed
    rw [mem_keys_setItem]
    rcases mem_append.mp listed with old | new
    · exact Or.inr (listing.whole made old)
    · exact Or.inl (congrArg Copy.key (mem_singleton.mp new))

/-- The files of one place join the files of the earlier places. -/
theorem Listing.update {first second : List Copy} {files added : Recorded}
    (listing : Listing first files) (more : Listing second added) :
    Listing (first ++ second) (Install.update files added) := by
  have kept (added : Recorded) : ∀ files : Recorded, (files.map Prod.fst).Nodup →
      ((Install.update files added).map Prod.fst).Nodup ∧
      (∀ entry ∈ Install.update files added, entry ∈ files ∨ entry ∈ added) ∧
      ∀ name, name ∈ (Install.update files added).map Prod.fst ↔
        name ∈ files.map Prod.fst ∨ name ∈ added.map Prod.fst := by
    induction added with
    | nil =>
      intro files distinct
      simp [Install.update, distinct]
    | cons entry added ih =>
      intro files distinct
      obtain ⟨names, sound, whole⟩ := ih (Install.setItem files entry.1 entry.2)
        (nodup_setItem distinct ..)
      refine ⟨names, fun found listed => ?_, fun name => ?_⟩
      · rcases sound found listed with old | new
        · rcases mem_setItem old with same | older
          · exact Or.inr (same ▸ mem_cons_self)
          · exact Or.inl older
        · exact Or.inr (mem_cons_of_mem _ new)
      · have step := whole name
        rw [mem_keys_setItem] at step
        rw [map_cons, mem_cons]
        exact step.trans (by tauto)
  obtain ⟨names, sound, whole⟩ := kept added files listing.distinct
  refine ⟨names, fun entry listed => ?_, fun copy listed => ?_⟩
  · rcases sound entry listed with old | new
    · obtain ⟨made, known, same⟩ := listing.sound entry old
      exact ⟨made, mem_append_left _ known, same⟩
    · obtain ⟨made, known, same⟩ := more.sound entry new
      exact ⟨made, mem_append_right _ known, same⟩
  · rw [whole]
    rcases mem_append.mp listed with old | new
    · exact Or.inl (listing.whole copy old)
    · exact Or.inr (more.whole copy new)

end

/-- These parts of a source tree are single files. -/
def SourceRoot.singles : List Path :=
  [[".opencode", "package.json"], ["constraints-production.txt"], ["pyproject.toml"]]

instance (path : Path) : Decidable (Legal path) :=
  inferInstanceAs (Decidable (∀ part ∈ path, '/' ∉ part.toList))

theorem lawful_path : LawfulBEq Path := inferInstance

attribute [local instance] lawful_path

/-- Every file of a place lies at its location. -/
def location (place : Path × Path) : Path :=
  if place.1 ∈ SourceRoot.singles then place.2 ++ place.1.drop (place.1.length - 1) else place.2

/-- The locations of two places do not lie in each other. -/
theorem locations_apart (scope : String) : ∀ first ∈ places scope, ∀ second ∈ places scope,
    location first <+: location second → first = second := by
  cases project : scope == "project" with
  | true =>
    simp only [places, opencodeRoot, engineRoot, project]
    decide +kernel
  | false =>
    simp only [places, opencodeRoot, engineRoot, project]
    decide +kernel

/-- No location is part of the paths that the installer keeps for itself. -/
theorem locations_free (scope : String) : ∀ place ∈ places scope,
    ∀ path ∈ manifestPath scope :: workFolders scope,
      ¬ path <+: location place ∧ ¬ location place <+: path := by
  cases project : scope == "project" with
  | true =>
    simp only [places, opencodeRoot, engineRoot, manifestPath, workFolders, project]
    decide +kernel
  | false =>
    simp only [places, opencodeRoot, engineRoot, manifestPath, workFolders, project]
    decide +kernel

theorem places_legal (scope : String) :
    Legal (legacyPath scope) ∧ ∀ place ∈ places scope, place.1 ≠ [] ∧ Legal place.2 := by
  cases project : scope == "project" with
  | true =>
    simp only [places, legacyPath, opencodeRoot, engineRoot, project]
    decide +kernel
  | false =>
    simp only [places, legacyPath, opencodeRoot, engineRoot, project]
    decide +kernel

theorem legacyPath_ne_nil (scope : String) : legacyPath scope ≠ [] := by
  simp [legacyPath]

namespace SourceRoot
variable {tree : SourceRoot} {scope : String} {source : Path}

def allCopies (tree : SourceRoot) (scope : String) : List Copy :=
  (places scope).flatMap tree.copies

/-- No folder stands at the place of a single file. -/
def Ordinary (tree : SourceRoot) : Prop :=
  ∀ source ∈ singles, tree.isFolder source = false

theorem same_node {path : Path} {first second : Node} (listed : (path, first) ∈ tree.entries)
    (also : (path, second) ∈ tree.entries) : first = second := by
  have found := Json.lookup_of_mem tree.distinct listed
  rw [Json.lookup_of_mem tree.distinct also] at found
  exact (Option.some.inj found).symm

theorem above_folder {first second : Path × Node} (listed : first ∈ tree.entries)
    (also : second ∈ tree.entries) (occupied : first.1 ≠ []) (above : first.1 <+: second.1) :
    first = second ∨ first.2 = .folder := by
  by_cases same : first.1 = second.1
  · have node : (first.1, second.2) ∈ tree.entries := same ▸ also
    exact Or.inl (Prod.ext same (tree.same_node listed node))
  · exact Or.inr (tree.same_node listed (tree.closed second also first.1 above same occupied))

/-- A file of a place is the place itself or lies below it. -/
theorem mem_files {relative : Path} {content : List UInt8}
    (listed : (relative, content) ∈ tree.files source) :
    ((source, .file content) ∈ tree.entries ∧ relative = source.drop (source.length - 1)) ∨
      (relative ≠ [] ∧ (source ++ relative, .file content) ∈ tree.entries) := by
  have below (inside : (relative, content) ∈ tree.entries.filterMap (below source)) :
      relative ≠ [] ∧ (source ++ relative, .file content) ∈ tree.entries := by
    obtain ⟨entry, known, found⟩ := mem_filterMap.mp inside
    obtain ⟨path, node⟩ := entry
    cases node with
    | folder => cases found
    | file stored =>
      simp only [SourceRoot.below] at found
      split_ifs at found with within
      rw [Bool.and_eq_true, List.isPrefixOf_iff_prefix, bne_iff_ne] at within
      obtain ⟨⟨rest, rfl⟩, apart⟩ := within
      rw [drop_left] at found
      cases found
      exact ⟨fun empty => apart (by rw [empty, append_nil]), known⟩
  unfold files at listed
  cases found : tree.entries.lookup source with
  | none =>
    rw [found, mem_insertionSort] at listed
    exact Or.inr (below listed)
  | some node =>
    cases node with
    | file stored =>
      rw [found] at listed
      cases mem_singleton.mp listed
      exact Or.inl ⟨Json.mem_of_lookup found, rfl⟩
    | folder =>
      rw [found, mem_insertionSort] at listed
      exact Or.inr (below listed)

theorem mem_copies {place : Path × Path} {copy : Copy} (listed : copy ∈ tree.copies place) :
    ∃ relative, (relative, copy.content) ∈ tree.files place.1 ∧
      copy.destination = place.2 ++ relative := by
  obtain ⟨file, known, rfl⟩ := mem_map.mp listed
  exact ⟨file.1, known, rfl⟩

theorem legal_part {first second : Path} (legal : Legal second) (inside : ∀ part ∈ first,
    part ∈ second) : Legal first := fun part listed => legal part (inside part listed)

theorem files_legal {relative : Path} {content : List UInt8} (occupied : source ≠ [])
    (listed : (relative, content) ∈ tree.files source) : relative ≠ [] ∧ Legal relative := by
  rcases tree.mem_files listed with ⟨known, rfl⟩ | ⟨filled, known⟩
  · have long := length_pos_iff.mpr occupied
    have some : source.drop (source.length - 1) ≠ [] := by
      rw [ne_eq, drop_eq_nil_iff]
      omega
    exact ⟨some, legal_part (tree.legal _ known) fun part inside => mem_of_mem_drop inside⟩
  · exact ⟨filled, legal_part (tree.legal _ known) fun part inside =>
      mem_append_right _ inside⟩

theorem allCopies_legal {copy : Copy} (listed : copy ∈ tree.allCopies scope) :
    copy.destination ≠ [] ∧ Legal copy.destination := by
  obtain ⟨place, known, inside⟩ := mem_flatMap.mp listed
  obtain ⟨relative, file, same⟩ := mem_copies inside
  obtain ⟨occupied, legal⟩ := (places_legal scope).2 place known
  obtain ⟨filled, parts⟩ := files_legal occupied file
  rw [same]
  refine ⟨by simp [filled], fun part listed => ?_⟩
  rcases mem_append.mp listed with outer | inner
  · exact legal part outer
  · exact parts part inner

/-- Nothing lies below a file of a place. -/
theorem file_alone (occupied : source ≠ []) {content : List UInt8} {relative : Path} {node : Node}
    (file : (source, .file content) ∈ tree.entries) (filled : relative ≠ []) :
    (source ++ relative, node) ∉ tree.entries := by
  intro below
  have folder := tree.closed _ below source (prefix_append ..) (by simpa using filled.symm)
    occupied
  cases tree.same_node file folder

theorem files_apart (occupied : source ≠ []) {first second : Path} {content other : List UInt8}
    (listed : (first, content) ∈ tree.files source) (also : (second, other) ∈ tree.files source)
    (above : first <+: second) : first = second ∧ content = other := by
  rcases tree.mem_files listed with ⟨root, short⟩ | ⟨filled, low⟩
  · rcases tree.mem_files also with ⟨root', short'⟩ | ⟨filled', low'⟩
    · have node := tree.same_node root root'
      rw [Node.file.injEq] at node
      exact ⟨short.trans short'.symm, node⟩
    · exact absurd low' (tree.file_alone occupied root filled')
  · rcases tree.mem_files also with ⟨root', short'⟩ | ⟨filled', low'⟩
    · exact absurd low (tree.file_alone occupied root' filled)
    · have outer : source ++ first <+: source ++ second :=
        (prefix_append_right_inj _).mpr above
      rcases tree.above_folder low low' (by simp [filled]) outer with same | folder
      · rw [Prod.mk.injEq, Node.file.injEq] at same
        exact ⟨append_cancel_left same.1, same.2⟩
      · cases folder

theorem location_prefix (ordinary : tree.Ordinary) {place : Path × Path} {copy : Copy}
    (occupied : place.1 ≠ []) (listed : copy ∈ tree.copies place) :
    location place <+: copy.destination := by
  obtain ⟨relative, file, same⟩ := mem_copies listed
  rw [same, location]
  split_ifs with single
  · rcases tree.mem_files file with ⟨_, rfl⟩ | ⟨filled, known⟩
    · exact prefix_rfl
    · have folder := tree.closed _ known place.1 (prefix_append ..)
        (by simpa using filled.symm) occupied
      have found := Json.lookup_of_mem tree.distinct folder
      have absent := ordinary place.1 single
      simp [isFolder, found] at absent
  · exact prefix_append ..

/-- No file of a release lies at the path of another or below it. -/
theorem copies_apart (ordinary : tree.Ordinary) {first second : Copy}
    (listed : first ∈ tree.allCopies scope) (also : second ∈ tree.allCopies scope)
    (above : first.destination <+: second.destination) : first = second := by
  obtain ⟨place, known, inside⟩ := mem_flatMap.mp listed
  obtain ⟨other, known', inside'⟩ := mem_flatMap.mp also
  have here := location_prefix ordinary ((places_legal scope).2 place known).1 inside
  have there := location_prefix ordinary ((places_legal scope).2 other known').1 inside'
  have equal : place = other := by
    rcases prefix_or_prefix_of_prefix (here.trans above) there with low | high
    · exact locations_apart scope place known other known' low
    · exact (locations_apart scope other known' place known high).symm
  subst equal
  obtain ⟨relative, file, same⟩ := mem_copies inside
  obtain ⟨relative', file', same'⟩ := mem_copies inside'
  rw [same, same', prefix_append_right_inj] at above
  obtain ⟨paths, contents⟩ := files_apart ((places_legal scope).2 place known).1 file file' above
  cases first
  cases second
  simp_all

theorem copies_free (ordinary : tree.Ordinary) {copy : Copy}
    (listed : copy ∈ tree.allCopies scope) {path : Path}
    (reserved : path ∈ manifestPath scope :: workFolders scope) : ¬ path <+: copy.destination := by
  intro above
  obtain ⟨place, known, inside⟩ := mem_flatMap.mp listed
  have here := location_prefix ordinary ((places_legal scope).2 place known).1 inside
  obtain ⟨low, high⟩ := locations_free scope place known path reserved
  rcases prefix_or_prefix_of_prefix above here with first | second
  · exact low first
  · exact high second

theorem key_copies (ordinary : tree.Ordinary) {first second : Copy}
    (listed : first ∈ tree.allCopies scope) (also : second ∈ tree.allCopies scope)
    (same : first.key = second.key) : first = second := by
  obtain ⟨filled, legal⟩ := allCopies_legal listed
  obtain ⟨filled', legal'⟩ := allCopies_legal also
  have equal := key_injective legal legal' filled filled' same
  exact copies_apart ordinary listed also (equal ▸ prefix_rfl)

end SourceRoot

section
variable {target : Target} {copy : Copy} {copies : List Copy}

/-- The folders of the file are there, and the file itself if it is needed. -/
def placed (target : Target) (copy : Copy) (needed : Bool) : Target :=
  let opened := target.opened copy.destination.dropLast
  if needed then opened.put copy.destination (.file copy.content) else opened

theorem prefix_dropLast {path folder : Path} (inside : folder <+: path.dropLast) :
    folder <+: path :=
  inside.trans (List.dropLast_prefix path)

theorem not_prefix_dropLast {path : Path} (occupied : path ≠ []) : ¬ path <+: path.dropLast := by
  intro inside
  have short := inside.length_le
  have long := length_pos_iff.mpr occupied
  rw [length_dropLast] at short
  omega

theorem opened_apart {path folder : Path} (apart : ¬ folder <+: path) :
    target.opened path folder = target folder := by
  rw [Target.opened, Target.grown, if_neg]
  rw [mem_inits]
  exact fun made => apart made.1

/-- A path that is neither the file nor above it keeps its node. -/
theorem placed_apart {path : Path} {needed : Bool} (apart : ¬ path <+: copy.destination) :
    placed target copy needed path = target path := by
  have opened : target.opened copy.destination.dropLast path = target path :=
    opened_apart fun inside => apart (prefix_dropLast inside)
  have other : path ≠ copy.destination := fun same => apart (same ▸ prefix_rfl)
  cases needed with
  | true => exact (Function.update_of_ne other ..).trans opened
  | false => exact opened

/-- No folder comes to be a file, unless the file goes there. -/
theorem placed_file {path : Path} {needed : Bool} {content : List UInt8}
    (other : path ≠ copy.destination) :
    placed target copy needed path = some (.file content) ↔ target path = some (.file content) := by
  cases needed with
  | true =>
    show Function.update _ copy.destination _ path = _ ↔ _
    rw [Function.update_of_ne other]
    exact grown_file
  | false => exact grown_file

theorem run_copyIf (needed : Bool) : (copyIf copy needed).run target = (.ok (),
    if needed then target.put copy.destination (.file copy.content) else target) := by
  cases needed with
  | true => exact run_copy2 _
  | false => rfl

/-- The files of the list do not lie in each other. -/
def Apart (copies : List Copy) : Prop :=
  ∀ first ∈ copies, ∀ second ∈ copies, first.destination <+: second.destination → first = second

theorem Apart.tail {copy : Copy} (apart : Apart (copy :: copies)) : Apart copies :=
  fun first listed second also =>
    apart first (mem_cons_of_mem _ listed) second (mem_cons_of_mem _ also)

theorem Apart.head {copy other : Copy} (apart : Apart (copy :: copies)) (listed : other ∈ copies)
    (different : other ≠ copy) :
    ¬ copy.destination <+: other.destination ∧ ¬ other.destination <+: copy.destination := by
  have late := mem_cons_of_mem copy listed
  constructor
  · intro inside
    exact different (apart copy mem_cons_self other late inside).symm
  · intro inside
    exact different (apart other late copy mem_cons_self inside)

end

section
variable [FileHash] {previous installed files : Recorded} {target after : Target} {copy : Copy}
  {copies : List Copy}

/-- A file is replaced only when the manifest records the hash that it has. -/
def Replaceable (previous : Recorded) (copy : Copy) : Option Node → Prop
  | none => True
  | some .folder => False
  | some (.file found) => found = copy.content ∨ (FileHash.sha found ≠ FileHash.sha copy.content ∧
      previous.lookup copy.key = some (FileHash.sha found))

/-- Nothing stands in the way of a file of the source tree. -/
structure Fits (previous : Recorded) (target : Target) (copy : Copy) : Prop where
  parents : Free target copy.destination.dropLast
  place : Replaceable previous copy (target copy.destination)

theorem replaces_ok {node : Option Node} {needed : Bool} :
    replaces previous copy node = .ok needed ↔
      (needed = true ∧ (node = none ∨ ∃ found, node = some (.file found) ∧
        FileHash.sha found ≠ FileHash.sha copy.content ∧
        previous.lookup copy.key = some (FileHash.sha found))) ∨
      (needed = false ∧ ∃ found, node = some (.file found) ∧
        FileHash.sha found = FileHash.sha copy.content) := by
  cases node with
  | none => simp [replaces, eq_comm]
  | some node =>
    cases node with
    | folder => simp [replaces]
    | file found =>
      simp only [replaces]
      split_ifs with same
      · simp [same, eq_comm]
      · cases known : previous.lookup copy.key with
        | none => simp [same]
        | some hash =>
          by_cases owned : FileHash.sha found = hash
          · rw [owned] at same
            simp [same, owned, eq_comm]
          · have other : hash ≠ FileHash.sha found := fun equal => owned equal.symm
            simp [same, owned, other]

/-- One step of the loop succeeds when the folders can be made and the file may be replaced. -/
theorem run_copyFile (occupied : copy.destination ≠ []) :
    (copyFile previous installed copy).run target = (.ok files, after) ↔
      Free target copy.destination.dropLast ∧ ∃ needed,
        replaces previous copy (target copy.destination) = .ok needed ∧
        after = placed target copy needed ∧
        files = setItem installed copy.key (FileHash.sha copy.content) := by
  have seen : target.opened copy.destination.dropLast copy.destination = target copy.destination :=
    opened_apart (not_prefix_dropLast occupied)
  rw [copyFile, run_bind_value]
  constructor
  · rintro ⟨_, between, made, rest⟩
    obtain ⟨free, rfl⟩ := run_mkdir.mp made
    rw [run_bind, run_look] at rest
    obtain ⟨needed, _, decided, rest⟩ := run_bind_value.mp rest
    rw [run_lift, Prod.mk.injEq, seen] at decided
    obtain ⟨allowed, rfl⟩ := decided
    rw [run_bind, run_copyIf] at rest
    cases rest
    exact ⟨free, needed, allowed, rfl, rfl⟩
  · rintro ⟨free, needed, allowed, rfl, rfl⟩
    refine ⟨(), _, run_mkdir.mpr ⟨free, rfl⟩, ?_⟩
    rw [run_bind, run_look, seen]
    show Program.run (Program.lift (replaces previous copy _) >>= _) _ = _
    rw [allowed, run_bind, run_lift]
    show Program.run (copyIf copy needed >>= _) _ = _
    rw [run_bind, run_copyIf]
    rfl

/-- The files of the list go to the target one after the other. -/
def Copied (previous : Recorded) : List Copy → Target → Target → Prop
  | [], target, after => after = target
  | copy :: copies, target, after => Free target copy.destination.dropLast ∧
      ∃ needed, replaces previous copy (target copy.destination) = .ok needed ∧
        Copied previous copies (placed target copy needed) after

theorem copied_append {first second : List Copy} : Copied previous (first ++ second) target after ↔
    ∃ between, Copied previous first target between ∧ Copied previous second between after := by
  induction first generalizing target with
  | nil => simp [Copied]
  | cons copy first ih =>
    simp only [cons_append, Copied, ih]
    constructor
    · rintro ⟨free, needed, allowed, between, left, right⟩
      exact ⟨between, ⟨free, needed, allowed, left⟩, right⟩
    · rintro ⟨between, ⟨free, needed, allowed, left⟩, right⟩
      exact ⟨free, needed, allowed, between, left, right⟩

def recordAll (installed : Recorded) (copies : List Copy) : Recorded :=
  copies.foldl (fun files copy => setItem files copy.key (FileHash.sha copy.content)) installed

theorem run_copies (occupied : ∀ copy ∈ copies, copy.destination ≠ []) :
    (copies.foldlM (copyFile previous) installed).run target = (.ok files, after) ↔
      Copied previous copies target after ∧ files = recordAll installed copies := by
  induction copies generalizing target installed with
  | nil =>
    show ((Except.ok installed, target) : Except Raised Recorded × Target) =
      (.ok files, after) ↔ _
    simp [Copied, recordAll, eq_comm, and_comm]
  | cons copy copies ih =>
    obtain ⟨here, later⟩ := forall_mem_cons.mp occupied
    rw [foldlM_cons, run_bind_value]
    constructor
    · rintro ⟨middle, between, made, rest⟩
      obtain ⟨free, needed, allowed, rfl, rfl⟩ := (run_copyFile here).mp made
      obtain ⟨copied, same⟩ := (ih later).mp rest
      exact ⟨⟨free, needed, allowed, copied⟩, same⟩
    · rintro ⟨⟨free, needed, allowed, copied⟩, same⟩
      exact ⟨_, _, (run_copyFile here).mpr ⟨free, needed, allowed, rfl, rfl⟩,
        (ih later).mpr ⟨copied, same⟩⟩

/-- The files of the manifest are collected place by place. -/
def recordPlaces (tree : SourceRoot) (files : Recorded) (places : List (Path × Path)) : Recorded :=
  places.foldl (fun files place => update files (recordAll [] (tree.copies place))) files

variable {tree : SourceRoot} {places : List (Path × Path)} {before : List Copy} {begun : Recorded}

theorem run_copyPlaces
    (occupied : ∀ place ∈ places, ∀ copy ∈ tree.copies place, copy.destination ≠ []) :
    (places.foldlM (copyPlace tree previous) begun).run target = (.ok files, after) ↔
      Copied previous (places.flatMap tree.copies) target after ∧
        files = recordPlaces tree begun places := by
  induction places generalizing target begun with
  | nil =>
    show ((Except.ok begun, target) : Except Raised Recorded × Target) = (.ok files, after) ↔ _
    simp [Copied, recordPlaces, eq_comm, and_comm]
  | cons place places ih =>
    obtain ⟨here, later⟩ := forall_mem_cons.mp occupied
    rw [foldlM_cons, run_bind_value, flatMap_cons, copied_append]
    constructor
    · rintro ⟨middle, between, made, rest⟩
      rw [copyPlace, run_bind_value] at made
      obtain ⟨found, left, inner, ended⟩ := made
      cases ended
      obtain ⟨copied, rfl⟩ := (run_copies here).mp inner
      obtain ⟨others, same⟩ := (ih later).mp rest
      exact ⟨⟨_, copied, others⟩, same⟩
    · rintro ⟨⟨between, copied, others⟩, same⟩
      refine ⟨update begun (recordAll [] (tree.copies place)), between, ?_,
        (ih later).mpr ⟨others, same⟩⟩
      rw [copyPlace, run_bind_value]
      exact ⟨_, _, (run_copies here).mpr ⟨copied, rfl⟩, rfl⟩

theorem listing_recordAll (listing : Listing before installed) :
    Listing (before ++ copies) (recordAll installed copies) := by
  induction copies generalizing before installed with
  | nil =>
    rw [append_nil]
    exact listing
  | cons copy copies ih =>
    have later := ih (listing.setItem copy)
    rwa [append_assoc] at later

theorem listing_recordPlaces (listing : Listing before begun) :
    Listing (before ++ places.flatMap tree.copies) (recordPlaces tree begun places) := by
  induction places generalizing before begun with
  | nil =>
    rw [flatMap_nil, append_nil]
    exact listing
  | cons place places ih =>
    have inner : Listing (tree.copies place) (recordAll [] (tree.copies place)) :=
      listing_recordAll listing_nil
    have later := ih (listing.update inner)
    rwa [append_assoc] at later

end

section
variable [FileHash] {previous : Recorded} {target after : Target} {copies : List Copy}

/-- One file does not change what the others find. -/
theorem fits_step {copy other : Copy} {needed : Bool}
    (below : ¬ copy.destination <+: other.destination)
    (above : ¬ other.destination <+: copy.destination) :
    Fits previous (placed target copy needed) other ↔ Fits previous target other := by
  have seen : placed target copy needed other.destination = target other.destination :=
    placed_apart above
  have parents : Free (placed target copy needed) other.destination.dropLast ↔
      Free target other.destination.dropLast := by
    apply forall_congr'
    intro folder
    apply forall_congr'
    intro inside
    apply forall_congr'
    intro content
    have apart : folder ≠ copy.destination := fun same => below (same ▸ prefix_dropLast inside)
    exact not_congr (placed_file apart)
  constructor
  · intro fits
    exact ⟨parents.mp fits.parents, seen ▸ fits.place⟩
  · intro fits
    exact ⟨parents.mpr fits.parents, seen ▸ fits.place⟩

theorem replaces_fits {copy : Copy} (place : Replaceable previous copy (target copy.destination)) :
    ∃ needed, replaces previous copy (target copy.destination) = .ok needed ∧
      placed target copy needed copy.destination = some (.file copy.content) := by
  have written : placed target copy true copy.destination = some (.file copy.content) :=
    Function.update_self ..
  cases found : target copy.destination with
  | none => exact ⟨true, rfl, written⟩
  | some node =>
    rw [found] at place
    cases node with
    | folder => exact place.elim
    | file content =>
      by_cases same : FileHash.sha content = FileHash.sha copy.content
      · rcases place with rfl | ⟨other, _⟩
        · exact ⟨false, if_pos same, grown_file.mpr found⟩
        · exact absurd same other
      · refine ⟨true, ?_, written⟩
        rcases place with rfl | ⟨other, known⟩
        · exact absurd rfl same
        · exact replaces_ok.mpr (Or.inl ⟨rfl, Or.inr ⟨content, rfl, other, known⟩⟩)

theorem fits_placed {copy : Copy} {needed : Bool} (free : Free target copy.destination.dropLast)
    (occupied : copy.destination ≠ [])
    (written : placed target copy needed copy.destination = some (.file copy.content)) :
    Fits previous (placed target copy needed) copy := by
  constructor
  · intro folder inside content found
    have apart : folder ≠ copy.destination :=
      fun same => not_prefix_dropLast occupied (same ▸ inside)
    exact free folder inside content ((placed_file apart).mp found)
  · rw [written]
    exact Or.inl rfl

theorem copied_apart {path : Path} (copied : Copied previous copies target after)
    (apart : ∀ copy ∈ copies, ¬ path <+: copy.destination) : after path = target path := by
  induction copies generalizing target with
  | nil => exact congrFun copied path
  | cons copy copies ih =>
    obtain ⟨_, needed, _, later⟩ := copied
    obtain ⟨here, others⟩ := forall_mem_cons.mp apart
    rw [ih later others, placed_apart here]

/-- A path that no file goes to keeps its file, and no file comes to be there. -/
theorem copied_file {path : Path} {content : List UInt8}
    (copied : Copied previous copies target after)
    (apart : ∀ copy ∈ copies, path ≠ copy.destination) :
    after path = some (.file content) ↔ target path = some (.file content) := by
  induction copies generalizing target with
  | nil =>
    have same : after = target := copied
    rw [same]
  | cons copy copies ih =>
    obtain ⟨_, needed, _, later⟩ := copied
    obtain ⟨here, others⟩ := forall_mem_cons.mp apart
    exact (ih later others).trans (placed_file here)

/-- When every file fits, each of them is in place at the end. -/
theorem copied_of_fits (apart : Apart copies) (occupied : ∀ copy ∈ copies, copy.destination ≠ [])
    (fits : ∀ copy ∈ copies, Fits previous target copy) :
    ∃ after, Copied previous copies target after ∧
      ∀ copy ∈ copies, after copy.destination = some (.file copy.content) := by
  induction copies generalizing target with
  | nil => exact ⟨target, rfl, nofun⟩
  | cons copy copies ih =>
    obtain ⟨here, rest⟩ := forall_mem_cons.mp fits
    obtain ⟨filled, others⟩ := forall_mem_cons.mp occupied
    obtain ⟨needed, allowed, written⟩ := replaces_fits here.place
    have later : ∀ other ∈ copies, Fits previous (placed target copy needed) other := by
      intro other listed
      by_cases same : other = copy
      · rw [same]
        exact fits_placed here.parents filled written
      · obtain ⟨below, above⟩ := apart.head listed same
        exact (fits_step below above).mpr (rest other listed)
    obtain ⟨after, copied, inPlace⟩ := ih apart.tail others later
    refine ⟨after, ⟨here.parents, needed, allowed, copied⟩, ?_⟩
    rw [forall_mem_cons]
    refine ⟨?_, inPlace⟩
    by_cases again : copy ∈ copies
    · exact inPlace copy again
    · rw [copied_apart copied, written]
      intro other listed inside
      have same := apart copy mem_cons_self other (mem_cons_of_mem _ listed) inside
      exact again (same ▸ listed)

/-- When each file is in place at the end, every one of them fitted. -/
theorem fits_of_copied (apart : Apart copies) (copied : Copied previous copies target after)
    (inPlace : ∀ copy ∈ copies, after copy.destination = some (.file copy.content)) :
    ∀ copy ∈ copies, Fits previous target copy := by
  induction copies generalizing target with
  | nil => nofun
  | cons copy copies ih =>
    obtain ⟨free, needed, allowed, later⟩ := copied
    obtain ⟨written, rest⟩ := forall_mem_cons.mp inPlace
    have fitted := ih apart.tail later rest
    have head : Fits previous target copy := by
      refine ⟨free, ?_⟩
      rcases replaces_ok.mp allowed with ⟨rfl, missing | ⟨found, here, known⟩⟩ |
        ⟨rfl, found, here, same⟩
      · rw [missing]
        trivial
      · rw [here]
        exact Or.inr known
      · rw [here]
        have kept : placed target copy false copy.destination = some (.file found) :=
          grown_file.mpr here
        by_cases again : copy ∈ copies
        · have place := (fitted copy again).place
          rwa [kept] at place
        · have ended : after copy.destination = some (.file found) := by
            rw [copied_apart later, kept]
            intro other listed inside
            have equal := apart copy mem_cons_self other
              (mem_cons_of_mem _ listed) inside
            exact again (equal ▸ listed)
          rw [written] at ended
          cases ended
          exact Or.inl rfl
    rw [forall_mem_cons]
    refine ⟨head, fun other listed => ?_⟩
    by_cases same : other = copy
    · exact same ▸ head
    · obtain ⟨below, above⟩ := apart.head listed same
      exact (fits_step below above).mp (fitted other listed)

end

end KSlide.Install
