import KSlide.Install.Copying

/-
This file proves when an upgrade succeeds and that no install destroys a file of somebody else.
-/

namespace KSlide.Install
open Interleaving Program List

section
variable {path : Path} {target after : Target}

variable (scope : String) {folders : List Path}

theorem free_grown : Free (target.grown folders) path ↔ Free target path := by
  apply forall_congr'
  intro folder
  apply forall_congr'
  intro inside
  apply forall_congr'
  intro content
  exact not_congr grown_file

theorem not_prefix_nil (occupied : path ≠ []) : ¬ path <+: [] := by
  rw [prefix_nil]
  exact occupied

theorem run_mkdirs :
    (folders.foldlM (fun _ folder => mkdir folder) () : Installation Unit).run target =
      (.ok (), after) ↔
      (∀ folder ∈ folders, Free target folder) ∧ after = folders.foldl Target.opened target := by
  induction folders generalizing target with
  | nil =>
    show ((Except.ok (), target) : Except Raised Unit × Target) = (.ok (), after) ↔ _
    simp [eq_comm]
  | cons first folders ih =>
    rw [foldlM_cons, run_bind_value, forall_mem_cons, foldl_cons]
    constructor
    · rintro ⟨_, between, made, rest⟩
      obtain ⟨here, rfl⟩ := run_mkdir.mp made
      obtain ⟨later, same⟩ := ih.mp rest
      exact ⟨⟨here, fun folder listed => free_grown.mp (later folder listed)⟩, same⟩
    · rintro ⟨⟨here, later⟩, same⟩
      exact ⟨(), _, run_mkdir.mpr ⟨here, rfl⟩,
        ih.mpr ⟨fun folder listed => free_grown.mpr (later folder listed), same⟩⟩

theorem openedAll_file {content : List UInt8} :
    folders.foldl Target.opened target path = some (.file content) ↔
      target path = some (.file content) := by
  induction folders generalizing target with
  | nil => rfl
  | cons first folders ih => exact ih.trans grown_file

theorem openedAll_apart (apart : ∀ folder ∈ folders, ¬ path <+: folder) :
    folders.foldl Target.opened target path = target path := by
  induction folders generalizing target with
  | nil => rfl
  | cons first folders ih =>
    obtain ⟨here, later⟩ := forall_mem_cons.mp apart
    exact (ih later).trans (opened_apart here)

theorem free_openedAll : Free (folders.foldl Target.opened target) path ↔ Free target path := by
  induction folders generalizing target with
  | nil => rfl
  | cons first folders ih => exact ih.trans free_grown

theorem run_atomicWrite (occupied : path ≠ []) {content : List UInt8} :
    (atomicWrite path content).run target = (.ok (), after) ↔
      Free target path.dropLast ∧ target path ≠ some .folder ∧
        after = (target.opened path.dropLast).put path (.file content) := by
  have seen : target.opened path.dropLast path = target path :=
    opened_apart (not_prefix_dropLast occupied)
  rw [atomicWrite, run_bind_value]
  simp only [run_transact]
  constructor
  · rintro ⟨_, between, made, rest⟩
    obtain ⟨free, rfl⟩ := run_mkdir.mp made
    rw [seen] at rest
    cases found : target path with
    | none =>
      rw [found] at rest
      cases rest
      exact ⟨free, nofun, rfl⟩
    | some node =>
      cases node with
      | folder =>
        rw [found] at rest
        cases rest
      | file old =>
        rw [found] at rest
        cases rest
        exact ⟨free, nofun, rfl⟩
  · rintro ⟨free, other, rfl⟩
    refine ⟨(), _, run_mkdir.mpr ⟨free, rfl⟩, ?_⟩
    rw [seen]
    cases found : target path with
    | none => rfl
    | some node =>
      cases node with
      | folder => exact absurd found other
      | file old => rfl

theorem loadManifest_ok {place : String} {node : Option Node} {manifest : Json} :
    loadManifest place node = .ok manifest ↔ loadManifest "" node = .ok manifest := by
  cases node with
  | none => rfl
  | some node =>
    cases node with
    | folder => rfl
    | file content =>
      simp only [loadManifest]
      cases (decode content).bind fun text => Json.loads text.toList with
      | none => simp
      | some value => rfl

theorem manifestPath_ne_nil : manifestPath scope ≠ [] := by
  simp [manifestPath]

theorem legacyPath_apart : manifestPath scope ≠ legacyPath scope ∧
    ∀ folder ∈ workFolders scope, folder ≠ legacyPath scope ∧ manifestPath scope ≠ folder ∧
      ∃ name, folder = [name] := by
  cases project : scope == "project" with
  | true => simp [manifestPath, legacyPath, workFolders, opencodeRoot, project]
  | false => simp [manifestPath, legacyPath, workFolders, opencodeRoot, project]

theorem free_work (target : Target) {scope : String} {folder : Path}
    (work : folder ∈ workFolders scope) :
    Free target folder ↔ Free target [] ∧ ∀ content, target folder ≠ some (.file content) := by
  obtain ⟨_, _, name, rfl⟩ := (legacyPath_apart scope).2 folder work
  simp only [Free, prefix_nil, forall_eq, prefix_cons_iff]
  constructor
  · intro free
    exact ⟨free [] (Or.inl rfl), free [name] (Or.inr ⟨[], rfl, rfl⟩)⟩
  · rintro ⟨top, here⟩ path (rfl | ⟨rest, rfl, rfl⟩)
    · exact top
    · exact here

theorem worked_manifest : (workFolders scope).foldl Target.opened target
    (manifestPath scope) = target (manifestPath scope) := by
  apply openedAll_apart
  intro folder listed inside
  obtain ⟨_, other, name, rfl⟩ := (legacyPath_apart scope).2 folder listed
  rcases prefix_cons_iff.mp inside with empty | ⟨rest, same, nothing⟩
  · exact manifestPath_ne_nil scope empty
  · rw [prefix_nil.mp nothing] at same
    exact other same

/-- The folders of the employee come after the files, and the manifest comes last. -/
def ended (scope : String) (between : Target) (text : List UInt8) : Target :=
  (((workFolders scope).foldl Target.opened between).opened (manifestPath scope).dropLast).put
    (manifestPath scope) (.file text)

theorem ended_manifest (between : Target) (text : List UInt8) :
    ended scope between text (manifestPath scope) = some (.file text) := Function.update_self ..

theorem ended_file {scope : String} {between : Target} {text content : List UInt8} {path : Path}
    (apart : path ≠ manifestPath scope) :
    ended scope between text path = some (.file content) ↔ between path = some (.file content) := by
  show Function.update _ (manifestPath scope) _ path = _ ↔ _
  rw [Function.update_of_ne apart]
  exact grown_file.trans openedAll_file

end

section
variable [FileHash] {previous : Recorded} {path : Path} {target after : Target}

/-- A legacy file that the manifest records still has its recorded content. -/
def Removable (path : Path) (previous : Recorded) (target : Target) : Prop :=
  ∀ expected, previous.lookup (key path) = some expected →
    target path = none ∨ ∃ content, target path = some (.file content) ∧
      FileHash.sha content = expected

def Target.cleared (target : Target) (path : Path) (previous : Recorded) : Target :=
  if (previous.lookup (key path)).isSome then target.remove path else target

omit [FileHash] in
theorem cleared_apart {other : Path} (apart : other ≠ path) :
    target.cleared path previous other = target other := by
  unfold Target.cleared
  split_ifs with known
  · exact Function.update_of_ne apart ..
  · rfl

theorem run_removeLegacy : (removeLegacyOwnedFile path previous).run target = (.ok (), after) ↔
    Removable path previous target ∧ after = target.cleared path previous := by
  unfold removeLegacyOwnedFile Removable Target.cleared
  cases known : previous.lookup (key path) with
  | none => simp [eq_comm]
  | some expected =>
    simp only [run_transact, Option.some.injEq, forall_eq', Option.isSome_some, if_true]
    cases found : target path with
    | none =>
      have same : target.remove path = target := by
        rw [Target.remove, ← found, Function.update_eq_self]
      simp [unlinkLegacy, found, same, eq_comm]
    | some node =>
      cases node with
      | folder => simp [unlinkLegacy, found]
      | file content =>
        by_cases same : FileHash.sha content = expected
        · simp [unlinkLegacy, found, same, eq_comm]
        · simp [unlinkLegacy, found, same]

end

section
variable [FileHash] [Python.Printing] {root scope : String} {tree : SourceRoot}
  {target after : Target}

/-- The files that the manifest on the target records. -/
def previousFiles (scope : String) (target : Target) : Recorded :=
  match loadManifest "" (target (manifestPath scope)) with
  | .ok manifest => recorded manifest
  | .error _ => []

/-- The copying starts when the legacy file is gone. -/
def begun (scope : String) (target : Target) : Target :=
  (target.opened []).cleared (legacyPath scope) (previousFiles scope target)

/-- Nothing on the target stops the install: the manifest is readable, and every file of the
source tree finds no file, its own content or the content that the manifest records. -/
structure Ready (scope : String) (tree : SourceRoot) (target : Target) : Prop where
  known : ["project", "global"].elem scope = true
  complete : tree.complete = true
  rooted : Free target []
  readable : ∃ manifest, loadManifest "" (target (manifestPath scope)) = .ok manifest
  removable : Removable (legacyPath scope) (previousFiles scope target) target
  fits : ∀ copy ∈ tree.allCopies scope, Fits (previousFiles scope target) (begun scope target) copy
  work : ∀ folder ∈ workFolders scope, Free target folder
  manifest : target (manifestPath scope) ≠ some .folder

omit [FileHash] in
theorem begun_apart {path : Path} (occupied : path ≠ []) (apart : path ≠ legacyPath scope) :
    begun scope target path = target path :=
  (cleared_apart apart).trans (opened_apart (not_prefix_nil occupied))

theorem run_install {path : Path} : (install root tree scope).run target = (.ok path, after) ↔
    ["project", "global"].elem scope = true ∧ tree.complete = true ∧ Free target [] ∧
    (∃ manifest, loadManifest "" (target (manifestPath scope)) = .ok manifest) ∧
    Removable (legacyPath scope) (previousFiles scope target) target ∧
    ∃ between, Copied (previousFiles scope target) (tree.allCopies scope) (begun scope target)
        between ∧
      (∀ folder ∈ workFolders scope, Free between folder) ∧
      Free between (manifestPath scope).dropLast ∧
      between (manifestPath scope) ≠ some .folder ∧ path = manifestPath scope ∧
      after = ended scope between
        (manifestText tree scope (recordPlaces tree [] (places scope))) := by
  have seen : target.opened [] (manifestPath scope) = target (manifestPath scope) :=
    opened_apart (not_prefix_nil (manifestPath_ne_nil scope))
  have legacy (previous : Recorded) : Removable (legacyPath scope) previous (target.opened []) ↔
      Removable (legacyPath scope) previous target := by
    rw [Removable, opened_apart (not_prefix_nil (legacyPath_ne_nil scope)), Removable]
  have occupied : ∀ place ∈ places scope, ∀ copy ∈ tree.copies place, copy.destination ≠ [] :=
    fun place known copy listed =>
      (SourceRoot.allCopies_legal (mem_flatMap.mpr ⟨place, known, listed⟩)).1
  rw [install]
  simp only [run_bind_value, run_lift, run_look, Prod.mk.injEq, require_ok]
  constructor
  · rintro ⟨_, _, ⟨known, rfl⟩, _, _, ⟨complete, rfl⟩, _, _, opened, _, _, ⟨⟨rfl⟩, rfl⟩,
      manifest, _, ⟨loaded, rfl⟩, _, _, cleared, files, between, copied, _, _, made, _, _, written,
      finished⟩
    obtain ⟨rooted, rfl⟩ := run_mkdir.mp opened
    rw [seen, loadManifest_ok] at loaded
    have previous : recorded manifest = previousFiles scope target := by
      rw [previousFiles, loaded]
    rw [previous, run_removeLegacy, legacy] at cleared
    obtain ⟨removable, rfl⟩ := cleared
    rw [previous, run_copyPlaces occupied] at copied
    obtain ⟨copied, rfl⟩ := copied
    obtain ⟨work, rfl⟩ := run_mkdirs.mp made
    obtain ⟨free, other, rfl⟩ := (run_atomicWrite (manifestPath_ne_nil scope)).mp written
    cases finished
    rw [worked_manifest] at other
    exact ⟨known, complete, rooted, ⟨manifest, loaded⟩, removable, between, copied, work,
      free_openedAll.mp free, other, rfl, rfl⟩
  · rintro ⟨known, complete, rooted, ⟨manifest, loaded⟩, removable, between, copied, work, free,
      other, rfl, rfl⟩
    have previous : recorded manifest = previousFiles scope target := by
      rw [previousFiles, loaded]
    have cleared : (removeLegacyOwnedFile (legacyPath scope) (recorded manifest)).run
        (target.opened []) = (.ok (), begun scope target) := by
      rw [previous]
      exact run_removeLegacy.mpr ⟨(legacy _).mpr removable, rfl⟩
    have placed : ((places scope).foldlM (copyPlace tree (recorded manifest)) []).run
        (begun scope target) = (.ok (recordPlaces tree [] (places scope)), between) := by
      rw [previous]
      exact (run_copyPlaces occupied).mpr ⟨copied, rfl⟩
    have written (text : List UInt8) : (atomicWrite (manifestPath scope) text).run
        ((workFolders scope).foldl Target.opened between) = (.ok (), ended scope between text) := by
      refine (run_atomicWrite (manifestPath_ne_nil scope)).mpr ⟨free_openedAll.mpr free, ?_, rfl⟩
      rw [worked_manifest]
      exact other
    exact ⟨(), _, ⟨known, rfl⟩, (), _, ⟨complete, rfl⟩, (), _, run_mkdir.mpr ⟨rooted, rfl⟩, _, _,
      ⟨rfl, rfl⟩, manifest, _, ⟨loadManifest_ok.mpr (seen.symm ▸ loaded), rfl⟩, (), _, cleared, _,
      between, placed, (), _, run_mkdirs.mpr ⟨work, rfl⟩, (), _, written _, rfl⟩

/-- An install succeeds when it ends, every file is in place, and the manifest lists all of them. -/
structure Installed (root scope : String) (tree : SourceRoot) (target : Target) : Prop where
  finished : ((install root tree scope).run target).1 = .ok (manifestPath scope)
  inPlace : ∀ copy ∈ tree.allCopies scope,
    ((install root tree scope).run target).2 copy.destination = some (.file copy.content)
  listed : ∀ copy ∈ tree.allCopies scope,
    (previousFiles scope ((install root tree scope).run target).2).lookup copy.key =
      some (FileHash.sha copy.content)

omit [FileHash] in
/-- The manifest of an ended install is read back. -/
theorem previousFiles_ended (between : Target) {files : Recorded}
    (distinct : (files.map Prod.fst).Nodup) (name : String) :
    (previousFiles scope (ended scope between (manifestText tree scope files))).lookup name =
      files.lookup name := by
  rw [previousFiles, ended_manifest, loadManifest_text]
  exact lookup_recorded tree scope distinct name

omit [Python.Printing] in
theorem listing_places (tree : SourceRoot) (scope : String) :
    Listing (tree.allCopies scope) (recordPlaces tree [] (places scope)) := by
  have listing : Listing ([] ++ (places scope).flatMap tree.copies)
      (recordPlaces tree [] (places scope)) := listing_recordPlaces listing_nil
  exact listing

section
variable (ordinary : tree.Ordinary)
include ordinary

omit [FileHash] [Python.Printing] in
theorem allCopies_apart : Apart (tree.allCopies scope) := fun _ listed _ also inside =>
  SourceRoot.copies_apart ordinary listed also inside

omit [FileHash] [Python.Printing] in
theorem destination_ne_manifest {copy : Copy} (listed : copy ∈ tree.allCopies scope) :
    copy.destination ≠ manifestPath scope := by
  intro same
  exact SourceRoot.copies_free ordinary listed mem_cons_self (same ▸ prefix_rfl)

theorem copied_reserved {between : Target} {path : Path}
    (copied : Copied (previousFiles scope target) (tree.allCopies scope) (begun scope target)
      between)
    (reserved : path ∈ manifestPath scope :: workFolders scope) : between path = target path := by
  have free : ∀ copy ∈ tree.allCopies scope, ¬ path <+: copy.destination :=
    fun copy listed => SourceRoot.copies_free ordinary listed reserved
  have other : path ≠ [] ∧ path ≠ legacyPath scope := by
    rcases mem_cons.mp reserved with rfl | work
    · exact ⟨manifestPath_ne_nil scope, (legacyPath_apart scope).1⟩
    · obtain ⟨other, _, name, rfl⟩ := (legacyPath_apart scope).2 path work
      exact ⟨by simp, other⟩
  rw [copied_apart copied free, begun_apart other.1 other.2]

end

theorem copied_rooted {between : Target}
    (copied : Copied (previousFiles scope target) (tree.allCopies scope) (begun scope target)
      between) :
    Free between [] ↔ Free target [] := by
  have same {content : List UInt8} : between [] = some (.file content) ↔
      target [] = some (.file content) := by
    have apart : ∀ copy ∈ tree.allCopies scope, [] ≠ copy.destination :=
      fun copy listed => (SourceRoot.allCopies_legal listed).1.symm
    rw [copied_file copied apart, begun, cleared_apart (legacyPath_ne_nil scope).symm]
    exact grown_file
  simp only [Free, prefix_nil, forall_eq, ne_eq, same]

/-- An install of a release succeeds exactly when nothing on the target stops it. -/
theorem installed_iff_ready (ordinary : tree.Ordinary) :
    Installed root scope tree target ↔ Ready scope tree target := by
  constructor
  · intro installed
    obtain ⟨known, complete, free, readable, removable, between, copied, work, _, other, _, same⟩ :=
      run_install.mp (Prod.ext installed.finished rfl)
    have inPlace : ∀ copy ∈ tree.allCopies scope,
        between copy.destination = some (.file copy.content) := by
      intro copy listed
      have present := (congrFun same copy.destination).symm.trans (installed.inPlace copy listed)
      exact (ended_file (destination_ne_manifest ordinary listed)).mp present
    have fits := fits_of_copied (allCopies_apart ordinary) copied inPlace
    refine ⟨known, complete, free, readable, removable, fits, ?_, ?_⟩
    · intro folder listed
      have there := ((free_work between listed).mp (work folder listed)).2
      rw [copied_reserved ordinary copied (mem_cons_of_mem _ listed)] at there
      exact (free_work target listed).mpr ⟨free, there⟩
    · rwa [copied_reserved ordinary copied mem_cons_self] at other
  · intro ready
    obtain ⟨between, copied, inPlace⟩ := copied_of_fits (allCopies_apart ordinary)
      (fun copy listed => (SourceRoot.allCopies_legal listed).1) ready.fits
    have top : Free between [] := (copied_rooted copied).mpr ready.rooted
    have work : ∀ folder ∈ workFolders scope, Free between folder := by
      intro folder listed
      have there := ((free_work target listed).mp (ready.work folder listed)).2
      rw [← copied_reserved ordinary copied (mem_cons_of_mem _ listed)] at there
      exact (free_work between listed).mpr ⟨top, there⟩
    have other : between (manifestPath scope) ≠ some .folder := by
      rw [copied_reserved ordinary copied mem_cons_self]
      exact ready.manifest
    have ran : (install root tree scope).run target = (.ok (manifestPath scope),
        ended scope between (manifestText tree scope (recordPlaces tree [] (places scope)))) :=
      run_install.mpr ⟨ready.known, ready.complete, ready.rooted, ready.readable, ready.removable,
        between, copied, work, top, other, rfl, rfl⟩
    refine ⟨by rw [ran], fun copy listed => ?_, fun copy listed => ?_⟩
    · rw [ran, ended_file (destination_ne_manifest ordinary listed)]
      exact inPlace copy listed
    · have listing := listing_places tree scope
      rw [ran, previousFiles_ended between listing.distinct]
      obtain ⟨entry, found, named⟩ := mem_map.mp (listing.whole copy listed)
      obtain ⟨other, made, rfl⟩ := listing.sound entry found
      have equal := SourceRoot.key_copies ordinary made listed named
      rw [← equal]
      exact Json.lookup_of_mem listing.distinct found

theorem finished_state (installed : Installed root scope tree target) :
    ∃ between, Copied (previousFiles scope target) (tree.allCopies scope) (begun scope target)
        between ∧ (∀ folder ∈ workFolders scope, Free between folder) ∧
      ((install root tree scope).run target).2 =
        ended scope between (manifestText tree scope (recordPlaces tree [] (places scope))) := by
  obtain ⟨_, _, _, _, _, between, copied, work, _, _, _, same⟩ :=
    run_install.mp (Prod.ext installed.finished rfl)
  exact ⟨between, copied, work, same⟩

end

section
variable {mine : Path → List UInt8 → Prop} {written : List UInt8 → Prop} {path : Path}
  {target middle left : Target} {Result Other : Type}

/-- A program loses no file but its own, and it leaves one path with its file or its own text. -/
structure Gentle (mine : Path → List UInt8 → Prop) (written : List UInt8 → Prop) (path : Path)
    (target left : Target) : Prop where
  kept : ∀ other content, target other = some (.file content) →
    left other = some (.file content) ∨ mine other content
  still : ∀ content, left path = some (.file content) →
    target path = some (.file content) ∨ written content

theorem Gentle.refl (target : Target) : Gentle mine written path target target :=
  ⟨fun _ _ => Or.inl, fun _ => Or.inl⟩

theorem Gentle.trans (first : Gentle mine written path target middle)
    (second : Gentle mine written path middle left) : Gentle mine written path target left where
  kept := by
    intro other content found
    rcases first.kept other content found with same | owned
    · exact second.kept other content same
    · exact Or.inr owned
  still := by
    intro content found
    rcases second.still content found with same | new
    · exact first.still content same
    · exact Or.inr new

/-- A sequence is gentle when both of its parts are. -/
theorem gentle_bind {program : Installation Result} {rest : Result → Installation Other}
    (first : ∀ left, program.Crashes target left → Gentle mine written path target left)
    (second : ∀ value middle, program.run target = (.ok value, middle) →
      ∀ left, (rest value).Crashes middle left → Gentle mine written path middle left)
    (crashed : (program >>= rest).Crashes target left) : Gentle mine written path target left := by
  rcases (crashes_bind program rest target left).mp crashed with early | ⟨value, after, ran, late⟩
  · exact first left early
  · have reached : program.Crashes target after := by
      have whole := crashes_run program target
      rwa [ran] at whole
    exact (first after reached).trans (second value after ran left late)

theorem gentle_foldlM {Item : Type} {step : Result → Item → Installation Result}
    {items : List Item} (each : ∀ item ∈ items, ∀ carry target left,
      (step carry item).Crashes target left → Gentle mine written path target left)
    {carry : Result} (crashed : (items.foldlM step carry).Crashes target left) :
    Gentle mine written path target left := by
  induction items generalizing carry target left with
  | nil =>
    have same : left = target := crashed
    rw [same]
    exact .refl target
  | cons item items ih =>
    obtain ⟨here, later⟩ := forall_mem_cons.mp each
    rw [foldlM_cons] at crashed
    exact gentle_bind (here carry target)
      (fun _ _ _ _ rest => ih later rest) crashed

theorem gentle_mkdir {folder : Path} (crashed : (mkdir folder).Crashes target left) :
    Gentle mine written path target left := by
  refine gentle_foldlM ?_ crashed
  intro item listed carry target left crashed
  have files : ∀ other content, left other = some (.file content) ↔
      target other = some (.file content) := by
    intro other content
    rcases (crashes_transact _ _ _ _).mp crashed with rfl | made
    · rfl
    · rw [made]
      unfold makeFolder
      cases found : target item with
      | none =>
        by_cases same : other = item
        · simp [Target.put, same, found]
        · simp [Target.put, same]
      | some node => cases node <;> rfl
  exact ⟨fun other content found => Or.inl ((files other content).mpr found),
    fun content found => Or.inl ((files path content).mp found)⟩

/-- A copy that stops changes no path but its own. -/
theorem crashes_copy2 {content : List UInt8} {place other : Path} (apart : other ≠ place)
    (crashed : (copy2 content place).Crashes target left) : left other = target other := by
  have filled (rest written : List UInt8) : ∀ target,
      (fill place written rest).Crashes target left → left other = target other := by
    induction rest generalizing written with
    | nil =>
      intro target crashed
      have same : left = target := crashed
      rw [same]
    | cons byte rest ih =>
      intro target crashed
      rw [fill, crashes_bind, crashes_write, run_write] at crashed
      rcases crashed with (rfl | rfl) | ⟨_, _, ran, later⟩
      · rfl
      · exact Function.update_of_ne apart ..
      · cases ran
        rw [ih _ _ later]
        exact Function.update_of_ne apart ..
  rw [copy2, crashes_bind, crashes_write, run_write] at crashed
  rcases crashed with (rfl | rfl) | ⟨_, _, ran, later⟩
  · rfl
  · exact Function.update_of_ne apart ..
  · cases ran
    rw [filled content [] _ later]
    exact Function.update_of_ne apart ..

/-- A program that changes one path is gentle when the file there is its own. -/
theorem gentle_single {place : Path} (owned : ∀ content, target place = some (.file content) →
      mine place content) (other : path ≠ place)
    (same : ∀ other, other ≠ place → left other = target other) :
    Gentle mine written path target left where
  kept := by
    intro found content present
    by_cases equal : found = place
    · subst equal
      exact Or.inr (owned content present)
    · rw [same found equal]
      exact Or.inl present
  still := by
    intro content present
    rw [same path other] at present
    exact Or.inl present

theorem gentle_lift (value : Except Raised Result) (left : Target)
    (crashed : (lift value : Installation Result).Crashes target left) :
    Gentle mine written path target left := by
  rw [crashes_lift] at crashed
  rw [crashed]
  exact .refl _

end

section
variable [FileHash] [Python.Printing] {root scope : String} {tree : SourceRoot}
  {target left : Target}

/-- The manifest and the files that it records belong to the installer. -/
def Mine (scope : String) (tree : SourceRoot) (previous : Recorded) (path : Path)
    (content : List UInt8) : Prop :=
  path = manifestPath scope ∨
    ((path = legacyPath scope ∨ ∃ copy ∈ tree.allCopies scope, path = copy.destination) ∧
      previous.lookup (key path) = some (FileHash.sha content))

/-- The text of a manifest that an install of the tree writes. -/
def Text (scope : String) (tree : SourceRoot) (content : List UInt8) : Prop :=
  content = manifestText tree scope (recordPlaces tree [] (places scope))

omit [Python.Printing] in
theorem gentle_copyFile (ordinary : tree.Ordinary) {previous installed : Recorded} {copy : Copy}
    (listed : copy ∈ tree.allCopies scope)
    (crashed : (copyFile previous installed copy).Crashes target left) :
    Gentle (Mine scope tree previous) (Text scope tree) (manifestPath scope) target left := by
  refine gentle_bind (fun left => gentle_mkdir) (fun _ middle _ left rest => ?_) crashed
  rw [crashes_bind, look, crashes_read, run_read] at rest
  rcases rest with rfl | ⟨existing, _, seen, rest⟩
  · exact .refl _
  · cases seen
    rw [crashes_bind, crashes_lift, run_lift] at rest
    rcases rest with rfl | ⟨needed, _, decided, rest⟩
    · exact .refl _
    · obtain ⟨allowed, rfl⟩ := Prod.mk.inj decided
      have copied : (copyIf copy needed).Crashes middle left := by
        rcases (crashes_bind _ _ _ _).mp rest with early | ⟨_, after, ran, same⟩
        · exact early
        · have whole := crashes_run (copyIf copy needed) middle
          rw [ran] at whole
          have same : left = after := same
          exact same ▸ whole
      cases needed with
      | false =>
        have same : left = middle := copied
        rw [same]
        exact .refl _
      | true =>
        have owned : ∀ content, middle copy.destination = some (.file content) →
            Mine scope tree previous copy.destination content := by
          intro content found
          rw [found] at allowed
          rcases replaces_ok.mp allowed with ⟨_, nothing | ⟨stored, same, _, known⟩⟩ | ⟨off, _⟩
          · cases nothing
          · cases same
            exact Or.inr ⟨Or.inr ⟨copy, listed, rfl⟩, known⟩
          · cases off
        exact gentle_single owned (destination_ne_manifest ordinary listed).symm
          fun other apart => crashes_copy2 apart copied

omit [Python.Printing] in
theorem gentle_removeLegacy {previous : Recorded}
    (crashed : (removeLegacyOwnedFile (legacyPath scope) previous).Crashes target left) :
    Gentle (Mine scope tree previous) (Text scope tree) (manifestPath scope) target left := by
  unfold removeLegacyOwnedFile at crashed
  cases known : previous.lookup (key (legacyPath scope)) with
  | none =>
    rw [known] at crashed
    have same : left = target := crashed
    rw [same]
    exact .refl _
  | some expected =>
    rw [known] at crashed
    rcases (crashes_transact _ _ _ _).mp crashed with rfl | gone
    · exact .refl _
    · unfold unlinkLegacy at gone
      cases found : target (legacyPath scope) with
      | none =>
        rw [found] at gone
        rw [gone]
        exact .refl _
      | some node =>
        rw [found] at gone
        cases node with
        | folder =>
          rw [gone]
          exact .refl _
        | file content =>
          by_cases same : FileHash.sha content = expected
          · have removed : left = target.remove (legacyPath scope) := by
              rw [gone]
              exact congrArg Prod.snd (if_pos same)
            have owned : ∀ stored, target (legacyPath scope) = some (.file stored) →
                Mine scope tree previous (legacyPath scope) stored := by
              intro stored present
              rw [found] at present
              cases present
              exact Or.inr ⟨Or.inl rfl, same ▸ known⟩
            apply gentle_single owned (legacyPath_apart scope).1
            intro other apart
            rw [removed]
            exact Function.update_of_ne apart ..
          · have kept : left = target := by
              rw [gone]
              exact congrArg Prod.snd (if_neg same)
            rw [kept]
            exact .refl _

omit [Python.Printing] in
theorem gentle_manifest {previous files : Recorded}
    (same : files = recordPlaces tree [] (places scope))
    (crashed : (atomicWrite (manifestPath scope) (manifestText tree scope files)).Crashes target
      left) :
    Gentle (Mine scope tree previous) (Text scope tree) (manifestPath scope) target left := by
  refine gentle_bind (fun left => gentle_mkdir) (fun _ middle _ left rest => ?_) crashed
  have changed : left = middle ∨ left = middle.put (manifestPath scope)
      (.file (manifestText tree scope files)) := by
    rcases (crashes_transact _ _ _ _).mp rest with kept | replaced
    · exact Or.inl kept
    · cases found : middle (manifestPath scope) with
      | none =>
        rw [found] at replaced
        exact Or.inr replaced
      | some node =>
        rw [found] at replaced
        cases node with
        | folder => exact Or.inl replaced
        | file old => exact Or.inr replaced
  rcases changed with rfl | rfl
  · exact .refl _
  · constructor
    · intro other content found
      by_cases equal : other = manifestPath scope
      · exact Or.inr (Or.inl equal)
      · exact Or.inl ((Function.update_of_ne equal ..).trans found)
    · intro content found
      rw [Target.put, Function.update_self, Option.some.injEq, Node.file.injEq] at found
      exact Or.inr (by rw [Text, ← found, same])

/-- An install that stops anywhere loses no file of somebody else. -/
theorem gentle_install (ordinary : tree.Ordinary)
    (crashed : (install root tree scope).Crashes target left) :
    Gentle (Mine scope tree (previousFiles scope target)) (Text scope tree) (manifestPath scope)
      target left := by
  refine gentle_bind (gentle_lift _) (fun _ _ accepted _ crashed => ?_) crashed
  rw [run_lift] at accepted
  obtain ⟨-, rfl⟩ := Prod.mk.inj accepted
  refine gentle_bind (gentle_lift _) (fun _ _ accepted _ crashed => ?_) crashed
  rw [run_lift] at accepted
  obtain ⟨-, rfl⟩ := Prod.mk.inj accepted
  refine gentle_bind (fun _ => gentle_mkdir) (fun _ _ made _ crashed => ?_) crashed
  obtain ⟨-, rfl⟩ := run_mkdir.mp made
  refine gentle_bind (fun left early => ?_) (fun found _ looked _ crashed => ?_) crashed
  · rw [look, crashes_read] at early
    rw [early]
    exact .refl _
  rw [run_look, opened_apart (not_prefix_nil (manifestPath_ne_nil scope))] at looked
  cases looked
  refine gentle_bind (gentle_lift _) (fun manifest _ loaded _ crashed => ?_) crashed
  rw [run_lift] at loaded
  obtain ⟨read, rfl⟩ := Prod.mk.inj loaded
  have previous : recorded manifest = previousFiles scope target := by
    rw [previousFiles, loadManifest_ok.mp read]
  rw [previous] at crashed
  refine gentle_bind (fun _ => gentle_removeLegacy) (fun _ _ _ _ crashed => ?_) crashed
  refine gentle_bind (fun _ early => ?_) (fun files _ copied _ crashed => ?_) crashed
  · refine gentle_foldlM (fun place known _ _ _ inner => ?_) early
    refine gentle_bind (fun _ copying => ?_)
      (fun _ _ _ _ ended => gentle_lift (.ok _) _ ended) inner
    exact gentle_foldlM (fun copy listed _ _ _ single =>
      gentle_copyFile ordinary (mem_flatMap.mpr ⟨place, known, listed⟩) single) copying
  have occupied : ∀ place ∈ places scope, ∀ copy ∈ tree.copies place, copy.destination ≠ [] :=
    fun place known copy listed =>
      (SourceRoot.allCopies_legal (mem_flatMap.mpr ⟨place, known, listed⟩)).1
  have names := ((run_copyPlaces occupied).mp copied).2
  refine gentle_bind (fun _ early => ?_) (fun _ _ _ _ crashed => ?_) crashed
  · exact gentle_foldlM (fun _ _ _ _ _ single => gentle_mkdir single) early
  · exact gentle_bind (fun _ => gentle_manifest names)
      (fun _ _ _ _ ended => gentle_lift (.ok _) _ ended) crashed

end

section
variable [FileHash] [Python.Printing] {root scope : String}

/-- The target comes with the source trees of the earlier installs. -/
structure World where
  target : Target
  trees : List SourceRoot

/-- An install ends by itself or stops anywhere, and other people edit the target in between. -/
inductive Event where
  | installed (tree : SourceRoot)
  | interrupted (tree : SourceRoot) (left : Target)
  | edited (left : Target)

def Event.after (root scope : String) (world : World) : Event → World
  | .installed tree => ⟨((install root tree scope).run world.target).2, tree :: world.trees⟩
  | .interrupted tree left => ⟨left, tree :: world.trees⟩
  | .edited left => ⟨left, world.trees⟩

/-- Every event of a run meets the condition in the world that it finds. -/
def Along (root scope : String) (meets : World → Event → Prop) : World → List Event → Prop
  | _, [] => True
  | world, event :: events =>
    meets world event ∧ Along root scope meets (event.after root scope world) events

/-- An earlier install put the content at the path. -/
def Put (scope : String) (world : World) (path : Path) (content : List UInt8) : Prop :=
  (∃ tree ∈ world.trees, ∃ copy ∈ tree.allCopies scope,
    copy.destination = path ∧ copy.content = content) ∨
  (path = manifestPath scope ∧ ∃ tree ∈ world.trees, Text scope tree content)

/-- A manifest on the target is one that an earlier install wrote. -/
def Owned (scope : String) (world : World) : Prop :=
  ∀ content, world.target (manifestPath scope) = some (.file content) →
    ∃ tree ∈ world.trees, Text scope tree content

/-- No file on the target has the hash of another content that an earlier install put there. -/
def Separated (scope : String) (world : World) : Prop :=
  ∀ path content, world.target path = some (.file content) →
    ∀ tree ∈ world.trees, ∀ copy ∈ tree.allCopies scope, copy.destination = path →
      FileHash.sha content = FileHash.sha copy.content → content = copy.content

/-- The source trees are ordinary ones, and nobody but the installer writes the manifest. -/
def Possible (root scope : String) (world : World) : Event → Prop
  | .installed tree => tree.Ordinary ∧ Separated scope world
  | .interrupted tree left => tree.Ordinary ∧ Separated scope world ∧
      (install root tree scope).Crashes world.target left
  | .edited left => left (manifestPath scope) = world.target (manifestPath scope)

/-- An install loses no file but those that an earlier install put there. -/
def Preserving (root scope : String) (world : World) (event : Event) : Prop :=
  match event with
  | .edited _ => True
  | event => ∀ path content, world.target path = some (.file content) →
      (event.after root scope world).target path = some (.file content) ∨
        Put scope world path content

/-- An install that nothing interrupts succeeds. -/
def Succeeding (root scope : String) (world : World) : Event → Prop
  | .installed tree => Installed root scope tree world.target
  | _ => True

/-- An install that nothing interrupts finds nothing that stops it. -/
def Prepared (scope : String) (world : World) : Event → Prop
  | .installed tree => Ready scope tree world.target
  | _ => True

/-- Only a manifest that an install wrote records files. -/
theorem recorded_owned {world : World} (owned : Owned scope world) {name hash : String}
    (found : (previousFiles scope world.target).lookup name = some hash) :
    ∃ tree ∈ world.trees, ∃ copy ∈ tree.allCopies scope,
      name = copy.key ∧ hash = FileHash.sha copy.content := by
  unfold previousFiles at found
  cases stored : world.target (manifestPath scope) with
  | none =>
    rw [stored] at found
    cases found
  | some node =>
    cases node with
    | folder =>
      rw [stored] at found
      cases found
    | file content =>
      obtain ⟨tree, listed, text⟩ := owned content stored
      have listing := listing_places tree scope
      rw [stored, text, loadManifest_text] at found
      rw [lookup_recorded tree scope listing.distinct] at found
      obtain ⟨copy, known, same⟩ := listing.sound _ (Json.mem_of_lookup found)
      obtain ⟨names, hashes⟩ := Prod.mk.inj same
      exact ⟨tree, listed, copy, known, names, hashes⟩

/-- What an install takes for its own is what an earlier install put there. -/
theorem put_of_mine {world : World} (owned : Owned scope world) (separated : Separated scope world)
    {tree : SourceRoot} {path : Path} {content : List UInt8}
    (present : world.target path = some (.file content))
    (mine : Mine scope tree (previousFiles scope world.target) path content) :
    Put scope world path content := by
  rcases mine with rfl | ⟨place, known⟩
  · exact Or.inr ⟨rfl, owned content present⟩
  · obtain ⟨earlier, listed, copy, made, names, hashes⟩ := recorded_owned owned known
    have legal : path ≠ [] ∧ Legal path := by
      rcases place with rfl | ⟨other, inside, rfl⟩
      · exact ⟨legacyPath_ne_nil scope, (places_legal scope).1⟩
      · exact SourceRoot.allCopies_legal inside
    obtain ⟨filled, parts⟩ := SourceRoot.allCopies_legal made
    have same := key_injective legal.2 parts legal.1 filled names
    have equal := separated path content present earlier listed copy made same.symm hashes
    exact Or.inl ⟨earlier, listed, copy, made, same.symm, equal.symm⟩

/-- An install keeps the files of others and leaves a manifest of its own. -/
theorem gentle_owned {world : World} {tree : SourceRoot} {left : Target}
    (owned : Owned scope world) (ordinary : tree.Ordinary) (separated : Separated scope world)
    (crashed : (install root tree scope).Crashes world.target left) :
    (∀ path content, world.target path = some (.file content) →
      left path = some (.file content) ∨ Put scope world path content) ∧
    Owned scope ⟨left, tree :: world.trees⟩ := by
  have gentle := gentle_install ordinary crashed
  constructor
  · intro path content present
    rcases gentle.kept path content present with same | mine
    · exact Or.inl same
    · exact Or.inr (put_of_mine owned separated present mine)
  · intro content present
    rcases gentle.still content present with old | new
    · obtain ⟨earlier, listed, text⟩ := owned content old
      exact ⟨earlier, mem_cons_of_mem _ listed, text⟩
    · exact ⟨tree, mem_cons_self, new⟩

/-- One event keeps the manifest in the hands of the installer. -/
theorem event_step {world : World} {event : Event} (owned : Owned scope world)
    (possible : Possible root scope world event) :
    Preserving root scope world event ∧
      (Succeeding root scope world event ↔ Prepared scope world event) ∧
      Owned scope (event.after root scope world) := by
  cases event with
  | installed tree =>
    obtain ⟨ordinary, separated⟩ := possible
    obtain ⟨kept, later⟩ := gentle_owned owned ordinary separated
      (crashes_run (install root tree scope) world.target)
    exact ⟨kept, installed_iff_ready ordinary, later⟩
  | interrupted tree left =>
    obtain ⟨ordinary, separated, crashed⟩ := possible
    obtain ⟨kept, later⟩ := gentle_owned owned ordinary separated crashed
    exact ⟨kept, Iff.rfl, later⟩
  | edited left =>
    refine ⟨trivial, Iff.rfl, fun content present => owned content ?_⟩
    rw [← possible]
    exact present

/-- In every run, no install loses a file of somebody else, and the installs that nothing
interrupts succeed exactly when each of them finds nothing that stops it. -/
theorem upgrades_iff {world : World} {events : List Event} (owned : Owned scope world)
    (possible : Along root scope (Possible root scope) world events) :
    Along root scope (Preserving root scope) world events ∧
      (Along root scope (Succeeding root scope) world events ↔
        Along root scope (Prepared scope) world events) := by
  induction events generalizing world with
  | nil => exact ⟨trivial, Iff.rfl⟩
  | cons event events ih =>
    obtain ⟨here, later⟩ := possible
    obtain ⟨kept, decided, next⟩ := event_step owned here
    obtain ⟨keptLater, exactLater⟩ := ih next later
    exact ⟨⟨kept, keptLater⟩, and_congr decided exactLater⟩

end

section

/-- The stand-in hash spells the bytes of a file. -/
@[reducible] def spelledHash : FileHash where
  sha content := String.ofList (content.map Char.ofUInt8)

@[reducible] def blankPrinting : Python.Printing where
  text _ := ""

attribute [local instance] spelledHash blankPrinting

theorem spelledHash_injective : Function.Injective spelledHash.sha := by
  have letters : Function.Injective Char.ofUInt8 := by
    intro first second same
    have numbers : first.toUInt32 = second.toUInt32 := congrArg Char.val same
    exact UInt8.toUInt32_inj.mp numbers
  intro first second same
  exact map_injective_iff.mpr letters (String.ofList_injective same)

theorem spelled_separated (scope : String) (world : World) : Separated scope world :=
  fun _ _ _ _ _ _ _ _ same => spelledHash_injective same

/-- This says whether the entries are those of a source tree. -/
def wellFormed (entries : List (Path × Node)) : Bool :=
  entries.all (fun entry => decide (Legal entry.1)) && decide (entries.map Prod.fst).Nodup &&
    entries.all fun entry => entry.1.inits.all fun folder =>
      folder == entry.1 || folder.isEmpty || entries.elem (folder, .folder)

def SourceRoot.ofEntries (entries : List (Path × Node)) (checked : wellFormed entries = true) :
    SourceRoot where
  place := "/source"
  gitSha := "UNSET"
  entries := entries
  legal := by
    simp only [wellFormed, Bool.and_eq_true, all_eq_true, decide_eq_true_eq] at checked
    exact checked.1.1
  distinct := by
    simp only [wellFormed, Bool.and_eq_true, all_eq_true, decide_eq_true_eq] at checked
    exact checked.1.2
  closed := by
    simp only [wellFormed, Bool.and_eq_true, all_eq_true, Bool.or_eq_true, beq_iff_eq,
      List.isEmpty_iff, List.elem_iff, List.mem_inits] at checked
    intro entry listed folder inside other occupied
    rcases checked.2 entry listed folder inside with (same | empty) | found
    · exact absurd same other
    · exact absurd empty occupied
    · exact found

/-- Every sample tree has these folders and at most one command. -/
def sampleFolders : List (Path × Node) := [
  ([".opencode"], .folder), ([".opencode", "commands"], .folder), (["src"], .folder),
  (["src", "k_slide"], .folder)]

def commandPath : Path := [".opencode", "commands", "k-slide.md"]

def firstTree : SourceRoot :=
  .ofEntries (sampleFolders ++ [(commandPath, .file [49])]) (by decide +kernel)

def lighterTree : SourceRoot := .ofEntries sampleFolders (by decide +kernel)

def laterTree : SourceRoot :=
  .ofEntries (sampleFolders ++ [(commandPath, .file [50])]) (by decide +kernel)

def fresh : World := ⟨fun _ => none, []⟩

instance (tree : SourceRoot) : Decidable tree.Ordinary :=
  inferInstanceAs (Decidable (∀ source ∈ SourceRoot.singles, tree.isFolder source = false))

/-- A run of three installs, the second of which stops at once. -/
def upgradeRun : List Event :=
  [.installed firstTree, .interrupted laterTree (Event.after "/target" "project" fresh
    (.installed firstTree)).target, .installed laterTree]

theorem upgradeRun_iff :
    Along "/target" "project" (Preserving "/target" "project") fresh upgradeRun ∧
    (Along "/target" "project" (Succeeding "/target" "project") fresh upgradeRun ↔
      Along "/target" "project" (Prepared "project") fresh upgradeRun) :=
  upgrades_iff (fun _ => nofun) ⟨⟨by decide +kernel, spelled_separated _ _⟩,
    ⟨by decide +kernel, spelled_separated _ _, crashes_start ..⟩,
    ⟨by decide +kernel, spelled_separated _ _⟩, trivial⟩

/-- The manifest forgets a command that a version drops, and the command stays where it is. -/
theorem dropped_stays {root : String} {target middle left : Target}
    (first : Installed root "project" firstTree target)
    (between : ((install root firstTree "project").run target).2 = middle)
    (second : Installed root "project" lighterTree middle)
    (ended : ((install root lighterTree "project").run middle).2 = left) :
    ¬ Installed root "project" laterTree left := by
  intro third
  have ordinary : laterTree.Ordinary := by decide +kernel
  have shipped : (⟨commandPath, [50]⟩ : Copy) ∈ laterTree.allCopies "project" := by decide +kernel
  have fits := (((installed_iff_ready ordinary).mp third).fits ⟨commandPath, [50]⟩ shipped).place
  have installed : (⟨commandPath, [49]⟩ : Copy) ∈ firstTree.allCopies "project" := by decide +kernel
  have old := first.inPlace ⟨commandPath, [49]⟩ installed
  rw [between] at old
  have nothing : lighterTree.allCopies "project" = [] := by decide +kernel
  obtain ⟨copied, begins, _, same⟩ := finished_state second
  rw [nothing] at begins
  have start : copied = begun "project" middle := begins
  rw [ended] at same
  have apart : commandPath ≠ [] ∧ commandPath ≠ legacyPath "project" ∧
      commandPath ≠ manifestPath "project" := by decide
  obtain ⟨filled, other, away⟩ := apart
  have stays : begun "project" left commandPath = some (.file [49]) := by
    rw [begun_apart filled other, same, ended_file away, start, begun_apart filled other]
    exact old
  have forgotten : (previousFiles "project" left).lookup (key commandPath) = none := by
    rw [same, previousFiles_ended copied (listing_places lighterTree "project").distinct]
    decide +kernel
  change Replaceable _ _ (begun "project" left commandPath) at fits
  rw [stays] at fits
  rcases fits with equal | ⟨_, known⟩
  · exact absurd equal (by decide)
  · cases forgotten.symm.trans known

/-- On no target do three versions install that ship a command, drop it and change it. -/
theorem readded_fails (root : String) (world : World) :
    ¬ Along root "project" (Succeeding root "project") world
      [.installed firstTree, .installed lighterTree, .installed laterTree] := by
  intro run
  simp only [Along, Succeeding, Event.after, and_true] at run
  obtain ⟨first, second, third⟩ := run
  exact dropped_stays first rfl second rfl third

/-- Not even an empty target takes the three versions. -/
theorem readded_refused :
    ¬ Along "/target" "project" (Succeeding "/target" "project") fresh
      [.installed firstTree, .installed lighterTree, .installed laterTree] :=
  readded_fails "/target" fresh

end

end KSlide.Install
