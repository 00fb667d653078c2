import KSlide.Deletion.Coordinator
import KSlide.Execution.Store

/-
This file gives what the backends of a deletion share: the content of a run, the removal of its
files class by class and the request to cancel its job.
-/

namespace KSlide
open Interleaving Program

/-- The class of a file follows from its directory and its name. -/
def classForRelative (relative : String) : DeletionArtifactClass :=
  let parts := (relative.toList.splitOn '/').map String.ofList
  let top := parts.headD ""
  let name := parts.getLastD ""
  let starts (mark : String) : Bool := mark.toList.isPrefixOf name.toList
  if name = "CONFLICT_REGISTRY.json" then .canonicalIr
  else if name = "EXTRACTION_ERROR.json" then .extractionError
  else if top = "inputs" then .sourceSnapshot
  else if top = "normalized" then
    if name = "DOCUMENT_MANIFEST.json" then .normalizationManifest
    else if name = "NORMALIZATION_ERROR.json" then .normalizationError
    else .normalizedRender
  else if top = "native" then .nativeExtraction
  else if top = "regions" then .regionCrop
  else if top = "evidence" then .evidenceIr
  else if top = "ir" then .canonicalIr
  else if top = "translations" then .translationPatch
  else if top = "support-content" then .supportContent
  else if top = "verification" ∨ starts "06_" then .verification
  else if name ∈ ["00_run_manifest.md", "ARTIFACT_MANIFEST.json"] then .sourceManifest
  else if name = "00_input_inventory.json" then .inputInventory
  else if name = "RUN_MANIFEST.json" then .runManifest
  else if name = "RUN_RECOVERY_GUIDE.md" then .recoveryGuide
  else if name = "RUNTIME_METADATA.json" then .runtimeMetadata
  else if name = "RUN_STATE.json" then .runState
  else if name = "WORK_QUEUE.json" then .workQueue
  else if name = "EXECUTION_JOB.json" then .executionJob
  else if name = "metrics.json" then .metrics
  else if name = "OCR_METADATA.json" then .ocrMetadata
  else if name = "RUN_FAILED.md" then .failureMarker
  else if name = "RUN_COMPLETE.md" then .completionMarker
  else if starts "05_" ∨ starts "07_" then .report
  else .runScopedContent

/-- The files of a run lie below one root, which can also hold a symbolic link. The support copies
have their metadata beside them and their deletion events in the central log. -/
structure ContentTree where
  files : List String
  aliased : Bool
  support : Except Raised (List SupportDeletionRecord)
  events : List String

/-- The file system can refuse the removal of a file, an event or the empty directories. -/
structure DeletionFaults where
  removal : String → Option Raised
  event : Option Raised
  cleanup : Option Raised

/-- The file system refuses nothing. -/
def DeletionFaults.calm : DeletionFaults := ⟨fun _ => none, none, none⟩

def unsafePath (message : String) : Raised := .kslide ⟨.pathOutsideAllowedRoot, message, []⟩

namespace ContentTree

/-- A tree with a symbolic link is refused as a whole. -/
def safeFiles (tree : ContentTree) : Except Raised (List String) :=
  if tree.aliased then
    .error (unsafePath "Deletion refuses symbolic-link or alias targets.")
  else .ok tree.files

def pathsForClass (tree : ContentTree) (artifact : DeletionArtifactClass) :
    Except Raised (List String) :=
  (·.filter (classForRelative · == artifact)) <$> tree.safeFiles

def classes (tree : ContentTree) : Except Raised (List DeletionArtifactClass) :=
  (·.map classForRelative) <$> tree.safeFiles

def without (tree : ContentTree) (path : String) : ContentTree :=
  { tree with files := tree.files.filter (· != path) }

/-- The support copies whose bundle and metadata are gone. -/
def removedSupport (tree : ContentTree) (recovery : List SupportDeletionRecord) : List String :=
  (recovery.map (·.artifactRef)).filter fun artifactRef =>
    s!"support-content/{artifactRef}.zip" ∉ tree.files ∧
      s!"support-content/{artifactRef}.json" ∉ tree.files

def withEvents (tree : ContentTree) (artifactRefs : List String) : ContentTree :=
  { tree with events := tree.events ++ artifactRefs.filter (· ∉ tree.events) }

variable (faults : DeletionFaults)

def unlink (path : String) : Deletion ContentTree Unit :=
  .transact (.removal path) fun tree =>
    match faults.removal path with
    | some error => (.error error, tree)
    | none => (.ok (), tree.without path)

def unlinkAll : List String → Deletion ContentTree Unit
  | [] => return ()
  | path :: paths => do
    unlink faults path
    unlinkAll paths

/-- A deletion event follows the removal of its copy. -/
def recordRemoved (recovery : List SupportDeletionRecord) : Deletion ContentTree Unit :=
  .transact .supportEvent fun tree =>
    match tree.removedSupport recovery, faults.event with
    | [], _ => (.ok (), tree)
    | _ :: _, some error => (.error error, tree)
    | removed, none => (.ok (), tree.withEvents removed)

def unlinkSupport (recovery : List SupportDeletionRecord) : List String → Deletion ContentTree Unit
  | [] => return ()
  | path :: paths => do
    unlink faults path
    recordRemoved faults recovery
    unlinkSupport recovery paths

/-- The bundles are removed before their metadata. -/
def bundlesFirst (paths : List String) : List String :=
  let bundle (path : String) : Bool :=
    ".zip".toList.reverse.isPrefixOf (path.toList.reverse.map Char.toLower)
  paths.filter bundle ++ paths.filter fun path => !bundle path

def deleteSupport (recovery : List SupportDeletionRecord) (paths : List String) :
    Deletion ContentTree Unit := do
  tryCatch (unlinkSupport faults recovery (bundlesFirst paths)) fun error => do
    match error with
    | .kslide _ | .other "OSError" => recordRemoved faults recovery
    | .other _ => return ()
    throw error
  recordRemoved faults recovery

/-- The files of one class are removed one after the other. -/
def deleteClass (artifact : DeletionArtifactClass) (recovery : List SupportDeletionRecord) :
    Deletion ContentTree Unit := do
  let paths ← .read .read (·.pathsForClass artifact)
  if artifact = .supportContent then deleteSupport faults recovery paths
  else unlinkAll faults paths

/-- Only an empty tree loses its directories. -/
def removeDirectories (linked kept : String) : Deletion ContentTree Unit :=
  .read .cleanup fun tree => do
    require (!tree.aliased) (unsafePath linked)
    require (tree.files = []) (.kslide ⟨.deletionTargetFailed, kept, []⟩)

end ContentTree

/-- The candidates are listed in the order of their class values. -/
def sortedClasses (classes : List DeletionArtifactClass) : List DeletionArtifactClass :=
  DeletionArtifactClass.all.filter (· ∈ classes)

def OperationalLifecycle.active (lifecycle : OperationalLifecycle) : Bool :=
  lifecycle ∈ [.queued, .running, .retrying]

section
variable [Sha256]

/-- A request to cancel changes a job that is neither asked nor finished. -/
def cancellationRequest (job : ExecutionJob Int) (now : Timestamp) :
    Except Raised (Option (ExecutionJob Int)) :=
  if job.cancellation.requested || job.lifecycle.terminal then .ok none
  else do
    let cancellation ← CancellationState.replace
      ⟨true, false, some s!"cancel-{job.jobId}", some now.text, none⟩
    let candidate ← ExecutionJob.replace { job.toFields with
      cancellation, revision := job.revision + 1, updatedAt := some now.text }
    return some candidate

end

/-- An explicit deletion of a run for which both answers of the hold authority have one status. -/
def DeletionCall.answered (scopeRef runRef : String) (status : LegalHoldStatus)
    (failureInjector : Candidate → Bool) : DeletionCall :=
  let hold : LegalHoldDecision :=
    ⟨scopeRef, runRef, status, "authority-1", "decision-1", Timestamp.newYear.text⟩
  ⟨"deletion-1", .explicit, false, .ok hold, .ok hold, failureInjector, .newYear, .newYear⟩

end KSlide
