import KSlide.Deletion.Content
import KSlide.Run.Phase
import Mathlib.Data.List.AList

/-
This file gives the deletion backend of a workspace run and the guard of its mutations.
-/

namespace KSlide
open Interleaving Program

section
variable [Sha256]

/-- A workspace run has its content, its session bindings, its audits and its fence. The contents
of the state file and of the job file count only while the files are there. -/
structure WorkspaceSite where
  tree : ContentTree
  runState : Option (List (String × Json))
  job : Except Raised (ExecutionJob Int)
  sessions : List String
  audits : AList fun _ : String => DeletionAudit
  fenced : Bool

def deletionTerminalPhases : List String :=
  ([.complete, .failedInput, .failedRuntime, .failedNormalization, .failedExtraction,
    .failedSchema, .failedInternal] : List RunPhase).map RunPhase.value

namespace WorkspaceSite

def hasState (site : WorkspaceSite) : Bool := "RUN_STATE.json" ∈ site.tree.files

def hasJob (site : WorkspaceSite) : Bool := "EXECUTION_JOB.json" ∈ site.tree.files

/-- The low-level boundary of every product write. -/
def workspaceMutationGuard (site : WorkspaceSite) : Except Raised Unit :=
  let fenced : Raised := .kslide ⟨.executionConflict,
    "Workspace mutation is fenced by an active deletion lifecycle.", []⟩
  if site.fenced then .error fenced
  else if site.hasState then
    match site.runState with
    | none => .ok ()
    | some fields =>
      match fields.lookup "deletion_fence" with
      | some (.str "IN_PROGRESS") | some (.str "PARTIAL") => .error fenced
      | _ => .ok ()
  else .ok ()

def withFence (site : WorkspaceSite) (active : Bool) : WorkspaceSite := { site with fenced := active }

/-- The state file shows the fence beside the other fields. -/
def markState (site : WorkspaceSite) (active : Bool) : Except Raised Unit × WorkspaceSite :=
  if site.hasState then
    match site.runState with
    | none => (.error (.corrupt "Could not read structured state: RUN_STATE.json"), site)
    | some fields =>
      let rest := fields.filter (·.1 != "deletion_fence")
      let marked := if active then rest ++ [("deletion_fence", .str "IN_PROGRESS")] else rest
      (.ok (), { site with runState := some marked })
  else (.ok (), site)

def withAudit (site : WorkspaceSite) (audit : DeletionAudit) : WorkspaceSite :=
  { site with audits := site.audits.insert audit.deletionId audit }

/-- The audit is written before the fence is set or lifted. -/
def saveAudit (audit : DeletionAudit) : Deletion WorkspaceSite Unit := do
  .write .audit (·.withAudit audit)
  .write .fence (·.withFence audit.fences)
  .transact .fencedState (·.markState audit.fences)

def rawState (site : WorkspaceSite) : Except Raised (List (String × Json)) :=
  if site.hasState then
    match site.runState with
    | some fields => .ok fields
    | none => .error (.corrupt "Run state could not be read safely.")
  else .ok []

/-- The generation of a run is fixed by its creation and its revision. -/
def stateIdentity (runRef : String) (raw : List (String × Json)) : Json := .obj [
  ("created_at", (raw.lookup "created_at").getD (.str "")),
  ("revision", (raw.lookup "revision").getD (.int 0)),
  ("run_id", (raw.lookup "run_id").getD (.str runRef)),
  ("updated_at", (raw.lookup "updated_at").getD (.str ""))]

def jobIdentity (job : ExecutionJob Int) : Json := .obj [
  ("execution_ref", .str job.executionId),
  ("job_ref", .str job.jobId),
  ("run_ref", .str job.runId),
  ("store_ref", .str job.storeRef.storeRef)]

/-- A job that does not exist leaves the run without one. -/
def presentJob (site : WorkspaceSite) : Except Raised (Option (ExecutionJob Int)) :=
  if site.hasJob then
    match site.job with
    | .ok job => .ok (some job)
    | .error error =>
      if error.code? = some .executionNotFound then .ok none else .error error
  else .ok none

def stateAnchors (runRef : String) (site : WorkspaceSite) (raw : List (String × Json)) :
    List (String × String) :=
  if site.hasState then
    [(DeletionArtifactClass.runState.value, stableRevision (stateIdentity runRef raw))]
  else []

def jobAnchors (job : Option (ExecutionJob Int)) : List (String × String) :=
  match job with
  | none => []
  | some job => [(DeletionArtifactClass.executionJob.value, stableRevision (.obj [
      ("created_at", .ofText? job.createdAt), ("identity", jobIdentity job)]))]

theorem anchors_distinct (runRef : String) (site : WorkspaceSite) (raw : List (String × Json))
    (job : Option (ExecutionJob Int)) :
    ((jobAnchors job ++ stateAnchors runRef site raw).map (·.1)).Nodup := by
  unfold jobAnchors stateAnchors
  cases job <;> split_ifs <;> simp [DeletionArtifactClass.value]

def terminalPhase (raw : List (String × Json)) : Bool :=
  match raw.lookup "phase", raw.lookup "status" with
  | some (.str phase), _ => phase ∈ deletionTerminalPhases
  | some _, _ => false
  | none, some (.str status) => status ∈ deletionTerminalPhases
  | none, _ => false

def state (runRef : String) (site : WorkspaceSite) : Except Raised BackendState := do
  let raw ← site.rawState
  let job ← site.presentJob
  let terminal := terminalPhase raw
  let canceled := job.any (·.lifecycle == .canceled)
  return {
    generationRef := stableRevision (.obj [("job", job.elim .null jobIdentity),
      ("run_ref", .str runRef), ("scope_ref", .str "workspace"),
      ("state", stateIdentity runRef raw)])
    active := job.elim (site.hasState && !terminal) (·.lifecycle.active)
    terminal := !site.hasState || terminal || canceled
    canceled
    generationAnchors := jobAnchors job ++ stateAnchors runRef site raw
    distinctAnchors := anchors_distinct runRef site raw job }

/-- The record of the job is replaced without its store. -/
def requestCancellation (now : Timestamp) (site : WorkspaceSite) :
    Except Raised Unit × WorkspaceSite :=
  if site.hasJob then
    match site.job.bind (cancellationRequest · now) with
    | .error error => (.error error, site)
    | .ok none => (.ok (), site)
    | .ok (some candidate) => (.ok (), { site with job := .ok candidate.stored })
  else (.ok (), site)

def enumerateTargets (runRef deletionId : String) (site : WorkspaceSite) :
    Except Raised (List Candidate) := do
  let classes ← site.tree.classes
  let bound := if site.sessions = [] then [] else [DeletionArtifactClass.sessionBinding]
  return (sortedClasses (classes ++ bound)).map fun artifact =>
    ⟨artifact, targetRef "workspace" runRef deletionId artifact, false⟩

def withTree (tree : ContentTree) (site : WorkspaceSite) : WorkspaceSite := { site with tree }

/-- The program acts on the content of the run. -/
def onTree (program : Deletion ContentTree Unit) : Deletion WorkspaceSite Unit :=
  program.zoom WorkspaceSite.tree withTree

variable (faults : DeletionFaults)

def unlinkSession (session : String) : Deletion WorkspaceSite Unit :=
  .transact (.removal session) fun site =>
    match faults.removal session with
    | some error => (.error error, site)
    | none => (.ok (), { site with sessions := site.sessions.filter (· != session) })

def unlinkSessions : List String → Deletion WorkspaceSite Unit
  | [] => return ()
  | session :: sessions => do
    unlinkSession faults session
    unlinkSessions sessions

def deleteTarget (candidate : Candidate) (recovery : List SupportDeletionRecord) :
    Deletion WorkspaceSite Unit := do
  onTree (ContentTree.deleteClass faults candidate.artifactClass recovery)
  if candidate.artifactClass = .sessionBinding then
    let site ← .read .read .ok
    unlinkSessions faults site.sessions

def cleanupAfterTargets : Deletion WorkspaceSite Unit := do
  onTree (ContentTree.removeDirectories "Deletion refuses a symbolic-link directory."
    "Deletion namespace still contains an unexpected object.")
  let site ← .read .read .ok
  unlinkSessions faults site.sessions
  .read .cleanup fun _ => faults.cleanup.elim (.ok ()) .error

/-- The backend of the run with the given name. -/
def backend (runRef : String) : DeletionBackend WorkspaceSite where
  scopeRef := "workspace"
  runRef := runRef
  loadAudit deletionId site := .ok (site.audits.lookup deletionId)
  saveAudit := saveAudit
  state := state runRef
  requestCancellation := requestCancellation
  enumerateTargets := enumerateTargets runRef
  prepareSupportRecovery site := site.tree.support
  deleteTarget := deleteTarget faults
  cleanupAfterTargets := cleanupAfterTargets faults

/-- A complete run with its state and its metrics. -/
def finished : WorkspaceSite where
  tree := ⟨["RUN_STATE.json", "metrics.json"], false, .ok [], []⟩
  runState := some [("phase", .str "COMPLETE")]
  job := .error (.other "OSError")
  sessions := []
  audits := ∅
  fenced := false

end WorkspaceSite
end
end KSlide
