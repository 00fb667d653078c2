import KSlide.Execution.NewJob
import KSlide.Run.Phase
import KSlide.Run.Queue

/-
This file gives the workspace record of a run, which follows the phase of the engine.
-/

namespace KSlide

/-- The operational values of a job are visible to the host. -/
structure Operational where
  lifecycle : OperationalLifecycle
  outcome : TerminalOutcome
  eligibility : ResumeEligibility
deriving DecidableEq, Repr

def operationalForPhase : RunPhase → Operational
  | .complete => ⟨.completed, .done, .notEligible⟩
  | .needsReview => ⟨.completed, .needsReview, .eligible⟩
  | .failedInput | .failedRuntime | .failedNormalization | .failedExtraction | .failedSchema
  | .failedInternal => ⟨.processingFailed, .processingFailed, .notEligible⟩
  | .created => ⟨.queued, .none, .eligible⟩
  | .failRepairable | .repairing => ⟨.retrying, .none, .eligible⟩
  | .inputValidated | .normalizing | .normalized | .extracting | .extracted | .translating
  | .translated | .verifying | .verified => ⟨.running, .none, .eligible⟩

section
variable [Sha256]

def ExecutionJob.operational (job : ExecutionJob Int) : Operational :=
  ⟨job.lifecycle, job.terminalOutcome, job.resumeEligibility⟩

namespace WorkspaceRunStore

/-- The one record of a run directory is compared and replaced under the lock of the run. -/
def commitJob (current job : ExecutionJob Int) (expectedRevision : Int) : StoreWriteResult :=
  if current.asDict = job.asDict then ⟨.idempotent, current⟩
  else if expectedRevision ≠ current.revision then ⟨.stale, current⟩
  else if job.revision ≠ current.revision + 1 then ⟨.conflict, current⟩
  else if job.profile ≠ .workspaceLocal then ⟨.conflict, current⟩
  else if job.environmentIdentity ≠ current.environmentIdentity then ⟨.conflict, current⟩
  else ⟨.accepted, job⟩

def perform (call : StoreCall) (current : ExecutionJob Int) (now : Timestamp) :
    Except Raised StoreWriteResult := do
  match ← call.plan current now now with
  | .settle status => return ⟨status, current⟩
  | .commit candidate => return commitJob current candidate current.revision

/-- Only an accepted call replaces the record. -/
def after (result : StoreWriteResult) (current : ExecutionJob Int) : ExecutionJob Int :=
  if result.status = .accepted then result.job.stored else current

end WorkspaceRunStore

/-- A run keeps its engine state, its queue and its execution record, and its environment stays
the one that the record is bound to. -/
structure Workspace where
  state : RunState
  queue : Option WorkQueue
  job : ExecutionJob Int
  environment : RunEnvironmentIdentity

namespace Workspace

def total (workspace : Workspace) : Nat :=
  match workspace.queue with
  | some queue => queue.workUnits.length
  | none => workspace.state.inputCount

def completed (workspace : Workspace) : Nat :=
  match workspace.queue with
  | some queue => queue.completed
  | none => 0

def queueRevision (workspace : Workspace) : String :=
  match workspace.queue with
  | some queue => queue.queueRevision
  | none => ""

def checkpointForEngine (workspace : Workspace) : Except Raised (RunCheckpoint Int) := do
  let phase := workspace.state.phase
  let progress ← ProgressSnapshot.make Int (.str phase.value) (.int workspace.completed)
    (.int workspace.total) (.ofText? workspace.state.currentWorkUnit)
  RunCheckpoint.replace { workspace.job.checkpoint.toFields with
    revision := workspace.job.checkpoint.revision + 1
    enginePhase := phase.value
    progress
    engineStateRevision := workspace.state.revision
    queueRevision := .str workspace.queueRevision
    resumeEligibility := (operationalForPhase phase).eligibility
    checkpointSha256 := .str "" }

/-- Two checkpoints name the same engine state. -/
def sameCheckpoint (desired current : RunCheckpoint Int) : Bool :=
  desired.enginePhase == current.enginePhase && desired.progress == current.progress &&
    desired.engineStateRevision == current.engineStateRevision &&
    desired.queueRevision == current.queueRevision &&
    desired.resumeEligibility == current.resumeEligibility

def stale (message : String) (job : ExecutionJob Int) : Raised :=
  .kslide ⟨.executionStale, message, [("job_id", .str job.jobId)]⟩

/-- A changed engine state becomes the next checkpoint. -/
def syncCheckpoint (workspace : Workspace) (now : Timestamp) :
    Except Raised (ExecutionJob Int) := do
  raiseEnvironmentMismatch workspace.job.environmentIdentity (some workspace.environment)
  let desired ← workspace.checkpointForEngine
  if sameCheckpoint desired workspace.job.checkpoint then return workspace.job
  else
    let committed ← WorkspaceRunStore.perform
      (.commitCheckpoint desired workspace.job.revision) workspace.job now
    require committed.accepted (stale
      "Workspace execution checkpoint changed concurrently; reload before continuing."
      workspace.job)
    return WorkspaceRunStore.after committed workspace.job

/-- A changed phase becomes the next lifecycle. -/
def syncLifecycle (phase : RunPhase) (job : ExecutionJob Int) (now : Timestamp) :
    Except Raised (ExecutionJob Int) := do
  let desired := operationalForPhase phase
  if job.operational = desired then return job
  else
    let committed ← WorkspaceRunStore.perform (.transitionOperational job.jobId job.revision
      desired.lifecycle desired.outcome (some desired.eligibility)) job now
    require committed.accepted (stale
      "Workspace execution lifecycle changed concurrently; reload before continuing." job)
    return WorkspaceRunStore.after committed job

/-- A sync that fails after its first write leaves the new checkpoint behind. -/
def sync (workspace : Workspace) (now : Timestamp) : Except Raised Unit × Workspace :=
  match workspace.syncCheckpoint now with
  | .error error => (.error error, workspace)
  | .ok job =>
    match syncLifecycle workspace.state.phase job now with
    | .error error => (.error error, { workspace with job })
    | .ok job => (.ok (), { workspace with job })

/-- A created run has its first state and its first record. -/
def create (now : Timestamp) (runId : String) (environment : RunEnvironmentIdentity)
    (nextAction : Option String) : Except Raised Workspace := do
  let state : RunState :=
    { runId, phase := .created, inputCount := 0, currentWorkUnit := none, nextAction,
      errorCode := none, errorMessage := none, revision := 1 }
  let job ← ExecutionJob.new Int now runId .workspaceLocal "workspace" s!"workspace-{runId}"
    none none (.int 0) (.int 3) (.int state.revision) (some environment)
  return { state, queue := none, job := job.stored, environment }

end Workspace
end
end KSlide
