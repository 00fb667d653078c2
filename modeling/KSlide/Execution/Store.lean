import KSlide.Execution.Codec
import KSlide.Interleaving.Discipline
import Mathlib.Logic.Function.Basic

/-
This file gives the compare-and-set store of the execution records and its calls.
-/

namespace KSlide
open Interleaving

/-- Only a few error codes allow another attempt. -/
def classifyOperationalFailure (errorCode : String) : FailureClass :=
  if errorCode ∈ [ErrorCode.verificationFailed.value, ErrorCode.completionBlocked.value,
      ErrorCode.staleEvidence.value] then .semanticRepair
  else if errorCode ∈ [ErrorCode.internal.value, ErrorCode.runtimeUnknown.value,
      ErrorCode.pptxConversionTimeout.value] then .retryable
  else .notRetryable

def operationalTransitions : OperationalLifecycle → List OperationalLifecycle
  | .queued => [.running, .canceled, .processingFailed]
  | .running => [.retrying, .completed, .canceled, .processingFailed]
  | .retrying => [.running, .retrying, .completed, .canceled, .processingFailed]
  | .completed => [.retrying]
  | .canceled => []
  | .processingFailed => []

section
variable [Sha256]

/-- The calls that change a stored job, with their arguments. -/
inductive StoreCall where
  | commitCheckpoint (checkpoint : RunCheckpoint Int) (expectedRevision : Int)
  | commitStep (checkpoint : RunCheckpoint Int) (marker : ResultCommitMarker Int)
      (expectedRevision : Int)
  | requestCancellation (jobId : String) (expectedRevision : Option Int)
  | acknowledgeCancellation (jobId : String) (expectedRevision : Int) (safeBoundary : Bool)
  | transitionOperational (jobId : String) (expectedRevision : Int)
      (lifecycle : OperationalLifecycle) (terminalOutcome : TerminalOutcome)
      (resumeEligibility : Option ResumeEligibility)
  | recordRetry (jobId : String) (expectedRevision : Int) (errorCode : String)
  | commitResult (jobId : String) (marker : ResultCommitMarker Int) (expectedRevision : Int)

def StoreCall.jobId : StoreCall → String
  | .commitCheckpoint checkpoint _ | .commitStep checkpoint _ _ => checkpoint.jobId
  | .requestCancellation jobId _ | .acknowledgeCancellation jobId _ _
  | .transitionOperational jobId _ _ _ _ | .recordRetry jobId _ _ | .commitResult jobId _ _ => jobId

/-- A call reads the record in one action and replaces it in a later action. -/
inductive StoreLabel where
  | load (jobId : String)
  | create (jobId : String)
  | begin (call : StoreCall)
  | commit (call : StoreCall)

structure StoreWriteResult where
  status : StoreWriteStatus
  job : ExecutionJob Int

/-- A repeated call is accepted without a write. -/
def StoreWriteResult.accepted (result : StoreWriteResult) : Bool :=
  result.status == .accepted || result.status == .idempotent

/-- The store keeps the decoded record of each job under its name, lists the names and reads a
clock. -/
structure RunStoreState where
  jobs : String → Option (ExecutionJob Int)
  names : List String
  clock : Nat → Timestamp
  listed : ∀ jobId, jobId ∈ names ↔ jobs jobId ≠ none
  valid : ∀ jobId job, jobs jobId = some job →
    job.jobId = jobId ∧ job.profile = .durable ∧ job.stored = job

namespace RunStoreState

def load (state : RunStoreState) (jobId : String) : Except Raised (ExecutionJob Int) := do
  require (isIdentifier jobId) (.invalid "Execution contract has an invalid job ID.")
  match state.jobs jobId with
  | none =>
    throw (.kslide ⟨.executionNotFound, "Execution job does not exist.", [("job_id", .str jobId)]⟩)
  | some job =>
    require (job.jobId == jobId && job.profile == .durable)
      (.kslide ⟨.executionConflict,
        "Execution job identity or profile does not match the adapter.", [("job_id", .str jobId)]⟩)
    return job

/-- A new store has no records. -/
def empty (clock : Nat → Timestamp) : RunStoreState where
  jobs _ := none
  names := []
  clock := clock
  listed := by simp
  valid := by simp

/-- A record that was written is read back in its stored form. -/
def write (state : RunStoreState) (job : ExecutionJob Int) (durable : job.profile = .durable) :
    RunStoreState where
  jobs := Function.update state.jobs job.jobId (some job.stored)
  names := if job.jobId ∈ state.names then state.names else state.names ++ [job.jobId]
  clock := state.clock
  listed := by
    intro jobId
    have listed := state.listed jobId
    by_cases same : jobId = job.jobId
    · subst same
      split <;> simp_all
    · rw [Function.update_of_ne same, ← listed]
      split <;> simp [same]
  valid := by
    intro jobId found present
    by_cases same : jobId = job.jobId
    · subst same
      rw [Function.update_self, Option.some.injEq] at present
      subst present
      exact ⟨rfl, durable, job.stored_stored⟩
    · rw [Function.update_of_ne same] at present
      exact state.valid jobId found present

/-- A call can read the clock twice. -/
def advance (state : RunStoreState) : RunStoreState :=
  { state with clock := fun tick => state.clock (tick + 2) }

end RunStoreState

abbrev StoreProgram (Result : Type) := Program StoreLabel RunStoreState Raised Result

namespace RunStore

def create (job : ExecutionJob Int) : StoreProgram StoreWriteResult :=
  if durable : job.profile = .durable then
    .transact (.create job.jobId) fun state =>
      match state.jobs job.jobId with
      | some existing =>
        if existing.asDict = job.asDict then (.ok ⟨.idempotent, existing⟩, state)
        else (.ok ⟨.conflict, existing⟩, state)
      | none => (.ok ⟨.accepted, job⟩, state.write job durable)
  else throw (.invalid "Execution job profile does not match the store adapter.")

/-- The record is compared and replaced under the lock of the job. -/
def compareAndSet (job : ExecutionJob Int) (expectedRevision : Int) (state : RunStoreState) :
    Except Raised StoreWriteResult × RunStoreState :=
  match state.jobs job.jobId with
  | none =>
    (.error (.kslide ⟨.executionNotFound, "Execution job does not exist.",
      [("job_id", .str job.jobId)]⟩), state)
  | some current =>
    if current.asDict = job.asDict then (.ok ⟨.idempotent, current⟩, state)
    else if expectedRevision ≠ current.revision then (.ok ⟨.stale, current⟩, state)
    else if job.revision ≠ current.revision + 1 then (.ok ⟨.conflict, current⟩, state)
    else if durable : job.profile = .durable then
      if job.environmentIdentity ≠ current.environmentIdentity then
        (.ok ⟨.conflict, current⟩, state)
      else (.ok ⟨.accepted, job⟩, state.write job durable)
    else (.ok ⟨.conflict, current⟩, state)

def commitJob (call : StoreCall) (job : ExecutionJob Int) (expectedRevision : Int) :
    StoreProgram StoreWriteResult :=
  .transact (.commit call) (compareAndSet job expectedRevision)

/-- A call settles on the loaded record or prepares its replacement. -/
inductive Plan where
  | settle (status : StoreWriteStatus)
  | commit (candidate : ExecutionJob Int)

def environmentName (job : ExecutionJob Int) : String :=
  match job.environmentIdentity with
  | some identity => identity.identitySha256
  | none => ""

def validateCheckpointEnvironment (current : ExecutionJob Int) (checkpoint : RunCheckpoint Int) :
    Except Raised Unit :=
  require (checkpoint.environmentIdentitySha256 == .str (environmentName current))
    (.kslide ⟨.executionEnvironmentMismatch,
      "Run checkpoint environment identity is incompatible; commit was refused.",
      [("mismatch_code", .str "KSLIDE_RUN_ENVIRONMENT_MISMATCH"),
       ("mismatch_fields", .arr [.str "checkpoint_environment_identity"])]⟩)

/-- The store fills the hash of a checkpoint that it takes over. -/
def normalizeCheckpoint (checkpoint : RunCheckpoint Int) : Except Raised (RunCheckpoint Int) :=
  RunCheckpoint.replace { checkpoint.toFields with checkpointSha256 := .str checkpoint.computedSha256 }

def planCommitCheckpoint (checkpoint : RunCheckpoint Int) (expectedRevision : Int)
    (current : ExecutionJob Int) (now _ : Timestamp) : Except Raised Plan := do
  validateCheckpointEnvironment current checkpoint
  if checkpoint.asDict = current.checkpoint.asDict then return .settle .idempotent
  else if expectedRevision ≠ current.revision then return .settle .stale
  else if checkpoint.revision ≠ current.checkpoint.revision + 1 then return .settle .conflict
  else
    let normalized ← normalizeCheckpoint checkpoint
    let candidate ← ExecutionJob.replace { current.toFields with
      checkpoint := normalized, revision := current.revision + 1, updatedAt := some now.text }
    return .commit candidate

def planCommitStep (checkpoint : RunCheckpoint Int) (marker : ResultCommitMarker Int)
    (expectedRevision : Int) (current : ExecutionJob Int) (now _ : Timestamp) :
    Except Raised Plan := do
  validateCheckpointEnvironment current checkpoint
  match current.resultMarkers.find? (·.operationId == marker.operationId) with
  | some existing =>
    if existing.asDict = marker.asDict ∧ current.checkpoint.asDict = checkpoint.asDict then
      return .settle .idempotent
    else return .settle .conflict
  | none =>
    if expectedRevision ≠ current.revision then return .settle .stale
    else if checkpoint.revision ≠ current.checkpoint.revision + 1 then return .settle .conflict
    else
      let normalized ← normalizeCheckpoint checkpoint
      let candidate ← ExecutionJob.replace { current.toFields with
        checkpoint := normalized, resultMarkers := current.resultMarkers ++ [marker],
        revision := current.revision + 1, updatedAt := some now.text }
      return .commit candidate

def planRequestCancellation (expectedRevision : Option Int) (current : ExecutionJob Int)
    (requested now : Timestamp) : Except Raised Plan :=
  if current.cancellation.requested then return .settle .idempotent
  else if current.lifecycle.terminal then return .settle .conflict
  else if expectedRevision.any (· != current.revision) then return .settle .stale
  else do
    let cancellation ← CancellationState.replace
      ⟨true, false, some s!"cancel-{current.jobId}", some requested.text, none⟩
    let candidate ← ExecutionJob.replace { current.toFields with
      cancellation, revision := current.revision + 1, updatedAt := some now.text }
    return .commit candidate

def planAcknowledgeCancellation (expectedRevision : Int) (safeBoundary : Bool)
    (current : ExecutionJob Int) (acknowledged now : Timestamp) : Except Raised Plan :=
  if current.cancellation.acknowledged then return .settle .idempotent
  else if !current.cancellation.requested then return .settle .conflict
  else if !safeBoundary then return .settle .conflict
  else if expectedRevision ≠ current.revision then return .settle .stale
  else do
    let cancellation ← CancellationState.replace { current.cancellation.toFields with
      acknowledged := true, acknowledgedAt := some acknowledged.text }
    let candidate ← ExecutionJob.replace { current.toFields with
      cancellation, lifecycle := .canceled, resumeEligibility := .notEligible,
      terminalOutcome := .canceled, revision := current.revision + 1, updatedAt := some now.text }
    return .commit candidate

def planTransitionOperational (expectedRevision : Int) (lifecycle : OperationalLifecycle)
    (terminalOutcome : TerminalOutcome) (resumeEligibility : Option ResumeEligibility)
    (current : ExecutionJob Int) (now _ : Timestamp) : Except Raised Plan :=
  if current.lifecycle = lifecycle ∧ current.terminalOutcome = terminalOutcome then
    return .settle .idempotent
  else if expectedRevision ≠ current.revision then return .settle .stale
  else if lifecycle ∉ operationalTransitions current.lifecycle then return .settle .conflict
  else if lifecycle = .completed ∧ terminalOutcome ∉ [TerminalOutcome.done, .needsReview] then
    return .settle .conflict
  else do
    -- A failed job always has the failed outcome and cannot be resumed.
    let terminalOutcome :=
      if lifecycle = .processingFailed then .processingFailed else terminalOutcome
    let resumeEligibility :=
      if lifecycle = .processingFailed then some .notEligible else resumeEligibility
    let candidate ← ExecutionJob.replace { current.toFields with
      lifecycle, terminalOutcome,
      resumeEligibility := resumeEligibility.getD current.resumeEligibility,
      revision := current.revision + 1, updatedAt := some now.text }
    return .commit candidate

/-- The last permitted attempt and a permanent error end the job. -/
def failedFields (current : ExecutionJob Int) (retry : RetryState Int) (now : Timestamp) :
    ExecutionJob.Fields Int :=
  { current.toFields with
    retry, lifecycle := .processingFailed, resumeEligibility := .notEligible,
    terminalOutcome := .processingFailed, revision := current.revision + 1,
    updatedAt := some now.text }

def planRecordRetry (expectedRevision : Int) (code : String) (current : ExecutionJob Int)
    (now _ : Timestamp) : Except Raised Plan :=
  if current.lifecycle = .processingFailed ∧ current.retry.disposition = .exhausted then
    return .settle .idempotent
  else if current.lifecycle ∈ [OperationalLifecycle.canceled, .completed] then
    return .settle .conflict
  else if classifyOperationalFailure code = .semanticRepair then
    throw (.invalid
      "Semantic verification failures use the bounded repair path, not operational retry.")
  else if expectedRevision ≠ current.revision then return .settle .stale
  else do
    let normalizedCode ← errorCode (.str code)
    let nextAttempt := current.retry.attempt + 1
    if classifyOperationalFailure code = .retryable ∧ nextAttempt < current.retry.maxAttempts then
      let retry ← RetryState.replace { current.retry.toFields with
        attempt := nextAttempt, disposition := .retryable, lastErrorCode := some normalizedCode }
      let candidate ← ExecutionJob.replace { current.toFields with
        retry, lifecycle := .retrying, revision := current.revision + 1,
        updatedAt := some now.text }
      return .commit candidate
    else if classifyOperationalFailure code = .retryable then
      let retry ← RetryState.replace { current.retry.toFields with
        attempt := current.retry.maxAttempts, disposition := .exhausted,
        lastErrorCode := some normalizedCode }
      let candidate ← ExecutionJob.replace (failedFields current retry now)
      return .commit candidate
    else
      let retry ← RetryState.replace { current.retry.toFields with
        disposition := .notRetryable, lastErrorCode := some normalizedCode }
      let candidate ← ExecutionJob.replace (failedFields current retry now)
      return .commit candidate

def planCommitResult (marker : ResultCommitMarker Int) (expectedRevision : Int)
    (current : ExecutionJob Int) (now _ : Timestamp) : Except Raised Plan :=
  match current.resultMarkers.find? (·.operationId == marker.operationId) with
  | some existing =>
    if existing.asDict = marker.asDict then return .settle .idempotent
    else return .settle .conflict
  | none =>
    if expectedRevision ≠ current.revision then return .settle .stale
    else if maxResultMarkers ≤ current.resultMarkers.length then return .settle .conflict
    else do
      let candidate ← ExecutionJob.replace { current.toFields with
        resultMarkers := current.resultMarkers ++ [marker],
        revision := current.revision + 1, updatedAt := some now.text }
      return .commit candidate

end RunStore

def StoreCall.plan : StoreCall → ExecutionJob Int → Timestamp → Timestamp →
    Except Raised RunStore.Plan
  | .commitCheckpoint checkpoint expectedRevision =>
    RunStore.planCommitCheckpoint checkpoint expectedRevision
  | .commitStep checkpoint marker expectedRevision =>
    RunStore.planCommitStep checkpoint marker expectedRevision
  | .requestCancellation _ expectedRevision => RunStore.planRequestCancellation expectedRevision
  | .acknowledgeCancellation _ expectedRevision safeBoundary =>
    RunStore.planAcknowledgeCancellation expectedRevision safeBoundary
  | .transitionOperational _ expectedRevision lifecycle terminalOutcome resumeEligibility =>
    RunStore.planTransitionOperational expectedRevision lifecycle terminalOutcome
      resumeEligibility
  | .recordRetry _ expectedRevision code => RunStore.planRecordRetry expectedRevision code
  | .commitResult _ marker expectedRevision => RunStore.planCommitResult marker expectedRevision

namespace RunStore

/-- The replacement is built outside the lock from the loaded record. -/
def perform (call : StoreCall) : StoreProgram StoreWriteResult := do
  let (current, first, second) ← Program.transact (.begin call) fun state =>
    ((fun job => (job, state.clock 0, state.clock 1)) <$> state.load call.jobId, state.advance)
  match ← Program.lift (call.plan current first second) with
  | .settle status => return ⟨status, current⟩
  | .commit candidate => commitJob call candidate current.revision

end RunStore
end
end KSlide
