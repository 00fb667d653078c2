import KSlide.Execution.Store

/-
This file says what an accepted store call changes in the record of its job.
-/

namespace KSlide
open Interleaving

section
variable [Sha256]

/-- The retry state after a failure counts the attempt or ends the attempts. -/
def nextRetry (retry : RetryState Int) (code : String) : RetryState.Fields Int :=
  if classifyOperationalFailure code = .retryable then
    if retry.attempt + 1 < retry.maxAttempts then
      { retry.toFields with
        attempt := retry.attempt + 1, disposition := .retryable, lastErrorCode := some code }
    else
      { retry.toFields with
        attempt := retry.maxAttempts, disposition := .exhausted, lastErrorCode := some code }
  else { retry.toFields with disposition := .notRetryable, lastErrorCode := some code }

/-- A failure leaves another attempt when it is retryable and attempts remain. -/
def Retries (retry : RetryState Int) (code : String) : Prop :=
  classifyOperationalFailure code = .retryable ∧ retry.attempt + 1 < retry.maxAttempts

instance (retry : RetryState Int) (code : String) : Decidable (Retries retry code) :=
  inferInstanceAs (Decidable (_ ∧ _))

/-- The written record differs from the loaded record as its call demands. -/
def Change (before after : ExecutionJob Int) : StoreCall → Prop
  | .commitCheckpoint checkpoint expectedRevision => ∃ now : Timestamp,
      expectedRevision = before.revision ∧
      checkpoint.revision = before.checkpoint.revision + 1 ∧
      checkpoint.environmentIdentitySha256 = .str (RunStore.environmentName before) ∧
      after.toFields = { before.toFields with
        checkpoint := checkpoint.stored, revision := before.revision + 1,
        updatedAt := some now.text }
  | .commitStep checkpoint marker expectedRevision => ∃ now : Timestamp,
      expectedRevision = before.revision ∧
      checkpoint.revision = before.checkpoint.revision + 1 ∧
      checkpoint.environmentIdentitySha256 = .str (RunStore.environmentName before) ∧
      marker.operationId ∉ before.operationIds ∧
      after.toFields = { before.toFields with
        checkpoint := checkpoint.stored, resultMarkers := before.resultMarkers ++ [marker],
        revision := before.revision + 1, updatedAt := some now.text }
  | .requestCancellation _ _ => ∃ (requested now : Timestamp) (cancellation : CancellationState),
      before.cancellation.requested = false ∧ before.lifecycle.terminal = false ∧
      cancellation.toFields =
        ⟨true, false, some s!"cancel-{before.jobId}", some requested.text, none⟩ ∧
      after.toFields = { before.toFields with
        cancellation, revision := before.revision + 1, updatedAt := some now.text }
  | .acknowledgeCancellation _ expectedRevision safeBoundary =>
    ∃ (acknowledged now : Timestamp) (cancellation : CancellationState),
    expectedRevision = before.revision ∧ safeBoundary = true ∧
    before.cancellation.requested = true ∧ before.cancellation.acknowledged = false ∧
    cancellation.toFields = { before.cancellation.toFields with
      acknowledged := true, acknowledgedAt := some acknowledged.text } ∧
    after.toFields = { before.toFields with
      cancellation, lifecycle := .canceled, resumeEligibility := .notEligible,
      terminalOutcome := .canceled, revision := before.revision + 1,
      updatedAt := some now.text }
  | .transitionOperational _ expectedRevision lifecycle terminalOutcome resumeEligibility =>
    ∃ now : Timestamp,
    expectedRevision = before.revision ∧ lifecycle ∈ operationalTransitions before.lifecycle ∧
    after.toFields = { before.toFields with
      lifecycle
      terminalOutcome :=
        if lifecycle = .processingFailed then .processingFailed else terminalOutcome
      resumeEligibility :=
        (if lifecycle = .processingFailed then some .notEligible else resumeEligibility).getD
          before.resumeEligibility
      revision := before.revision + 1, updatedAt := some now.text }
  | .recordRetry _ expectedRevision code => ∃ (now : Timestamp) (retry : RetryState Int),
      expectedRevision = before.revision ∧ before.lifecycle ≠ .canceled ∧
      before.lifecycle ≠ .completed ∧ retry.toFields = nextRetry before.retry code ∧
      after.toFields =
        if Retries before.retry code then { before.toFields with
          retry, lifecycle := .retrying, revision := before.revision + 1,
          updatedAt := some now.text }
        else RunStore.failedFields before retry now
  | .commitResult _ marker expectedRevision => ∃ now : Timestamp,
      expectedRevision = before.revision ∧ marker.operationId ∉ before.operationIds ∧
      after.toFields = { before.toFields with
        resultMarkers := before.resultMarkers ++ [marker], revision := before.revision + 1,
        updatedAt := some now.text }

namespace RunStore

variable {checkpoint normalized : RunCheckpoint Int} {condition : Prop} (current : ExecutionJob Int)
  {candidate : ExecutionJob Int} {fields : ExecutionJob.Fields Int}

/-- A replacement is planned only behind the checks that settle. -/
@[simp] theorem settle_else [Decidable condition] {status : StoreWriteStatus}
    {rest : Except Raised Plan} {candidate : ExecutionJob Int} :
    (if condition then pure (.settle status) else rest) = .ok (.commit candidate) ↔
      ¬condition ∧ rest = .ok (.commit candidate) := by
  by_cases holds : condition <;> simp [holds]

@[simp] theorem throw_else [Decidable condition] {error : Raised}
    {rest : Except Raised Plan} {candidate : ExecutionJob Int} :
    (if condition then throw error else rest) = .ok (.commit candidate) ↔
      ¬condition ∧ rest = .ok (.commit candidate) := by
  by_cases holds : condition <;> simp [holds, throw, throwThe, MonadExceptOf.throw]

theorem find?_marker {job : ExecutionJob Int} {operationId : String} :
    job.resultMarkers.find? (·.operationId == operationId) = none ↔
      operationId ∉ job.operationIds := by
  simp only [List.find?_eq_none, ExecutionJob.Fields.operationIds, List.mem_map, beq_iff_eq,
    not_exists, not_and]

/-- A job with the old checkpoint is replaced by the given values. -/
theorem replace_kept (replaced : ExecutionJob.replace fields = .ok candidate)
    (checkpoint : fields.checkpoint = current.checkpoint)
    (environment : fields.environmentIdentity = current.environmentIdentity) :
    candidate.toFields = fields := by
  refine (ExecutionJob.replace_ok ?_).mp replaced
  rw [checkpoint, environment]
  exact current.valid.bound

theorem replace_checkpoint (replaced : ExecutionJob.replace fields = .ok candidate)
    (named : fields.checkpoint.environmentIdentitySha256 = .str (environmentName current))
    (environment : fields.environmentIdentity = current.environmentIdentity) :
    candidate.toFields = fields := by
  refine (ExecutionJob.replace_ok ?_).mp replaced
  rw [named, environment]
  intro identity present
  rw [Option.mem_def] at present
  rw [environmentName, present]

@[simp] theorem validateCheckpointEnvironment_ok {current : ExecutionJob Int}
    {checkpoint : RunCheckpoint Int} {value : Unit} :
    validateCheckpointEnvironment current checkpoint = .ok value ↔
      checkpoint.environmentIdentitySha256 = .str (environmentName current) := by
  simp [validateCheckpointEnvironment]

@[simp] theorem normalizeCheckpoint_ok :
    normalizeCheckpoint checkpoint = .ok normalized ↔ normalized.toFields =
      { checkpoint.toFields with checkpointSha256 := .str checkpoint.computedSha256 } :=
  RunCheckpoint.replace_ok

/-- The hash that the store fills is the hash of the stored form. -/
theorem normalized_stored (fields : normalized.toFields =
      { checkpoint.toFields with checkpointSha256 := .str checkpoint.computedSha256 }) :
    normalized.stored = checkpoint.stored := by
  apply RunCheckpoint.toFields_injective
  change RunCheckpoint.storedFields normalized = RunCheckpoint.storedFields checkpoint
  simp only [RunCheckpoint.storedFields, fields]
  rfl

end RunStore

/-- A stored job keeps its checkpoint in stored form. -/
theorem ExecutionJob.checkpoint_stored {job : ExecutionJob Int} (stored : job.stored = job) :
    job.checkpoint.stored = job.checkpoint :=
  congrArg (fun found : ExecutionJob Int => found.checkpoint) stored

/-- A candidate with the old checkpoint is its own stored form. -/
theorem ExecutionJob.stored_of_kept {current candidate : ExecutionJob Int}
    (stored : current.stored = current) (kept : candidate.checkpoint = current.checkpoint) :
    candidate.stored = candidate := by
  apply ExecutionJob.toFields_injective
  have checkpoint : candidate.checkpoint.stored = candidate.checkpoint := by
    rw [kept, ExecutionJob.checkpoint_stored stored]
  simp only [ExecutionJob.stored, checkpoint]

open RunStore in
theorem Change.of_plan {call : StoreCall} {current candidate : ExecutionJob Int}
    {first second : Timestamp} (stored : current.stored = current)
    (planned : call.plan current first second = .ok (.commit candidate)) :
    Change current candidate.stored call := by
  have kept : candidate.checkpoint = current.checkpoint → candidate.stored = candidate :=
    ExecutionJob.stored_of_kept stored
  cases call with
  | commitCheckpoint checkpoint expectedRevision =>
    simp only [StoreCall.plan, planCommitCheckpoint, bind_ok, validateCheckpointEnvironment_ok,
      settle_else, normalizeCheckpoint_ok, pure_ok, Plan.commit.injEq, not_not] at planned
    obtain ⟨_, named, _, fresh, next, normalized, fields, _, replaced, rfl⟩ := planned
    replace replaced := replace_checkpoint current replaced (by simp [fields, named]) rfl
    refine ⟨first, fresh, next, named, ?_⟩
    simp only [ExecutionJob.stored, replaced, normalized_stored fields]
  | commitStep checkpoint marker expectedRevision =>
    simp only [StoreCall.plan, planCommitStep, bind_ok, validateCheckpointEnvironment_ok]
      at planned
    obtain ⟨_, named, planned⟩ := planned
    split at planned
    · split_ifs at planned <;> cases planned
    · next absent =>
      simp only [settle_else, bind_ok, normalizeCheckpoint_ok, pure_ok, Plan.commit.injEq,
        not_not] at planned
      obtain ⟨fresh, next, normalized, fields, _, replaced, rfl⟩ := planned
      replace replaced := replace_checkpoint current replaced (by simp [fields, named]) rfl
      refine ⟨first, fresh, next, named, find?_marker.mp absent, ?_⟩
      simp only [ExecutionJob.stored, replaced, normalized_stored fields]
  | requestCancellation jobId expectedRevision =>
    simp only [StoreCall.plan, planRequestCancellation, settle_else, bind_ok,
      CancellationState.replace_ok, pure_ok, Plan.commit.injEq, Bool.not_eq_true] at planned
    obtain ⟨requested, terminal, _, cancellation, fields, _, replaced, rfl⟩ := planned
    replace replaced := replace_kept current replaced rfl rfl
    refine ⟨first, second, cancellation, requested, terminal, fields, ?_⟩
    rw [kept (by rw [replaced]), replaced]
  | acknowledgeCancellation jobId expectedRevision safeBoundary =>
    simp only [StoreCall.plan, planAcknowledgeCancellation, settle_else, bind_ok,
      CancellationState.replace_ok, pure_ok, Plan.commit.injEq, Bool.not_eq_true,
      Bool.not_eq_false', not_not] at planned
    obtain ⟨acknowledged, requested, safe, fresh, cancellation, fields, _, replaced, rfl⟩ := planned
    replace replaced := replace_kept current replaced rfl rfl
    refine ⟨first, second, cancellation, fresh, safe, requested, acknowledged, fields, ?_⟩
    rw [kept (by rw [replaced]), replaced]
  | transitionOperational jobId expectedRevision lifecycle terminalOutcome resumeEligibility =>
    simp only [StoreCall.plan, planTransitionOperational, settle_else, bind_ok, pure_ok,
      Plan.commit.injEq, not_not] at planned
    obtain ⟨_, fresh, edge, _, _, replaced, rfl⟩ := planned
    replace replaced := replace_kept current replaced rfl rfl
    refine ⟨first, fresh, edge, ?_⟩
    rw [kept (by rw [replaced]), replaced]
  | recordRetry jobId expectedRevision code =>
    simp only [StoreCall.plan, planRecordRetry, settle_else, throw_else, bind_ok, errorCode_ok,
      Json.str.injEq, List.mem_cons, List.not_mem_nil, or_false, not_or, not_not] at planned
    obtain ⟨_, ⟨canceled, completed⟩, _, fresh, _, ⟨rfl, _⟩, planned⟩ := planned
    split_ifs at planned with retries exhausted
    all_goals
      simp only [bind_ok, RetryState.replace_ok, pure_ok, Plan.commit.injEq] at planned
      obtain ⟨retry, fields, _, replaced, rfl⟩ := planned
      replace replaced := replace_kept current replaced rfl rfl
      refine ⟨first, retry, fresh, canceled, completed, ?_, ?_⟩
      · rw [fields, nextRetry]
        grind
      · rw [kept (by rw [replaced]; try rfl), replaced]
        grind [Retries]
  | commitResult jobId marker expectedRevision =>
    simp only [StoreCall.plan, planCommitResult] at planned
    split at planned
    · split_ifs at planned <;> cases planned
    · next absent =>
      simp only [settle_else, bind_ok, pure_ok, Plan.commit.injEq, not_not] at planned
      obtain ⟨fresh, _, _, replaced, rfl⟩ := planned
      replace replaced := replace_kept current replaced rfl rfl
      refine ⟨first, fresh, find?_marker.mp absent, ?_⟩
      rw [kept (by rw [replaced]), replaced]

end
end KSlide
