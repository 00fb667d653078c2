import KSlide.Execution.Checkpoint

namespace KSlide

variable {N : Type} [PythonInt N]

structure ExecutionJob.Fields (N : Type) [PythonInt N] [Sha256] where
  runId : String
  jobId : String
  executionId : String
  profile : ExecutionProfile
  storeRef : RunStoreRef
  lifecycle : OperationalLifecycle
  revision : N
  checkpoint : RunCheckpoint N
  cancellation : CancellationState
  retry : RetryState N
  resumeEligibility : ResumeEligibility
  terminalOutcome : TerminalOutcome
  createdAt : Option String
  updatedAt : Option String
  resultMarkers : List (ResultCommitMarker N)
  environmentIdentity : Option RunEnvironmentIdentity
deriving DecidableEq

/-- The constructor takes these raw values. -/
structure ExecutionJob.Args (N : Type) [PythonInt N] [Sha256] where
  runId : Json
  jobId : Json
  executionId : Json
  profile : ExecutionProfile
  storeRef : RunStoreRef
  lifecycle : OperationalLifecycle
  revision : Json
  checkpoint : RunCheckpoint N
  cancellation : CancellationState
  retry : RetryState N
  resumeEligibility : ResumeEligibility
  terminalOutcome : TerminalOutcome
  createdAt : Json
  updatedAt : Json
  schemaVersion : Json
  resultMarkers : List (ResultCommitMarker N)
  environmentIdentity : Option RunEnvironmentIdentity

section
variable [Sha256]

namespace ExecutionJob

/-- A job with an environment writes its identity into the checkpoint. -/
def bindEnvironment (environment : Option RunEnvironmentIdentity) (checkpoint : RunCheckpoint N) :
    Except Raised (RunCheckpoint N) :=
  match environment with
  | none => .ok checkpoint
  | some identity =>
    match checkpoint.environmentIdentitySha256 with
    | .str found =>
      if found = "" then
        RunCheckpoint.make
          { checkpoint.args with environmentIdentitySha256 := .str identity.identitySha256 }
      else if found = identity.identitySha256 then .ok checkpoint
      else .error (.corrupt "Execution job and checkpoint environment identities do not match.")
    | .arr _ | .obj _ => .error (.other "TypeError")
    | _ => .error (.corrupt "Execution job and checkpoint environment identities do not match.")

variable {environment : Option RunEnvironmentIdentity} {checkpoint bound : RunCheckpoint N}

/-- The bound checkpoint differs only in the environment that it names. -/
theorem bindEnvironment_ok (found : bindEnvironment environment checkpoint = .ok bound) :
    { checkpoint.args with environmentIdentitySha256 := bound.environmentIdentitySha256 } =
        bound.args ∧
      ∀ identity ∈ environment, bound.environmentIdentitySha256 = .str identity.identitySha256 := by
  unfold bindEnvironment at found
  cases environment with
  | none =>
    cases found
    exact ⟨rfl, by simp⟩
  | some identity =>
    cases named : checkpoint.environmentIdentitySha256 with
    | str text =>
      simp only [named] at found
      split at found
      · simp only [RunCheckpoint.make_ok, RunCheckpoint.Args.settled, RunCheckpoint.Fields.args,
          metadataJson_orEmpty, RunCheckpoint.Args.mk.injEq] at found ⊢
        grind
      · split at found
        · next same =>
            cases found
            exact ⟨rfl, by simpa [same] using named⟩
        · cases found
    | _ =>
      simp only [named] at found
      cases found

theorem bindEnvironment_kept (found : bindEnvironment environment checkpoint = .ok bound)
    (named : environment ≠ none → checkpoint.environmentIdentitySha256.truthy = true) :
    bound = checkpoint := by
  unfold bindEnvironment at found
  cases environment with
  | none => exact (Except.ok.inj found).symm
  | some identity =>
    have truthy := named (by simp)
    cases text : checkpoint.environmentIdentitySha256 <;> simp only [text] at found truthy
    all_goals try contradiction
    grind [Json.truthy_str]

/-- A checkpoint that names the environment of the job stays as it is. -/
theorem bindEnvironment_bound {checkpoint : RunCheckpoint N}
    (bound : ∀ identity ∈ environment,
      checkpoint.environmentIdentitySha256 = .str identity.identitySha256) :
    bindEnvironment environment checkpoint = .ok checkpoint := by
  cases environment with
  | none => rfl
  | some identity =>
    have named := bound identity rfl
    simp [bindEnvironment, named]

namespace Fields

def args (fields : Fields N) : Args N where
  runId := .str fields.runId
  jobId := .str fields.jobId
  executionId := .str fields.executionId
  profile := fields.profile
  storeRef := fields.storeRef
  lifecycle := fields.lifecycle
  revision := PythonInt.toJson fields.revision
  checkpoint := fields.checkpoint
  cancellation := fields.cancellation
  retry := fields.retry
  resumeEligibility := fields.resumeEligibility
  terminalOutcome := fields.terminalOutcome
  createdAt := .ofText? fields.createdAt
  updatedAt := .ofText? fields.updatedAt
  schemaVersion := .str executionContractVersion
  resultMarkers := fields.resultMarkers
  environmentIdentity := fields.environmentIdentity

theorem args_injective : Function.Injective (args : Fields N → Args N) := by
  rintro ⟨⟩ ⟨⟩ same
  simp only [args, Args.mk.injEq, Json.str.injEq, Json.ofText?_inj] at same
  grind [toJson_injective]

def operationIds (fields : Fields N) : List String := fields.resultMarkers.map (·.operationId)

/-- The outcome of a job agrees with its lifecycle. -/
def Settled (fields : Fields N) : Prop :=
  match fields.lifecycle with
  | .canceled => fields.cancellation.acknowledged = true ∧ fields.terminalOutcome = .canceled
  | .processingFailed => fields.terminalOutcome = .processingFailed
  | .completed => fields.terminalOutcome = .done ∨ fields.terminalOutcome = .needsReview
  | .queued | .running | .retrying => fields.terminalOutcome = .none

@[mk_iff] structure Valid (fields : Fields N) : Prop where
  run : isIdentifier fields.runId = true
  job : isIdentifier fields.jobId = true
  execution : isIdentifier fields.executionId = true
  nonnegative : 0 ≤ PythonInt.toInt fields.revision
  checkpointRun : fields.checkpoint.runId = fields.runId
  checkpointJob : fields.checkpoint.jobId = fields.jobId
  checkpointExecution : fields.checkpoint.executionId = fields.executionId
  bound : ∀ identity ∈ fields.environmentIdentity,
    fields.checkpoint.environmentIdentitySha256 = .str identity.identitySha256
  created : ∀ text ∈ fields.createdAt, isMoment text = true
  updated : ∀ text ∈ fields.updatedAt, isMoment text = true
  settled : fields.Settled
  few : fields.resultMarkers.length ≤ maxResultMarkers
  distinct : fields.operationIds.Nodup

def check (args : Args N) : Except Raised (Fields N) := do
  let runId ← identifier args.runId "run ID"
  let jobId ← identifier args.jobId "job ID"
  let executionId ← identifier args.executionId "execution ID"
  let revision ← integer N args.revision (.invalid "Execution job revision is invalid.")
  require (0 ≤ PythonInt.toInt revision) (.invalid "Execution job revision is invalid.")
  require (args.checkpoint.runId == runId && args.checkpoint.jobId == jobId &&
      args.checkpoint.executionId == executionId)
    (.corrupt "Execution job and checkpoint identities do not match.")
  let checkpoint ← bindEnvironment args.environmentIdentity args.checkpoint
  let createdAt ← timestamp args.createdAt "job creation"
  let updatedAt ← timestamp args.updatedAt "job update"
  let fields : Fields N := {
    runId, jobId, executionId, profile := args.profile, storeRef := args.storeRef,
    lifecycle := args.lifecycle, revision, checkpoint, cancellation := args.cancellation,
    retry := args.retry, resumeEligibility := args.resumeEligibility,
    terminalOutcome := args.terminalOutcome, createdAt, updatedAt,
    resultMarkers := args.resultMarkers, environmentIdentity := args.environmentIdentity }
  require (args.lifecycle != .canceled ||
      (args.cancellation.acknowledged && args.terminalOutcome == .canceled))
    (.corrupt "Canceled execution lifecycle is inconsistent.")
  require (args.lifecycle != .processingFailed || args.terminalOutcome == .processingFailed)
    (.corrupt "Failed execution lifecycle is inconsistent.")
  require (args.lifecycle != .completed ||
      (args.terminalOutcome == .done || args.terminalOutcome == .needsReview))
    (.corrupt "Completed execution lifecycle is inconsistent.")
  require (args.lifecycle.terminal || args.terminalOutcome == .none)
    (.corrupt "Nonterminal execution lifecycle has a terminal outcome.")
  require (args.lifecycle != .canceled || args.terminalOutcome != .needsReview)
    (.corrupt "Canceled execution cannot have a semantic review outcome.")
  require (args.resultMarkers.length ≤ maxResultMarkers)
    (.invalid "Execution result markers exceed the bounded limit.")
  require (decide fields.operationIds.Nodup)
    (.corrupt "Execution result markers contain duplicate operation IDs.")
  require (args.schemaVersion == .str executionContractVersion)
    (.unsupported "Unsupported execution contract version.")
  return fields

theorem settled_iff (fields : Fields N) : fields.Settled ↔
    (fields.lifecycle ≠ .canceled ∨
      fields.cancellation.acknowledged = true ∧ fields.terminalOutcome = .canceled) ∧
    (fields.lifecycle ≠ .processingFailed ∨ fields.terminalOutcome = .processingFailed) ∧
    (fields.lifecycle ≠ .completed ∨
      (fields.terminalOutcome = .done ∨ fields.terminalOutcome = .needsReview)) ∧
    (fields.lifecycle.terminal = true ∨ fields.terminalOutcome = .none) ∧
    (fields.lifecycle ≠ .canceled ∨ fields.terminalOutcome ≠ .needsReview) := by
  unfold Settled
  cases fields.lifecycle <;> simp [OperationalLifecycle.terminal]
  grind

theorem check_ok {args : Args N} {fields : Fields N} :
    check args = .ok fields ↔
      bindEnvironment args.environmentIdentity args.checkpoint = .ok fields.checkpoint ∧
      { args with checkpoint := fields.checkpoint } = fields.args ∧ fields.Valid := by
  have bound : bindEnvironment args.environmentIdentity args.checkpoint = .ok fields.checkpoint →
      fields.checkpoint.runId = args.checkpoint.runId ∧
      fields.checkpoint.jobId = args.checkpoint.jobId ∧
      fields.checkpoint.executionId = args.checkpoint.executionId := by
    intro found
    have same := (bindEnvironment_ok found).1
    simp only [RunCheckpoint.Fields.args, RunCheckpoint.Args.mk.injEq] at same
    grind
  have named : bindEnvironment args.environmentIdentity args.checkpoint = .ok fields.checkpoint →
      ∀ identity ∈ args.environmentIdentity,
        fields.checkpoint.environmentIdentitySha256 = .str identity.identitySha256 :=
    fun found => (bindEnvironment_ok found).2
  cases fields
  cases args
  simp only [check, Fields.args, bind_ok, identifier_ok, integer_ok, require_ok, timestamp_ok,
    pure_ok, valid_iff, settled_iff, Bool.or_eq_true, Bool.and_eq_true, decide_eq_true_eq,
    beq_iff_eq, bne_iff_ne, ne_eq, Fields.mk.injEq, Args.mk.injEq] at bound named ⊢
  constructor
  · rintro ⟨run, ⟨rfl, run_valid⟩, job, ⟨rfl, job_valid⟩, execution, ⟨rfl, execution_valid⟩,
      number, rfl, _, nonnegative, _, ⟨⟨sameRun, sameJob⟩, sameExecution⟩, checkpoint, found,
      created, ⟨rfl, created_valid⟩, updated, ⟨rfl, updated_valid⟩, rest⟩
    grind
  · rintro ⟨found, same, valid⟩
    have ids := bound found
    grind

end Fields
end ExecutionJob

/-- A stored job is consistent by construction. -/
structure ExecutionJob (N : Type) [PythonInt N] [Sha256] extends ExecutionJob.Fields N where
  valid : toFields.Valid

instance [DecidableEq N] : DecidableEq (ExecutionJob N)
  | ⟨first, _⟩, ⟨second, _⟩ => decidable_of_iff (first = second) (by simp)

namespace ExecutionJob

theorem toFields_injective : Function.Injective (toFields : ExecutionJob N → Fields N) := by
  rintro ⟨_, _⟩ ⟨_, _⟩ rfl
  rfl

def make (args : Args N) : Except Raised (ExecutionJob N) :=
  construct (Fields.check args) fun fields found => ⟨fields, (Fields.check_ok.mp found).2.2⟩

theorem make_ok {args : Args N} {job : ExecutionJob N} :
    make args = .ok job ↔
      bindEnvironment args.environmentIdentity args.checkpoint = .ok job.checkpoint ∧
      { args with checkpoint := job.checkpoint } = job.args := by
  rw [make, construct_ok toFields (fun _ _ => rfl) toFields_injective, Fields.check_ok]
  exact ⟨fun found => ⟨found.1, found.2.1⟩, fun found => ⟨found.1, found.2, job.valid⟩⟩

/-- A replaced job passes through its constructor again. -/
def replace (fields : Fields N) : Except Raised (ExecutionJob N) := make fields.args

theorem replace_ok {fields : Fields N} {job : ExecutionJob N}
    (bound : ∀ identity ∈ fields.environmentIdentity,
      fields.checkpoint.environmentIdentitySha256 = .str identity.identitySha256) :
    replace fields = .ok job ↔ job.toFields = fields := by
  have kept : bindEnvironment fields.args.environmentIdentity fields.args.checkpoint =
      .ok fields.checkpoint := bindEnvironment_bound bound
  rw [replace, make_ok, kept]
  constructor
  · rintro ⟨same, args⟩
    rw [← Except.ok.inj same] at args
    exact (Fields.args_injective args).symm
  · rintro rfl
    exact ⟨rfl, rfl⟩

def front (fields : Fields N) : List (String × Json) :=
  [("cancellation", fields.cancellation.asDict),
   ("checkpoint", fields.checkpoint.asDict),
   ("created_at", .ofText? fields.createdAt)] ++
  (match fields.environmentIdentity with
    | none => []
    | some identity => [("environment_identity", identity.asDict)]) ++
  [("execution_id", .str fields.executionId),
   ("job_id", .str fields.jobId),
   ("lifecycle", .str (Text.Enumeration.value fields.lifecycle)),
   ("profile", .str (Text.Enumeration.value fields.profile))]

def back (fields : Fields N) : List (String × Json) :=
  [("result_markers", .arr (fields.resultMarkers.map ResultCommitMarker.asDict)),
   ("resume_eligibility", .str (Text.Enumeration.value fields.resumeEligibility)),
   ("retry", fields.retry.asDict),
   ("revision", PythonInt.toJson fields.revision),
   ("run_id", .str fields.runId),
   ("schema_version", .str executionContractVersion),
   ("store_ref", fields.storeRef.asDict),
   ("terminal_outcome", .str (Text.Enumeration.value fields.terminalOutcome)),
   ("updated_at", .ofText? fields.updatedAt)]

def withoutRecordHash (job : ExecutionJob N) : Json :=
  .obj (front job.toFields ++ back job.toFields)

def recordSha256 (job : ExecutionJob N) : String := stableRevision job.withoutRecordHash

/-- The record hash stands between the other fields in the order of the keys. -/
def asDict (job : ExecutionJob N) : Json :=
  .obj (front job.toFields ++ ("record_sha256", .str job.recordSha256) :: back job.toFields)

/-- A missing or empty name takes its default. -/
def nameOr (name : Option String) (fallback : String) : String :=
  match name with
  | some text => if text = "" then fallback else text
  | none => fallback

/-- A new job is queued at revision zero. -/
def new (N : Type) [PythonInt N] (now : Timestamp) (runId : String) (profile : ExecutionProfile)
    (scopeRef storeRef : String) (jobId executionId : Option String)
    (totalWorkUnits maxAttempts engineStateRevision : Json)
    (environmentIdentity : Option RunEnvironmentIdentity) : Except Raised (ExecutionJob N) := do
  let jobId := nameOr jobId s!"job-{runId}"
  let executionId := nameOr executionId s!"execution-{runId}"
  let checkpoint ← RunCheckpoint.initial N (.str runId) (.str jobId) (.str executionId)
    totalWorkUnits engineStateRevision
  let storeRef ← RunStoreRef.make (.str scopeRef) (.str storeRef)
  let retry ← RetryState.make N (.int 0) maxAttempts .none .null
  make {
    runId := .str runId, jobId := .str jobId, executionId := .str executionId, profile, storeRef,
    lifecycle := .queued, revision := .int 0, checkpoint, cancellation := .initial, retry,
    resumeEligibility := .eligible, terminalOutcome := .none, createdAt := .str now.text,
    updatedAt := .str now.text, schemaVersion := .str executionContractVersion,
    resultMarkers := [], environmentIdentity }

end ExecutionJob
end
end KSlide
