import KSlide.Environment
import KSlide.Execution.Records

namespace KSlide

variable {N : Type} [PythonInt N]

structure RunCheckpoint.Fields (N : Type) [PythonInt N] where
  runId : String
  jobId : String
  executionId : String
  revision : N
  enginePhase : String
  progress : ProgressSnapshot N
  engineStateRevision : N
  queueRevision : Json
  resumeEligibility : ResumeEligibility
  metadata : List (String × String)
  checkpointSha256 : Json
  environmentIdentitySha256 : Json
deriving DecidableEq

/-- The constructor takes these raw values. -/
structure RunCheckpoint.Args (N : Type) [PythonInt N] where
  runId : Json
  jobId : Json
  executionId : Json
  revision : Json
  enginePhase : Json
  progress : ProgressSnapshot N
  engineStateRevision : Json
  queueRevision : Json
  resumeEligibility : ResumeEligibility
  metadata : Json
  checkpointSha256 : Json
  schemaVersion : Json
  environmentIdentitySha256 : Json

namespace RunCheckpoint

/-- A false metadata value stands for empty metadata. -/
def Args.settled (args : Args N) : Args N :=
  { args with metadata := args.metadata.orEmpty }

namespace Fields

def args (fields : Fields N) : Args N where
  runId := .str fields.runId
  jobId := .str fields.jobId
  executionId := .str fields.executionId
  revision := PythonInt.toJson fields.revision
  enginePhase := .str fields.enginePhase
  progress := fields.progress
  engineStateRevision := PythonInt.toJson fields.engineStateRevision
  queueRevision := fields.queueRevision
  resumeEligibility := fields.resumeEligibility
  metadata := metadataJson fields.metadata
  checkpointSha256 := fields.checkpointSha256
  schemaVersion := .str runStoreSchemaVersion
  environmentIdentitySha256 := fields.environmentIdentitySha256

theorem args_injective : Function.Injective (args : Fields N → Args N) := by
  rintro ⟨⟩ ⟨⟩ same
  simp only [args, Args.mk.injEq, Json.str.injEq] at same
  grind [metadataJson_injective, toJson_injective]

@[simp] theorem args_settled (fields : Fields N) : fields.args.settled = fields.args := by
  simp only [Args.settled, args, metadataJson_orEmpty]

def sortedMetadata (fields : Fields N) : List (String × String) :=
  fields.metadata.insertionSort byKey

/-- The environment key is present only when the checkpoint names an environment. -/
def body (fields : Fields N) : List (String × Json) :=
  [("engine_phase", .str fields.enginePhase),
   ("engine_state_revision", PythonInt.toJson fields.engineStateRevision)] ++
  (if fields.environmentIdentitySha256.truthy then
    [("environment_identity_sha256", fields.environmentIdentitySha256)] else []) ++
  [("execution_id", .str fields.executionId),
   ("job_id", .str fields.jobId),
   ("metadata", metadataJson fields.sortedMetadata),
   ("progress", fields.progress.asDict),
   ("queue_revision", fields.queueRevision),
   ("resume_eligibility", .str (Text.Enumeration.value fields.resumeEligibility)),
   ("revision", PythonInt.toJson fields.revision),
   ("run_id", .str fields.runId),
   ("schema_version", .str runStoreSchemaVersion)]

def withoutHash (fields : Fields N) : Json := .obj fields.body

def computedSha256 [Sha256] (fields : Fields N) : String := stableRevision fields.withoutHash

def asDict [Sha256] (fields : Fields N) : Json :=
  .obj (("checkpoint_sha256", if fields.checkpointSha256.truthy then fields.checkpointSha256
    else .str fields.computedSha256) :: fields.body)

def isQueueRevision (text : String) : Bool := Text.isSha256 text || isIdentifier text

@[mk_iff] structure Valid [Sha256] (fields : Fields N) : Prop where
  run : isIdentifier fields.runId = true
  job : isIdentifier fields.jobId = true
  execution : isIdentifier fields.executionId = true
  nonnegative : 0 ≤ PythonInt.toInt fields.revision
  phase : isPhase fields.enginePhase = true
  engine : 0 ≤ PythonInt.toInt fields.engineStateRevision
  queue : fields.queueRevision.truthy = true →
    ∃ text, fields.queueRevision = .str text ∧ isQueueRevision text = true
  bounded : MetadataValid fields.metadata
  hash : fields.checkpointSha256.truthy = false ∨
    fields.checkpointSha256 = .str fields.computedSha256
  environment : fields.environmentIdentitySha256.truthy = true →
    ∃ text, fields.environmentIdentitySha256 = .str text ∧ Text.isSha256 text = true

def check [Sha256] (args : Args N) : Except Raised (Fields N) := do
  let runId ← identifier args.runId "run ID"
  let jobId ← identifier args.jobId "job ID"
  let executionId ← identifier args.executionId "execution ID"
  let revision ← integer N args.revision (.invalid "Execution checkpoint revision is invalid.")
  require (0 ≤ PythonInt.toInt revision) (.invalid "Execution checkpoint revision is invalid.")
  let enginePhase ← KSlide.phase args.enginePhase "engine phase"
  let engineStateRevision ← integer N args.engineStateRevision
    (.invalid "Execution engine-state revision is invalid.")
  require (0 ≤ PythonInt.toInt engineStateRevision)
    (.invalid "Execution engine-state revision is invalid.")
  let queueRevision ← matchedIfTruthy isQueueRevision
    (.invalid "Execution queue revision is invalid.") args.queueRevision
  let metadata ← KSlide.metadata args.settled.metadata "checkpoint"
  let fields : Fields N := {
    runId, jobId, executionId, revision, enginePhase, progress := args.progress,
    engineStateRevision, queueRevision, resumeEligibility := args.resumeEligibility, metadata,
    checkpointSha256 := args.checkpointSha256,
    environmentIdentitySha256 := args.environmentIdentitySha256 }
  require (!args.checkpointSha256.truthy || args.checkpointSha256 == .str fields.computedSha256)
    (.corrupt "Execution checkpoint hash does not match its contents.")
  let _ ← matchedIfTruthy Text.isSha256
    (.corrupt "Execution checkpoint environment identity is invalid.")
    args.environmentIdentitySha256
  require (args.schemaVersion == .str runStoreSchemaVersion)
    (.unsupported "Unsupported execution checkpoint schema version.")
  return fields

theorem check_ok [Sha256] {args : Args N} {fields : Fields N} :
    check args = .ok fields ↔ args.settled = fields.args ∧ fields.Valid := by
  cases fields
  cases args
  simp only [check, Args.settled, Fields.args, bind_ok, identifier_ok, integer_ok, require_ok,
    phase_ok, matchedIfTruthy_ok, metadata_ok, pure_ok, valid_iff, Bool.or_eq_true,
    Bool.not_eq_true', decide_eq_true_eq, beq_iff_eq, Fields.mk.injEq, Args.mk.injEq]
  grind

end Fields
end RunCheckpoint

/-- A checkpoint is one monotonic resume point of a job. -/
structure RunCheckpoint (N : Type) [PythonInt N] [Sha256] extends RunCheckpoint.Fields N where
  valid : toFields.Valid

section
variable [Sha256]

instance [DecidableEq N] : DecidableEq (RunCheckpoint N)
  | ⟨first, _⟩, ⟨second, _⟩ => decidable_of_iff (first = second) (by simp)

namespace RunCheckpoint

theorem toFields_injective : Function.Injective (toFields : RunCheckpoint N → Fields N) := by
  rintro ⟨_, _⟩ ⟨_, _⟩ rfl
  rfl

def make (args : Args N) : Except Raised (RunCheckpoint N) :=
  construct (Fields.check args) fun fields found => ⟨fields, (Fields.check_ok.mp found).2⟩

@[simp] theorem make_ok {args : Args N} {checkpoint : RunCheckpoint N} :
    make args = .ok checkpoint ↔ args.settled = checkpoint.args := by
  rw [make, construct_ok toFields (fun _ _ => rfl) toFields_injective, Fields.check_ok]
  exact and_iff_left checkpoint.valid

/-- A replaced checkpoint passes through its constructor again. -/
def replace (fields : Fields N) : Except Raised (RunCheckpoint N) := make fields.args

@[simp] theorem replace_ok {fields : Fields N} {checkpoint : RunCheckpoint N} :
    replace fields = .ok checkpoint ↔ checkpoint.toFields = fields := by
  rw [replace, make_ok, Fields.args_settled, Fields.args_injective.eq_iff, eq_comm]

/-- A stored checkpoint carries the hash of its own contents. -/
theorem asDict_hash (checkpoint : RunCheckpoint N) :
    checkpoint.asDict = .obj (("checkpoint_sha256", .str checkpoint.computedSha256) ::
      checkpoint.body) := by
  unfold Fields.asDict
  split
  · next present =>
      rcases checkpoint.valid.hash with absent | same
      · simp [absent] at present
      · rw [same]
  · rfl

/-- The first checkpoint of a job has no completed work. -/
def initial (N : Type) [PythonInt N]
    (runId jobId executionId totalWorkUnits engineStateRevision : Json) :
    Except Raised (RunCheckpoint N) := do
  let progress ← ProgressSnapshot.make N (.str "CREATED") (.int 0) totalWorkUnits .null
  make {
    runId, jobId, executionId, revision := .int 0, enginePhase := .str "CREATED", progress,
    engineStateRevision, queueRevision := .str "", resumeEligibility := .eligible,
    metadata := .obj [], checkpointSha256 := .str "", schemaVersion := .str runStoreSchemaVersion,
    environmentIdentitySha256 := .str "" }

end RunCheckpoint
end

end KSlide
