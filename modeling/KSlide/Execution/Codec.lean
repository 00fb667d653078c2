import KSlide.Execution.Job

/-
This file gives the decoders of the execution records and their round trips.
-/

namespace KSlide
open List

variable {N : Type} [PythonInt N]

namespace RunStoreRef

def names : List String := ["scope_ref", "store_ref"]

theorem make_asDict (ref : RunStoreRef) :
    make (ref.asDict.field "scope_ref") (ref.asDict.field "store_ref") = .ok ref := by
  simp [asDict, Json.field, Json.get?, lookup_cons]

theorem asDict_eq {value : Json} {ref : RunStoreRef} (canonical : value.Canonical)
    (keys : value.hasKeys names = true)
    (made : make (value.field "scope_ref") (value.field "store_ref") = .ok ref) :
    ref.asDict = value := by
  rw [Json.eq_record canonical (by decide) keys]
  simp only [make_ok] at made
  simp [asDict, Json.record, names, made]

end RunStoreRef

namespace ProgressSnapshot

def names : List String :=
  ["completed_work_units", "current_work_unit", "engine_stage", "total_work_units"]

def fromFields (N : Type) [PythonInt N] (value : Json) : Except Raised (ProgressSnapshot N) :=
  make N (value.field "engine_stage") (value.field "completed_work_units")
    (value.field "total_work_units") (value.field "current_work_unit")

theorem fromFields_asDict (progress : ProgressSnapshot N) :
    fromFields N progress.asDict = .ok progress := by
  simp [fromFields, asDict, Json.field, Json.get?, lookup_cons]

theorem asDict_eq {value : Json} {progress : ProgressSnapshot N} (canonical : value.Canonical)
    (keys : value.hasKeys names = true) (made : fromFields N value = .ok progress) :
    progress.asDict = value := by
  rw [Json.eq_record canonical (by decide) keys]
  simp only [fromFields, make_ok] at made
  simp [asDict, Json.record, names, made]

end ProgressSnapshot

namespace CancellationState

def names : List String :=
  ["acknowledged", "acknowledged_at", "request_ref", "requested", "requested_at"]

def fromFields (value : Json) : Except Raised CancellationState :=
  make (value.field "requested") (value.field "acknowledged") (value.field "request_ref")
    (value.field "requested_at") (value.field "acknowledged_at")

theorem fromFields_asDict (cancellation : CancellationState) :
    fromFields cancellation.asDict = .ok cancellation := by
  simp [fromFields, asDict, Json.field, Json.get?, lookup_cons]

theorem asDict_eq {value : Json} {cancellation : CancellationState} (canonical : value.Canonical)
    (keys : value.hasKeys names = true) (made : fromFields value = .ok cancellation) :
    cancellation.asDict = value := by
  rw [Json.eq_record canonical (by decide) keys]
  simp only [fromFields, make_ok] at made
  simp [asDict, Json.record, names, made]

end CancellationState

/-- The constructor of an enumeration rejects a value that is not one of its texts. -/
def enumeration (Member : Type) [Text.Enumeration Member] (value : Json) : Except Raised Member :=
  match value with
  | .str text =>
    match Text.Enumeration.parse Member text with
    | some member => .ok member
    | none => .error (.other "ValueError")
  | _ => .error (.other "ValueError")

@[simp] theorem enumeration_ok {Member : Type} [Text.Enumeration Member] {value : Json}
    {member : Member} :
    enumeration Member value = .ok member ↔ value = .str (Text.Enumeration.value member) := by
  cases value with
  | str text =>
    simp only [enumeration, Json.str.injEq]
    rw [@eq_comm _ text, ← Text.Enumeration.parse_eq_some]
    cases Text.Enumeration.parse Member text <;> simp [eq_comm]
  | _ => simp [enumeration]

namespace RetryState

def names : List String := ["attempt", "disposition", "last_error_code", "max_attempts"]

def fromFields (N : Type) [PythonInt N] (value : Json) : Except Raised (RetryState N) := do
  let disposition ← enumeration RetryDisposition (value.field "disposition")
  make N (value.field "attempt") (value.field "max_attempts") disposition
    (value.field "last_error_code")

theorem fromFields_asDict (retry : RetryState N) : fromFields N retry.asDict = .ok retry := by
  simp [fromFields, asDict, Json.field, Json.get?, lookup_cons]

theorem asDict_eq {value : Json} {retry : RetryState N} (canonical : value.Canonical)
    (keys : value.hasKeys names = true) (made : fromFields N value = .ok retry) :
    retry.asDict = value := by
  rw [Json.eq_record canonical (by decide) keys]
  simp only [fromFields, bind_ok, enumeration_ok, make_ok] at made
  obtain ⟨disposition, parsed, made⟩ := made
  simp [asDict, Json.record, names, parsed, made]

end RetryState

namespace ResultCommitMarker

def names : List String :=
  ["attempt", "committed_at", "operation_id", "result_kind", "result_sha256"]

def fromFields (N : Type) [PythonInt N] (value : Json) : Except Raised (ResultCommitMarker N) :=
  make N (value.field "operation_id") (value.field "result_kind") (value.field "result_sha256")
    (value.field "attempt") (value.field "committed_at")

theorem fromFields_asDict (marker : ResultCommitMarker N) :
    fromFields N marker.asDict = .ok marker := by
  simp [fromFields, asDict, Json.field, Json.get?, lookup_cons]

theorem asDict_eq {value : Json} {marker : ResultCommitMarker N} (canonical : value.Canonical)
    (keys : value.hasKeys names = true) (made : fromFields N value = .ok marker) :
    marker.asDict = value := by
  rw [Json.eq_record canonical (by decide) keys]
  simp only [fromFields, make_ok] at made
  simp [asDict, Json.record, names, made]

end ResultCommitMarker

/-- A type or value error in a decoder becomes a corrupt state. -/
def shaped {Value : Type} (message : String) : Except Raised Value → Except Raised Value
  | .error (.other _) => .error (.corrupt message)
  | result => result

@[simp] theorem shaped_ok {Value : Type} {message : String} {result : Except Raised Value}
    {value : Value} : shaped message result = .ok value ↔ result = .ok value := by
  cases result with
  | ok found => rfl
  | error error => cases error <;> simp [shaped]

namespace ResultCommitMarker

/-- The markers are decoded in order. -/
def listFromDict (N : Type) [PythonInt N] :
    List Json → Except Raised (List (ResultCommitMarker N))
  | [] => .ok []
  | value :: rest => do
    require (value.hasKeys names)
      (.corrupt "Execution result marker is invalid.")
    let marker ← shaped "Execution result marker has an invalid shape."
      (fromFields N value)
    let markers ← listFromDict N rest
    return marker :: markers

theorem listFromDict_asDict (markers : List (ResultCommitMarker N)) :
    listFromDict N (markers.map asDict) = .ok markers := by
  induction markers with
  | nil => rfl
  | cons marker markers ih =>
    have keys : marker.asDict.hasKeys names = true := rfl
    simp [listFromDict, keys, fromFields_asDict, ih]

theorem list_asDict_eq {items : List Json} {markers : List (ResultCommitMarker N)}
    (canonical : Json.CanonicalItems items) (decoded : listFromDict N items = .ok markers) :
    markers.map asDict = items := by
  induction items generalizing markers with
  | nil =>
    cases decoded
    rfl
  | cons value items ih =>
    simp only [listFromDict, bind_ok, require_ok, shaped_ok, pure_ok] at decoded
    obtain ⟨_, keys, marker, made, rest, later, rfl⟩ := decoded
    rw [map_cons, ih canonical.2 later,
      asDict_eq canonical.1 keys made]

def markersFromDict (N : Type) [PythonInt N] (value : Json) :
    Except Raised (List (ResultCommitMarker N)) :=
  match value with
  | .arr items => listFromDict N items
  | _ => .error (.corrupt "Execution job result markers are invalid.")

theorem markers_asDict_eq {value : Json} {markers : List (ResultCommitMarker N)}
    (canonical : value.Canonical) (decoded : markersFromDict N value = .ok markers) :
    .arr (markers.map asDict) = value := by
  cases value with
  | arr items => rw [list_asDict_eq canonical decoded]
  | _ => cases decoded

end ResultCommitMarker

section
variable [Sha256]

namespace RunCheckpoint

def names : List String :=
  ["checkpoint_sha256", "engine_phase", "engine_state_revision", "execution_id", "job_id",
   "metadata", "progress", "queue_revision", "resume_eligibility", "revision", "run_id",
   "schema_version"]

def environmentNames : List String :=
  ["checkpoint_sha256", "engine_phase", "engine_state_revision", "environment_identity_sha256",
   "execution_id", "job_id", "metadata", "progress", "queue_revision", "resume_eligibility",
   "revision", "run_id", "schema_version"]

/-- The decoder reads a missing environment key as an empty text. -/
def environmentOf (value : Json) : Json :=
  (value.get? "environment_identity_sha256").getD (.str "")

/-- The decoder passes these values to the constructor. -/
def argsOf (value : Json) (progress : ProgressSnapshot N) (resumeEligibility : ResumeEligibility) :
    Args N where
  runId := value.field "run_id"
  jobId := value.field "job_id"
  executionId := value.field "execution_id"
  revision := value.field "revision"
  enginePhase := value.field "engine_phase"
  progress := progress
  engineStateRevision := value.field "engine_state_revision"
  queueRevision := value.field "queue_revision"
  resumeEligibility := resumeEligibility
  metadata := value.field "metadata"
  checkpointSha256 := value.field "checkpoint_sha256"
  schemaVersion := value.field "schema_version"
  environmentIdentitySha256 := environmentOf value

def checkpointFromDict (N : Type) [PythonInt N] (value : Json) :
    Except Raised (RunCheckpoint N) := do
  require value.isObject (.corrupt "Execution checkpoint must be an object.")
  require (value.field "schema_version" == .str runStoreSchemaVersion)
    (.unsupported "Unsupported execution checkpoint schema version.")
  require (value.hasKeys names || value.hasKeys environmentNames)
    (.corrupt "Execution checkpoint fields are unsupported or incomplete.")
  require ((value.field "progress").hasKeys ProgressSnapshot.names)
    (.corrupt "Execution checkpoint progress is invalid.")
  let progress ← ProgressSnapshot.fromFields N (value.field "progress")
  shaped "Execution checkpoint has an invalid shape." do
    let resumeEligibility ← enumeration ResumeEligibility (value.field "resume_eligibility")
    make (argsOf value progress resumeEligibility)

/-- The decoder fills the hash, sorts the metadata and drops a false environment. -/
def storedFields (checkpoint : RunCheckpoint N) : Fields N :=
  { checkpoint.toFields with
    metadata := checkpoint.sortedMetadata
    checkpointSha256 := .str checkpoint.computedSha256
    environmentIdentitySha256 :=
      if checkpoint.environmentIdentitySha256.truthy then checkpoint.environmentIdentitySha256
      else .str "" }

variable {value : Json} (checkpoint : RunCheckpoint N)

theorem storedFields_body : checkpoint.storedFields.body = checkpoint.body := by
  have sorted : checkpoint.storedFields.sortedMetadata = checkpoint.sortedMetadata :=
    (pairwise_insertionSort byKey checkpoint.metadata).insertionSort_eq
  unfold Fields.body
  rw [sorted]
  by_cases named : checkpoint.environmentIdentitySha256.truthy <;>
    simp [storedFields, named]

theorem storedFields_valid : checkpoint.storedFields.Valid := by
  have valid := checkpoint.valid
  have hash : checkpoint.storedFields.computedSha256 = checkpoint.computedSha256 := by
    rw [Fields.computedSha256, Fields.withoutHash, storedFields_body]
    rfl
  have bounded : MetadataValid checkpoint.sortedMetadata := by
    refine ⟨?_, fun item present => valid.bounded.2 item ?_⟩
    · rw [Fields.sortedMetadata, length_insertionSort]
      exact valid.bounded.1
    · exact (mem_insertionSort byKey).mp present
  refine { valid with bounded := bounded, hash := Or.inr (by rw [hash]; rfl), environment := ?_ }
  intro truthy
  by_cases named : checkpoint.environmentIdentitySha256.truthy
  · simpa [storedFields, named] using valid.environment named
  · simp [storedFields, named] at truthy

def stored (checkpoint : RunCheckpoint N) : RunCheckpoint N :=
  ⟨checkpoint.storedFields, checkpoint.storedFields_valid⟩

theorem stored_asDict : checkpoint.stored.asDict = checkpoint.asDict := by
  rw [asDict_hash, asDict_hash]
  have body : checkpoint.stored.body = checkpoint.body := checkpoint.storedFields_body
  rw [Fields.computedSha256, Fields.withoutHash, body]
  rfl

theorem stored_stored : checkpoint.stored.stored = checkpoint.stored := by
  have body : checkpoint.stored.body = checkpoint.body := checkpoint.storedFields_body
  have sorted : checkpoint.stored.sortedMetadata = checkpoint.sortedMetadata :=
    (pairwise_insertionSort byKey checkpoint.metadata).insertionSort_eq
  apply toFields_injective
  change checkpoint.stored.storedFields = checkpoint.storedFields
  rw [storedFields, sorted, Fields.computedSha256, Fields.withoutHash, body]
  by_cases named : checkpoint.environmentIdentitySha256.truthy <;>
    simp [stored, storedFields, named, Fields.computedSha256, Fields.withoutHash]

theorem argsOf_asDict : argsOf checkpoint.asDict checkpoint.progress checkpoint.resumeEligibility =
      checkpoint.stored.args := by
  rw [asDict_hash]
  by_cases named : checkpoint.environmentIdentitySha256.truthy <;>
    simp [argsOf, environmentOf, Fields.body, named, Json.field, Json.get?, lookup_cons, stored,
      storedFields, Fields.args]

theorem asDict_hasKeys :
    (checkpoint.asDict.hasKeys names || checkpoint.asDict.hasKeys environmentNames) = true := by
  rw [asDict_hash]
  by_cases named : checkpoint.environmentIdentitySha256.truthy <;>
    simp [Fields.body, named, Json.hasKeys, names, environmentNames]

theorem checkpointFromDict_asDict :
    checkpointFromDict N checkpoint.asDict = .ok checkpoint.stored := by
  have schema : checkpoint.asDict.field "schema_version" = .str runStoreSchemaVersion :=
    congrArg Args.schemaVersion checkpoint.argsOf_asDict
  have parts : checkpoint.asDict.field "progress" = checkpoint.progress.asDict ∧
      checkpoint.asDict.field "resume_eligibility" =
        .str (Text.Enumeration.value checkpoint.resumeEligibility) := by
    rw [asDict_hash]
    by_cases named : checkpoint.environmentIdentitySha256.truthy <;>
      simp [Fields.body, named, Json.field, Json.get?, lookup_cons]
  simp only [checkpointFromDict, bind_ok, require_ok, shaped_ok, enumeration_ok, make_ok]
  refine ⟨(), rfl, (), by simp [schema], (), checkpoint.asDict_hasKeys, (), ?_,
    checkpoint.progress, ?_, checkpoint.resumeEligibility, parts.2, ?_⟩
  · rw [parts.1]
    rfl
  · rw [parts.1, ProgressSnapshot.fromFields_asDict]
  · rw [argsOf_asDict, Fields.args_settled]

theorem kept_of_decoded {checkpoint : RunCheckpoint N}
    (decoded : checkpointFromDict N value = .ok checkpoint) :
    checkpoint.checkpointSha256 = value.field "checkpoint_sha256" ∧
      checkpoint.environmentIdentitySha256 = environmentOf value := by
  simp only [checkpointFromDict, bind_ok, require_ok, shaped_ok, enumeration_ok, make_ok] at decoded
  obtain ⟨_, _, _, _, _, _, _, _, _, _, _, _, same⟩ := decoded
  exact ⟨(congrArg Args.checkpointSha256 same).symm,
    (congrArg Args.environmentIdentitySha256 same).symm⟩

/-- These values of a decoded checkpoint are encoded as they were read. -/
structure Faithful (value : Json) : Prop where
  hash : (value.field "checkpoint_sha256").truthy = true
  metadata : (value.field "metadata").isObject = true
  environment : ∀ found, value.get? "environment_identity_sha256" = some found →
    found.truthy = true

theorem asDict_eq {checkpoint : RunCheckpoint N} (canonical : value.Canonical)
    (faithful : Faithful value) (decoded : checkpointFromDict N value = .ok checkpoint) :
    checkpoint.asDict = value := by
  simp only [checkpointFromDict, bind_ok, require_ok, shaped_ok, enumeration_ok, make_ok] at decoded
  obtain ⟨_, _, _, _, _, keys, _, progressKeys, progress, made, eligibility, parsed, same⟩ := decoded
  have progressEq := ProgressSnapshot.asDict_eq
    (Json.canonical_field canonical "progress") progressKeys made
  have canonicalMetadata := Json.canonical_field canonical "metadata"
  have settled : (argsOf value progress eligibility).settled = argsOf value progress eligibility := by
    simp [Args.settled, argsOf, Json.orEmpty_object faithful.metadata]
  rw [settled] at same
  simp only [argsOf, Fields.args, Args.mk.injEq] at same
  obtain ⟨run, job, execution, revision, phase, rfl, engine, queue, rfl, metadata, hash, schema,
    environment⟩ := same
  have sorted : checkpoint.sortedMetadata = checkpoint.metadata :=
    insertionSort_canonical (metadata ▸ canonicalMetadata)
  have hashEq := checkpoint.valid.hash.resolve_left (by simp [← hash, faithful.hash])
  rw [asDict_hash, ← hashEq, Fields.body, sorted]
  cases present : value.get? "environment_identity_sha256" with
  | none =>
    have plain : value.hasKeys names = true := Json.hasKeys_of_absent keys (by decide) present
    have unnamed : checkpoint.environmentIdentitySha256 = .str "" := by
      simpa [environmentOf, present] using environment.symm
    rw [Json.eq_record canonical (by decide) plain]
    simp [Json.record, names, run, job, execution, revision, phase, progressEq, engine, queue,
      metadata, hash, schema, parsed, unnamed]
  | some found =>
    have bound : value.hasKeys environmentNames = true :=
      Json.hasKeys_of_present keys (by decide) present
    have named : checkpoint.environmentIdentitySha256 = found := by
      simpa [environmentOf, present] using environment.symm
    have read : value.field "environment_identity_sha256" = found := by
      simp [Json.field, present]
    rw [Json.eq_record canonical (by decide) bound]
    simp [Json.record, environmentNames, run, job, execution, revision, phase, progressEq, engine,
      queue, metadata, hash, schema, parsed, named, read, faithful.environment found present]

end RunCheckpoint
namespace ExecutionJob

def names : List String :=
  ["cancellation", "checkpoint", "created_at", "execution_id", "job_id", "lifecycle", "profile",
   "record_sha256", "result_markers", "resume_eligibility", "retry", "revision", "run_id",
   "schema_version", "store_ref", "terminal_outcome", "updated_at"]

def environmentNames : List String :=
  ["cancellation", "checkpoint", "created_at", "environment_identity", "execution_id", "job_id",
   "lifecycle", "profile", "record_sha256", "result_markers", "resume_eligibility", "retry",
   "revision", "run_id", "schema_version", "store_ref", "terminal_outcome", "updated_at"]

def environmentFromDict (value : Json) : Except Raised (Option RunEnvironmentIdentity) :=
  match value.get? "environment_identity" with
  | none | some .null => .ok none
  | some found => some <$> RunEnvironmentIdentity.fromDict found

/-- The record hash covers every other field. -/
def hashValid (value : Json) : Bool :=
  value.field "record_sha256" == .str (stableRevision (value.without "record_sha256"))

def jobFromDict (N : Type) [PythonInt N] (value : Json) : Except Raised (ExecutionJob N) := do
  require value.isObject (.corrupt "Execution job must be an object.")
  require (value.field "schema_version" == .str executionContractVersion)
    (.unsupported "Unsupported execution contract version.")
  require (value.hasKeys names || value.hasKeys environmentNames)
    (.corrupt "Execution job fields are unsupported or incomplete.")
  require (hashValid value) (.corrupt "Execution job record hash is inconsistent.")
  require ((value.field "store_ref").hasKeys RunStoreRef.names)
    (.corrupt "Execution job store reference is invalid.")
  require ((value.field "cancellation").hasKeys CancellationState.names)
    (.corrupt "Execution job cancellation state is invalid.")
  require ((value.field "retry").hasKeys RetryState.names)
    (.corrupt "Execution job retry state is invalid.")
  let resultMarkers ← ResultCommitMarker.markersFromDict N (value.field "result_markers")
  shaped "Execution job has an invalid shape." do
    let profile ← enumeration ExecutionProfile (value.field "profile")
    let storeRef ← RunStoreRef.make ((value.field "store_ref").field "scope_ref")
      ((value.field "store_ref").field "store_ref")
    let lifecycle ← enumeration OperationalLifecycle (value.field "lifecycle")
    let checkpoint ← RunCheckpoint.checkpointFromDict N (value.field "checkpoint")
    let cancellation ← CancellationState.fromFields (value.field "cancellation")
    let retry ← RetryState.fromFields N (value.field "retry")
    let resumeEligibility ← enumeration ResumeEligibility (value.field "resume_eligibility")
    let terminalOutcome ← enumeration TerminalOutcome (value.field "terminal_outcome")
    let environmentIdentity ← environmentFromDict value
    make {
      runId := value.field "run_id", jobId := value.field "job_id",
      executionId := value.field "execution_id", profile, storeRef, lifecycle,
      revision := value.field "revision", checkpoint, cancellation, retry, resumeEligibility,
      terminalOutcome, createdAt := value.field "created_at",
      updatedAt := value.field "updated_at", schemaVersion := value.field "schema_version",
      resultMarkers, environmentIdentity }

/-- The decoder replaces the checkpoint by its stored form. -/
def stored (job : ExecutionJob N) : ExecutionJob N where
  toFields := { job.toFields with checkpoint := job.checkpoint.stored }
  valid := { job.valid with
    bound := by
      intro identity present
      have bound := job.valid.bound identity present
      simp [RunCheckpoint.stored, RunCheckpoint.storedFields, bound] }

variable {value : Json} (job : ExecutionJob N)

theorem stored_asDict : job.stored.asDict = job.asDict := by
  have front : front job.stored.toFields = front job.toFields := by
    simp [front, stored, RunCheckpoint.stored_asDict]
  simp only [asDict, recordSha256, withoutRecordHash, front]
  rfl

theorem stored_stored : job.stored.stored = job.stored := by
  apply toFields_injective
  simp only [stored, RunCheckpoint.stored_stored]

theorem recordSha256_absent (fields : Fields N) :
    "record_sha256" ∉ (front fields).map Prod.fst ∧
      "record_sha256" ∉ (back fields).map Prod.fst := by
  cases named : fields.environmentIdentity <;> simp [front, back, named]

theorem hashValid_asDict : hashValid job.asDict = true := by
  obtain ⟨before, after⟩ := recordSha256_absent job.toFields
  rw [hashValid, asDict, Json.field_between before, Json.without_between before after]
  exact beq_self_eq_true _

theorem asDict_hasKeys :
    (job.asDict.hasKeys names || job.asDict.hasKeys environmentNames) = true := by
  unfold asDict
  cases named : job.environmentIdentity <;>
    simp [front, back, named, Json.hasKeys, names, environmentNames]

theorem environmentFromDict_asDict :
    environmentFromDict job.asDict = .ok job.environmentIdentity := by
  unfold environmentFromDict asDict
  cases named : job.environmentIdentity with
  | none => simp [front, back, named, Json.get?, lookup_cons]
  | some identity =>
    have found := RunEnvironmentIdentity.fromDict_asDict identity
    simp only [RunEnvironmentIdentity.asDict, Json.record] at found
    simp [front, named, Json.get?, lookup_cons, RunEnvironmentIdentity.asDict, Json.record, found]

/-- The encoded job has one value for each key. -/
theorem asDict_fields :
    (job.asDict.field "run_id" = .str job.runId ∧ job.asDict.field "job_id" = .str job.jobId ∧
      job.asDict.field "execution_id" = .str job.executionId ∧
      job.asDict.field "revision" = PythonInt.toJson job.revision ∧
      job.asDict.field "created_at" = .ofText? job.createdAt ∧
      job.asDict.field "updated_at" = .ofText? job.updatedAt ∧
      job.asDict.field "schema_version" = .str executionContractVersion) ∧
    (job.asDict.field "profile" = .str (Text.Enumeration.value job.profile) ∧
      job.asDict.field "lifecycle" = .str (Text.Enumeration.value job.lifecycle) ∧
      job.asDict.field "resume_eligibility" = .str (Text.Enumeration.value job.resumeEligibility) ∧
      job.asDict.field "terminal_outcome" = .str (Text.Enumeration.value job.terminalOutcome)) ∧
    job.asDict.field "store_ref" = job.storeRef.asDict ∧
    job.asDict.field "checkpoint" = job.checkpoint.asDict ∧
    job.asDict.field "cancellation" = job.cancellation.asDict ∧
    job.asDict.field "retry" = job.retry.asDict ∧
    job.asDict.field "result_markers" =
      .arr (job.resultMarkers.map ResultCommitMarker.asDict) := by
  unfold asDict
  generalize Json.str job.recordSha256 = hash
  cases named : job.environmentIdentity <;>
    simp [front, back, named, Json.field, Json.get?, lookup_cons]

/-- A stored job is read back in its stored form. -/
theorem jobFromDict_asDict : jobFromDict N job.asDict = .ok job.stored := by
  obtain ⟨⟨run, name, execution, revision, created, updated, schema⟩,
    ⟨profile, lifecycle, eligibility, outcome⟩, store, checkpoint, cancellation, retry, markers⟩ :=
    job.asDict_fields
  simp only [jobFromDict, bind_ok, require_ok, shaped_ok, enumeration_ok, make_ok]
  refine ⟨(), rfl, (), by simp [schema], (), job.asDict_hasKeys, (), job.hashValid_asDict,
    (), by rw [store]; rfl, (), by rw [cancellation]; rfl, (), by rw [retry]; rfl,
    job.resultMarkers, ?_, job.profile, profile, job.storeRef, ?_, job.lifecycle, lifecycle,
    job.checkpoint.stored, ?_, job.cancellation, ?_, job.retry, ?_, job.resumeEligibility,
    eligibility, job.terminalOutcome, outcome, job.environmentIdentity,
    job.environmentFromDict_asDict, ?_, ?_⟩
  · rw [markers]
    exact ResultCommitMarker.listFromDict_asDict job.resultMarkers
  · rw [store]
    exact job.storeRef.make_asDict
  · rw [checkpoint]
    exact job.checkpoint.checkpointFromDict_asDict
  · rw [cancellation]
    exact job.cancellation.fromFields_asDict
  · rw [retry]
    exact job.retry.fromFields_asDict
  · exact bindEnvironment_bound job.stored.valid.bound
  · rw [run, name, execution, revision, created, updated, schema]
    rfl

/-- Two jobs have one encoding when they have one stored form. -/
theorem asDict_eq_iff {first second : ExecutionJob N} :
    first.asDict = second.asDict ↔ first.stored = second.stored := by
  constructor
  · intro same
    have decoded := first.jobFromDict_asDict
    rw [same, second.jobFromDict_asDict] at decoded
    exact (Except.ok.inj decoded).symm
  · intro same
    rw [← first.stored_asDict, same, second.stored_asDict]

/-- A complete environment is encoded as it was read. -/
theorem environment_asDict_eq {value found : Json} {environment : Option RunEnvironmentIdentity}
    (canonical : found.Canonical) (present : value.get? "environment_identity" = some found)
    (complete : found.hasKeys EnvironmentField.names = true)
    (decoded : environmentFromDict value = .ok environment) :
    ∃ identity, environment = some identity ∧ identity.asDict = found := by
  rw [environmentFromDict, present] at decoded
  cases found with
  | obj fields =>
    obtain ⟨identity, made, rfl⟩ := map_ok.mp decoded
    exact ⟨identity, rfl, RunEnvironmentIdentity.asDict_of_fromDict canonical complete made⟩
  | _ => simp [Json.hasKeys] at complete

/-- These values of a decoded job are encoded as they were read. -/
structure Faithful (value : Json) : Prop where
  checkpoint : RunCheckpoint.Faithful (value.field "checkpoint")
  environment : ∀ found, value.get? "environment_identity" = some found →
    found.hasKeys EnvironmentField.names = true

/-- The digest tells a checkpoint without an environment from the same checkpoint with one. -/
def Distinguished (N : Type) [PythonInt N] (value : Json) : Prop :=
  ∀ checkpoint : RunCheckpoint N,
    RunCheckpoint.checkpointFromDict N (value.field "checkpoint") = .ok checkpoint →
    checkpoint.environmentIdentitySha256.truthy = false → ∀ sha256 : String,
      { checkpoint.toFields with environmentIdentitySha256 := .str sha256 }.computedSha256 ≠
        checkpoint.computedSha256

/-- A checkpoint with its own hash cannot take another environment. -/
theorem bindEnvironment_hashed {environment : Option RunEnvironmentIdentity}
    {checkpoint bound : RunCheckpoint N}
    (found : bindEnvironment environment checkpoint = .ok bound)
    (hashed : checkpoint.checkpointSha256.truthy = true)
    (distinguished : checkpoint.environmentIdentitySha256.truthy = false → ∀ sha256 : String,
      { checkpoint.toFields with environmentIdentitySha256 := .str sha256 }.computedSha256 ≠
        checkpoint.computedSha256) :
    bound = checkpoint := by
  refine bindEnvironment_kept found fun some_environment => ?_
  by_contra unnamed
  obtain ⟨identity, rfl⟩ := Option.ne_none_iff_exists'.mp some_environment
  obtain ⟨same, named⟩ := bindEnvironment_ok found
  have fields : bound.toFields = { checkpoint.toFields with
      environmentIdentitySha256 := .str identity.identitySha256 } := by
    rw [RunCheckpoint.Fields.args_injective.eq_iff.symm, ← same, named identity rfl]
    rfl
  have hash := bound.valid.hash
  rw [fields] at hash
  have unchanged := checkpoint.valid.hash.resolve_left (by simp [hashed])
  rcases hash with absent | other
  · simp [hashed] at absent
  · exact distinguished (by simpa using unnamed) identity.identitySha256
      (Json.str.inj (other.symm.trans unchanged))

theorem asDict_eq {job : ExecutionJob N} (canonical : value.Canonical)
    (faithful : Faithful value) (distinguished : Distinguished N value)
    (decoded : jobFromDict N value = .ok job) : job.asDict = value := by
  simp only [jobFromDict, bind_ok, require_ok, shaped_ok, enumeration_ok, make_ok] at decoded
  obtain ⟨_, _, _, _, _, keys, _, hashed, _, storeKeys, _, cancellationKeys, _, retryKeys, markers,
    markersMade, profile, profileEq, store, storeMade, lifecycle, lifecycleEq, checkpoint,
    checkpointMade, cancellation, cancellationMade, retry, retryMade, eligibility, eligibilityEq,
    outcome, outcomeEq, environment, environmentMade, bound, same⟩ := decoded
  have part := fun name => Json.canonical_field canonical name
  have storeDict := RunStoreRef.asDict_eq (part "store_ref") storeKeys storeMade
  have cancellationDict := CancellationState.asDict_eq (part "cancellation") cancellationKeys
    cancellationMade
  have retryDict := RetryState.asDict_eq (part "retry") retryKeys retryMade
  have markersDict := ResultCommitMarker.markers_asDict_eq (part "result_markers") markersMade
  have checkpointDict := RunCheckpoint.asDict_eq (part "checkpoint") faithful.checkpoint
    checkpointMade
  have filled : checkpoint.checkpointSha256.truthy = true := by
    rw [(RunCheckpoint.kept_of_decoded checkpointMade).1]
    exact faithful.checkpoint.hash
  have kept : job.checkpoint = checkpoint :=
    bindEnvironment_hashed bound filled (distinguished checkpoint checkpointMade)
  simp only [Fields.args, Args.mk.injEq] at same
  obtain ⟨run, name, execution, rfl, rfl, rfl, revision, -, rfl, rfl, rfl, rfl, created, updated,
    schema, rfl, rfl⟩ := same
  have shape : value = .obj (front job.toFields ++
      ("record_sha256", value.field "record_sha256") :: back job.toFields) := by
    cases present : value.get? "environment_identity" with
    | none =>
      have plain := Json.hasKeys_of_absent keys (by decide) present
      rw [environmentFromDict, present] at environmentMade
      have unbound := (Except.ok.inj environmentMade).symm
      conv_lhs => rw [Json.eq_record canonical (by decide) plain]
      simp [front, back, unbound, Json.record, names, run, name, execution, revision, created,
        updated, schema, kept, profileEq, lifecycleEq, eligibilityEq, outcomeEq, storeDict,
        cancellationDict, retryDict, markersDict, checkpointDict]
    | some found =>
      have full := Json.hasKeys_of_present keys (by decide) present
      obtain ⟨identity, named, found_dict⟩ := environment_asDict_eq
        (Json.canonical_get? canonical present) present
        (faithful.environment found present) environmentMade
      have read : value.field "environment_identity" = identity.asDict := by
        rw [Json.field, present, found_dict]
        rfl
      conv_lhs => rw [Json.eq_record canonical (by decide) full]
      simp [front, back, named, Json.record, environmentNames, run, name, execution, revision,
        created, updated, schema, kept, profileEq, lifecycleEq, eligibilityEq, outcomeEq,
        storeDict, cancellationDict, retryDict, markersDict, checkpointDict, read]
  obtain ⟨before, after⟩ := recordSha256_absent job.toFields
  have hash : value.field "record_sha256" = .str job.recordSha256 := by
    rw [beq_iff_eq.mp hashed]
    conv_lhs => rw [shape, Json.without_between before after]
    rfl
  rw [shape, hash]
  rfl

/-- A faithful record carries the hash of its own checkpoint. -/
theorem checkpoint_verified {job : ExecutionJob N} (canonical : value.Canonical)
    (faithful : Faithful value) (distinguished : Distinguished N value)
    (decoded : jobFromDict N value = .ok job) :
    (value.field "checkpoint").field "checkpoint_sha256" =
      .str (stableRevision ((value.field "checkpoint").without "checkpoint_sha256")) := by
  have fields := job.asDict_fields.2.2.2.1
  rw [asDict_eq canonical faithful distinguished decoded] at fields
  rw [fields, job.checkpoint.asDict_hash, Json.field_first, Json.without_first]
  · rfl
  · unfold RunCheckpoint.Fields.body
    split <;> simp

/-- This checkpoint names no environment and no hash. -/
def unverifiedCheckpoint : RunCheckpoint JsonInt where
  runId := "run-1"
  jobId := "job-1"
  executionId := "execution-1"
  revision := .number 0
  enginePhase := "CREATED"
  progress := ⟨⟨"CREATED", .number 0, .number 1, none⟩, by
    constructor <;> decide⟩
  engineStateRevision := .number 0
  queueRevision := .str ""
  resumeEligibility := .eligible
  metadata := []
  checkpointSha256 := .str ""
  environmentIdentitySha256 := .str ""
  valid := by constructor <;> simp [MetadataValid] <;> decide

def unverifiedJob : ExecutionJob JsonInt where
  runId := "run-1"
  jobId := "job-1"
  executionId := "execution-1"
  profile := .durable
  storeRef := ⟨⟨"scope-1", "store-1"⟩, by constructor <;> decide⟩
  lifecycle := .queued
  revision := .number 0
  checkpoint := unverifiedCheckpoint
  cancellation := .initial
  retry := ⟨⟨.number 0, .number 3, .none, none⟩, by constructor <;> decide⟩
  resumeEligibility := .eligible
  terminalOutcome := .none
  createdAt := some ""
  updatedAt := some ""
  resultMarkers := []
  environmentIdentity := none
  valid := {
    run := (by decide : isIdentifier "run-1" = true)
    job := (by decide : isIdentifier "job-1" = true)
    execution := (by decide : isIdentifier "execution-1" = true)
    nonnegative := le_refl (0 : Int)
    checkpointRun := rfl
    checkpointJob := rfl
    checkpointExecution := rfl
    bound := by simp
    created := by simp [isMoment]
    updated := by simp [isMoment]
    settled := rfl
    few := Nat.zero_le _
    distinct := nodup_nil }

/-- This record has an empty checkpoint hash. -/
def unverifiedRecord : Json :=
  let front := [
    ("cancellation", unverifiedJob.cancellation.asDict),
    ("checkpoint", .obj (("checkpoint_sha256", .str "") :: unverifiedCheckpoint.body)),
    ("created_at", .str ""),
    ("execution_id", .str "execution-1"),
    ("job_id", .str "job-1"),
    ("lifecycle", .str "QUEUED"),
    ("profile", .str "durable")]
  let back := back unverifiedJob.toFields
  .obj (front ++ ("record_sha256", .str (stableRevision (.obj (front ++ back)))) :: back)

/-- The decoder accepts the record without a look at its checkpoint hash. -/
theorem unverifiedRecord_decoded : jobFromDict JsonInt unverifiedRecord = .ok unverifiedJob := by
  have canonicalHash : hashValid unverifiedRecord = true := by
    rw [hashValid, unverifiedRecord, Json.field_between (by simp), Json.without_between (by simp)]
    · exact beq_self_eq_true _
    · simp [back]
  simp only [jobFromDict, bind_ok, require_ok, shaped_ok, enumeration_ok, make_ok]
  refine ⟨(), rfl, (), rfl, (), rfl, (), canonicalHash, (), rfl, (), rfl, (), rfl, [], rfl,
    .durable, rfl, unverifiedJob.storeRef, ?_, .queued, rfl, unverifiedCheckpoint, ?_,
    unverifiedJob.cancellation, ?_, unverifiedJob.retry, ?_, .eligible, rfl, .none, rfl, none, rfl,
    rfl, rfl⟩
  · exact unverifiedJob.storeRef.make_asDict
  · simp only [RunCheckpoint.checkpointFromDict, bind_ok, require_ok, shaped_ok, enumeration_ok,
      RunCheckpoint.make_ok]
    refine ⟨(), rfl, (), rfl, (), rfl, (), rfl, unverifiedCheckpoint.progress, ?_, .eligible, rfl,
      rfl⟩
    exact unverifiedCheckpoint.progress.fromFields_asDict
  · exact unverifiedJob.cancellation.fromFields_asDict
  · exact unverifiedJob.retry.fromFields_asDict

theorem unverifiedRecord_canonical : unverifiedRecord.Canonical := by
  have progress : unverifiedCheckpoint.progress.asDict.Canonical := by
    refine ⟨(by decide : ProgressSnapshot.names.Pairwise (· < ·)), ?_⟩
    simp [Json.CanonicalFields, Json.Canonical, unverifiedCheckpoint]
  have checkpoint : (Json.obj
      (("checkpoint_sha256", .str "") :: unverifiedCheckpoint.body)).Canonical := by
    refine ⟨(by decide : RunCheckpoint.names.Pairwise (· < ·)), ?_⟩
    simp [Json.CanonicalFields, Json.Canonical, RunCheckpoint.Fields.body, unverifiedCheckpoint,
      metadataJson, RunCheckpoint.Fields.sortedMetadata] at progress ⊢
    exact progress
  have cancellation : unverifiedJob.cancellation.asDict.Canonical := by
    refine ⟨(by decide : CancellationState.names.Pairwise (· < ·)), ?_⟩
    simp [Json.CanonicalFields, Json.Canonical, unverifiedJob, CancellationState.initial]
  have retry : unverifiedJob.retry.asDict.Canonical := by
    refine ⟨(by decide : RetryState.names.Pairwise (· < ·)), ?_⟩
    simp [Json.CanonicalFields, Json.Canonical, unverifiedJob]
  have store : unverifiedJob.storeRef.asDict.Canonical := by
    refine ⟨(by decide : RunStoreRef.names.Pairwise (· < ·)), ?_⟩
    simp [Json.CanonicalFields, Json.Canonical]
  refine ⟨(by decide : names.Pairwise (· < ·)), ?_⟩
  simp only [Json.CanonicalFields, back, cancellation, checkpoint, retry, store, cons_append,
    nil_append, true_and, and_true]
  simp [Json.Canonical, Json.CanonicalItems, unverifiedJob]

end ExecutionJob
end

end KSlide
