import KSlide.Execution.Store

/-
This file gives the identities of a durable job, of its scope and of its runtime.
-/

namespace KSlide

/-- The control state has no word for source material or secrets. -/
def forbiddenWords : List String :=
  ["access", "secret", "token", "password", "credential", "source", "content", "prompt"]

def isSafeIdentity (text : String) : Bool :=
  let letter (letter : Char) := Text.isAlnum letter || "_.:/-".toList.elem letter
  Text.isToken Text.isAlnum letter 255 text && !Text.mentions forbiddenWords text

def isStrictIdentifier (text : String) : Bool :=
  isIdentifier text && !Text.mentions forbiddenWords text

def safeIdentity (text label : String) : Except Raised Unit :=
  require (isSafeIdentity text) (.invalid s!"PaaS {label} is invalid.")

def strictIdentifier (text label : String) : Except Raised Unit :=
  require (isStrictIdentifier text) (.invalid s!"PaaS {label} is invalid.")

/-- The error of every scoped job that the caller cannot reach. -/
def scopedNotFound : Raised :=
  .kslide ⟨.executionNotFound, "Durable execution is unavailable.", []⟩

/-- The context that the deployment has authorized. -/
structure AuthorizedScopeContext where
  userRef : String
  workspaceRef : String
  scopeRef : String
  safe : isSafeIdentity userRef = true ∧ isSafeIdentity workspaceRef = true ∧
    isSafeIdentity scopeRef = true
deriving DecidableEq

def AuthorizedScopeContext.asDict (context : AuthorizedScopeContext) : Json := .obj [
  ("scope_ref", .str context.scopeRef),
  ("user_ref", .str context.userRef),
  ("workspace_ref", .str context.workspaceRef)]

def AuthorizedScopeContext.sample : AuthorizedScopeContext :=
  ⟨"user-1", "workspace-1", "scope-1", by decide⟩

/-- A durable job keeps its identity when its host reconnects. -/
structure DurableJobIdentity where
  runId : String
  jobId : String
  executionId : String
  scopeRef : String
  storeRef : String
  strict : isStrictIdentifier runId = true ∧ isStrictIdentifier jobId = true ∧
    isStrictIdentifier executionId = true
  references : isIdentifier scopeRef = true ∧ isIdentifier storeRef = true
deriving DecidableEq

namespace DurableJobIdentity

def asDict (identity : DurableJobIdentity) : Json := .obj [
  ("contract_version", .str "1.0"),
  ("execution_id", .str identity.executionId),
  ("job_id", .str identity.jobId),
  ("run_id", .str identity.runId),
  ("scope_ref", .str identity.scopeRef),
  ("store_ref", .str identity.storeRef)]

def sample : DurableJobIdentity :=
  ⟨"run-1", "job-1", "execution-1", "scope-1", "store-1", by decide, by decide⟩

/-- The constructor refuses the names that mention a forbidden word. -/
def fromJob [Sha256] (job : ExecutionJob Int) : Except Raised DurableJobIdentity :=
  if run : isStrictIdentifier job.runId = true then
    if name : isStrictIdentifier job.jobId = true then
      if execution : isStrictIdentifier job.executionId = true then
        .ok ⟨job.runId, job.jobId, job.executionId, job.storeRef.scopeRef, job.storeRef.storeRef,
          ⟨run, name, execution⟩, job.storeRef.valid⟩
      else .error (.invalid "PaaS execution ID is invalid.")
    else .error (.invalid "PaaS job ID is invalid.")
  else .error (.invalid "PaaS run ID is invalid.")

theorem fromJob_ok [Sha256] {job : ExecutionJob Int} {identity : DurableJobIdentity} :
    fromJob job = .ok identity ↔ job.runId = identity.runId ∧ job.jobId = identity.jobId ∧
      job.executionId = identity.executionId ∧ job.storeRef.scopeRef = identity.scopeRef ∧
      job.storeRef.storeRef = identity.storeRef := by
  unfold fromJob
  constructor
  · intro found
    split_ifs at found
    cases found
    exact ⟨rfl, rfl, rfl, rfl, rfl⟩
  · rintro ⟨run, name, execution, scope, store⟩
    obtain ⟨strictRun, strictName, strictExecution⟩ := identity.strict
    rw [dif_pos (run ▸ strictRun), dif_pos (name ▸ strictName), dif_pos (execution ▸ strictExecution)]
    cases identity
    simp_all

end DurableJobIdentity

def validateScopedIdentity (identity : DurableJobIdentity) : Except Raised Unit := do
  safeIdentity identity.runId "durable run ID"
  safeIdentity identity.jobId "durable job ID"
  safeIdentity identity.executionId "durable execution ID"
  safeIdentity identity.scopeRef "durable scope reference"
  safeIdentity identity.storeRef "durable store reference"

/-- The references of a worker's runtime. -/
structure RuntimeIdentity where
  runtimeRef : String
  modelIdentity : String
  ocrIdentity : String
  termbaseIdentity : String
  environmentIdentity : Option RunEnvironmentIdentity
deriving DecidableEq

namespace RuntimeIdentity

/-- The environment is not part of the written form. -/
def asDict (runtime : RuntimeIdentity) : Json := .obj [
  ("engine_contract_version", .str executionContractVersion),
  ("model_identity", .str runtime.modelIdentity),
  ("ocr_identity", .str runtime.ocrIdentity),
  ("runtime_ref", .str runtime.runtimeRef),
  ("termbase_identity", .str runtime.termbaseIdentity)]

def environment (runtime : RuntimeIdentity) : Except Raised RunEnvironmentIdentity :=
  match runtime.environmentIdentity with
  | some environment => .ok environment
  | none => .error (.invalid
      "PaaS runtime must provide a complete canonical KSA-10 environment identity.")

/-- A record is read back without the environment of its runtime. -/
def stored (runtime : RuntimeIdentity) : RuntimeIdentity :=
  { runtime with environmentIdentity := none }

def same (left right : RuntimeIdentity) : Bool := left.asDict = right.asDict

end RuntimeIdentity

/-- The references of a job stay in its scope. -/
structure ScopedArtifactReferences where
  scopeRef : String
  storeRef : String
  runRef : String
  resultRef : String
  evidenceRef : String
deriving DecidableEq

namespace ScopedArtifactReferences

def asDict (references : ScopedArtifactReferences) : Json := .obj [
  ("evidence_ref", .str references.evidenceRef),
  ("plane", .str "durable_user_workspace_run_data"),
  ("result_ref", .str references.resultRef),
  ("run_ref", .str references.runRef),
  ("scope_ref", .str references.scopeRef),
  ("storage_contract_version", .str "1.0"),
  ("store_ref", .str references.storeRef)]

/-- The constructor bounds the length of each reference. -/
def check (references : ScopedArtifactReferences) : Except Raised ScopedArtifactReferences := do
  safeIdentity references.scopeRef "artifact scope reference"
  safeIdentity references.storeRef "artifact store reference"
  safeIdentity references.runRef "run reference"
  safeIdentity references.resultRef "result reference"
  safeIdentity references.evidenceRef "evidence reference"
  return references

end ScopedArtifactReferences

section
variable [Sha256]

def scopeKey (context : AuthorizedScopeContext) : String :=
  ((stableRevision context.asDict).take 40).toString

def scopedReferences (identity : DurableJobIdentity) (context : AuthorizedScopeContext) :
    Except Raised ScopedArtifactReferences :=
  let place := s!"scoped/{scopeKey context}/jobs/{identity.jobId}"
  ScopedArtifactReferences.check ⟨identity.scopeRef, identity.storeRef,
    s!"{place}/run/{identity.runId}", s!"{place}/result", s!"{place}/evidence"⟩

namespace Json

mutual
/-- The keys and the texts of a value. -/
def texts : Json → List String
  | .str text => [text]
  | .arr items => textsOfItems items
  | .obj fields => textsOfFields fields
  | .null | .bool _ | .int _ | .real _ => []

def textsOfItems : List Json → List String
  | [] => []
  | item :: items => texts item ++ textsOfItems items

def textsOfFields : List (String × Json) → List String
  | [] => []
  | (key, value) :: fields => key :: texts value ++ textsOfFields fields
end

end Json

/-- The record of a job without its environment has no forbidden material. -/
def forbiddenMaterial (job : ExecutionJob Int) : Bool :=
  match job.asDict with
  | .obj fields => (Json.texts (.obj (fields.filter (·.1 != "environment_identity")))).any
      (Text.mentions forbiddenWords)
  | _ => false

def validateScopedJob (job : ExecutionJob Int) : Except Raised Unit := do
  require (job.profile == .durable) (.invalid "PaaS service accepts only the durable execution profile.")
  let identity ← DurableJobIdentity.fromJob job
  validateScopedIdentity identity
  require (!forbiddenMaterial job)
    (.invalid "Durable PaaS control state contains forbidden material.")

/-- A submission binds the environment of its runtime. -/
def bindRuntimeEnvironment (job : ExecutionJob Int) (runtime : RuntimeIdentity) :
    Except Raised (ExecutionJob Int × RunEnvironmentIdentity) := do
  let environment ← runtime.environment
  match job.environmentIdentity with
  | none =>
    let bound ← ExecutionJob.replace { job.toFields with environmentIdentity := some environment }
    return (bound, environment)
  | some found =>
    require (found == environment) (environmentMismatch
      "PaaS submission environment identity does not match the runtime binding."
      (environmentMismatchFields (some found) (some environment)))
    return (job, environment)

/-- The fields of a submission that a repeated submission must have again. -/
def submissionFingerprint (identity : DurableJobIdentity) (job : ExecutionJob Int)
    (runtime : RuntimeIdentity) : Except Raised String := do
  let environment ← match job.environmentIdentity with
    | some environment => .ok environment
    | none => runtime.environment
  return stableRevision (.obj [
    ("engine_state_revision", .int job.checkpoint.engineStateRevision),
    ("environment_identity", environment.asDict),
    ("identity", identity.asDict),
    ("max_attempts", .int job.retry.maxAttempts),
    ("runtime_identity", runtime.asDict),
    ("total_work_units", .int job.checkpoint.progress.totalWorkUnits)])

end
end KSlide
