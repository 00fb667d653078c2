import KSlide.Digest
import KSlide.Governance.Reviews
import KSlide.Readings

/-
This file gives the selection of the required checks of a release.
-/

namespace KSlide

structure WorkflowAuthorization where
  context : String
  workflowPath : String
  workflowName : String
deriving DecidableEq

namespace Governance

def repositoryFullName : String := "kimhw8084/k-slide"

def requiredContexts : List String :=
  ["test (3.11)", "test (3.12)", "security", "fast (3.11)", "fast (3.12)"]

def authorizedWorkflows : List WorkflowAuthorization :=
  [⟨"test (3.11)", ".github/workflows/k-slide.yml", "K-Slide"⟩,
    ⟨"test (3.12)", ".github/workflows/k-slide.yml", "K-Slide"⟩,
    ⟨"security", ".github/workflows/k-slide-security.yml", "K-Slide security evidence"⟩,
    ⟨"fast (3.11)", ".github/workflows/k-slide-phase32.yml",
      "K-Slide Phase 3.5 execution isolation and heavy runtime"⟩,
    ⟨"fast (3.12)", ".github/workflows/k-slide-phase32.yml",
      "K-Slide Phase 3.5 execution isolation and heavy runtime"⟩]

def integrationAppId : Int := 15368

def integrationSlug : String := "github-actions"

end Governance

/-- A check and the job that reports it state the same facts. -/
structure CheckFacts where
  name : String
  headSha : Json
  status : String
  conclusion : Option String
  appId : Option Int
  appSlug : Option String
deriving DecidableEq

structure CheckRun where
  id : Int
  facts : CheckFacts
deriving DecidableEq

structure Workflow where
  id : Int
  name : String
  path : String
deriving DecidableEq

/-- A run is known without its jobs. -/
structure RunHeader where
  runId : Int
  workflowId : Int
  attempt : Int
  workflowPath : String
  workflowName : String
  event : String
  status : String
  conclusion : Option String
  associated : Bool
deriving DecidableEq

structure WorkflowJob where
  jobId : Int
  attempt : Int
  name : String
  facts : CheckFacts
  check : CheckRun
deriving DecidableEq

/-- A job that qualifies for a required check has the authorization of that check. -/
structure WorkflowRun where
  header : RunHeader
  jobs : List (WorkflowJob × Option WorkflowAuthorization)

structure RunMatch where
  run : RunHeader
  job : WorkflowJob
  authorization : WorkflowAuthorization
deriving DecidableEq

/-- The candidate whose checks are evaluated. -/
structure CheckScope where
  repositoryId : Int
  subjectSha : String
  pullNumber : Int
  headSha : String
  effectiveChecks : List (String × Int)

structure SelectedCheck where
  workflowRunId : Int
  workflowId : Int
  workflowPath : String
  attempt : Int
  jobId : Int
  checkId : Int
  identity : String
  appId : Int
deriving DecidableEq

namespace Governance

def textOrNull (code : String) : Json → Except Raised (Option String)
  | .null => .ok none
  | .str text => .ok (some text)
  | _ => .error (governanceRefused code)

def intOrNull (code : String) : Json → Except Raised (Option Int)
  | .null => .ok none
  | .int value => .ok (some value)
  | _ => .error (governanceRefused code)

def listOf (code : String) : Json → Except Raised (List Json)
  | .arr items => .ok items
  | _ => .error (governanceRefused code)

/-- A snapshot is complete when it says so. -/
def completeList (value : Json) (flag items code : String) : Except Raised (List Json) := do
  require (value.field flag = .bool true) (governanceRefused code)
  listOf code (value.field items)

/-- The snapshots of checks and jobs state their facts under the codes of the snapshot. -/
def readFacts (headSha code headCode wrongCode nameKey : String) (raw : Json) :
    Except Raised CheckFacts := do
  let head ← sha headCode (raw.field "head_sha")
  require (head = headSha) (governanceRefused wrongCode)
  let name ← string code (raw.field nameKey)
  let status ← string code (raw.field "status")
  let conclusion ← textOrNull code (raw.field "conclusion")
  let appId ← intOrNull code (raw.field "app_id")
  let appSlug ← textOrNull code (raw.field "app_slug")
  return ⟨name, raw.field "head_sha", status, conclusion, appId, appSlug⟩

def readCheckId (raw : Json) : Except Raised Int := do
  expectKeys raw ["id", "name", "head_sha", "status", "conclusion", "app_id", "app_slug"]
    "CHECK_RUN_SNAPSHOT_INVALID"
  int "CHECK_RUN_SNAPSHOT_INVALID" 1 (raw.field "id")

def readCheckFacts (headSha : String) (raw : Json) : Except Raised CheckFacts :=
  readFacts headSha "CHECK_RUN_SNAPSHOT_INVALID" "CHECK_RUN_HEAD_INVALID"
    "CHECK_RUN_WRONG_HEAD_SHA" "name" raw

def addCheck (headSha : String) (checks : List CheckRun) (raw : Json) :
    Except Raised (List CheckRun) := do
  let id ← readCheckId raw
  require (decide (id ∉ checks.map (·.id))) (governanceRefused "CHECK_RUN_ID_DUPLICATE")
  let facts ← readCheckFacts headSha raw
  return checks ++ [⟨id, facts⟩]

def readChecks (headSha : String) (value : Json) : Except Raised (List CheckRun) := do
  expectKeys value ["complete", "items"] "CHECK_RUN_SNAPSHOT_INVALID"
  let items ← completeList value "complete" "items" "CHECK_RUN_SNAPSHOT_INCOMPLETE"
  items.foldlM (addCheck headSha) []

def readWorkflow (raw : Json) : Except Raised Workflow := do
  let code := "WORKFLOW_CATALOG_INVALID"
  expectKeys raw ["id", "name", "path", "state"] code
  let id ← int code 1 (raw.field "id")
  let name ← string code (raw.field "name")
  let path ← string code (raw.field "path")
  let _ ← string code (raw.field "state")
  return ⟨id, name, path⟩

def addWorkflow (catalog : List Workflow) (raw : Json) : Except Raised (List Workflow) := do
  let workflow ← readWorkflow raw
  require (decide (∀ other ∈ catalog, other.id ≠ workflow.id ∧ other.path ≠ workflow.path))
    (governanceRefused "WORKFLOW_CATALOG_AMBIGUOUS")
  return catalog ++ [workflow]

def readCatalog (value : Json) : Except Raised (List Workflow) := do
  expectKeys value ["complete", "items"] "WORKFLOW_CATALOG_INVALID"
  let items ← completeList value "complete" "items" "WORKFLOW_CATALOG_INCOMPLETE"
  items.foldlM addWorkflow []

section
variable [Unicode]

/-- The name of the repository is compared without its case. -/
def isRepository (name : String) : Bool :=
  Unicode.casefold name.toList = Unicode.casefold repositoryFullName.toList

def bindProvenance (scope : CheckScope) (value : Json) : Except Raised Unit := do
  let mismatch := governanceRefused "WORKFLOW_RUN_CANDIDATE_BINDING_MISMATCH"
  let repository ← int "WORKFLOW_RUN_REPOSITORY_INVALID" 1 (value.field "repository_id")
  require (repository = scope.repositoryId) mismatch
  let name ← string "WORKFLOW_RUN_REPOSITORY_INVALID" (value.field "repository_full_name")
  require (isRepository name) mismatch
  let subject ← sha "WORKFLOW_RUN_SUBJECT_INVALID" (value.field "subject_sha")
  require (subject = scope.subjectSha) mismatch
  let pull ← int "WORKFLOW_RUN_PR_INVALID" 1 (value.field "pull_request_number")
  require (pull = scope.pullNumber) mismatch
  let head ← sha "WORKFLOW_RUN_HEAD_INVALID" (value.field "pull_request_head_sha")
  require (head = scope.headSha) mismatch

omit [Unicode] in
def addAssociation (scope : CheckScope) (seen : List (Int × String)) (raw : Json) :
    Except Raised (List (Int × String)) := do
  let code := "WORKFLOW_RUN_PR_ASSOCIATION_INVALID"
  expectKeys raw ["number", "head_sha"] code
  let number ← int code 1 (raw.field "number")
  let head ← sha code (raw.field "head_sha")
  require (decide ((number, head) ∉ seen))
    (governanceRefused "WORKFLOW_RUN_PR_ASSOCIATION_DUPLICATE")
  require (number = scope.pullNumber)
    (governanceRefused "WORKFLOW_RUN_PR_ASSOCIATION_CONTRADICTION")
  require (head = scope.headSha) (governanceRefused "WORKFLOW_RUN_PR_HEAD_MISMATCH")
  return seen ++ [(number, head)]

omit [Unicode] in
/-- A run without associations counts for the pull request. -/
def readAssociations (scope : CheckScope) (value : Json) : Except Raised Bool := do
  let associations ← listOf "WORKFLOW_RUN_PR_ASSOCIATION_INVALID" value
  let seen ← associations.foldlM (addAssociation scope) []
  return associations.isEmpty || !seen.isEmpty

omit [Unicode] in
def readRunId (raw : Json) : Except Raised (Int × Int × Int) := do
  let code := "WORKFLOW_RUN_SNAPSHOT_INVALID"
  expectKeys raw ["repository_id", "repository_full_name", "run_id", "workflow_id",
    "workflow_path", "workflow_name", "event", "head_sha", "pull_requests", "run_attempt",
    "status", "conclusion", "jobs_complete", "jobs"] code
  let runId ← int code 1 (raw.field "run_id")
  let workflowId ← int code 1 (raw.field "workflow_id")
  let attempt ← int code 1 (raw.field "run_attempt")
  return (runId, workflowId, attempt)

/-- The workflow of a run stands in the catalog. -/
def readHeader (scope : CheckScope) (catalog : Int → Option Workflow)
    (ids : Int × Int × Int) (raw : Json) : Except Raised RunHeader := do
  let code := "WORKFLOW_RUN_SNAPSHOT_INVALID"
  let repository ← int "WORKFLOW_RUN_REPOSITORY_INVALID" 1 (raw.field "repository_id")
  require (repository = scope.repositoryId) (governanceRefused "WORKFLOW_RUN_REPOSITORY_MISMATCH")
  let fullName ← string "WORKFLOW_RUN_REPOSITORY_INVALID" (raw.field "repository_full_name")
  require (isRepository fullName) (governanceRefused "WORKFLOW_RUN_REPOSITORY_MISMATCH")
  let path ← string "WORKFLOW_RUN_WORKFLOW_INVALID" (raw.field "workflow_path")
  let name ← string "WORKFLOW_RUN_WORKFLOW_INVALID" (raw.field "workflow_name")
  require (catalog ids.2.1 = some ⟨ids.2.1, name, path⟩)
    (governanceRefused "WORKFLOW_RUN_WORKFLOW_IDENTITY_MISMATCH")
  let head ← sha "WORKFLOW_RUN_HEAD_INVALID" (raw.field "head_sha")
  require (head = scope.headSha) (governanceRefused "WORKFLOW_RUN_WRONG_HEAD_SHA")
  let event ← string "WORKFLOW_RUN_EVENT_INVALID" (raw.field "event")
  let status ← string code (raw.field "status")
  let conclusion ← textOrNull code (raw.field "conclusion")
  let associated ← readAssociations scope (raw.field "pull_requests")
  return ⟨ids.1, ids.2.1, ids.2.2, path, name, event, status, conclusion, associated⟩

end

/-- The identifiers of a job are those of its run, of itself and of its check. -/
structure JobIds where
  runId : Int
  jobId : Int
  checkId : Int
  attempt : Int

def readJobIds (raw : Json) : Except Raised JobIds := do
  let code := "WORKFLOW_JOB_SNAPSHOT_INVALID"
  expectKeys raw ["workflow_run_id", "job_id", "check_run_id", "run_attempt", "name", "check_name",
    "head_sha", "status", "conclusion", "app_id", "app_slug"] code
  let runId ← int code 1 (raw.field "workflow_run_id")
  let jobId ← int code 1 (raw.field "job_id")
  let checkId ← int code 1 (raw.field "check_run_id")
  let attempt ← int code 1 (raw.field "run_attempt")
  return ⟨runId, jobId, checkId, attempt⟩

def checkOf (checks : Int → Option CheckRun) (id : Int) : Except Raised CheckRun :=
  match checks id with
  | some check => .ok check
  | none => .error (governanceRefused "WORKFLOW_JOB_CHECK_RUN_MISSING")

/-- A job belongs to its run and repeats the facts of its check. -/
def readJob (scope : CheckScope) (checks : Int → Option CheckRun) (run : RunHeader) (ids : JobIds)
    (raw : Json) : Except Raised WorkflowJob := do
  require (ids.runId = run.runId && ids.jobId = ids.checkId && decide (ids.attempt ≤ run.attempt))
    (governanceRefused "WORKFLOW_JOB_ATTEMPT_BINDING_INVALID")
  let facts ← readFacts scope.headSha "WORKFLOW_JOB_SNAPSHOT_INVALID" "WORKFLOW_JOB_HEAD_INVALID"
    "WORKFLOW_JOB_WRONG_HEAD_SHA" "check_name" raw
  let name ← string "WORKFLOW_JOB_SNAPSHOT_INVALID" (raw.field "name")
  let check ← checkOf checks ids.checkId
  require (check.facts = facts) (governanceRefused "WORKFLOW_JOB_CHECK_RUN_MISMATCH")
  return ⟨ids.jobId, ids.attempt, name, facts, check⟩

/-- Jobs of earlier attempts and of pushes and jobs without a required check are ignored. -/
def qualify (run : RunHeader) (job : WorkflowJob) : Except Raised (Option WorkflowAuthorization) :=
  if job.attempt ≠ run.attempt then .ok none
  else if run.event = "push" then .ok none
  else
    match authorizedWorkflows.find? (·.context == job.name) with
    | none => .ok none
    | some authorization =>
      if run.event ≠ "pull_request" then
        .error (governanceRefused "WORKFLOW_RUN_EVENT_INVALID_FOR_REQUIRED_CHECK")
      else if run.associated = false then .ok none
      else if job.name ≠ job.facts.name then
        .error (governanceRefused "WORKFLOW_JOB_CHECK_NAME_MISMATCH")
      else if run.workflowPath ≠ authorization.workflowPath ∨
          run.workflowName ≠ authorization.workflowName then
        .error (governanceRefused "WORKFLOW_RUN_NOT_AUTHORIZED_FOR_REQUIRED_CHECK")
      else .ok (some authorization)

/-- The jobs of one run have different keys, and other runs have other identifiers. -/
def addJob (scope : CheckScope) (checks : Int → Option CheckRun) (run : RunHeader)
    (jobs : List (WorkflowJob × Option WorkflowAuthorization)) (raw : Json) :
    Except Raised (List (WorkflowJob × Option WorkflowAuthorization)) := do
  let ids ← readJobIds raw
  require (decide ((ids.attempt, ids.jobId) ∉ jobs.map fun entry =>
    (entry.1.attempt, entry.1.jobId))) (governanceRefused "WORKFLOW_JOB_ID_DUPLICATE")
  let job ← readJob scope checks run ids raw
  let authorization ← qualify run job
  return jobs ++ [(job, authorization)]

section
variable [Unicode]

def addRun (scope : CheckScope) (checks : Int → Option CheckRun) (catalog : Int → Option Workflow)
    (runs : List WorkflowRun) (raw : Json) : Except Raised (List WorkflowRun) := do
  let ids ← readRunId raw
  require (decide (ids.1 ∉ runs.map (·.header.runId)))
    (governanceRefused "WORKFLOW_RUN_ID_DUPLICATE")
  let header ← readHeader scope catalog ids raw
  let items ← completeList raw "jobs_complete" "jobs" "WORKFLOW_JOB_SNAPSHOT_INCOMPLETE"
  let jobs ← items.foldlM (addJob scope checks header) []
  return runs ++ [⟨header, jobs⟩]

omit [Unicode] in
def runsByContext (runs : List WorkflowRun) (context : String) : List RunMatch :=
  runs.flatMap fun run => run.jobs.filterMap fun entry =>
    if entry.1.name = context then entry.2.map fun authorization =>
      ⟨run.header, entry.1, authorization⟩
    else none

omit [Unicode] in
def selectRun (runs : List WorkflowRun) (context : String) : Except Raised RunMatch :=
  match runsByContext runs context with
  | [selected] => .ok selected
  | _ => .error (governanceRefused "CHECK_RUN_MISSING_OR_AMBIGUOUS")

omit [Unicode] in
def appOf (job : WorkflowJob) : Except Raised Int :=
  match job.facts.appId with
  | some app => if 1 ≤ app then .ok app else .error (governanceRefused "CHECK_RUN_APP_MISSING")
  | none => .error (governanceRefused "CHECK_RUN_APP_MISSING")

omit [Unicode] in
/-- A completed and successful state. -/
def succeeded (status : String) (conclusion : Option String) : Bool :=
  status == "completed" && conclusion == some "success"

omit [Unicode] in
def checkIdentity [Sha256] (scope : CheckScope) (context : String) (found : RunMatch)
    (appId : Int) : String :=
  stableRevision (.obj [("app_id", .int appId), ("app_slug", .str integrationSlug),
    ("check_name", .str context), ("check_run_id", .int found.job.check.id),
    ("conclusion", .str "success"), ("event", .str "pull_request"),
    ("head_sha", .str scope.headSha), ("job_id", .int found.job.jobId),
    ("job_name", .str context), ("pull_request_number", .int scope.pullNumber),
    ("repository_id", .int scope.repositoryId), ("run_attempt", .int found.run.attempt),
    ("status", .str "completed"), ("workflow_id", .int found.run.workflowId),
    ("workflow_name", .str found.authorization.workflowName),
    ("workflow_path", .str found.authorization.workflowPath),
    ("workflow_run_id", .int found.run.runId)])

omit [Unicode] in
def describeCheck [Sha256] (scope : CheckScope) (context : String) (found : RunMatch) :
    Except Raised SelectedCheck := do
  let appId ← appOf found.job
  require (appId = integrationAppId && found.job.facts.appSlug = some integrationSlug &&
    scope.effectiveChecks.lookup context = some appId)
    (governanceRefused "CHECK_RUN_INTEGRATION_MISMATCH")
  require (succeeded found.run.status found.run.conclusion)
    (governanceRefused "WORKFLOW_RUN_NOT_SUCCESSFUL")
  require (succeeded found.job.facts.status found.job.facts.conclusion &&
    succeeded found.job.check.facts.status found.job.check.facts.conclusion)
    (governanceRefused "CHECK_RUN_NOT_SUCCESSFUL")
  return ⟨found.run.runId, found.run.workflowId, found.authorization.workflowPath,
    found.run.attempt, found.job.jobId, found.job.check.id,
    checkIdentity scope context found appId, appId⟩

omit [Unicode] in
/-- All contexts are selected before the first selection is described. -/
def selectChecks [Sha256] (scope : CheckScope) (runs : List WorkflowRun) :
    Except Raised (List SelectedCheck) := do
  let selected ← requiredContexts.mapM (selectRun runs)
  (requiredContexts.zip selected).mapM fun pair => describeCheck scope pair.1 pair.2

def readRuns (scope : CheckScope) (checks : List CheckRun) (value : Json) :
    Except Raised (List WorkflowRun) := do
  expectKeys value ["complete", "repository_id", "repository_full_name", "subject_sha",
    "pull_request_number", "pull_request_head_sha", "workflow_catalog", "items"]
    "WORKFLOW_RUN_SNAPSHOT_INVALID"
  let items ← completeList value "complete" "items" "WORKFLOW_RUN_SNAPSHOT_INCOMPLETE"
  bindProvenance scope value
  let catalog ← readCatalog (value.field "workflow_catalog")
  items.foldlM (addRun scope (fun id => checks.find? (·.id == id))
    (fun id => catalog.find? (·.id == id))) []

def evaluateCheckRuns [Sha256] (scope : CheckScope) (value workflows : Json) :
    Except Raised (List SelectedCheck) := do
  let checks ← readChecks scope.headSha value
  let runs ← readRuns scope checks workflows
  selectChecks scope runs

end
end Governance
end KSlide
