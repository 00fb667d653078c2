import KSlide.Errors
import KSlide.Json.Fields
import KSlide.Text.Patterns
import Mathlib.Data.List.Nodup

/-
This file gives the operational events that hold closed codes, bounded counts and opaque
references only.
-/

namespace KSlide
open Text

inductive TelemetryEventType where
  | lifecycle | error | stageTiming | resource | retry | runtimeBinding | issueReport
deriving DecidableEq, Repr

instance : Enumeration TelemetryEventType where
  value
    | .lifecycle => "lifecycle"
    | .error => "error"
    | .stageTiming => "stage_timing"
    | .resource => "resource"
    | .retry => "retry"
    | .runtimeBinding => "runtime_binding"
    | .issueReport => "issue_report"
  all := [.lifecycle, .error, .stageTiming, .resource, .retry, .runtimeBinding, .issueReport]

inductive TelemetryReferenceKind where
  | deployment | runtime | model | run | worker | event | scope | candidate
deriving DecidableEq, Repr

instance : Enumeration TelemetryReferenceKind where
  value
    | .deployment => "deployment"
    | .runtime => "runtime"
    | .model => "model"
    | .run => "run"
    | .worker => "worker"
    | .event => "event"
    | .scope => "scope"
    | .candidate => "candidate"
  all := [.deployment, .runtime, .model, .run, .worker, .event, .scope, .candidate]

inductive TelemetryHost where
  | cloudVscode | opencode | localCli | paasWorker
deriving DecidableEq, Repr

instance : Enumeration TelemetryHost where
  value
    | .cloudVscode => "cloud_vscode"
    | .opencode => "opencode"
    | .localCli => "local_cli"
    | .paasWorker => "paas_worker"
  all := [.cloudVscode, .opencode, .localCli, .paasWorker]

inductive TelemetryArtifactClass where
  | presentation | pdf | image | mixed | unknown
deriving DecidableEq, Repr

instance : Enumeration TelemetryArtifactClass where
  value
    | .presentation => "presentation"
    | .pdf => "pdf"
    | .image => "image"
    | .mixed => "mixed"
    | .unknown => "unknown"
  all := [.presentation, .pdf, .image, .mixed, .unknown]

inductive TelemetrySemanticOutcome where
  | pending | done | needsReview
deriving DecidableEq, Repr

instance : Enumeration TelemetrySemanticOutcome where
  value
    | .pending => "PENDING"
    | .done => "DONE"
    | .needsReview => "NEEDS_REVIEW"
  all := [.pending, .done, .needsReview]

inductive TelemetryReviewCategory where
  | none | sourceEvidence | workUnitIncomplete | verificationFailure | unresolvedConflict
  | requiredArtifactMissing
deriving DecidableEq, Repr

instance : Enumeration TelemetryReviewCategory where
  value
    | .none => "NONE"
    | .sourceEvidence => "SOURCE_EVIDENCE"
    | .workUnitIncomplete => "WORK_UNIT_INCOMPLETE"
    | .verificationFailure => "VERIFICATION_FAILURE"
    | .unresolvedConflict => "UNRESOLVED_CONFLICT"
    | .requiredArtifactMissing => "REQUIRED_ARTIFACT_MISSING"
  all := [.none, .sourceEvidence, .workUnitIncomplete, .verificationFailure, .unresolvedConflict,
    .requiredArtifactMissing]

inductive TelemetryIssueCategory where
  | meaningError | numberError | omission | falseDone | unnecessaryReview
deriving DecidableEq, Repr

instance : Enumeration TelemetryIssueCategory where
  value
    | .meaningError => "meaning_error"
    | .numberError => "number_error"
    | .omission => "omission"
    | .falseDone => "false_done"
    | .unnecessaryReview => "unnecessary_review"
  all := [.meaningError, .numberError, .omission, .falseDone, .unnecessaryReview]

/-- An employee report stays an allegation. -/
inductive TelemetryIssueReportStatus where
  | allegation
deriving DecidableEq, Repr

instance : Enumeration TelemetryIssueReportStatus where
  value
    | .allegation => "ALLEGATION"
  all := [.allegation]
  complete member := by cases member; decide
  distinct first second := by cases first; cases second; decide

inductive TelemetryLifecycle where
  | queued | running | retrying | completed | canceled | processingFailed | started | succeeded
  | failed | resumed | cancelRequested
deriving DecidableEq, Repr

instance : Enumeration TelemetryLifecycle where
  value
    | .queued => "QUEUED"
    | .running => "RUNNING"
    | .retrying => "RETRYING"
    | .completed => "COMPLETED"
    | .canceled => "CANCELED"
    | .processingFailed => "PROCESSING_FAILED"
    | .started => "STARTED"
    | .succeeded => "SUCCEEDED"
    | .failed => "FAILED"
    | .resumed => "RESUMED"
    | .cancelRequested => "CANCEL_REQUESTED"
  all := [.queued, .running, .retrying, .completed, .canceled, .processingFailed, .started,
    .succeeded, .failed, .resumed, .cancelRequested]

inductive TelemetryStage where
  | preparing | admission | normalizing | extracting | translating | verifying | finalizing
  | runtimeBinding | retrying | issueReport
deriving DecidableEq, Repr

instance : Enumeration TelemetryStage where
  value
    | .preparing => "PREPARING"
    | .admission => "ADMISSION"
    | .normalizing => "NORMALIZING"
    | .extracting => "EXTRACTING"
    | .translating => "TRANSLATING"
    | .verifying => "VERIFYING"
    | .finalizing => "FINALIZING"
    | .runtimeBinding => "RUNTIME_BINDING"
    | .retrying => "RETRYING"
    | .issueReport => "ISSUE_REPORT"
  all := [.preparing, .admission, .normalizing, .extracting, .translating, .verifying, .finalizing,
    .runtimeBinding, .retrying, .issueReport]

/-- An event keeps the text of an error code. -/
abbrev TelemetryErrorCode := {text : String // text ∈ ErrorCode.all.map ErrorCode.value}

/-- The fields of an event in the order of their names. -/
inductive TelemetryField where
  | artifactClass | candidateRef | count | deploymentRef | durationMs | errorCode | eventId
  | eventType | host | issueCategory | issueReportStatus | lifecycle | modelRef | occurredAt
  | resourceUnits | retryAttempt | reviewCategory | runRef | runtimeRef | schemaVersion | scopeRef
  | semanticOutcome | stage | workerRef
deriving DecidableEq, Repr

namespace TelemetryField

def value : TelemetryField → String
  | artifactClass => "artifact_class"
  | candidateRef => "candidate_ref"
  | count => "count"
  | deploymentRef => "deployment_ref"
  | durationMs => "duration_ms"
  | errorCode => "error_code"
  | eventId => "event_id"
  | eventType => "event_type"
  | host => "host"
  | issueCategory => "issue_category"
  | issueReportStatus => "issue_report_status"
  | lifecycle => "lifecycle"
  | modelRef => "model_ref"
  | occurredAt => "occurred_at"
  | resourceUnits => "resource_units"
  | retryAttempt => "retry_attempt"
  | reviewCategory => "review_category"
  | runRef => "run_ref"
  | runtimeRef => "runtime_ref"
  | schemaVersion => "schema_version"
  | scopeRef => "scope_ref"
  | semanticOutcome => "semantic_outcome"
  | stage => "stage"
  | workerRef => "worker_ref"

def all : List TelemetryField :=
  [artifactClass, candidateRef, count, deploymentRef, durationMs, errorCode, eventId, eventType,
   host, issueCategory, issueReportStatus, lifecycle, modelRef, occurredAt, resourceUnits,
   retryAttempt, reviewCategory, runRef, runtimeRef, schemaVersion, scopeRef, semanticOutcome,
   stage, workerRef]

theorem mem_all (field : TelemetryField) : field ∈ all := by
  cases field <;> decide

theorem all_sorted : (all.map value).Pairwise (· < ·) := by
  have chain : (all.map value).IsChain (· < ·) := by decide +kernel
  exact chain.pairwise

instance : Enumeration TelemetryField where
  value := value
  all := all
  complete := mem_all
  distinct first second same := by
    have distinct : (all.map value).Nodup := all_sorted.imp ne_of_lt
    exact List.inj_on_of_nodup_map distinct (mem_all first) (mem_all second) same

end TelemetryField

/-- The names that an event may use. -/
def allowedFields : List String := TelemetryField.all.map TelemetryField.value

/-- An opaque reference holds a digest and no content. -/
structure TelemetryReference (kind : TelemetryReferenceKind) where
  digest : String
  canonicalDigest : isSha256 digest = true

namespace TelemetryReference
variable {kind : TelemetryReferenceKind}

instance : DecidableEq (TelemetryReference kind) := fun first second =>
  decidable_of_iff (first.digest = second.digest) (by cases first; cases second; simp)

def opening (kind : TelemetryReferenceKind) : List Char :=
  "kslide-ref-v1.".toList ++ (Enumeration.value kind).toList ++ ['.']

def canonical (reference : TelemetryReference kind) : String :=
  String.ofList (opening kind ++ reference.digest.toList)

def fromCanonical (kind : TelemetryReferenceKind) (text : String) :
    Option (TelemetryReference kind) :=
  let first := opening kind
  let digest := String.ofList (text.toList.drop first.length)
  if text.toList.take first.length = first then
    if canonicalDigest : isSha256 digest = true then some ⟨digest, canonicalDigest⟩ else none
  else none

@[simp] theorem fromCanonical_canonical (reference : TelemetryReference kind) :
    fromCanonical kind reference.canonical = some reference := by
  have letters : reference.canonical.toList = opening kind ++ reference.digest.toList :=
    String.toList_ofList
  simp [fromCanonical, letters, reference.canonicalDigest]

end TelemetryReference

def maximumCount : Nat := 100000000000

/-- A count is a whole number in the bounded range. -/
abbrev TelemetryCount := {count : Nat // count ≤ maximumCount}

/-- The time of an event matches the pattern of a UTC timestamp. -/
abbrev TelemetryTime := {text : String // isTimestamp text = true}

/-- These fields of an event constrain one another. -/
structure TelemetryFields where
  eventType : TelemetryEventType
  eventId : TelemetryReference .event
  occurredAt : TelemetryTime
  deploymentRef : Option (TelemetryReference .deployment)
  runtimeRef : Option (TelemetryReference .runtime)
  modelRef : Option (TelemetryReference .model)
  runRef : Option (TelemetryReference .run)
  workerRef : Option (TelemetryReference .worker)
  lifecycle : Option TelemetryLifecycle
  errorCode : Option TelemetryErrorCode
  stage : Option TelemetryStage
  scopeRef : Option (TelemetryReference .scope)
  candidateRef : Option (TelemetryReference .candidate)
  host : Option TelemetryHost
  artifactClass : Option TelemetryArtifactClass
  semanticOutcome : Option TelemetrySemanticOutcome
  reviewCategory : Option TelemetryReviewCategory
  issueCategory : Option TelemetryIssueCategory
  issueReportStatus : Option TelemetryIssueReportStatus
deriving DecidableEq

/-- Only an issue report carries an allegation, and the outcome fixes the review category. -/
def TelemetryFields.check (fields : TelemetryFields) : Except Raised Unit := do
  if fields.eventType = .issueReport then
    require (fields.issueCategory.isSome && fields.issueReportStatus.isSome &&
        fields.runRef.isSome && fields.host.isSome)
      (.invalid ("Employee issue reports require a bounded category, host, run reference, and " ++
        "allegation status."))
    require (fields.semanticOutcome.isSome && fields.reviewCategory.isSome)
      (.invalid "Employee issue reports require engine-derived semantic status and review category.")
  else
    require (fields.issueCategory.isNone && fields.issueReportStatus.isNone)
      (.invalid "Issue allegation fields are only valid on issue-report events.")
  let unreviewed := fields.reviewCategory ∈ [none, some .none]
  require (!(fields.semanticOutcome == some .done && !unreviewed))
    (.invalid "DONE telemetry cannot carry a review category.")
  require (!(fields.semanticOutcome == some .needsReview && unreviewed))
    (.invalid "NEEDS_REVIEW telemetry requires a review category.")

/-- An event exists only when the constructor accepts its fields. -/
structure TelemetryEvent extends TelemetryFields where
  consistent : toTelemetryFields.check = .ok ()
  durationMs : Option TelemetryCount
  count : Option TelemetryCount
  resourceUnits : Option TelemetryCount
  retryAttempt : Option TelemetryCount
deriving DecidableEq

namespace TelemetryEvent

def code {Member : Type} [Enumeration Member] (member : Member) : Json :=
  .str (Enumeration.value member)

def identity {kind : TelemetryReferenceKind} (reference : TelemetryReference kind) : Json :=
  .str reference.canonical

def amount (count : TelemetryCount) : Json := .int count.1

/-- The stored value of a field, which is absent when the field is absent. -/
def value (event : TelemetryEvent) : TelemetryField → Option Json
  | .artifactClass => event.artifactClass.map code
  | .candidateRef => event.candidateRef.map identity
  | .count => event.count.map amount
  | .deploymentRef => event.deploymentRef.map identity
  | .durationMs => event.durationMs.map amount
  | .errorCode => event.errorCode.map fun code => .str code.1
  | .eventId => some (identity event.eventId)
  | .eventType => some (code event.eventType)
  | .host => event.host.map code
  | .issueCategory => event.issueCategory.map code
  | .issueReportStatus => event.issueReportStatus.map code
  | .lifecycle => event.lifecycle.map code
  | .modelRef => event.modelRef.map identity
  | .occurredAt => some (.str event.occurredAt.1)
  | .resourceUnits => event.resourceUnits.map amount
  | .retryAttempt => event.retryAttempt.map amount
  | .reviewCategory => event.reviewCategory.map code
  | .runRef => event.runRef.map identity
  | .runtimeRef => event.runtimeRef.map identity
  | .schemaVersion => some (.str "1.0")
  | .scopeRef => event.scopeRef.map identity
  | .semanticOutcome => event.semanticOutcome.map code
  | .stage => event.stage.map code
  | .workerRef => event.workerRef.map identity

def asDict (event : TelemetryEvent) : Json := .ofFields event.value

end TelemetryEvent
end KSlide
