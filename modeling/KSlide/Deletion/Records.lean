import KSlide.Digest
import KSlide.Errors
import KSlide.Text.Enumeration
import Mathlib.Data.List.Nodup
import Mathlib.Data.String.Basic

/-
This file gives the records of a deletion and the proof that a run keeps its generation.
-/

namespace KSlide

inductive DeletionReason where
  | explicit | retentionExpiry
deriving DecidableEq, Repr

inductive DeletionState where
  | planned | inProgress | blocked | partially | complete
deriving DecidableEq, Repr

inductive DeletionOutcome where
  | planned | inProgress | blocked | partially | complete
deriving DecidableEq, Repr

inductive TargetStatus where
  | planned | deleted | absent | failed
deriving DecidableEq, Repr

inductive DeletionResultCode where
  | none | deleted | alreadyAbsent | targetDeleteFailed | targetAdded | pathUnsafe
  | holdLookupUnavailable | holdActive | holdStateUnknown | cancellationRequested | activeRun
  | nonterminalRun | targetIdentityMismatch
deriving DecidableEq, Repr

/-- The classes of the artifacts of a run, with a class for every other object. -/
inductive DeletionArtifactClass where
  | sourceSnapshot | sourceManifest | inputInventory | runManifest | recoveryGuide | sessionBinding
  | runtimeMetadata | runState | workQueue | executionJob | admissionRecord | admissionQueue
  | admissionControl | normalizedRender | nativeExtraction | normalizationManifest
  | normalizationError | regionCrop | ocrMetadata | evidenceIr | extractionError | translationPatch
  | canonicalIr | report | verification | metrics | failureMarker | completionMarker
  | supportContent | runScopedContent
deriving DecidableEq, Repr

namespace DeletionArtifactClass

def value : DeletionArtifactClass → String
  | sourceSnapshot => "source_snapshot"
  | sourceManifest => "source_manifest"
  | inputInventory => "input_inventory"
  | runManifest => "run_manifest"
  | recoveryGuide => "recovery_guide"
  | sessionBinding => "session_binding"
  | runtimeMetadata => "runtime_metadata"
  | runState => "run_state"
  | workQueue => "work_queue"
  | executionJob => "execution_job"
  | admissionRecord => "admission_record"
  | admissionQueue => "admission_queue"
  | admissionControl => "admission_control"
  | normalizedRender => "normalized_render"
  | nativeExtraction => "native_extraction"
  | normalizationManifest => "normalization_manifest"
  | normalizationError => "normalization_error"
  | regionCrop => "region_crop"
  | ocrMetadata => "ocr_metadata"
  | evidenceIr => "evidence_ir"
  | extractionError => "extraction_error"
  | translationPatch => "translation_patch"
  | canonicalIr => "canonical_ir"
  | report => "report"
  | verification => "verification"
  | metrics => "metrics"
  | failureMarker => "failure_marker"
  | completionMarker => "completion_marker"
  | supportContent => "support_content"
  | runScopedContent => "run_scoped_content"

/-- The classes in the order of their values. -/
def all : List DeletionArtifactClass :=
  [admissionControl, admissionQueue, admissionRecord, canonicalIr, completionMarker, evidenceIr,
    executionJob, extractionError, failureMarker, inputInventory, metrics, nativeExtraction,
    normalizationError, normalizationManifest, normalizedRender, ocrMetadata, recoveryGuide,
    regionCrop, report, runManifest, runScopedContent, runState, runtimeMetadata, sessionBinding,
    sourceManifest, sourceSnapshot, supportContent, translationPatch, verification, workQueue]

end DeletionArtifactClass

inductive LegalHoldStatus where
  | hold | release | unknown
deriving DecidableEq, Repr

structure LegalHoldDecision where
  scopeRef : String
  runRef : String
  status : LegalHoldStatus
  authorityRef : String
  decisionRef : String
  decidedAt : String
deriving DecidableEq

/-- A decision counts only for the scope and the run that it names. -/
def safeHold (answer : Except Raised LegalHoldDecision) (scopeRef runRef : String) :
    Except Raised LegalHoldDecision :=
  let unavailable : Raised := .kslide ⟨.legalHoldUnknown,
    "Authoritative legal-hold state is unavailable or unverifiable.", []⟩
  match answer with
  | .ok decision =>
    if decision.scopeRef = scopeRef ∧ decision.runRef = runRef then .ok decision
    else .error unavailable
  | .error (.kslide error) =>
    if error.code = .legalHoldUnknown then .error (.kslide error) else .error unavailable
  | .error (.other _) => .error unavailable

theorem safeHold_ok {answer : Except Raised LegalHoldDecision} {scopeRef runRef : String}
    {decision : LegalHoldDecision} :
    safeHold answer scopeRef runRef = .ok decision ↔
      answer = .ok decision ∧ decision.scopeRef = scopeRef ∧ decision.runRef = runRef := by
  unfold safeHold
  rcases answer with (error | kind) | other
  · dsimp only
    split_ifs <;> simp
  · simp
  · dsimp only
    split_ifs with named
    · simp only [Except.ok.injEq]
      constructor
      · rintro rfl
        exact ⟨rfl, named⟩
      · exact And.left
    · simp only [Except.ok.injEq, false_iff, not_and]
      rintro rfl
      exact not_and.mp named

structure DeletionRequest where
  deletionId : String
  scopeRef : String
  runRef : String
  reason : DeletionReason
  requestedAt : String
deriving DecidableEq

structure DeletionTargetRecord where
  targetRef : String
  artifactClass : DeletionArtifactClass
  status : TargetStatus
  resultCode : DeletionResultCode
deriving DecidableEq

/-- The facts that remain of a support copy after its deletion. -/
structure SupportDeletionRecord where
  artifactRef : String
  scopeRef : String
  runRef : String
deriving DecidableEq

/-- An audit names each of its targets, anchors and support copies once. -/
structure DeletionAudit where
  deletionId : String
  scopeRef : String
  runRef : String
  reason : DeletionReason
  targetGenerationRef : String
  authorityRef : String
  holdDecisionRef : String
  requestedAt : String
  updatedAt : String
  retryCount : Nat
  state : DeletionState
  outcome : DeletionOutcome
  errorCode : DeletionResultCode
  targets : List DeletionTargetRecord
  generationAnchors : List (String × String)
  identityRef : Option String
  supportRecovery : List SupportDeletionRecord
  distinctTargets : (targets.map (·.targetRef)).Nodup
  distinctAnchors : (generationAnchors.map (·.1)).Nodup
  distinctSupport : (supportRecovery.map (·.artifactRef)).Nodup
  ownSupport : ∀ record ∈ supportRecovery, record.scopeRef = scopeRef ∧ record.runRef = runRef
deriving DecidableEq

structure Candidate where
  artifactClass : DeletionArtifactClass
  targetRef : String
  control : Bool
deriving DecidableEq

/-- The backend reads the generation and the lifecycle of a run. -/
structure BackendState where
  generationRef : String
  active : Bool
  terminal : Bool
  canceled : Bool
  generationAnchors : List (String × String)
  distinctAnchors : (generationAnchors.map (·.1)).Nodup
deriving DecidableEq

structure DeletionResult where
  request : DeletionRequest
  state : DeletionState
  outcome : DeletionOutcome
  dryRun : Bool
  retryCount : Nat
  errorCode : DeletionResultCode
  targets : List DeletionTargetRecord
deriving DecidableEq

/-- The reference of a target has no business data in its preimage. -/
def targetRef [Sha256] (scopeRef runRef deletionId : String) (artifact : DeletionArtifactClass) :
    String :=
  "target-" ++ ((Sha256.hexdigest (Json.arr [.str scopeRef, .str runRef, .str deletionId,
    .str artifact.value]).dumps).take 40).toString

namespace Candidate

/-- A planned target. -/
def planned (candidate : Candidate) : DeletionTargetRecord :=
  ⟨candidate.targetRef, candidate.artifactClass, .planned, .none⟩

/-- A target that appeared after the plan is not adopted. -/
def added (candidate : Candidate) : DeletionTargetRecord :=
  ⟨candidate.targetRef, candidate.artifactClass, .failed, .targetAdded⟩

end Candidate

namespace DeletionAudit

/-- The constructor of a request that has no audit yet. -/
def fresh (request : DeletionRequest) (generationRef authorityRef decisionRef updatedAt : String)
    (retryCount : Nat) (errorCode : DeletionResultCode) : DeletionAudit where
  deletionId := request.deletionId
  scopeRef := request.scopeRef
  runRef := request.runRef
  reason := request.reason
  targetGenerationRef := generationRef
  authorityRef := authorityRef
  holdDecisionRef := decisionRef
  requestedAt := request.requestedAt
  updatedAt := updatedAt
  retryCount := retryCount
  state := .blocked
  outcome := .blocked
  errorCode := errorCode
  targets := []
  generationAnchors := []
  identityRef := none
  supportRecovery := []
  distinctTargets := List.nodup_nil
  distinctAnchors := List.nodup_nil
  distinctSupport := List.nodup_nil
  ownSupport := by simp

def settled (audit : DeletionAudit) (state : DeletionState) (outcome : DeletionOutcome)
    (errorCode : DeletionResultCode) (updatedAt : String) : DeletionAudit :=
  { audit with state, outcome, errorCode, updatedAt }

def blocked (audit : DeletionAudit) (errorCode : DeletionResultCode) (updatedAt : String) :
    DeletionAudit :=
  { audit.settled .blocked .blocked errorCode updatedAt with retryCount := audit.retryCount + 1 }

def decided (audit : DeletionAudit) (hold : LegalHoldDecision) : DeletionAudit :=
  { audit with authorityRef := hold.authorityRef, holdDecisionRef := hold.decisionRef }

/-- The constructor refuses two targets with one reference. -/
def withTargets (audit : DeletionAudit) (targets : List DeletionTargetRecord) :
    Except Raised DeletionAudit :=
  if distinct : (targets.map (·.targetRef)).Nodup then
    .ok { audit with targets, distinctTargets := distinct }
  else .error (.corrupt "Deletion audit target identities are not unique.")

/-- The constructor refuses the support copies of another run. -/
def withSupport (audit : DeletionAudit) (support : List SupportDeletionRecord) :
    Except Raised DeletionAudit :=
  if valid : (support.map (·.artifactRef)).Nodup ∧
      ∀ record ∈ support, record.scopeRef = audit.scopeRef ∧ record.runRef = audit.runRef then
    .ok { audit with
      supportRecovery := support, distinctSupport := valid.1, ownSupport := valid.2 }
  else .error (.corrupt "Deletion audit support recovery identity is invalid.")

/-- The first durable plan owns the generation for all retries. -/
def anchored (audit : DeletionAudit) (state : BackendState) : DeletionAudit :=
  if audit.generationAnchors = [] then
    { audit with
      generationAnchors := state.generationAnchors, distinctAnchors := state.distinctAnchors }
  else audit

/-- A deletion that has started and has not ended fences its run. -/
def fences (audit : DeletionAudit) : Bool := audit.state ∈ [.inProgress, .partially]

/-- The status of the targets with the given class name. -/
def targetStatus (audit : DeletionAudit) (name : String) : Option TargetStatus :=
  (audit.targets.reverse.find? (·.artifactClass.value == name)).map (·.status)

end DeletionAudit

/-- The status of a target that belongs to the deletion. -/
def TargetStatus.recorded (status : TargetStatus) : Bool :=
  status ∈ [.planned, .deleted, .absent, .failed]

/-- A missing anchor is safe when its target was part of the deletion, and a present anchor must
match its proof. -/
def generationMatches (state : BackendState) (audit : DeletionAudit) : Bool :=
  let anchorClasses : List String := [DeletionArtifactClass.runState.value,
    DeletionArtifactClass.executionJob.value, DeletionArtifactClass.admissionRecord.value]
  if audit.generationAnchors ≠ [] then
    state.generationAnchors.all (fun anchor => audit.generationAnchors.any (·.1 == anchor.1)) &&
      audit.generationAnchors.all fun anchor =>
        match state.generationAnchors.lookup anchor.1 with
        | some reference => reference == anchor.2
        | none => (audit.targetStatus anchor.1).any TargetStatus.recorded
  else if state.generationRef = audit.targetGenerationRef then true
  else if state.generationAnchors ≠ [] then false
  else
    let recorded := audit.targets.filter (·.artifactClass.value ∈ anchorClasses)
    !recorded.isEmpty && recorded.all (·.status.recorded)

end KSlide
