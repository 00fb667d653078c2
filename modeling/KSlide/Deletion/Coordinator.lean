import KSlide.Deletion.Records
import KSlide.Execution.Values
import KSlide.Interleaving.Logged

/-
This file gives the state machine of a deletion over the backend of a run.
-/

namespace KSlide
open Interleaving

/-- The actions of a deletion are its reads, its durable writes and the marks of its calls. -/
inductive DeletionAction where
  | lock | read | cancellation | audit | fence | fencedState
  | deleteTarget (artifact : DeletionArtifactClass)
  | removal (path : String) | supportEvent | admission | cleanup
deriving DecidableEq

abbrev Deletion (State Result : Type) : Type := Program DeletionAction State Raised Result

/-- A backend holds the audits and the artifacts of one run. -/
structure DeletionBackend (State : Type) where
  scopeRef : String
  runRef : String
  loadAudit : String → State → Except Raised (Option DeletionAudit)
  saveAudit : DeletionAudit → Deletion State Unit
  state : State → Except Raised BackendState
  requestCancellation : Timestamp → State → Except Raised Unit × State
  enumerateTargets : String → State → Except Raised (List Candidate)
  prepareSupportRecovery : State → Except Raised (List SupportDeletionRecord)
  deleteTarget : Candidate → List SupportDeletionRecord → Deletion State Unit
  cleanupAfterTargets : Deletion State Unit

/-- A call has its arguments, the two answers of the hold authority, the injected failures and the
times that the clock gives. -/
structure DeletionCall where
  deletionId : String
  reason : DeletionReason
  dryRun : Bool
  firstHold : Except Raised LegalHoldDecision
  lockedHold : Except Raised LegalHoldDecision
  failureInjector : Candidate → Bool
  requestedAt : Timestamp
  updatedAt : Timestamp

def forbiddenDeletionWords : List String :=
  ["access", "secret", "token", "password", "credential", "source", "content", "prompt", "path",
    "text", "image", "korean", "business"]

/-- An opaque identity has no business words. -/
def isOpaque (text : String) : Bool :=
  let letter (letter : Char) := Text.isAlnum letter || "_.:-".toList.elem letter
  Text.isToken Text.isAlnum letter 127 text && !Text.mentions forbiddenDeletionWords text

def checkOpaque (text label : String) : Except Raised Unit :=
  require (isOpaque text) (.kslide ⟨.deletionInvalid, s!"Deletion {label} is invalid.", []⟩)

namespace DeletionBackend
open Program
variable {State : Type} (backend : DeletionBackend State) (call : DeletionCall)

def request : Except Raised DeletionRequest := do
  checkOpaque call.deletionId "deletion identity"
  checkOpaque backend.scopeRef "scope reference"
  checkOpaque backend.runRef "run reference"
  return ⟨call.deletionId, backend.scopeRef, backend.runRef, call.reason, call.requestedAt.text⟩

def acquire : Deletion State Unit := .read .lock fun _ => .ok ()

def load : Deletion State (Option DeletionAudit) := .read .read (backend.loadAudit call.deletionId)

def readState : Deletion State BackendState := .read .read backend.state

/-- The result of a call that left its audit behind. -/
def audited (request : DeletionRequest) (audit : DeletionAudit) : DeletionResult :=
  ⟨request, audit.state, audit.outcome, call.dryRun, audit.retryCount, audit.errorCode,
    audit.targets⟩

/-- The result of a dry run that would be blocked. -/
def predicted (request : DeletionRequest) (existing : Option DeletionAudit)
    (errorCode : DeletionResultCode) : DeletionResult :=
  ⟨request, .blocked, .blocked, true, existing.elim 0 (·.retryCount), errorCode, []⟩

/-- A deletion identity stays with its scope, its run and its reason. -/
def checkBinding (request : DeletionRequest) (existing : Option DeletionAudit) :
    Except Raised Unit :=
  require (existing.all fun audit =>
      audit.scopeRef = request.scopeRef ∧ audit.runRef = request.runRef ∧
        audit.reason = request.reason)
    (.kslide ⟨.executionConflict,
      "Deletion identity is already bound to a different scope, run, or reason.", []⟩)

/-- A run of another generation keeps its targets. -/
def refuseGeneration (request : DeletionRequest) (audit : DeletionAudit) :
    Deletion State DeletionResult := do
  let blocked := audit.blocked .targetIdentityMismatch call.updatedAt.text
  if !call.dryRun then backend.saveAudit blocked
  return audited call request blocked

/-- A complete audit answers again for its own generation. -/
def replayComplete (request : DeletionRequest) : Deletion State (Option DeletionResult) := do
  acquire
  match ← backend.load call with
  | none => return none
  | some current =>
    let state ← backend.readState
    if generationMatches state current then return some (audited call request current)
    else some <$> backend.refuseGeneration call request current

/-- The audit of a call that a hold stops names the authority of the hold. -/
def heldAudit (request : DeletionRequest) (hold : Option LegalHoldDecision)
    (errorCode : DeletionResultCode) (current : Option DeletionAudit) : DeletionAudit :=
  let authorityRef := hold.elim "unknown-authority" (·.authorityRef)
  let decisionRef := hold.elim "unknown-decision" (·.decisionRef)
  let placeholder := "0000000000000000000000000000000000000000000000000000000000000000"
  let audit := current.getD (.fresh request placeholder authorityRef decisionRef
    request.requestedAt 0 errorCode)
  let blocked := audit.blocked errorCode call.updatedAt.text
  hold.elim blocked blocked.decided

def saveHeld (request : DeletionRequest) (hold : Option LegalHoldDecision)
    (errorCode : DeletionResultCode) : Deletion State DeletionResult := do
  let current ← backend.load call
  let blocked := heldAudit call request hold errorCode current
  backend.saveAudit blocked
  return audited call request blocked

def holdCode (hold : LegalHoldDecision) : DeletionResultCode :=
  if hold.status = .hold then .holdActive else .holdStateUnknown

/-- The audit of a call that the lifecycle of the run stops names the present generation. -/
def lifecycleAudit (request : DeletionRequest) (hold : LegalHoldDecision) (state : BackendState)
    (errorCode : DeletionResultCode) (current : Option DeletionAudit) : DeletionAudit :=
  match current with
  | some audit =>
    { (audit.blocked errorCode call.updatedAt.text).decided hold with
      targetGenerationRef := state.generationRef }
  | none => .fresh request state.generationRef hold.authorityRef hold.decisionRef call.updatedAt.text 1
      errorCode

def refuseLifecycle (request : DeletionRequest) (hold : LegalHoldDecision) (state : BackendState)
    (errorCode : DeletionResultCode) (current : Option DeletionAudit) :
    Deletion State DeletionResult := do
  if call.dryRun then return predicted request current errorCode
  else
    let blocked := lifecycleAudit call request hold state errorCode current
    backend.saveAudit blocked
    return audited call request blocked

/-- A new plan has every target that the run has now. -/
def plannedAudit (request : DeletionRequest) (hold : LegalHoldDecision) (state : BackendState)
    (candidates : List Candidate) (current : Option DeletionAudit) :
    Except Raised DeletionAudit := do
  let audit ← match current with
    | some audit => .ok audit
    | none =>
      let audit : DeletionAudit := .fresh request state.generationRef hold.authorityRef
        hold.decisionRef request.requestedAt 0 .none
      let audit ← audit.withTargets (candidates.map Candidate.planned)
      .ok ((audit.settled .planned .planned .none request.requestedAt).anchored state)
  if audit.targets = [] then audit.withTargets (candidates.map Candidate.planned) else return audit

/-- The facts of the support copies are kept before the copies are deleted. -/
def withRecovery (candidates : List Candidate) (audit : DeletionAudit) :
    Deletion State DeletionAudit := do
  if audit.supportRecovery = [] ∧ candidates.any (·.artifactClass == .supportContent) then
    let recovery ← .read .read backend.prepareSupportRecovery
    .lift (audit.withSupport recovery)
  else return audit

/-- A target that appeared after the plan is recorded as a failure. -/
def withAdded (candidates : List Candidate) (audit : DeletionAudit) :
    Except Raised DeletionAudit :=
  let known := audit.targets.map (·.targetRef)
  match candidates.filter (·.targetRef ∉ known) with
  | [] => .ok audit
  | added => audit.withTargets (audit.targets ++ added.map Candidate.added)

def activeAudit (hold : LegalHoldDecision) (state : BackendState) (audit : DeletionAudit) :
    DeletionAudit :=
  { ((audit.decided hold).anchored state).settled .inProgress .inProgress .none call.updatedAt.text with
    retryCount := audit.retryCount + 1 }

/-- The code of a failed target. -/
def failureCode : Raised → Option DeletionResultCode
  | .kslide error =>
    some (if error.code = .pathOutsideAllowedRoot then .pathUnsafe else .targetDeleteFailed)
  | .other "OSError" => some .targetDeleteFailed
  | .other _ => none

/-- The support target is opened again while its deletion event is missing. -/
def reopened (recovery : List SupportDeletionRecord) (candidates : List Candidate)
    (record : DeletionTargetRecord) : Option Candidate :=
  match candidates.reverse.find? (·.targetRef == record.targetRef) with
  | some candidate => some candidate
  | none =>
    if recovery ≠ [] ∧ record.artifactClass = .supportContent ∧ record.status ≠ .deleted then
      some ⟨record.artifactClass, record.targetRef, false⟩
    else none

def deleteCandidate (candidate : Candidate) (recovery : List SupportDeletionRecord) :
    Deletion State Unit := do
  if call.failureInjector candidate then throw (.other "OSError")
  else
    .read (.deleteTarget candidate.artifactClass) fun _ => .ok ()
    backend.deleteTarget candidate recovery

/-- One target is deleted, was absent, or fails with its code. -/
def deleteRecord (recovery : List SupportDeletionRecord) (candidates : List Candidate)
    (record : DeletionTargetRecord) : Deletion State DeletionTargetRecord :=
  let recovery := if record.artifactClass = .supportContent then recovery else []
  if record.status = .failed ∧ record.resultCode = .targetAdded then return record
  else
    match reopened recovery candidates record with
    | none =>
      if record.status ∈ [.deleted, .absent] then return record
      else return { record with status := .absent, resultCode := .alreadyAbsent }
    | some candidate =>
      tryCatch (do
        backend.deleteCandidate call candidate recovery
        return { record with status := .deleted, resultCode := .deleted }) fun error =>
        match failureCode error with
        | some resultCode => return { record with status := .failed, resultCode }
        | none => throw error

/-- The deletion stops at its first failure. -/
def deleteTargets (recovery : List SupportDeletionRecord) (candidates : List Candidate) :
    List DeletionTargetRecord → Deletion State (List DeletionTargetRecord)
  | [] => return []
  | record :: records => do
    let ended ← backend.deleteRecord call recovery candidates record
    if ended.status = .failed ∧ ended.resultCode ≠ .targetAdded then return ended :: records
    else (ended :: ·) <$> deleteTargets recovery candidates records

def endPartial (request : DeletionRequest) (audit : DeletionAudit) :
    Deletion State DeletionResult := do
  let ended := audit.settled .partially .partially .targetDeleteFailed call.updatedAt.text
  backend.saveAudit ended
  return audited call request ended

/-- Every target is deleted or absent before the audit is complete. -/
def endTargets (request : DeletionRequest) (audit : DeletionAudit) :
    Deletion State DeletionResult := do
  if audit.targets.any (·.status == .failed) then backend.endPartial call request audit
  else
    let cleaned ← tryCatch (do
      backend.cleanupAfterTargets
      return true) fun error =>
        match error with
        | .kslide _ => return false
        | .other kind => throw (.other kind)
    if cleaned then
      let ended := audit.settled .complete .complete .none call.updatedAt.text
      backend.saveAudit ended
      return audited call request ended
    else backend.endPartial call request audit

/-- The plan is durable before the first target is deleted. -/
def carryOut (request : DeletionRequest) (candidates : List Candidate) (active : DeletionAudit) :
    Deletion State DeletionResult := do
  backend.saveAudit active
  let targets ← backend.deleteTargets call active.supportRecovery candidates active.targets
  let ended ← .lift (active.withTargets targets)
  backend.endTargets call request ended

/-- A released run gets a plan of its targets, and the plan is carried out. -/
def execute (request : DeletionRequest) (hold : LegalHoldDecision) (state : BackendState)
    (candidates : List Candidate) (current : Option DeletionAudit) :
    Deletion State DeletionResult := do
  let audit ← .lift (plannedAudit request hold state candidates current)
  let audit ← backend.withRecovery candidates audit
  let plan ← .lift (withAdded candidates audit)
  backend.carryOut call request candidates (activeAudit call hold state plan)

/-- A dry run names the targets of the plan. -/
def preview (request : DeletionRequest) (candidates : List Candidate)
    (current : Option DeletionAudit) : DeletionResult :=
  ⟨request, .planned, .planned, true, current.elim 0 (·.retryCount), .none,
    candidates.map Candidate.planned⟩

/-- An audit with targets refuses a run of another generation. -/
def stale (state : BackendState) (current : Option DeletionAudit) : Option DeletionAudit :=
  current.filter fun audit => !audit.targets.isEmpty && !generationMatches state audit

/-- The lifecycle of the run is read under the lock. -/
def runReleased (request : DeletionRequest) (hold : LegalHoldDecision) :
    Deletion State DeletionResult := do
  let current ← backend.load call
  let state ← backend.readState
  match stale state current with
  | some audit => backend.refuseGeneration call request audit
  | none =>
    if state.active then
      if call.reason = .explicit then
        .transact .cancellation (backend.requestCancellation call.updatedAt)
        backend.refuseLifecycle call request hold state .cancellationRequested current
      else backend.refuseLifecycle call request hold state .activeRun current
    else if !state.terminal && !(call.reason = .explicit && state.canceled) then
      backend.refuseLifecycle call request hold state .nonterminalRun current
    else
      let candidates ← .read .read (backend.enumerateTargets call.deletionId)
      if call.dryRun then return preview request candidates current
      else backend.execute call request hold state candidates current

/-- The hold is looked up again under the lock. -/
def runLocked (request : DeletionRequest) (existing : Option DeletionAudit) :
    Deletion State DeletionResult := do
  acquire
  let hold ← .lift (safeHold call.lockedHold request.scopeRef request.runRef)
  if hold.status = .release then backend.runReleased call request hold
  else if call.dryRun then return predicted request existing (holdCode hold)
  else backend.saveHeld call request (some hold) (holdCode hold)

/-- The hold is looked up before the lock is taken. -/
def runHeld (request : DeletionRequest) (existing : Option DeletionAudit) :
    Deletion State DeletionResult :=
  match safeHold call.firstHold request.scopeRef request.runRef with
  | .error _ =>
    if call.dryRun then return predicted request existing .holdLookupUnavailable
    else do
      acquire
      backend.saveHeld call request none .holdLookupUnavailable
  | .ok hold =>
    if hold.status = .release then backend.runLocked call request existing
    else if call.dryRun then return predicted request existing (holdCode hold)
    else do
      acquire
      backend.saveHeld call request (some hold) (holdCode hold)

def run : Deletion State DeletionResult := do
  let request ← .lift (backend.request call)
  let existing ← backend.load call
  .lift (checkBinding request existing)
  if existing.any (·.state == .complete) then
    match ← backend.replayComplete call request with
    | some result => return result
    | none => backend.runHeld call request existing
  else backend.runHeld call request existing

end DeletionBackend
end KSlide
