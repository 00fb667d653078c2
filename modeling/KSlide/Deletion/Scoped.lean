import KSlide.Paas.Scope

/-
This file gives the deletion backend of one durable job in its authorized scope.
-/

namespace KSlide
open Interleaving Program

section
variable [Sha256]

/-- The record file of a removed job is gone from the run store. -/
def RunStoreState.remove (state : RunStoreState) (jobId : String) : RunStoreState where
  jobs := Function.update state.jobs jobId none
  names := state.names.filter (· ≠ jobId)
  clock := state.clock
  listed := by
    intro name
    by_cases same : name = jobId
    · simp [same]
    · rw [Function.update_of_ne same, ← state.listed name]
      simp [same]
  valid := by
    intro name job present
    by_cases same : name = jobId
    · simp [same] at present
    · rw [Function.update_of_ne same] at present
      exact state.valid name job present

namespace ScopeState
variable (context : AuthorizedScopeContext) (identity : DurableJobIdentity)

def identityRef : String := stableRevision identity.asDict

def auditPath (deletionId : String) : AuditPath := ⟨identity.runId, identity.jobId, deletionId⟩

/-- Another deletion of the same job and the same deletion of another job are refused. -/
def checkAudits (deletionId : String) :
    List (Sigma fun _ : AuditPath => DeletionAudit) → Except Raised (Option DeletionAudit)
  | [] => return none
  | ⟨path, audit⟩ :: audits => do
    require (audit.scopeRef == context.scopeRef)
      (.conflict "Deletion audit is outside the authorized scope.")
    if path = auditPath identity deletionId then
      require (audit.runRef == identity.runId)
        (.conflict "Deletion audit identity does not match the authorized run.")
      require (audit.identityRef == some (identityRef identity)) scopedNotFound
      let later ← checkAudits deletionId audits
      return later <|> some audit
    else
      require (!(path.runRef == identity.runId && path.jobId == identity.jobId))
        (.conflict "A deletion audit already exists for this durable identity.")
      require (audit.deletionId != deletionId)
        (.conflict "Deletion identity is bound to a different durable job.")
      checkAudits deletionId audits

def loadAudit (deletionId : String) (scope : ScopeState) : Except Raised (Option DeletionAudit) :=
  checkAudits context identity deletionId scope.audits.entries

def owned (audit : DeletionAudit) : DeletionAudit :=
  { audit with identityRef := some (identityRef identity) }

def withAudit (audit : DeletionAudit) (scope : ScopeState) : ScopeState :=
  { scope with audits :=
      scope.audits.insert (auditPath identity audit.deletionId) (owned identity audit) }

/-- An audit belongs to one durable identity. -/
def saveAudit (audit : DeletionAudit) : Deletion ScopeState Unit :=
  .transact .audit fun scope =>
    if audit.identityRef = none ∨ audit.identityRef = some (identityRef identity) then
      (.ok (), withAudit identity audit scope)
    else (.error scopedNotFound, scope)

def hasRecord (scope : ScopeState) : Bool := (scope.records.lookup identity.jobId).isSome

def hasJob (scope : ScopeState) : Bool := (scope.store.jobs identity.jobId).isSome

def jobIfPresent (scope : ScopeState) : Except Raised (Option (ExecutionJob Int)) :=
  if scope.hasJob identity then some <$> scope.store.load identity.jobId else .ok none

def recordIfPresent (scope : ScopeState) : Except Raised (Option ScopedJobRecord) :=
  if scope.hasRecord identity then some <$> scope.readScopedRecord context identity.jobId
  else .ok none

/-- The anchor of an admission record is fixed when the record is written. -/
def recordAnchor (record : ScopedJobRecord) : String × String :=
  (DeletionArtifactClass.admissionRecord.value, stableRevision (.obj [
    ("admission_sequence", .int record.admissionSequence),
    ("environment", record.environmentIdentity.asDict),
    ("identity", record.identity.asDict),
    ("submitted_at", .str record.submittedAt.text)]))

def environmentOf (environment : Option RunEnvironmentIdentity) : Json :=
  environment.elim .null RunEnvironmentIdentity.asDict

def jobAnchor (job : ExecutionJob Int) : String × String :=
  (DeletionArtifactClass.executionJob.value, stableRevision (.obj [
    ("created_at", .ofText? job.createdAt),
    ("environment", environmentOf job.environmentIdentity),
    ("identity", identity.asDict)]))

theorem anchors_distinct (record : Option ScopedJobRecord) (job : Option (ExecutionJob Int)) :
    ((record.toList.map recordAnchor ++ job.toList.map (jobAnchor identity)).map (·.1)).Nodup := by
  cases record <;> cases job <;>
    simp [recordAnchor, jobAnchor, DeletionArtifactClass.value]

/-- The backend keeps the record that it found when it was made. -/
def state (found : Option ScopedJobRecord) (scope : ScopeState) : Except Raised BackendState := do
  let job ← scope.jobIfPresent identity
  let record ← scope.recordIfPresent context identity
  require (record.all (·.identity == identity)) (.conflict "Durable deletion identity changed.")
  match job with
  | none =>
    return {
      generationRef := stableRevision (record.elim identity (·.identity)).asDict
      active := false
      terminal := true
      canceled := false
      generationAnchors := record.toList.map recordAnchor ++
        (none : Option (ExecutionJob Int)).toList.map (jobAnchor identity)
      distinctAnchors := anchors_distinct identity record none }
  | some job =>
    require (job.runId == identity.runId && job.jobId == identity.jobId &&
      job.executionId == identity.executionId) (.conflict "Durable deletion identity changed.")
    let environment := match record <|> found with
      | some record => record.environmentIdentity.asDict
      | none => environmentOf job.environmentIdentity
    return {
      generationRef := stableRevision (.obj [
        ("environment", environment), ("identity", identity.asDict)])
      active := job.lifecycle.active
      terminal := !job.lifecycle.active
      canceled := job.lifecycle == .canceled
      generationAnchors := record.toList.map recordAnchor ++
        (some job).toList.map (jobAnchor identity)
      distinctAnchors := anchors_distinct identity record (some job) }

/-- The record of the job is replaced without its store. -/
def requestCancellation (now : Timestamp) (scope : ScopeState) :
    Except Raised Unit × ScopeState :=
  match scope.jobIfPresent identity with
  | .error error => (.error error, scope)
  | .ok none => (.ok (), scope)
  | .ok (some job) =>
    match cancellationRequest job now with
    | .error error => (.error error, scope)
    | .ok none => (.ok (), scope)
    | .ok (some candidate) =>
      if durable : candidate.profile = .durable then
        (.ok (), { scope with store := scope.store.write candidate durable })
      else (.ok (), scope)

def isControl (artifact : DeletionArtifactClass) : Bool :=
  artifact ∈ [.admissionControl, .admissionQueue]

/-- The classes of the job and of the shared admission files. -/
def presentClasses (scope : ScopeState) : List DeletionArtifactClass :=
  (if scope.hasRecord identity then [.admissionRecord] else []) ++
  (if scope.hasJob identity then [.executionJob] else []) ++
  (if scope.control.isSome then [.admissionControl] else []) ++
  (if scope.queue.isSome then [.admissionQueue] else [])

/-- The shared admission files come first. -/
def enumerateTargets (deletionId : String) (scope : ScopeState) :
    Except Raised (List Candidate) := do
  let classes ← (scope.contents identity.runId).classes
  let sorted := sortedClasses (classes ++ scope.presentClasses identity)
  return (sorted.filter isControl ++ sorted.filter (!isControl ·)).map fun artifact =>
    ⟨artifact, targetRef context.scopeRef identity.runId deletionId artifact, isControl artifact⟩

/-- The next active job is the first entry that can still run. -/
def firstActive (scope : ScopeState) : List ScopedQueueRecord → Except Raised (Option String)
  | [] => return none
  | entry :: entries =>
    match scope.store.load entry.identity.jobId with
    | .ok job =>
      if terminalForAdmission job then firstActive scope entries
      else return some entry.identity.jobId
    | .error error =>
      if error.code? = some .executionNotFound then firstActive scope entries
      else throw error

/-- The queue of a scope without the job, or nothing when the queue stays as it is. -/
def withoutEntry (scope : ScopeState) : Except Raised (Option ScopedControlState) := do
  let raw ← scope.loadScopedState context
  let entries := raw.entries.filter (·.identity.jobId != identity.jobId)
  let active ← if raw.activeJobId = some identity.jobId then scope.firstActive entries
    else .ok raw.activeJobId
  return if entries ≠ raw.entries ∨ active ≠ raw.activeJobId then
      some { raw with revision := raw.revision + 1, entries, activeJobId := active }
    else none

def invalidateControl : Deletion ScopeState Unit := do
  match ← .read .read (·.withoutEntry context identity) with
  | none => return ()
  | some state => (persistScopedState state).relabel fun _ => .admission

def withContent (tree : ContentTree) (scope : ScopeState) : ScopeState :=
  { scope with contents := Function.update scope.contents identity.runId tree }

/-- The program acts on the content of the run. -/
def onTree (program : Deletion ContentTree Unit) : Deletion ScopeState Unit :=
  program.zoom (·.contents identity.runId) (withContent identity)

variable (faults : DeletionFaults)

def recordName : String := s!"jobs/{identity.jobId}.json"

def jobName : String := s!"run-store/jobs/{identity.jobId}.json"

def unlinkRecord : Deletion ScopeState Unit :=
  .transact (.removal (recordName identity)) fun scope =>
    match faults.removal (recordName identity) with
    | some error => (.error error, scope)
    | none => (.ok (), { scope with records := scope.records.erase identity.jobId })

def unlinkJob : Deletion ScopeState Unit :=
  .transact (.removal (jobName identity)) fun scope =>
    match faults.removal (jobName identity) with
    | some error => (.error error, scope)
    | none => (.ok (), { scope with store := scope.store.remove identity.jobId })

/-- The control files of the job are removed before the contents of the class. -/
def unlinkControl (artifact : DeletionArtifactClass) (scope : ScopeState) :
    Deletion ScopeState Unit :=
  if artifact = .admissionRecord ∧ scope.hasRecord identity = true then
    unlinkRecord identity faults
  else if artifact = .executionJob ∧ scope.hasJob identity = true then unlinkJob identity faults
  else return ()

def deleteTarget (candidate : Candidate) (recovery : List SupportDeletionRecord) :
    Deletion ScopeState Unit := do
  if candidate.control then invalidateControl context identity
  else if candidate.artifactClass = .supportContent then
    onTree identity (ContentTree.deleteClass faults candidate.artifactClass recovery)
  else
    let paths ← .read .read fun scope =>
      (scope.contents identity.runId).pathsForClass candidate.artifactClass
    let scope ← .read .read .ok
    unlinkControl identity faults candidate.artifactClass scope
    onTree identity (ContentTree.unlinkAll faults paths)

def cleanupAfterTargets : Deletion ScopeState Unit := do
  onTree identity (ContentTree.removeDirectories
    "Deletion refuses a symbolic-link content directory."
    "PaaS content namespace still contains an unexpected object.")
  .read .cleanup fun _ => faults.cleanup.elim (.ok ()) .error

/-- The backend of the job with the given identity. -/
def backend (found : Option ScopedJobRecord) : DeletionBackend ScopeState where
  scopeRef := context.scopeRef
  runRef := identity.runId
  loadAudit := loadAudit context identity
  saveAudit := saveAudit identity
  state := state context identity found
  requestCancellation := requestCancellation identity
  enumerateTargets := enumerateTargets context identity
  prepareSupportRecovery scope := (scope.contents identity.runId).support
  deleteTarget := deleteTarget context identity faults
  cleanupAfterTargets := cleanupAfterTargets identity faults

/-- A scope in which the contents of a run outlived its job. -/
def orphaned : ScopeState where
  records := ∅
  store := .empty fun _ => .newYear
  control := none
  queue := none
  contents _ := ⟨["RUN_STATE.json", "metrics.json"], false, .ok [], []⟩
  audits := ∅

end ScopeState
end
end KSlide
