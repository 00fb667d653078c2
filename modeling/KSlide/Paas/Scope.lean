import KSlide.Deletion.Content
import KSlide.Paas.Identity
import Mathlib.Data.List.AList
import Mathlib.Data.List.Sort

/-
This file gives the durable state of an authorized scope and the normalization of its queue.
-/

namespace KSlide
open Interleaving

/-- The admission record of a job owns the sequence of the job. -/
structure ScopedJobRecord where
  identity : DurableJobIdentity
  runtimeIdentity : RuntimeIdentity
  environmentIdentity : RunEnvironmentIdentity
  submittedAt : Timestamp
  admissionSequence : Nat
  scopeContext : AuthorizedScopeContext
  references : ScopedArtifactReferences
  submissionFingerprint : Option String
deriving DecidableEq

structure ScopedQueueRecord where
  sequence : Nat
  identity : DurableJobIdentity
  references : ScopedArtifactReferences
deriving DecidableEq

/-- The admission transaction of a scope is written to two mirrors. -/
structure ScopedControlState where
  scopeContext : AuthorizedScopeContext
  revision : Nat
  nextSequence : Nat
  activeJobId : Option String
  entries : List ScopedQueueRecord
deriving DecidableEq

def ScopedJobRecord.entry (record : ScopedJobRecord) : ScopedQueueRecord :=
  ⟨record.admissionSequence, record.identity, record.references⟩

def ScopedQueueRecord.before (first second : ScopedQueueRecord) : Prop :=
  first.sequence < second.sequence ∨
    first.sequence = second.sequence ∧ first.identity.jobId ≤ second.identity.jobId

instance : DecidableRel ScopedQueueRecord.before := fun _ _ =>
  inferInstanceAs (Decidable (_ ∨ _))

def ScopedQueueRecord.check (entry : ScopedQueueRecord) : Except Raised Unit := do
  require (decide (1 ≤ entry.sequence)) (.corrupt "Scoped queue entry sequence is invalid.")
  validateScopedIdentity entry.identity
  require (entry.references.scopeRef == entry.identity.scopeRef &&
      entry.references.storeRef == entry.identity.storeRef)
    (.corrupt "Scoped queue references do not match the job identity.")

namespace ScopedControlState

def sequences (state : ScopedControlState) : List Nat := state.entries.map (·.sequence)

def jobIds (state : ScopedControlState) : List String := state.entries.map (·.identity.jobId)

def checkEach : List ScopedQueueRecord → Except Raised Unit
  | [] => return ()
  | entry :: entries => do
    entry.check
    checkEach entries

/-- The decoder refuses a state that no admission could have written. -/
def check (state : ScopedControlState) : Except Raised ScopedControlState := do
  require (decide (1 ≤ state.nextSequence)) (.corrupt "Scoped admission sequence is invalid.")
  checkEach state.entries
  require (decide (state.sequences.Pairwise (· < ·) ∧ state.jobIds.Nodup))
    (.corrupt "Scoped admission state is not deterministic.")
  require (state.entries.all (·.identity.scopeRef == state.scopeContext.scopeRef))
    (.corrupt "Scoped admission state contains a foreign scope.")
  match state.activeJobId with
  | none => .ok ()
  | some jobId =>
    strictIdentifier jobId "active job ID"
    require (state.jobIds.elem jobId)
      (.corrupt "Scoped admission state points to an unknown active job.")
  require (state.sequences.all (· < state.nextSequence))
    (.corrupt "Scoped admission sequence is not monotonic.")
  return state

end ScopedControlState

section
variable [Sha256]

/-- The locator of an audit names the run and the job of the audit. -/
structure AuditPath where
  runRef : String
  jobId : String
  deletionId : String
deriving DecidableEq

/-- A scope has its admission records, its run store, the mirrors of its queue, the contents of its
runs and the audits of their deletions. -/
structure ScopeState where
  records : AList fun _ : String => ScopedJobRecord
  store : RunStoreState
  control : Option ScopedControlState
  queue : Option ScopedControlState
  contents : String → ContentTree
  audits : AList fun _ : AuditPath => DeletionAudit

def terminalForAdmission (job : ExecutionJob Int) : Bool := job.lifecycle.terminal

/-- The record, the job and the identity of an entry agree. -/
def checkScopedJob (job : ExecutionJob Int) (identity : DurableJobIdentity)
    (record : ScopedJobRecord) : Except Raised Unit := do
  validateScopedJob job
  let found ← DurableJobIdentity.fromJob job
  let references ← scopedReferences identity record.scopeContext
  require (found == identity && record.identity == identity && record.references == references)
    scopedNotFound
  require (job.environmentIdentity == some record.environmentIdentity)
    (environmentMismatch "Durable job environment identity does not match the scope record."
      ["run_environment_identity"])

namespace ScopeState
variable (context : AuthorizedScopeContext)

/-- New claims and results are rejected while a deletion of the run is active. -/
def deletionFenced (scope : ScopeState) (runRef : String) : Except Raised Unit :=
  require (!scope.audits.entries.any fun ⟨_, audit⟩ =>
      audit.scopeRef == context.scopeRef && audit.runRef == runRef && audit.fences)
    (.conflict "Durable execution is fenced by an active deletion lifecycle.")

/-- A record counts only in its own scope and under its own name. -/
def readScopedRecord (scope : ScopeState) (jobId : String) : Except Raised ScopedJobRecord := do
  strictIdentifier jobId "job ID"
  match scope.records.lookup jobId with
  | none => throw scopedNotFound
  | some record =>
    require (record.identity.jobId == jobId && record.scopeContext == context &&
        record.identity.scopeRef == context.scopeRef && 1 ≤ record.admissionSequence &&
        decide (validateScopedIdentity record.identity = .ok ()) &&
        decide (scopedReferences record.identity context = .ok record.references))
      (.kslide ⟨.stateCorrupt, "Scoped durable PaaS job record is corrupt or unreadable.",
        [("job_id", .str jobId)]⟩)
    return record

def readRecordsOf (scope : ScopeState) : List String → Except Raised (List ScopedJobRecord)
  | [] => return []
  | jobId :: jobIds => do
    let record ← scope.readScopedRecord context jobId
    (record :: ·) <$> readRecordsOf scope jobIds

/-- Each stored job has an admission record, and the records own unique sequences. -/
def readScopedRecords (scope : ScopeState) : Except Raised (List ScopedJobRecord) := do
  let records ← scope.readRecordsOf context scope.records.keys
  require (scope.store.names.all (scope.records.keys.elem ·))
    (.corrupt "Scoped run-store job has no matching admission record.")
  require (decide (records.map (·.admissionSequence)).Nodup)
    (.corrupt "Scoped admission records do not own unique sequences.")
  return records

def nextAfter (sequences : List Nat) : Nat := sequences.foldr max 0 + 1

def recoverScopedState (scope : ScopeState) : Except Raised ScopedControlState := do
  let records ← scope.readScopedRecords context
  let entries := (records.map ScopedJobRecord.entry).insertionSort ScopedQueueRecord.before
  return ⟨context, 0, nextAfter (entries.map (·.sequence)), none, entries⟩

/-- The mirror with the higher revision repairs the other one. -/
def loadScopedState (scope : ScopeState) : Except Raised ScopedControlState := do
  match scope.control, scope.queue with
  | none, none => scope.recoverScopedState context
  | some state, none | none, some state =>
    let state ← state.check
    require (state.scopeContext == context)
      (.conflict "Durable admission state is outside the authorized scope.")
    return state
  | some state, some queued =>
    let state ← state.check
    require (state.scopeContext == context)
      (.conflict "Durable admission state is outside the authorized scope.")
    let queued ← queued.check
    require (queued.scopeContext == context)
      (.conflict "Durable queue state is outside the authorized scope.")
    if queued = state then return state
    else
      require (queued.revision != state.revision)
        (.corrupt "Scoped control and queue records disagree.")
      return if state.revision < queued.revision then queued else state

/-- Every queue entry belongs to the admission record of its job. -/
def checkEntries (records : List ScopedJobRecord) (seen : List String) :
    List ScopedQueueRecord → Except Raised Unit
  | [] => return ()
  | entry :: entries => do
    match records.find? (·.identity.jobId == entry.identity.jobId) with
    | none => throw (.corrupt "Scoped queue entry has no matching admission record.")
    | some record =>
      require (record.identity == entry.identity && record.references == entry.references)
        (.corrupt "Scoped queue entry does not match its durable job record.")
    require (!seen.elem entry.identity.jobId)
      (.corrupt "Scoped queue contains a duplicate job identity.")
    checkEntries records (entry.identity.jobId :: seen) entries

/-- Every admission record has its entry in the queue. -/
def addEntries (entries : List ScopedQueueRecord) :
    List ScopedJobRecord → Except Raised (List ScopedQueueRecord)
  | [] => return entries
  | record :: records => do
    match entries.find? (·.identity.jobId == record.identity.jobId) with
    | some existing =>
      require (existing == record.entry)
        (.corrupt "Scoped admission record disagrees with its queue entry.")
      addEntries entries records
    | none => addEntries (entries ++ [record.entry]) records

/-- A record without a stored job reserves its place. -/
def loadJobs (scope : ScopeState) (records : List ScopedJobRecord) :
    List ScopedQueueRecord →
      Except Raised (List (ScopedQueueRecord × Option (ExecutionJob Int)))
  | [] => return []
  | entry :: entries => do
    let job ← match scope.store.load entry.identity.jobId with
      | .ok job => .ok (some job)
      | .error error =>
        if error.code? = some .executionNotFound then .ok none else .error error
    match job, records.find? (·.identity.jobId == entry.identity.jobId) with
    | some job, some record => checkScopedJob job entry.identity record
    | _, _ => .ok ()
    ((entry, job) :: ·) <$> loadJobs scope records entries

/-- The first job that can still run is active when each earlier job is stored. -/
def desiredActive : List (ScopedQueueRecord × Option (ExecutionJob Int)) → Option String
  | [] => none
  | (_, none) :: _ => none
  | (entry, some job) :: entries =>
    if terminalForAdmission job then desiredActive entries else some entry.identity.jobId

def normalizeScopedState (scope : ScopeState) (state : ScopedControlState) :
    Except Raised ScopedControlState := do
  let records ← scope.readScopedRecords state.scopeContext
  checkEntries records [] state.entries
  let entries ← addEntries state.entries records
  let entries := entries.insertionSort ScopedQueueRecord.before
  require (decide (entries.map (·.sequence)).Nodup)
    (.corrupt "Scoped queue entries do not own unique sequences.")
  let jobs ← scope.loadJobs records entries
  let active := desiredActive jobs
  let nextSequence := max state.nextSequence (nextAfter (entries.map (·.sequence)))
  if entries = state.entries ∧ active = state.activeJobId ∧ nextSequence = state.nextSequence then
    return state
  else return { state with
    revision := state.revision + 1, activeJobId := active, entries, nextSequence }

/-- Both mirrors exist and are equal. -/
def mirrorsMatch (scope : ScopeState) : Bool := scope.control.isSome && scope.control == scope.queue

end ScopeState

/-- The actions on a scope are its lock, its reads and its durable writes. -/
inductive ScopeAction where
  | lock | read | record (jobId : String) | job (jobId : String) | control | queue
deriving DecidableEq

abbrev ScopeProgram (Result : Type) : Type := Program ScopeAction ScopeState Raised Result

namespace ScopeState

/-- The control state is written before the queue. -/
def persistScopedState (state : ScopedControlState) : ScopeProgram Unit := do
  .write .control fun scope => { scope with control := some state }
  .write .queue fun scope => { scope with queue := some state }

def persistScopedStateIfNeeded (state raw : ScopedControlState) : ScopeProgram Unit := do
  let scope ← .read .read .ok
  if state ≠ raw ∨ scope.mirrorsMatch = false then persistScopedState state

end ScopeState
end
end KSlide
