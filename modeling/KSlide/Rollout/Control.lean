import KSlide.Interleaving.Program
import KSlide.Rollout.Events
import Mathlib.Data.List.AList

/-
This file gives the files of the rollout control and the programs that read and write them.
-/

namespace KSlide
open Interleaving Program

/-- The directory of one candidate holds its ledger. -/
structure LedgerFiles where
  genesis : Option LedgerState := none
  state : Option LedgerState := none
  head : Option LedgerHead := none
  history : Option (AList fun _ : Nat => Json) := none

/-- The program signs each document that it writes, so a stored document is a signed payload. -/
structure ControlFiles where
  policy : Option Json := none
  state : Option RolloutState := none
  head : Option RolloutHead := none
  history : Option (AList fun _ : Nat => RolloutState) := none
  ledgers : AList (fun _ : String => LedgerFiles) := ∅

inductive ControlLock where
  | rollout
  | ledger (directory : String)
deriving DecidableEq, Repr

inductive LedgerDocument where
  | directory | genesis | state | head | history
  | event (revision : Nat)
deriving DecidableEq, Repr

inductive ControlDocument where
  | policy | state | head | history
  | historyFile (revision : Nat)
  | ledger (directory : String) (document : LedgerDocument)
deriving DecidableEq, Repr

inductive ControlLabel where
  | acquire (lock : ControlLock)
  | release (lock : ControlLock)
  | read (document : ControlDocument)
  | write (document : ControlDocument)
deriving DecidableEq, Repr

namespace ControlFiles

def ledger (files : ControlFiles) (directory : String) : LedgerFiles :=
  (files.ledgers.lookup directory).getD {}

def withLedger (directory : String) (change : LedgerFiles → LedgerFiles) (files : ControlFiles) :
    ControlFiles :=
  { files with ledgers := files.ledgers.insert directory (change (files.ledger directory)) }

/-- The lock of a ledger creates the directory that holds its lock file. -/
def opened (lock : ControlLock) (files : ControlFiles) : ControlFiles :=
  match lock with
  | .rollout => files
  | .ledger directory =>
    if directory ∈ files.ledgers then files else files.withLedger directory id

/-- Any document of the rollout marks it as initialized. -/
def initialized (files : ControlFiles) : Bool :=
  files.policy.isSome || files.state.isSome || files.head.isSome || files.history.isSome

end ControlFiles

abbrev Control := Program ControlLabel ControlFiles ControlError

namespace Control

def acquire (lock : ControlLock) : Control Unit :=
  write (.acquire lock) (ControlFiles.opened lock)

def release (lock : ControlLock) : Control Unit := write (.release lock) id

/-- The lock is released whether the body returns or raises. -/
def withLock {Value : Type} (lock : ControlLock) (body : Control Value) : Control Value := do
  acquire lock
  let value ← tryCatch body fun error => do
    release lock
    throw error
  release lock
  return value

/-- A missing document raises the error of its reader. -/
def readDocument {Value : Type} (document : ControlDocument)
    (select : ControlFiles → Option Value) (missing : ControlError) : Control Value :=
  read (.read document) fun files =>
    match select files with
    | some value => .ok value
    | none => .error missing

def readLedgerDocument {Value : Type} (directory : String) (document : LedgerDocument)
    (select : LedgerFiles → Option Value) (missing : ControlError) : Control Value :=
  readDocument (.ledger directory document) (fun files => select (files.ledger directory)) missing

def writeLedgerDocument (directory : String) (document : LedgerDocument)
    (change : LedgerFiles → LedgerFiles) : Control Unit :=
  write (.write (.ledger directory document)) (ControlFiles.withLedger directory change)

/-- A history has one file for each revision up to its last. -/
def complete {Value : Type} (revision : Nat) (history : AList fun _ : Nat => Value) : Bool :=
  history.keys.length == revision && (List.range' 1 revision).all (· ∈ history.keys)

section
variable [Sha256] [Datetime]

/-- The reader of a ledger recomputes its state from the first event on. -/
def readLedger (candidate : RolloutCandidateBinding) : Control (LedgerState × String) := do
  let directory := candidate.identity
  let unreadable := ControlError.revocation
    "candidate revocation authority state is missing or unreadable"
  let state ← readLedgerDocument directory .state (·.state) unreadable
  let head ← readLedgerDocument directory .head (·.head) unreadable
  lift (validateState state candidate)
  lift (ensure (head == state.head candidate)
    (.revocation "candidate revocation state is stale or replayed"))
  let listing ← readLedgerDocument directory .history (·.history)
    (.revocation "candidate revocation history is missing or unsafe")
  lift (ensure (complete state.revision listing)
    (.revocation "candidate revocation history is incomplete or contradictory"))
  let genesis ← readLedgerDocument directory .genesis (·.genesis)
    (.revocation "candidate revocation genesis is missing or unreadable")
  lift (validateState genesis candidate)
  lift (ensure (genesis.revision == 0)
    (.revocation "candidate revocation genesis is malformed"))
  let replay ← (List.range' 1 state.revision).foldlM (fun (replay : Replay) revision => do
    let payload ← readLedgerDocument directory (.event revision)
      (·.history.bind (·.lookup revision)) (.other "KSlideError")
    lift (replay.advance candidate revision payload)) (Replay.start genesis)
  lift (ensure (replay.last == state && replay.stateIdentity == state.identity)
    (.revocation "candidate revocation history does not match current state"))
  return (state, state.identity)

def candidateStatus (candidate : RolloutCandidateBinding) : Control CandidateRevocationStatus := do
  let (state, _) ← readLedger candidate
  lift ((state.report candidate).validate candidate)

/-- The reader of a rollout history checks its chain and the order of its times. -/
structure HistoryScan where
  previousIdentity : Option String := none
  previousTime : Option Int := none
  last : Option RolloutState := none
deriving DecidableEq

def HistoryScan.advance (scan : HistoryScan) (policyIdentity : String) (revision : Nat)
    (payload : RolloutState) : Except ControlError HistoryScan := do
  ensure (payload.policyIdentity == policyIdentity && payload.revision == revision)
    (.rollout "rollout transition history is stale or inconsistent")
  ensure (payload.previousStateIdentity == scan.previousIdentity)
    (.rollout "rollout transition history chain is inconsistent")
  let moment ← controlTime .rollout "rollout transition time" (.str payload.transitionedAt)
  ensure (scan.previousTime.all (· ≤ moment))
    (.rollout "rollout transition history time is inconsistent")
  return ⟨some payload.identity, some moment, some payload⟩

def verifyReferenceHistory (policyIdentity : String) (latest : RolloutState)
    (latestIdentity : String) : Control Unit := do
  let listing ← readDocument .history (·.history)
    (.rollout "rollout transition history is missing or unsafe")
  lift (ensure (complete latest.revision listing)
    (.rollout "rollout transition history is incomplete or replayed"))
  let scan ← (List.range' 1 latest.revision).foldlM (fun (scan : HistoryScan) revision => do
    let payload ← readDocument (.historyFile revision) (·.history.bind (·.lookup revision))
      (.rollout "rollout transition history is incomplete or unsafe")
    lift (scan.advance policyIdentity revision payload)) {}
  lift (ensure (scan.previousIdentity == some latestIdentity && scan.last == some latest)
    (.rollout "rollout transition history does not match current state"))

end

section
variable [Sha256] [Datetime] [Authority]

/-- An append finds its event, only checks it or adds it. -/
inductive AppendDecision where
  | duplicate (state : LedgerState)
  | checked (state : LedgerState)
  | append (state next : LedgerState)
deriving DecidableEq

/-- An event is new when no earlier event has its identity, and then its chain is checked. -/
def decideAppend (candidate : RolloutCandidateBinding) (payload : Json) (event : CandidateEvent)
    (validateOnly : Bool) : Control AppendDecision := do
  let (state, stateIdentity) ← readLedger candidate
  let history ← readLedgerDocument candidate.identity .history (·.history)
    (.revocation "candidate revocation history is missing or unsafe")
  match history.entries.find? fun entry =>
      entry.2.field "event_id" == payload.field "event_id" with
  | some existing => do
    lift (ensure (existing.2.dumps == payload.dumps)
      (.revocation "candidate revocation event ID conflicts with an earlier event"))
    return .duplicate state
  | none => do
    lift (ensure (event.expectedRevision == state.revision &&
        event.revision == state.revision + 1 && event.expectedStateIdentity == stateIdentity &&
        event.previousEventIdentity == state.eventIdentity)
      (.revocation
        "candidate revocation event has a stale revision or conflicting state identity"))
    let prior ← lift (controlTime .revocation "candidate revocation prior timestamp"
      (.str state.updatedAt))
    lift (ensure (prior ≤ event.moment)
      (.revocation "candidate revocation event timestamp is stale"))
    let reasons ← lift (changedReasons state.activeReasonCategories event
      "candidate recovery lacks a current matching revocation")
    if validateOnly then return .checked state
    let revision := state.revision + 1
    lift (ensure (revision ∉ history.keys)
      (.revocation "candidate revocation history revision already exists"))
    return .append state (nextLedgerState candidate revision stateIdentity event reasons)

/-- The event is written before the state, and the state before its head. -/
def performAppend (candidate : RolloutCandidateBinding) (payload : Json) :
    AppendDecision → Control (CandidateRevocationStatus × Bool)
  | .duplicate state => return (state.report candidate, true)
  | .checked state => return (state.report candidate, false)
  | .append _ next => do
    let directory := candidate.identity
    writeLedgerDocument directory (.event next.revision) fun files =>
      { files with history := some ((files.history.getD ∅).insert next.revision payload) }
    writeLedgerDocument directory .state fun files => { files with state := some next }
    writeLedgerDocument directory .head fun files =>
      { files with head := some (next.head candidate) }
    return (next.report candidate, false)

/-- A signed event is appended or only checked. -/
def recordEvent (event : Json) (now : Int) (validateOnly : Bool) :
    Control (CandidateRevocationStatus × Bool) := do
  let payload ← lift (verifySigned .revocation event "candidate revocation event")
  let candidate ← lift (RolloutCandidateBinding.fromMapping (payload.field "candidate_binding"))
  let validated ← lift (validateEvent payload candidate (some now))
  let (status, duplicate) ← withLock (.ledger candidate.identity) do
    performAppend candidate payload
      (← decideAppend candidate payload validated validateOnly)
  return (← lift (status.validate candidate), duplicate)

/-- The ledger of a candidate is created once. -/
def initializeLedger (candidate : RolloutCandidateBinding) (now : Int) : Control Unit := do
  let directory := candidate.identity
  transact (.write (.ledger directory .directory)) fun files =>
    if directory ∈ files.ledgers then
      (.error (.revocation "candidate revocation authority is already initialized"), files)
    else (.ok (), files.withLedger directory id)
  writeLedgerDocument directory .history fun files => { files with history := some ∅ }
  let state := initialLedgerState candidate now
  writeLedgerDocument directory .genesis fun files => { files with genesis := some state }
  writeLedgerDocument directory .state fun files => { files with state := some state }
  writeLedgerDocument directory .head fun files =>
    { files with head := some (state.head candidate) }

/-- Each candidate of a policy has its own ledger. -/
def initializeLedgers (policy : RolloutPolicy) (now : Int) : Control Unit :=
  match policy.rollbackTargetBinding with
  | none => initializeLedger policy.candidateBinding now
  | some rollback =>
    -- two bindings of one identity share the ledger of the later one
    if rollback.identity = policy.candidateBinding.identity then initializeLedger rollback now
    else do
      initializeLedger policy.candidateBinding now
      initializeLedger rollback now

/-- The policy is stored before the state, and the history is stored last. -/
def initializeRollout (policy : Json) (now : Int) : Control Unit := withLock .rollout do
  read (.read .policy) fun files => ensure (!files.initialized)
    (.rollout "rollout control is already initialized")
  let payload ← lift (policyPayload policy now)
  initializeLedgers payload now
  let state := initialRolloutState payload now
  write (.write .policy) fun files => { files with policy := some policy }
  write (.write .state) fun files => { files with state := some state }
  write (.write .head) fun files => { files with head := some state.head }
  write (.write .history) fun files => { files with history := some ∅ }
  write (.write (.historyFile 1)) fun files =>
    { files with history := some ((files.history.getD ∅).insert 1 state) }

/-- The target of a command is read before the command is checked. -/
def commandTarget (command : Json) : Except ControlError (Option RolloutCandidateBinding) :=
  let target := command.field "target_candidate_binding"
  if target.isObject then some <$> RolloutCandidateBinding.fromMapping target else .ok none

/-- The transition of a recovery is named after its event. -/
def restoreName (event : Json) : Except ControlError String :=
  match event.get? "event_id" with
  | none => .ok "restore-"
  | some (.str eventId) => .ok ("restore-" ++ eventId)
  | some _ => .error (.other "TypeError")

/-- A recovery event authorizes exactly the transition that restores its candidate. -/
def authorizeRecovery (policy : RolloutPolicy) (current : RolloutState) (command : Json)
    (target : Option RolloutCandidateBinding) (event : Json) :
    Except ControlError (RolloutCandidateBinding × RolloutCandidateBinding) := do
  let refused := ControlError.rollout
    "candidate recovery event does not authorize this exact restore transition"
  let payload ← verifySigned .revocation event "candidate recovery event"
  let candidate ← RolloutCandidateBinding.fromMapping (payload.field "candidate_binding")
  ensure (command.field "action" == .str "RESTORE_CANDIDATE" &&
      payload.field "action" == .str "RECOVER" && candidate == policy.candidateBinding &&
      target == some policy.candidateBinding)
    refused
  match policy.rollbackTargetBinding with
  | none => throw refused
  | some rollback => do
    ensure (current.candidateBinding == rollback) refused
    let name ← restoreName payload
    ensure (command.field "transition_id" == .str name) refused
    return (candidate, rollback)

/-- The recovered candidate needs an active revocation and a rollback target without one. -/
def checkRecovery (event : Json) (now : Int) (rollback : RolloutCandidateBinding) :
    Control Unit := do
  let (status, duplicate) ← recordEvent event now true
  lift (ensure (!duplicate && status.revoked)
    (.rollout "candidate recovery requires a current active revocation"))
  let fallback ← candidateStatus rollback
  lift (ensure (!fallback.revoked)
    (.rollout "candidate recovery rollback target is revoked"))

/-- The candidate that a transition would admit, restore or roll back to. -/
def protectedCandidate (current : RolloutState) (command : Json)
    (target : Option RolloutCandidateBinding) : Option RolloutCandidateBinding :=
  match command.field "action" with
  | .str "SET_STAGE" => some current.candidateBinding
  | .str "RESTORE_CANDIDATE" => target
  | .str "ROLLBACK" => target
  | _ => none

/-- No transition leads to a revoked candidate, except the recovery of that candidate. -/
def checkProtected (recovered : Option RolloutCandidateBinding) :
    Option RolloutCandidateBinding → Control Unit
  | none => return ()
  | some candidate => do
    let status ← candidateStatus candidate
    lift (ensure (!status.revoked || some candidate == recovered)
      (.rollout "rollout transition is blocked by an active candidate revocation"))

/-- A transition without a recovery event recovers nothing. -/
def recoveredCandidate (policy : RolloutPolicy) (state : RolloutState) (command : Json)
    (target : Option RolloutCandidateBinding) (now : Int) :
    Option Json → Control (Option RolloutCandidateBinding)
  | none => return none
  | some event => do
    let (candidate, rollback) ← lift (authorizeRecovery policy state command target event)
    checkRecovery event now rollback
    return some candidate

/-- A transition reads the whole rollout before its first write. -/
def decideTransition (command : Json) (now : Int) (recovery : Option Json) :
    Control (RolloutPolicy × RolloutState × RolloutHead) := do
  let missing := ControlError.rollout "rollout control state is missing or unreadable"
  let policyFile ← readDocument .policy (·.policy) missing
  let state ← readDocument .state (·.state) missing
  let head ← readDocument .head (·.head) missing
  let policy ← lift (policyPayload policyFile now)
  let stateIdentity ← lift (statePayload state policy.identity head)
  verifyReferenceHistory policy.identity state stateIdentity
  let payload ← lift (verifySigned .rollout command "rollout transition")
  let target ← lift (commandTarget payload)
  let recovered ← recoveredCandidate policy state payload target now recovery
  checkProtected recovered (protectedCandidate state payload target)
  let (next, nextHead) ← lift (applyRolloutTransition policyFile state head command now)
  lift (ensure (payload.field "action" != .str "RESTORE_CANDIDATE" ||
      (next.candidateBinding == policy.candidateBinding && next.stage == .disabled &&
        !next.admissionsEnabled && next.admittedCohorts.isEmpty))
    (.rollout "candidate recovery did not produce a disabled primary rollout"))
  let history ← readDocument .history (·.history)
    (.rollout "rollout transition history is missing or unsafe")
  lift (ensure (next.revision ∉ history.keys)
    (.rollout "rollout transition history revision already exists"))
  return (policy, next, nextHead)

/-- The history is written before the state, and the state before its head. -/
def performTransition (now : Int) (recovery : Option Json) (policy : RolloutPolicy)
    (next : RolloutState) (nextHead : RolloutHead) : Control Nat := do
  write (.write (.historyFile next.revision)) fun files =>
    { files with history := some ((files.history.getD ∅).insert next.revision next) }
  write (.write .state) fun files => { files with state := some next }
  write (.write .head) fun files => { files with head := some nextHead }
  match recovery with
  | none => return next.revision
  | some event => do
    let nextIdentity ← lift (statePayload next policy.identity nextHead)
    verifyReferenceHistory policy.identity next nextIdentity
    let _ ← recordEvent event now false
    return next.revision

/-- A signed transition is applied under the lock of the rollout. -/
def transition (command : Json) (now : Int) (recovery : Option Json) : Control Nat :=
  withLock .rollout do
    let (policy, next, nextHead) ← decideTransition command now recovery
    performTransition now recovery policy next nextHead

end

section
variable [Sha256] [Datetime] [Authority]

/-- A status that cannot be read is reported by the revocation authority. -/
def candidateRevocationStatus (candidate : RolloutCandidateBinding) :
    Control CandidateRevocationStatus :=
  tryCatch (candidateStatus candidate) fun error =>
    match error with
    | .revocation message => throw (.revocation message)
    | _ => throw
        (.revocation "candidate revocation authority is unavailable or unreadable")

/-- A receipt reports the policy, the state and the ledger that the admission read. -/
def receipt (status : AdmissionStatus) (reason : AdmissionReason)
    (candidate : RolloutCandidateBinding) (policy : RolloutPolicy) (current : RolloutState)
    (cohortId : String) (revocation : CandidateRevocationStatus) : RolloutAdmission where
  status
  reasonCode := reason
  candidateBinding := candidate
  policyIdentity := some policy.identity
  policyVersion := some policy.policyVersion
  stateRevision := some current.revision
  stage := some current.stage
  cohortId := some cohortId
  revocationStateIdentity := some revocation.stateIdentity
  revocationRevision := some revocation.revision
  revocationStatus := some revocation.status

/-- An admission reads its files without a lock. -/
def admitCandidate (candidate : RolloutCandidateBinding) (cohortId : String) (now : Int) :
    Control RolloutAdmission := do
  let missing := ControlError.rollout "rollout control document is missing or unsafe"
  let policyFile ← readDocument .policy (·.policy) missing
  let current ← readDocument .state (·.state) missing
  let head ← readDocument .head (·.head) missing
  let policy ← lift (policyPayload policyFile now)
  let stateIdentity ← lift (statePayload current policy.identity head)
  verifyReferenceHistory policy.identity current stateIdentity
  let active := current.candidateBinding
  lift (ensure (candidate == active)
    (.rollout "runtime candidate does not match the authorized rollout candidate"))
  lift (ensure (active == policy.candidateBinding || some active == policy.rollbackTargetBinding)
    (.rollout "rollout state candidate is not authorized by policy"))
  lift (ensure (current.transitionAction != .rollback ||
      some active == policy.rollbackTargetBinding)
    (.rollout "rollback state does not select its authorized target"))
  lift (ensure (current.transitionAction != .restoreCandidate || active == policy.candidateBinding)
    (.rollout "restored state does not select its authorized candidate"))
  let revocation ← candidateRevocationStatus candidate
  let answer := fun status reason =>
    receipt status reason candidate policy current cohortId revocation
  if revocation.revoked then return answer .denied .candidateRevoked
  if !current.admissionsEnabled || current.stage == .disabled then
    return answer .denied .admissionsDisabled
  if current.admittedCohorts != policy.stageCohorts current.stage ||
      !current.admittedCohorts.contains cohortId then
    return answer .denied .cohortNotAdmitted
  return answer .admitted .cohortAdmitted

end
end Control
end KSlide
