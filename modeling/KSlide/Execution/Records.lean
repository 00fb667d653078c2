import KSlide.Execution.Values

/-
This file gives the small records of an execution and the checks of their constructors.
-/

namespace KSlide

variable {N : Type} [PythonInt N]

structure RunStoreRef.Fields where
  scopeRef : String
  storeRef : String
deriving DecidableEq

namespace RunStoreRef.Fields

def Valid (fields : Fields) : Prop :=
  isIdentifier fields.scopeRef = true ∧ isIdentifier fields.storeRef = true

def check (scopeRef storeRef : Json) : Except Raised Fields := do
  let scopeRef ← identifier scopeRef "scope reference"
  let storeRef ← identifier storeRef "store reference"
  return { scopeRef, storeRef }

theorem check_ok {scopeRef storeRef : Json} {fields : Fields} :
    check scopeRef storeRef = .ok fields ↔
      (scopeRef = .str fields.scopeRef ∧ storeRef = .str fields.storeRef) ∧ fields.Valid := by
  cases fields
  simp [check, Valid]
  grind

end RunStoreRef.Fields

/-- Both references are opaque to the store. -/
structure RunStoreRef extends RunStoreRef.Fields where
  valid : toFields.Valid
deriving DecidableEq

namespace RunStoreRef

def make (scopeRef storeRef : Json) : Except Raised RunStoreRef :=
  construct (Fields.check scopeRef storeRef) fun fields found => ⟨fields, (Fields.check_ok.mp found).2⟩

@[simp] theorem make_ok {scopeRef storeRef : Json} {ref : RunStoreRef} :
    make scopeRef storeRef = .ok ref ↔
      scopeRef = .str ref.scopeRef ∧ storeRef = .str ref.storeRef := by
  rw [make, construct_ok RunStoreRef.toFields (fun _ _ => rfl) (by rintro ⟨_, _⟩ ⟨_, _⟩ rfl; rfl),
    Fields.check_ok]
  exact and_iff_left ref.valid

def asDict (ref : RunStoreRef) : Json := .obj [
  ("scope_ref", .str ref.scopeRef),
  ("store_ref", .str ref.storeRef)]

end RunStoreRef

structure ProgressSnapshot.Fields (N : Type) where
  engineStage : String
  completedWorkUnits : N
  totalWorkUnits : N
  currentWorkUnit : Option String
deriving DecidableEq

namespace ProgressSnapshot.Fields

@[mk_iff] structure Valid (fields : Fields N) : Prop where
  stage : isPhase fields.engineStage = true
  nonnegative : 0 ≤ PythonInt.toInt fields.completedWorkUnits
  within : PythonInt.toInt fields.completedWorkUnits ≤ PythonInt.toInt fields.totalWorkUnits
  bounded : PythonInt.toInt fields.totalWorkUnits ≤ 100000
  unit : ∀ text ∈ fields.currentWorkUnit, isIdentifier text = true

def check (N : Type) [PythonInt N] (engineStage completedWorkUnits totalWorkUnits
    currentWorkUnit : Json) : Except Raised (Fields N) := do
  let engineStage ← phase engineStage "engine stage"
  let completedWorkUnits ← integer N completedWorkUnits
    (.invalid "Execution progress counts must be integers.")
  let totalWorkUnits ← integer N totalWorkUnits
    (.invalid "Execution progress counts must be integers.")
  require (0 ≤ PythonInt.toInt completedWorkUnits && 0 ≤ PythonInt.toInt totalWorkUnits &&
      PythonInt.toInt completedWorkUnits ≤ PythonInt.toInt totalWorkUnits &&
      PythonInt.toInt totalWorkUnits ≤ 100000)
    (.invalid "Execution progress counts are outside the bounded range.")
  let currentWorkUnit ← optionalText isIdentifier
    (.invalid "Execution contract has an invalid current work-unit reference.") currentWorkUnit
  return { engineStage, completedWorkUnits, totalWorkUnits, currentWorkUnit }

theorem check_ok {stage completed total unit : Json} {fields : Fields N} :
    check N stage completed total unit = .ok fields ↔
      (stage = .str fields.engineStage ∧ completed = PythonInt.toJson fields.completedWorkUnits ∧
        total = PythonInt.toJson fields.totalWorkUnits ∧ unit = .ofText? fields.currentWorkUnit) ∧
      fields.Valid := by
  cases fields
  simp only [check, bind_ok, phase_ok, integer_ok, require_ok, optionalText_ok, pure_ok, valid_iff,
    Bool.and_eq_true, decide_eq_true_eq, Fields.mk.injEq]
  grind

end ProgressSnapshot.Fields

/-- A progress snapshot is bounded and free of source text. -/
structure ProgressSnapshot (N : Type) [PythonInt N] extends ProgressSnapshot.Fields N where
  valid : toFields.Valid

instance [DecidableEq N] : DecidableEq (ProgressSnapshot N)
  | ⟨first, _⟩, ⟨second, _⟩ => decidable_of_iff (first = second) (by simp)

namespace ProgressSnapshot

def make (N : Type) [PythonInt N] (engineStage completedWorkUnits totalWorkUnits
    currentWorkUnit : Json) : Except Raised (ProgressSnapshot N) :=
  construct (Fields.check N engineStage completedWorkUnits totalWorkUnits currentWorkUnit)
    fun fields found => ⟨fields, (Fields.check_ok.mp found).2⟩

@[simp] theorem make_ok {stage completed total unit : Json} {progress : ProgressSnapshot N} :
    make N stage completed total unit = .ok progress ↔
      stage = .str progress.engineStage ∧
      completed = PythonInt.toJson progress.completedWorkUnits ∧
      total = PythonInt.toJson progress.totalWorkUnits ∧
      unit = .ofText? progress.currentWorkUnit := by
  rw [make, construct_ok toFields (fun _ _ => rfl) (by rintro ⟨_, _⟩ ⟨_, _⟩ rfl; rfl),
    Fields.check_ok]
  exact and_iff_left progress.valid

def asDict (progress : ProgressSnapshot N) : Json := .obj [
  ("completed_work_units", PythonInt.toJson progress.completedWorkUnits),
  ("current_work_unit", .ofText? progress.currentWorkUnit),
  ("engine_stage", .str progress.engineStage),
  ("total_work_units", PythonInt.toJson progress.totalWorkUnits)]

end ProgressSnapshot

structure CancellationState.Fields where
  requested : Bool
  acknowledged : Bool
  requestRef : Option String
  requestedAt : Option String
  acknowledgedAt : Option String
deriving DecidableEq

namespace CancellationState.Fields

@[mk_iff] structure Valid (fields : Fields) : Prop where
  ordered : fields.acknowledged = true → fields.requested = true
  named : fields.requested = true → fields.requestRef ≠ none
  ref : ∀ text ∈ fields.requestRef, isIdentifier text = true
  requestTime : ∀ text ∈ fields.requestedAt, isMoment text = true
  acknowledgeTime : ∀ text ∈ fields.acknowledgedAt, isMoment text = true

def check (requested acknowledged requestRef requestedAt acknowledgedAt : Json) :
    Except Raised Fields := do
  let requested ← boolean requested (.invalid "Execution cancellation flags must be boolean.")
  let acknowledged ← boolean acknowledged
    (.invalid "Execution cancellation flags must be boolean.")
  require (!acknowledged || requested)
    (.invalid "Execution cancellation cannot be acknowledged before it is requested.")
  let requestRef ← optionalText isIdentifier
    (.invalid "Execution contract has an invalid cancellation reference.") requestRef
  require (!requested || requestRef.isSome)
    (.invalid "Requested execution cancellation has no reference.")
  let requestedAt ← timestamp requestedAt "cancellation request"
  let acknowledgedAt ← timestamp acknowledgedAt "cancellation acknowledgement"
  return { requested, acknowledged, requestRef, requestedAt, acknowledgedAt }

theorem check_ok {requested acknowledged ref requestedAt acknowledgedAt : Json} {fields : Fields} :
    check requested acknowledged ref requestedAt acknowledgedAt = .ok fields ↔
      (requested = .bool fields.requested ∧ acknowledged = .bool fields.acknowledged ∧
        ref = .ofText? fields.requestRef ∧ requestedAt = .ofText? fields.requestedAt ∧
        acknowledgedAt = .ofText? fields.acknowledgedAt) ∧ fields.Valid := by
  cases fields
  simp only [check, bind_ok, boolean_ok, require_ok, optionalText_ok, timestamp_ok, pure_ok,
    valid_iff, Bool.or_eq_true, Bool.not_eq_true', Fields.mk.injEq, ne_eq,
    Option.isSome_iff_ne_none]
  grind

end CancellationState.Fields

/-- A cancellation is acknowledged only after it is requested. -/
structure CancellationState extends CancellationState.Fields where
  valid : toFields.Valid
deriving DecidableEq

namespace CancellationState

def make (requested acknowledged requestRef requestedAt acknowledgedAt : Json) :
    Except Raised CancellationState :=
  construct (Fields.check requested acknowledged requestRef requestedAt acknowledgedAt)
    fun fields found => ⟨fields, (Fields.check_ok.mp found).2⟩

@[simp] theorem make_ok {requested acknowledged ref requestedAt acknowledgedAt : Json}
    {cancellation : CancellationState} :
    make requested acknowledged ref requestedAt acknowledgedAt = .ok cancellation ↔
      requested = .bool cancellation.requested ∧ acknowledged = .bool cancellation.acknowledged ∧
      ref = .ofText? cancellation.requestRef ∧ requestedAt = .ofText? cancellation.requestedAt ∧
      acknowledgedAt = .ofText? cancellation.acknowledgedAt := by
  rw [make, construct_ok toFields (fun _ _ => rfl) (by rintro ⟨_, _⟩ ⟨_, _⟩ rfl; rfl),
    Fields.check_ok]
  exact and_iff_left cancellation.valid

/-- A replaced state passes through its constructor again. -/
def replace (fields : Fields) : Except Raised CancellationState :=
  make (.bool fields.requested) (.bool fields.acknowledged) (.ofText? fields.requestRef)
    (.ofText? fields.requestedAt) (.ofText? fields.acknowledgedAt)

@[simp] theorem replace_ok {fields : Fields} {cancellation : CancellationState} :
    replace fields = .ok cancellation ↔ cancellation.toFields = fields := by
  obtain ⟨⟨⟩, _⟩ := cancellation
  cases fields
  simp only [replace, make_ok, Json.bool.injEq, Json.ofText?_inj, Fields.mk.injEq]
  grind

/-- A new job has no cancellation request. -/
def initial : CancellationState := ⟨⟨false, false, none, none, none⟩, by simp [Fields.valid_iff]⟩

def asDict (cancellation : CancellationState) : Json := .obj [
  ("acknowledged", .bool cancellation.acknowledged),
  ("acknowledged_at", .ofText? cancellation.acknowledgedAt),
  ("request_ref", .ofText? cancellation.requestRef),
  ("requested", .bool cancellation.requested),
  ("requested_at", .ofText? cancellation.requestedAt)]

end CancellationState

structure RetryState.Fields (N : Type) where
  attempt : N
  maxAttempts : N
  disposition : RetryDisposition
  lastErrorCode : Option String
deriving DecidableEq

namespace RetryState.Fields

@[mk_iff] structure Valid (fields : Fields N) : Prop where
  nonnegative : 0 ≤ PythonInt.toInt fields.attempt
  positive : 1 ≤ PythonInt.toInt fields.maxAttempts
  within : PythonInt.toInt fields.attempt ≤ PythonInt.toInt fields.maxAttempts
  bounded : PythonInt.toInt fields.maxAttempts ≤ 32
  code : ∀ text ∈ fields.lastErrorCode, isErrorCode text = true
  spent : fields.disposition ≠ .exhausted ∨
    PythonInt.toInt fields.maxAttempts ≤ PythonInt.toInt fields.attempt

def check (N : Type) [PythonInt N] (attempt maxAttempts : Json) (disposition : RetryDisposition)
    (lastErrorCode : Json) : Except Raised (Fields N) := do
  let attempt ← integer N attempt (.invalid "Execution retry attempts are outside the bounded range.")
  let maxAttempts ← integer N maxAttempts
    (.invalid "Execution retry attempts are outside the bounded range.")
  require (0 ≤ PythonInt.toInt attempt && 1 ≤ PythonInt.toInt maxAttempts &&
      PythonInt.toInt attempt ≤ PythonInt.toInt maxAttempts && PythonInt.toInt maxAttempts ≤ 32)
    (.invalid "Execution retry attempts are outside the bounded range.")
  let lastErrorCode ← optionalText isErrorCode
    (.invalid "Execution retry error code is invalid.") lastErrorCode
  require (disposition != .exhausted || PythonInt.toInt maxAttempts ≤ PythonInt.toInt attempt)
    (.invalid "Exhausted execution retry state is inconsistent.")
  return { attempt, maxAttempts, disposition, lastErrorCode }

theorem check_ok {attempt maxAttempts code : Json} {disposition : RetryDisposition}
    {fields : Fields N} :
    check N attempt maxAttempts disposition code = .ok fields ↔
      (attempt = PythonInt.toJson fields.attempt ∧
        maxAttempts = PythonInt.toJson fields.maxAttempts ∧ disposition = fields.disposition ∧
        code = .ofText? fields.lastErrorCode) ∧ fields.Valid := by
  cases fields
  simp only [check, bind_ok, integer_ok, require_ok, optionalText_ok, pure_ok, valid_iff,
    Bool.and_eq_true, Bool.or_eq_true, decide_eq_true_eq, bne_iff_ne, ne_eq, Fields.mk.injEq]
  grind

end RetryState.Fields

/-- The attempts of a job never exceed its limit. -/
structure RetryState (N : Type) [PythonInt N] extends RetryState.Fields N where
  valid : toFields.Valid

instance [DecidableEq N] : DecidableEq (RetryState N)
  | ⟨first, _⟩, ⟨second, _⟩ => decidable_of_iff (first = second) (by simp)

namespace RetryState

def make (N : Type) [PythonInt N] (attempt maxAttempts : Json) (disposition : RetryDisposition)
    (lastErrorCode : Json) : Except Raised (RetryState N) :=
  construct (Fields.check N attempt maxAttempts disposition lastErrorCode)
    fun fields found => ⟨fields, (Fields.check_ok.mp found).2⟩

@[simp] theorem make_ok {attempt maxAttempts code : Json} {disposition : RetryDisposition}
    {retry : RetryState N} :
    make N attempt maxAttempts disposition code = .ok retry ↔
      attempt = PythonInt.toJson retry.attempt ∧
      maxAttempts = PythonInt.toJson retry.maxAttempts ∧ disposition = retry.disposition ∧
      code = .ofText? retry.lastErrorCode := by
  rw [make, construct_ok toFields (fun _ _ => rfl) (by rintro ⟨_, _⟩ ⟨_, _⟩ rfl; rfl),
    Fields.check_ok]
  exact and_iff_left retry.valid

/-- A replaced state passes through its constructor again. -/
def replace (fields : Fields N) : Except Raised (RetryState N) :=
  make N (PythonInt.toJson fields.attempt) (PythonInt.toJson fields.maxAttempts) fields.disposition
    (.ofText? fields.lastErrorCode)

@[simp] theorem replace_ok {fields : Fields N} {retry : RetryState N} :
    replace fields = .ok retry ↔ retry.toFields = fields := by
  obtain ⟨⟨⟩, _⟩ := retry
  cases fields
  simp only [replace, make_ok, toJson_injective.eq_iff, Json.ofText?_inj, Fields.mk.injEq]
  grind

def asDict (retry : RetryState N) : Json := .obj [
  ("attempt", PythonInt.toJson retry.attempt),
  ("disposition", .str (Text.Enumeration.value retry.disposition)),
  ("last_error_code", .ofText? retry.lastErrorCode),
  ("max_attempts", PythonInt.toJson retry.maxAttempts)]

end RetryState

structure ResultCommitMarker.Fields (N : Type) where
  operationId : String
  resultKind : String
  resultSha256 : String
  attempt : N
  committedAt : Option String
deriving DecidableEq

namespace ResultCommitMarker.Fields

@[mk_iff] structure Valid (fields : Fields N) : Prop where
  operation : isIdentifier fields.operationId = true
  kind : isIdentifier fields.resultKind = true
  sha256 : Text.isSha256 fields.resultSha256 = true
  nonnegative : 0 ≤ PythonInt.toInt fields.attempt
  bounded : PythonInt.toInt fields.attempt ≤ 32
  time : ∀ text ∈ fields.committedAt, isMoment text = true

def check (N : Type) [PythonInt N] (operationId resultKind resultSha256 attempt committedAt : Json) :
    Except Raised (Fields N) := do
  let operationId ← identifier operationId "operation ID"
  let resultKind ← identifier resultKind "result kind"
  let resultSha256 ← matchedText Text.isSha256
    (.invalid "Execution result marker must contain a SHA-256 result identity.") resultSha256
  let attempt ← integer N attempt
    (.invalid "Execution result marker attempt is outside the bounded range.")
  require (0 ≤ PythonInt.toInt attempt && PythonInt.toInt attempt ≤ 32)
    (.invalid "Execution result marker attempt is outside the bounded range.")
  let committedAt ← timestamp committedAt "result commit"
  return { operationId, resultKind, resultSha256, attempt, committedAt }

theorem check_ok {operation kind sha256 attempt time : Json} {fields : Fields N} :
    check N operation kind sha256 attempt time = .ok fields ↔
      (operation = .str fields.operationId ∧ kind = .str fields.resultKind ∧
        sha256 = .str fields.resultSha256 ∧ attempt = PythonInt.toJson fields.attempt ∧
        time = .ofText? fields.committedAt) ∧ fields.Valid := by
  cases fields
  simp only [check, bind_ok, identifier_ok, matchedText_ok, integer_ok, require_ok, timestamp_ok,
    pure_ok, valid_iff, Bool.and_eq_true, decide_eq_true_eq, Fields.mk.injEq]
  grind

end ResultCommitMarker.Fields

/-- A marker makes one committed result idempotent. -/
structure ResultCommitMarker (N : Type) [PythonInt N] extends ResultCommitMarker.Fields N where
  valid : toFields.Valid

instance [DecidableEq N] : DecidableEq (ResultCommitMarker N)
  | ⟨first, _⟩, ⟨second, _⟩ => decidable_of_iff (first = second) (by simp)

namespace ResultCommitMarker

def make (N : Type) [PythonInt N] (operationId resultKind resultSha256 attempt committedAt : Json) :
    Except Raised (ResultCommitMarker N) :=
  construct (Fields.check N operationId resultKind resultSha256 attempt committedAt)
    fun fields found => ⟨fields, (Fields.check_ok.mp found).2⟩

@[simp] theorem make_ok {operation kind sha256 attempt time : Json}
    {marker : ResultCommitMarker N} :
    make N operation kind sha256 attempt time = .ok marker ↔
      operation = .str marker.operationId ∧ kind = .str marker.resultKind ∧
      sha256 = .str marker.resultSha256 ∧ attempt = PythonInt.toJson marker.attempt ∧
      time = .ofText? marker.committedAt := by
  rw [make, construct_ok toFields (fun _ _ => rfl) (by rintro ⟨_, _⟩ ⟨_, _⟩ rfl; rfl),
    Fields.check_ok]
  exact and_iff_left marker.valid

def asDict (marker : ResultCommitMarker N) : Json := .obj [
  ("attempt", PythonInt.toJson marker.attempt),
  ("committed_at", .ofText? marker.committedAt),
  ("operation_id", .str marker.operationId),
  ("result_kind", .str marker.resultKind),
  ("result_sha256", .str marker.resultSha256)]

end ResultCommitMarker

end KSlide
