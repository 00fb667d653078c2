import KSlide.Execution.NewJob

/-
This file shows when the store calls keep the lifecycle of a job on its permitted transitions.
-/

namespace KSlide
open Interleaving Relation

/-- A lifecycle stays or moves along a permitted transition. -/
def OperationalLifecycle.Moves (before after : OperationalLifecycle) : Prop :=
  after = before ∨ after ∈ operationalTransitions before

theorem OperationalLifecycle.Moves.ended {before after : OperationalLifecycle}
    (moves : ReflTransGen Moves before after)
    (ended : before = .canceled ∨ before = .processingFailed) : after = before := by
  induction moves with
  | refl => rfl
  | tail _ step ih =>
    subst ih
    rcases step with same | edge
    · exact same
    · rcases ended with rfl | rfl <;> cases edge

section
variable [Sha256]

/-- These calls move a job against the permitted transitions. -/
def StoreCall.Breaks (current : ExecutionJob Int) : StoreCall → Prop
  | .acknowledgeCancellation _ expectedRevision safeBoundary =>
    expectedRevision = current.revision ∧ safeBoundary = true ∧
    current.cancellation.requested = true ∧ current.cancellation.acknowledged = false ∧
    (current.lifecycle = .completed ∨ current.lifecycle = .processingFailed)
  | .recordRetry _ expectedRevision code =>
    expectedRevision = current.revision ∧ current.lifecycle = .queued ∧
    Retries current.retry code
  | _ => False

variable {before after : ExecutionJob Int} {call : StoreCall}

theorem Change.moves (change : Change before after call) (lawful : ¬call.Breaks before) :
    before.lifecycle.Moves after.lifecycle := by
  cases call with
  | commitCheckpoint =>
    obtain ⟨now, -, -, -, fields⟩ := change
    exact Or.inl (by rw [fields])
  | commitStep =>
    obtain ⟨now, -, -, -, -, fields⟩ := change
    exact Or.inl (by rw [fields])
  | requestCancellation =>
    obtain ⟨_, _, _, -, -, -, fields⟩ := change
    exact Or.inl (by rw [fields])
  | acknowledgeCancellation =>
    obtain ⟨_, _, _, fresh, safe, requested, pending, -, fields⟩ := change
    have nonterminal : before.lifecycle ≠ .completed ∧ before.lifecycle ≠ .processingFailed := by
      constructor <;> intro ended <;>
        exact lawful ⟨fresh, safe, requested, pending, by simp [ended]⟩
    have active : before.lifecycle ≠ .canceled := fun canceled => by
      simp [ExecutionJob.acknowledged_of_canceled canceled] at pending
    right
    rw [fields]
    cases found : before.lifecycle <;> simp_all [operationalTransitions]
  | transitionOperational =>
    obtain ⟨now, -, edge, fields⟩ := change
    exact Or.inr (by rw [fields]; exact edge)
  | recordRetry jobId expectedRevision code =>
    obtain ⟨now, retry, fresh, canceled, completed, next, fields⟩ := change
    split_ifs at fields with retries
    · have queued : before.lifecycle ≠ .queued := fun queued => lawful ⟨fresh, queued, retries⟩
      have unfinished : before.terminalOutcome = .none := by
        have outcome : after.terminalOutcome = .none :=
          ExecutionJob.outcome_of_lifecycle (by simp [fields, OperationalLifecycle.terminal])
        rwa [fields] at outcome
      have failed : before.lifecycle ≠ .processingFailed := fun failed => by
        have settled := before.valid.settled
        simp [ExecutionJob.Fields.Settled, failed, unfinished] at settled
      right
      rw [fields]
      cases found : before.lifecycle <;> simp_all [operationalTransitions]
    · rw [fields]
      cases found : before.lifecycle <;>
        simp_all [OperationalLifecycle.Moves, operationalTransitions, RunStore.failedFields]
  | commitResult =>
    obtain ⟨now, -, -, fields⟩ := change
    exact Or.inl (by rw [fields])

/-- A call that breaks the transitions does so with the record that it writes. -/
theorem Change.breaks (change : Change before after call) (breaks : call.Breaks before) :
    ¬before.lifecycle.Moves after.lifecycle := by
  cases call with
  | acknowledgeCancellation =>
    obtain ⟨-, -, -, -, ended⟩ := breaks
    obtain ⟨_, _, _, -, -, -, -, -, fields⟩ := change
    rw [fields]
    rcases ended with ended | ended <;>
      simp [ended, OperationalLifecycle.Moves, operationalTransitions]
  | recordRetry =>
    obtain ⟨-, queued, retries⟩ := breaks
    obtain ⟨_, _, -, -, -, -, fields⟩ := change
    rw [if_pos retries] at fields
    rw [fields]
    simp [queued, OperationalLifecycle.Moves, operationalTransitions]
  | _ => exact breaks.elim

/-- An accepted call moves its job along the permitted transitions. -/
def Lawful (state : RunStoreState) (call : StoreCall) : Prop :=
  ∀ current result after, state.jobs call.jobId = some current →
    (RunStore.perform call).run state = (.ok result, after) → result.status = .accepted →
    current.lifecycle.Moves result.job.lifecycle

/-- A call is regular when its stored job does not let it break the transitions. -/
def Regular (state : RunStoreState) (call : StoreCall) : Prop :=
  ∀ current, state.jobs call.jobId = some current → ¬call.Breaks current

/-- One permitted call runs to its end. -/
def Called (permitted : RunStoreState → StoreCall → Prop) (before after : RunStoreState) : Prop :=
  ∃ call, permitted before call ∧ after = ((RunStore.perform call).run before).2

namespace RunStore

theorem regular_moves {state : RunStoreState} {call : StoreCall} (regular : Regular state call) :
    Lawful state call := by
  intro current result after present reached accepted
  rcases perform_run call state with ⟨_, settled⟩ | ⟨loaded, candidate, _, found, change, _, run⟩
  · rw [reached] at settled
    exact absurd accepted (settled result rfl).1
  · rw [reached] at run
    obtain ⟨rfl⟩ := Except.ok.inj (Prod.mk.inj run).1
    obtain rfl := Option.some.inj (present.symm.trans found)
    exact change.moves (regular current present)

/-- A call that breaks the transitions is accepted. -/
theorem breaks_planned {call : StoreCall} {current : ExecutionJob Int}
    {first second : Timestamp} (breaks : call.Breaks current) :
    ∃ candidate, call.plan current first second = .ok (.commit candidate) := by
  cases call with
  | acknowledgeCancellation jobId expectedRevision safeBoundary =>
    obtain ⟨rfl, rfl, requested, pending, _⟩ := breaks
    exact acknowledge_planned requested pending
  | recordRetry jobId expectedRevision code =>
    obtain ⟨rfl, queued, retryable, _⟩ := breaks
    have accepted : isErrorCode code = true := by
      unfold classifyOperationalFailure at retryable
      split_ifs at retryable with _ listed
      simp only [List.mem_cons, List.not_mem_nil, or_false] at listed
      rcases listed with rfl | rfl | rfl <;> decide
    exact recordRetry_planned (by simp [queued, OperationalLifecycle.terminal])
      (by simp [retryable]) accepted
  | _ => exact breaks.elim

/-- The calls obey the transitions exactly when they are regular. -/
theorem lawful_iff (state : RunStoreState) (call : StoreCall) :
    Lawful state call ↔ Regular state call := by
  refine ⟨fun lawful current present breaks => ?_, regular_moves⟩
  obtain ⟨candidate, planned⟩ := breaks_planned breaks
  obtain ⟨_, reached⟩ := perform_committed present planned
  obtain ⟨_, _, stored⟩ := state.valid _ _ present
  exact (Change.of_plan stored planned).breaks breaks
    (lawful current _ _ present reached rfl)

theorem called_moves {before after : RunStoreState} (called : Called Regular before after)
    {jobId : String} {job : ExecutionJob Int} (present : before.jobs jobId = some job) :
    ∃ later, after.jobs jobId = some later ∧ job.lifecycle.Moves later.lifecycle := by
  obtain ⟨call, regular, rfl⟩ := called
  rcases perform_run call before with ⟨same, _⟩ | ⟨current, candidate, _, found, change, named, run⟩
  · exact ⟨job, by rw [same, present], Or.inl rfl⟩
  · rw [run]
    by_cases own : jobId = call.jobId
    · subst own
      obtain rfl := Option.some.inj (present.symm.trans found)
      exact ⟨candidate.stored, by simp [named], change.moves (regular job present)⟩
    · exact ⟨job, by simp [named, own, present], Or.inl rfl⟩

end RunStore

/-- The calls obey the permitted transitions exactly when they are regular, and runs of regular
calls never leave a canceled or failed job and leave a completed job only for a retry. -/
theorem lifecycle_law (start : RunStoreState) :
    (∀ call, Lawful start call ↔ Regular start call) ∧
    ∀ reached, ReflTransGen (Called Regular) start reached →
      ∀ jobId job, start.jobs jobId = some job → ∃ later, reached.jobs jobId = some later ∧
        ReflTransGen OperationalLifecycle.Moves job.lifecycle later.lifecycle ∧
        (job.lifecycle = .canceled ∨ job.lifecycle = .processingFailed →
          later.lifecycle = job.lifecycle) := by
  refine ⟨RunStore.lawful_iff start, fun reached run => ?_⟩
  induction run with
  | refl => exact fun jobId job present => ⟨job, present, .refl, fun _ => rfl⟩
  | tail _ called ih =>
    intro jobId job present
    obtain ⟨middle, found, moves, _⟩ := ih jobId job present
    obtain ⟨later, last, step⟩ := RunStore.called_moves called found
    exact ⟨later, last, moves.tail step, OperationalLifecycle.Moves.ended (moves.tail step)⟩

end

/-- A failure of a queued job is accepted and moves it to a retry, which is not permitted. -/
theorem lifecycle_law_broken : ¬ ∀ (_ : Sha256) (now : Timestamp) (clock : Nat → Timestamp)
    (job : ExecutionJob Int) (result : StoreWriteResult) (start reached : RunStoreState),
    ExecutionJob.new Int now "run-1" .durable "scope-1" "store-1" none none (.int 1) (.int 3)
      (.int 0) none = .ok job →
    (RunStore.create job).run (.empty clock) = (.ok result, start) →
    ReflTransGen (Called fun _ _ => True) start reached →
    ∀ call, Lawful reached call := by
  intro claim
  let digest := Sha256.polynomial
  let now := Timestamp.newYear
  obtain ⟨job, made⟩ : ∃ job, ExecutionJob.new Int now "run-1" .durable "scope-1" "store-1" none
      none (.int 1) (.int 3) (.int 0) none = .ok job :=
    ExecutionJob.new_exists (by decide) (by decide) (by decide) (by decide) (by decide)
      (by decide) (by decide) (by decide) (by decide) (by decide)
  have fresh := ExecutionJob.new_new made
  have durable : job.profile = .durable := (ExecutionJob.new_names made).2.2.2.1
  have created : (RunStore.create job).run (.empty fun _ => now) =
      (.ok ⟨.accepted, job⟩, (RunStoreState.empty fun _ => now).write job durable) := by
    simp [RunStore.create, durable, RunStoreState.empty]
  let call : StoreCall := .recordRetry job.jobId 0 "KSLIDE_INTERNAL"
  have lawful := claim digest now (fun _ => now) job _ _ _ made created .refl call
  have regular := (RunStore.lawful_iff _ call).mp lawful
  refine regular job.stored (by simp [call, StoreCall.jobId]) ⟨fresh.revision.symm, fresh.lifecycle,
    by decide, ?_⟩
  change job.retry.attempt + 1 < job.retry.maxAttempts
  rw [fresh.attempt, fresh.limit]
  decide

end KSlide
