import KSlide.Execution.Change
import KSlide.Interleaving.Pool

/-
This file says what the store calls do to the records, alone and under interference.
-/

namespace KSlide
open Interleaving Relation

section
variable [Sha256]

/-- Every change keeps the identity of a job and counts its revision. -/
structure ExecutionJob.Kept (before after : ExecutionJob Int) : Prop where
  run : after.runId = before.runId
  job : after.jobId = before.jobId
  execution : after.executionId = before.executionId
  profile : after.profile = before.profile
  store : after.storeRef = before.storeRef
  environment : after.environmentIdentity = before.environmentIdentity
  limit : after.retry.maxAttempts = before.retry.maxAttempts
  revision : after.revision = before.revision + 1

omit [Sha256] in
theorem nextRetry_maxAttempts (retry : RetryState Int) (code : String) :
    (nextRetry retry code).maxAttempts = retry.maxAttempts := by
  unfold nextRetry
  split_ifs <;> rfl

theorem Change.kept {before after : ExecutionJob Int} {call : StoreCall}
    (change : Change before after call) : before.Kept after := by
  cases call with
  | recordRetry jobId expectedRevision code =>
    obtain ⟨now, retry, -, -, -, next, fields⟩ := change
    have limit : retry.maxAttempts = before.retry.maxAttempts := by
      rw [next, nextRetry_maxAttempts]
    split_ifs at fields <;> constructor <;> simp [fields, RunStore.failedFields, limit]
  | commitCheckpoint =>
    obtain ⟨now, -, -, -, fields⟩ := change
    constructor <;> simp [fields]
  | commitStep =>
    obtain ⟨now, -, -, -, -, fields⟩ := change
    constructor <;> simp [fields]
  | requestCancellation =>
    obtain ⟨requested, now, cancellation, -, -, -, fields⟩ := change
    constructor <;> simp [fields]
  | acknowledgeCancellation =>
    obtain ⟨acknowledged, now, cancellation, -, -, -, -, -, fields⟩ := change
    constructor <;> simp [fields]
  | transitionOperational =>
    obtain ⟨now, -, -, fields⟩ := change
    constructor <;> simp [fields]
  | commitResult =>
    obtain ⟨now, -, -, fields⟩ := change
    constructor <;> simp [fields]

theorem ExecutionJob.lifecycle_of_outcome {job : ExecutionJob Int}
    (finished : job.terminalOutcome ≠ .none) : job.lifecycle.terminal = true := by
  have settled := job.valid.settled
  unfold ExecutionJob.Fields.Settled at settled
  cases found : job.lifecycle <;> simp_all [OperationalLifecycle.terminal]

theorem ExecutionJob.outcome_of_lifecycle {job : ExecutionJob Int}
    (unfinished : job.lifecycle.terminal = false) : job.terminalOutcome = .none := by
  by_contra finished
  simp [lifecycle_of_outcome finished] at unfinished

theorem ExecutionJob.acknowledged_of_canceled {job : ExecutionJob Int}
    (canceled : job.lifecycle = .canceled) : job.cancellation.acknowledged = true := by
  have settled := job.valid.settled
  rw [ExecutionJob.Fields.Settled, canceled] at settled
  exact settled.1

namespace RunStoreState

theorem load_ok {state : RunStoreState} {jobId : String} {job : ExecutionJob Int} :
    state.load jobId = .ok job ↔ state.jobs jobId = some job := by
  unfold load
  simp only [bind_ok, require_ok]
  cases present : state.jobs jobId with
  | none => simp [throw, throwThe, MonadExceptOf.throw]
  | some found =>
    obtain ⟨named, durable, _⟩ := state.valid jobId found present
    have identified : isIdentifier jobId = true := named ▸ found.valid.job
    simp [named, durable, identified]

@[simp] theorem advance_jobs (state : RunStoreState) : state.advance.jobs = state.jobs := rfl

@[simp] theorem advance_load (state : RunStoreState) (jobId : String) :
    state.advance.load jobId = state.load jobId := rfl

@[simp] theorem write_jobs (state : RunStoreState) (job : ExecutionJob Int)
    (durable : job.profile = .durable) :
    (state.write job durable).jobs = Function.update state.jobs job.jobId (some job.stored) := rfl

end RunStoreState

@[simp] theorem ExecutionJob.stored_revision (job : ExecutionJob Int) :
    job.stored.revision = job.revision := rfl

/-- The record of a job stays or becomes a later record of the same job. -/
def Extends (before after : RunStoreState) : Prop :=
  ∀ jobId job, before.jobs jobId = some job →
    ∃ later, after.jobs jobId = some later ∧ (later = job ∨ job.revision < later.revision)

theorem Extends.refl (state : RunStoreState) : Extends state state :=
  fun _ job present => ⟨job, present, Or.inl rfl⟩

theorem Extends.trans {first second third : RunStoreState} (before : Extends first second)
    (after : Extends second third) : Extends first third := by
  intro jobId job present
  obtain ⟨middle, found, change⟩ := before jobId job present
  obtain ⟨later, last, next⟩ := after jobId middle found
  refine ⟨later, last, ?_⟩
  rcases change with rfl | grown
  · exact next
  · rcases next with rfl | more
    · exact Or.inr grown
    · exact Or.inr (grown.trans more)

theorem Extends.of_chain {first last : RunStoreState}
    (chain : ReflTransGen Extends first last) : Extends first last := by
  induction chain with
  | refl => exact .refl first
  | tail _ step ih => exact ih.trans step

/-- A record at the revision of an earlier record is that record. -/
theorem Extends.unique {before after : RunStoreState} (extends_ : Extends before after)
    {jobId : String} {job later : ExecutionJob Int} (present : before.jobs jobId = some job)
    (found : after.jobs jobId = some later) (same : job.revision = later.revision) :
    later = job := by
  obtain ⟨next, stored, change⟩ := extends_ jobId job present
  obtain rfl := Option.some.inj (found.symm.trans stored)
  rcases change with equal | grown
  · exact equal
  · omega

/-- A call changes the record of its own job and no other record. -/
def Performs (call : StoreCall) (before after : RunStoreState) : Prop :=
  after.jobs = before.jobs ∨ ∃ current candidate : ExecutionJob Int,
    before.jobs call.jobId = some current ∧ Change current candidate.stored call ∧
    after.jobs = Function.update before.jobs call.jobId (some candidate.stored)

theorem Performs.extends {call : StoreCall} {before after : RunStoreState}
    (performs : Performs call before after) : Extends before after := by
  rcases performs with same | ⟨current, candidate, present, change, written⟩
  · intro jobId job found
    exact ⟨job, by rw [same, found], Or.inl rfl⟩
  · intro jobId job found
    by_cases named : jobId = call.jobId
    · subst named
      obtain rfl := Option.some.inj (present.symm.trans found)
      refine ⟨candidate.stored, by rw [written, Function.update_self], Or.inr ?_⟩
      rw [change.kept.revision]
      omega
    · exact ⟨job, by rw [written, Function.update_of_ne named, found], Or.inl rfl⟩

namespace RunStore

/-- The locked part changes nothing or replaces a record at the expected revision. -/
theorem compareAndSet_cases (job : ExecutionJob Int) (expectedRevision : Int)
    (state : RunStoreState) :
    (∃ result, compareAndSet job expectedRevision state = (result, state) ∧
      ∀ value, result = .ok value → value.status ≠ .accepted ∧
        state.jobs job.jobId = some value.job) ∨
    ∃ current durable, state.jobs job.jobId = some current ∧ expectedRevision = current.revision ∧
      job.revision = current.revision + 1 ∧ compareAndSet job expectedRevision state =
        (.ok ⟨.accepted, job⟩, state.write job durable) := by
  unfold compareAndSet
  cases present : state.jobs job.jobId with
  | none => exact Or.inl ⟨_, rfl, by simp⟩
  | some current =>
    dsimp only
    split_ifs with same stale conflict durable environment
    all_goals try exact Or.inl ⟨_, rfl, by simp⟩
    exact Or.inr ⟨current, durable, rfl, not_not.mp stale, not_not.mp conflict, rfl⟩

/-- A candidate that fits the stored record is written. -/
theorem compareAndSet_accepted {current job : ExecutionJob Int} {state : RunStoreState}
    (present : state.jobs job.jobId = some current) (kept : current.Kept job) :
    ∃ durable, compareAndSet job current.revision state =
      (.ok ⟨.accepted, job⟩, state.write job durable) := by
  have durable : job.profile = .durable := by
    rw [kept.profile]
    exact (state.valid _ _ present).2.1
  have different : current.asDict ≠ job.asDict := by
    rw [ne_eq, ExecutionJob.asDict_eq_iff]
    intro same
    have revisions := congrArg (fun found : ExecutionJob Int => found.revision) same
    simp only [ExecutionJob.stored_revision, kept.revision] at revisions
    omega
  refine ⟨durable, ?_⟩
  unfold compareAndSet
  simp only [present]
  simp [different, kept.revision, durable, kept.environment]

/-- A planned candidate keeps the identity of the loaded job. -/
theorem plan_kept {call : StoreCall} {current candidate : ExecutionJob Int}
    {first second : Timestamp} (stored : current.stored = current)
    (planned : call.plan current first second = .ok (.commit candidate)) :
    current.Kept candidate :=
  let kept := (Change.of_plan stored planned).kept
  ⟨kept.run, kept.job, kept.execution, kept.profile, kept.store, kept.environment, kept.limit,
    kept.revision⟩

/-- No check settles a call as a write. -/
theorem settled_else {condition : Prop} [Decidable condition] {status : StoreWriteStatus}
    {rest : Except Raised Plan} (other : status ≠ .accepted) :
    (if condition then pure (.settle status) else rest) = .ok (.settle .accepted) ↔
      ¬condition ∧ rest = .ok (.settle .accepted) := by
  by_cases holds : condition <;> simp [holds, other]

theorem plan_settle {call : StoreCall} {current : ExecutionJob Int} {first second : Timestamp}
    {status : StoreWriteStatus}
    (planned : call.plan current first second = .ok (.settle status)) : status ≠ .accepted := by
  rintro rfl
  cases call with
  | commitCheckpoint =>
    simp only [StoreCall.plan, planCommitCheckpoint, settled_else, bind_ok, pure_ok, ne_eq,
      reduceCtorEq, not_false_eq_true, and_false, exists_false] at planned
  | commitStep =>
    simp only [StoreCall.plan, planCommitStep, bind_ok] at planned
    obtain ⟨_, _, planned⟩ := planned
    split at planned
    · split_ifs at planned <;> cases planned
    · simp only [settled_else, bind_ok, pure_ok, ne_eq, reduceCtorEq, not_false_eq_true,
        and_false, exists_false] at planned
  | requestCancellation =>
    simp only [StoreCall.plan, planRequestCancellation, settled_else, bind_ok, pure_ok, ne_eq,
      reduceCtorEq, not_false_eq_true, and_false, exists_false] at planned
  | acknowledgeCancellation =>
    simp only [StoreCall.plan, planAcknowledgeCancellation, settled_else, bind_ok, pure_ok, ne_eq,
      reduceCtorEq, not_false_eq_true, and_false, exists_false] at planned
  | transitionOperational =>
    simp only [StoreCall.plan, planTransitionOperational, settled_else, bind_ok, pure_ok, ne_eq,
      reduceCtorEq, not_false_eq_true, and_false, exists_false] at planned
  | recordRetry =>
    simp only [StoreCall.plan, planRecordRetry, settled_else, ne_eq, reduceCtorEq,
      not_false_eq_true] at planned
    obtain ⟨_, _, planned⟩ := planned
    split at planned
    · cases planned
    · simp only [settled_else, ne_eq, reduceCtorEq, not_false_eq_true, bind_ok] at planned
      obtain ⟨_, _, _, planned⟩ := planned
      split_ifs at planned <;> simp at planned
  | commitResult =>
    simp only [StoreCall.plan, planCommitResult] at planned
    split at planned
    · split_ifs at planned <;> cases planned
    · simp only [settled_else, bind_ok, pure_ok, ne_eq, reduceCtorEq, not_false_eq_true,
        and_false, exists_false] at planned

section
variable {call : StoreCall} {state : RunStoreState} {current candidate : ExecutionJob Int}

theorem perform_missing {error : Raised} (loaded : state.load call.jobId = .error error) :
    (perform call).run state = (.error error, state.advance) := by
  unfold perform
  apply Program.run_bind_error
  simp [loaded]

theorem perform_loaded (present : state.jobs call.jobId = some current) :
    (perform call).run state =
      (match call.plan current (state.clock 0) (state.clock 1) with
        | .ok (.settle status) => (.ok ⟨status, current⟩, state.advance)
        | .ok (.commit candidate) => compareAndSet candidate current.revision state.advance
        | .error error => (.error error, state.advance)) := by
  have loaded := RunStoreState.load_ok.mpr present
  unfold perform
  rw [Program.run_bind, Program.run_transact, loaded]
  dsimp only [Functor.map, Except.map]
  cases call.plan current (state.clock 0) (state.clock 1) with
  | error error => rfl
  | ok plan =>
    cases plan with
    | settle status => rfl
    | commit candidate =>
      change (commitJob call candidate current.revision).run state.advance = _
      rw [commitJob, Program.run_transact]

theorem perform_committed (present : state.jobs call.jobId = some current)
    (planned : call.plan current (state.clock 0) (state.clock 1) = .ok (.commit candidate)) :
    ∃ durable, (perform call).run state =
      (.ok ⟨.accepted, candidate⟩, state.advance.write candidate durable) := by
  rw [perform_loaded present, planned]
  obtain ⟨named, _, stored⟩ := state.valid _ _ present
  have kept := plan_kept stored planned
  apply compareAndSet_accepted _ kept
  rw [RunStoreState.advance_jobs, kept.job, named, present]

theorem perform_run (call : StoreCall) (state : RunStoreState) :
    (((perform call).run state).2.jobs = state.jobs ∧
      ∀ result, ((perform call).run state).1 = .ok result → result.status ≠ .accepted ∧
        state.jobs call.jobId = some result.job) ∨
    ∃ current candidate durable, state.jobs call.jobId = some current ∧
      Change current candidate.stored call ∧ candidate.jobId = call.jobId ∧
      (perform call).run state =
        (.ok ⟨.accepted, candidate⟩, state.advance.write candidate durable) := by
  cases present : state.jobs call.jobId with
  | none =>
    left
    cases loaded : state.load call.jobId with
    | error error => simp [perform_missing loaded]
    | ok job =>
      rw [RunStoreState.load_ok.mp loaded] at present
      cases present
  | some current =>
    cases planned : call.plan current (state.clock 0) (state.clock 1) with
    | error error => left; simp [perform_loaded present, planned]
    | ok plan =>
      cases plan with
      | settle status =>
        left
        have settled := plan_settle planned
        simp [perform_loaded present, planned, settled]
      | commit candidate =>
        right
        obtain ⟨named, _, stored⟩ := state.valid _ _ present
        obtain ⟨durable, reached⟩ := perform_committed present planned
        refine ⟨current, candidate, durable, rfl, Change.of_plan stored planned, ?_, reached⟩
        rw [(plan_kept stored planned).job, named]

end
end RunStore
end
end KSlide
