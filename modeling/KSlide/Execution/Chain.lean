import KSlide.Execution.Calls

/-
This file shows that interleaved store calls lose no update of a job.
-/

namespace KSlide
open Interleaving Interleaving.Pool Relation

section
variable [Sha256]

namespace RunStore

/-- Calls interfere only by later records, and a call writes only its own change. -/
def calls : Discipline StoreLabel RunStoreState where
  invariant _ := True
  rely := Extends
  guarantee
    | .commit call => Performs call
    | _ => fun before after => after.jobs = before.jobs
  allowed _ _ := True
  idle label state := by
    cases label with
    | commit call => exact Or.inl rfl
    | _ => rfl

theorem calls_shared (label : StoreLabel) (before after : RunStoreState)
    (change : calls.guarantee label before after) : calls.rely before after := by
  cases label with
  | commit call => exact Performs.extends change
  | _ =>
    intro jobId job present
    exact ⟨job, by rw [show after.jobs = before.jobs from change, present], Or.inl rfl⟩

/-- The record that a call replaces is the record that the call loaded. -/
theorem commitJob_keeps {call : StoreCall} {loaded candidate : ExecutionJob Int}
    {state : RunStoreState} (present : state.jobs call.jobId = some loaded)
    (change : Change loaded candidate.stored call) :
    Keeps calls (commitJob call candidate loaded.revision) state := by
  have named : candidate.jobId = call.jobId := by
    rw [← (state.valid _ _ present).1]
    exact change.kept.job
  apply Program.meets_transact
  intro current reached _ _
  refine ⟨trivial, ?_⟩
  rcases compareAndSet_cases candidate loaded.revision current with
    ⟨result, unchanged, _⟩ | ⟨found, durable, stored, fresh, _, written⟩
  · rw [unchanged]
    refine ⟨Or.inl rfl, ?_⟩
    cases result <;> trivial
  · rw [written]
    rw [named] at stored
    obtain rfl := (Extends.of_chain reached).unique present stored fresh
    refine ⟨Or.inr ⟨found, candidate, stored, change, ?_⟩, trivial⟩
    rw [RunStoreState.write_jobs, named]

theorem perform_keeps (call : StoreCall) (state : RunStoreState) :
    Keeps calls (perform call) state := by
  unfold perform
  refine Program.meets_bind (show Program.Meets calls
    (fun read after => after.jobs call.jobId = some read.1) _ _ state from ?_) ?_
  · apply Program.meets_transact
    intro current _ _ _
    refine ⟨trivial, rfl, ?_⟩
    cases loaded : current.load call.jobId with
    | error error => trivial
    | ok job => exact RunStoreState.load_ok.mp loaded
  · rintro ⟨loaded, first, second⟩ after present
    dsimp only at present ⊢
    obtain ⟨_, _, stored⟩ := after.valid _ _ present
    cases planned : call.plan loaded first second with
    | error error => trivial
    | ok plan =>
      cases plan with
      | settle status => trivial
      | commit candidate => exact commitJob_keeps present (Change.of_plan stored planned)

theorem perform_journal {call : StoreCall} {journal : List (Entry StoreLabel RunStoreState)}
    {result : StoreWriteResult} (follows : Follows (perform call) journal (.done result)) :
    (result.status ≠ .accepted → ∀ entry ∈ journal, entry.after.jobs = entry.before.jobs) ∧
    (result.status = .accepted → ∃ entry ∈ journal, entry.label = .commit call ∧
      entry.after.jobs ≠ entry.before.jobs) := by
  obtain ⟨before, ⟨loaded, first, second⟩, tail, rfl, found, follows⟩ :=
    follows_transact_bind follows
  dsimp only at follows
  cases planned : call.plan loaded first second with
  | error error =>
    rw [planned] at follows
    exact (follows_fail follows).elim
  | ok plan =>
    rw [planned] at follows
    cases plan with
    | settle status =>
      obtain ⟨rfl, rfl⟩ := follows_done follows
      have settled := plan_settle planned
      simp [settled]
    | commit candidate =>
      obtain ⟨current, rfl, outcome⟩ := follows_transact follows
      rcases compareAndSet_cases candidate loaded.revision current with
        ⟨result, unchanged, settled⟩ | ⟨replaced, durable, present, _, next, written⟩
      · rw [unchanged] at outcome
        simp [unchanged, (settled _ outcome).1]
      · rw [written] at outcome
        obtain rfl := Except.ok.inj outcome
        refine ⟨by simp, fun _ => ⟨_, List.mem_cons_of_mem _ List.mem_cons_self, rfl, ?_⟩⟩
        intro same
        have stored := congrFun same candidate.jobId
        rw [written, RunStoreState.write_jobs, Function.update_self, present] at stored
        have revisions := congrArg (fun job : ExecutionJob Int => job.revision)
          (Option.some.inj stored)
        simp only [ExecutionJob.stored_revision, next] at revisions
        omega

end RunStore

/-- Two successive records of one job. -/
structure ExecutionJob.Next (before after : ExecutionJob Int) : Prop where
  revision : after.revision = before.revision + 1
  markers : after.resultMarkers = before.resultMarkers ∨ ∃ marker : ResultCommitMarker Int,
    after.resultMarkers = before.resultMarkers ++ [marker] ∧
      marker.operationId ∉ before.operationIds
  checkpoint : after.checkpoint.revision = before.checkpoint.revision ∨
    after.checkpoint.revision = before.checkpoint.revision + 1
  cancellation : before.cancellation.requested = true →
    after.cancellation.requested = true ∧
      after.cancellation.requestRef = before.cancellation.requestRef ∧
      after.cancellation.requestedAt = before.cancellation.requestedAt

variable {before after : ExecutionJob Int} {call : StoreCall}

theorem Change.next (change : Change before after call) : before.Next after := by
  have revision := change.kept.revision
  cases call with
  | commitCheckpoint =>
    obtain ⟨now, -, next, -, fields⟩ := change
    exact ⟨revision, by simp [fields], Or.inr (by rw [fields]; exact next), by simp [fields]⟩
  | commitStep checkpoint marker =>
    obtain ⟨now, -, next, -, fresh, fields⟩ := change
    exact ⟨revision, Or.inr ⟨marker, by rw [fields], fresh⟩,
      Or.inr (by rw [fields]; exact next), by simp [fields]⟩
  | requestCancellation =>
    obtain ⟨requested, now, cancellation, first, -, -, fields⟩ := change
    exact ⟨revision, by simp [fields], by simp [fields], by simp [first]⟩
  | acknowledgeCancellation =>
    obtain ⟨acknowledged, now, cancellation, -, -, pending, -, kept, fields⟩ := change
    exact ⟨revision, by simp [fields], by simp [fields], by simp [fields, kept]⟩
  | transitionOperational =>
    obtain ⟨now, -, -, fields⟩ := change
    exact ⟨revision, by simp [fields], by simp [fields], by simp [fields]⟩
  | recordRetry =>
    obtain ⟨now, retry, -, -, -, -, fields⟩ := change
    split_ifs at fields <;>
      exact ⟨revision, by simp [fields, RunStore.failedFields],
        by simp [fields, RunStore.failedFields], by simp [fields, RunStore.failedFields]⟩
  | commitResult jobId marker =>
    obtain ⟨now, -, fresh, fields⟩ := change
    exact ⟨revision, Or.inr ⟨marker, by rw [fields], fresh⟩, by simp [fields], by simp [fields]⟩

/-- These calls write a new checkpoint. -/
def StoreCall.checkpoints : StoreCall → Bool
  | .commitCheckpoint _ _ | .commitStep _ _ _ => true
  | _ => false

theorem Change.checkpoint_revision (change : Change before after call) : after.checkpoint.revision =
      if call.checkpoints then before.checkpoint.revision + 1 else before.checkpoint.revision := by
  cases call with
  | commitCheckpoint =>
    obtain ⟨now, -, next, -, fields⟩ := change
    rw [fields]
    exact next
  | commitStep =>
    obtain ⟨now, -, next, -, -, fields⟩ := change
    rw [fields]
    exact next
  | recordRetry =>
    obtain ⟨now, retry, -, -, -, -, fields⟩ := change
    split_ifs at fields <;> simp [fields, RunStore.failedFields, StoreCall.checkpoints]
  | requestCancellation =>
    obtain ⟨_, _, _, -, -, -, fields⟩ := change
    simp [fields, StoreCall.checkpoints]
  | acknowledgeCancellation =>
    obtain ⟨_, _, _, -, -, -, -, -, fields⟩ := change
    simp [fields, StoreCall.checkpoints]
  | transitionOperational =>
    obtain ⟨now, -, -, fields⟩ := change
    simp [fields, StoreCall.checkpoints]
  | commitResult =>
    obtain ⟨now, -, -, fields⟩ := change
    simp [fields, StoreCall.checkpoints]

/-- The record of each job stays or becomes the next record of its chain. -/
def Advances (before after : RunStoreState) : Prop :=
  ∀ jobId, after.jobs jobId = before.jobs jobId ∨ ∃ current next : ExecutionJob Int,
    before.jobs jobId = some current ∧ after.jobs jobId = some next ∧ current.Next next

theorem Performs.advances {before after : RunStoreState}
    (performs : Performs call before after) : Advances before after := by
  intro jobId
  rcases performs with same | ⟨current, candidate, present, change, written⟩
  · exact Or.inl (by rw [same])
  · by_cases named : jobId = call.jobId
    · subst named
      exact Or.inr ⟨current, candidate.stored, present, by rw [written, Function.update_self],
        change.next⟩
    · exact Or.inl (by rw [written, Function.update_of_ne named])

/-- A configuration of a store and its callers that has lost no update. -/
structure LosesNoUpdate
    (config : List (Thread StoreCall StoreLabel RunStoreState Raised StoreWriteResult) ×
      RunStoreState) : Prop where
  advances : ∀ next, Step RunStore.perform (fun _ _ => True) config next →
    Advances config.2 next.2
  refused : ∀ thread ∈ config.1, ∀ result, thread.rest = .done result →
    result.status ≠ .accepted → ∀ entry ∈ thread.journal, entry.after.jobs = entry.before.jobs
  accepted : ∀ thread ∈ config.1, ∀ result, thread.rest = .done result →
    result.status = .accepted → ∃ entry ∈ thread.journal, ∃ current next : ExecutionJob Int,
      entry.before.jobs thread.tag.jobId = some current ∧
      entry.after.jobs thread.tag.jobId = some next ∧ current.Next next ∧
      next.checkpoint.revision = if thread.tag.checkpoints then current.checkpoint.revision + 1
        else current.checkpoint.revision

end

section
attribute [local instance] Sha256.polynomial

end

end KSlide
