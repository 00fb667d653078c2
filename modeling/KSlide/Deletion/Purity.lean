import KSlide.Deletion.DryRun
import KSlide.Deletion.Scoped
import KSlide.Deletion.Workspace
import KSlide.Execution.Acceptance
import KSlide.Execution.NewJob

/-
This file says for which runs a dry deletion is pure.
-/

namespace KSlide
open Interleaving Program

section
variable [Sha256]
open DeletionBackend

/-- A job can be asked to cancel when it is neither asked nor finished. -/
structure Cancellable (job : ExecutionJob Int) : Prop where
  unasked : job.cancellation.requested = false
  unfinished : job.lifecycle.terminal = false
  named : isIdentifier s!"cancel-{job.jobId}" = true

/-- A dry deletion asks for the cancellation of the job of an active run. -/
def DeletionBackend.CancelsJob {State : Type} (backend : DeletionBackend State)
    (call : DeletionCall) (dir : State) (present : ExecutionJob Int → Prop) : Prop :=
  ∃ request hold state current job, backend.request call = .ok request ∧
    Cleared backend call dir request hold state current ∧ state.active = true ∧
      call.reason = .explicit ∧ present job ∧ Cancellable job

section
variable {job : ExecutionJob Int} {now : Timestamp}

/-- A written request changes the revision of the job and not its name. -/
theorem cancellationRequest_some {candidate : ExecutionJob Int}
    (asked : cancellationRequest job now = .ok (some candidate)) :
    Cancellable job ∧ candidate.jobId = job.jobId ∧ candidate.profile = job.profile ∧
      candidate.revision = job.revision + 1 := by
  unfold cancellationRequest at asked
  by_cases settled : (job.cancellation.requested || job.lifecycle.terminal) = true
  · rw [if_pos settled] at asked
    cases asked
  · rw [if_neg settled] at asked
    simp only [bind_ok, CancellationState.replace_ok, pure_ok, Option.some.injEq] at asked
    obtain ⟨cancellation, fields, _, replaced, rfl⟩ := asked
    have same := RunStore.replace_kept job replaced rfl rfl
    have named := cancellation.valid.ref s!"cancel-{job.jobId}" (by rw [fields]; rfl)
    have open_ : job.cancellation.requested = false ∧ job.lifecycle.terminal = false := by
      simpa using settled
    refine ⟨⟨open_.1, open_.2, named⟩, ?_, ?_, ?_⟩ <;> rw [same]

/-- A job that can be asked gets its request. -/
theorem cancellationRequest_exists (cancellable : Cancellable job) (now : Timestamp) :
    ∃ candidate, cancellationRequest job now = .ok (some candidate) := by
  have state : CancellationState.Fields.Valid
      ⟨true, false, some s!"cancel-{job.jobId}", some now.text, none⟩ := by
    refine ⟨by simp, by simp, ?_, now.moment, by simp⟩
    rintro text ⟨⟩
    exact cancellable.named
  have valid : ExecutionJob.Fields.Valid { job.toFields with
      cancellation := ⟨_, state⟩, revision := job.revision + 1, updatedAt := some now.text } :=
    { job.valid with
      nonnegative := RunStore.later_nonnegative job
      updated := now.moment
      settled := by
        have settled := job.valid.settled
        have unfinished := cancellable.unfinished
        unfold ExecutionJob.Fields.Settled at settled ⊢
        dsimp only
        cases lifecycle : job.lifecycle <;>
          simp_all [OperationalLifecycle.terminal] }
  refine ⟨⟨_, valid⟩, ?_⟩
  rw [cancellationRequest, if_neg (by simp [cancellable.unasked, cancellable.unfinished])]
  exact bind_ok.mpr ⟨⟨_, state⟩, CancellationState.replace_ok.mpr rfl,
    bind_ok.mpr ⟨_, ExecutionJob.replace_valid valid, rfl⟩⟩

end

section
variable {call : DeletionCall}

namespace WorkspaceSite
variable {site : WorkspaceSite} {now : Timestamp}

/-- A request to cancel changes the run exactly when its job can be asked. -/
theorem requestCancellation_changes : (site.requestCancellation now).2 ≠ site ↔
    ∃ job, (site.hasJob = true ∧ site.job = .ok job) ∧ Cancellable job := by
  constructor
  · intro changed
    by_contra kept
    push Not at kept
    apply changed
    unfold requestCancellation
    by_cases present : site.hasJob = true
    · rw [if_pos present]
      cases read : site.job with
      | error error => rfl
      | ok job =>
        have bound : (Except.ok job : Except Raised _).bind (cancellationRequest · now) =
            cancellationRequest job now := rfl
        rw [bound]
        rcases asked : cancellationRequest job now with error | _ | candidate
        · rfl
        · rfl
        · exact (kept job ⟨present, read⟩ (cancellationRequest_some asked).1).elim
    · rw [if_neg present]
  · rintro ⟨job, ⟨present, read⟩, cancellable⟩ same
    obtain ⟨candidate, asked⟩ := cancellationRequest_exists cancellable now
    have revision := (cancellationRequest_some asked).2.2.2
    have written : site.requestCancellation now =
        (.ok (), { site with job := .ok candidate.stored }) := by
      unfold requestCancellation
      rw [if_pos present, read]
      have bound : (Except.ok job : Except Raised _).bind (cancellationRequest · now) =
          .ok (some candidate) := asked
      rw [bound]
    rw [written] at same
    have stored : (.ok candidate.stored : Except Raised (ExecutionJob Int)) = .ok job :=
      (congrArg WorkspaceSite.job same).trans read
    have later : candidate.revision = job.revision :=
      congrArg (·.revision) (Except.ok.inj stored)
    omega

end WorkspaceSite

namespace ScopeState
variable {scope : ScopeState} {identity : DurableJobIdentity} {now : Timestamp}

theorem jobIfPresent_some {job : ExecutionJob Int}
    (read : scope.jobIfPresent identity = .ok (some job)) :
    scope.store.jobs identity.jobId = some job := by
  unfold jobIfPresent at read
  by_cases present : scope.hasJob identity = true
  · rw [if_pos present] at read
    cases loaded : scope.store.load identity.jobId with
    | error error =>
      rw [loaded] at read
      cases read
    | ok found =>
      rw [loaded] at read
      cases read
      exact RunStoreState.load_ok.mp loaded
  · rw [if_neg present] at read
    cases read

theorem requestCancellation_changes : (scope.requestCancellation identity now).2 ≠ scope ↔
    ∃ job, scope.jobIfPresent identity = .ok (some job) ∧ Cancellable job := by
  constructor
  · intro changed
    by_contra kept
    push Not at kept
    apply changed
    unfold requestCancellation
    rcases read : scope.jobIfPresent identity with error | _ | job
    · rfl
    · rfl
    · dsimp only
      rcases asked : cancellationRequest job now with error | _ | candidate
      · rfl
      · rfl
      · exact (kept job read (cancellationRequest_some asked).1).elim
  · rintro ⟨job, read, cancellable⟩ same
    obtain ⟨candidate, asked⟩ := cancellationRequest_exists cancellable now
    obtain ⟨-, name, profile, revision⟩ := cancellationRequest_some asked
    have found := jobIfPresent_some read
    obtain ⟨-, durable, -⟩ := scope.store.valid _ _ found
    have durable : candidate.profile = .durable := profile.trans durable
    have written : scope.requestCancellation identity now =
        (.ok (), { scope with store := scope.store.write candidate durable }) := by
      unfold requestCancellation
      rw [read]
      dsimp only
      rw [asked]
      exact dif_pos durable
    rw [written] at same
    have stored : Function.update scope.store.jobs candidate.jobId (some candidate.stored)
        candidate.jobId = scope.store.jobs candidate.jobId :=
      congrArg (fun left : ScopeState => left.store.jobs candidate.jobId) same
    have own : candidate.jobId = identity.jobId := name.trans (scope.store.valid _ _ found).1
    rw [Function.update_self, own, found] at stored
    have later : candidate.revision = job.revision :=
      congrArg (·.revision) (Option.some.inj stored)
    omega

end ScopeState
theorem dryRunCancels_iff {State : Type} {backend : DeletionBackend State} {dir : State}
    {present : ExecutionJob Int → Prop}
    (changes : (backend.requestCancellation call.updatedAt dir).2 ≠ dir ↔
      ∃ job, present job ∧ Cancellable job) :
    backend.DryRunCancels call dir ↔ backend.CancelsJob call dir present := by
  constructor
  · rintro ⟨request, hold, state, current, requested, cleared, active, explicit, changed⟩
    obtain ⟨job, found, cancellable⟩ := changes.mp changed
    exact ⟨request, hold, state, current, job, requested, cleared, active, explicit, found, cancellable⟩
  · rintro ⟨request, hold, state, current, job, requested, cleared, active, explicit, found,
      cancellable⟩
    exact ⟨request, hold, state, current, requested, cleared, active, explicit,
      changes.mpr ⟨job, found, cancellable⟩⟩

end

end

section
open DeletionBackend

end
end KSlide
