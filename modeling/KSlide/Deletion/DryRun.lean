import KSlide.Deletion.Decision

/-
This file says when a dry run changes nothing and predicts the run that follows it.
-/

namespace KSlide
open Interleaving Program

def DeletionCall.dry (call : DeletionCall) : DeletionCall := { call with dryRun := true }

def DeletionCall.real (call : DeletionCall) : DeletionCall := { call with dryRun := false }

namespace DeletionBackend
variable {State : Type}

/-- The reads of a deletion, its lock and its request to cancel. -/
def Idle (action : DeletionAction) : Prop := Silent action ∨ action = .cancellation

section
variable (backend : DeletionBackend State) (call : DeletionCall) (dir : State)

/-- The run that follows a dry run fails like it, is blocked with its code, deletes its targets or
has its result. -/
def StartsFrom : Except Raised DeletionResult → Prop
  | .error error => ((backend.run call.real).run dir).1 = .error error
  | .ok result =>
    match result.state with
    | .blocked => ∃ audit : DeletionAudit, audit.state = .blocked ∧
        audit.errorCode = result.errorCode ∧
        Reads Idle (backend.run call.real) dir (do
          backend.saveAudit audit
          return audited call.real result.request audit)
    | .planned => ∃ hold state candidates current,
        result.targets = candidates.map Candidate.planned ∧
        Reads Idle (backend.run call.real) dir
          (backend.execute call.real result.request hold state candidates current)
    | _ => (backend.run call.real).run dir = (.ok { result with dryRun := false }, dir)

/-- A pure dry run changes nothing at any time and predicts the run that follows it. -/
structure DryRunPure : Prop where
  unchanged : ∀ left, (backend.run call.dry).Crashes dir left → left = dir
  predicted : backend.StartsFrom call dir ((backend.run call.dry).run dir).1

/-- A dry run cancels the run that it was asked about. -/
def DryRunCancels : Prop := ∃ request hold state current, backend.request call = .ok request ∧
  Cleared backend call dir request hold state current ∧ state.active = true ∧
    call.reason = .explicit ∧ (backend.requestCancellation call.updatedAt dir).2 ≠ dir

end

section
variable {backend : DeletionBackend State} {call : DeletionCall} {dir : State}
variable {request : DeletionRequest}

theorem reads_idle {program rest : Deletion State DeletionResult}
    (reads : Reads Silent program dir rest) : Reads Idle program dir rest := by
  induction reads with
  | here program state => exact .here _ _
  | action silent unchanged later ih => exact .action (Or.inl silent) unchanged ih

theorem reads_perform {decision : DeletionDecision} (requested : backend.request call = .ok request)
    (decided : backend.decision call dir request = .ok decision) :
    Reads Idle (backend.run call.dry) dir (backend.perform call.dry request decision) ∧
      Reads Idle (backend.run call.real) dir (backend.perform call.real request decision) := by
  have dry : backend.remaining call.dry dir = backend.perform call.dry request decision := by
    have requested : backend.request call.dry = .ok request := requested
    have decided : backend.decision call.dry dir request = .ok decision := decided
    rw [remaining, requested]
    dsimp only
    rw [decided, follow]
  have real : backend.remaining call.real dir = backend.perform call.real request decision := by
    have requested : backend.request call.real = .ok request := requested
    have decided : backend.decision call.real dir request = .ok decision := decided
    rw [remaining, requested]
    dsimp only
    rw [decided, follow]
  exact ⟨reads_idle (dry ▸ reads_remaining), reads_idle (real ▸ reads_remaining)⟩

/-- A dry run that ends without a write is pure when it predicts the next run. -/
theorem dryRunPure_of_done {result : DeletionResult}
    (dry : Reads Idle (backend.run call.dry) dir (pure result))
    (predicted : backend.StartsFrom call dir (.ok result)) : DryRunPure backend call dir := by
  refine ⟨fun left crashed => (reads_crashes dry).mp crashed, ?_⟩
  rw [reads_run dry]
  exact predicted

theorem dryRunPure_of_error {error : Raised}
    (dry : Reads Idle (backend.run call.dry) dir (throw error))
    (real : Reads Idle (backend.run call.real) dir (throw error)) :
    DryRunPure backend call dir := by
  refine ⟨fun left crashed => (reads_crashes dry).mp crashed, ?_⟩
  rw [reads_run dry]
  change ((backend.run call.real).run dir).1 = .error error
  rw [reads_run real]
  rfl

theorem dryRunPure_of_failed (error : Raised)
    (failed : ∀ dryRun, backend.remaining { call with dryRun } dir = throw error) :
    DryRunPure backend call dir := by
  have reads (dryRun : Bool) : Reads Idle (backend.run { call with dryRun }) dir (throw error) := by
    rw [← failed dryRun]
    exact reads_idle reads_remaining
  exact dryRunPure_of_error (reads true) (reads false)

theorem heldAudit_blocked (hold : Option LegalHoldDecision) (errorCode : DeletionResultCode)
    (current : Option DeletionAudit) :
    (heldAudit call request hold errorCode current).state = .blocked ∧
      (heldAudit call request hold errorCode current).errorCode = errorCode := by
  cases hold <;> exact ⟨rfl, rfl⟩

theorem lifecycleAudit_blocked (hold : LegalHoldDecision) (state : BackendState)
    (errorCode : DeletionResultCode) (current : Option DeletionAudit) :
    (lifecycleAudit call request hold state errorCode current).state = .blocked ∧
      (lifecycleAudit call request hold state errorCode current).errorCode = errorCode := by
  cases current <;> exact ⟨rfl, rfl⟩

theorem dryRunPure_of_decision {decision : DeletionDecision}
    (requested : backend.request call = .ok request)
    (decided : backend.decision call dir request = .ok decision)
    (kept : ∀ hold state current, decision ≠ .running hold state .cancellationRequested current) :
    DryRunPure backend call dir := by
  obtain ⟨dry, real⟩ := reads_perform requested decided
  cases decision with
  | replayed audit =>
    have complete := decision_replayed decided
    apply dryRunPure_of_done dry
    have ended : (backend.run call.real).run dir =
        (.ok (audited call.real request audit), dir) := reads_run real
    simpa [StartsFrom, audited, complete, DeletionCall.dry, DeletionCall.real] using ended
  | mismatched audit =>
    apply dryRunPure_of_done dry
    exact ⟨audit.blocked .targetIdentityMismatch call.updatedAt.text, rfl, rfl, real⟩
  | held hold errorCode existing =>
    apply dryRunPure_of_done dry
    obtain ⟨blocked, coded⟩ := @heldAudit_blocked call request hold errorCode existing
    exact ⟨heldAudit call request hold errorCode existing, blocked, coded, real⟩
  | running hold state errorCode current =>
    have uncancelled : errorCode ≠ .cancellationRequested := by
      rintro rfl
      exact kept hold state current rfl
    dsimp only [perform] at dry real
    rw [if_neg uncancelled] at dry real
    apply dryRunPure_of_done dry
    obtain ⟨blocked, coded⟩ := @lifecycleAudit_blocked call request hold state errorCode current
    exact ⟨lifecycleAudit call request hold state errorCode current, blocked, coded, real⟩
  | released hold state candidates current =>
    apply dryRunPure_of_done dry
    exact ⟨hold, state, candidates, current, rfl, real⟩

theorem dryRunPure_cancellation {hold : LegalHoldDecision} {state : BackendState}
    {current : Option DeletionAudit} (requested : backend.request call = .ok request)
    (decided : backend.decision call dir request =
      .ok (.running hold state .cancellationRequested current)) :
    DryRunPure backend call dir ↔ (backend.requestCancellation call.updatedAt dir).2 = dir := by
  obtain ⟨dry, real⟩ := reads_perform requested decided
  constructor
  · intro pure
    apply pure.unchanged
    rw [reads_crashes dry]
    apply (crashes_bind _ _ _ _).mpr
    apply Or.inl
    simp [DeletionCall.dry]
  · intro unchanged
    have idle : Idle .cancellation := Or.inr rfl
    have dry := reads_trans dry (reads_bind (reads_transact idle unchanged) _)
    have real := reads_trans real (reads_bind (reads_transact idle unchanged) _)
    cases answered : (backend.requestCancellation call.updatedAt dir).1 with
    | error error =>
      rw [answered] at dry real
      exact dryRunPure_of_error dry real
    | ok _ =>
      rw [answered] at dry real
      obtain ⟨blocked, coded⟩ :=
        @lifecycleAudit_blocked call request hold state .cancellationRequested current
      apply dryRunPure_of_done dry
      exact ⟨lifecycleAudit call request hold state .cancellationRequested current, blocked, coded,
        real⟩

theorem dryRunPure_iff : DryRunPure backend call dir ↔ ¬DryRunCancels backend call dir := by
  constructor
  · rintro pure ⟨request, hold, state, current, requested, cleared, active, explicit, changed⟩
    have decided := decision_cancellation.mpr ⟨cleared, active, explicit⟩
    exact changed ((dryRunPure_cancellation requested decided).mp pure)
  · intro kept
    cases requested : backend.request call with
    | error error =>
      apply dryRunPure_of_failed error
      intro dryRun
      have requested : backend.request { call with dryRun } = .error error := requested
      rw [remaining, requested]
    | ok request =>
      cases decided : backend.decision call dir request with
      | error error =>
        apply dryRunPure_of_failed error
        intro dryRun
        have requested : backend.request { call with dryRun } = .ok request := requested
        have decided : backend.decision { call with dryRun } dir request = .error error := decided
        rw [remaining, requested]
        dsimp only
        rw [decided, follow]
      | ok decision =>
        by_cases cancelled : ∃ hold state current,
            decision = .running hold state .cancellationRequested current
        · obtain ⟨hold, state, current, rfl⟩ := cancelled
          obtain ⟨cleared, active, explicit⟩ := decision_cancellation.mp decided
          apply (dryRunPure_cancellation requested decided).mpr
          by_contra changed
          exact kept ⟨request, hold, state, current, requested, cleared, active, explicit, changed⟩
        · push Not at cancelled
          exact dryRunPure_of_decision requested decided cancelled

end
end DeletionBackend
end KSlide
