import KSlide.Execution.Calls

/-
This file shows when the store calls prepare a replacement that the constructors accept.
-/

namespace KSlide

/-- A clock reading passes the time checks. -/
theorem Timestamp.moment (now : Timestamp) : ∀ text ∈ some now.text, isMoment text = true := by
  intro text present
  obtain rfl := Option.some.inj present
  simp [isMoment, now.valid]

section
variable [Sha256]

/-- Valid values pass through the constructor of a job. -/
theorem ExecutionJob.replace_valid {fields : ExecutionJob.Fields Int} (valid : fields.Valid) :
    ExecutionJob.replace fields = .ok ⟨fields, valid⟩ :=
  (ExecutionJob.replace_ok valid.bound).mpr rfl

namespace RunStore
variable {current : ExecutionJob Int} {first second : Timestamp}

theorem later_nonnegative (current : ExecutionJob Int) :
    0 ≤ PythonInt.toInt (current.revision + 1) := by
  have nonnegative := current.valid.nonnegative
  simp only [toInt_int] at nonnegative ⊢
  omega

theorem acknowledge_planned {jobId : String} (requested : current.cancellation.requested = true)
    (pending : current.cancellation.acknowledged = false) : ∃ candidate,
    (StoreCall.acknowledgeCancellation jobId current.revision true).plan current first second =
      .ok (.commit candidate) := by
  have state : CancellationState.Fields.Valid { current.cancellation.toFields with
      acknowledged := true, acknowledgedAt := some first.text } :=
    { current.cancellation.valid with
      ordered := fun _ => requested
      acknowledgeTime := first.moment }
  have valid : ExecutionJob.Fields.Valid { current.toFields with
      cancellation := ⟨_, state⟩, lifecycle := .canceled, resumeEligibility := .notEligible,
      terminalOutcome := .canceled, revision := current.revision + 1,
      updatedAt := some second.text } :=
    { current.valid with
      nonnegative := later_nonnegative current
      updated := second.moment
      settled := ⟨rfl, rfl⟩ }
  refine ⟨⟨_, valid⟩, ?_⟩
  rw [StoreCall.plan, planAcknowledgeCancellation, if_neg (by simp [pending]),
    if_neg (by simp [requested]), if_neg (by simp), if_neg (by simp)]
  exact bind_ok.mpr ⟨⟨_, state⟩, CancellationState.replace_ok.mpr rfl,
    bind_ok.mpr ⟨_, ExecutionJob.replace_valid valid, rfl⟩⟩

theorem transition_planned {jobId : String} {lifecycle : OperationalLifecycle}
    {outcome : TerminalOutcome} {eligibility : Option ResumeEligibility}
    (edge : lifecycle ∈ operationalTransitions current.lifecycle)
    (changed : ¬(current.lifecycle = lifecycle ∧ current.terminalOutcome = outcome))
    (settled : match lifecycle with
      | .completed => outcome = .done ∨ outcome = .needsReview
      | .canceled => current.cancellation.acknowledged = true ∧ outcome = .canceled
      | .processingFailed => True
      | .queued | .running | .retrying => outcome = .none) : ∃ candidate,
    (StoreCall.transitionOperational jobId current.revision lifecycle outcome eligibility).plan
      current first second = .ok (.commit candidate) := by
  have valid : ExecutionJob.Fields.Valid { current.toFields with
      lifecycle
      terminalOutcome := if lifecycle = .processingFailed then .processingFailed else outcome
      resumeEligibility :=
        (if lifecycle = .processingFailed then some .notEligible else eligibility).getD
          current.resumeEligibility
      revision := current.revision + 1, updatedAt := some first.text } :=
    { current.valid with
      nonnegative := later_nonnegative current
      updated := first.moment
      settled := by
        cases lifecycle <;> simp_all [ExecutionJob.Fields.Settled] }
  refine ⟨⟨_, valid⟩, ?_⟩
  have finished : ¬(lifecycle = .completed ∧ outcome ∉ [TerminalOutcome.done, .needsReview]) := by
    rintro ⟨rfl, other⟩
    rcases settled with rfl | rfl <;> simp at other
  simp only [StoreCall.plan, planTransitionOperational, changed, edge, finished, ne_eq,
    not_true_eq_false, ↓reduceIte]
  exact bind_ok.mpr ⟨_, ExecutionJob.replace_valid valid, rfl⟩

theorem recordRetry_planned {jobId code : String}
    (unfinished : current.lifecycle.terminal = false)
    (repairable : classifyOperationalFailure code ≠ .semanticRepair)
    (accepted : isErrorCode code = true) : ∃ candidate,
    (StoreCall.recordRetry jobId current.revision code).plan current first second =
      .ok (.commit candidate) := by
  have outcome := ExecutionJob.outcome_of_lifecycle unfinished
  have retries : (nextRetry current.retry code).Valid := by
    have nonnegative := current.retry.valid.nonnegative
    simp only [toInt_int] at nonnegative
    unfold nextRetry
    split_ifs with retryable remaining
    · exact { current.retry.valid with
        nonnegative := by simp only [toInt_int]; omega
        within := by simp only [toInt_int]; omega
        code := by simpa using accepted
        spent := Or.inl RetryDisposition.noConfusion }
    · exact { current.retry.valid with
        nonnegative := le_trans (by decide) current.retry.valid.positive
        within := le_refl _
        code := by simpa using accepted
        spent := Or.inr (le_refl _) }
    · exact { current.retry.valid with
        code := by simpa using accepted
        spent := Or.inl RetryDisposition.noConfusion }
  have retried : ExecutionJob.Fields.Valid { current.toFields with
      retry := ⟨_, retries⟩, lifecycle := .retrying, revision := current.revision + 1,
      updatedAt := some first.text } :=
    { current.valid with
      nonnegative := later_nonnegative current, updated := first.moment, settled := outcome }
  have failed : ExecutionJob.Fields.Valid (failedFields current ⟨_, retries⟩ first) :=
    { current.valid with
      nonnegative := later_nonnegative current, updated := first.moment, settled := rfl }
  have running : ¬(current.lifecycle = .processingFailed ∧
      current.retry.disposition = .exhausted) := by
    rintro ⟨ended, _⟩
    simp [ended, OperationalLifecycle.terminal] at unfinished
  have unended : current.lifecycle ∉ [OperationalLifecycle.canceled, .completed] := by
    intro ended
    simp only [List.mem_cons, List.not_mem_nil, or_false] at ended
    rcases ended with ended | ended <;>
      simp [ended, OperationalLifecycle.terminal] at unfinished
  simp only [StoreCall.plan, planRecordRetry]
  rw [if_neg running, if_neg unended, if_neg repairable, if_neg (by simp)]
  by_cases attempts : classifyOperationalFailure code = .retryable ∧
      current.retry.attempt + 1 < current.retry.maxAttempts
  · refine ⟨⟨_, retried⟩, bind_ok.mpr ⟨code, errorCode_ok.mpr ⟨rfl, accepted⟩, ?_⟩⟩
    rw [if_pos attempts]
    exact bind_ok.mpr ⟨⟨_, retries⟩,
      RetryState.replace_ok.mpr (by simp [nextRetry, attempts.1, attempts.2]),
      bind_ok.mpr ⟨_, ExecutionJob.replace_valid retried, rfl⟩⟩
  · refine ⟨⟨_, failed⟩, bind_ok.mpr ⟨code, errorCode_ok.mpr ⟨rfl, accepted⟩, ?_⟩⟩
    rw [if_neg attempts]
    split_ifs with retryable
    all_goals
      refine bind_ok.mpr ⟨⟨_, retries⟩, RetryState.replace_ok.mpr ?_,
        bind_ok.mpr ⟨_, ExecutionJob.replace_valid failed, rfl⟩⟩
    · have spent : ¬current.retry.attempt + 1 < current.retry.maxAttempts :=
        fun remaining => attempts ⟨retryable, remaining⟩
      simp [nextRetry, retryable, spent]
    · simp [nextRetry, retryable]

end RunStore
end
end KSlide
