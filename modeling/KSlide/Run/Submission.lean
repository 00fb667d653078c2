import KSlide.Run.Operations

/-
This file proves when a submission changes all of its records or none of them.
-/

namespace KSlide
open Interleaving Program

namespace RunDir
variable [Engine]

/-- A submission that raises can leave only its charge behind. -/
structure Unchanged (before after : RunDir) : Prop where
  queue : after.queue = before.queue
  state : after.state = before.state
  patches : ∀ workUnitId, after.patches.lookup workUnitId = before.patches.lookup workUnitId
  canonical : ∀ workUnitId,
    after.contents.canonical.lookup workUnitId = before.contents.canonical.lookup workUnitId

/-- The unit, its canonical slide and the phase of the run agree. -/
structure Agrees (dir : RunDir) (unit : WorkUnit) : Prop where
  listed : unit ∈ dir.queue.workUnits
  canonical : ∃ canonical, dir.contents.canonical.lookup unit.workUnitId = some canonical ∧
    unit.canonicalIrSha256 = some (Engine.sha256File canonical)
  settled : (unit.status = .translated ∧ (dir.state.phase = .needsReview →
      ∃ other ∈ dir.queue.workUnits, other.workUnitId ≠ unit.workUnitId ∧
        other.status = .needsReview)) ∨
    (unit.status = .needsReview ∧ dir.state.phase = .needsReview)

/-- A submission keeps every record, or it answers for a unit that agrees with its records. -/
def AllOrNothing (dir : RunDir) (payload : String) : Prop :=
  match (submit payload).run dir with
  | (.error _, after) => Unchanged dir after
  | (.ok answer, after) => ∃ unit, unit.workUnitId = answer.workUnitId ∧ after.Agrees unit

def stored (dir : RunDir) (patch : Engine.Patch) (submission : Submission) : RunDir :=
  (dir.withPatch submission.unit.workUnitId patch).withCanonical submission.unit.workUnitId
    submission.canonical

/-- The checks before the first write. -/
def admitted (dir : RunDir) (payload : String) : Except Raised Engine.Patch := do
  dir.compatible
  checkBudget dir.budget payload
  Engine.parseTranslationPatch payload

/-- The submission is written and then fails. -/
def Interrupted (dir : RunDir) (payload : String) : Prop :=
  ∃ patch submission, dir.admitted payload = .ok patch ∧
    dir.checkSubmission patch = .ok submission ∧ dir.mutationGuard = .ok () ∧
    match Engine.render (dir.stored patch submission).contents dir.queue with
    | .error _ => ¬(dir.patches.lookup submission.unit.workUnitId = some patch ∧
        dir.contents.canonical.lookup submission.unit.workUnitId = some submission.canonical)
    | .ok _ => dir.state.phase = .needsReview ∧
        Engine.recoveryUnresolved submission.canonical = [] ∧
        ∀ other ∈ dir.queue.workUnits, other.workUnitId ≠ submission.unit.workUnitId →
          other.status ≠ .needsReview

/-- A refused admission changes only the charge. -/
theorem run_receive (dir : RunDir) (payload : String) :
    ∃ after, (receive payload).run dir = (dir.admitted payload, after) ∧
      (after = dir ∨ after = dir.charged payload) ∧
      (∀ patch, dir.admitted payload = .ok patch → after = dir.charged payload) := by
  simp only [receive, admitted, run_bind, run_look, run_lift, chargeModelOutputBudget, run_transact]
  cases dir.compatible with
  | error error => exact ⟨dir, rfl, Or.inl rfl, fun _ impossible => by cases impossible⟩
  | ok fits =>
    cases paid : checkBudget dir.budget payload with
    | error error =>
      refine ⟨dir.charged payload, ?_, Or.inr rfl, fun _ impossible => by cases impossible⟩
      simp only [paid]
      rfl
    | ok within =>
      refine ⟨dir.charged payload, ?_, Or.inr rfl, fun _ _ => rfl⟩
      simp only [paid]
      rfl

theorem checkSubmission_charged (dir : RunDir) (payload : String) (patch : Engine.Patch) :
    (dir.charged payload).checkSubmission patch = dir.checkSubmission patch := rfl

theorem checkSubmission_ok {dir : RunDir} {patch : Engine.Patch} {submission : Submission}
    (checked : dir.checkSubmission patch = .ok submission) :
    submission.unit ∈ dir.queue.workUnits ∧
      submission.unit.workUnitId = Engine.workUnitId patch ∧ dir.state.phase ∈ submissible := by
  simp only [checkSubmission, bind_ok, WorkQueue.get_ok, require_ok, pure_ok,
    decide_eq_true_eq] at checked
  obtain ⟨_, _, unit, ⟨listed, named⟩, _, phase, rest⟩ := checked
  obtain ⟨_, _, _, _, evidence, _, _, _, _, _, _, _, runtime, _, canonical, _, rfl⟩ := rest
  exact ⟨listed, named, phase⟩

section

/-- A fenced submission writes nothing. -/
theorem run_storeSubmission_fenced {dir current : RunDir} {patch : Engine.Patch}
    {submission : Submission} {error : Raised} (fenced : dir.mutationGuard = .error error) :
    (storeSubmission current patch submission).run dir = (.error error, dir) := by
  simp only [storeSubmission, run_bind, run_guarded, fenced]

/-- The reports and the transition decide how a stored submission ends. -/
theorem run_storeSubmission {dir current : RunDir} {patch : Engine.Patch}
    {submission : Submission} (unfenced : dir.mutationGuard = .ok ()) :
    (storeSubmission current patch submission).run dir =
      let stored := dir.stored patch submission
      let queue := current.acceptedQueue patch submission
      let unresolved := Engine.recoveryUnresolved submission.canonical
      match Engine.render stored.contents stored.queue with
      | .error error => (.error error, stored)
      | .ok reports =>
        let rendered := { stored.withReports reports with queue }
        match settleState current.state queue unresolved with
        | .error error => (.error error, rendered)
        | .ok state => (.ok ⟨unresolved.isEmpty, state.runId, submission.unit.workUnitId,
            Engine.patchRevision patch, unresolved⟩, { rendered with state := state.saved }) := by
  have later : (dir.stored patch submission).mutationGuard = .ok () := unfenced
  have written : ((dir.withPatch submission.unit.workUnitId patch).withCanonical
      submission.unit.workUnitId submission.canonical) = dir.stored patch submission := rfl
  have first : (dir.withPatch submission.unit.workUnitId patch).mutationGuard = .ok () := unfenced
  simp only [storeSubmission, run_bind, run_guarded, unfenced, first, written,
    run_renderRun later]
  cases Engine.render (dir.stored patch submission).contents (dir.stored patch submission).queue with
  | error error => rfl
  | ok reports =>
    have last : ((dir.stored patch submission).withReports reports).mutationGuard = .ok () :=
      unfenced
    simp only [saveQueue, saveState, run_bind, run_guarded, last, run_lift]
    cases settleState current.state (current.acceptedQueue patch submission)
      (Engine.recoveryUnresolved submission.canonical) with
    | error error => rfl
    | ok state => rfl

variable {dir : RunDir} {patch : Engine.Patch} {submission : Submission} {state : RunState}
  {queue : WorkQueue} {unresolved : List String}

omit [Engine] in
/-- Only a review that ended without a later phase is refused. -/
theorem settleState_refused
    (reviewed : state.phase = .needsReview) (settled : queue.awaitsReview = false) :
    ∃ error, settleState state queue unresolved = .error error := by
  simp only [settleState, reviewed, settled, ne_eq, not_true_eq_false, and_false, and_self,
    ↓reduceIte]
  exact ⟨_, RunState.transition_refused (by simp) (by simp [RunPhase.allowed])⟩

omit [Engine] in
theorem settleState_ok (submitted : state.phase ∈ submissible)
    (unsettled : ¬(state.phase = .needsReview ∧ queue.awaitsReview = false)) :
    ∃ after, settleState state queue unresolved = .ok after ∧ after.currentWorkUnit = none ∧
      after.phase = if unresolved = [] then state.phase else .needsReview := by
  simp only [settleState, if_neg unsettled]
  by_cases resolved : unresolved = []
  · simp [resolved]
  · by_cases reviewed : state.phase = .needsReview
    · simp [resolved, reviewed]
    · have allowed : RunPhase.needsReview ∈ state.phase.allowed := by
        simp only [submissible, List.mem_cons, List.not_mem_nil, or_false, reviewed] at submitted
        rcases submitted with phase | phase <;> rw [phase] <;> decide
      rw [if_pos ⟨resolved, reviewed⟩, if_neg resolved]
      exact ⟨_, RunState.transition_ok.mpr (Or.inr ⟨Ne.symm reviewed, allowed, rfl⟩), rfl, rfl⟩

omit [Engine] in
theorem settleState_incomplete {state after : RunState} {queue : WorkQueue}
    {unresolved : List String} (submitted : state.phase ∈ submissible)
    (settled : settleState state queue unresolved = .ok after) : after.phase ≠ .complete := by
  by_cases ended : state.phase = .needsReview ∧ queue.awaitsReview = false
  · obtain ⟨error, refused⟩ := settleState_refused ended.1 ended.2
    rw [refused] at settled
    cases settled
  · obtain ⟨found, moved, -, phase⟩ := settleState_ok submitted ended
    rw [moved] at settled
    cases settled
    rw [phase]
    split_ifs
    · intro same
      simp [submissible, same] at submitted
    · decide

/-- The accepted unit replaces its unit in the queue. -/
theorem mem_acceptedQueue (listed : submission.unit ∈ dir.queue.workUnits) :
    submission.unit.accept (Engine.patchRevision patch) (Engine.sha256File submission.canonical)
      (Engine.recoveryUnresolved submission.canonical) ∈
        (dir.acceptedQueue patch submission).workUnits :=
  WorkQueue.mem_update_changed listed _ _

theorem mem_acceptedQueue_other {other : WorkUnit} (listed : other ∈ dir.queue.workUnits)
    (different : other.workUnitId ≠ submission.unit.workUnitId) :
    other ∈ (dir.acceptedQueue patch submission).workUnits :=
  WorkQueue.mem_update_other listed different _ _

/-- A review remains when the accepted unit or another unit needs it. -/
theorem acceptedQueue_awaitsReview (listed : submission.unit ∈ dir.queue.workUnits) :
    (dir.acceptedQueue patch submission).awaitsReview = true ↔
      Engine.recoveryUnresolved submission.canonical ≠ [] ∨
      ∃ other ∈ dir.queue.workUnits, other.workUnitId ≠ submission.unit.workUnitId ∧
        other.status = .needsReview := by
  simp only [WorkQueue.awaitsReview, List.any_eq_true, beq_iff_eq]
  constructor
  · rintro ⟨unit, member, review⟩
    obtain ⟨before, found, rfl⟩ := WorkQueue.mem_update.mp member
    split_ifs at review with same
    · refine Or.inl fun resolved => ?_
      simp [WorkUnit.accept, resolved] at review
    · exact Or.inr ⟨before, found, same, review⟩
  · rintro (unresolved | ⟨other, found, different, review⟩)
    · exact ⟨_, mem_acceptedQueue listed, by simp [WorkUnit.accept, unresolved]⟩
    · exact ⟨other, mem_acceptedQueue_other found different, review⟩

end

section

variable {dir : RunDir} {payload : String} {patch : Engine.Patch} {submission : Submission}

theorem run_submit_checked (entered : dir.admitted payload = .ok patch)
    (checked : dir.checkSubmission patch = .ok submission) :
    (submit payload).run dir =
      (storeSubmission (dir.charged payload) patch submission).run (dir.charged payload) := by
  obtain ⟨after, ran, -, charged⟩ := dir.run_receive payload
  rw [entered] at ran
  cases charged patch entered
  rw [submit, run_bind_ok ran, run_bind_ok (run_look _), run_bind, run_lift,
    checkSubmission_charged, checked]

/-- The reports and the transition decide how a checked submission ends. -/
theorem run_submit_stored (entered : dir.admitted payload = .ok patch)
    (checked : dir.checkSubmission patch = .ok submission)
    (unfenced : dir.mutationGuard = .ok ()) :
    (submit payload).run dir =
      let stored := (dir.charged payload).stored patch submission
      let queue := dir.acceptedQueue patch submission
      let unresolved := Engine.recoveryUnresolved submission.canonical
      match Engine.render (dir.stored patch submission).contents dir.queue with
      | .error error => (.error error, stored)
      | .ok reports =>
        let rendered := { stored.withReports reports with queue }
        match settleState dir.state queue unresolved with
        | .error error => (.error error, rendered)
        | .ok state => (.ok ⟨unresolved.isEmpty, state.runId, submission.unit.workUnitId,
            Engine.patchRevision patch, unresolved⟩, { rendered with state := state.saved }) := by
  have fenceless : (dir.charged payload).mutationGuard = .ok () := unfenced
  rw [run_submit_checked entered checked]
  exact run_storeSubmission fenceless

/-- A refused submission changes only the charge. -/
theorem submit_refused (refused : ∀ patch submission, dir.admitted payload = .ok patch →
      dir.checkSubmission patch = .ok submission → ∃ error, dir.mutationGuard = .error error) :
    ∃ error after, (submit payload).run dir = (.error error, after) ∧ Unchanged dir after := by
  obtain ⟨after, ran, kept, charged⟩ := dir.run_receive payload
  have unchanged : Unchanged dir after := by
    rcases kept with rfl | rfl <;> exact ⟨rfl, rfl, fun _ => rfl, fun _ => rfl⟩
  cases entered : dir.admitted payload with
  | error error =>
    rw [entered] at ran
    exact ⟨error, after, by rw [submit, run_bind_error ran], unchanged⟩
  | ok patch =>
    cases checked : dir.checkSubmission patch with
    | error error =>
      rw [entered] at ran
      cases charged patch entered
      refine ⟨error, _, ?_, unchanged⟩
      rw [submit, run_bind_ok ran, run_bind_ok (run_look _), run_bind, run_lift,
        checkSubmission_charged, checked]
    | ok submission =>
      obtain ⟨error, fenced⟩ := refused patch submission entered checked
      refine ⟨error, dir.charged payload, ?_, ⟨rfl, rfl, fun _ => rfl, fun _ => rfl⟩⟩
      rw [run_submit_checked entered checked]
      exact run_storeSubmission_fenced fenced

/-- A failed rendering leaves the records when they were there before. -/
theorem unchanged_stored : Unchanged dir ((dir.charged payload).stored patch submission) ↔
      dir.patches.lookup submission.unit.workUnitId = some patch ∧
        dir.contents.canonical.lookup submission.unit.workUnitId = some submission.canonical := by
  constructor
  · intro unchanged
    have patches := unchanged.patches submission.unit.workUnitId
    have canonical := unchanged.canonical submission.unit.workUnitId
    simp only [stored, withPatch, withCanonical, charged, AList.lookup_insert] at patches canonical
    exact ⟨patches.symm, canonical.symm⟩
  · rintro ⟨patches, canonical⟩
    refine ⟨rfl, rfl, fun workUnitId => ?_, fun workUnitId => ?_⟩
    · by_cases same : workUnitId = submission.unit.workUnitId
      · rw [same, patches]
        exact AList.lookup_insert _
      · exact AList.lookup_insert_ne same
    · by_cases same : workUnitId = submission.unit.workUnitId
      · rw [same, canonical]
        exact AList.lookup_insert _
      · exact AList.lookup_insert_ne same

/-- An accepted unit has a new revision. -/
theorem acceptedQueue_ne (listed : submission.unit ∈ dir.queue.workUnits) :
    dir.acceptedQueue patch submission ≠ dir.queue := by
  intro same
  have accepted := @mem_acceptedQueue _ dir patch submission listed
  rw [same] at accepted
  have equal := List.inj_on_of_nodup_map dir.queue.distinct accepted listed rfl
  have revision : submission.unit.revision + 1 = submission.unit.revision :=
    congrArg WorkUnit.revision equal
  omega

theorem accepted_agrees {dir after : RunDir} {patch : Engine.Patch} {submission : Submission}
    (listed : submission.unit ∈ dir.queue.workUnits)
    (queue : after.queue = dir.acceptedQueue patch submission)
    (canonical : after.contents.canonical.lookup submission.unit.workUnitId =
      some submission.canonical)
    (unsettled : ¬(dir.state.phase = .needsReview ∧
      (dir.acceptedQueue patch submission).awaitsReview = false))
    (phase : after.state.phase =
      if Engine.recoveryUnresolved submission.canonical = [] then dir.state.phase
      else .needsReview) :
    after.Agrees (submission.unit.accept (Engine.patchRevision patch)
      (Engine.sha256File submission.canonical)
      (Engine.recoveryUnresolved submission.canonical)) := by
  refine ⟨queue ▸ mem_acceptedQueue listed, ⟨_, canonical, rfl⟩, ?_⟩
  by_cases resolved : Engine.recoveryUnresolved submission.canonical = []
  · refine Or.inl ⟨by simp [WorkUnit.accept, resolved], fun reviewed => ?_⟩
    rw [if_pos resolved] at phase
    have awaits : (dir.acceptedQueue patch submission).awaitsReview = true := by
      by_contra none
      exact unsettled ⟨phase ▸ reviewed, by simpa using none⟩
    rcases (acceptedQueue_awaitsReview listed).mp awaits with unresolved | ⟨other, found, rest⟩
    · exact absurd resolved unresolved
    · exact ⟨other, queue ▸ mem_acceptedQueue_other found rest.1, rest⟩
  · exact Or.inr ⟨by simp [WorkUnit.accept, resolved], by rw [phase, if_neg resolved]⟩

/-- A stored submission is interrupted by its reports or by the end of the last review. -/
theorem submit_stored (entered : dir.admitted payload = .ok patch)
    (checked : dir.checkSubmission patch = .ok submission)
    (unfenced : dir.mutationGuard = .ok ()) :
    dir.AllOrNothing payload ↔
      match Engine.render (dir.stored patch submission).contents dir.queue with
      | .error _ => dir.patches.lookup submission.unit.workUnitId = some patch ∧
          dir.contents.canonical.lookup submission.unit.workUnitId = some submission.canonical
      | .ok _ => ¬(dir.state.phase = .needsReview ∧
          (dir.acceptedQueue patch submission).awaitsReview = false) := by
  obtain ⟨listed, -, submitted⟩ := checkSubmission_ok checked
  have ran := run_submit_stored entered checked unfenced
  cases rendered : Engine.render (dir.stored patch submission).contents dir.queue with
  | error error =>
    rw [rendered] at ran
    rw [AllOrNothing, ran]
    exact unchanged_stored
  | ok reports =>
    rw [rendered] at ran
    by_cases settled : dir.state.phase = .needsReview ∧
        (dir.acceptedQueue patch submission).awaitsReview = false
    · obtain ⟨error, refused⟩ := @settleState_refused _ _
        (Engine.recoveryUnresolved submission.canonical) settled.1 settled.2
      simp only [refused] at ran
      rw [AllOrNothing, ran]
      refine iff_of_false (fun unchanged => ?_) (not_not.mpr settled)
      exact acceptedQueue_ne listed unchanged.queue
    · obtain ⟨state, moved, -, phase⟩ := @settleState_ok _ _
        (Engine.recoveryUnresolved submission.canonical) submitted settled
      simp only [moved] at ran
      rw [AllOrNothing, ran]
      refine iff_of_true ⟨submission.unit.accept (Engine.patchRevision patch)
        (Engine.sha256File submission.canonical) (Engine.recoveryUnresolved submission.canonical),
        rfl, accepted_agrees listed rfl ?_ settled ?_⟩ settled
      · exact AList.lookup_insert _
      · exact phase

theorem interrupted_iff (entered : dir.admitted payload = .ok patch)
    (checked : dir.checkSubmission patch = .ok submission)
    (unfenced : dir.mutationGuard = .ok ()) :
    dir.Interrupted payload ↔
      match Engine.render (dir.stored patch submission).contents dir.queue with
      | .error _ => ¬(dir.patches.lookup submission.unit.workUnitId = some patch ∧
          dir.contents.canonical.lookup submission.unit.workUnitId = some submission.canonical)
      | .ok _ => dir.state.phase = .needsReview ∧
          (dir.acceptedQueue patch submission).awaitsReview = false := by
  have awaits := @acceptedQueue_awaitsReview _ dir patch submission (checkSubmission_ok checked).1
  have settled : (dir.acceptedQueue patch submission).awaitsReview = false ↔
      Engine.recoveryUnresolved submission.canonical = [] ∧
        ∀ other ∈ dir.queue.workUnits, other.workUnitId ≠ submission.unit.workUnitId →
          other.status ≠ .needsReview := by
    rw [← Bool.not_eq_true, awaits]
    push Not
    exact Iff.rfl
  rw [settled]
  constructor
  · rintro ⟨other, found, entered', checked', -, rest⟩
    rw [entered] at entered'
    cases entered'
    rw [checked] at checked'
    cases checked'
    exact rest
  · exact fun rest => ⟨patch, submission, entered, checked, unfenced, rest⟩

end
end RunDir

section
attribute [local instance] Engine.recorded

end
end KSlide
