import KSlide.Run.Outcome
import KSlide.Run.Submission

/-
This file proves when the translation loop of a run cannot get stuck.
-/

namespace KSlide
open Interleaving Program List

namespace RunDir
open CompletionPolicy
variable [Engine]

/-- The conflicts of the run are assessed. -/
def Assessed (dir : RunDir) : Prop :=
  ∃ status, Engine.conflictAssessmentStatus dir.contents.manifest = .ok status ∧
    status ≠ .notAssessed

/-- The payload holds a valid patch of the unit for its current evidence. -/
structure ValidPayload (dir : RunDir) (unit : WorkUnit) (payload : String) (patch : Engine.Patch)
    (canonical : Engine.Canonical) : Prop where
  admitted : dir.admitted payload = .ok patch
  named : Engine.workUnitId patch = unit.workUnitId
  merged : ∃ evidence runtime, dir.contents.evidence unit.workUnitId = .ok evidence ∧
    unit.evidenceRevision.all (fun revision =>
      revision == "" || revision == Engine.evidenceRevision evidence) = true ∧
    Engine.validateAgainst patch evidence = .ok () ∧
    Engine.runtimeMetadata dir.contents.manifest = .ok runtime ∧
    Engine.mergeEvidencePatch evidence patch runtime (Engine.patchRevision patch) = .ok canonical
  repairs : unit.status ∈ [.repairing, .needsReview, .verifyFailed] → repairs unit patch = true
  rendered : ∃ reports, Engine.render (dir.stored patch ⟨unit, canonical⟩).contents dir.queue =
    .ok reports

/-- A failed verification leaves no unit that waits for its translation, and something to repair. -/
structure Repairable (dir : RunDir) (queue : WorkQueue) : Prop where
  offered : dir.queue.offers = false
  reserved : ∀ unit, dir.reserved ≠ .ok (some unit)
  remains : queue.next = .allTranslated → ¬dir.Assessed

/-- An extracted run has only units that are ready for their translation. -/
structure Extracted (dir : RunDir) : Prop where
  phase : dir.state.phase = .extracted
  current : dir.state.currentWorkUnit = none
  ready : ∀ unit ∈ dir.queue.workUnits, unit.status = .ready
  compatible : dir.compatible = .ok ()
  bound : dir.bound = .ok ()
  unfenced : dir.mutationGuard = .ok ()

def loopPhases : List RunPhase :=
  [.extracted, .translating, .failRepairable, .repairing, .needsReview, .verified, .complete]

/-- The phase of the run fits its units. -/
structure Steady (dir : RunDir) : Prop where
  compatible : dir.compatible = .ok ()
  bound : dir.bound = .ok ()
  unfenced : dir.mutationGuard = .ok ()
  phase : dir.state.phase ∈ loopPhases
  fresh : dir.state.phase = .extracted → dir.state.currentWorkUnit = none ∧
    ∀ unit ∈ dir.queue.workUnits, unit.status = .ready
  reviewed : dir.state.phase = .needsReview →
    dir.queue.awaitsReview = true ∨ dir.queue.offers = false
  repairable : dir.state.phase = .failRepairable → dir.Repairable dir.queue
  current : ∀ unit ∈ dir.queue.workUnits, dir.state.currentWorkUnit = some unit.workUnitId →
    unit.status ≠ .needsReview

section
variable {dir : RunDir}

theorem steady_extracted (extracted : dir.Extracted) : dir.Steady where
  compatible := extracted.compatible
  bound := extracted.bound
  unfenced := extracted.unfenced
  phase := by simp [extracted.phase, loopPhases]
  fresh _ := ⟨extracted.current, extracted.ready⟩
  reviewed impossible := by simp [extracted.phase] at impossible
  repairable impossible := by simp [extracted.phase] at impossible
  current unit listed := by simp [extracted.ready unit listed]

theorem reserved_some {unit : WorkUnit} :
    dir.reserved = .ok (some unit) ↔ unit ∈ dir.queue.workUnits ∧ unit.workUnitId ≠ "" ∧
      dir.state.currentWorkUnit = some unit.workUnitId ∧
      (unit.status = .translating ∨ unit.status = .repairing ∨ unit.status = .needsReview) := by
  unfold RunDir.reserved
  split
  · rename_i current
    simp [current]
  · rename_i current
    rw [current]
    refine iff_of_false (by simp) fun ⟨_, named, same, _⟩ => named (Option.some.inj same).symm
  · rename_i workUnitId named current
    simp only [bind_ok, WorkQueue.get_ok, pure_ok, current, Option.some.injEq]
    constructor
    · rintro ⟨found, ⟨listed, name⟩, status⟩
      split_ifs at status with waiting
      cases status
      have nonempty : unit.workUnitId ≠ "" := fun empty => named (by rw [← name, empty])
      exact ⟨listed, nonempty, name.symm, by simpa using waiting⟩
    · rintro ⟨listed, -, name, waiting⟩
      refine ⟨unit, ⟨listed, name.symm⟩, ?_⟩
      rw [if_pos (by simpa using waiting)]

theorem reserved_error {error : Raised} (lost : dir.reserved = .error error) :
    error.code? ≠ some .invalidTransition := by
  unfold RunDir.reserved at lost
  split at lost
  · cases lost
  · cases lost
  · rename_i workUnitId named current
    unfold WorkQueue.get at lost
    split at lost
    · cases lost
    · cases lost
      simp [Raised.code?]

omit [Engine] in
theorem current_changed (change : WorkUnit → WorkUnit) {queue : WorkQueue} {workUnitId : String}
    (kept : ∀ unit, (change unit).workUnitId = unit.workUnitId) {unit : WorkUnit}
    (changed : ∀ unit, (change unit).status ≠ .needsReview)
    (listed : unit ∈ (queue.update workUnitId change kept).workUnits)
    (current : some workUnitId = some unit.workUnitId) : unit.status ≠ .needsReview := by
  rcases WorkQueue.mem_update_cases listed with ⟨before, -, -, rfl⟩ | ⟨-, other⟩
  · exact changed before
  · exact absurd (Option.some.inj current).symm other

theorem steady_translation (steady : dir.Steady) {unit : WorkUnit}
    {result : NextAnswer} {queue : WorkQueue} {state : RunState}
    (next : dir.queue.next = .ready unit)
    (planned : dir.planTranslation unit = .ok (result, some (queue, state))) :
    ({ dir with queue, state := state.saved } : RunDir).Steady := by
  obtain ⟨listed, ready⟩ := WorkQueue.next_ready next
  obtain ⟨rfl, -, -, current, phase⟩ := planTranslation_ok planned
  have offered : dir.queue.offers = true := any_eq_true.mpr ⟨unit, listed, by simp [ready]⟩
  have working : dir.state.phase ≠ .failRepairable := by
    intro failed
    simp [(steady.repairable failed).offered] at offered
  refine ⟨steady.compatible, steady.bound, steady.unfenced, ?_, fun fresh => ?_, fun reviewed => ?_,
    fun failed => ?_, fun other found same => ?_⟩
  · rcases phase with phase | ⟨-, phase⟩
    · simp [RunState.saved, phase, loopPhases]
    · simpa [RunState.saved, phase] using steady.phase
  · rcases phase with phase | ⟨awaits, phase⟩
    · simp [RunState.saved, phase] at fresh
    · obtain ⟨-, all⟩ := steady.fresh (phase ▸ fresh)
      obtain ⟨other, found, -, review⟩ := (WorkQueue.update_awaitsReview fun _ => by
        simp [WorkUnit.startTranslation]).mp awaits
      simp [all other found] at review
  · rcases phase with phase | ⟨awaits, -⟩
    · simp [RunState.saved, phase] at reviewed
    · exact Or.inl awaits
  · rcases phase with phase | ⟨-, phase⟩
    · simp [RunState.saved, phase] at failed
    · exact absurd (phase ▸ failed) working
  · exact current_changed WorkUnit.startTranslation (fun _ => rfl)
      (fun _ => by simp [WorkUnit.startTranslation]) found (current ▸ same)

theorem steady_repair (steady : dir.Steady) {unit : WorkUnit} {result : NextAnswer}
    {queue : WorkQueue} {state : RunState} (next : dir.queue.next = .repairReady unit)
    (planned : dir.planRepair unit = .ok (result, some (queue, state))) :
    ({ dir with queue, state := state.saved } : RunDir).Steady := by
  obtain ⟨listed, -, -⟩ := WorkQueue.next_repairReady next
  obtain ⟨rfl, -, current, phase⟩ | ⟨rfl, -, -, current, phase⟩ := planRepair_ok planned
  · have awaits : (dir.queue.update unit.workUnitId WorkUnit.leaveToReview
        fun _ => rfl).awaitsReview = true :=
      any_eq_true.mpr ⟨unit.leaveToReview, WorkQueue.mem_update_changed listed _ _, rfl⟩
    refine ⟨steady.compatible, steady.bound, steady.unfenced, ?_, fun fresh => ?_,
      fun _ => Or.inl awaits, fun failed => ?_, fun other found same => ?_⟩
    · simp [RunState.saved, phase, loopPhases]
    · simp [RunState.saved, phase] at fresh
    · simp [RunState.saved, phase] at failed
    · simp [RunState.saved, current] at same
  · refine ⟨steady.compatible, steady.bound, steady.unfenced, ?_, fun fresh => ?_,
      fun reviewed => ?_, fun failed => ?_, fun other found same => ?_⟩
    · simp [RunState.saved, phase, loopPhases]
    · simp [RunState.saved, phase] at fresh
    · simp [RunState.saved, phase] at reviewed
    · simp [RunState.saved, phase] at failed
    · exact current_changed WorkUnit.startRepair (fun _ => rfl)
        (fun _ => by simp [WorkUnit.startRepair]) found (current ▸ same)

/-- The plan of a next unit keeps the phase of the run fitting. -/
theorem steady_next (steady : dir.Steady) {result : NextAnswer} {queue : WorkQueue}
    {state : RunState} (planned : dir.planNext = .ok (result, some (queue, state))) :
    ({ dir with queue, state := state.saved } : RunDir).Steady := by
  obtain ⟨-, -, -, queued⟩ := planNext_ok planned
  obtain ⟨unit, ⟨next, translation⟩ | ⟨next, repair⟩⟩ := planQueue_ok queued
  · exact steady_translation steady next translation
  · exact steady_repair steady next repair

/-- An accepted unit does not wait for its translation. -/
theorem accept_offers {patch : Engine.Patch} {submission : Submission}
    (offered : (dir.acceptedQueue patch submission).offers = true) : dir.queue.offers = true := by
  obtain ⟨unit, found, ready⟩ := any_eq_true.mp offered
  rcases WorkQueue.mem_update_cases found with ⟨before, -, -, rfl⟩ | ⟨found, -⟩
  · simp only [WorkUnit.accept] at ready
    split at ready <;> simp at ready
  · exact any_eq_true.mpr ⟨unit, found, ready⟩

/-- A run with the same records fits as before. -/
theorem Steady.kept {after : RunDir} (steady : dir.Steady) (state : after.state = dir.state)
    (queue : after.queue = dir.queue) (manifest : after.contents.manifest = dir.contents.manifest)
    (compatible : after.compatible = dir.compatible) (bound : after.bound = dir.bound)
    (unfenced : after.mutationGuard = dir.mutationGuard) : after.Steady := by
  have reserved : after.reserved = dir.reserved := by
    rw [RunDir.reserved, RunDir.reserved, state, queue]
  have assessed : after.Assessed ↔ dir.Assessed := by
    rw [Assessed, Assessed, manifest]
  refine ⟨compatible ▸ steady.compatible, bound ▸ steady.bound, unfenced ▸ steady.unfenced,
    state ▸ steady.phase, fun fresh => ?_, fun reviewed => ?_, fun failed => ?_,
    fun unit listed same => ?_⟩
  · rw [state] at fresh ⊢
    rw [queue]
    exact steady.fresh fresh
  · rw [state] at reviewed
    rw [queue]
    exact steady.reviewed reviewed
  · rw [state] at failed
    obtain ⟨offered, unreserved, remains⟩ := steady.repairable failed
    exact ⟨queue ▸ offered, reserved ▸ unreserved, fun all => assessed.not.mpr
      (remains (queue ▸ all))⟩
  · rw [queue] at listed
    rw [state] at same
    exact steady.current unit listed same

/-- A stored submission that awaits no review leaves no unit that waits for its translation. -/
theorem steady_unsettled (steady : dir.Steady) {patch : Engine.Patch} {submission : Submission}
    {after : RunDir} (compatible : after.compatible = dir.compatible)
    (bound : after.bound = dir.bound) (unfenced : after.mutationGuard = dir.mutationGuard)
    (state : after.state = dir.state) (queue : after.queue = dir.acceptedQueue patch submission)
    (reviewed : dir.state.phase = .needsReview)
    (settled : (dir.acceptedQueue patch submission).awaitsReview = false)
    (safe : dir.queue.offers = true → (dir.acceptedQueue patch submission).awaitsReview = true) :
    after.Steady := by
  have phase : after.state.phase = .needsReview := by rw [state, reviewed]
  refine ⟨compatible ▸ steady.compatible, bound ▸ steady.bound, unfenced ▸ steady.unfenced,
    by simp [phase, loopPhases], fun fresh => ?_, fun _ => Or.inr ?_, fun failed => ?_,
    fun unit listed _ review => ?_⟩
  · simp [phase] at fresh
  · rw [queue]
    by_contra offered
    have awaits := safe (accept_offers (by simpa using offered))
    simp [settled] at awaits
  · simp [phase] at failed
  · rw [queue] at listed
    have awaits : (dir.acceptedQueue patch submission).awaitsReview = true :=
      any_eq_true.mpr ⟨unit, listed, by simp [review]⟩
    simp [settled] at awaits

theorem steady_accepted (steady : dir.Steady) {patch : Engine.Patch} {submission : Submission}
    (checked : dir.checkSubmission patch = .ok submission) {after : RunDir}
    (compatible : after.compatible = dir.compatible) (bound : after.bound = dir.bound)
    (unfenced : after.mutationGuard = dir.mutationGuard)
    (queue : after.queue = dir.acceptedQueue patch submission)
    (unsettled : ¬(dir.state.phase = .needsReview ∧
      (dir.acceptedQueue patch submission).awaitsReview = false))
    (current : after.state.currentWorkUnit = none)
    (phase : after.state.phase =
      if Engine.recoveryUnresolved submission.canonical = [] then dir.state.phase
      else .needsReview) : after.Steady := by
  obtain ⟨listed, -, submitted⟩ := checkSubmission_ok checked
  have submissible : after.state.phase ∈ submissible := by
    rw [phase]
    split_ifs
    · exact submitted
    · decide
  refine ⟨compatible ▸ steady.compatible, bound ▸ steady.bound, unfenced ▸ steady.unfenced,
    ?_, fun fresh => ?_, fun reviewed => Or.inl ?_, fun failed => ?_, fun unit _ same => ?_⟩
  · simp only [RunDir.submissible, mem_cons, not_mem_nil, or_false] at submissible
    rcases submissible with same | same | same <;> simp [same, loopPhases]
  · simp [fresh, RunDir.submissible] at submissible
  · rw [queue]
    by_cases resolved : Engine.recoveryUnresolved submission.canonical = []
    · rw [phase, if_pos resolved] at reviewed
      by_contra none
      exact unsettled ⟨reviewed, by simpa using none⟩
    · exact (acceptedQueue_awaitsReview listed).mpr (Or.inl resolved)
  · simp [failed, RunDir.submissible] at submissible
  · simp [current] at same

end

section
variable [Sha256]

/-- The host can go on: a waiting unit is returned, the patch of a returned unit is accepted, and
a translated run is verified. -/
structure Flows (dir : RunDir) : Prop where
  offered : dir.state.phase ∉ RunPhase.operationalFailures →
    (∃ unit ∈ dir.queue.workUnits, unit.status = .ready ∨ unit.status = .translating) →
    ∀ error after, next.run dir = (.error error, after) → error.code? ≠ some .invalidTransition
  accepted : ∀ result after unit, next.run dir = (.ok result, after) →
    result.status = .ready ∨ result.status = .repairReady → result.workUnit = some unit →
    ∀ payload patch canonical, after.ValidPayload unit payload patch canonical →
      ∃ answer later, (submit payload).run after = (.ok answer, later)
  verified : ∀ result after, next.run dir = (.ok result, after) → result.status = .allTranslated →
    result.nextAction = some "kslide_verify" ∧
    ∀ verification later, verifyRun.run after = (.ok verification, later) →
      verification ≠ after.phaseNotVerifiable

/-- The call does not lead the run into a phase that its units cannot leave. -/
def Safe (dir : RunDir) : HostCall → Prop
  | .next => True
  | .submit payload => ∀ patch submission reports, dir.admitted payload = .ok patch →
      dir.checkSubmission patch = .ok submission →
      Engine.render (dir.stored patch submission).contents dir.queue = .ok reports →
      dir.state.phase = .needsReview → dir.queue.offers = true →
      Engine.recoveryUnresolved submission.canonical ≠ [] ∨
        ∃ other ∈ dir.queue.workUnits, other.workUnitId ≠ submission.unit.workUnitId ∧
          other.status = .needsReview
  | .verifyRun => dir.state.phase = .complete ∨ dir.state.phase ∈ verifiable →
      ∃ seen, (dir.opened dir.verifyAction).rendered = .ok seen ∧
        (seen.verifyUnlocked.passed = false →
          dir.Repairable (judgedQueue dir.queue seen.verifyUnlocked))
  | .finalizeRun => dir.permitsVerifying →
      ∃ seen, (dir.opened "Re-verifying current artifacts").rendered = .ok seen ∧
        (seen.verifyUnlocked.passed = false → dir.Repairable dir.queue)

variable {dir : RunDir}

omit [Sha256] in
theorem run_next (unfenced : dir.mutationGuard = .ok ()) :
    next.run dir =
      match dir.planNext with
      | .error error => (.error error, dir)
      | .ok (result, none) => (.ok result, dir)
      | .ok (result, some (queue, state)) =>
        (.ok result, { dir with queue, state := state.saved }) := by
  unfold next
  rw [run_bind_ok (run_look dir), run_bind, run_lift]
  rcases dir.planNext with error | ⟨result, _ | ⟨queue, state⟩⟩
  · rfl
  · rfl
  · dsimp only
    have unfencedLater : ({ dir with queue } : RunDir).mutationGuard = .ok () := unfenced
    rw [saveQueue, run_bind_ok (run_guarded_open unfenced),
      run_bind_ok (run_saveState _ unfencedLater state)]
    rfl

omit [Sha256] in
theorem next_steady (steady : dir.Steady) : (next.run dir).2.Steady := by
  rw [run_next steady.unfenced]
  cases planned : dir.planNext with
  | error error => exact steady
  | ok plan =>
    obtain ⟨result, _ | ⟨queue, state⟩⟩ := plan
    · exact steady
    · exact steady_next steady planned

/-- A stored submission ends its review or is refused at the end of the last review. -/
theorem stored_steady (steady : dir.Steady) {payload : String} {patch : Engine.Patch}
    {submission : Submission} (safe : dir.Safe (.submit payload))
    (entered : dir.admitted payload = .ok patch)
    (checked : dir.checkSubmission patch = .ok submission) :
    ((submit payload).run dir).2.Steady := by
  obtain ⟨listed, -, submitted⟩ := checkSubmission_ok checked
  rw [run_submit_stored entered checked steady.unfenced]
  dsimp only
  cases rendered : Engine.render (dir.stored patch submission).contents dir.queue with
  | error error => exact steady.kept rfl rfl rfl rfl rfl rfl
  | ok reports =>
    have remains := safe patch submission reports entered checked rendered
    rw [← @acceptedQueue_awaitsReview _ dir patch submission listed] at remains
    by_cases settled : dir.state.phase = .needsReview ∧
        (dir.acceptedQueue patch submission).awaitsReview = false
    · obtain ⟨error, refused⟩ := @settleState_refused _ _
        (Engine.recoveryUnresolved submission.canonical) settled.1 settled.2
      rw [refused]
      exact steady_unsettled steady rfl rfl rfl rfl rfl settled.1 settled.2 (remains settled.1)
    · obtain ⟨state, moved, current, phase⟩ := @settleState_ok _ _
        (Engine.recoveryUnresolved submission.canonical) submitted settled
      rw [moved]
      exact steady_accepted steady checked rfl rfl rfl rfl settled current phase

theorem submit_steady (steady : dir.Steady) {payload : String}
    (safe : dir.Safe (.submit payload)) : ((submit payload).run dir).2.Steady := by
  obtain ⟨after, ran, kept, charged⟩ := dir.run_receive payload
  have unchanged : after.Steady := by
    rcases kept with rfl | rfl
    · exact steady
    · exact steady.kept rfl rfl rfl rfl rfl rfl
  cases entered : dir.admitted payload with
  | error error =>
    rw [entered] at ran
    rw [submit, run_bind_error ran]
    exact unchanged
  | ok patch =>
    cases checked : dir.checkSubmission patch with
    | ok submission => exact stored_steady steady safe entered checked
    | error error =>
      rw [entered] at ran
      cases charged patch entered
      rw [submit, run_bind_ok ran, run_bind_ok (run_look _), run_bind, run_lift,
        checkSubmission_charged, checked]
      exact unchanged

omit [Engine] [Sha256] in
theorem judgeUnit_cases (result : VerificationResult) (unit : WorkUnit) :
    (judgeUnit result unit).status = .verified ∨ (judgeUnit result unit).status = .verifyFailed ∨
      judgeUnit result unit = unit := by
  unfold judgeUnit
  split
  · exact Or.inl rfl
  · exact Or.inr (Or.inl rfl)
  · exact Or.inr (Or.inr rfl)

variable {unit : WorkUnit} {result : NextAnswer} {queue : WorkQueue}

omit [Engine] [Sha256] in
theorem mem_judgedQueue {result : VerificationResult} {unit : WorkUnit}
    (listed : unit ∈ (judgedQueue queue result).workUnits) :
    unit.status = .verified ∨ unit.status = .verifyFailed ∨ unit ∈ queue.workUnits := by
  obtain ⟨before, found, rfl⟩ := mem_map.mp listed
  rcases judgeUnit_cases result before with verified | failed | same
  · exact Or.inl verified
  · exact Or.inr (Or.inl failed)
  · rw [same]
    exact Or.inr (Or.inr found)

omit [Sha256] in
theorem steady_verified (steady : dir.Steady) {after : RunDir} {queue : WorkQueue}
    (compatible : after.compatible = .ok ()) (bound : after.bound = .ok ())
    (unfenced : after.mutationGuard = .ok ())
    (manifest : after.contents.manifest = dir.contents.manifest)
    (current : after.state.currentWorkUnit = dir.state.currentWorkUnit)
    (queued : after.queue = queue) (judged : ∀ unit ∈ queue.workUnits, unit.status = .verified ∨
      unit.status = .verifyFailed ∨ unit ∈ dir.queue.workUnits)
    (phase : after.state.phase = .verified ∨ after.state.phase = .complete ∨
      (after.state.phase = .failRepairable ∧ dir.Repairable queue)) : after.Steady := by
  have listed : ∀ unit ∈ queue.workUnits, unit.status ≠ .verified → unit.status ≠ .verifyFailed →
      unit ∈ dir.queue.workUnits := by
    intro unit found verified failed
    exact ((judged unit found).resolve_left verified).resolve_left failed
  refine ⟨compatible, bound, unfenced, ?_, fun fresh => ?_, fun reviewed => ?_, fun failed => ?_,
    fun unit found same review => ?_⟩
  · rcases phase with phase | phase | ⟨phase, -⟩ <;> simp [phase, loopPhases]
  · rcases phase with phase | phase | ⟨phase, -⟩ <;> simp [phase] at fresh
  · rcases phase with phase | phase | ⟨phase, -⟩ <;> simp [phase] at reviewed
  · obtain ⟨-, offered, unreserved, remains⟩ : after.state.phase = .failRepairable ∧
        dir.Repairable queue := by
      rcases phase with phase | phase | found
      · simp [phase] at failed
      · simp [phase] at failed
      · exact found
    refine ⟨?_, fun unit => ?_, fun all assessed => remains (queued ▸ all) ?_⟩
    · rw [queued, WorkQueue.offers, any_eq_false]
      intro unit found ready
      have waiting : unit.status = .ready := by simpa using ready
      have before := listed unit found (by simp [waiting]) (by simp [waiting])
      have waits : dir.queue.offers = true := any_eq_true.mpr ⟨unit, before, ready⟩
      simp [offered] at waits
    · intro held
      obtain ⟨found, named, same, working⟩ := reserved_some.mp held
      rw [queued] at found
      rw [current] at same
      have before : unit ∈ dir.queue.workUnits := by
        refine listed unit found (fun verified => ?_) fun failed => ?_
        · simp [verified] at working
        · simp [failed] at working
      exact unreserved unit (reserved_some.mpr ⟨before, named, same, working⟩)
    · obtain ⟨status, found, other⟩ := assessed
      exact ⟨status, manifest ▸ found, other⟩
  · rw [queued] at found
    rw [current] at same
    exact steady.current unit (listed unit found (by simp [review]) (by simp [review])) same review

omit [Sha256] in
theorem seen_steady (steady : dir.Steady) {action : String} {seen : RunDir}
    (kept : (dir.opened action).Rendered seen) {after : RunDir} {queue : WorkQueue}
    (compatible : after.compatible = seen.compatible) (bound : after.bound = seen.bound)
    (unfenced : after.mutationGuard = seen.mutationGuard)
    (manifest : after.contents.manifest = seen.contents.manifest)
    (current : after.state.currentWorkUnit = dir.state.currentWorkUnit)
    (queued : after.queue = queue) (judged : ∀ unit ∈ queue.workUnits, unit.status = .verified ∨
      unit.status = .verifyFailed ∨ unit ∈ dir.queue.workUnits)
    (phase : after.state.phase = .verified ∨ after.state.phase = .complete ∨
      (after.state.phase = .failRepairable ∧ dir.Repairable queue)) : after.Steady := by
  refine steady_verified steady ?_ ?_ ?_ ?_ current queued judged phase
  · rw [compatible, kept.compatible, opened_compatible, steady.compatible]
  · rw [bound, kept.bound, opened_bound, steady.bound]
  · rw [unfenced, kept.mutationGuard, opened_mutationGuard, steady.unfenced]
  · rw [manifest, kept.contents, opened_contents]

theorem verifyRun_steady (steady : dir.Steady) (safe : dir.Safe .verifyRun) :
    (verifyRun.run dir).2.Steady := by
  rw [run_verifyRun steady.compatible steady.unfenced]
  split_ifs with verifying
  · obtain ⟨seen, found, repairable⟩ := safe verifying
    have kept := rendered_kept found
    dsimp only
    rw [found]
    have queue : seen.queue = dir.queue := by rw [kept.queue, opened_queue]
    have ended : seen.judged.state.phase = .verified ∨ seen.judged.state.phase = .complete ∨
        (seen.judged.state.phase = .failRepairable ∧
          dir.Repairable (judgedQueue dir.queue seen.verifyUnlocked)) := by
      change (verdictState seen.state seen.verifyUnlocked.passed).phase = _ ∨
        (verdictState seen.state seen.verifyUnlocked.passed).phase = _ ∨
        ((verdictState seen.state seen.verifyUnlocked.passed).phase = _ ∧ _)
      cases passed : seen.verifyUnlocked.passed with
      | true => exact Or.inl rfl
      | false => exact Or.inr (Or.inr ⟨rfl, repairable passed⟩)
    have current : seen.judged.state.currentWorkUnit = dir.state.currentWorkUnit := by
      have same : seen.judged.state.currentWorkUnit = seen.state.currentWorkUnit := by
        change (verdictState seen.state seen.verifyUnlocked.passed).currentWorkUnit = _
        cases seen.verifyUnlocked.passed <;> rfl
      rw [same, kept.state, opened_currentWorkUnit]
    exact seen_steady steady kept rfl rfl rfl rfl current
      (congrArg (judgedQueue · seen.verifyUnlocked) queue) (fun unit => mem_judgedQueue) ended
  · exact steady.kept rfl rfl rfl rfl rfl rfl

theorem finalizeRun_steady (steady : dir.Steady) (safe : dir.Safe .finalizeRun) :
    (finalizeRun.run dir).2.Steady := by
  by_cases permitted : dir.permitsVerifying
  · rw [run_finalizeRun steady.compatible steady.unfenced permitted]
    obtain ⟨seen, found, repairable⟩ := safe permitted
    have kept := rendered_kept found
    dsimp only
    rw [found]
    dsimp only
    split_ifs with passed
    · exact seen_steady steady kept rfl rfl rfl rfl
        (by rw [← opened_currentWorkUnit dir, ← kept.state]; rfl)
        (kept.queue.trans (opened_queue _ _)) (fun _ listed => Or.inr (Or.inr listed))
        (Or.inr (Or.inl rfl))
    · exact seen_steady steady kept rfl rfl rfl rfl
        (by rw [← opened_currentWorkUnit dir, ← kept.state]; rfl)
        (kept.queue.trans (opened_queue _ _)) (fun _ listed => Or.inr (Or.inr listed))
        (Or.inr (Or.inr ⟨rfl, repairable (by simpa using passed)⟩))
  · obtain ⟨error, ran⟩ := run_finalizeRun_refused (Or.inr (Or.inr permitted))
    rw [ran]
    exact steady

omit [Sha256] in
/-- A settled run answers without a unit. -/
theorem planNext_settled (settled : dir.settledPhase) : ∃ result, dir.planNext = .ok (result, none) ∧
    result.status ∉ [.ready, .repairReady, .allTranslated] := by
  by_cases failed : dir.state.phase ∈ RunPhase.operationalFailures
  · exact ⟨_, by rw [planNext, if_pos failed], by simp [answer]⟩
  · rcases settled with failing | complete | verified | ⟨reviewed, none⟩
    · exact absurd failing failed
    · exact ⟨_, by rw [planNext, if_neg failed, if_pos complete], by simp [answer]⟩
    · exact ⟨_, by rw [planNext, if_neg failed, if_neg (by simp [verified]), if_pos verified],
        by simp [answer]⟩
    · exact ⟨_, by rw [planNext, if_neg failed, if_neg (by simp [reviewed]),
        if_neg (by simp [reviewed]), if_pos ⟨reviewed, none⟩], by simp [reviewRequired, answer]⟩

omit [Sha256] in
theorem planNext_steady (steady : dir.Steady) (unsettled : ¬dir.settledPhase) :
    dir.planNext =
      match dir.reserved with
      | .error error => .error error
      | .ok (some unit) => .ok (dir.resumeUnit unit, none)
      | .ok none => dir.planQueue := by
  have prepared : dir.state.phase ∉ preparing := by
    intro early
    have phase := steady.phase
    simp only [preparing, mem_cons, not_mem_nil, or_false] at early
    rcases early with early | early | early | early | early <;> simp [early, loopPhases] at phase
  rw [planNext_unsettled unsettled, steady.compatible, steady.bound, if_neg prepared]
  rcases dir.reserved with error | _ | unit <;> rfl

omit [Sha256] in
/-- A unit that is ready in a run under review is not the only unit that waits. -/
theorem waiting_other (steady : dir.Steady) (unsettled : ¬dir.settledPhase)
    (reviewed : dir.state.phase = .needsReview) :
    ∃ other ∈ dir.queue.workUnits, other.status = .needsReview := by
  have offered : dir.queue.offers = true := by
    by_contra none
    exact unsettled (Or.inr (Or.inr (Or.inr ⟨reviewed, by simpa using none⟩)))
  have awaits := (steady.reviewed reviewed).resolve_right (by simp [offered])
  obtain ⟨other, listed, review⟩ := any_eq_true.mp awaits
  exact ⟨other, listed, by simpa using review⟩

omit [Sha256] in
/-- Translation and repair are allowed from every unsettled phase that a run with the unit can
have. -/
theorem working_phase (steady : dir.Steady) (unsettled : ¬dir.settledPhase) :
    dir.state.phase ∈ [.extracted, .translating, .failRepairable, .repairing, .needsReview] := by
  have phase := steady.phase
  simp only [loopPhases, mem_cons, not_mem_nil, or_false] at phase ⊢
  have incomplete : dir.state.phase ≠ .complete := fun same => unsettled (Or.inr (Or.inl same))
  have unverified : dir.state.phase ≠ .verified :=
    fun same => unsettled (Or.inr (Or.inr (Or.inl same)))
  tauto

omit [Sha256] in
theorem planTranslation_steady (steady : dir.Steady) (unsettled : ¬dir.settledPhase)
    {unit : WorkUnit} (next : dir.queue.next = .ready unit) :
    ∃ plan, dir.planTranslation unit = .ok plan := by
  obtain ⟨listed, ready⟩ := WorkQueue.next_ready next
  have offered : dir.queue.offers = true := any_eq_true.mpr ⟨unit, listed, by simp [ready]⟩
  have moved : ∃ state, dir.translationState unit
      (dir.queue.update unit.workUnitId WorkUnit.startTranslation fun _ => rfl) = .ok state := by
    unfold translationState
    dsimp only
    split_ifs with away
    · have allowed : RunPhase.translating ∈ dir.state.phase.allowed := by
        have phase := working_phase steady unsettled
        simp only [mem_cons, not_mem_nil, or_false] at phase
        rcases phase with phase | phase | phase | phase | phase
        · rw [phase]
          decide
        · exact absurd phase away.1
        · have none := (steady.repairable phase).offered
          simp [offered] at none
        · rw [phase]
          decide
        · obtain ⟨other, found, review⟩ := waiting_other steady unsettled phase
          have different : other.workUnitId ≠ unit.workUnitId := by
            intro same
            have equal := inj_on_of_nodup_map dir.queue.distinct found listed same
            simp [equal, ready] at review
          have awaits : (dir.queue.update unit.workUnitId WorkUnit.startTranslation
              fun _ => rfl).awaitsReview = true :=
            (WorkQueue.update_awaitsReview fun _ => by simp [WorkUnit.startTranslation]).mpr
              ⟨other, found, different, review⟩
          simp [awaits] at away
      exact ⟨_, RunState.transition_ok.mpr (Or.inr ⟨Ne.symm away.1, allowed, rfl⟩)⟩
    · exact ⟨_, rfl⟩
    · exact ⟨_, rfl⟩
  obtain ⟨state, moved⟩ := moved
  exact ⟨_, by rw [planTranslation, moved]; rfl⟩

omit [Sha256] in
theorem planRepair_steady (steady : dir.Steady) (unsettled : ¬dir.settledPhase)
    {unit : WorkUnit} (next : dir.queue.next = .repairReady unit) :
    ∃ plan, dir.planRepair unit = .ok plan := by
  obtain ⟨listed, failed, unoffered⟩ := WorkQueue.next_repairReady next
  have phase : dir.state.phase = .translating ∨ dir.state.phase = .failRepairable ∨
      dir.state.phase = .repairing := by
    have phase := working_phase steady unsettled
    simp only [mem_cons, not_mem_nil, or_false] at phase
    rcases phase with phase | phase | phase | phase | phase
    · simp [(steady.fresh phase).2 unit listed] at failed
    · exact Or.inl phase
    · exact Or.inr (Or.inl phase)
    · exact Or.inr (Or.inr phase)
    · exact absurd (Or.inr (Or.inr (Or.inr ⟨phase, unoffered⟩))) unsettled
  have moves (state : RunState) (same : state.phase = dir.state.phase) (target : RunPhase)
      (named : target = .needsReview ∨ target = .repairing) (action : Option String) :
      ∃ after, state.transition target action none none = .ok after := by
    by_cases there : target = state.phase
    · exact ⟨state, RunState.transition_ok.mpr (Or.inl ⟨there, rfl⟩)⟩
    · refine ⟨_, RunState.transition_ok.mpr (Or.inr ⟨there, ?_, rfl⟩)⟩
      rw [same] at there ⊢
      rcases named with rfl | rfl <;> rcases phase with phase | phase | phase <;>
        rw [phase] at there ⊢ <;> first | decide | exact absurd rfl there
  unfold planRepair
  split_ifs
  · obtain ⟨after, moved⟩ := moves { dir.state with currentWorkUnit := none } rfl .needsReview
      (Or.inl rfl) (some "Human review is required after bounded automatic repair attempts.")
    exact ⟨_, by rw [moved]; rfl⟩
  · obtain ⟨after, moved⟩ := moves { dir.state with currentWorkUnit := some unit.workUnitId } rfl
      .repairing (Or.inr rfl) (some "Repair the exact verification targets")
    exact ⟨_, by rw [moved]; rfl⟩

omit [Sha256] in
/-- A unit that waits for its translation is never refused by the phase of the run. -/
theorem planNext_offered (steady : dir.Steady)
    (waiting : ∃ unit ∈ dir.queue.workUnits, unit.status = .ready ∨ unit.status = .translating)
    {error : Raised} (planned : dir.planNext = .error error) :
    error.code? ≠ some .invalidTransition := by
  by_cases settled : dir.settledPhase
  · obtain ⟨result, answered, -⟩ := planNext_settled settled
    simp [answered] at planned
  · rw [planNext_steady steady settled] at planned
    rcases held : dir.reserved with raised | _ | unit
    · rw [held] at planned
      cases planned
      exact reserved_error held
    · rw [held] at planned
      dsimp only at planned
      unfold planQueue at planned
      cases next : dir.queue.next with
      | ready unit =>
        obtain ⟨plan, made⟩ := planTranslation_steady steady settled next
        simp [next, made] at planned
      | repairReady unit =>
        obtain ⟨plan, made⟩ := planRepair_steady steady settled next
        simp [next, made] at planned
      | allTranslated =>
        obtain ⟨unit, listed, status⟩ := waiting
        have translated := (WorkQueue.next_allTranslated next).2 unit listed
        rcases status with status | status <;> simp [status] at translated
      | needsReview => simp [next] at planned
      | notReady => simp [next] at planned
    · simp [held] at planned

/-- A returned unit is reserved in a phase that accepts its patch, beside the unit whose review
keeps the run in its phase. -/
structure Returned (dir : RunDir) (unit : WorkUnit) : Prop where
  listed : unit ∈ dir.queue.workUnits
  working : unit.status ∈ [.translating, .repairing, .needsReview]
  phase : dir.state.phase ∈ submissible
  reviewed : dir.state.phase = .needsReview → ∃ other ∈ dir.queue.workUnits,
    other.workUnitId ≠ unit.workUnitId ∧ other.status = .needsReview

omit [Sha256] in
theorem returned_reserved (steady : dir.Steady) (unsettled : ¬dir.settledPhase) {unit : WorkUnit}
    (reserved : dir.reserved = .ok (some unit)) : dir.Returned unit := by
  obtain ⟨listed, -, current, working⟩ := reserved_some.mp reserved
  refine ⟨listed, by simpa using working, ?_, fun reviewed => ?_⟩
  · have phase := working_phase steady unsettled
    simp only [mem_cons, not_mem_nil, or_false] at phase
    rcases phase with phase | phase | phase | phase | phase
    · simp [(steady.fresh phase).1] at current
    · simp [phase, submissible]
    · exact absurd reserved ((steady.repairable phase).reserved unit)
    · simp [phase, submissible]
    · simp [phase, submissible]
  · obtain ⟨other, found, review⟩ := waiting_other steady unsettled reviewed
    refine ⟨other, found, fun same => ?_, review⟩
    exact steady.current other found (same ▸ current) review

omit [Sha256] in
theorem returned_translation (steady : dir.Steady) (unsettled : ¬dir.settledPhase)
    {unit : WorkUnit} {result : NextAnswer} {queue : WorkQueue} {state : RunState}
    (next : dir.queue.next = .ready unit)
    (planned : dir.planTranslation unit = .ok (result, some (queue, state))) :
    ({ dir with queue, state := state.saved } : RunDir).Returned unit.startTranslation := by
  obtain ⟨listed, ready⟩ := WorkQueue.next_ready next
  obtain ⟨rfl, -, -, -, phase⟩ := planTranslation_ok planned
  have started := WorkQueue.mem_update_changed listed WorkUnit.startTranslation fun _ => rfl
  refine ⟨started, by simp [WorkUnit.startTranslation], ?_, fun reviewed => ?_⟩
  · rcases phase with phase | ⟨awaits, phase⟩
    · simp [RunState.saved, phase, submissible]
    · obtain ⟨other, found, -, review⟩ := (WorkQueue.update_awaitsReview fun _ => by
        simp [WorkUnit.startTranslation]).mp awaits
      have before := working_phase steady unsettled
      simp only [mem_cons, not_mem_nil, or_false, ← phase] at before
      rcases before with same | same | same | same | same
      · simp [(steady.fresh (phase ▸ same)).2 other found] at review
      · simp [RunState.saved, same, submissible]
      · have none := (steady.repairable (phase ▸ same)).offered
        have waits : dir.queue.offers = true :=
          any_eq_true.mpr ⟨unit, listed, by simp [ready]⟩
        simp [waits] at none
      · simp [RunState.saved, same, submissible]
      · simp [RunState.saved, same, submissible]
  · have awaits : (dir.queue.update unit.workUnitId WorkUnit.startTranslation
        fun _ => rfl).awaitsReview = true := by
      rcases phase with phase | ⟨awaits, -⟩
      · simp [RunState.saved, phase] at reviewed
      · exact awaits
    obtain ⟨other, found, different, review⟩ := (WorkQueue.update_awaitsReview fun _ => by
      simp [WorkUnit.startTranslation]).mp awaits
    exact ⟨other, WorkQueue.mem_update_other found different WorkUnit.startTranslation fun _ => rfl, different, review⟩

omit [Sha256] in
theorem returned_repair {state : RunState} (next : dir.queue.next = .repairReady unit)
    (planned : dir.planRepair unit = .ok (result, some (queue, state)))
    (offered : result.status = .repairReady) :
    result.workUnit = some unit.startRepair ∧
      ({ dir with queue, state := state.saved } : RunDir).Returned unit.startRepair := by
  obtain ⟨listed, -, -⟩ := WorkQueue.next_repairReady next
  obtain ⟨-, status, -, -⟩ | ⟨rfl, -, named, -, phase⟩ := planRepair_ok planned
  · simp [offered] at status
  · have started := WorkQueue.mem_update_changed listed WorkUnit.startRepair fun _ => rfl
    refine ⟨named, started, by simp [WorkUnit.startRepair], ?_, fun reviewed => ?_⟩
    · simp [RunState.saved, phase, submissible]
    · simp [RunState.saved, phase] at reviewed

omit [Sha256] in
theorem planQueue_unnamed (planned : dir.planQueue = .ok (result, none)) :
    result.workUnit = none := by
  unfold planQueue at planned
  cases next : dir.queue.next with
  | ready unit =>
    simp [next, planTranslation] at planned
  | repairReady unit =>
    simp only [next, planRepair] at planned
    split_ifs at planned <;> simp at planned
  | allTranslated =>
    rw [next] at planned
    dsimp only at planned
    split at planned <;> cases planned <;> rfl
  | needsReview =>
    rw [next] at planned
    cases planned
    rfl
  | notReady =>
    rw [next] at planned
    cases planned
    rfl

omit [Sha256] in
theorem next_returned (steady : dir.Steady) {result : NextAnswer} {after : RunDir}
    {unit : WorkUnit} (ran : next.run dir = (.ok result, after))
    (offered : result.status = .ready ∨ result.status = .repairReady)
    (named : result.workUnit = some unit) : after.Returned unit := by
  rw [run_next steady.unfenced] at ran
  by_cases settled : dir.settledPhase
  · obtain ⟨answered, planned, other⟩ := planNext_settled settled
    rw [planned] at ran
    cases ran
    rcases offered with status | status <;> simp [status] at other
  · rw [planNext_steady steady settled] at ran
    rcases held : dir.reserved with error | _ | reserved
    · simp [held] at ran
    · rw [held] at ran
      dsimp only at ran
      cases planned : dir.planQueue with
      | error error => simp [planned] at ran
      | ok plan =>
        obtain ⟨answered, _ | ⟨queue, state⟩⟩ := plan
        · rw [planned] at ran
          cases ran
          have unnamed := planQueue_unnamed planned
          simp [named] at unnamed
        · rw [planned] at ran
          cases ran
          obtain ⟨other, ⟨next, translation⟩ | ⟨next, repair⟩⟩ := planQueue_ok planned
          · obtain ⟨-, -, same, -⟩ := planTranslation_ok translation
            cases named.symm.trans same
            exact returned_translation steady settled next translation
          · rcases planRepair_ok repair with ⟨-, status, -⟩ | ⟨-, status, -⟩
            · rcases offered with same | same <;> simp [same] at status
            · obtain ⟨same, returned⟩ := returned_repair next repair status
              cases named.symm.trans same
              exact returned
    · rw [held] at ran
      cases ran
      cases named
      exact returned_reserved steady settled held

omit [Sha256] in
theorem checkSubmission_valid (bound : dir.bound = .ok ())
    (returned : dir.Returned unit) {payload : String} {patch : Engine.Patch}
    {canonical : Engine.Canonical} (valid : dir.ValidPayload unit payload patch canonical) :
    dir.checkSubmission patch = .ok ⟨unit, canonical⟩ := by
  obtain ⟨evidence, runtime, read, current, fits, described, merged⟩ := valid.merged
  have found : dir.queue.get (Engine.workUnitId patch) = .ok unit :=
    WorkQueue.get_ok.mpr ⟨returned.listed, valid.named.symm⟩
  have working := returned.working
  have undone : unit.status ∉ [.translated, .verified] := by
    intro done
    simp only [mem_cons, not_mem_nil, or_false] at done working
    rcases done with done | done <;> simp [done] at working
  have submitted : unit.status ∈ [.translating, .repairing, .needsReview, .verifyFailed] := by
    simp only [mem_cons, not_mem_nil, or_false] at working ⊢
    tauto
  have repaired : (unit.status ∉ [.repairing, .needsReview, .verifyFailed] ||
      repairs unit patch) = true := by
    by_cases repairing : unit.status ∈ [.repairing, .needsReview, .verifyFailed]
    · simp [valid.repairs repairing]
    · simp [repairing]
  simp only [checkSubmission, bind_ok, require_ok, decide_eq_true_eq, pure_ok]
  refine ⟨(), bound, unit, found, (), returned.phase, (), undone, (), submitted, evidence, read,
    (), current, (), repaired, (), fits, runtime, described, canonical, merged, rfl⟩

omit [Sha256] in
theorem submit_valid (steady : dir.Steady) {unit : WorkUnit} (returned : dir.Returned unit)
    {payload : String} {patch : Engine.Patch} {canonical : Engine.Canonical}
    (valid : dir.ValidPayload unit payload patch canonical) :
    ∃ answer later, (submit payload).run dir = (.ok answer, later) := by
  have checked := checkSubmission_valid steady.bound returned valid
  obtain ⟨reports, rendered⟩ := valid.rendered
  have unsettled : ¬(dir.state.phase = .needsReview ∧
      (dir.acceptedQueue patch ⟨unit, canonical⟩).awaitsReview = false) := by
    rintro ⟨reviewed, none⟩
    have awaits := (@acceptedQueue_awaitsReview _ dir patch ⟨unit, canonical⟩ returned.listed).mpr
      (Or.inr (returned.reviewed reviewed))
    simp [awaits] at none
  obtain ⟨state, moved, -⟩ := @settleState_ok _ _ (Engine.recoveryUnresolved canonical)
    returned.phase unsettled
  rw [run_submit_stored valid.admitted checked steady.unfenced, rendered]
  dsimp only
  rw [moved]
  exact ⟨_, _, rfl⟩

omit [Sha256] in
/-- Only a queue without another unit in an assessed run asks for a verification. -/
theorem planQueue_translated {change : Option (WorkQueue × RunState)}
    (planned : dir.planQueue = .ok (result, change)) (translated : result.status = .allTranslated) :
    dir.queue.next = .allTranslated ∧ dir.Assessed ∧ change = none ∧
      result.nextAction = some "kslide_verify" := by
  cases change with
  | some written =>
    obtain ⟨unit, ⟨-, translation⟩ | ⟨-, repair⟩⟩ := planQueue_ok planned
    · simp [(planTranslation_ok translation).2.1] at translated
    · rcases planRepair_ok repair with ⟨-, status, -⟩ | ⟨-, status, -⟩ <;>
        simp [status] at translated
  | none =>
    unfold planQueue at planned
    cases next : dir.queue.next with
    | ready unit => simp [next, planTranslation] at planned
    | repairReady unit =>
      simp only [next, planRepair] at planned
      split_ifs at planned <;> simp at planned
    | needsReview =>
      rw [next] at planned
      cases planned
      simp [reviewRequired, answer] at translated
    | notReady =>
      rw [next] at planned
      cases planned
      simp [answer] at translated
    | allTranslated =>
      rw [next] at planned
      dsimp only at planned
      split at planned
      · cases planned
      · cases planned
        simp [answer] at translated
      · rename_i status other assessed
        cases planned
        exact ⟨rfl, ⟨status, assessed, other⟩, rfl, rfl⟩

omit [Sha256] in
theorem translated_verifiable (steady : dir.Steady) (unsettled : ¬dir.settledPhase)
    (next : dir.queue.next = .allTranslated) (assessed : dir.Assessed) :
    dir.state.phase ∈ verifiable := by
  obtain ⟨nonempty, translated⟩ := WorkQueue.next_allTranslated next
  have unoffered : dir.queue.offers = false := by
    rw [WorkQueue.offers, any_eq_false]
    intro unit listed
    rcases translated unit listed with status | status <;> simp [status]
  have phase := working_phase steady unsettled
  simp only [mem_cons, not_mem_nil, or_false] at phase
  rcases phase with phase | phase | phase | phase | phase
  · obtain ⟨unit, listed⟩ := exists_mem_of_ne_nil _ nonempty
    have ready := (steady.fresh phase).2 unit listed
    rcases translated unit listed with status | status <;> simp [ready] at status
  · simp [phase, verifiable]
  · exact absurd assessed ((steady.repairable phase).remains next)
  · simp [phase, verifiable]
  · exact absurd (Or.inr (Or.inr (Or.inr ⟨phase, unoffered⟩))) unsettled

theorem verified_steady (steady : dir.Steady) {result : NextAnswer} {after : RunDir}
    (ran : next.run dir = (.ok result, after)) (translated : result.status = .allTranslated) :
    result.nextAction = some "kslide_verify" ∧
      ∀ verification later, verifyRun.run after = (.ok verification, later) →
        verification ≠ after.phaseNotVerifiable := by
  rw [run_next steady.unfenced] at ran
  by_cases settled : dir.settledPhase
  · obtain ⟨answered, planned, other⟩ := planNext_settled settled
    rw [planned] at ran
    cases ran
    simp [translated] at other
  · rw [planNext_steady steady settled] at ran
    rcases held : dir.reserved with error | _ | reserved
    · simp [held] at ran
    · rw [held] at ran
      dsimp only at ran
      rcases planned : dir.planQueue with error | ⟨answered, change⟩
      · simp [planned] at ran
      · have same : answered = result := by
          rcases change with _ | ⟨queue, state⟩ <;> rw [planned] at ran <;> cases ran <;> rfl
        obtain ⟨next, assessed, rfl, action⟩ := planQueue_translated planned (same ▸ translated)
        rw [planned] at ran
        cases ran
        refine ⟨action, fun verification later verified unverifiable => ?_⟩
        rw [run_verifyRun steady.compatible steady.unfenced,
          if_pos (Or.inr (translated_verifiable steady settled next assessed))] at verified
        dsimp only at verified
        cases found : (dir.opened dir.verifyAction).rendered with
        | error error => simp [found] at verified
        | ok seen =>
          rw [found] at verified
          cases verified
          have checked : dir.queue.workUnits.length = 0 := by
            rw [← opened_queue dir dir.verifyAction, ← (rendered_kept found).queue]
            exact congrArg VerificationResult.checkedWorkUnits unverifiable
          exact (WorkQueue.next_allTranslated next).1 (length_eq_zero_iff.mp checked)
    · rw [held] at ran
      cases ran
      simp only [resumeUnit, answer] at translated
      split_ifs at translated

theorem flows_steady (steady : dir.Steady) : dir.Flows := by
  refine ⟨fun working waiting error after ran => ?_, fun result after unit ran offered named
    payload patch canonical valid => ?_, fun result after ran translated => ?_⟩
  · rw [run_next steady.unfenced] at ran
    cases planned : dir.planNext with
    | error raised =>
      rw [planned] at ran
      cases ran
      exact planNext_offered steady waiting planned
    | ok plan =>
      obtain ⟨result, _ | ⟨queue, state⟩⟩ := plan <;> simp [planned] at ran
  · have later : after.Steady := by
      have kept := next_steady steady
      rwa [ran] at kept
    exact submit_valid later (next_returned steady ran offered named) valid
  · exact verified_steady steady ran translated

theorem wedged_reserved (fits : dir.compatible = .ok ())
    (bound : dir.bound = .ok ()) (failed : dir.state.phase = .failRepairable)
    (reserved : dir.reserved = .ok (some unit)) {payload : String} {patch : Engine.Patch}
    {canonical : Engine.Canonical} (valid : dir.ValidPayload unit payload patch canonical) :
    ¬dir.Flows := by
  intro flows
  have unsettled : ¬dir.settledPhase := by
    simp [settledPhase, failed, RunPhase.operationalFailures]
  have planned : dir.planNext = .ok (dir.resumeUnit unit, none) := by
    rw [planNext_unsettled unsettled, fits, bound, if_neg (by simp [failed, preparing]), reserved]
    rfl
  have ran : next.run dir = (.ok (dir.resumeUnit unit), dir) := by
    unfold next
    rw [run_bind_ok (run_look dir), run_bind, run_lift, planned]
    rfl
  have offered : (dir.resumeUnit unit).status = .ready ∨
      (dir.resumeUnit unit).status = .repairReady := by
    simp only [resumeUnit, answer]
    split_ifs
    · exact Or.inr rfl
    · exact Or.inl rfl
  obtain ⟨answer, later, accepted⟩ :=
    flows.accepted _ dir unit ran offered rfl payload patch canonical valid
  obtain ⟨error, after, refused, -⟩ := @submit_refused _ dir payload
    fun patch submission _ checked => by
      have phase := (checkSubmission_ok checked).2.2
      simp [failed, submissible] at phase
  simp [accepted] at refused

/-- The translation loop goes on in every run whose calls are safe. -/
theorem loop_flows {start dir : RunDir} (extracted : start.Extracted)
    (reached : Relation.ReflTransGen (fun before after =>
      ∃ call, before.Safe call ∧ after = (call.operation.run before).2) start dir) :
    dir.Flows := by
  have steady : dir.Steady := by
    induction reached with
    | refl => exact steady_extracted extracted
    | tail _ step ih =>
      obtain ⟨call, safe, rfl⟩ := step
      have ended {Result : Type} (operation : Operation Result) (before : RunDir) :
          ((do let _ ← operation : Operation Unit).run before).2 = (operation.run before).2 := by
        rw [run_bind]
        rcases operation.run before with ⟨_ | _, _⟩ <;> rfl
      cases call with
      | next => rw [HostCall.operation, ended]; exact next_steady ih
      | submit payload => rw [HostCall.operation, ended]; exact submit_steady ih safe
      | verifyRun => rw [HostCall.operation, ended]; exact verifyRun_steady ih safe
      | finalizeRun => rw [HostCall.operation, ended]; exact finalizeRun_steady ih safe
  exact flows_steady steady

end
end RunDir

section
attribute [local instance] Engine.recorded Sha256.polynomial

theorem RunDir.extracted_ready : RunDir.extracted.Extracted :=
  ⟨rfl, rfl, by decide, rfl, rfl, rfl⟩

theorem RunDir.loop_flows_extracted :
    let reserved := (HostCall.next.operation.run RunDir.extracted).2
    ((HostCall.submit "translation").operation.run reserved).2.Flows := by
  intro reserved
  refine RunDir.loop_flows RunDir.extracted_ready (.tail (.single ⟨.next, trivial, rfl⟩)
    ⟨.submit "translation", ?_, rfl⟩)
  intro patch submission reports _ _ _ reviewed
  exact absurd reviewed (by decide)

/-- A verification that comes too early leaves a reserved unit whose patch is refused. -/
theorem RunDir.loop_wedged :
    let reserved := (HostCall.next.operation.run RunDir.extracted).2
    ¬(HostCall.verifyRun.operation.run reserved).2.Flows := by
  intro reserved
  have valid : (HostCall.verifyRun.operation.run reserved).2.ValidPayload
      (WorkQueue.single.workUnits[0].startTranslation) "translation" ⟨"unit-1", none, "first", []⟩
      ⟨"unit-1", none, "first", []⟩ :=
    ⟨rfl, rfl, ⟨"evidence-1", .obj [], rfl, rfl, rfl, rfl, rfl⟩, by decide, ⟨_, rfl⟩⟩
  exact RunDir.wedged_reserved rfl rfl (by decide +kernel) rfl valid

end
end KSlide
