import KSlide.Interleaving.Pool
import KSlide.Run.Intake

/-
This file gives the runs of one workspace and proves when their slots stay within its capacity.
-/

namespace KSlide
open Interleaving Relation List

section
variable [Engine]

namespace RunFolder
open Program

def withReservation (folder : RunFolder) : RunFolder :=
  { folder with reservation := some ⟨"admitted", folder.dir.state.runId⟩ }

def noCapacity (active limit : Nat) : KSlideError :=
  ⟨.capacityLimit,
    "The workspace has no available run capacity; check active runs and retry when capacity is available.",
    [("active_runs", .int active), ("max_active_runs", .int limit)]⟩

def uncertainCapacity (error : KSlideError) : KSlideError :=
  ⟨.capacityLimit,
    "Workspace run capacity could not be established safely; check active runs and retry.",
    [("prerequisite_error_code", .str error.code.value)]⟩

/-- Only an error of the package refuses the run. -/
def uncertain : Raised → Preparation (Option KSlideError)
  | .kslide error => return some (uncertainCapacity error)
  | .other kind => throw (.raised (.other kind))

/-- The count and the reservation share one lock section. -/
def takeSlot (answers : IntakeAnswers) (active : Except Raised Nat) (limit : Nat) :
    Preparation (Option KSlideError) := do
  ask .admissionLock (answers.action .admissionLock)
  let active ← lift (Answer.raise active)
  if active < limit then
    perform .reserve (answers.action .reserve) withReservation
    return none
  else return some (noCapacity active limit)

/-- The slot of a run is reserved under the admission lock while the count is below the limit. -/
def reserveCapacity (answers : IntakeAnswers) (active : Except Raised Nat) (limit : Nat) :
    Preparation (Option KSlideError) :=
  rescue (takeSlot answers active limit) uncertain

/-- An interrupted reservation leaves its run unchanged and unadmitted. -/
theorem run_rescue_uncertain {program : Preparation (Option KSlideError)} {folder : RunFolder}
    {interrupt : Interrupt Raised} (ran : program.run folder = (.error interrupt, folder)) :
    ∃ outcome, (rescue program uncertain).run folder = (outcome, folder) ∧ outcome ≠ .ok none := by
  cases interrupt with
  | crashed => exact ⟨_, run_rescue_crashed ran, nofun⟩
  | raised error =>
    rw [run_rescue_raised ran]
    cases error with
    | kslide error => exact ⟨_, rfl, nofun⟩
    | other kind => exact ⟨_, rfl, nofun⟩

/-- A run is admitted or unchanged. -/
structure Reserving (active : Except Raised Nat) (limit : Nat) (folder : RunFolder)
    (outcome : Answer Raised (Option KSlideError)) (after : RunFolder) : Prop where
  admitted : outcome = .ok none →
    after = folder.withReservation ∧ ∃ count, active = .ok count ∧ count < limit
  refused : outcome ≠ .ok none → after = folder

variable {Result : Type} (answers : IntakeAnswers) (artifacts : List InputArtifact)
  (action : PreparationAction) (answer : Answer Raised Unit) {folder : RunFolder}

/-- A reservation is written only below the limit. -/
theorem run_reserveCapacity (active : Except Raised Nat) (limit : Nat) (folder : RunFolder) :
    ∃ outcome after, (reserveCapacity answers active limit).run folder = (outcome, after) ∧
      Reserving active limit folder outcome after := by
  have stopped (outcome : Answer Raised (Option KSlideError)) (other : outcome ≠ .ok none) :
      Reserving active limit folder outcome folder := ⟨fun same => absurd same other, fun _ => rfl⟩
  have interrupted (interrupt : Interrupt Raised)
      (ran : (takeSlot answers active limit).run folder = (.error interrupt, folder)) :
      ∃ outcome after, (reserveCapacity answers active limit).run folder = (outcome, after) ∧
        Reserving active limit folder outcome after := by
    obtain ⟨outcome, rescued, other⟩ := run_rescue_uncertain ran
    exact ⟨outcome, folder, rescued, stopped outcome other⟩
  cases locked : answers.action .admissionLock with
  | error interrupt =>
    apply interrupted interrupt
    rw [takeSlot, run_ask_bind, locked]
  | ok value =>
    cases active with
    | error error =>
      apply interrupted (.raised error)
      rw [takeSlot, run_ask_bind, locked]
      rfl
    | ok count =>
      by_cases free : count < limit
      · cases reserved : answers.action .reserve with
        | error interrupt =>
          apply interrupted interrupt
          rw [takeSlot, run_ask_bind, locked]
          simp only [Answer.raise, run_bind, run_lift, if_pos free, reserved,
            run_perform_error]
        | ok value =>
          have ran : (takeSlot answers (.ok count) limit).run folder =
              (.ok none, folder.withReservation) := by
            rw [takeSlot, run_ask_bind, locked]
            simp only [Answer.raise, run_bind, run_lift, if_pos free, reserved,
              run_perform_ok, run_pure]
          exact ⟨_, _, run_rescue_ok ran, fun _ => ⟨rfl, count, rfl, free⟩,
            fun other => absurd rfl other⟩
      · have ran : (takeSlot answers (.ok count) limit).run folder =
            (.ok (some (noCapacity count limit)), folder) := by
          rw [takeSlot, run_ask_bind, locked]
          simp only [Answer.raise, run_bind, run_lift, if_neg free, run_pure]
        exact ⟨_, _, run_rescue_ok ran, stopped _ (by simp)⟩

/-- An intake moves a created run once and never opens an ended run. -/
def intake : Discipline PreparationAction RunFolder where
  invariant _ := True
  rely before after := before.phase = .created → after.phase = .created
  guarantee _ before after := after.reservation = before.reservation ∧
    (before.phase ∈ RunPhase.terminal → after.phase ∈ RunPhase.terminal)
  allowed _ _ := True
  idle _ _ := ⟨rfl, id⟩

/-- The run waits for the write of its phase. -/
def Waits (folder : RunFolder) : Prop := folder.phase = .created

theorem waits_later {before after : RunFolder} (waits : before.Waits)
    (reached : ReflTransGen intake.rely before after) : after.Waits := by
  induction reached with
  | refl => exact waits
  | tail _ step ih => exact step ih

/-- The rest of an intake follows its discipline. -/
abbrev Follows {Result : Type} (program : Preparation Result) (folder : RunFolder) : Prop :=
  program.Meets intake (fun _ _ => True) (fun _ _ => True) folder

theorem meets_perform {update : RunFolder → RunFolder}
    (reservation : ∀ folder, (update folder).reservation = folder.reservation)
    (phase : ∀ folder, (update folder).phase = folder.phase) (action : PreparationAction)
    (answer : Answer Raised Unit) {folder : RunFolder} (waits : folder.Waits) :
    (perform action answer update).Meets intake (fun _ => Waits) (fun _ _ => True) folder := by
  apply meets_transact
  intro current reached _ _
  have still := waits_later waits reached
  cases answer with
  | error interrupt => exact ⟨trivial, ⟨rfl, id⟩, trivial⟩
  | ok value =>
    refine ⟨trivial, ⟨reservation current, ?_⟩, (phase current).trans still⟩
    intro ended
    rwa [phase current]

theorem meets_ask (waits : folder.Waits) :
    (ask action answer).Meets intake (fun _ => Waits) (fun _ _ => True) folder :=
  meets_perform (fun _ => rfl) (fun _ => rfl) action answer waits

/-- An action without a write follows the discipline in every phase. -/
theorem follows_ask (folder : RunFolder) : Follows (ask action answer) folder := by
  apply meets_transact
  intro current _ _ _
  cases answer <;> exact ⟨trivial, ⟨rfl, id⟩, trivial⟩

theorem follows_bind {Result Other : Type} {program : Preparation Result}
    {rest : Result → Preparation Other} {folder : RunFolder}
    (first : program.Meets intake (fun _ => Waits) (fun _ _ => True) folder)
    (second : ∀ value folder, folder.Waits → Follows (rest value) folder) :
    Follows (program >>= rest) folder :=
  meets_bind first second

theorem follows_asks {rest : Unit → Preparation Result}
    (action : PreparationAction) (answer : Answer Raised Unit) (folder : RunFolder)
    (second : ∀ folder, Follows (rest ()) folder) : Follows (ask action answer >>= rest) folder :=
  meets_bind (follows_ask action answer folder) fun _ folder _ => second folder

/-- An intake reads a run that waits. -/
theorem follows_examine {rest : RunFolder → Preparation Result}
    {folder : RunFolder} (waits : folder.Waits)
    (second : ∀ folder : RunFolder, folder.Waits → Follows (rest folder) folder) :
    Follows (examine >>= rest) folder := by
  apply @meets_bind _ _ _ _ _ _ (fun (seen : RunFolder) current => seen = current ∧ current.Waits)
  · apply meets_read
    intro current reached _ _
    exact ⟨rfl, waits_later waits reached⟩
  · rintro seen current ⟨rfl, still⟩
    exact second seen still

theorem follows_enter {rest : Unit → Preparation Result}
    (answers : PreparationAction → Answer Raised Unit) (state : RunState) (target : RunPhase)
    (nextAction : String) (errorCode errorMessage : Option String) {folder : RunFolder}
    (waits : folder.Waits) (second : ∀ folder, Follows (rest ()) folder) :
    Follows (enter answers state target nextAction errorCode errorMessage >>= rest) folder := by
  apply @meets_bind _ _ _ _ _ _ (fun _ _ => True)
  · apply meets_lift_bind
    · intro moved _
      apply meets_transact
      intro current reached _ _
      have still := waits_later waits reached
      cases answers (.saveState target) with
      | error interrupt => exact ⟨trivial, ⟨rfl, id⟩, trivial⟩
      | ok value =>
        refine ⟨trivial, ⟨rfl, ?_⟩, trivial⟩
        intro ended
        rw [show current.phase = .created from still] at ended
        exact absurd ended (by decide)
    · intro _ _
      trivial
  · intro _ folder _
    exact second folder

theorem follows_lift {Result Other : Type} (value : Answer Raised Result)
    {rest : Result → Preparation Other} {folder : RunFolder}
    (second : ∀ value, Follows (rest value) folder) : Follows (lift value >>= rest) folder :=
  meets_lift_bind (fun result _ => second result) fun _ _ => trivial

theorem follows_refuseInput (nextAction : String) (error : KSlideError)
    {folder : RunFolder} (waits : folder.Waits) :
    Follows (refuseInput answers nextAction error) folder := by
  apply follows_examine waits
  intro folder waits
  apply follows_enter _ _ _ _ _ _ waits
  intro folder
  apply follows_asks
  intro folder
  apply follows_asks
  intro folder
  apply follows_ask

theorem follows_refuseCopy (waits : folder.Waits) : Follows (refuseCopy answers) folder := by
  apply follows_examine waits
  intro folder waits
  apply follows_enter _ _ _ _ _ _ waits
  intro folder
  apply follows_asks
  intro folder
  apply follows_ask

/-- A run that waits after its copies goes on to its records. -/
theorem meets_copyInputs (budget : ResourceBudget)
    (artifacts : List (InputArtifact × Nat)) (copied : Nat) {folder : RunFolder}
    (waits : folder.Waits) :
    (copyInputs answers budget artifacts copied).Meets intake
      (fun copied folder => copied = true → folder.Waits) (fun _ _ => True) folder := by
  induction artifacts generalizing copied folder with
  | nil => exact fun _ => waits
  | cons input artifacts ih =>
    obtain ⟨artifact, index⟩ := input
    rw [copyInputs]
    apply meets_lift_bind _ (fun _ _ => trivial)
    intro size _
    split_ifs
    · apply meets_bind (meets_ask _ _ waits)
      intro _ folder waits
      apply meets_bind (follows_refuseInput _ _ _ waits)
      intro _ folder _
      simp
    · apply meets_lift_bind _ (fun _ _ => trivial)
      intro digest _
      split_ifs
      · apply meets_bind (follows_refuseCopy _ waits)
        intro _ folder _
        simp
      · exact ih _ waits

theorem follows_storeQueue (inputCount : Nat) {folder : RunFolder}
    (waits : folder.Waits) : Follows (storeQueue answers inputCount) folder := by
  apply follows_examine waits
  intro folder waits
  apply follows_lift
  intro queue
  apply follows_bind (@meets_perform _ (·.withQueue queue) (fun _ => rfl) (fun _ => rfl) _ _ _ waits)
  intro _ folder waits
  rw [← bind_pure (enter _ _ _ _ _ _)]
  apply follows_enter _ _ _ _ _ _ waits
  intro folder
  trivial

theorem follows_storeInputs (waits : folder.Waits) : Follows (storeInputs answers artifacts) folder := by
  apply follows_bind (meets_ask _ _ waits)
  intro _ folder waits
  apply follows_bind (@meets_perform _ (·.withSnapshots (artifacts.map InputArtifact.snapshot))
    (fun _ => rfl) (fun _ => rfl) _ _ _ waits)
  intro _ folder waits
  apply follows_bind (meets_ask _ _ waits)
  intro _ folder waits
  apply follows_bind (meets_ask _ _ waits)
  intro _ folder waits
  apply follows_bind (meets_ask _ _ waits)
  intro _ folder waits
  apply follows_bind (meets_ask _ _ waits)
  intro _ folder waits
  apply follows_bind (meets_ask _ _ waits)
  intro _ folder waits
  exact follows_storeQueue answers _ waits

/-- The intake of an admitted run follows its discipline beside every other call. -/
theorem follows_prepareAdmitted (waits : folder.Waits) :
    Follows (prepareAdmitted answers artifacts false) folder := by
  apply follows_examine waits
  intro folder waits
  apply meets_bind (meets_copyInputs _ _ _ _ waits)
  intro copied folder waits
  cases copied with
  | false => trivial
  | true =>
    apply meets_bind (follows_storeInputs answers artifacts (waits rfl))
    intro _ folder _
    apply follows_asks
    intro folder
    exact follows_ask _ _ folder

end RunFolder
end

section
variable [Engine]

/-- Each call on a run changes it inside a section of its lock. -/
inductive LockSection where
  | normalize (answers : NormalizeAnswers)
  | extract (answers : ExtractAnswers)
  | recordFailure (answers : PreparationAction → Answer Raised Unit) (error : Raised)
  | host (call : HostCall)

open RunFolder Program

/-- The locked part of an extraction follows the check of its environment. -/
def RunFolder.extractSection (answers : ExtractAnswers) : Preparation (List Engine.Evidence) := do
  ask .environment (answers.action .environment)
  extractRunLocked answers

/-- The failure of a repeated normalization is recorded again. -/
def RunFolder.FailsAgain (answers : NormalizeAnswers) (folder : RunFolder) : Prop :=
  ∃ error, normalizationWork answers folder = .error (.raised error) ∧
    (recorded error).isSome = true ∧ recordsFailure answers.action .failedNormalization = true

namespace LockSection
variable [Sha256]

def leaves : LockSection → RunFolder → RunFolder
  | normalize answers, folder => ((normalizeRun answers).run folder).2
  | extract answers, folder => ((extractSection answers).run folder).2
  | recordFailure answers error, folder => ((recordExtractionFailure answers error).run folder).2
  | host call, folder => { folder with dir := (call.operation.run folder.dir).2 }

end LockSection

/-- The current artifacts of a run pass the verification of its finalization. -/
def RunDir.PassesAgain [Sha256] (dir : RunDir) : Prop :=
  ∃ seen, (dir.opened "Re-verifying current artifacts").rendered = .ok seen ∧
    seen.verifyUnlocked.passed = true

namespace LockSection
variable [Sha256]

/-- The calls that open an ended run. -/
def Reopens : LockSection → RunFolder → Prop
  | normalize answers, folder => folder.phase = .failedNormalization ∧
      Normalizes answers folder ∧ ¬FailsAgain answers folder
  | host .verifyRun, folder => folder.phase = .complete ∧ folder.dir.compatible = .ok () ∧
      folder.dir.mutationGuard = .ok ()
  | host .finalizeRun, folder => folder.phase = .complete ∧ folder.dir.compatible = .ok () ∧
      folder.dir.mutationGuard = .ok () ∧ ¬folder.dir.PassesAgain
  | _, _ => False

end LockSection

namespace RunFolder

/-- The locked part of an extraction keeps the slot and leaves a run in any other phase unchanged. -/
theorem run_extractSection (answers : ExtractAnswers) (folder : RunFolder) :
    Kept folder ((extractSection answers).run folder).2 ∧
      (folder.phase ≠ .normalized → folder.phase ≠ .extracting →
        ((extractSection answers).run folder).2 = folder) := by
  rw [extractSection, run_ask_bind]
  cases environment : answers.action .environment with
  | error interrupt => exact ⟨.refl folder, fun _ _ => rfl⟩
  | ok value =>
    by_cases works : Extracts answers folder
    · constructor
      · obtain ⟨middle, ran, advances, _⟩ :=
          run_extractDocuments answers folder.extracting_phase
        simp only [run_extractRunLocked works, run_bind, ran, run_ask]
        have kept := (folder.extracting_advances.trans advances).kept
        cases extractionWork answers folder.extracting with
        | error interrupt => exact kept
        | ok evidence =>
          cases answers.action .metrics <;> exact kept
      · intro unready unbegun
        exact (works.phase.elim unready unbegun).elim
    · obtain ⟨outcome, ran, _⟩ := run_extractRunLocked_idle environment works
      simp only [ran]
      exact ⟨.refl folder, fun _ _ => trivial⟩

theorem run_normalizeRun_ended {answers : NormalizeAnswers} {folder : RunFolder}
    (works : Normalizes answers folder) :
    ((normalizeRun answers).run folder).2.phase ∈ RunPhase.terminal ↔ FailsAgain answers folder := by
  obtain ⟨outcome, after, ran, _, reached, _⟩ := run_normalizeRun works
  rw [ran, reached]
  unfold FailsAgain
  cases worked : normalizationWork answers folder with
  | ok result => simp [normalizationPhase, RunPhase.terminal]
  | error interrupt =>
    cases interrupt with
    | crashed => simp [normalizationPhase, RunPhase.terminal]
    | raised error =>
      simp only [normalizationPhase, Bool.and_eq_true]
      split_ifs with recorded
      · exact ⟨fun _ => ⟨error, rfl, recorded⟩, fun _ => by decide⟩
      · constructor
        · intro ended
          exact absurd ended (by decide)
        · rintro ⟨_, ⟨⟩, again⟩
          exact absurd again recorded

end RunFolder

namespace LockSection
variable [Sha256]

variable {dir : RunDir} (call : LockSection) {folder : RunFolder}

/-- A section keeps the slot of its run. -/
theorem leaves_reservation (folder : RunFolder) :
    (call.leaves folder).reservation = folder.reservation := by
  cases call with
  | normalize answers =>
    change ((normalizeRun answers).run folder).2.reservation = _
    by_cases works : Normalizes answers folder
    · obtain ⟨outcome, after, ran, kept, _⟩ := run_normalizeRun works
      rw [ran]
      exact kept.reservation
    · rw [run_normalizeRun_idle works]
  | extract answers => exact (run_extractSection answers folder).1.reservation
  | recordFailure answers error =>
    have recording := run_recordExtractionFailure answers error folder
    change ((recordExtractionFailure answers error).run folder).2.reservation = _
    generalize ((recordExtractionFailure answers error).run folder).2 = after at recording
    cases recording with
    | refused => rfl
    | written _ _ _ _ advances => exact advances.kept.reservation
  | host call => rfl

/-- A section leaves a run that is still prepared in its phase. -/
theorem leaves_created (waits : folder.Waits) : (call.leaves folder).Waits := by
  have phase : folder.phase = .created := waits
  cases call with
  | normalize answers =>
    change ((normalizeRun answers).run folder).2.phase = .created
    rw [run_normalizeRun_idle]
    · exact phase
    · intro works
      exact absurd works.phase (by rw [phase]; decide)
  | extract answers =>
    change ((extractSection answers).run folder).2.phase = .created
    rw [(run_extractSection answers folder).2 (by simp [phase]) (by simp [phase])]
    exact phase
  | recordFailure answers error =>
    have recording := run_recordExtractionFailure answers error folder
    change ((recordExtractionFailure answers error).run folder).2.phase = .created
    generalize ((recordExtractionFailure answers error).run folder).2 = after at recording
    cases recording with
    | refused => exact phase
    | written _ working => exact absurd (phase.symm.trans working) (by decide)
  | host call =>
    have same := RunDir.phase_inert call (show folder.dir.state.phase ∈ RunPhase.inert by
      rw [show folder.dir.state.phase = .created from phase]; decide)
    exact same.trans phase

theorem verifyRun_opens (complete : dir.state.phase = .complete) :
    (RunDir.verifyRun.run dir).2.state.phase ∉ RunPhase.terminal ↔
      dir.compatible = .ok () ∧ dir.mutationGuard = .ok () := by
  cases fits : dir.compatible with
  | error error =>
    obtain ⟨_, ran⟩ := RunDir.run_verifyRun_refused (Or.inl ⟨error, fits⟩)
    simp [ran, complete, RunPhase.terminal]
  | ok value =>
    cases unfenced : dir.mutationGuard with
    | error error =>
      obtain ⟨_, ran⟩ := RunDir.run_verifyRun_refused (Or.inr ⟨error, unfenced⟩)
      simp [ran, complete, RunPhase.terminal]
    | ok value =>
      rw [RunDir.run_verifyRun fits unfenced, if_pos (Or.inl complete)]
      dsimp only
      cases found : (dir.opened dir.verifyAction).rendered with
      | error error => simp [RunDir.opened_phase, RunPhase.terminal]
      | ok seen =>
        simp only [RunDir.judged, RunDir.withVerification, RunDir.withDocument]
        cases seen.verifyUnlocked.passed <;>
          simp [RunDir.verdictState, RunState.saved, RunPhase.terminal]

theorem finalizeRun_opens (complete : dir.state.phase = .complete) :
    (RunDir.finalizeRun.run dir).2.state.phase ∉ RunPhase.terminal ↔
      dir.compatible = .ok () ∧ dir.mutationGuard = .ok () ∧ ¬dir.PassesAgain := by
  cases fits : dir.compatible with
  | error error =>
    obtain ⟨_, ran⟩ := RunDir.run_finalizeRun_refused (Or.inl ⟨error, fits⟩)
    simp [ran, complete, RunPhase.terminal]
  | ok value =>
    cases unfenced : dir.mutationGuard with
    | error error =>
      obtain ⟨_, ran⟩ := RunDir.run_finalizeRun_refused (Or.inr (Or.inl ⟨error, unfenced⟩))
      simp [ran, complete, RunPhase.terminal]
    | ok value =>
      rw [RunDir.run_finalizeRun fits unfenced (Or.inr (by rw [complete]; decide))]
      unfold RunDir.PassesAgain
      dsimp only
      cases found : (dir.opened "Re-verifying current artifacts").rendered with
      | error error => simp [RunDir.opened_phase, RunPhase.terminal]
      | ok seen =>
        by_cases passed : seen.verifyUnlocked.passed = true
        · simp [passed, RunDir.completed, RunState.saved, RunPhase.terminal]
        · simp [passed, RunDir.refused, RunDir.verdictState, RunState.saved, RunPhase.terminal]

theorem leaves_opens (ended : folder.phase ∈ RunPhase.terminal) :
    (call.leaves folder).phase ∉ RunPhase.terminal ↔ call.Reopens folder := by
  have cases := RunPhase.inert_terminal ended
  cases call with
  | normalize answers =>
    change ((normalizeRun answers).run folder).2.phase ∉ _ ↔ _
    by_cases works : Normalizes answers folder
    · have failed : folder.phase = .failedNormalization := by
        have accepted := works.phase
        simp only [mem_cons, not_mem_nil, or_false] at accepted
        exact accepted.resolve_left fun same => absurd ended (by rw [same]; decide)
      simp [run_normalizeRun_ended works, Reopens, failed, works]
    · simp [run_normalizeRun_idle works, Reopens, works, ended]
  | extract answers =>
    change ((extractSection answers).run folder).2.phase ∉ _ ↔ _
    rw [(run_extractSection answers folder).2]
    · simp [Reopens, ended]
    · intro same
      exact absurd ended (by rw [same]; decide)
    · intro same
      exact absurd ended (by rw [same]; decide)
  | recordFailure answers error =>
    have recording := run_recordExtractionFailure answers error folder
    change ((recordExtractionFailure answers error).run folder).2.phase ∉ _ ↔ _
    generalize ((recordExtractionFailure answers error).run folder).2 = after at recording
    cases recording with
    | refused => simp [Reopens, ended]
    | written _ working => exact absurd ended (by rw [working]; decide)
  | host call =>
    change (call.operation.run folder.dir).2.state.phase ∉ _ ↔ _
    rcases cases with complete | inert
    · have phase : folder.dir.state.phase = .complete := complete
      obtain ⟨unplanned, unsubmitted⟩ := RunDir.phase_complete phase
      cases call with
      | next =>
        rw [HostCall.operation, RunDir.run_ignored, unplanned]
        simp [Reopens, RunPhase.terminal]
      | submit payload =>
        rw [HostCall.operation, RunDir.run_ignored, unsubmitted]
        simp [Reopens, RunPhase.terminal]
      | verifyRun =>
        rw [HostCall.operation, RunDir.run_ignored, verifyRun_opens phase]
        simp [Reopens, complete]
      | finalizeRun =>
        rw [HostCall.operation, RunDir.run_ignored, finalizeRun_opens phase]
        simp [Reopens, complete]
    · rw [RunDir.phase_inert call inert]
      have incomplete : folder.phase ≠ .complete := by
        intro same
        exact absurd (same ▸ inert : RunPhase.complete ∈ RunPhase.inert) (by decide)
      have unopened : ¬(LockSection.host call).Reopens folder := by
        cases call <;> simp [Reopens, incomplete]
      simp only [unopened, iff_false, not_not]
      exact ended

end LockSection
end

section
variable [Engine] [Sha256]
open RunFolder Program

/-- A run waits for its admission or its intake goes on. -/
inductive PrepareStage where
  | checking (answers : IntakeAnswers) (artifacts : List InputArtifact)
  | working (rest : Preparation Unit)

/-- A run of a workspace has the rest of the call that made it. -/
structure WorkspaceRun where
  name : String
  folder : RunFolder
  stage : PrepareStage

/-- The slots of the other runs are counted in the order of the directory. -/
def activeWorkspaceRunCount (excludingRunId : String) : List WorkspaceRun → Except Raised Nat
  | [] => return 0
  | run :: runs =>
    if run.name = excludingRunId then activeWorkspaceRunCount excludingRunId runs
    else do
      let slots ← run.folder.slots
      let active ← activeWorkspaceRunCount excludingRunId runs
      return slots + active

/-- The runs that hold a slot. -/
def heldSlots (runs : List WorkspaceRun) : Nat := runs.countP (·.folder.Holds)

namespace WorkspaceRun

def capacityAction : String :=
  "Check /k-slide-status and retry after any active workspace run reaches a terminal state."

/-- An admitted run is copied, and a refused run is ended. -/
def proceed (answers : IntakeAnswers) (artifacts : List InputArtifact) :
    Answer Raised (Option KSlideError) → Preparation Unit
  | .ok none => prepareAdmitted answers artifacts false
  | .ok (some failure) => refuseInput answers capacityAction failure
  | .error interrupt => throw interrupt

/-- The admission of a run reads the slots of the other runs. -/
def reserve (run : WorkspaceRun) (answers : IntakeAnswers) (artifacts : List InputArtifact)
    (active : Except Raised Nat) (limit : Nat) : WorkspaceRun :=
  let reserved := (reserveCapacity answers active limit).run run.folder
  { run with folder := reserved.2, stage := .working (proceed answers artifacts reserved.1) }

end WorkspaceRun

/-- The calls on the runs of a workspace take their sections in any order. -/
inductive WorkspaceStep (budget : ResourceBudget)
    (permitted : LockSection → RunFolder → List WorkspaceRun → Prop) :
    List WorkspaceRun → List WorkspaceRun → Prop
  | create (runs : List WorkspaceRun) (dir : RunDir) (answers : IntakeAnswers)
      (artifacts : List InputArtifact) (fresh : dir.state.runId ∉ runs.map (·.name))
      (created : dir.state.phase = .created) :
      WorkspaceStep budget permitted runs
        (runs ++ [⟨dir.state.runId, ⟨dir, [], budget, none, none⟩, .checking answers artifacts⟩])
  | refuse (before after : List WorkspaceRun) (run : WorkspaceRun) (answers : IntakeAnswers)
      (artifacts : List InputArtifact) (checking : run.stage = .checking answers artifacts)
      (nextAction : String) (error : KSlideError) :
      WorkspaceStep budget permitted (before ++ run :: after)
        (before ++ { run with stage := .working (refuseInput answers nextAction error) } :: after)
  | reserve (before after : List WorkspaceRun) (run : WorkspaceRun) (answers : IntakeAnswers)
      (artifacts : List InputArtifact) (checking : run.stage = .checking answers artifacts) :
      WorkspaceStep budget permitted (before ++ run :: after)
        (before ++ run.reserve answers artifacts
          (activeWorkspaceRunCount run.name (before ++ run :: after))
          budget.maxConcurrentRunsPerScope :: after)
  | prepare (before after : List WorkspaceRun) (run : WorkspaceRun) (label : PreparationAction)
      (update : RunFolder → RunFolder) (next : RunFolder → Preparation Unit)
      (working : run.stage = .working (.action label update next)) :
      WorkspaceStep budget permitted (before ++ run :: after)
        (before ++ { run with
          folder := update run.folder, stage := .working (next run.folder) } :: after)
  | call (before after : List WorkspaceRun) (run : WorkspaceRun) (lockSection : LockSection)
      (accepted : permitted lockSection run.folder (before ++ run :: after)) :
      WorkspaceStep budget permitted (before ++ run :: after)
        (before ++ { run with folder := lockSection.leaves run.folder } :: after)

/-- A run of a workspace starts without runs. -/
def WorkspaceReaches (budget : ResourceBudget)
    (permitted : LockSection → RunFolder → List WorkspaceRun → Prop) : List WorkspaceRun → Prop :=
  ReflTransGen (WorkspaceStep budget permitted) []

/-- An ended run with a slot is opened only while another slot is free. -/
def Roomy (limit : Nat) (lockSection : LockSection) (folder : RunFolder)
    (runs : List WorkspaceRun) : Prop :=
  lockSection.Reopens folder → folder.reservation.any (·.status == "admitted") = true →
    heldSlots runs < limit

omit [Sha256] in
theorem heldSlots_insert (before after : List WorkspaceRun) (run : WorkspaceRun) :
    heldSlots (before ++ run :: after) =
      heldSlots (before ++ after) + if run.folder.Holds then 1 else 0 := by
  simp only [heldSlots, countP_append, countP_cons, decide_eq_true_eq]
  omega

omit [Sha256] in
theorem heldSlots_counted {excluding : String} {runs : List WorkspaceRun} {active : Nat}
    (counted : activeWorkspaceRunCount excluding runs = .ok active)
    (others : ∀ run ∈ runs, run.name ≠ excluding) : heldSlots runs ≤ active := by
  induction runs generalizing active with
  | nil => simp [heldSlots]
  | cons run runs ih =>
    rw [activeWorkspaceRunCount, if_neg (others run mem_cons_self)] at counted
    simp only [bind_ok, pure_ok] at counted
    obtain ⟨slots, own, rest, counted, rfl⟩ := counted
    have later := ih counted fun run listed => others run (mem_cons_of_mem _ listed)
    have first := heldSlots_insert [] runs run
    simp only [nil_append] at first
    split_ifs at first with holds
    · have one := slots_holds own holds
      omega
    · omega

variable {budget : ResourceBudget} {limit : Nat} {before after : List WorkspaceRun}
  {run : WorkspaceRun}

omit [Sha256] in
/-- A run does not count itself. -/
theorem count_others : activeWorkspaceRunCount run.name (before ++ run :: after) =
      activeWorkspaceRunCount run.name (before ++ after) := by
  induction before with
  | nil => simp [activeWorkspaceRunCount]
  | cons first before ih => simp only [cons_append, activeWorkspaceRunCount, ih]

/-- A run waits for its admission, or the rest of its intake follows the discipline. -/
def WorkspaceRun.Sound (run : WorkspaceRun) : Prop :=
  match run.stage with
  | .checking _ _ => run.folder.Waits
  | .working rest => Follows rest run.folder

/-- The names of the runs differ, their intakes are sound and their slots fit. -/
structure Bounded (limit : Nat) (runs : List WorkspaceRun) : Prop where
  distinct : (runs.map (·.name)).Nodup
  sound : ∀ run ∈ runs, run.Sound
  within : heldSlots runs ≤ limit

omit [Sha256] in
theorem Bounded.replace
    {run changed : WorkspaceRun} (bounded : Bounded limit (before ++ run :: after))
    (name : changed.name = run.name) (sound : changed.Sound)
    (held : changed.folder.Holds → run.folder.Holds ∨ heldSlots (before ++ after) < limit) :
    Bounded limit (before ++ changed :: after) := by
  constructor
  · have distinct := bounded.distinct
    simpa only [map_append, map_cons, name] using distinct
  · intro other listed
    rcases mem_append.mp listed with listed | listed
    · exact bounded.sound other (mem_append_left _ listed)
    · rcases mem_cons.mp listed with rfl | listed
      · exact sound
      · exact bounded.sound other (mem_append_right _ (mem_cons_of_mem _ listed))
  · have within := bounded.within
    rw [heldSlots_insert] at within ⊢
    split_ifs with holds
    · rcases held holds with own | free
      · rwa [if_pos own] at within
      · omega
    · split_ifs at within <;> omega

omit [Sha256] in
theorem Bounded.run_sound (bounded : Bounded limit (before ++ run :: after)) : run.Sound :=
  bounded.sound run (mem_append_right _ mem_cons_self)

omit [Sha256] in
theorem Bounded.others (bounded : Bounded limit (before ++ run :: after)) :
    ∀ other ∈ before ++ after, other.name ≠ run.name := by
  have distinct := bounded.distinct
  rw [map_append, map_cons, nodup_middle, nodup_cons] at distinct
  intro other listed same
  apply distinct.1
  rw [← map_append, ← same]
  exact mem_map_of_mem listed

omit [Sha256] in
/-- An admission writes a reservation only while a slot is free. -/
theorem bounded_reserve (bounded : Bounded limit (before ++ run :: after)) {answers : IntakeAnswers}
    {artifacts : List InputArtifact} (checking : run.stage = .checking answers artifacts) :
    Bounded limit (before ++ run.reserve answers artifacts
      (activeWorkspaceRunCount run.name (before ++ run :: after)) limit :: after) := by
  have waits : run.folder.Waits := by
    have sound := bounded.run_sound
    rwa [WorkspaceRun.Sound, checking] at sound
  obtain ⟨outcome, folder, ran, reserving⟩ := run_reserveCapacity answers
    (activeWorkspaceRunCount run.name (before ++ run :: after)) limit run.folder
  rw [WorkspaceRun.reserve, ran]
  by_cases admitted : outcome = .ok none
  · obtain ⟨rfl, count, counted, free⟩ := reserving.admitted admitted
    rw [count_others] at counted
    have covered := heldSlots_counted counted bounded.others
    apply bounded.replace
    · rfl
    · rw [admitted]
      exact follows_prepareAdmitted answers artifacts waits
    · intro _
      exact Or.inr (by omega)
  · have same : folder = run.folder := reserving.refused admitted
    subst same
    apply bounded.replace
    · rfl
    · cases outcome with
      | error interrupt => trivial
      | ok refusal =>
        cases refusal with
        | none => exact absurd rfl admitted
        | some failure => exact follows_refuseInput _ _ _ waits
    · exact Or.inl

omit [Sha256] in
/-- An action of an intake leaves a slot as it found it. -/
theorem bounded_prepare
    (bounded : Bounded limit (before ++ run :: after)) {label : PreparationAction}
    {update : RunFolder → RunFolder} {next : RunFolder → Preparation Unit}
    (working : run.stage = .working (.action label update next)) :
    Bounded limit (before ++ { run with
      folder := update run.folder, stage := .working (next run.folder) } :: after) := by
  have sound := bounded.run_sound
  rw [WorkspaceRun.Sound, working] at sound
  obtain ⟨_, ⟨reservation, ended⟩, later⟩ := sound run.folder .refl trivial trivial
  apply bounded.replace
  · rfl
  · exact later
  · rintro ⟨admitted, active⟩
    apply Or.inl
    exact ⟨reservation ▸ admitted, fun terminal => active (ended terminal)⟩

/-- A section leaves the bound unless it opens an ended run while all slots are taken. -/
theorem bounded_call (bounded : Bounded limit (before ++ run :: after)) {lockSection : LockSection}
    (roomy : Roomy limit lockSection run.folder (before ++ run :: after)) :
    Bounded limit (before ++ { run with folder := lockSection.leaves run.folder } :: after) := by
  have sound := bounded.run_sound
  apply bounded.replace
  · rfl
  · unfold WorkspaceRun.Sound at sound ⊢
    cases stage : run.stage with
    | checking answers artifacts =>
      simp only [stage] at sound ⊢
      exact lockSection.leaves_created sound
    | working rest =>
      simp only [stage] at sound ⊢
      exact Pool.keeps_rely sound lockSection.leaves_created
  · rintro ⟨admitted, active⟩
    rw [lockSection.leaves_reservation] at admitted
    by_cases ended : run.folder.phase ∈ RunPhase.terminal
    · apply Or.inr
      have free := roomy ((lockSection.leaves_opens ended).mp active) admitted
      rw [heldSlots_insert] at free
      omega
    · exact Or.inl ⟨admitted, ended⟩

/-- Each permitted step keeps the bound. -/
theorem bounded_step (bounded : Bounded budget.maxConcurrentRunsPerScope before)
    (step : WorkspaceStep budget (Roomy budget.maxConcurrentRunsPerScope) before after) :
    Bounded budget.maxConcurrentRunsPerScope after := by
  cases step with
  | create runs dir answers artifacts fresh created =>
    constructor
    · rw [map_append, nodup_append]
      refine ⟨bounded.distinct, nodup_singleton _, ?_⟩
      rintro name listed _ other rfl
      obtain rfl := mem_singleton.mp other
      exact fresh listed
    · intro run listed
      rcases mem_append.mp listed with listed | listed
      · exact bounded.sound run listed
      · obtain rfl := mem_singleton.mp listed
        exact created
    · have within := bounded.within
      have unheld := heldSlots_insert before []
        ⟨dir.state.runId, ⟨dir, [], budget, none, none⟩, .checking answers artifacts⟩
      rw [if_neg (by simp [Holds]), append_nil] at unheld
      rwa [unheld]
  | refuse before after run answers artifacts checking nextAction error =>
    have sound := bounded.run_sound
    rw [WorkspaceRun.Sound, checking] at sound
    apply bounded.replace
    · rfl
    · exact follows_refuseInput _ _ _ sound
    · exact Or.inl
  | reserve before after run answers artifacts checking => exact bounded_reserve bounded checking
  | prepare before after run label update next working => exact bounded_prepare bounded working
  | call before after run lockSection accepted => exact bounded_call bounded accepted

/-- An opening of an admitted run exceeds a capacity that is used up. -/
theorem crowded_call {lockSection : LockSection} (ended : run.folder.phase ∈ RunPhase.terminal)
    (crowded : ¬Roomy limit lockSection run.folder (before ++ run :: after)) :
    limit < heldSlots (before ++ { run with folder := lockSection.leaves run.folder } :: after) := by
  obtain ⟨reopens, crowded⟩ := Classical.not_imp.mp crowded
  obtain ⟨admitted, full⟩ := Classical.not_imp.mp crowded
  have opened : (lockSection.leaves run.folder).Holds := by
    refine ⟨?_, (lockSection.leaves_opens ended).mpr reopens⟩
    rwa [lockSection.leaves_reservation]
  have idle : ¬run.folder.Holds := fun holds => holds.2 ended
  have before_count := heldSlots_insert before after run
  have after_count := heldSlots_insert before after
    { run with folder := lockSection.leaves run.folder }
  rw [if_neg idle] at before_count
  rw [if_pos opened] at after_count
  omega

theorem bounded_reaches {runs : List WorkspaceRun}
    (reached : WorkspaceReaches budget (Roomy budget.maxConcurrentRunsPerScope) runs) :
    Bounded budget.maxConcurrentRunsPerScope runs := by
  induction reached with
  | refl => exact ⟨nodup_nil, fun _ listed => absurd listed not_mem_nil, Nat.zero_le _⟩
  | tail _ step ih => exact bounded_step ih step

/-- The slots of a workspace stay within its capacity in every run whose ended runs are opened only
while a slot is free, and every other opening of an admitted run exceeds it. -/
theorem workspace_capacity (budget : ResourceBudget) :
    (∀ runs, WorkspaceReaches budget (Roomy budget.maxConcurrentRunsPerScope) runs →
      heldSlots runs ≤ budget.maxConcurrentRunsPerScope) ∧
    ∀ (before after : List WorkspaceRun) (run : WorkspaceRun) (lockSection : LockSection),
      run.folder.phase ∈ RunPhase.terminal →
      ¬Roomy budget.maxConcurrentRunsPerScope lockSection run.folder (before ++ run :: after) →
      budget.maxConcurrentRunsPerScope <
        heldSlots (before ++ { run with folder := lockSection.leaves run.folder } :: after) := by
  constructor
  · intro runs reached
    exact (bounded_reaches reached).within
  · intro before after run lockSection ended crowded
    exact crowded_call ended crowded

/-- An intake that nothing interrupts goes on to its end. -/
theorem reaches_working {permitted : LockSection → RunFolder → List WorkspaceRun → Prop}
    (before after : List WorkspaceRun) (name : String) (rest : Preparation Unit)
    (folder : RunFolder) :
    ∃ ended, ReflTransGen (WorkspaceStep budget permitted)
      (before ++ ⟨name, folder, .working rest⟩ :: after)
      (before ++ ⟨name, (rest.run folder).2, .working ended⟩ :: after) := by
  induction rest generalizing folder with
  | done value => exact ⟨.done value, .refl⟩
  | fail error => exact ⟨.fail error, .refl⟩
  | action label update next ih =>
    obtain ⟨ended, reached⟩ := ih folder (update folder)
    exact ⟨ended, .head (.prepare before after ⟨name, folder, _⟩ label update next rfl) reached⟩

end

section
attribute [local instance] Engine.recorded Sha256.polynomial
open RunFolder

def IntakeAnswers.undisturbed : IntakeAnswers where
  action _ := .ok ()
  copied _ := .ok 1
  digest _ := .ok "digest"
  now := ""
  normalization := .undisturbed
  extraction := .undisturbed

/-- A run directory before its admission. -/
def RunDir.named (runId : String) : RunDir :=
  { RunDir.extracted with state := ⟨runId, .created, 0, none, none, none, none, 1⟩ }

/-- A run is made in a workspace whose budget has one slot. -/
def WorkspaceRun.created (runId : String) : WorkspaceRun :=
  ⟨runId, ⟨.named runId, [], RunFolder.single.budget, none, none⟩,
    .checking .undisturbed [⟨".png", "image", "digest"⟩]⟩

/-- The run is admitted beside other runs, and its intake is undisturbed. -/
def WorkspaceRun.admitted (others : List WorkspaceRun) (runId : String) : WorkspaceRun :=
  (created runId).reserve .undisturbed [⟨".png", "image", "digest"⟩]
    (activeWorkspaceRunCount runId (others ++ [created runId])) 1

/-- The first run fails its normalization. -/
def WorkspaceRun.failed (rest : Preparation Unit) : WorkspaceRun :=
  ⟨"run-1", (LockSection.normalize failingNormalization).leaves
    ((prepareAdmitted .undisturbed [⟨".png", "image", "digest"⟩] false).run
      (WorkspaceRun.admitted [] "run-1").folder).2, .working rest⟩

/-- A failed run that is normalized again takes a slot that another run holds. -/
theorem workspace_overbooked : ¬∀ (budget : ResourceBudget) (runs : List WorkspaceRun),
    WorkspaceReaches budget (fun _ _ _ => True) runs →
    heldSlots runs ≤ budget.maxConcurrentRunsPerScope := by
  intro claim
  let budget := RunFolder.single.budget
  let reaches := WorkspaceReaches budget (fun _ _ _ => True)
  have created : reaches [.created "run-1"] := .single (.create [] (.named "run-1") _ _ nofun rfl)
  have admitted : reaches [.admitted [] "run-1"] :=
    created.tail (.reserve [] [] (.created "run-1") _ _ rfl)
  obtain ⟨rest, prepared⟩ := @reaches_working _ _ budget (fun _ _ _ => True) [] [] "run-1"
    (prepareAdmitted .undisturbed [⟨".png", "image", "digest"⟩] false)
    (WorkspaceRun.admitted [] "run-1").folder
  have failed : reaches [.failed rest] := (admitted.trans prepared).tail
    (.call [] [] ⟨"run-1", _, _⟩ (.normalize failingNormalization) trivial)
  have joined : reaches [.failed rest, .created "run-2"] := by
    apply failed.tail
    exact .create [.failed rest] (.named "run-2") _ _
      (by simp [WorkspaceRun.failed, RunDir.named]) rfl
  have both : reaches [.failed rest, .admitted [.failed rest] "run-2"] :=
    joined.tail (.reserve [.failed rest] [] (.created "run-2") _ _ rfl)
  have overbooked := claim budget _ (both.tail
    (.call [] _ (.failed rest) (.normalize .undisturbed) trivial))
  have held : heldSlots [{ WorkspaceRun.failed rest with
      folder := (LockSection.normalize .undisturbed).leaves (WorkspaceRun.failed rest).folder },
      .admitted [.failed rest] "run-2"] = 2 := rfl
  exact absurd (held ▸ overbooked : 2 ≤ 1) (by decide)

end
end KSlide
