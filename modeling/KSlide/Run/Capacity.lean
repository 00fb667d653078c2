import KSlide.Run.Outcome
import KSlide.Run.Restart
import KSlide.Run.Submission

/-
This file gives the slots of a workspace and the phases that the calls of its engine leave.
-/

namespace KSlide
open Interleaving

namespace RunPhase

/-- The phases from which no host call moves a run. -/
def inert : List RunPhase := RunDir.preparing ++ operationalFailures

theorem inert_terminal {phase : RunPhase} (ended : phase ∈ terminal) :
    phase = complete ∨ phase ∈ inert := by
  revert phase
  decide

end RunPhase

section
variable [Engine]

namespace RunFolder

/-- The run holds an admitted slot until it ends. -/
def Holds (folder : RunFolder) : Prop :=
  folder.reservation.any (·.status == "admitted") = true ∧ folder.phase ∉ RunPhase.terminal

instance (folder : RunFolder) : Decidable folder.Holds := inferInstanceAs (Decidable (_ ∧ _))

/-- A run without a reservation counts once it was accepted. -/
def slots (folder : RunFolder) : Except Raised Nat :=
  if folder.phase ∈ RunPhase.terminal then .ok 0
  else
    match folder.reservation with
    | some reservation =>
      if reservation.status = "admitted" ∧ reservation.runId = folder.dir.state.runId then .ok 1
      else .error (.kslide ⟨.capacityLimit, "Workspace run capacity state is incomplete.", []⟩)
    | none => .ok (if folder.phase = .created then 0 else 1)

theorem slots_holds {folder : RunFolder} {count : Nat} (counted : folder.slots = .ok count)
    (holds : folder.Holds) : count = 1 := by
  obtain ⟨admitted, active⟩ := holds
  rw [slots, if_neg active] at counted
  cases reserved : folder.reservation with
  | none => simp [reserved] at admitted
  | some reservation =>
    simp only [reserved] at counted
    split_ifs at counted
    exact (Except.ok.inj counted).symm

end RunFolder

namespace RunDir
open Program
variable [Sha256]

omit [Sha256] in
theorem run_ignored {Result : Type} (operation : Operation Result) (dir : RunDir) :
    ((do let _ ← operation : Operation Unit).run dir).2 = (operation.run dir).2 := by
  rw [run_bind]
  rcases operation.run dir with ⟨_ | _, _⟩ <;> rfl

omit [Sha256] in
/-- A call for the next unit that plans no change leaves the run unchanged. -/
theorem next_unplanned {dir : RunDir}
    (unplanned : ∀ result queue state, dir.planNext ≠ .ok (result, some (queue, state))) :
    (next.run dir).2 = dir := by
  unfold next
  rw [run_bind_ok (run_look dir), run_bind, run_lift]
  rcases planned : dir.planNext with error | ⟨result, _ | ⟨queue, state⟩⟩
  · rfl
  · rfl
  · exact absurd planned (unplanned result queue state)

omit [Sha256] in
/-- A submission outside of the translation leaves the state of the run. -/
theorem submit_state {dir : RunDir} (payload : String) (early : dir.state.phase ∉ submissible) :
    ((submit payload).run dir).2.state = dir.state := by
  have refused : ∃ error after, (submit payload).run dir = (.error error, after) ∧
      Unchanged dir after := by
    apply submit_refused
    intro patch submission _ checked
    exact absurd (checkSubmission_ok checked).2.2 early
  obtain ⟨error, after, ran, unchanged⟩ := refused
  rw [ran]
  exact unchanged.state

/-- A host call before the translation or after a failure leaves the phase. -/
theorem phase_inert {dir : RunDir} (call : HostCall) (inert : dir.state.phase ∈ RunPhase.inert) :
    (call.operation.run dir).2.state.phase = dir.state.phase := by
  have still : ∀ phase ∈ RunPhase.inert, phase ∉ submissible ∧ phase ≠ .complete ∧
      phase ∉ verifiable ∧ phase ≠ .verifying ∧ RunPhase.verifying ∉ phase.allowed ∧
      (phase ∈ RunPhase.operationalFailures ∨ phase ∈ preparing) := by
    decide
  obtain ⟨unsubmissible, incomplete, unverifiable, waiting, forbidden, early⟩ := still _ inert
  cases call with
  | next =>
    rw [HostCall.operation, run_ignored, next_unplanned]
    intro result queue state planned
    obtain ⟨unsettled, late, _⟩ := planNext_ok planned
    exact early.elim (fun failed => unsettled (Or.inl failed)) late
  | submit payload => rw [HostCall.operation, run_ignored, submit_state payload unsubmissible]
  | verifyRun =>
    rw [HostCall.operation, run_ignored]
    cases fits : dir.compatible with
    | error error =>
      obtain ⟨_, ran⟩ := run_verifyRun_refused (Or.inl ⟨error, fits⟩)
      rw [ran]
    | ok value =>
      cases unfenced : dir.mutationGuard with
      | error error =>
        obtain ⟨_, ran⟩ := run_verifyRun_refused (Or.inr ⟨error, unfenced⟩)
        rw [ran]
      | ok value =>
        rw [run_verifyRun fits unfenced, if_neg (by simp [incomplete, unverifiable])]
        rfl
  | finalizeRun =>
    have unpermitted : ¬dir.permitsVerifying := by simp [permitsVerifying, waiting, forbidden]
    obtain ⟨error, ran⟩ := run_finalizeRun_refused (Or.inr (Or.inr unpermitted))
    rw [HostCall.operation, run_ignored, ran]

omit [Sha256] in
/-- A complete run is only opened by a verification or a finalization. -/
theorem phase_complete {dir : RunDir} (complete : dir.state.phase = .complete) :
    (next.run dir).2.state.phase = .complete ∧
      ∀ payload, ((submit payload).run dir).2.state.phase = .complete := by
  constructor
  · rw [next_unplanned, complete]
    intro result queue state planned
    exact (planNext_ok planned).1 (Or.inr (Or.inl complete))
  · intro payload
    rw [submit_state payload (by rw [complete]; decide), complete]

end RunDir
/-- An operation of the engine on a run. -/
inductive EngineCall where
  | prepare (call : PreparationCall)
  | host (call : HostCall)

namespace EngineCall
variable [Sha256]

/-- The run directory that a call leaves, however the call ends. -/
def leaves : EngineCall → RunFolder → RunFolder
  | prepare call, folder => call.leaves folder
  | host call, folder => { folder with dir := (call.operation.run folder.dir).2 }

end EngineCall

namespace RunFolder
variable [Sha256]

/-- Operations of the engine follow each other. -/
def operate (calls : List EngineCall) (folder : RunFolder) : RunFolder :=
  calls.foldl (fun folder call => call.leaves folder) folder

/-- Some operations of the engine end the run. -/
def Finishes (folder : RunFolder) : Prop :=
  ∃ calls, (folder.operate calls).phase ∈ RunPhase.terminal

/-- The phases in which a run is neither prepared nor called by its host. -/
def Wedged (folder : RunFolder) : Prop := folder.phase = .created ∨ folder.phase = .normalizing

variable {folder : RunFolder}

/-- No operation moves a wedged run. -/
theorem wedged_leaves (wedged : Wedged folder) (call : EngineCall) :
    (call.leaves folder).phase = folder.phase := by
  cases call with
  | prepare call =>
    cases call with
    | normalize answers =>
      change ((normalizeRun answers).run folder).2.phase = folder.phase
      rw [run_normalizeRun_idle]
      intro works
      rcases wedged with phase | phase <;> exact absurd works.phase (phase ▸ by decide)
    | extract answers =>
      change ((extractRun answers).run folder).2.phase = folder.phase
      rw [run_extractRun_idle]
      · rcases wedged with phase | phase <;> simp [phase]
      · rcases wedged with phase | phase <;> simp [phase]
  | host call =>
    apply RunDir.phase_inert
    change folder.phase ∈ RunPhase.inert
    rcases wedged with phase | phase <;> rw [phase] <;> decide

theorem wedged_operate (wedged : Wedged folder) (calls : List EngineCall) :
    (folder.operate calls).phase = folder.phase := by
  induction calls generalizing folder with
  | nil => rfl
  | cons call calls ih =>
    have same := wedged_leaves wedged call
    have still : Wedged (call.leaves folder) := by
      unfold Wedged
      rw [same]
      exact wedged
    exact (ih still).trans same

/-- A wedged run keeps its slot. -/
theorem wedged_unfinished (wedged : Wedged folder) : ¬folder.Finishes := by
  rintro ⟨calls, ended⟩
  rw [wedged_operate wedged] at ended
  rcases wedged with phase | phase <;> exact absurd ended (phase ▸ by decide)

/-- The environment fails one action. -/
def failingAt (failed : PreparationAction) (action : PreparationAction) : Answer Raised Unit :=
  if action = failed then .error (.raised (.other "OSError")) else .ok ()

def failingNormalization : NormalizeAnswers where
  action := failingAt .readSnapshots
  decodeImage _ := .error .crashed
  pageCount _ := .error .crashed
  renderPage _ _ := .error .crashed
  slideCount _ := .error .crashed
  renderSlides _ := .error .crashed
  presentationSlides _ := .error .crashed
  now := ""

def failingExtraction : ExtractAnswers where
  action := failingAt .readNormalization
  evidence _ := .error .crashed
  now := ""

/-- A run whose inputs are validated can fail its normalization. -/
theorem finishes_validated (validated : folder.phase = .inputValidated) : folder.Finishes := by
  have works : Normalizes failingNormalization folder :=
    ⟨rfl, rfl, by simp [validated], rfl⟩
  have failed : normalizationWork failingNormalization folder =
      .error (.raised (.other "OSError")) := rfl
  obtain ⟨outcome, after, ran, _, reached, _⟩ := run_normalizeRun works
  refine ⟨[.prepare (.normalize failingNormalization)], ?_⟩
  change ((normalizeRun failingNormalization).run folder).2.phase ∈ RunPhase.terminal
  rw [ran, reached, failed]
  decide

/-- A run whose documents are normalized can fail its extraction. -/
theorem finishes_normalized
    (normalized : folder.phase = .normalized ∨ folder.phase = .extracting) : folder.Finishes := by
  have works : Extracts failingExtraction folder := ⟨rfl, rfl, normalized, Or.inr rfl⟩
  have raised : extractionWork failingExtraction folder = .error (.raised (.other "OSError")) := rfl
  have fails : FailsExtraction failingExtraction folder :=
    ⟨Or.inr ⟨works, _, raised⟩, ⟨rfl, rfl, rfl⟩⟩
  have ends := run_extractRun failingExtraction folder
  refine ⟨[.prepare (.extract failingExtraction)], ?_⟩
  change ((extractRun failingExtraction).run folder).2.phase ∈ RunPhase.terminal
  generalize ((extractRun failingExtraction).run folder).2 = after at ends
  cases ends with
  | idle idle => exact absurd works idle
  | extracted after _ unfailed => exact absurd fails unfailed
  | interrupted after _ _ _ unfailed => exact absurd fails unfailed
  | failed after _ reached =>
    rw [reached]
    decide

end RunFolder

end
end KSlide
