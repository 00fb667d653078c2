import KSlide.Errors
import KSlide.Text.Enumeration

/-
This file gives the phases of a run and the transitions between them.
-/

namespace KSlide

inductive RunPhase where
  | created | inputValidated | normalizing | normalized | extracting | extracted | translating
  | translated | verifying | failRepairable | repairing | needsReview | verified | complete
  | failedInput | failedRuntime | failedNormalization | failedExtraction | failedSchema
  | failedInternal
deriving DecidableEq, Repr

instance : Text.Enumeration RunPhase where
  value
    | .created => "CREATED"
    | .inputValidated => "INPUT_VALIDATED"
    | .normalizing => "NORMALIZING"
    | .normalized => "NORMALIZED"
    | .extracting => "EXTRACTING"
    | .extracted => "EXTRACTED"
    | .translating => "TRANSLATING"
    | .translated => "TRANSLATED"
    | .verifying => "VERIFYING"
    | .failRepairable => "FAIL_REPAIRABLE"
    | .repairing => "REPAIRING"
    | .needsReview => "NEEDS_REVIEW"
    | .verified => "VERIFIED"
    | .complete => "COMPLETE"
    | .failedInput => "FAILED_INPUT"
    | .failedRuntime => "FAILED_RUNTIME"
    | .failedNormalization => "FAILED_NORMALIZATION"
    | .failedExtraction => "FAILED_EXTRACTION"
    | .failedSchema => "FAILED_SCHEMA"
    | .failedInternal => "FAILED_INTERNAL"
  all := [.created, .inputValidated, .normalizing, .normalized, .extracting, .extracted,
    .translating, .translated, .verifying, .failRepairable, .repairing, .needsReview, .verified,
    .complete, .failedInput, .failedRuntime, .failedNormalization, .failedExtraction,
    .failedSchema, .failedInternal]

namespace RunPhase

def value (phase : RunPhase) : String := Text.Enumeration.value phase

/-- A phase without an entry allows no move. -/
def allowed : RunPhase → List RunPhase
  | created => [inputValidated, failedInput, failedRuntime]
  | inputValidated => [normalizing, normalized, failedNormalization, failedRuntime]
  | normalizing => [normalized, failedNormalization, failedRuntime]
  | normalized => [extracting, extracted, failedExtraction, failedRuntime]
  | extracting => [extracted, failedExtraction, failedRuntime]
  | extracted => [translating, failedRuntime]
  | translating =>
    [translating, translated, verifying, repairing, failRepairable, needsReview, failedSchema]
  | translated => [translating, verifying, failedSchema]
  | verifying => [verified, failRepairable, needsReview, failedInternal]
  | failRepairable => [repairing, needsReview, verifying]
  | repairing => [translating, verifying, needsReview, failedSchema]
  | needsReview => [repairing, verifying, failedSchema]
  | verified => [complete, repairing, verifying, needsReview]
  | complete => [verifying, repairing, complete]
  | failedNormalization => [normalizing, failedNormalization, failedRuntime]
  | failedExtraction => [extracting, failedExtraction, failedRuntime]
  | failedInput | failedRuntime | failedSchema | failedInternal => []

def operationalFailures : List RunPhase :=
  [failedInput, failedRuntime, failedNormalization, failedExtraction, failedSchema, failedInternal]

/-- A run in a terminal phase gives its slot back. -/
def terminal : List RunPhase :=
  [complete, failedInput, failedRuntime, failedNormalization, failedExtraction, failedSchema,
    failedInternal]

end RunPhase

structure RunState where
  runId : String
  phase : RunPhase
  inputCount : Nat
  currentWorkUnit : Option String
  nextAction : Option String
  errorCode : Option String
  errorMessage : Option String
  revision : Nat
deriving DecidableEq

namespace RunState

/-- A move to the phase of the state changes nothing. -/
def transition (state : RunState) (target : RunPhase) (nextAction : Option String)
    (errorCode errorMessage : Option String) : Except Raised RunState :=
  if target = state.phase then .ok state
  else if target ∈ state.phase.allowed then
    .ok { state with phase := target, nextAction, errorCode, errorMessage }
  else .error (.kslide ⟨.invalidTransition,
    s!"Cannot move run from {state.phase.value} to {target.value}.",
    [("run_id", .str state.runId), ("from", .str state.phase.value), ("to", .str target.value)]⟩)

/-- A saved state counts its revision. -/
def saved (state : RunState) : RunState := { state with revision := state.revision + 1 }

variable {state after : RunState} {target : RunPhase}
  {nextAction errorCode errorMessage : Option String}

theorem transition_ok : state.transition target nextAction errorCode errorMessage = .ok after ↔
      (target = state.phase ∧ after = state) ∨
      (target ≠ state.phase ∧ target ∈ state.phase.allowed ∧
        after = { state with phase := target, nextAction, errorCode, errorMessage }) := by
  unfold transition
  split_ifs <;> simp_all [eq_comm]

/-- A move to another phase that the table has succeeds. -/
theorem transition_allowed (state : RunState) (target : RunPhase) (nextAction : Option String)
    (other : state.phase ≠ target) (allowed : target ∈ state.phase.allowed) :
    state.transition target nextAction none none = .ok
      { state with phase := target, nextAction, errorCode := none, errorMessage := none } :=
  transition_ok.mpr (Or.inr ⟨Ne.symm other, allowed, rfl⟩)

/-- A permitted move ends in its target. -/
theorem transition_phase
    (moved : state.transition target nextAction errorCode errorMessage = .ok after) :
    after.phase = target := by
  rcases transition_ok.mp moved with ⟨rfl, rfl⟩ | ⟨_, _, rfl⟩ <;> rfl

/-- A move that the table refuses raises. -/
theorem transition_refused {state : RunState} {target : RunPhase}
    {nextAction errorCode errorMessage : Option String} (other : target ≠ state.phase)
    (refused : target ∉ state.phase.allowed) :
    state.transition target nextAction errorCode errorMessage = .error (.kslide
      ⟨.invalidTransition, s!"Cannot move run from {state.phase.value} to {target.value}.",
        [("run_id", .str state.runId), ("from", .str state.phase.value),
          ("to", .str target.value)]⟩) := by
  rw [transition, if_neg other, if_neg refused]

end RunState
end KSlide
