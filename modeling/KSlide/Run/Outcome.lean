import KSlide.Run.Operations

/-
This file says how a verification and a finalization end.
-/

namespace KSlide
open Interleaving Program List

namespace RunDir
open CompletionPolicy
variable [Engine]

/-- A verification of a complete run takes its marker away. -/
def opened (dir : RunDir) (action : String) : RunDir :=
  if dir.state.phase = .verifying then dir
  else
    { dir with
      documents := if dir.state.phase = .complete then dir.documents.erase completionMarker
        else dir.documents
      state := RunState.saved { dir.state with
        phase := .verifying, nextAction := some action, errorCode := none, errorMessage := none } }

def rendered (dir : RunDir) : Except Raised RunDir :=
  if dir.contents.canonical.keys = [] then .ok dir
  else (Engine.render dir.contents dir.queue).map dir.withReports

def verificationReport (result : VerificationResult) : String :=
  "\n".intercalate (verificationLines result)

def withVerification (dir : RunDir) (result : VerificationResult) : RunDir :=
  { dir with summary := some result }.withDocument "06_verification.md" (verificationReport result)

variable (dir : RunDir) (action : String)

@[simp] theorem opened_mutationGuard : (dir.opened action).mutationGuard = dir.mutationGuard := by
  unfold opened
  split_ifs <;> rfl

@[simp] theorem opened_compatible : (dir.opened action).compatible = dir.compatible := by
  unfold opened
  split_ifs <;> rfl

@[simp] theorem opened_bound : (dir.opened action).bound = dir.bound := by
  unfold opened
  split_ifs <;> rfl

@[simp] theorem opened_queue : (dir.opened action).queue = dir.queue := by
  unfold opened
  split_ifs <;> rfl

@[simp] theorem opened_contents : (dir.opened action).contents = dir.contents := by
  unfold opened
  split_ifs <;> rfl

theorem opened_phase : (dir.opened action).state.phase = .verifying := by
  by_cases verifying : dir.state.phase = .verifying
  · rw [opened, if_pos verifying, verifying]
  · rw [opened, if_neg verifying, RunState.saved]

theorem opened_currentWorkUnit :
    (dir.opened action).state.currentWorkUnit = dir.state.currentWorkUnit := by
  unfold opened
  split_ifs <;> rfl

/-- The reports change nothing but the documents, and they are no marker. -/
structure Rendered (dir seen : RunDir) : Prop where
  state : seen.state = dir.state
  queue : seen.queue = dir.queue
  contents : seen.contents = dir.contents
  marked : seen.marked ↔ dir.marked
  compatible : seen.compatible = dir.compatible
  bound : seen.bound = dir.bound
  mutationGuard : seen.mutationGuard = dir.mutationGuard

theorem rendered_kept {dir seen : RunDir} (found : dir.rendered = .ok seen) :
    Rendered dir seen := by
  unfold rendered at found
  split_ifs at found
  · cases found
    exact ⟨rfl, rfl, rfl, Iff.rfl, rfl, rfl, rfl⟩
  · cases made : Engine.render dir.contents dir.queue with
    | error error => simp [made, Except.map] at found
    | ok reports =>
      simp only [made, Except.map, Except.ok.injEq] at found
      subst found
      refine ⟨rfl, rfl, rfl, ?_, rfl, rfl, rfl⟩
      simp only [withReports, withDocument, AList.mem_insert, marked]
      simp [completionMarker]

theorem run_renderTranslated {dir : RunDir} (unfenced : dir.mutationGuard = .ok ()) :
    renderTranslated.run dir =
      match dir.rendered with
      | .ok seen => (.ok (), seen)
      | .error error => (.error error, dir) := by
  unfold renderTranslated rendered
  rw [run_bind_ok (run_look dir)]
  split_ifs
  · rfl
  · rw [run_renderRun unfenced]
    cases Engine.render dir.contents dir.queue <;> rfl

theorem run_persistVerification (unfenced : dir.mutationGuard = .ok ())
    (result : VerificationResult) :
    (persistVerification result).run dir = (.ok (), dir.withVerification result) := by
  simp only [persistVerification, writeDocument, run_bind, run_guarded, unfenced,
    withVerification, verificationReport]

theorem run_saveState (unfenced : dir.mutationGuard = .ok ()) (state : RunState) :
    (saveState state).run dir = (.ok state.saved, { dir with state := state.saved }) := by
  simp only [saveState, run_bind, run_guarded, unfenced, run_pure]

theorem run_reopen {dir : RunDir} (unfenced : dir.mutationGuard = .ok ())
    (complete : dir.state.phase = .complete) :
    (reopen dir.state).run dir =
      (.ok (dir.opened "Re-verifying current artifacts").state,
        dir.opened "Re-verifying current artifacts") := by
  have moved := dir.state.transition_allowed .verifying (some "Re-verifying current artifacts")
    (by simp [complete]) (by simp [complete, RunPhase.allowed])
  simp only [reopen, unlinkMarker, run_bind, run_guarded, unfenced, moved, run_lift, saveState,
    run_pure, opened, complete, reduceCtorEq, ↓reduceIte]

theorem run_startFinalization {dir : RunDir} (unfenced : dir.mutationGuard = .ok ())
    (permitted : dir.state.phase = .verifying ∨ RunPhase.verifying ∈ dir.state.phase.allowed) :
    (startFinalization dir.state).run dir =
      (.ok (), dir.opened "Re-verifying current artifacts") := by
  unfold startFinalization
  split_ifs with complete verifying
  · rw [run_bind_ok (run_reopen unfenced complete)]
    rfl
  · rw [opened, if_pos verifying]
    rfl
  · have moved := dir.state.transition_allowed .verifying
      (some "Re-verifying current artifacts") verifying (permitted.resolve_left verifying)
    simp only [run_bind, run_lift, moved, run_saveState dir unfenced, run_pure, opened, verifying,
      complete, ↓reduceIte]

section
variable [Sha256]

/-- The state after the verdict of a verification. -/
def verdictState (state : RunState) (passed : Bool) : RunState :=
  if passed then
    { state with
      phase := .verified, nextAction := some "Finalize after current verification"
      errorCode := none, errorMessage := none }
  else
    { state with
      phase := .failRepairable, nextAction := some "Repair exact verification targets"
      errorCode := none, errorMessage := none }

/-- The run after a verification that saw its reports. -/
def judged (seen : RunDir) : RunDir :=
  { seen with
    queue := judgedQueue seen.queue seen.verifyUnlocked
    state := (verdictState seen.state seen.verifyUnlocked.passed).saved }.withVerification
      seen.verifyUnlocked

omit [Engine] [Sha256] in
theorem verdictState_moves {state : RunState} (verifying : state.phase = .verifying)
    (passed : Bool) :
    (if passed then
        state.transition .verified (some "Finalize after current verification") none none
      else state.transition .failRepairable (some "Repair exact verification targets") none none) =
      .ok (verdictState state passed) := by
  unfold verdictState
  cases passed with
  | true =>
    rw [if_pos rfl, if_pos rfl]
    exact state.transition_allowed .verified _ (by simp [verifying])
      (by simp [verifying, RunPhase.allowed])
  | false =>
    rw [if_neg (by decide), if_neg (by decide)]
    exact state.transition_allowed .failRepairable _ (by simp [verifying])
      (by simp [verifying, RunPhase.allowed])

variable {dir : RunDir}

theorem run_concludeVerification (unfenced : dir.mutationGuard = .ok ())
    (verifying : dir.state.phase = .verifying) :
    (concludeVerification dir.state).run dir =
      match dir.rendered with
      | .ok seen => (.ok seen.verifyUnlocked, seen.judged)
      | .error error => (.error error, dir) := by
  unfold concludeVerification
  have ran := run_renderTranslated unfenced
  cases found : dir.rendered with
  | error error =>
    rw [found] at ran
    rw [run_bind_error ran]
  | ok seen =>
    rw [found] at ran
    rw [run_bind_ok ran, run_bind_ok (run_look _)]
    have state : seen.state = dir.state := (rendered_kept found).state
    have open_ : seen.mutationGuard = .ok () := (rendered_kept found).mutationGuard ▸ unfenced
    have moved := verdictState_moves (state ▸ verifying) seen.verifyUnlocked.passed
    have kept (queue : WorkQueue) (handler : Raised → Operation Unit) :
        (tryCatch (saveQueue queue) handler).run seen = (.ok (), { seen with queue }) := by
      rw [run_tryCatch, saveQueue, run_guarded_open open_]
    rw [run_bind_ok (kept _ _), run_bind, run_lift, ← state, moved]
    dsimp only
    rw [run_bind_ok (run_saveState { seen with
        queue := judgedQueue seen.queue seen.verifyUnlocked } open_ _),
      run_bind_ok (run_persistVerification { seen with
        queue := judgedQueue seen.queue seen.verifyUnlocked
        state := (verdictState seen.state seen.verifyUnlocked.passed).saved } open_ _)]
    rfl

/-- A fenced or foreign run is left as it is. -/
theorem run_verifyRun_refused
    (refused : (∃ error, dir.compatible = .error error) ∨ ∃ error, dir.mutationGuard = .error error) :
    ∃ error, verifyRun.run dir = (.error error, dir) := by
  unfold verifyRun
  rw [run_bind_ok (run_look dir), run_bind, run_lift]
  cases fits : dir.compatible with
  | error error => exact ⟨error, rfl⟩
  | ok fitting =>
    obtain ⟨error, fenced⟩ := refused.resolve_left (by simp [fits])
    refine ⟨error, ?_⟩
    dsimp only
    split_ifs with complete verifying
    · simp only [reopen, unlinkMarker, run_bind, run_guarded, fenced]
    · have moved : ∃ moved, dir.state.transition .verifying
          (some "Deterministic verification in progress") none none = .ok moved := by
        simp only [verifiable, mem_cons, not_mem_nil, or_false] at verifying
        refine ⟨_, dir.state.transition_allowed .verifying _ ?_ ?_⟩ <;>
          rcases verifying with phase | phase | phase | phase | phase <;>
            simp [phase, RunPhase.allowed]
      obtain ⟨moved, movement⟩ := moved
      simp only [run_bind, run_lift, movement, saveState, run_guarded, fenced]
    · simp only [persistVerification, run_bind, run_guarded, fenced]

def verifyAction (dir : RunDir) : String :=
  if dir.state.phase = .complete then "Re-verifying current artifacts"
  else "Deterministic verification in progress"

theorem run_verifyRun (fits : dir.compatible = .ok ()) (unfenced : dir.mutationGuard = .ok ()) :
    verifyRun.run dir =
      if dir.state.phase = .complete ∨ dir.state.phase ∈ verifiable then
        let begun := dir.opened dir.verifyAction
        match begun.rendered with
        | .ok seen => (.ok seen.verifyUnlocked, seen.judged)
        | .error error => (.error error, begun)
      else (.ok dir.phaseNotVerifiable, dir.withVerification dir.phaseNotVerifiable) := by
  unfold verifyRun
  rw [run_bind_ok (run_look dir), run_bind, run_lift, fits]
  dsimp only
  by_cases complete : dir.state.phase = .complete
  · rw [if_pos complete, if_pos (Or.inl complete), verifyAction, if_pos complete,
      run_bind_ok (run_reopen unfenced complete),
      run_concludeVerification (by simpa using unfenced) (opened_phase _ _)]
  · by_cases verifying : dir.state.phase ∈ verifiable
    · rw [if_neg complete, if_pos verifying, if_pos (Or.inr verifying), verifyAction,
        if_neg complete]
      have other : dir.state.phase ≠ .verifying := by
        intro same
        simp [verifiable, same] at verifying
      have allowed : RunPhase.verifying ∈ dir.state.phase.allowed := by
        simp only [verifiable, mem_cons, not_mem_nil, or_false] at verifying
        rcases verifying with phase | phase | phase | phase | phase <;> rw [phase] <;> decide
      have moved := dir.state.transition_allowed .verifying
        (some "Deterministic verification in progress") other allowed
      have begun : (saveState { dir.state with
          phase := .verifying, nextAction := some "Deterministic verification in progress"
          errorCode := none, errorMessage := none }).run dir =
          (.ok (dir.opened "Deterministic verification in progress").state,
            dir.opened "Deterministic verification in progress") := by
        rw [run_saveState dir unfenced, opened, if_neg other, if_neg complete]
      rw [run_bind, run_lift, moved]
      dsimp only
      rw [run_bind_ok begun, run_concludeVerification (by simpa using unfenced) (opened_phase _ _)]
    · rw [if_neg complete, if_neg verifying, if_neg (by simp [complete, verifying]),
        run_bind_ok (run_persistVerification dir unfenced _)]
      rfl

def permitsVerifying (dir : RunDir) : Prop :=
  dir.state.phase = .verifying ∨ RunPhase.verifying ∈ dir.state.phase.allowed

instance (dir : RunDir) : Decidable dir.permitsVerifying := inferInstanceAs (Decidable (_ ∨ _))

omit [Sha256] in
theorem run_startFinalization_refused (other : dir.state.phase ≠ .verifying)
    (refused : (∃ error, dir.mutationGuard = .error error) ∨ ¬dir.permitsVerifying) :
    ∃ error, (startFinalization dir.state).run dir = (.error error, dir) := by
  unfold startFinalization
  rw [if_neg other]
  by_cases complete : dir.state.phase = .complete
  · rw [if_pos complete]
    rcases refused with ⟨error, fenced⟩ | refused
    · exact ⟨error, by simp only [reopen, unlinkMarker, run_bind, run_guarded, fenced]⟩
    · exact absurd (Or.inr (by rw [complete]; decide)) refused
  · rw [if_neg complete]
    by_cases allowed : RunPhase.verifying ∈ dir.state.phase.allowed
    · obtain ⟨error, fenced⟩ := refused.resolve_right (not_not.mpr (Or.inr allowed))
      have moved := dir.state.transition_allowed .verifying
        (some "Re-verifying current artifacts") other allowed
      exact ⟨error, by simp only [run_bind, run_lift, moved, saveState, run_guarded, fenced]⟩
    · have moved : dir.state.transition .verifying (some "Re-verifying current artifacts") none
          none = .error _ := RunState.transition_refused (Ne.symm other) allowed
      exact ⟨_, by simp only [run_bind, run_lift, moved]; rfl⟩

omit [Sha256] in
/-- A fenced run keeps its reports. -/
theorem run_renderTranslated_fenced {error : Raised} (fenced : dir.mutationGuard = .error error) :
    ∃ result, renderTranslated.run dir = (result, dir) := by
  unfold renderTranslated
  rw [run_bind_ok (run_look dir)]
  split_ifs
  · exact ⟨_, rfl⟩
  · unfold renderRun
    rw [run_bind_ok (run_look dir), run_bind, run_lift]
    cases Engine.render dir.contents dir.queue with
    | error failed => exact ⟨_, rfl⟩
    | ok reports => exact ⟨_, by simp only [writeDocument, run_bind, run_guarded, fenced]; rfl⟩

/-- A finalization of a fenced or foreign run or from another phase leaves the run as it is. -/
theorem run_finalizeRun_refused (refused : (∃ error, dir.compatible = .error error) ∨
      (∃ error, dir.mutationGuard = .error error) ∨ ¬dir.permitsVerifying) :
    ∃ error, finalizeRun.run dir = (.error error, dir) := by
  cases fits : dir.compatible with
  | error error =>
    refine ⟨error, ?_⟩
    have stopped : reverify.run dir = (.error error, dir) := by
      simp only [reverify, run_bind, run_look, run_lift, fits]
    rw [finalizeRun, run_bind_error stopped]
  | ok fitting =>
    have refused := refused.resolve_left (by simp [fits])
    by_cases other : dir.state.phase = .verifying
    · obtain ⟨error, fenced⟩ := refused.resolve_right (not_not.mpr (Or.inl other))
      obtain ⟨result, rendering⟩ := run_renderTranslated_fenced fenced
      have started : (startFinalization dir.state).run dir = (.ok (), dir) := by
        rw [startFinalization, if_neg (by simp [other]), if_pos other]
        rfl
      cases result with
      | error failed =>
        refine ⟨failed, ?_⟩
        have stopped : reverify.run dir = (.error failed, dir) := by
          simp only [reverify, run_bind, run_look, run_lift, fits, started, rendering]
        rw [finalizeRun, run_bind_error stopped]
      | ok done =>
        refine ⟨error, ?_⟩
        have verified : reverify.run dir = (.ok dir.verifyUnlocked, dir) := by
          simp only [reverify, run_bind, run_look, run_lift, fits, started, rendering, run_pure]
        rw [finalizeRun, run_bind_ok verified]
        simp only [persistVerification, run_bind, run_guarded, fenced]
    · obtain ⟨error, stopped⟩ := run_startFinalization_refused other refused
      refine ⟨error, ?_⟩
      have stopped : reverify.run dir = (.error error, dir) := by
        simp only [reverify, run_bind, run_look, run_lift, fits, stopped]
      rw [finalizeRun, run_bind_error stopped]

/-- The run after a finalization that passed its verification. -/
def completed (dir : RunDir) : RunDir :=
  { dir.withDocument completionMarker markerText with
    state := RunState.saved { dir.state with
      phase := .complete, nextAction := none, errorCode := none, errorMessage := none } }

/-- The run after a finalization that failed its verification. -/
def refused (dir : RunDir) : RunDir :=
  { dir with state := (verdictState dir.state false).saved }

/-- A passed verification found all reports but its own. -/
theorem missing_of_passed (passed : dir.verifyUnlocked.passed = true) :
    missing (dir.withVerification dir.verifyUnlocked).documents false = [] := by
  have empty := verifyUnlocked_passed.mp passed
  simp only [verifyUnlocked, append_eq_nil_iff] at empty
  have present : ∀ name ∈ precompletionArtifacts, name ≠ "06_verification.md" →
      name ∈ dir.documents := by
    intro name listed other
    have reported := empty.2
    simp only [missingReports, missing, map_eq_nil_iff, filter_eq_nil_iff,
      mem_filter, Bool.false_eq_true, ↓reduceIte] at reported
    by_contra absent
    exact reported name ⟨listed, by simpa using absent⟩ (by simpa using other)
  simp only [missing, Bool.false_eq_true, ↓reduceIte, filter_eq_nil_iff]
  intro name listed
  by_cases own : name = "06_verification.md"
  · simp [withVerification, withDocument, own]
  · simp [withVerification, withDocument, present name listed own]

omit [Sha256] in
theorem missing_marked (found : missing dir.documents false = [])
    (text : String) : missing (dir.withDocument completionMarker text).documents true = [] := by
  simp only [missing, Bool.false_eq_true, ↓reduceIte, filter_eq_nil_iff] at found ⊢
  intro name listed
  have cases_ : name ∈ precompletionArtifacts ∨ name = completionMarker := by
    simp only [requiredArtifacts, precompletionArtifacts, mem_cons, not_mem_nil,
      or_false] at listed ⊢
    tauto
  rcases cases_ with early | rfl
  · have present := found name early
    simp only [decide_not, Bool.not_eq_true, Bool.not_eq_false', decide_eq_true_eq] at present
    simp [withDocument, present]
  · simp [withDocument]

omit [Sha256] in
theorem run_require {condition : Bool} (holds : condition = true) (error : Raised) (dir : RunDir) :
    (lift (require condition error) : Operation Unit).run dir = (.ok (), dir) := by
  rw [run_lift, require, if_pos holds]

omit [Sha256] in
theorem run_complete (dir : RunDir) (unfenced : dir.mutationGuard = .ok ())
    (verifying : dir.state.phase = .verifying) (found : missing dir.documents false = [])
    (result : VerificationResult) : (complete result).run dir = (.ok result, dir.completed) := by
  have marked := missing_marked found markerText
  have phase : (dir.withDocument completionMarker markerText).state.phase = .verifying := verifying
  have verified := (dir.withDocument completionMarker markerText).state.transition_allowed
    .verified (some "Create deterministic completion sentinel") (by rw [phase]; decide)
    (by rw [phase]; decide)
  have written : (writeDocument completionMarker markerText).run dir =
      (.ok (), dir.withDocument completionMarker markerText) := run_guarded_open unfenced
  unfold complete
  rw [run_bind_ok (run_look dir), run_bind_ok (run_require (by simpa using found) _ dir),
    run_bind_ok written, run_bind_ok (run_look _),
    run_bind_ok (run_require (by simpa using marked) _ _), run_bind, run_lift, verified]
  dsimp only
  rw [run_bind, run_lift, RunState.transition_allowed _ .complete none (by simp)
    (by simp [RunPhase.allowed])]
  dsimp only
  rw [run_bind_ok (run_saveState (dir.withDocument completionMarker markerText) unfenced _)]
  rfl

omit [Sha256] in
theorem run_refuseCompletion (dir : RunDir) (unfenced : dir.mutationGuard = .ok ())
    (verifying : dir.state.phase = .verifying) (result : VerificationResult) :
    (refuseCompletion result).run dir = (.error (verificationFailed result), dir.refused) := by
  have moved := verdictState_moves verifying false
  rw [if_neg (by decide)] at moved
  unfold refuseCompletion
  rw [run_bind_ok (run_look dir), run_bind, run_lift, moved]
  dsimp only
  rw [run_bind_ok (run_saveState dir unfenced _)]
  rfl

theorem run_finalizeRun (fits : dir.compatible = .ok ())
    (unfenced : dir.mutationGuard = .ok ()) (permitted : dir.permitsVerifying) :
    finalizeRun.run dir =
      let begun := dir.opened "Re-verifying current artifacts"
      match begun.rendered with
      | .error error => (.error error, begun)
      | .ok seen =>
        let result := seen.verifyUnlocked
        if result.passed then (.ok result, (seen.withVerification result).completed)
        else (.error (verificationFailed result), (seen.withVerification result).refused) := by
  have started := run_startFinalization unfenced permitted
  have unfencedLater : (dir.opened "Re-verifying current artifacts").mutationGuard = .ok () := by
    rwa [opened_mutationGuard]
  have rendering := run_renderTranslated unfencedLater
  cases found : (dir.opened "Re-verifying current artifacts").rendered with
  | error error =>
    rw [found] at rendering
    have stopped : reverify.run dir =
        (.error error, dir.opened "Re-verifying current artifacts") := by
      simp only [reverify, run_bind, run_look, run_lift, fits, started, rendering]
    rw [finalizeRun, run_bind_error stopped]
    simp only [found]
  | ok seen =>
    rw [found] at rendering
    have verified : reverify.run dir = (.ok seen.verifyUnlocked, seen) := by
      simp only [reverify, run_bind, run_look, run_lift, fits, started, rendering, run_pure]
    have kept := rendered_kept found
    have open_ : seen.mutationGuard = .ok () := kept.mutationGuard.trans unfencedLater
    have verifying : seen.state.phase = .verifying := by rw [kept.state, opened_phase]
    rw [finalizeRun, run_bind_ok verified,
      run_bind_ok (run_persistVerification seen open_ seen.verifyUnlocked)]
    simp only [found]
    split_ifs with passed
    · exact run_complete (seen.withVerification _) open_ verifying (missing_of_passed passed) _
    · exact run_refuseCompletion (seen.withVerification _) open_ verifying _

end

end RunDir
end KSlide
