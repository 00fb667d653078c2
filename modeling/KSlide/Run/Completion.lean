import KSlide.Interleaving.Logged
import KSlide.Run.Outcome
import KSlide.Run.Submission

/-
This file proves when the completion marker stands for a complete run.
-/

namespace KSlide
open Interleaving Program

namespace RunDir
open CompletionPolicy
variable [Engine]

/-- The marker stands only in the phase COMPLETE. -/
def Certified (dir : RunDir) : Prop := dir.marked → dir.state.phase = .complete

theorem certified_of_unmarked {dir : RunDir} (unmarked : ¬dir.marked) : dir.Certified :=
  fun marked => absurd marked unmarked

section

/-- A call enters the phase COMPLETE only with its certificate. -/
def entering (kept : RunDir → Prop) (certificate : Prop) : Discipline RunAction RunDir where
  invariant := kept
  rely _ _ := False
  guarantee _ before after :=
    before.state.phase ≠ .complete → after.state.phase = .complete → certificate
  allowed _ _ := True
  idle _ _ := fun other same => absurd same other

theorem entering_solo (kept : RunDir → Prop) (certificate : Prop) :
    (entering kept certificate).Solo :=
  ⟨fun _ _ impossible => impossible, fun _ _ => trivial⟩

variable {kept : RunDir → Prop} {certificate : Prop} {Result : Type}

/-- A call on a run without its marker leaves the run without it. -/
def Quiet (kept : RunDir → Prop) (certificate : Prop) (program : Operation Result)
    (dir : RunDir) : Prop :=
  program.Meets (entering kept certificate) (fun _ after => ¬after.marked)
    (fun _ after => ¬after.marked) dir

theorem meets_look {raised : Raised → RunDir → Prop} (dir : RunDir) :
    look.Meets (entering kept certificate) (fun value after => value = dir ∧ after = dir) raised
      dir := by
  refine meets_read fun current reached _ _ => ?_
  cases solo_unchanged (entering_solo kept certificate) reached
  exact ⟨rfl, rfl⟩

theorem meets_lift_value {value : Except Raised Result} {raised : Raised → RunDir → Prop}
    {dir : RunDir} (failed : ∀ error, raised error dir) :
    (lift value : Operation Result).Meets (entering kept certificate)
      (fun found after => value = .ok found ∧ after = dir) raised dir := by
  rw [meets_lift]
  cases value with
  | error error => exact failed error
  | ok found => exact ⟨rfl, rfl⟩

/-- A write of a run without its marker keeps the marker away. -/
theorem meets_guarded {write : RunAction} {update : RunDir → RunDir} {dir : RunDir}
    {raised : Raised → RunDir → Prop} (failed : ∀ error, raised error dir)
    (holds : kept (update dir))
    (entered : (update dir).state.phase = .complete →
      dir.state.phase = .complete ∨ certificate) :
    (guarded write update).Meets (entering kept certificate)
      (fun _ after => after = update dir) raised dir := by
  refine meets_transact fun current reached invariant _ => ?_
  cases solo_unchanged (entering_solo kept certificate) reached
  cases guard : dir.mutationGuard with
  | error error => exact ⟨invariant, (entering kept certificate).idle write dir, failed error⟩
  | ok opened =>
    refine ⟨holds, fun other same => ?_, rfl⟩
    exact (entered same).resolve_left other

theorem meets_saveState {state : RunState} {dir : RunDir}
    (holds : kept { dir with state := state.saved })
    (entered : state.phase = .complete → dir.state.phase = .complete ∨ certificate) :
    (saveState state).Meets (entering kept certificate)
      (fun _ after => after = { dir with state := state.saved }) (fun _ _ => True) dir :=
  meets_bind (meets_guarded (fun _ => trivial) holds entered) fun _ _ same => same

/-- A look and its plan come before the writes. -/
theorem quiet_look {rest : RunDir → Operation Result} {dir : RunDir}
    (after : Quiet kept certificate (rest dir) dir) :
    Quiet kept certificate (look >>= rest) dir := by
  refine meets_bind (meets_look dir) fun value state found => ?_
  obtain ⟨rfl, rfl⟩ := found
  exact after

variable {Other : Type}

theorem quiet_lift {value : Except Raised Other} {rest : Other → Operation Result} {dir : RunDir}
    (unmarked : ¬dir.marked)
    (after : ∀ found, value = .ok found → Quiet kept certificate (rest found) dir) :
    Quiet kept certificate (lift value >>= rest) dir := by
  refine meets_bind (meets_lift_value fun _ => unmarked) fun found state reached => ?_
  obtain ⟨same, rfl⟩ := reached
  exact after found same

theorem quiet_guarded {write : RunAction} {update : RunDir → RunDir} {dir : RunDir}
    (holds : ∀ dir : RunDir, ¬dir.marked → kept dir) (unmarked : ¬dir.marked)
    (away : ¬(update dir).marked)
    (entered : (update dir).state.phase = .complete →
      dir.state.phase = .complete ∨ certificate) :
    Quiet kept certificate (guarded write update) dir := by
  refine meets_mono (meets_guarded (fun _ => unmarked) (holds _ away) entered)
    (fun _ _ same => ?_) fun _ _ => id
  rwa [same]

theorem quiet_bind {program : Operation Other} {rest : Other → Operation Result} {dir : RunDir}
    (first : Quiet kept certificate program dir)
    (second : ∀ value after, ¬after.marked → Quiet kept certificate (rest value) after) :
    Quiet kept certificate (program >>= rest) dir :=
  meets_bind first second

theorem quiet_pure {value : Result} {dir : RunDir} (unmarked : ¬dir.marked) :
    Quiet kept certificate (pure value) dir := unmarked

omit [Engine] in
/-- The state of a verification is no longer COMPLETE. -/
theorem incomplete_of_transition {state after : RunState} {target : RunPhase}
    {nextAction errorCode errorMessage : Option String}
    (moved : state.transition target nextAction errorCode errorMessage = .ok after)
    (other : target ≠ .complete) : after.phase ≠ .complete := by
  rw [RunState.transition_phase moved]
  exact other

variable (holds : ∀ dir : RunDir, ¬dir.marked → kept dir)
include holds

theorem quiet_saveState {state : RunState} {dir : RunDir} {rest : RunState → Operation Result}
    (unmarked : ¬dir.marked) (incomplete : state.phase ≠ .complete)
    (after : ∀ later : RunDir, ¬later.marked → Quiet kept certificate (rest state.saved) later) :
    Quiet kept certificate (saveState state >>= rest) dir := by
  unfold saveState
  rw [bind_assoc]
  refine quiet_bind (quiet_guarded holds unmarked unmarked fun same => ?_) fun _ later away => ?_
  · exact absurd same incomplete
  · rw [pure_bind]
    exact after later away

theorem quiet_saveQueue {queue : WorkQueue} {dir : RunDir} (unmarked : ¬dir.marked) :
    Quiet kept certificate (saveQueue queue) dir :=
  quiet_guarded holds unmarked unmarked Or.inl

theorem quiet_writeDocument {name text : String} {dir : RunDir} (unmarked : ¬dir.marked)
    (other : name ≠ completionMarker) :
    Quiet kept certificate (writeDocument name text) dir := by
  refine quiet_guarded holds unmarked ?_ Or.inl
  rw [marked, withDocument, AList.mem_insert]
  exact not_or.mpr ⟨Ne.symm other, unmarked⟩

variable {result : VerificationResult} {dir : RunDir}

theorem quiet_renderRun (unmarked : ¬dir.marked) : Quiet kept certificate renderRun dir := by
  refine quiet_look (quiet_lift unmarked fun reports _ => ?_)
  refine quiet_bind (quiet_writeDocument holds unmarked (by decide)) fun _ first away => ?_
  refine quiet_bind (quiet_writeDocument holds away (by decide)) fun _ second gone => ?_
  exact quiet_writeDocument holds gone (by decide)

theorem quiet_persistVerification
    (unmarked : ¬dir.marked) : Quiet kept certificate (persistVerification result) dir := by
  refine quiet_bind (quiet_guarded holds unmarked unmarked Or.inl) fun _ later away => ?_
  exact quiet_writeDocument holds away (by decide)

theorem quiet_renderTranslated (unmarked : ¬dir.marked) :
    Quiet kept certificate renderTranslated dir := by
  refine quiet_look ?_
  split_ifs
  · exact quiet_pure unmarked
  · exact quiet_renderRun holds unmarked

theorem quiet_refuseCompletion
    (unmarked : ¬dir.marked) : Quiet kept certificate (refuseCompletion result) dir := by
  refine quiet_look (quiet_lift unmarked fun moved movement => ?_)
  have incomplete := incomplete_of_transition movement (by decide)
  exact quiet_saveState holds unmarked incomplete fun saved away => away

variable [Sha256]

theorem quiet_concludeVerification {state : RunState} {dir : RunDir} (unmarked : ¬dir.marked) :
    Quiet kept certificate (concludeVerification state) dir := by
  refine quiet_bind (quiet_renderTranslated holds unmarked) fun _ rendered away => ?_
  refine quiet_look (quiet_bind ?_ fun _ judged gone => quiet_lift gone fun moved movement => ?_)
  · refine meets_tryCatch (quiet_saveQueue holds away) fun error after unmarked => ?_
    cases error with
    | kslide error => exact unmarked
    | other kind => exact unmarked
  · have incomplete : moved.phase ≠ .complete := by
      split_ifs at movement
      · exact incomplete_of_transition movement (by decide)
      · exact incomplete_of_transition movement (by decide)
    refine quiet_saveState holds gone incomplete fun saved away => ?_
    exact quiet_bind (quiet_persistVerification holds away) fun _ last gone => gone

end

section
variable {certificate : Prop}

/-- A call keeps the marker of a complete run and enters COMPLETE only with its certificate. -/
def Watched {Result : Type} (certificate : Prop) (program : Operation Result) (dir : RunDir) : Prop :=
  program.Meets (entering Certified certificate) (fun _ _ => True) (fun _ _ => True) dir

variable {Result : Type} {dir : RunDir} {payload : String}

theorem watched_quiet {program : Operation Result} {dir : RunDir}
    (quiet : Quiet Certified certificate program dir) : Watched certificate program dir :=
  meets_mono quiet (fun _ _ _ => trivial) fun _ _ _ => trivial

theorem watched_look {rest : RunDir → Operation Result} {dir : RunDir}
    (after : Watched certificate (rest dir) dir) : Watched certificate (look >>= rest) dir := by
  refine meets_bind (meets_look dir) fun value state found => ?_
  obtain ⟨rfl, rfl⟩ := found
  exact after

theorem watched_lift {Result Other : Type} {value : Except Raised Other}
    {rest : Other → Operation Result} {dir : RunDir}
    (after : ∀ found, value = .ok found → Watched certificate (rest found) dir) :
    Watched certificate (lift value >>= rest) dir := by
  refine meets_bind (meets_lift_value fun _ => trivial) fun found state reached => ?_
  obtain ⟨same, rfl⟩ := reached
  exact after found same

theorem unmarked_of_incomplete (certified : dir.Certified)
    (incomplete : dir.state.phase ≠ .complete) : ¬dir.marked :=
  fun marked => incomplete (certified marked)

theorem planNext_incomplete {result : NextAnswer} {queue : WorkQueue}
    {state : RunState} (planned : dir.planNext = .ok (result, some (queue, state))) :
    dir.state.phase ≠ .complete ∧ state.phase ≠ .complete := by
  obtain ⟨unsettled, -, -, queued⟩ := planNext_ok planned
  have incomplete : dir.state.phase ≠ .complete := fun same => unsettled (Or.inr (Or.inl same))
  refine ⟨incomplete, ?_⟩
  obtain ⟨unit, ⟨-, translation⟩ | ⟨-, repair⟩⟩ := planQueue_ok queued
  · obtain ⟨-, -, -, -, phase | ⟨-, phase⟩⟩ := planTranslation_ok translation
    · simp [phase]
    · rwa [phase]
  · obtain ⟨-, -, -, phase⟩ | ⟨-, -, -, -, phase⟩ := planRepair_ok repair <;> simp [phase]

theorem watched_next (certified : dir.Certified) : Watched certificate next dir := by
  refine watched_look (watched_lift fun plan planned => ?_)
  obtain ⟨result, change⟩ := plan
  cases change with
  | none => exact trivial
  | some change =>
    obtain ⟨queue, state⟩ := change
    obtain ⟨before, after⟩ := planNext_incomplete planned
    have unmarked := unmarked_of_incomplete certified before
    have holds : ∀ dir : RunDir, ¬dir.marked → dir.Certified := fun _ => certified_of_unmarked
    refine watched_quiet (quiet_bind (quiet_saveQueue holds unmarked) fun _ later away => ?_)
    exact quiet_saveState holds away after fun last gone => gone

theorem quiet_storeSubmission {dir current : RunDir} {patch : Engine.Patch}
    {submission : Submission} (unmarked : ¬current.marked)
    (submitted : dir.state.phase ∈ submissible) :
    Quiet Certified certificate (storeSubmission dir patch submission) current := by
  have holds : ∀ dir : RunDir, ¬dir.marked → dir.Certified := fun _ => certified_of_unmarked
  refine quiet_bind (quiet_guarded holds unmarked unmarked Or.inl) fun _ first away => ?_
  refine quiet_bind (quiet_guarded holds away away Or.inl) fun _ second away => ?_
  refine quiet_bind (quiet_renderRun holds away) fun _ third away => ?_
  refine quiet_bind (quiet_saveQueue holds away) fun _ fourth away => ?_
  refine quiet_lift away fun state settled => ?_
  have incomplete : state.phase ≠ .complete := settleState_incomplete submitted settled
  exact quiet_saveState holds away incomplete fun last gone => gone

/-- The charge of a payload keeps the marker and the phase. -/
theorem meets_receive (certified : dir.Certified) :
    (receive payload).Meets (entering Certified certificate)
      (fun _ after => after = dir.charged payload) (fun _ _ => True) dir := by
  refine meets_bind (meets_look dir) fun value state found => ?_
  obtain ⟨rfl, rfl⟩ := found
  refine meets_bind (meets_lift_value fun _ => trivial) fun fits after reached => ?_
  obtain ⟨-, rfl⟩ := reached
  have charge : (chargeModelOutputBudget payload).Meets (entering Certified certificate)
      (fun _ later => later = after.charged payload) (fun _ _ => True) after := by
    refine meets_transact_solo (entering_solo _ _) certified ?_ ?_
    · exact fun other same => absurd same other
    · cases checkBudget after.budget payload with
      | error error => exact trivial
      | ok within => exact rfl
  refine meets_bind charge fun _ later same => ?_
  rw [meets_lift]
  cases Engine.parseTranslationPatch payload with
  | error error => exact trivial
  | ok patch => exact same

theorem watched_submit (certified : dir.Certified) : Watched certificate (submit payload) dir := by
  refine meets_bind (meets_receive certified) fun patch after charged => ?_
  subst charged
  refine watched_look (watched_lift fun submission checked => ?_)
  have submitted := (checkSubmission_ok checked).2.2
  have incomplete : dir.state.phase ≠ .complete := by
    intro same
    simp [charged, submissible, same] at submitted
  have unmarked : ¬(dir.charged payload).marked := unmarked_of_incomplete certified incomplete
  exact watched_quiet (quiet_storeSubmission unmarked submitted)

variable [Sha256]

omit [Sha256] in
/-- A complete run is verified without its marker. -/
theorem meets_reopen {kept : RunDir → Prop} (holds : ∀ dir : RunDir, ¬dir.marked → kept dir)
    {dir : RunDir} {state : RunState} :
    (reopen state).Meets (entering kept certificate) (fun _ after => ¬after.marked)
      (fun _ _ => True) dir := by
  have unlinked : ¬({ dir with documents := dir.documents.erase completionMarker } : RunDir).marked := by
    simp [marked, AList.mem_erase]
  refine meets_bind (meets_guarded (fun _ => trivial) (holds _ unlinked) Or.inl)
    fun _ after same => ?_
  subst same
  refine meets_bind (meets_lift_value fun _ => trivial) fun moved later reached => ?_
  obtain ⟨movement, rfl⟩ := reached
  refine meets_mono (meets_saveState (holds _ unlinked) fun same => ?_)
    (fun _ last same => ?_) fun _ _ => id
  · have incomplete : moved.phase ≠ .complete := incomplete_of_transition movement (by decide)
    exact absurd same incomplete
  · subst same
    exact unlinked

theorem watched_verifyRun {dir : RunDir} (certified : dir.Certified) :
    Watched certificate verifyRun dir := by
  have holds : ∀ dir : RunDir, ¬dir.marked → dir.Certified := fun _ => certified_of_unmarked
  refine watched_look (watched_lift fun fits _ => ?_)
  split_ifs with complete verifying
  · refine meets_bind (meets_reopen holds) fun state after away => ?_
    exact watched_quiet (quiet_concludeVerification holds away)
  · have unmarked := unmarked_of_incomplete certified complete
    refine watched_quiet (quiet_lift unmarked fun moved movement => ?_)
    refine quiet_saveState holds unmarked ?_ fun later away => quiet_concludeVerification holds away
    exact incomplete_of_transition movement (by decide)
  · have unmarked := unmarked_of_incomplete certified complete
    exact watched_quiet (quiet_bind (quiet_persistVerification holds unmarked)
      fun _ later away => away)

/-- A finalization reaches its verification without the marker. -/
theorem meets_reverify {kept : RunDir → Prop} (holds : ∀ dir : RunDir, ¬dir.marked → kept dir)
    {dir : RunDir} (certified : dir.Certified) :
    reverify.Meets (entering kept certificate) (fun _ after => ¬after.marked)
      (fun _ _ => True) dir := by
  refine meets_bind (meets_look dir) fun value state found => ?_
  obtain ⟨rfl, rfl⟩ := found
  refine meets_bind (meets_lift_value fun _ => trivial) fun fits after reached => ?_
  obtain ⟨-, rfl⟩ := reached
  have started : (startFinalization after.state).Meets (entering kept certificate)
      (fun _ later => ¬later.marked) (fun _ _ => True) after := by
    unfold startFinalization
    split_ifs with complete verifying
    · exact meets_bind (meets_reopen holds) fun _ later away => away
    · exact unmarked_of_incomplete certified complete
    · have unmarked := unmarked_of_incomplete certified complete
      have quiet : Quiet kept certificate (do
          let state ← lift (after.state.transition .verifying
            (some "Re-verifying current artifacts") none none)
          let _ ← saveState state) after := by
        refine quiet_lift unmarked fun moved movement => ?_
        exact quiet_saveState holds unmarked (incomplete_of_transition movement (by decide))
          fun later away => away
      exact meets_mono quiet (fun _ _ => id) fun _ _ _ => trivial
  refine meets_bind started fun _ later away => ?_
  have quiet : Quiet kept certificate (do
      renderTranslated
      let dir ← look
      return dir.verifyUnlocked) later :=
    quiet_bind (quiet_renderTranslated holds away) fun _ last gone => quiet_look gone
  exact meets_mono quiet (fun _ _ => id) fun _ _ _ => trivial

/-- A finalization that reaches its verification answers for the state that it saw. -/
theorem reverify_ok {dir seen : RunDir} {result : VerificationResult}
    (reached : reverify.run dir = (.ok result, seen)) : result = seen.verifyUnlocked := by
  unfold reverify at reached
  rw [run_bind_ok (run_look dir), run_bind, run_lift] at reached
  cases fits : dir.compatible with
  | error error => simp [fits] at reached
  | ok fitting =>
    simp only [fits, run_bind] at reached
    split at reached
    · split at reached
      · simp only [run_look, run_pure, Prod.mk.injEq, Except.ok.injEq] at reached
        rw [← reached.1, ← reached.2]
      · simp at reached
    · simp at reached

/-- The verification of a finalization found no issue. -/
def Verified (dir : RunDir) : Prop :=
  ∃ result seen, reverify.run dir = (.ok result, seen) ∧ result.issues = []

/-- Only a finalization without an issue enters the phase COMPLETE. -/
theorem finalizeRun_enters {dir : RunDir} (certified : dir.Certified) :
    finalizeRun.Meets (entering (fun _ => True) dir.Verified) (fun _ _ => True)
      (fun _ _ => True) dir := by
  have holds : ∀ dir : RunDir, ¬dir.marked → True := fun _ _ => trivial
  have solo := entering_solo (fun _ => True) dir.Verified
  refine meets_bind ((meets_reverify holds certified).reached solo) fun result seen reached => ?_
  obtain ⟨ran, away⟩ := reached
  refine meets_bind (meets_mono (quiet_persistVerification holds away) (fun _ _ => id)
    fun _ _ _ => trivial) fun _ reported away => ?_
  split_ifs with passed
  · have verified : dir.Verified := by
      refine ⟨result, seen, ran, ?_⟩
      rw [reverify_ok ran] at passed ⊢
      exact verifyUnlocked_passed.mp passed
    refine meets_bind (meets_look _) fun value state _ => ?_
    refine meets_bind (meets_lift_value fun _ => trivial) fun _ state _ => ?_
    refine meets_bind (meets_guarded (fun _ => trivial) trivial Or.inl) fun _ state _ => ?_
    refine meets_bind (meets_look _) fun value state _ => ?_
    refine meets_bind (meets_lift_value fun _ => trivial) fun _ state _ => ?_
    refine meets_bind (meets_lift_value fun _ => trivial) fun _ state _ => ?_
    refine meets_bind (meets_lift_value fun _ => trivial) fun _ state _ => ?_
    exact meets_bind (meets_saveState trivial fun _ => Or.inr verified) fun _ state _ => trivial
  · exact meets_mono (quiet_refuseCompletion holds away) (fun _ _ _ => trivial)
      fun _ _ _ => trivial

end

section

/-- The marker was written and no state after it. -/
def Torn (labels : List RunAction) : Prop :=
  ∃ before after, labels = before ++ .document completionMarker :: after ∧ .runState ∉ after

omit [Engine] in
theorem torn_marker (labels : List RunAction) : Torn (labels ++ [.document completionMarker]) :=
  ⟨labels, [], rfl, by simp⟩

omit [Engine] in
theorem torn_read {labels : List RunAction} (torn : Torn labels) : Torn (labels ++ [.read]) := by
  obtain ⟨before, after, rfl, unsaved⟩ := torn
  exact ⟨before, after ++ [.read], by simp, by simpa using unsaved⟩

/-- A run keeps its marker for the phase COMPLETE unless its finalization is torn. -/
def Kept (state : RunDir × List RunAction) : Prop := state.1.Certified ∨ Torn state.2

theorem kept_look {state : RunDir × List RunAction} {raised : Raised → RunDir × List RunAction → Prop} :
    (look.logged).Meets (Discipline.alone Kept)
      (fun value after => value = state.1 ∧ after = (state.1, state.2 ++ [.read])) raised state := by
  rw [look, logged_read]
  refine meets_transact fun current reached invariant _ => ?_
  cases solo_unchanged (Discipline.alone_solo Kept) reached
  exact ⟨invariant.imp id torn_read, trivial, rfl, rfl⟩

theorem kept_lift {Result : Type} {value : Except Raised Result}
    {state : RunDir × List RunAction} :
    (lift value : Program RunAction (RunDir × List RunAction) Raised Result).Meets
      (Discipline.alone Kept) (fun found after => value = .ok found ∧ after = state)
      (fun _ _ => True) state := by
  rw [meets_lift]
  cases value with
  | error error => exact trivial
  | ok found => exact ⟨rfl, rfl⟩

theorem kept_guarded {write : RunAction} {update : RunDir → RunDir}
    {state : RunDir × List RunAction}
    (fenced : ∀ error, state.1.mutationGuard = .error error → Kept (state.1, state.2 ++ [write]))
    (written : state.1.mutationGuard = .ok () → Kept (update state.1, state.2 ++ [write])) :
    (guarded write update).logged.Meets (Discipline.alone Kept)
      (fun _ after => state.1.mutationGuard = .ok () ∧
        after = (update state.1, state.2 ++ [write])) (fun _ _ => True) state := by
  rw [guarded, logged_transact]
  cases guard : state.1.mutationGuard with
  | error error =>
    refine meets_transact_solo (Discipline.alone_solo Kept) ?_ trivial ?_
    · simp only [guard]
      exact fenced error guard
    · simp only [guard]
  | ok opened =>
    refine meets_transact_solo (Discipline.alone_solo Kept) ?_ trivial ?_
    · simp only [guard]
      exact written guard
    · simp only [guard, and_self]

theorem kept_saveState {saved : RunState} {state : RunDir × List RunAction}
    (unfenced : state.1.mutationGuard = .ok ()) (complete : saved.phase = .complete) :
    (saveState saved).logged.Meets (Discipline.alone Kept) (fun _ _ => True) (fun _ _ => True)
      state := by
  rw [saveState, logged_bind]
  refine meets_bind (kept_guarded (fun error fenced => ?_) fun _ => ?_) fun _ later _ => trivial
  · rw [unfenced] at fenced
    cases fenced
  · exact Or.inl fun _ => complete

/-- After the marker a finalization can be torn until it saves the phase COMPLETE. -/
theorem logged_complete {result : VerificationResult} {state : RunDir × List RunAction} :
    (complete result).logged.Meets (Discipline.alone Kept) (fun _ _ => True) (fun _ _ => True)
      state := by
  unfold complete
  rw [logged_bind]
  refine meets_bind kept_look fun value first found => ?_
  obtain ⟨rfl, rfl⟩ := found
  rw [logged_bind, logged_lift]
  refine meets_bind kept_lift fun _ second reached => ?_
  obtain ⟨-, rfl⟩ := reached
  rw [logged_bind]
  refine meets_bind (kept_guarded (fun _ _ => Or.inr (torn_marker _))
    fun _ => Or.inr (torn_marker _)) fun _ third reached => ?_
  obtain ⟨unfenced, rfl⟩ := reached
  rw [logged_bind]
  refine meets_bind kept_look fun value fourth found => ?_
  obtain ⟨rfl, rfl⟩ := found
  rw [logged_bind, logged_lift]
  refine meets_bind kept_lift fun _ fifth reached => ?_
  obtain ⟨-, rfl⟩ := reached
  rw [logged_bind, logged_lift]
  refine meets_bind kept_lift fun verified sixth reached => ?_
  obtain ⟨-, rfl⟩ := reached
  rw [logged_bind, logged_lift]
  refine meets_bind kept_lift fun moved last reached => ?_
  obtain ⟨movement, rfl⟩ := reached
  rw [logged_bind]
  have complete := RunState.transition_phase movement
  exact meets_bind (kept_saveState unfenced complete) fun _ done _ => trivial

variable [Sha256]

/-- A crash of a finalization keeps the run certified unless it tears the finalization. -/
theorem logged_finalizeRun {dir : RunDir} {labels : List RunAction} (certified : dir.Certified) :
    finalizeRun.logged.Meets (Discipline.alone Kept) (fun _ _ => True) (fun _ _ => True)
      (dir, labels) := by
  have holds : ∀ dir : RunDir, ¬dir.marked → dir.Certified := fun _ => certified_of_unmarked
  have solo := entering_solo Certified True
  have kept : ∀ (dir : RunDir) (labels : List RunAction), dir.Certified → Kept (dir, labels) :=
    fun _ _ certified => Or.inl certified
  have verified : reverify.Meets (entering Certified True) (fun _ after => ¬after.marked)
      (fun _ _ => True) dir := meets_reverify holds certified
  rw [finalizeRun, logged_bind]
  refine meets_bind (meets_mono (verified.logged solo certified kept) (fun _ _ => id)
    fun _ _ _ => trivial) fun result seen reached => ?_
  obtain ⟨certified, away⟩ := reached
  have persisted : Quiet Certified True (persistVerification result) seen.1 :=
    quiet_persistVerification holds away
  rw [logged_bind]
  refine meets_bind (meets_mono (persisted.logged solo certified kept) (fun _ _ => id)
    fun _ _ _ => trivial) fun _ reported reached => ?_
  obtain ⟨certified, away⟩ := reached
  split_ifs
  · exact logged_complete
  · have failed : Quiet Certified True (refuseCompletion result) reported.1 :=
      quiet_refuseCompletion holds away
    exact meets_mono (failed.logged solo certified kept) (fun _ _ _ => trivial)
      fun _ _ _ => trivial

end

section
variable [Sha256]

/-- The run goes on after a call that ended, after a call that crashed, and after an outside edit
of its canonical files. -/
inductive Continues : RunDir → RunDir → Prop
  | returned (call : HostCall) (dir : RunDir) : Continues dir (call.operation.run dir).2
  | crashed (call : HostCall) {dir left : RunDir} {labels : List RunAction}
      (crash : call.operation.logged.Crashes (dir, []) (left, labels))
      (whole : ¬(call = .finalizeRun ∧ Torn labels)) : Continues dir left
  | edited (dir : RunDir) (canonical : AList fun _ : String => Engine.Canonical) :
      Continues dir { dir with contents := { dir.contents with canonical } }

/-- Only a finalization whose own verification found no issue enters the phase COMPLETE. -/
def EntersVerified (dir : RunDir) : Prop :=
  ∀ (call : HostCall) (label : RunAction) (before after : RunDir),
    call.operation.Performs dir label before after → before.state.phase ≠ .complete →
      after.state.phase = .complete → call = .finalizeRun ∧ dir.Verified

theorem watched_call {dir : RunDir} {call : HostCall} (certified : dir.Certified)
    (other : call ≠ .finalizeRun) : Watched False call.operation dir := by
  cases call with
  | next => exact meets_bind (watched_next certified) fun _ _ _ => trivial
  | submit payload => exact meets_bind (watched_submit certified) fun _ _ _ => trivial
  | verifyRun => exact meets_bind (watched_verifyRun certified) fun _ _ _ => trivial
  | finalizeRun => exact absurd rfl other

theorem enters_verified {dir : RunDir} (certified : dir.Certified) : dir.EntersVerified := by
  intro call label before after performed incomplete complete
  by_cases finalizing : call = .finalizeRun
  · subst finalizing
    have meets : (HostCall.finalizeRun.operation).Meets (entering (fun _ => True) dir.Verified)
        (fun _ _ => True) (fun _ _ => True) dir :=
      meets_bind (finalizeRun_enters certified) fun _ _ _ => trivial
    exact ⟨rfl, meets.performs (entering_solo _ _) trivial performed incomplete complete⟩
  · have watched := watched_call certified finalizing
    exact (watched.performs (entering_solo _ _) certified performed incomplete complete).elim

omit [Sha256] in
theorem opened_unmarked {dir : RunDir} (certified : dir.Certified) (action : String) :
    ¬(dir.opened action).marked := by
  unfold opened
  split_ifs with verifying complete
  · exact unmarked_of_incomplete certified (by simp [verifying])
  · simp [marked, AList.mem_erase]
  · have unmarked : ¬dir.marked := unmarked_of_incomplete certified complete
    exact unmarked

omit [Engine] [Sha256] in
theorem ok_of_not_error {value : Except Raised Unit} (passed : ∀ error, ¬value = .error error) :
    value = .ok () := by
  cases value with
  | error error => exact absurd rfl (passed error)
  | ok passing => rfl

/-- A finalization that ended has its marker only in the phase COMPLETE. -/
theorem finalizeRun_certified {dir : RunDir} (certified : dir.Certified) :
    (finalizeRun.run dir).2.Certified := by
  by_cases stopped : (∃ error, dir.compatible = .error error) ∨
      (∃ error, dir.mutationGuard = .error error) ∨ ¬dir.permitsVerifying
  · obtain ⟨error, ran⟩ := run_finalizeRun_refused stopped
    rwa [ran]
  · obtain ⟨fits, unfenced, permitted⟩ : dir.compatible = .ok () ∧ dir.mutationGuard = .ok () ∧
        dir.permitsVerifying := by
      simp only [not_or, not_exists, not_not] at stopped
      exact ⟨ok_of_not_error stopped.1, ok_of_not_error stopped.2.1, stopped.2.2⟩
    rw [run_finalizeRun fits unfenced permitted]
    have begun := opened_unmarked certified "Re-verifying current artifacts"
    dsimp only
    cases found : (dir.opened "Re-verifying current artifacts").rendered with
    | error error => exact certified_of_unmarked begun
    | ok seen =>
      have away : ¬(seen.withVerification seen.verifyUnlocked).marked := by
        rw [marked, withVerification, withDocument, AList.mem_insert]
        exact not_or.mpr ⟨by decide, (rendered_kept found).marked.not.mpr begun⟩
      dsimp only
      split_ifs
      · exact fun _ => rfl
      · exact certified_of_unmarked away

theorem continues_certified {dir after : RunDir} (certified : dir.Certified)
    (continued : Continues dir after) : after.Certified := by
  cases continued with
  | returned call dir =>
    by_cases finalizing : call = .finalizeRun
    · subst finalizing
      have ended : (HostCall.finalizeRun.operation.run dir).2 = (finalizeRun.run dir).2 := by
        rw [HostCall.operation, run_bind]
        rcases finalizeRun.run dir with ⟨_ | _, _⟩ <;> rfl
      rw [ended]
      exact finalizeRun_certified certified
    · exact ((watched_call certified finalizing).run (entering_solo _ _) certified).1
  | crashed call crash whole =>
    by_cases finalizing : call = .finalizeRun
    · subst finalizing
      have meets : (HostCall.finalizeRun.operation.logged).Meets (Discipline.alone Kept)
          (fun _ _ => True) (fun _ _ => True) (dir, []) := by
        rw [HostCall.operation, logged_bind]
        exact meets_bind (logged_finalizeRun certified) fun _ _ _ => trivial
      have kept := meets.crashes (Discipline.alone_solo Kept) (Or.inl certified) crash
      exact kept.resolve_right fun torn => whole ⟨rfl, torn⟩
    · exact (watched_call certified finalizing).crashes (entering_solo _ _) certified
        (crashes_logged crash)
  | edited dir canonical => exact certified

theorem finalizeRun_torn {dir seen : RunDir} (fits : dir.compatible = .ok ())
    (unfenced : dir.mutationGuard = .ok ()) (permitted : dir.permitsVerifying)
    (found : (dir.opened "Re-verifying current artifacts").rendered = .ok seen)
    (passed : seen.verifyUnlocked.passed = true) :
    ∃ left, finalizeRun.Crashes dir left ∧ (verifyRun.run left).2.marked ∧
      (verifyRun.run left).2.state.phase ≠ .complete := by
  have started := run_startFinalization unfenced permitted
  have open_ : (dir.opened "Re-verifying current artifacts").mutationGuard = .ok () := by
    rwa [opened_mutationGuard]
  have rendering := run_renderTranslated open_
  rw [found] at rendering
  have verified : reverify.run dir = (.ok seen.verifyUnlocked, seen) := by
    simp only [reverify, run_bind, run_look, run_lift, fits, started, rendering, run_pure]
  have kept := rendered_kept found
  have unfencedLater : seen.mutationGuard = .ok () := kept.mutationGuard.trans open_
  let reported := seen.withVerification seen.verifyUnlocked
  let left := reported.withDocument completionMarker markerText
  have phase : left.state.phase = .verifying := by
    change seen.state.phase = .verifying
    rw [kept.state, opened_phase]
  have crashed : (complete seen.verifyUnlocked).Crashes reported left := by
    unfold complete
    refine (crashes_bind ..).mpr (Or.inr ⟨reported, reported, run_look _, ?_⟩)
    refine (crashes_bind ..).mpr (Or.inr ⟨(), reported,
      run_require (by simpa using missing_of_passed passed) _ _, ?_⟩)
    refine (crashes_bind ..).mpr (Or.inl ?_)
    have written : (writeDocument completionMarker markerText).run reported = (.ok (), left) :=
      run_guarded_open unfencedLater
    have ended := crashes_run (writeDocument completionMarker markerText) reported
    rwa [written] at ended
  have refused : verifyRun.run left =
      (.ok left.phaseNotVerifiable, left.withVerification left.phaseNotVerifiable) := by
    have later : left.compatible = .ok () :=
      kept.compatible.trans ((opened_compatible _ _).trans fits)
    rw [run_verifyRun later unfencedLater, if_neg]
    simp [phase, verifiable]
  refine ⟨left, ?_, ?_, ?_⟩
  · refine (crashes_bind ..).mpr (Or.inr ⟨seen.verifyUnlocked, seen, verified, ?_⟩)
    refine (crashes_bind ..).mpr (Or.inr ⟨(), reported,
      run_persistVerification seen unfencedLater _, ?_⟩)
    rwa [if_pos passed]
  · rw [refused]
    simp [marked, withVerification, withDocument, left]
  · rw [refused]
    change left.state.phase ≠ .complete
    simp [phase]

end
end RunDir

section
attribute [local instance] Engine.recorded Sha256.polynomial

/-- A run whose only unit is translated. -/
def RunDir.translated : RunDir :=
  ((RunDir.submit "translation").run (RunDir.next.run .extracted).2).2

end
end KSlide
