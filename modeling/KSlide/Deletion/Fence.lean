import KSlide.Deletion.Execution
import KSlide.Deletion.Scoped
import KSlide.Deletion.Workspace

/-
This file says when the fence of a run covers every deletion that has begun to remove its targets.
-/

namespace KSlide
open Interleaving Program Relation

/-- A deletion has removed a target and is not complete. -/
def HalfDeleted (audit : DeletionAudit) : Prop :=
  audit.state ≠ .complete ∧ ∃ target ∈ audit.targets, target.status = .deleted

/-- A run at rest is not active, and it is terminal or explicitly deleted after its cancellation. -/
def AtRest (call : DeletionCall) (state : BackendState) : Prop :=
  state.active = false ∧ (state.terminal = true ∨ call.reason = .explicit ∧ state.canceled = true)

namespace DeletionBackend

section
variable {State : Type} (backend : DeletionBackend State) (call : DeletionCall) (dir : State)
variable (request : DeletionRequest) (current : Option DeletionAudit)

/-- An answer of the hold authority keeps the run. -/
def Held (call : DeletionCall) (request : DeletionRequest) : Prop :=
  (∀ first, safeHold call.firstHold request.scopeRef request.runRef = .ok first →
      first.status ≠ .release) ∨
    ∃ hold, safeHold call.lockedHold request.scopeRef request.runRef = .ok hold ∧
      hold.status ≠ .release

/-- Both answers of the hold authority release the run. -/
def Freed (call : DeletionCall) (request : DeletionRequest) : Prop :=
  (∃ first, safeHold call.firstHold request.scopeRef request.runRef = .ok first ∧
      first.status = .release) ∧
    ∃ hold, safeHold call.lockedHold request.scopeRef request.runRef = .ok hold ∧
      hold.status = .release

/-- A hold, another generation or the lifecycle of the run stops a call that found its audit. -/
inductive Stopped : Prop where
  | finished (audit : DeletionAudit) (state : BackendState) (found : current = some audit)
      (complete : audit.state = .complete) (read : backend.state dir = .ok state)
      (other : generationMatches state audit = false)
  | held (incomplete : ∀ audit ∈ current, audit.state ≠ .complete) (kept : Held call request)
  | moved (audit : DeletionAudit) (state : BackendState)
      (incomplete : ∀ audit ∈ current, audit.state ≠ .complete) (freed : Freed call request)
      (read : backend.state dir = .ok state) (other : stale state current = some audit)
  | running (hold : LegalHoldDecision) (state : BackendState)
      (cleared : Cleared backend call dir request hold state current) (running : ¬AtRest call state)

/-- A call deletes the targets of a cleared run at rest. -/
def Deletes : Prop := ∃ hold state,
  Cleared backend call dir request hold state current ∧ AtRest call state

variable {backend call dir request current}

/-- Only a hold stops a call before its lifecycle. -/
theorem decideHeld_held {hold : Option LegalHoldDecision} {errorCode : DeletionResultCode}
    {existing : Option DeletionAudit}
    (decided : backend.decideHeld call dir request current = .ok (.held hold errorCode existing)) :
    Held call request := by
  by_contra free
  unfold Held at free
  push Not at free
  obtain ⟨⟨first, answered, released⟩, locked⟩ := free
  unfold decideHeld at decided
  rw [answered] at decided
  dsimp only at decided
  rw [if_pos released] at decided
  cases again : safeHold call.lockedHold request.scopeRef request.runRef with
  | error error => simp [again] at decided
  | ok hold =>
    rw [again] at decided
    dsimp only at decided
    rw [if_pos (locked hold again)] at decided
    obtain ⟨state, -, ⟨audit, -, same⟩ | ⟨-, ⟨code, same⟩ | ⟨candidates, same⟩⟩⟩ :=
      decideReleased_ok decided <;> cases same

/-- A cleared run is stopped by its lifecycle, or its targets are deleted. -/
theorem Cleared.cases {hold : LegalHoldDecision} {state : BackendState}
    (cleared : Cleared backend call dir request hold state current) {decision : DeletionDecision}
    (decided : backend.decision call dir request = .ok decision) :
    (∃ hold state candidates, decision = .released hold state candidates current ∧
        Deletes backend call dir request current) ∨
      (∀ hold state candidates current, decision ≠ .released hold state candidates current) ∧
        Stopped backend call dir request current := by
  rw [cleared.decision_eq] at decided
  by_cases active : state.active = true
  · rw [if_pos active, Except.ok.injEq] at decided
    subst decided
    exact Or.inr ⟨by simp, .running hold state cleared fun rests => by simp [rests.1] at active⟩
  · rw [if_neg active] at decided
    by_cases open_ : (!state.terminal && !(call.reason = .explicit && state.canceled)) = true
    · rw [if_pos open_, Except.ok.injEq] at decided
      subst decided
      refine Or.inr ⟨by simp, .running hold state cleared fun rests => ?_⟩
      rcases rests.2 with terminal | ⟨explicit, canceled⟩
      · simp [terminal] at open_
      · simp [explicit, canceled] at open_
    · rw [if_neg open_] at decided
      cases listed : backend.enumerateTargets call.deletionId dir with
      | error error => simp [listed] at decided
      | ok candidates =>
        simp only [listed, Except.ok.injEq] at decided
        refine Or.inl ⟨hold, state, candidates, decided.symm, hold, state, cleared, ?_⟩
        refine ⟨by simpa using active, ?_⟩
        by_contra running
        push Not at running
        apply open_
        simpa [running.1, imp_iff_not_or] using running.2

theorem decision_cases {decision : DeletionDecision}
    (decided : backend.decision call dir request = .ok decision)
    (loaded : backend.loadAudit call.deletionId dir = .ok current) :
    (∃ audit, decision = .replayed audit) ∨
      (∃ hold state candidates, decision = .released hold state candidates current ∧
        Deletes backend call dir request current) ∨
      (∀ hold state candidates current, decision ≠ .released hold state candidates current) ∧
        Stopped backend call dir request current := by
  obtain ⟨existing, found, bound, ⟨audit, state, rfl, complete, read, rfl⟩ | ⟨incomplete, rest⟩⟩ :=
    decision_ok decided
  · cases Except.ok.inj (found.symm.trans loaded)
    cases same : generationMatches state audit with
    | true => exact Or.inl ⟨audit, by simp⟩
    | false => exact Or.inr (Or.inr ⟨by simp, .finished audit state rfl complete read same⟩)
  · cases Except.ok.inj (found.symm.trans loaded)
    obtain ⟨hold, errorCode, rfl⟩ | ⟨first, hold, answered, released, locked, free, rest⟩ :=
      decideHeld_ok rest
    · exact Or.inr (Or.inr ⟨by simp, .held incomplete (decideHeld_held rest)⟩)
    · obtain ⟨state, read, ⟨audit, other, rfl⟩ | ⟨fresh, -⟩⟩ := decideReleased_ok rest
      · refine Or.inr (Or.inr ⟨by simp, ?_⟩)
        exact .moved audit state incomplete ⟨⟨first, answered, released⟩, hold, locked, free⟩ read other
      · have cleared : Cleared backend call dir request hold state current :=
          ⟨loaded, bound, incomplete, ⟨first, answered, released⟩, locked, free, read, fresh⟩
        exact Or.inr (cleared.cases decided)

/-- A call that is stopped finds no removed target in its audit, and every call that can change an
audit finds the other deletions whole. -/
def KeepsFence (backend : DeletionBackend State) (call : DeletionCall) (dir : State)
    (whole : Prop) : Prop :=
  call.dryRun = true ∨ ∀ request current, backend.request call = .ok request →
    backend.loadAudit call.deletionId dir = .ok current → checkBinding request current = .ok () →
    (Stopped backend call dir request current →
      whole ∧ ∀ audit ∈ current, ∀ target ∈ audit.targets, target.status ≠ .deleted) ∧
    (Deletes backend call dir request current → whole)

theorem keeps_run_of_fence {invariant : State → Prop} {whole : Prop}
    (fence : KeepsFence backend call dir whole)
    (cancelled : invariant (backend.requestCancellation call.updatedAt dir).2)
    (blocked : whole → ∀ request current saved, backend.request call = .ok request →
      backend.loadAudit call.deletionId dir = .ok current →
      Blocks backend request dir current saved → ¬HalfDeleted saved → ∀ after, after = dir ∨
        after = (backend.requestCancellation call.updatedAt dir).2 →
      (backend.saveAudit saved).Keeps invariant after)
    (deleted : whole → ∀ request hold state candidates current, backend.request call = .ok request →
      Cleared backend call dir request hold state current →
      (backend.execute call request hold state candidates current).Keeps invariant dir) :
    (backend.run call).Keeps invariant dir := by
  apply keeps_run
  intro request decision requested decided
  obtain ⟨current, loaded, bound, -⟩ := decision_ok decided
  obtain ⟨audit, rfl⟩ | ⟨hold, state, candidates, rfl, deletes⟩ | ⟨kept, stopped⟩ :=
    decision_cases decided loaded
  · exact trivial
  · dsimp only [perform]
    split_ifs with dry
    · exact trivial
    · obtain ⟨-, whole⟩ := (fence.resolve_left dry) request current requested loaded bound
      exact deleted (whole deletes) request hold state candidates current requested
        (decision_released decided).1
  · apply keeps_blocked kept cancelled
    intro real saved found
    obtain ⟨existing, again, blocks⟩ := blockedAudit_blocks decided found
    cases Except.ok.inj (again.symm.trans loaded)
    have real : ¬call.dryRun = true := by simp [real]
    obtain ⟨safe, -⟩ := (fence.resolve_left real) request current requested loaded bound
    obtain ⟨whole, intact⟩ := safe stopped
    apply blocked whole request current saved requested loaded blocks
    rintro ⟨-, target, listed, removed⟩
    rw [blocks.targets] at listed
    cases current with
    | none => cases listed
    | some audit => exact intact audit rfl target listed removed

end
end DeletionBackend
section
variable [Sha256]
open DeletionBackend

namespace WorkspaceSite

/-- The guard of a run refuses every write while a deletion of the run is half done. -/
def FenceCovers (site : WorkspaceSite) : Prop :=
  ∀ deletionId audit, site.audits.lookup deletionId = some audit → HalfDeleted audit →
    ∃ error, site.workspaceMutationGuard = .error error

/-- Every other deletion of the run is complete or has removed no target. -/
def WholeBut (deletionId : String) (site : WorkspaceSite) : Prop :=
  ∀ other audit, other ≠ deletionId → site.audits.lookup other = some audit → ¬HalfDeleted audit

/-- One deletion call on the run ends or crashes. -/
def Called (runRef : String) (site left : WorkspaceSite) : Prop :=
  ∃ faults call, ((backend faults runRef).run call).Crashes site left

/-- One deletion call that keeps the fence ends or crashes. -/
def SafeCall (runRef : String) (site left : WorkspaceSite) : Prop :=
  ∃ faults call, (backend faults runRef).KeepsFence call site (site.WholeBut call.deletionId) ∧
    ((backend faults runRef).run call).Crashes site left

/-- Every audit is filed under its own identity, and the fence covers it. -/
structure Covered (site : WorkspaceSite) : Prop where
  filed : ∀ deletionId audit, site.audits.lookup deletionId = some audit →
    audit.deletionId = deletionId
  covers : site.FenceCovers

section
variable {site : WorkspaceSite} {audit : DeletionAudit} {runRef : String}

theorem covered_start (site : WorkspaceSite) (fresh : site.audits = ∅) : site.Covered := by
  refine ⟨?_, ?_⟩ <;> intro deletionId audit found <;> rw [fresh] at found <;> cases found

/-- The flag of the fence is enough for the guard. -/
theorem guard_of_fenced (fenced : site.fenced = true) :
    ∃ error, site.workspaceMutationGuard = .error error := by
  unfold workspaceMutationGuard
  rw [if_pos fenced]
  exact ⟨_, rfl⟩

/-- The mark in the state file changes nothing else. -/
theorem markState_kept (site : WorkspaceSite) (active : Bool) :
    (site.markState active).2.audits = site.audits ∧
      (site.markState active).2.fenced = site.fenced := by
  unfold markState
  by_cases present : site.hasState = true
  · rw [if_pos present]
    cases site.runState <;> exact ⟨rfl, rfl⟩
  · rw [if_neg present]
    exact ⟨rfl, rfl⟩

/-- A save keeps a condition that holds after each of its three writes. -/
theorem meets_saveAudit {invariant : WorkspaceSite → Prop} {post : Unit → WorkspaceSite → Prop}
    (written : invariant (site.withAudit audit))
    (kept : ∀ after, after.audits = (site.withAudit audit).audits →
      after.fenced = audit.fences → invariant after ∧ post () after) :
    (saveAudit audit).Meets (.alone invariant) post (fun _ _ => True) site := by
  have solo : (Discipline.alone invariant : Discipline DeletionAction WorkspaceSite).Solo :=
    Discipline.alone_solo invariant
  obtain ⟨audits, flag⟩ :=
    markState_kept ((site.withAudit audit).withFence audit.fences) audit.fences
  obtain ⟨marked, ends⟩ := kept _ audits flag
  apply meets_write_bind_solo solo
  · exact written
  · exact trivial
  · apply meets_write_bind_solo solo
    · exact (kept ((site.withAudit audit).withFence audit.fences) rfl rfl).1
    · exact trivial
    · apply meets_transact_solo solo
      · exact marked
      · exact trivial
      · cases (((site.withAudit audit).withFence audit.fences).markState audit.fences).1 with
        | error error => exact trivial
        | ok value => exact ends

/-- The audit takes the place of the audit with its identity. -/
theorem withAudit_lookup (site : WorkspaceSite) (audit : DeletionAudit) {deletionId : String}
    {found : DeletionAudit} (listed : (site.withAudit audit).audits.lookup deletionId = some found) :
    deletionId = audit.deletionId ∧ found = audit ∨
      deletionId ≠ audit.deletionId ∧ site.audits.lookup deletionId = some found := by
  by_cases own : deletionId = audit.deletionId
  · subst own
    rw [withAudit, AList.lookup_insert] at listed
    exact Or.inl ⟨rfl, (Option.some.inj listed).symm⟩
  · rw [withAudit, AList.lookup_insert_ne own] at listed
    exact Or.inr ⟨own, listed⟩

theorem Covered.withAudit_filed (covered : site.Covered) (audit : DeletionAudit)
    (deletionId : String) (found : DeletionAudit)
    (listed : (site.withAudit audit).audits.lookup deletionId = some found) :
    found.deletionId = deletionId := by
  obtain ⟨rfl, rfl⟩ | ⟨-, before⟩ := withAudit_lookup site audit listed
  · rfl
  · exact covered.filed deletionId found before

/-- A save that leaves every deletion whole needs no fence. -/
theorem keeps_whole (covered : site.Covered) (whole : site.WholeBut audit.deletionId)
    (intact : ¬HalfDeleted audit) : (saveAudit audit).Keeps Covered site := by
  have free (after : WorkspaceSite) (same : after.audits = (site.withAudit audit).audits) :
      after.Covered := by
    refine ⟨fun deletionId found listed => ?_, fun deletionId found listed half => ?_⟩
    · exact covered.withAudit_filed audit deletionId found (same ▸ listed)
    · obtain ⟨-, rfl⟩ | ⟨other, before⟩ := withAudit_lookup site audit (same ▸ listed)
      · exact (intact half).elim
      · exact (whole deletionId found other before half).elim
  apply meets_saveAudit (free _ rfl)
  intro after same _
  exact ⟨free after same, trivial⟩

theorem meets_fenced (covered : site.Covered) (up : audit.fences = true)
    (before : HalfDeleted audit → ∃ error, site.workspaceMutationGuard = .error error) :
    (saveAudit audit).Meets (.alone Covered)
      (fun _ after => after.fenced = true ∧ after.audits = (site.withAudit audit).audits)
      (fun _ _ => True) site := by
  apply meets_saveAudit
  · refine ⟨covered.withAudit_filed audit, fun deletionId found listed half => ?_⟩
    obtain ⟨-, rfl⟩ | ⟨-, listed⟩ := withAudit_lookup site audit listed
    · exact before half
    · exact covered.covers deletionId found listed half
  · intro after same flag
    have fenced : after.fenced = true := flag.trans up
    refine ⟨⟨fun deletionId found listed => ?_, fun _ _ _ _ => guard_of_fenced fenced⟩, fenced, same⟩
    exact covered.withAudit_filed audit deletionId found (same ▸ listed)

section
variable (faults : DeletionFaults) (audits : AList fun _ : String => DeletionAudit)

theorem onTree_preserves (program : Deletion ContentTree Unit) :
    (onTree program).Preserves fun site => site.fenced = true ∧ site.audits = audits := by
  apply preserves_zoom
  intro tree site kept
  exact kept

theorem unlinkSessions_preserves (sessions : List String) :
    (unlinkSessions faults sessions).Preserves
      fun site => site.fenced = true ∧ site.audits = audits := by
  induction sessions with
  | nil => trivial
  | cons session sessions ih =>
    apply preserves_bind
    · apply preserves_transact
      intro site kept
      cases faults.removal session <;> exact kept
    · intro _
      exact ih

theorem deleteTarget_preserves (candidate : Candidate) (recovery : List SupportDeletionRecord) :
    (deleteTarget faults candidate recovery).Preserves
      fun site => site.fenced = true ∧ site.audits = audits := by
  apply preserves_bind (onTree_preserves audits _)
  intro _
  split_ifs
  · apply preserves_bind (preserves_read _ _)
    intro site
    exact unlinkSessions_preserves faults audits site.sessions
  · trivial

theorem cleanup_preserves : (cleanupAfterTargets faults).Preserves
    fun site => site.fenced = true ∧ site.audits = audits := by
  apply preserves_bind (onTree_preserves audits _)
  intro _
  apply preserves_bind (preserves_read _ _)
  intro site
  apply preserves_bind (unlinkSessions_preserves faults audits site.sessions)
  intro _
  exact preserves_read _ _

end

section
variable {faults : DeletionFaults} {call : DeletionCall} {request : DeletionRequest}
variable {hold : LegalHoldDecision} {state : BackendState} {candidates : List Candidate}
variable {current : Option DeletionAudit}

theorem keeps_execute (covered : site.Covered) (whole : site.WholeBut call.deletionId)
    (requested : (backend faults runRef).request call = .ok request)
    (cleared : Cleared (backend faults runRef) call site request hold state current) :
    ((backend faults runRef).execute call request hold state candidates current).Keeps
      Covered site := by
  apply meets_execute
  · intro _
    trivial
  intro plan plans _
  let active := activeAudit call hold state plan
  have activates : Activates state plan active := activeAudit_activates hold state plan
  have named : active.deletionId = call.deletionId := by
    have loaded : current = site.audits.lookup call.deletionId :=
      (Except.ok.inj cleared.loaded).symm
    rw [activates.deletionId, plans.deletionId]
    cases current with
    | none => exact (request_ok requested).1
    | some audit => exact covered.filed _ audit loaded.symm
  have before : HalfDeleted active → ∃ error, site.workspaceMutationGuard = .error error := by
    rintro ⟨-, target, listed, removed⟩
    rw [activates.targets] at listed
    rcases plans.origin target listed with ⟨audit, found, listed⟩ | ⟨candidate, -, same⟩
    · have loaded : site.audits.lookup call.deletionId = some audit :=
        (Except.ok.inj cleared.loaded).trans found
      exact covered.covers _ audit loaded ⟨cleared.incomplete audit found, target, listed, removed⟩
    · rcases same with rfl | rfl <;> cases removed
  have fenced (after : WorkspaceSite) (kept : after.fenced = true ∧
      after.audits = (site.withAudit active).audits) : after.Covered := by
    refine ⟨fun deletionId found listed => ?_, fun _ _ _ _ => guard_of_fenced kept.1⟩
    exact covered.withAudit_filed active deletionId found (kept.2 ▸ listed)
  have removal : Removal (backend faults runRef) Covered fun _ after =>
      after.fenced = true ∧ after.audits = (site.withAudit active).audits := by
    refine ⟨fun _ after => fenced after, fun _ _ _ _ => id, fun _ candidate recovery after kept => ?_⟩
    exact preserves_meets (deleteTarget_preserves faults _ candidate recovery) fenced kept
  apply meets_carryOut removal
  · exact meets_fenced covered (by simp [DeletionAudit.fences, activates.started]) before
  · intro _ after kept
    exact preserves_meets (cleanup_preserves faults _) fenced kept
  · intro ended continues partially _ after kept
    have up : ended.fences = true := by simp [DeletionAudit.fences, partially]
    apply meets_mono (meets_fenced (fenced after kept) up fun _ => guard_of_fenced kept.1)
    · intro _ _ _
      trivial
    · intro _ _ _
      trivial
  · intro ended continues complete _ after kept
    apply keeps_whole (fenced after kept)
    · intro other audit different listed
      have different : other ≠ active.deletionId := continues.deletionId ▸ different
      rw [kept.2] at listed
      obtain ⟨same, -⟩ | ⟨-, listed⟩ := withAudit_lookup site active listed
      · exact (different same).elim
      · exact whole other audit (named ▸ different) listed
    · exact fun half => half.1 complete

end

/-- A request to cancel changes only the job. -/
theorem requestCancellation_kept (now : Timestamp) (site : WorkspaceSite) :
    (site.requestCancellation now).2.audits = site.audits ∧
      (site.requestCancellation now).2.workspaceMutationGuard = site.workspaceMutationGuard := by
  unfold requestCancellation
  by_cases present : site.hasJob = true
  · rw [if_pos present]
    rcases site.job.bind (cancellationRequest · now) with error | _ | candidate <;> exact ⟨rfl, rfl⟩
  · rw [if_neg present]
    exact ⟨rfl, rfl⟩

theorem safeCall_covered {left : WorkspaceSite} (covered : site.Covered)
    (called : SafeCall runRef site left) : left.Covered := by
  obtain ⟨faults, call, fence, crashed⟩ := called
  have asked : (site.requestCancellation call.updatedAt).2.Covered ∧
      (site.requestCancellation call.updatedAt).2.audits = site.audits := by
    obtain ⟨audits, guard⟩ := requestCancellation_kept call.updatedAt site
    refine ⟨⟨?_, ?_⟩, audits⟩
    · rw [audits]
      exact covered.filed
    · unfold FenceCovers
      rw [audits, guard]
      exact covered.covers
  apply Keeps.crashes _ covered crashed
  apply keeps_run_of_fence fence asked.1
  · intro whole request current saved requested loaded blocks intact after reached
    have named : saved.deletionId = call.deletionId := by
      rw [blocks.deletionId]
      cases current with
      | none => exact (request_ok requested).1
      | some audit => exact covered.filed _ audit (Except.ok.inj loaded)
    have same : after.Covered ∧ after.audits = site.audits := by
      rcases reached with rfl | rfl
      · exact ⟨covered, rfl⟩
      · exact asked
    apply keeps_whole same.1 _ intact
    intro other audit different listed
    exact whole other audit (named ▸ different) (same.2 ▸ listed)
  · intro whole request hold state candidates current requested cleared
    exact keeps_execute covered whole requested cleared

end
end WorkspaceSite
end

section
variable [Sha256]
open DeletionBackend

namespace ScopeState
variable (context : AuthorizedScopeContext)

/-- The guard of a run refuses every write while a deletion of the run is half done. -/
def FenceCovers (scope : ScopeState) : Prop :=
  ∀ path audit, scope.audits.lookup path = some audit → audit.scopeRef = context.scopeRef →
    HalfDeleted audit → ∃ error, scope.deletionFenced context audit.runRef = .error error

/-- One deletion call of a job of the scope ends or crashes. -/
def Called (scope left : ScopeState) : Prop :=
  ∃ identity faults found call,
    ((backend context identity faults found).run call).Crashes scope left

/-- One deletion call that keeps the fence ends or crashes. -/
def SafeCall (scope left : ScopeState) : Prop :=
  ∃ identity faults found call,
    (backend context identity faults found).KeepsFence call scope True ∧
      ((backend context identity faults found).run call).Crashes scope left

/-- Every deletion that is half done fences its run by its own state. -/
def Covered (scope : ScopeState) : Prop :=
  ∀ path audit, scope.audits.lookup path = some audit → HalfDeleted audit → audit.fences = true

section
variable {context} {scope : ScopeState} {identity : DurableJobIdentity} {audit : DeletionAudit}

theorem Covered.fenceCovers (covered : scope.Covered) : scope.FenceCovers context := by
  intro path audit found own half
  have listed : ⟨path, audit⟩ ∈ scope.audits.entries := AList.mem_lookup_iff.mp found
  rcases fenced : scope.deletionFenced context audit.runRef with error | _
  · exact ⟨error, rfl⟩
  · simp only [deletionFenced, require_ok, Bool.not_eq_true', List.any_eq_false] at fenced
    exact (fenced _ listed (by simp [own, covered path audit found half])).elim

/-- A save of an audit that is whole or fences its run keeps every run covered. -/
theorem meets_saveAudit (covered : scope.Covered) (safe : HalfDeleted audit → audit.fences = true) :
    (saveAudit identity audit).Meets (.alone Covered) (fun _ => Covered) (fun _ _ => True) scope := by
  have written : (withAudit identity audit scope).Covered := by
    intro path found listed half
    by_cases own : path = auditPath identity audit.deletionId
    · subst own
      rw [withAudit, AList.lookup_insert] at listed
      cases Option.some.inj listed
      exact safe half
    · rw [withAudit, AList.lookup_insert_ne own] at listed
      exact covered path found listed half
  apply meets_transact_solo (Discipline.alone_solo Covered)
  · change Covered (if _ then _ else _ : Except Raised Unit × ScopeState).2
    split_ifs
    · exact written
    · exact covered
  · exact trivial
  · by_cases own : audit.identityRef = none ∨ audit.identityRef = some (identityRef identity)
    · rw [if_pos own]
      exact written
    · rw [if_neg own]
      trivial

theorem keeps_saveAudit (covered : scope.Covered) (safe : HalfDeleted audit → audit.fences = true) :
    (saveAudit identity audit).Keeps Covered scope := by
  apply meets_mono (meets_saveAudit covered safe) <;> intros <;> trivial

section
variable (context identity) (faults : DeletionFaults)

theorem onTree_preserves (program : Deletion ContentTree Unit) :
    (onTree identity program).Preserves Covered := by
  apply preserves_zoom
  intro tree scope covered
  exact covered

theorem invalidateControl_preserves : (invalidateControl context identity).Preserves Covered := by
  apply preserves_bind (preserves_read _ _)
  intro found
  cases found with
  | none => trivial
  | some state =>
    apply preserves_relabel
    apply preserves_bind
    · apply preserves_transact
      intro scope covered
      exact covered
    · intro _
      apply preserves_transact
      intro scope covered
      exact covered

theorem unlinkControl_preserves (artifact : DeletionArtifactClass) (scope : ScopeState) :
    (unlinkControl identity faults artifact scope).Preserves Covered := by
  unfold unlinkControl
  split_ifs
  · apply preserves_transact
    intro scope covered
    cases faults.removal (recordName identity) <;> exact covered
  · apply preserves_transact
    intro scope covered
    cases faults.removal (jobName identity) <;> exact covered
  · trivial

/-- The removal of a target leaves the audits. -/
theorem deleteTarget_preserves (candidate : Candidate) (recovery : List SupportDeletionRecord) :
    (deleteTarget context identity faults candidate recovery).Preserves Covered := by
  unfold deleteTarget
  split_ifs
  · exact invalidateControl_preserves context identity
  · exact onTree_preserves identity _
  · apply preserves_bind (preserves_read _ _)
    intro paths
    apply preserves_bind (preserves_read _ _)
    intro scope
    apply preserves_bind (unlinkControl_preserves identity faults candidate.artifactClass scope)
    intro _
    exact onTree_preserves identity _

theorem cleanup_preserves : (cleanupAfterTargets identity faults).Preserves Covered := by
  apply preserves_bind (onTree_preserves identity _)
  intro _
  exact preserves_read _ _

theorem requestCancellation_covered (now : Timestamp) (covered : scope.Covered) :
    (scope.requestCancellation identity now).2.Covered := by
  unfold requestCancellation
  rcases scope.jobIfPresent identity with error | _ | job
  · exact covered
  · exact covered
  · dsimp only
    rcases cancellationRequest job now with error | _ | candidate
    · exact covered
    · exact covered
    · dsimp only
      split_ifs <;> exact covered

end

theorem keeps_execute (covered : scope.Covered) (faults : DeletionFaults)
    (found : Option ScopedJobRecord) {call : DeletionCall} {request : DeletionRequest}
    {hold : LegalHoldDecision} {state : BackendState} {candidates : List Candidate}
    {current : Option DeletionAudit} :
    ((backend context identity faults found).execute call request hold state candidates
      current).Keeps Covered scope := by
  apply meets_execute
  · intro _
    trivial
  intro plan plans _
  let active := activeAudit call hold state plan
  have activates : Activates state plan active := activeAudit_activates hold state plan
  have removal : Removal (backend context identity faults found) Covered fun _ => Covered := by
    refine ⟨fun _ _ => id, fun _ _ _ _ => id, fun _ candidate recovery _ kept => ?_⟩
    exact preserves_meets (deleteTarget_preserves context identity faults candidate recovery)
      (fun _ => id) kept
  have start : (saveAudit identity active).Meets (.alone Covered) (fun _ => Covered)
      (fun _ _ => True) scope := meets_saveAudit covered fun _ => by
    simp [DeletionAudit.fences, activates.started]
  have cleanup (gone : Candidate → Prop) (after : ScopeState) (kept : after.Covered) :
      (cleanupAfterTargets identity faults).Meets (.alone Covered) (fun _ => Covered)
        (fun _ => Covered) after :=
    preserves_meets (cleanup_preserves identity faults) (fun _ => id) kept
  apply meets_carryOut removal start cleanup
  · intro ended continues partially _ after kept
    exact keeps_saveAudit kept fun _ => by simp [DeletionAudit.fences, partially]
  · intro ended continues complete _ after kept
    exact keeps_saveAudit kept fun half => (half.1 complete).elim

theorem safeCall_covered {left : ScopeState} (covered : scope.Covered)
    (called : SafeCall context scope left) : left.Covered := by
  obtain ⟨identity, faults, found, call, fence, crashed⟩ := called
  have asked : (scope.requestCancellation identity call.updatedAt).2.Covered :=
    requestCancellation_covered identity call.updatedAt covered
  apply Keeps.crashes _ covered crashed
  apply keeps_run_of_fence fence asked
  · intro _ request current saved _ _ blocks intact after reached
    have kept : after.Covered := by
      rcases reached with rfl | rfl
      · exact covered
      · exact asked
    exact keeps_saveAudit kept fun half => (intact half).elim
  · intro _ request hold state candidates current _ _
    exact keeps_execute covered faults found

end
end ScopeState
end
section
variable [Sha256]

/-- In every run of safe calls the fence covers every deletion that is half done. -/
theorem fence_covers :
    (∀ (runRef : String) (first site : WorkspaceSite), first.audits = ∅ →
      ReflTransGen (WorkspaceSite.SafeCall runRef) first site → site.FenceCovers) ∧
    ∀ (context : AuthorizedScopeContext) (first scope : ScopeState), first.audits = ∅ →
      ReflTransGen (ScopeState.SafeCall context) first scope → scope.FenceCovers context := by
  constructor
  · intro runRef first site fresh reached
    have covered : site.Covered := by
      induction reached with
      | refl => exact WorkspaceSite.covered_start first fresh
      | tail _ called ih => exact WorkspaceSite.safeCall_covered ih called
    exact covered.covers
  · intro context first scope fresh reached
    have covered : scope.Covered := by
      induction reached with
      | refl =>
        intro path audit found
        rw [fresh] at found
        cases found
      | tail _ called ih => exact ScopeState.safeCall_covered ih called
    exact covered.fenceCovers

end

section
attribute [local instance] Sha256.polynomial

/-- A released deletion fails at the state of its run. -/
def halfway (scopeRef : String) : DeletionCall :=
  .answered scopeRef "run-1" .release fun candidate => candidate.artifactClass == .runState

/-- A complete run whose deletion has failed. -/
def WorkspaceSite.halved : WorkspaceSite :=
  (((WorkspaceSite.backend .calm "run-1").run (halfway "workspace")).run .finished).2

/-- The same run after a hold. -/
def WorkspaceSite.held : WorkspaceSite :=
  (((WorkspaceSite.backend .calm "run-1").run
    (.answered "workspace" "run-1" .hold fun _ => false)).run .halved).2

def ScopeState.halved : ScopeState :=
  (((ScopeState.backend .sample .sample .calm none).run (halfway "scope-1")).run .orphaned).2

/-- The first deletion of a run finds no other audit. -/
theorem fence_covers_halved :
    WorkspaceSite.halved.FenceCovers ∧ ScopeState.halved.FenceCovers .sample ∧
      WorkspaceSite.halved.audits.entries.any (fun audit =>
        audit.2.state == .partially && audit.2.targets.any (·.status == .deleted)) = true ∧
      ScopeState.halved.audits.entries.any (fun audit =>
        audit.2.state == .partially && audit.2.targets.any (·.status == .deleted)) = true := by
  refine ⟨?_, ?_, by decide +kernel, by decide +kernel⟩
  · apply fence_covers.1 "run-1" .finished _ rfl (.single ⟨.calm, halfway "workspace", ?_, crashes_run _ _⟩)
    refine Or.inr fun request current _ loaded _ => ⟨fun _ => ⟨?_, ?_⟩, fun _ => ?_⟩
    · intro other audit _ listed
      cases listed
    · cases Except.ok.inj loaded
      intro audit found
      cases found
    · intro other audit _ listed
      cases listed
  · apply fence_covers.2 .sample .orphaned _ rfl
    refine .single ⟨.sample, .calm, none, halfway "scope-1", ?_, crashes_run _ _⟩
    refine Or.inr fun request current _ loaded _ => ⟨fun _ => ⟨trivial, ?_⟩, fun _ => trivial⟩
    cases Except.ok.inj loaded
    intro audit found
    cases found

/-- A hold on a half deleted run lifts the fence of the run. -/
theorem fence_lifted_by_hold :
    ¬∀ (_ : Sha256),
      (∀ (runRef : String) (first site : WorkspaceSite), first.audits = ∅ →
        ReflTransGen (WorkspaceSite.Called runRef) first site → site.FenceCovers) ∧
      ∀ (context : AuthorizedScopeContext) (first scope : ScopeState), first.audits = ∅ →
        ReflTransGen (ScopeState.Called context) first scope → scope.FenceCovers context := by
  intro claim
  have reached : ReflTransGen (WorkspaceSite.Called "run-1") .finished .held :=
    .tail (.single ⟨.calm, _, crashes_run _ _⟩) ⟨.calm, _, crashes_run _ _⟩
  have covers := (claim Sha256.polynomial).1 "run-1" .finished .held rfl reached
  have facts : ((WorkspaceSite.held.audits.lookup "deletion-1").any fun audit =>
      audit.state == .blocked && audit.targets.any (·.status == .deleted)) = true ∧
      WorkspaceSite.held.workspaceMutationGuard = .ok () := by
    decide +kernel
  obtain ⟨half, unfenced⟩ := facts
  obtain ⟨audit, found, half⟩ := (Option.any_eq_true _ _).mp half
  have half : audit.state = .blocked ∧ ∃ target ∈ audit.targets, target.status = .deleted := by
    simpa using half
  obtain ⟨error, refused⟩ := covers "deletion-1" audit found ⟨by simp [half.1], half.2⟩
  cases refused.symm.trans unfenced

end

end KSlide
