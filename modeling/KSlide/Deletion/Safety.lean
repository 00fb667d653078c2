import KSlide.Deletion.Scoped
import KSlide.Deletion.Workspace
import KSlide.Deletion.Decision
import KSlide.Json.Edits

/-
This file gives the conditions under which a deletion touches the targets of a run.
-/

namespace KSlide
open Interleaving Program

/-- The run has no anchor that the audit does not have with the same value. An audit without
anchors has the reference of the generation, or the run has no anchors either. -/
def SameGeneration (state : BackendState) (audit : DeletionAudit) : Prop :=
  if audit.generationAnchors = [] then
    state.generationRef = audit.targetGenerationRef ∨ state.generationAnchors = []
  else ∀ anchor ∈ state.generationAnchors, anchor ∈ audit.generationAnchors

/-- The check of a generation compares the anchors of the run with the anchors of the audit. -/
theorem generationMatches_same {state : BackendState} {audit : DeletionAudit}
    (found : generationMatches state audit = true) : SameGeneration state audit := by
  unfold generationMatches at found
  unfold SameGeneration
  dsimp only at found
  by_cases anchored : audit.generationAnchors = []
  · rw [if_pos anchored]
    rw [if_neg (by simpa using anchored)] at found
    split_ifs at found with same present
    · exact Or.inl same
    · exact Or.inr (by simpa using present)
  · rw [if_neg anchored]
    rw [if_pos anchored, Bool.and_eq_true] at found
    obtain ⟨known, proven⟩ := found
    rintro ⟨name, reference⟩ listed
    obtain ⟨⟨expected, proof⟩, member, same⟩ := List.any_eq_true.mp (List.all_eq_true.mp known _ listed)
    have same : expected = name := by simpa using same
    subst same
    have proven := List.all_eq_true.mp proven _ member
    rw [Json.lookup_of_mem state.distinctAnchors listed] at proven
    have same : reference = proof := by simpa using proven
    rwa [same]

namespace DeletionBackend
variable {State : Type} {backend : DeletionBackend State} {call : DeletionCall}

/-- The mark of a call of the deletion of a target. -/
def Unmarked (label : DeletionAction) : Prop := ∀ artifact, label ≠ .deleteTarget artifact

/-- The hold, the lifecycle and the generation of the run that a deletion touches. -/
structure Authorized (backend : DeletionBackend State) (call : DeletionCall) (dir : State)
    (hold : LegalHoldDecision) (state : BackendState) (current : Option DeletionAudit) : Prop where
  answer : call.lockedHold = .ok hold
  scope : hold.scopeRef = backend.scopeRef
  run : hold.runRef = backend.runRef
  release : hold.status = .release
  read : backend.state dir = .ok state
  inactive : state.active = false
  loaded : backend.loadAudit call.deletionId dir = .ok current
  generation : ∀ audit ∈ current, audit.targets = [] ∨ SameGeneration state audit

/-- The saves of a deletion touch no target. -/
theorem unmarked_refuseGeneration (saves : ∀ audit, (backend.saveAudit audit).Uses Unmarked)
    (request : DeletionRequest) (audit : DeletionAudit) :
    (backend.refuseGeneration call request audit).Uses Unmarked := by
  unfold refuseGeneration
  split_ifs
  · exact uses_bind (saves _) fun _ => trivial
  · exact trivial

theorem unmarked_refuseLifecycle (saves : ∀ audit, (backend.saveAudit audit).Uses Unmarked)
    (request : DeletionRequest) (hold : LegalHoldDecision) (state : BackendState)
    (errorCode : DeletionResultCode) (current : Option DeletionAudit) :
    (backend.refuseLifecycle call request hold state errorCode current).Uses Unmarked := by
  unfold refuseLifecycle
  split_ifs
  · exact trivial
  · exact uses_bind (saves _) fun _ => trivial

/-- Only a released deletion touches a target. -/
theorem unmarked_perform (saves : ∀ audit, (backend.saveAudit audit).Uses Unmarked)
    (request : DeletionRequest) {decision : DeletionDecision}
    (kept : ∀ hold state candidates current,
      decision ≠ .released hold state candidates current) :
    (backend.perform call request decision).Uses Unmarked := by
  cases decision with
  | replayed audit => trivial
  | mismatched audit => exact unmarked_refuseGeneration saves request audit
  | held hold errorCode existing =>
    dsimp only [perform]
    split_ifs
    · exact trivial
    · exact uses_bind (saves _) fun _ => trivial
  | running hold state errorCode current =>
    have refused : (backend.refuseLifecycle call request hold state errorCode current).Uses
        Unmarked := unmarked_refuseLifecycle saves request hold state errorCode current
    dsimp only [perform]
    split_ifs
    · refine uses_bind (uses_transact ?_ _) fun _ => refused
      intro artifact same
      cases same
    · exact refused
  | released hold state candidates current => exact (kept hold state candidates current rfl).elim

theorem deleteTarget_authorized (saves : ∀ audit, (backend.saveAudit audit).Uses Unmarked)
    {dir before after : State} {artifact : DeletionArtifactClass}
    (performed : (backend.run call).Performs dir (.deleteTarget artifact) before after) :
    ∃ hold state current, Authorized backend call dir hold state current := by
  rcases reads_performs reads_remaining performed with silent | performed
  · rcases silent with same | same <;> cases same
  · unfold remaining at performed
    cases requested : backend.request call with
    | error error =>
      rw [requested] at performed
      exact performed.elim
    | ok request =>
      rw [requested] at performed
      dsimp only at performed
      cases decided : backend.decision call dir request with
      | error error =>
        rw [decided] at performed
        exact performed.elim
      | ok decision =>
        rw [decided] at performed
        by_cases kept : ∀ hold state candidates current,
            decision ≠ .released hold state candidates current
        · have unmarked : (backend.perform call request decision).Uses Unmarked :=
            unmarked_perform saves request kept
          exact (uses_performs unmarked performed artifact rfl).elim
        · push Not at kept
          obtain ⟨hold, state, candidates, current, rfl⟩ := kept
          obtain ⟨cleared, inactive, -⟩ := decision_released decided
          obtain ⟨answer, scope, run⟩ := safeHold_ok.mp cleared.lockedHold
          obtain ⟨-, ownScope, ownRun, -⟩ := request_ok requested
          refine ⟨hold, state, current, answer, scope.trans ownScope, run.trans ownRun,
            cleared.release, cleared.read, inactive, cleared.loaded, ?_⟩
          rintro audit rfl
          have fresh := cleared.fresh
          by_cases empty : audit.targets = []
          · exact Or.inl empty
          · refine Or.inr (generationMatches_same ?_)
            simpa [stale, empty] using fresh

end DeletionBackend

section
variable [Sha256]
open DeletionBackend

theorem WorkspaceSite.saveAudit_unmarked (audit : DeletionAudit) :
    (WorkspaceSite.saveAudit audit).Uses Unmarked := by
  apply uses_bind
  · exact uses_transact (by simp [Unmarked]) _
  · intro _
    apply uses_bind
    · exact uses_transact (by simp [Unmarked]) _
    · intro _
      exact uses_transact (by simp [Unmarked]) _

theorem ScopeState.saveAudit_unmarked (identity : DurableJobIdentity) (audit : DeletionAudit) :
    (ScopeState.saveAudit identity audit).Uses Unmarked :=
  uses_transact (by simp [Unmarked]) _

/-- Both backends delete a target only for a released run at rest, and an audit with targets keeps
its generation. -/
theorem deletion_authorized :
    (∀ faults runRef call site artifact before after,
      ((WorkspaceSite.backend faults runRef).run call).Performs site (.deleteTarget artifact)
        before after →
      ∃ hold state current,
        Authorized (WorkspaceSite.backend faults runRef) call site hold state current) ∧
    ∀ context identity faults found call scope artifact before after,
      ((ScopeState.backend context identity faults found).run call).Performs scope
        (.deleteTarget artifact) before after →
      ∃ hold state current,
        Authorized (ScopeState.backend context identity faults found) call scope hold state current := by
  constructor
  · intro faults runRef call site artifact before after performed
    exact deleteTarget_authorized WorkspaceSite.saveAudit_unmarked performed
  · intro context identity faults found call scope artifact before after performed
    exact deleteTarget_authorized (ScopeState.saveAudit_unmarked identity) performed

end

section
attribute [local instance] Sha256.polynomial
open DeletionBackend

/-- A deletion that both answers of the hold authority release. -/
def freed (scopeRef : String) : DeletionCall :=
  .answered scopeRef "run-1" .release fun _ => false

theorem freed_performs :
    .deleteTarget .metrics ∈
      ((WorkspaceSite.backend .calm "run-1").run (freed "workspace")).performed .finished ∧
    .deleteTarget .metrics ∈
      ((ScopeState.backend .sample .sample .calm none).run (freed "scope-1")).performed .orphaned := by
  decide +kernel

theorem deletion_authorized_finished :
    (∃ hold state current, Authorized (WorkspaceSite.backend .calm "run-1") (freed "workspace")
      .finished hold state current) ∧
    ∃ hold state current, Authorized (ScopeState.backend .sample .sample .calm none)
      (freed "scope-1") .orphaned hold state current := by
  obtain ⟨site, scope⟩ := freed_performs
  constructor
  · obtain ⟨before, after, performed⟩ := performs_of_mem site
    exact deletion_authorized.1 .calm "run-1" (freed "workspace") .finished .metrics before after
      performed
  · obtain ⟨before, after, performed⟩ := performs_of_mem scope
    exact deletion_authorized.2 .sample .sample .calm none (freed "scope-1") .orphaned .metrics
      before after performed

/-- A run of the same name that was created later. -/
def WorkspaceSite.recreated (audits : AList fun _ : String => DeletionAudit) : WorkspaceSite :=
  { WorkspaceSite.finished with
    runState := some [("created_at", .str "2026-02-01T00:00:00Z"), ("phase", .str "COMPLETE")]
    audits := audits }

/-- A deletion that both answers of the hold authority keep. -/
def kept : DeletionCall := .answered "workspace" "run-1" .hold fun _ => false

/-- The audits of a run that was held before its first plan. -/
def held : AList fun _ : String => DeletionAudit :=
  (((WorkspaceSite.backend .calm "run-1").run kept).run .finished).2.audits

/-- A hold that came before the plan leaves an audit that adopts a recreated run. -/
theorem deletion_recreated : ¬∀ (_ : Sha256) (faults : DeletionFaults) (runRef : String)
    (first second : DeletionCall) (old new : WorkspaceSite),
    first.deletionId = second.deletionId → old.audits = ∅ →
    new.audits = (((WorkspaceSite.backend faults runRef).run first).run old).2.audits →
    (∀ before after, old.state runRef = .ok before → new.state runRef = .ok after →
      ∀ anchor ∈ after.generationAnchors, anchor ∉ before.generationAnchors) →
    ∀ artifact before after, ¬((WorkspaceSite.backend faults runRef).run second).Performs new
      (.deleteTarget artifact) before after := by
  intro claim
  have facts : (match WorkspaceSite.finished.state "run-1",
        (WorkspaceSite.recreated held).state "run-1" with
      | .ok before, .ok after =>
        decide (∀ anchor ∈ after.generationAnchors, anchor ∉ before.generationAnchors)
      | _, _ => true) = true ∧
      .deleteTarget .metrics ∈ ((WorkspaceSite.backend .calm "run-1").run
        (freed "workspace")).performed (.recreated held) := by
    decide +kernel
  have apart : ∀ before after, WorkspaceSite.finished.state "run-1" = .ok before →
      (WorkspaceSite.recreated held).state "run-1" = .ok after →
      ∀ anchor ∈ after.generationAnchors, anchor ∉ before.generationAnchors := by
    intro before after old new
    rw [old, new] at facts
    simpa using facts.1
  obtain ⟨before, after, performed⟩ := performs_of_mem facts.2
  exact claim Sha256.polynomial .calm "run-1" kept (freed "workspace") .finished (.recreated held)
    rfl rfl rfl apart .metrics before after performed

end
end KSlide
