import KSlide.Deletion.Decision

/-
This file gives the proof rules for the plan of a deletion and the loop over its targets.
-/

namespace KSlide
open Interleaving Program List

namespace DeletionAudit

/-- The targets change alone. -/
theorem withTargets_ok {audit plan : DeletionAudit} {targets : List DeletionTargetRecord} :
    audit.withTargets targets = .ok plan ↔ ∃ distinct,
      plan = { audit with targets, distinctTargets := distinct } := by
  unfold withTargets
  split_ifs with distinct
  · simp only [Except.ok.injEq]
    constructor
    · rintro rfl
      exact ⟨distinct, rfl⟩
    · rintro ⟨_, rfl⟩
      rfl
  · simp only [false_iff, not_exists]
    exact fun found _ => distinct found

/-- The support copies change alone. -/
theorem withSupport_ok {audit plan : DeletionAudit} {support : List SupportDeletionRecord}
    (found : audit.withSupport support = .ok plan) : ∃ distinct own,
      plan = { audit with
        supportRecovery := support, distinctSupport := distinct, ownSupport := own } := by
  unfold withSupport at found
  split_ifs at found with valid
  cases found
  exact ⟨valid.1, valid.2, rfl⟩

end DeletionAudit

namespace DeletionBackend
variable {State : Type} {backend : DeletionBackend State} {call : DeletionCall}

section
variable {request : DeletionRequest} {hold : LegalHoldDecision} {state : BackendState}
variable {candidates : List Candidate} {current : Option DeletionAudit}

/-- The plan keeps the identity, the generation and the targets of its audit and adds targets that
are planned or that appeared too late. -/
structure Plans (request : DeletionRequest) (state : BackendState) (candidates : List Candidate)
    (current : Option DeletionAudit) (plan : DeletionAudit) : Prop where
  deletionId : plan.deletionId = current.elim request.deletionId (·.deletionId)
  generationRef : plan.targetGenerationRef =
    current.elim state.generationRef (·.targetGenerationRef)
  anchors : plan.generationAnchors = current.elim state.generationAnchors (·.generationAnchors)
  identityRef : plan.identityRef = current.elim none (·.identityRef)
  kept : ∀ audit ∈ current, ∀ target ∈ audit.targets, target ∈ plan.targets
  origin : ∀ target ∈ plan.targets, (∃ audit ∈ current, target ∈ audit.targets) ∨
    ∃ candidate ∈ candidates, target = candidate.planned ∨ target = candidate.added

variable {audit plan : DeletionAudit}

theorem adopted
    (planned : (if audit.targets = [] then audit.withTargets (candidates.map Candidate.planned)
      else .ok audit) = .ok plan) : ∃ targets distinct,
      plan = { audit with targets, distinctTargets := distinct } ∧
        (targets = audit.targets ∨ audit.targets = [] ∧ targets = candidates.map Candidate.planned) := by
  split_ifs at planned with empty
  · obtain ⟨distinct, same⟩ := DeletionAudit.withTargets_ok.mp planned
    exact ⟨_, distinct, same, Or.inr ⟨empty, rfl⟩⟩
  · cases planned
    exact ⟨_, audit.distinctTargets, rfl, Or.inl rfl⟩

theorem planned_origin (target : DeletionTargetRecord)
    (listed : target ∈ candidates.map Candidate.planned) :
    ∃ candidate ∈ candidates, target = candidate.planned ∨ target = candidate.added := by
  obtain ⟨candidate, found, rfl⟩ := mem_map.mp listed
  exact ⟨candidate, found, Or.inl rfl⟩

theorem plannedAudit_plans {plan : DeletionAudit}
    (planned : plannedAudit request hold state candidates current = .ok plan) :
    Plans request state candidates current plan := by
  cases current with
  | some audit =>
    obtain ⟨targets, distinct, rfl, same | ⟨empty, same⟩⟩ :=
      @adopted candidates audit plan planned
    · subst same
      exact ⟨rfl, rfl, rfl, rfl, by simp, fun target listed => Or.inl ⟨audit, rfl, listed⟩⟩
    · subst same
      exact ⟨rfl, rfl, rfl, rfl, by simp [empty],
        fun target listed => Or.inr (planned_origin target listed)⟩
  | none =>
    obtain ⟨audit, made, rest⟩ := bind_ok.mp planned
    obtain ⟨unique, rfl⟩ := DeletionAudit.withTargets_ok.mp made
    obtain ⟨targets, distinct, rfl, origin⟩ := @adopted candidates _ _ rest
    have listed : targets = candidates.map Candidate.planned := by
      rcases origin with same | ⟨-, same⟩
      · exact same
      · exact same
    subst listed
    exact ⟨rfl, rfl, rfl, rfl, by simp, fun target listed => Or.inr (planned_origin target listed)⟩

theorem withAdded_plans (plans : Plans request state candidates current audit)
    (added : withAdded candidates audit = .ok plan) :
    Plans request state candidates current plan ∧
      ∀ candidate ∈ candidates, candidate.targetRef ∈ plan.targets.map (·.targetRef) := by
  unfold withAdded at added
  dsimp only at added
  split at added
  · rename_i none
    cases added
    refine ⟨plans, fun candidate listed => ?_⟩
    have known := filter_eq_nil_iff.mp none candidate listed
    simpa using known
  · obtain ⟨distinct, rfl⟩ := DeletionAudit.withTargets_ok.mp added
    refine ⟨⟨plans.deletionId, plans.generationRef, plans.anchors, plans.identityRef,
      fun audit member target listed => ?_, fun target listed => ?_⟩, fun candidate listed => ?_⟩
    · exact mem_append.mpr (Or.inl (plans.kept audit member target listed))
    · rcases mem_append.mp listed with before | after
      · exact plans.origin target before
      · obtain ⟨candidate, found, rfl⟩ := mem_map.mp after
        exact Or.inr ⟨candidate, (mem_filter.mp found).1, Or.inr rfl⟩
    · by_cases known : candidate.targetRef ∈ audit.targets.map (·.targetRef)
      · rw [map_append]
        exact mem_append.mpr (Or.inl known)
      · rw [map_append, map_map]
        refine mem_append.mpr (Or.inr (mem_map.mpr ⟨candidate, ?_, rfl⟩))
        exact mem_filter.mpr ⟨listed, by simpa using known⟩

theorem withSupport_plans {support : List SupportDeletionRecord}
    (plans : Plans request state candidates current audit)
    (found : audit.withSupport support = .ok plan) : Plans request state candidates current plan := by
  obtain ⟨distinct, own, rfl⟩ := DeletionAudit.withSupport_ok found
  exact ⟨plans.deletionId, plans.generationRef, plans.anchors, plans.identityRef, plans.kept,
    plans.origin⟩

/-- A rule for a whole deletion asks only for a rule of its plan. -/
theorem meets_execute {invariant : State → Prop} {post : DeletionResult → State → Prop}
    {raised : Raised → State → Prop} {dir : State} (failed : ∀ error, raised error dir)
    (carried : ∀ plan, Plans request state candidates current plan →
      (∀ candidate ∈ candidates, candidate.targetRef ∈ plan.targets.map (·.targetRef)) →
      (backend.carryOut call request candidates (activeAudit call hold state plan)).Meets
        (.alone invariant) post raised dir) :
    (backend.execute call request hold state candidates current).Meets
      (.alone invariant) post raised dir := by
  have solo : (Discipline.alone invariant : Discipline DeletionAction State).Solo :=
    Discipline.alone_solo invariant
  have extended (audit : DeletionAudit) (plans : Plans request state candidates current audit) :
      (Program.lift (withAdded candidates audit) >>= fun plan =>
        backend.carryOut call request candidates (activeAudit call hold state plan)).Meets
          (.alone invariant) post raised dir := by
    apply meets_lift_bind
    · intro plan added
      obtain ⟨plans, known⟩ := withAdded_plans plans added
      exact carried plan plans known
    · intro error _
      exact failed error
  apply meets_lift_bind
  · intro audit planned
    have plans := plannedAudit_plans planned
    unfold withRecovery
    split_ifs
    · rw [bind_assoc]
      apply meets_read_bind_solo solo
      · intro recovery _
        apply meets_lift_bind
        · intro audit recovered
          exact extended audit (withSupport_plans plans recovered)
        · intro error _
          exact failed error
      · intro error _
        exact failed error
    · exact extended audit plans
  · intro error _
    exact failed error

/-- The audit of a plan in progress has the identity and the targets of the plan. -/
structure Activates (state : BackendState) (plan active : DeletionAudit) : Prop where
  deletionId : active.deletionId = plan.deletionId
  generationRef : active.targetGenerationRef = plan.targetGenerationRef
  identityRef : active.identityRef = plan.identityRef
  targets : active.targets = plan.targets
  started : active.state = .inProgress
  anchors : active.generationAnchors =
    if plan.generationAnchors = [] then state.generationAnchors else plan.generationAnchors

theorem activeAudit_activates (hold : LegalHoldDecision) (state : BackendState)
    (plan : DeletionAudit) : Activates state plan (activeAudit call hold state plan) := by
  by_cases bare : plan.generationAnchors = []
  · have anchored : (plan.decided hold).anchored state = { plan.decided hold with
        generationAnchors := state.generationAnchors
        distinctAnchors := state.distinctAnchors } := if_pos bare
    unfold activeAudit
    rw [anchored]
    exact ⟨rfl, rfl, rfl, rfl, rfl, (if_pos bare).symm⟩
  · have anchored : (plan.decided hold).anchored state = plan.decided hold := if_neg bare
    unfold activeAudit
    rw [anchored]
    exact ⟨rfl, rfl, rfl, rfl, rfl, (if_neg bare).symm⟩

end

section
variable {invariant : State → Prop} {during finished : (Candidate → Prop) → State → Prop}
variable {gone : Candidate → Prop} {request : DeletionRequest} {candidates : List Candidate}
variable {recovery : List SupportDeletionRecord} {dir : State}

/-- The removal of a target keeps what holds during the loop, and a removed target is gone. -/
structure Removal (backend : DeletionBackend State) (invariant : State → Prop)
    (during : (Candidate → Prop) → State → Prop) : Prop where
  kept : ∀ gone dir, during gone dir → invariant dir
  weaken : ∀ gone fewer dir, (∀ candidate, fewer candidate → gone candidate) →
    during gone dir → during fewer dir
  removes : ∀ gone candidate recovery dir, during gone dir →
    (backend.deleteTarget candidate recovery).Meets (.alone invariant)
      (fun _ => during fun other => gone other ∨ other = candidate) (fun _ => during gone) dir

/-- A record keeps its reference and its class. -/
def SameTarget (before after : DeletionTargetRecord) : Prop :=
  after.targetRef = before.targetRef ∧ after.artifactClass = before.artifactClass

/-- The target is gone at the end of a deletion. -/
def Ended (record : DeletionTargetRecord) : Prop :=
  record.status = .deleted ∨ record.status = .absent

/-- The loop over the targets changes only their results. -/
structure Continues (active ended : DeletionAudit) : Prop where
  deletionId : ended.deletionId = active.deletionId
  generationRef : ended.targetGenerationRef = active.targetGenerationRef
  anchors : ended.generationAnchors = active.generationAnchors
  identityRef : ended.identityRef = active.identityRef
  targets : List.Forall₂ SameTarget active.targets ended.targets

theorem sameTarget_refl (record : DeletionTargetRecord) : SameTarget record record := ⟨rfl, rfl⟩

/-- The support facts matter only for the support target. -/
theorem reopened_own (record : DeletionTargetRecord) :
    reopened (if record.artifactClass = .supportContent then recovery else []) candidates record =
      reopened recovery candidates record := by
  by_cases support : record.artifactClass = .supportContent
  · rw [if_pos support]
  · simp [reopened, support]

theorem meets_deleteCandidate (removal : Removal backend invariant during) {candidate : Candidate}
    (start : during gone dir) :
    (backend.deleteCandidate call candidate recovery).Meets (.alone invariant)
      (fun _ => during fun other => gone other ∨ other = candidate) (fun _ => during gone) dir := by
  unfold deleteCandidate
  split_ifs
  · exact start
  · apply meets_read_bind_solo (Discipline.alone_solo _)
    · intro _ _
      exact removal.removes gone candidate recovery dir start
    · intro error failed
      cases failed

theorem meets_deleteRecord (removal : Removal backend invariant during)
    (record : DeletionTargetRecord) (start : during gone dir) :
    (backend.deleteRecord call recovery candidates record).Meets (.alone invariant)
      (fun ended after => SameTarget record ended ∧
        (ended.status = .failed ∧ during gone after ∨ Ended ended ∧
          during (fun other => gone other ∨ reopened recovery candidates record = some other) after))
      (fun _ => during gone) dir := by
  have absent (missing : reopened recovery candidates record = none) :
      during (fun other => gone other ∨ reopened recovery candidates record = some other) dir := by
    apply removal.weaken gone _ dir _ start
    intro other known
    rw [missing] at known
    simpa using known
  unfold deleteRecord
  dsimp only
  rw [reopened_own]
  by_cases added : record.status = .failed ∧ record.resultCode = .targetAdded
  · rw [if_pos added]
    exact ⟨sameTarget_refl record, Or.inl ⟨added.1, start⟩⟩
  · rw [if_neg added]
    cases opened : reopened recovery candidates record with
    | none =>
      dsimp only
      rw [opened] at absent
      by_cases settled : record.status ∈ [.deleted, .absent]
      · rw [if_pos settled]
        have settled : Ended record := by simpa [Ended] using settled
        exact ⟨sameTarget_refl record, Or.inr ⟨settled, absent rfl⟩⟩
      · rw [if_neg settled]
        exact ⟨⟨rfl, rfl⟩, Or.inr ⟨Or.inr rfl, absent rfl⟩⟩
    | some candidate =>
      dsimp only
      apply meets_tryCatch
      · apply meets_bind (meets_deleteCandidate removal start)
        intro _ after removed
        refine ⟨⟨rfl, rfl⟩, Or.inr ⟨Or.inl rfl, removal.weaken _ _ _ ?_ removed⟩⟩
        rintro other (before | same)
        · exact Or.inl before
        · exact Or.inr (Option.some.inj same).symm
      · intro error after failed
        cases failureCode error with
        | none => exact failed
        | some resultCode => exact ⟨⟨rfl, rfl⟩, Or.inl ⟨rfl, failed⟩⟩

theorem meets_deleteTargets (removal : Removal backend invariant during)
    (records : List DeletionTargetRecord) (start : during gone dir) :
    (backend.deleteTargets call recovery candidates records).Meets (.alone invariant)
      (fun ended after => List.Forall₂ SameTarget records ended ∧
        ((∃ record ∈ ended, record.status = .failed) ∧ during gone after ∨
          (∀ record ∈ ended, Ended record) ∧ during (fun other => gone other ∨
            ∃ record ∈ records, reopened recovery candidates record = some other) after))
      (fun _ => during gone) dir := by
  induction records generalizing gone dir with
  | nil =>
    refine ⟨.nil, Or.inr ⟨by simp, removal.weaken gone _ dir ?_ start⟩⟩
    simp
  | cons record records ih =>
    apply meets_bind (meets_deleteRecord removal record start)
    rintro ended after ⟨same, reached⟩
    have rest : List.Forall₂ SameTarget records records :=
      forall₂_same.mpr fun record _ => sameTarget_refl record
    have before : during gone after := by
      rcases reached with ⟨-, kept⟩ | ⟨-, kept⟩
      · exact kept
      · exact removal.weaken _ _ _ (fun _ => Or.inl) kept
    split_ifs with stopped
    · exact ⟨.cons same rest, Or.inl ⟨⟨ended, mem_cons_self, stopped.1⟩, before⟩⟩
    · rw [map_eq_pure_bind]
      rcases reached with ⟨failed, kept⟩ | ⟨settled, kept⟩
      · apply meets_bind (ih kept)
        rintro others last ⟨sames, reached⟩
        refine ⟨.cons same sames, Or.inl ⟨⟨ended, mem_cons_self, failed⟩, ?_⟩⟩
        rcases reached with ⟨-, kept⟩ | ⟨-, kept⟩
        · exact kept
        · exact removal.weaken _ _ _ (fun _ => Or.inl) kept
      · apply meets_bind (meets_mono (ih kept) (fun _ _ => id)
          fun _ _ => removal.weaken _ _ _ fun _ => Or.inl)
        rintro others last ⟨sames, ⟨⟨failed, listed, status⟩, kept⟩ | ⟨all, kept⟩⟩
        · refine ⟨.cons same sames, Or.inl ⟨⟨failed, mem_cons_of_mem _ listed, status⟩, ?_⟩⟩
          exact removal.weaken _ _ _ (fun _ => Or.inl) kept
        · refine ⟨.cons same sames, Or.inr ⟨?_, removal.weaken _ _ _ ?_ kept⟩⟩
          · exact forall_mem_cons.mpr ⟨settled, all⟩
          · rintro other (earlier | ⟨found, listed, opened⟩)
            · exact Or.inl (Or.inl earlier)
            · rcases mem_cons.mp listed with rfl | listed
              · exact Or.inl (Or.inr opened)
              · exact Or.inr ⟨found, listed, opened⟩

theorem meets_endTargets {audit : DeletionAudit} {done : State → Prop}
    (cleanup : (∀ record ∈ audit.targets, record.status ≠ .failed) →
      backend.cleanupAfterTargets.Meets (.alone invariant)
        (fun _ => done) (fun _ => during gone) dir)
    (stopped : ∀ after, during gone after →
      (backend.saveAudit (audit.settled .partially .partially .targetDeleteFailed
        call.updatedAt.text)).Keeps invariant after)
    (completed : (∀ record ∈ audit.targets, record.status ≠ .failed) → ∀ after, done after →
      (backend.saveAudit (audit.settled .complete .complete .none call.updatedAt.text)).Keeps
        invariant after)
    (start : during gone dir) :
    (backend.endTargets call request audit).Keeps invariant dir := by
  have ended (after : State) (reached : during gone after) :
      (backend.endPartial call request audit).Keeps invariant after := by
    apply meets_bind (stopped after reached)
    intro _ _ _
    exact trivial
  unfold endTargets
  split_ifs with failed
  · exact ended dir start
  · have succeeded : ∀ record ∈ audit.targets, record.status ≠ .failed := by
      simpa using failed
    have cleaned {handler : Raised → Deletion State Bool}
        (known : ∀ error, handler (.kslide error) = return false)
        (other : ∀ kind, handler (.other kind) = throw (.other kind)) :
        (tryCatch (do
          backend.cleanupAfterTargets
          return true) handler).Meets (.alone invariant)
        (fun cleaned after => if cleaned then done after else during gone after)
        (fun _ _ => True) dir := by
      apply meets_tryCatch
      · apply meets_bind (cleanup succeeded)
        intro _ after reached
        simpa using reached
      · intro error after reached
        cases error with
        | kslide error =>
          rw [known]
          simpa using reached
        | other kind =>
          rw [other]
          trivial
    apply meets_bind (cleaned ?known ?other)
    case known => exact fun _ => rfl
    case other => exact fun _ => rfl
    intro cleaned after reached
    cases cleaned with
    | true =>
      apply meets_bind (completed succeeded after (by simpa using reached))
      intro _ _ _
      exact trivial
    | false => exact ended after (by simpa using reached)

/-- A rule for a plan asks for rules of its saves, of its removals and of its cleanup. -/
theorem meets_carryOut {active : DeletionAudit} (removal : Removal backend invariant during)
    (start : (backend.saveAudit active).Meets (.alone invariant)
      (fun _ => during fun _ => False) (fun _ _ => True) dir)
    (cleanup : ∀ gone dir, during gone dir →
      backend.cleanupAfterTargets.Meets (.alone invariant)
        (fun _ => finished gone) (fun _ => during gone) dir)
    (stopped : ∀ ended, Continues active ended → ended.state = .partially →
      ∀ gone dir, during gone dir → (backend.saveAudit ended).Keeps invariant dir)
    (completed : ∀ ended, Continues active ended → ended.state = .complete →
      (∀ record ∈ ended.targets, Ended record) →
      ∀ dir, finished (fun other => ∃ record ∈ active.targets,
        reopened active.supportRecovery candidates record = some other) dir →
      (backend.saveAudit ended).Keeps invariant dir) :
    (backend.carryOut call request candidates active).Keeps invariant dir := by
  apply meets_bind start
  intro _ begun first
  apply meets_bind (meets_mono (meets_deleteTargets removal active.targets first)
    (fun _ _ => id) fun _ _ _ => trivial)
  rintro targets after ⟨sames, reached⟩
  apply meets_lift_bind
  · intro audit replaced
    obtain ⟨distinct, rfl⟩ := DeletionAudit.withTargets_ok.mp replaced
    have continues (state : DeletionState) (outcome : DeletionOutcome)
        (errorCode : DeletionResultCode) :
        Continues active (DeletionAudit.settled { active with targets, distinctTargets := distinct }
          state outcome errorCode call.updatedAt.text) := ⟨rfl, rfl, rfl, rfl, sames⟩
    rcases reached with ⟨⟨failed, listed, status⟩, kept⟩ | ⟨all, kept⟩
    · have impossible (succeeded : ∀ record ∈ targets, record.status ≠ .failed) :
          backend.cleanupAfterTargets.Meets (.alone invariant)
            (fun _ _ => False) (fun _ => during fun _ => False) after :=
        (succeeded failed listed status).elim
      apply meets_endTargets impossible _ _ kept
      · intro after reached
        exact stopped _ (continues ..) rfl _ after reached
      · intro _ _ reached
        exact reached.elim
    · apply meets_endTargets (fun _ => cleanup _ after kept) _ _ kept
      · intro after reached
        exact stopped _ (continues ..) rfl _ after reached
      · intro _ last reached
        apply completed _ (continues ..) rfl all last
        simpa using reached
  · intro _ _
    trivial

end

section
variable {invariant : State → Prop} {request : DeletionRequest} {dir : State}

/-- The audit that a blocked call saves. -/
def blockedAudit (call : DeletionCall) (request : DeletionRequest) :
    DeletionDecision → Option DeletionAudit
  | .mismatched audit => some (audit.blocked .targetIdentityMismatch call.updatedAt.text)
  | .held hold errorCode existing => some (heldAudit call request hold errorCode existing)
  | .running hold state errorCode current =>
    some (lifecycleAudit call request hold state errorCode current)
  | .replayed _ | .released _ _ _ _ => none

/-- A blocked audit keeps its identity, its targets and its anchors. -/
structure Blocks (backend : DeletionBackend State) (request : DeletionRequest) (dir : State)
    (current : Option DeletionAudit) (saved : DeletionAudit) : Prop where
  state : saved.state = .blocked
  deletionId : saved.deletionId = current.elim request.deletionId (·.deletionId)
  scopeRef : saved.scopeRef = current.elim request.scopeRef (·.scopeRef)
  runRef : saved.runRef = current.elim request.runRef (·.runRef)
  targets : saved.targets = current.elim [] (·.targets)
  anchors : saved.generationAnchors = current.elim [] (·.generationAnchors)
  generation : current = none ∨
    (∃ audit ∈ current, saved.targetGenerationRef = audit.targetGenerationRef) ∨
    ∃ state, backend.state dir = .ok state ∧ saved.targetGenerationRef = state.generationRef

theorem heldAudit_blocks (hold : Option LegalHoldDecision) (errorCode : DeletionResultCode)
    (current : Option DeletionAudit) :
    Blocks backend request dir current (heldAudit call request hold errorCode current) := by
  cases hold <;> cases current with
  | none => exact ⟨rfl, rfl, rfl, rfl, rfl, rfl, Or.inl rfl⟩
  | some audit => exact ⟨rfl, rfl, rfl, rfl, rfl, rfl, Or.inr (Or.inl ⟨audit, rfl, rfl⟩)⟩

theorem lifecycleAudit_blocks {state : BackendState} (read : backend.state dir = .ok state)
    (hold : LegalHoldDecision) (errorCode : DeletionResultCode) (current : Option DeletionAudit) :
    Blocks backend request dir current
      (lifecycleAudit call request hold state errorCode current) := by
  cases current with
  | none => exact ⟨rfl, rfl, rfl, rfl, rfl, rfl, Or.inl rfl⟩
  | some audit => exact ⟨rfl, rfl, rfl, rfl, rfl, rfl, Or.inr (Or.inr ⟨state, read, rfl⟩)⟩

theorem mismatch_blocks (audit : DeletionAudit) :
    Blocks backend request dir (some audit)
      (audit.blocked .targetIdentityMismatch call.updatedAt.text) :=
  ⟨rfl, rfl, rfl, rfl, rfl, rfl, Or.inr (Or.inl ⟨audit, rfl, rfl⟩)⟩

theorem blockedAudit_blocks {decision : DeletionDecision} {saved : DeletionAudit}
    (decided : backend.decision call dir request = .ok decision)
    (blocked : blockedAudit call request decision = some saved) :
    ∃ current, backend.loadAudit call.deletionId dir = .ok current ∧
      Blocks backend request dir current saved := by
  obtain ⟨current, loaded, bound, ⟨audit, state, rfl, -, -, rfl⟩ | ⟨-, decided⟩⟩ :=
    decision_ok decided
  · split_ifs at blocked
    · cases blocked
    · cases blocked
      exact ⟨some audit, loaded, mismatch_blocks audit⟩
  · refine ⟨current, loaded, ?_⟩
    obtain ⟨hold, errorCode, rfl⟩ | ⟨first, hold, -, -, -, -, decided⟩ := decideHeld_ok decided
    · cases blocked
      exact heldAudit_blocks hold errorCode current
    · obtain ⟨state, read, ⟨audit, found, rfl⟩ | ⟨-, ⟨errorCode, rfl⟩ | ⟨candidates, rfl⟩⟩⟩ :=
        decideReleased_ok decided
      · cases blocked
        obtain ⟨rfl, -⟩ := Option.filter_eq_some_iff.mp found
        exact mismatch_blocks audit
      · cases blocked
        exact lifecycleAudit_blocks read hold errorCode current
      · cases blocked

theorem keeps_blocked {decision : DeletionDecision}
    (kept : ∀ hold state candidates current,
      decision ≠ .released hold state candidates current)
    (cancelled : invariant (backend.requestCancellation call.updatedAt dir).2)
    (saves : call.dryRun = false → ∀ saved, blockedAudit call request decision = some saved →
      ∀ after, after = dir ∨ after = (backend.requestCancellation call.updatedAt dir).2 →
        (backend.saveAudit saved).Keeps invariant after) :
    (backend.perform call request decision).Keeps invariant dir := by
  have finish (saved : DeletionAudit) (result : DeletionResult) (after : State)
      (found : blockedAudit call request decision = some saved) (real : ¬call.dryRun = true)
      (reached : after = dir ∨ after = (backend.requestCancellation call.updatedAt dir).2) :
      (backend.saveAudit saved >>= fun _ => pure result : Deletion State DeletionResult).Keeps
        invariant after := by
    apply keeps_bind (saves (by simpa using real) saved found after reached)
    intro _ _ _
    exact trivial
  cases decision with
  | replayed audit => exact trivial
  | mismatched audit =>
    dsimp only [perform, refuseGeneration]
    split_ifs with real
    · exact finish _ _ dir rfl (by simpa using real) (Or.inl rfl)
    · exact trivial
  | held hold errorCode existing =>
    dsimp only [perform]
    split_ifs with dry
    · exact trivial
    · exact finish _ _ dir rfl dry (Or.inl rfl)
  | running hold state errorCode current =>
    have refused (after : State)
        (reached : after = dir ∨ after = (backend.requestCancellation call.updatedAt dir).2) :
        (backend.refuseLifecycle call request hold state errorCode current).Keeps
          invariant after := by
      unfold refuseLifecycle
      split_ifs with dry
      · exact trivial
      · exact finish _ _ after rfl dry reached
    have asked : (Program.transact .cancellation (backend.requestCancellation call.updatedAt) :
        Deletion State Unit).Meets (.alone invariant)
        (fun _ after => after = (backend.requestCancellation call.updatedAt dir).2)
        (fun _ _ => True) dir := by
      apply meets_transact_solo (Discipline.alone_solo _) cancelled trivial
      cases (backend.requestCancellation call.updatedAt dir).1 with
      | error error => exact trivial
      | ok value => rfl
    dsimp only [perform]
    split_ifs
    · apply keeps_bind asked
      intro _ after reached
      exact refused after (Or.inr reached)
    · exact refused dir (Or.inl rfl)
  | released hold state candidates current => exact (kept hold state candidates current rfl).elim

theorem keeps_run
    (performed : ∀ request decision, backend.request call = .ok request →
      backend.decision call dir request = .ok decision →
      (backend.perform call request decision).Keeps invariant dir) :
    (backend.run call).Keeps invariant dir := by
  apply reads_meets reads_remaining (Discipline.alone_solo _)
  unfold remaining
  cases requested : backend.request call with
  | error error => exact trivial
  | ok request =>
    dsimp only
    cases decided : backend.decision call dir request with
    | error error => exact trivial
    | ok decision => exact performed request decision requested decided

end
end DeletionBackend
end KSlide
