import KSlide.Deletion.Coordinator
import KSlide.Interleaving.Reads

/-
This file says what a deletion decides from its reads and what it does afterwards.
-/

namespace KSlide
open Interleaving Program

/-- A deletion replays its result, is blocked or deletes its targets. -/
inductive DeletionDecision where
  | replayed (audit : DeletionAudit)
  | mismatched (audit : DeletionAudit)
  | held (hold : Option LegalHoldDecision) (errorCode : DeletionResultCode)
      (existing : Option DeletionAudit)
  | running (hold : LegalHoldDecision) (state : BackendState) (errorCode : DeletionResultCode)
      (current : Option DeletionAudit)
  | released (hold : LegalHoldDecision) (state : BackendState) (candidates : List Candidate)
      (current : Option DeletionAudit)

namespace DeletionBackend
variable {State : Type} (backend : DeletionBackend State) (call : DeletionCall)

/-- A released run is decided by its generation, its lifecycle and its targets. -/
def decideReleased (dir : State) (hold : LegalHoldDecision) (current : Option DeletionAudit) :
    Except Raised DeletionDecision :=
  match backend.state dir with
  | .error error => .error error
  | .ok state =>
    match stale state current with
    | some audit => .ok (.mismatched audit)
    | none =>
      if state.active then
        .ok (.running hold state
          (if call.reason = .explicit then .cancellationRequested else .activeRun) current)
      else if !state.terminal && !(call.reason = .explicit && state.canceled) then
        .ok (.running hold state .nonterminalRun current)
      else
        match backend.enumerateTargets call.deletionId dir with
        | .error error => .error error
        | .ok candidates => .ok (.released hold state candidates current)

/-- Both answers of the hold authority must release the run. -/
def decideHeld (dir : State) (request : DeletionRequest) (existing : Option DeletionAudit) :
    Except Raised DeletionDecision :=
  match safeHold call.firstHold request.scopeRef request.runRef with
  | .error _ => .ok (.held none .holdLookupUnavailable existing)
  | .ok first =>
    if first.status = .release then
      match safeHold call.lockedHold request.scopeRef request.runRef with
      | .error error => .error error
      | .ok hold =>
        if hold.status = .release then backend.decideReleased call dir hold existing
        else .ok (.held (some hold) (holdCode hold) existing)
    else .ok (.held (some first) (holdCode first) existing)

/-- A complete audit is replayed for its own generation. -/
def decision (dir : State) (request : DeletionRequest) : Except Raised DeletionDecision :=
  match backend.loadAudit call.deletionId dir with
  | .error error => .error error
  | .ok existing =>
    match checkBinding request existing with
    | .error error => .error error
    | .ok () =>
      match existing.filter (·.state == .complete) with
      | none => backend.decideHeld call dir request existing
      | some audit =>
        match backend.state dir with
        | .error error => .error error
        | .ok state =>
          .ok (if generationMatches state audit then .replayed audit
            else .mismatched audit)

/-- The writes of a deletion follow its decision. -/
def perform (request : DeletionRequest) : DeletionDecision → Deletion State DeletionResult
  | .replayed audit => return audited call request audit
  | .mismatched audit => backend.refuseGeneration call request audit
  | .held hold errorCode existing =>
    if call.dryRun then return predicted request existing errorCode
    else do
      let blocked := heldAudit call request hold errorCode existing
      backend.saveAudit blocked
      return audited call request blocked
  | .running hold state errorCode current => do
    if errorCode = .cancellationRequested then
      .transact .cancellation (backend.requestCancellation call.updatedAt)
    backend.refuseLifecycle call request hold state errorCode current
  | .released hold state candidates current =>
    if call.dryRun then return preview request candidates current
    else backend.execute call request hold state candidates current

/-- The rest after a decision that can fail. -/
def follow (request : DeletionRequest) (decided : Except Raised DeletionDecision) :
    Deletion State DeletionResult :=
  match decided with
  | .error error => throw error
  | .ok decision => backend.perform call request decision

/-- The rest of a deletion that has read everything. -/
def remaining (dir : State) : Deletion State DeletionResult :=
  match backend.request call with
  | .error error => throw error
  | .ok request => backend.follow call request (backend.decision call dir request)

/-- The reads and the lock of a deletion. -/
def Silent (action : DeletionAction) : Prop := action = .lock ∨ action = .read

section
variable {backend call} {dir : State} {request : DeletionRequest} {Result : Type}

theorem silent_lock : Silent .lock := Or.inl rfl

theorem silent_read : Silent .read := Or.inr rfl

theorem reads_acquire (rest : Unit → Deletion State Result) :
    Reads Silent (acquire >>= rest) dir (rest ()) :=
  reads_bind (reads_read silent_lock (fun _ => .ok ()) dir) rest

variable {existing : Option DeletionAudit}

/-- A call that found its audit before the lock finds it again under the lock. -/
theorem reads_load (found : backend.loadAudit call.deletionId dir = .ok existing)
    (rest : Option DeletionAudit → Deletion State Result) :
    Reads Silent (backend.load call >>= rest) dir (rest existing) :=
  reads_read_bind silent_read found rest

theorem reads_state {state : BackendState} (found : backend.state dir = .ok state)
    (rest : BackendState → Deletion State Result) :
    Reads Silent (backend.readState >>= rest) dir (rest state) :=
  reads_read_bind silent_read found rest

theorem reads_state_error {error : Raised} (failed : backend.state dir = .error error)
    (rest : BackendState → Deletion State Result) :
    Reads Silent (backend.readState >>= rest) dir (throw error) :=
  reads_read_error silent_read failed rest

theorem reads_saveHeld {hold : Option LegalHoldDecision}
    {errorCode : DeletionResultCode} (real : call.dryRun = false)
    (found : backend.loadAudit call.deletionId dir = .ok existing) :
    Reads Silent (backend.saveHeld call request hold errorCode) dir
      (backend.perform call request (.held hold errorCode existing)) := by
  simp only [perform, real, Bool.false_eq_true, ↓reduceIte]
  exact reads_load found _

theorem reads_runReleased (hold : LegalHoldDecision)
    (found : backend.loadAudit call.deletionId dir = .ok existing) :
    Reads Silent (backend.runReleased call request hold) dir
      (backend.follow call request (backend.decideReleased call dir hold existing)) := by
  refine reads_trans (reads_load found _) ?_
  unfold decideReleased
  cases read : backend.state dir with
  | error error => exact reads_state_error read _
  | ok state =>
    refine reads_trans (reads_state read _) ?_
    cases found : stale state existing with
    | some audit =>
      simp only [found]
      exact .here _ _
    | none =>
      simp only [found]
      by_cases active : state.active = true
      · rw [if_pos active, if_pos active]
        split_ifs with explicit
        · exact .here _ _
        · simp only [follow, perform, reduceCtorEq, ↓reduceIte]
          exact .here _ _
      · rw [if_neg active, if_neg active]
        by_cases running : (!state.terminal && !(call.reason = .explicit && state.canceled)) = true
        · rw [if_pos running, if_pos running]
          simp only [follow, perform, reduceCtorEq, ↓reduceIte]
          exact .here _ _
        · rw [if_neg running, if_neg running]
          cases listed : backend.enumerateTargets call.deletionId dir with
          | error error => exact reads_read_error silent_read listed _
          | ok candidates => exact reads_read_bind silent_read listed _

theorem reads_runHeld (found : backend.loadAudit call.deletionId dir = .ok existing) :
    Reads Silent (backend.runHeld call request existing) dir
      (backend.follow call request (backend.decideHeld call dir request existing)) := by
  unfold runHeld decideHeld
  cases safeHold call.firstHold request.scopeRef request.runRef with
  | error error =>
    dsimp only
    by_cases dry : call.dryRun = true
    · simp only [dry, follow, perform, ↓reduceIte]
      exact .here _ _
    · simp only [dry, Bool.false_eq_true, ↓reduceIte]
      exact reads_trans (reads_acquire _) (reads_saveHeld (by simpa using dry) found)
  | ok first =>
    dsimp only
    by_cases released : first.status = .release
    · rw [if_pos released, if_pos released]
      refine reads_trans (reads_acquire _) ?_
      cases safeHold call.lockedHold request.scopeRef request.runRef with
      | error error => exact .here _ _
      | ok hold =>
        change Reads Silent (if hold.status = .release then _ else _) dir _
        dsimp only
        split_ifs with free dry
        · exact reads_runReleased hold found
        · simp only [dry, follow, perform, ↓reduceIte]
          exact .here _ _
        · exact reads_saveHeld (by simpa using dry) found
    · rw [if_neg released, if_neg released]
      by_cases dry : call.dryRun = true
      · simp only [dry, follow, perform, ↓reduceIte]
        exact .here _ _
      · simp only [dry, Bool.false_eq_true, ↓reduceIte]
        exact reads_trans (reads_acquire _) (reads_saveHeld (by simpa using dry) found)

theorem reads_replayComplete {audit : DeletionAudit} {existing : Option DeletionAudit}
    (found : backend.loadAudit call.deletionId dir = .ok (some audit)) :
    Reads Silent (do
      match ← backend.replayComplete call request with
      | some result => return result
      | none => backend.runHeld call request existing) dir
      (backend.follow call request (match backend.state dir with
        | .error error => .error error
        | .ok state => .ok (if generationMatches state audit then .replayed audit
            else .mismatched audit))) := by
  refine reads_trans (reads_bind (reads_acquire _) _) ?_
  refine reads_trans (reads_bind (reads_load found _) _) ?_
  cases read : backend.state dir with
  | error error => exact reads_bind (reads_state_error read _) _
  | ok state =>
    refine reads_trans (reads_bind (reads_state read _) _) ?_
    dsimp only
    split_ifs with same
    · exact .here _ _
    · simp only [follow, perform, map_eq_pure_bind, bind_assoc, pure_bind]
      rw [bind_pure]
      exact .here _ _

/-- A deletion reads everything that it decides on before its first write. -/
theorem reads_remaining : Reads Silent (backend.run call) dir (backend.remaining call dir) := by
  unfold run remaining
  cases backend.request call with
  | error error => exact .here _ _
  | ok request =>
    dsimp only
    unfold decision
    cases found : backend.loadAudit call.deletionId dir with
    | error error => exact reads_read_error silent_read found _
    | ok existing =>
      refine reads_trans (reads_load found _) ?_
      dsimp only
      cases checkBinding request existing with
      | error error => exact .here _ _
      | ok bound =>
        dsimp only
        rcases existing with _ | audit
        · exact reads_runHeld found
        · by_cases complete : audit.state = .complete
          · simp only [Option.any_some, complete, beq_self_eq_true, ↓reduceIte,
              Option.filter_some]
            exact reads_replayComplete found
          · have incomplete : (audit.state == .complete) = false := by simpa using complete
            simp only [Option.any_some, incomplete, Bool.false_eq_true, ↓reduceIte,
              Option.filter_some]
            exact reads_runHeld found

end

/-- Both holds release the run, and its audit belongs to the request and to the generation. -/
structure Cleared (backend : DeletionBackend State) (call : DeletionCall) (dir : State)
    (request : DeletionRequest) (hold : LegalHoldDecision) (state : BackendState)
    (current : Option DeletionAudit) : Prop where
  loaded : backend.loadAudit call.deletionId dir = .ok current
  bound : checkBinding request current = .ok ()
  incomplete : ∀ audit ∈ current, audit.state ≠ .complete
  firstHold : ∃ first, safeHold call.firstHold request.scopeRef request.runRef = .ok first ∧
    first.status = .release
  lockedHold : safeHold call.lockedHold request.scopeRef request.runRef = .ok hold
  release : hold.status = .release
  read : backend.state dir = .ok state
  fresh : stale state current = none

section
variable {backend call} {dir : State} {request : DeletionRequest} {hold : LegalHoldDecision}
variable {state : BackendState} {current : Option DeletionAudit}

theorem request_ok (requested : backend.request call = .ok request) :
    request.deletionId = call.deletionId ∧ request.scopeRef = backend.scopeRef ∧
      request.runRef = backend.runRef ∧ request.reason = call.reason := by
  simp only [DeletionBackend.request, bind_ok, pure_ok] at requested
  obtain ⟨-, -, -, -, -, -, rfl⟩ := requested
  exact ⟨rfl, rfl, rfl, rfl⟩

theorem request_exists (call : DeletionCall) (deletionId : isOpaque call.deletionId = true)
    (scopeRef : isOpaque backend.scopeRef = true) (runRef : isOpaque backend.runRef = true) :
    ∃ request, backend.request call = .ok request := by
  simp [DeletionBackend.request, checkOpaque, deletionId, scopeRef, runRef]

theorem Cleared.decision_eq (cleared : Cleared backend call dir request hold state current) :
    backend.decision call dir request =
      if state.active then
        .ok (.running hold state
          (if call.reason = .explicit then .cancellationRequested else .activeRun) current)
      else if !state.terminal && !(call.reason = .explicit && state.canceled) then
        .ok (.running hold state .nonterminalRun current)
      else
        match backend.enumerateTargets call.deletionId dir with
        | .error error => .error error
        | .ok candidates => .ok (.released hold state candidates current) := by
  obtain ⟨first, answered, released⟩ := cleared.firstHold
  have incomplete : current.filter (·.state == .complete) = none := by
    cases current with
    | none => rfl
    | some audit => simpa using cleared.incomplete audit rfl
  rw [decision, cleared.loaded]
  dsimp only
  rw [cleared.bound]
  dsimp only
  rw [incomplete]
  dsimp only
  rw [decideHeld, answered]
  dsimp only
  rw [if_pos released, cleared.lockedHold]
  dsimp only
  rw [if_pos cleared.release, decideReleased, cleared.read]
  dsimp only
  rw [cleared.fresh]

variable {decision : DeletionDecision}

/-- A released run is refused for its generation or its lifecycle, or it is deleted. -/
theorem decideReleased_ok (decided : backend.decideReleased call dir hold current = .ok decision) :
    ∃ state, backend.state dir = .ok state ∧
      ((∃ audit, stale state current = some audit ∧ decision = .mismatched audit) ∨
        stale state current = none ∧
          ((∃ errorCode, decision = .running hold state errorCode current) ∨
            ∃ candidates, decision = .released hold state candidates current)) := by
  unfold decideReleased at decided
  cases read : backend.state dir with
  | error error => simp [read] at decided
  | ok state =>
    refine ⟨state, rfl, ?_⟩
    simp only [read] at decided
    cases fresh : stale state current with
    | some audit =>
      simp only [fresh, Except.ok.injEq] at decided
      exact Or.inl ⟨audit, rfl, decided.symm⟩
    | none =>
      simp only [fresh] at decided
      refine Or.inr ⟨rfl, ?_⟩
      by_cases active : state.active = true
      · rw [if_pos active, Except.ok.injEq] at decided
        exact Or.inl ⟨_, decided.symm⟩
      · rw [if_neg active] at decided
        split at decided
        · exact Or.inl ⟨_, (Except.ok.inj decided).symm⟩
        · cases listed : backend.enumerateTargets call.deletionId dir with
          | error error => simp [listed] at decided
          | ok candidates =>
            simp only [listed, Except.ok.injEq] at decided
            exact Or.inr ⟨candidates, decided.symm⟩

theorem decideHeld_ok (decided : backend.decideHeld call dir request current = .ok decision) :
    (∃ hold errorCode, decision = .held hold errorCode current) ∨
      ∃ first hold, safeHold call.firstHold request.scopeRef request.runRef = .ok first ∧
        first.status = .release ∧
        safeHold call.lockedHold request.scopeRef request.runRef = .ok hold ∧
        hold.status = .release ∧ backend.decideReleased call dir hold current = .ok decision := by
  unfold decideHeld at decided
  cases answered : safeHold call.firstHold request.scopeRef request.runRef with
  | error error =>
    simp only [answered, Except.ok.injEq] at decided
    exact Or.inl ⟨_, _, decided.symm⟩
  | ok first =>
    simp only [answered] at decided
    by_cases released : first.status = .release
    · rw [if_pos released] at decided
      cases locked : safeHold call.lockedHold request.scopeRef request.runRef with
      | error error => simp [locked] at decided
      | ok hold =>
        simp only [locked] at decided
        by_cases free : hold.status = .release
        · rw [if_pos free] at decided
          exact Or.inr ⟨first, hold, rfl, released, rfl, free, decided⟩
        · rw [if_neg free, Except.ok.injEq] at decided
          exact Or.inl ⟨_, _, decided.symm⟩
    · rw [if_neg released, Except.ok.injEq] at decided
      exact Or.inl ⟨_, _, decided.symm⟩

theorem decision_ok (decided : backend.decision call dir request = .ok decision) :
    ∃ existing, backend.loadAudit call.deletionId dir = .ok existing ∧
      checkBinding request existing = .ok () ∧
      ((∃ audit state, existing = some audit ∧ audit.state = .complete ∧
          backend.state dir = .ok state ∧
          decision = if generationMatches state audit then .replayed audit else .mismatched audit) ∨
        (∀ audit ∈ existing, audit.state ≠ .complete) ∧
          backend.decideHeld call dir request existing = .ok decision) := by
  unfold DeletionBackend.decision at decided
  cases loaded : backend.loadAudit call.deletionId dir with
  | error error => simp [loaded] at decided
  | ok existing =>
    cases bound : checkBinding request existing with
    | error error => simp [loaded, bound] at decided
    | ok known =>
      refine ⟨existing, rfl, bound, ?_⟩
      simp only [loaded, bound] at decided
      cases existing with
      | none => exact Or.inr ⟨by simp, decided⟩
      | some audit =>
        by_cases complete : audit.state = .complete
        · simp only [Option.filter_some, complete, beq_self_eq_true, ↓reduceIte] at decided
          cases read : backend.state dir with
          | error error => simp [read] at decided
          | ok state =>
            simp only [read, Except.ok.injEq] at decided
            exact Or.inl ⟨audit, state, rfl, complete, rfl, decided.symm⟩
        · have incomplete : (audit.state == .complete) = false := by simpa using complete
          simp only [Option.filter_some, incomplete, Bool.false_eq_true, ↓reduceIte] at decided
          refine Or.inr ⟨?_, decided⟩
          rintro found ⟨⟩
          exact complete

/-- A decision about the lifecycle or the targets of a run is made for a cleared run. -/
theorem decision_cleared (decided : backend.decision call dir request = .ok decision)
    (reached : (∃ hold state errorCode current,
        decision = .running hold state errorCode current) ∨
      ∃ hold state candidates current, decision = .released hold state candidates current) :
    ∃ hold state current, Cleared backend call dir request hold state current := by
  obtain ⟨current, loaded, bound, ⟨audit, state, -, -, -, rfl⟩ | ⟨incomplete, decided⟩⟩ :=
    decision_ok decided
  · split_ifs at reached <;> simp at reached
  · obtain ⟨hold, errorCode, rfl⟩ | ⟨first, hold, answered, released, locked, free, decided⟩ :=
      decideHeld_ok decided
    · simp at reached
    · obtain ⟨state, read, ⟨audit, -, rfl⟩ | ⟨fresh, -⟩⟩ := decideReleased_ok decided
      · simp at reached
      · exact ⟨hold, state, current, loaded, bound, incomplete, ⟨first, answered, released⟩, locked,
          free, read, fresh⟩

/-- Only a complete audit of the present generation is replayed. -/
theorem decision_replayed {audit : DeletionAudit}
    (decided : backend.decision call dir request = .ok (.replayed audit)) :
    audit.state = .complete := by
  obtain ⟨current, loaded, bound, ⟨found, state, -, complete, -, same⟩ | ⟨incomplete, decided⟩⟩ :=
    decision_ok decided
  · split_ifs at same
    cases same
    exact complete
  · obtain ⟨hold, errorCode, same⟩ | ⟨first, hold, -, -, -, -, decided⟩ := decideHeld_ok decided
    · cases same
    · obtain ⟨state, -, ⟨found, -, same⟩ | ⟨-, ⟨errorCode, same⟩ | ⟨candidates, same⟩⟩⟩ :=
        decideReleased_ok decided <;> cases same

theorem decision_released {candidates : List Candidate}
    (decided : backend.decision call dir request = .ok (.released hold state candidates current)) :
    Cleared backend call dir request hold state current ∧ state.active = false ∧
      backend.enumerateTargets call.deletionId dir = .ok candidates := by
  obtain ⟨hold', state', current', cleared⟩ :=
    decision_cleared decided (Or.inr ⟨_, _, _, _, rfl⟩)
  have decided := cleared.decision_eq.symm.trans decided
  by_cases active : state'.active = true
  · rw [if_pos active] at decided
    cases decided
  · rw [if_neg active] at decided
    split at decided
    · cases decided
    · cases listed : backend.enumerateTargets call.deletionId dir with
      | error error => simp [listed] at decided
      | ok found =>
        simp only [listed, Except.ok.injEq, DeletionDecision.released.injEq] at decided
        obtain ⟨rfl, rfl, rfl, rfl⟩ := decided
        exact ⟨cleared, by simpa using active, rfl⟩

/-- A deletion asks for a cancellation of a cleared run that is active. -/
theorem decision_cancellation :
    backend.decision call dir request =
        .ok (.running hold state .cancellationRequested current) ↔
      Cleared backend call dir request hold state current ∧ state.active = true ∧
        call.reason = .explicit := by
  constructor
  · intro decided
    obtain ⟨hold', state', current', cleared⟩ :=
      decision_cleared decided (Or.inl ⟨_, _, _, _, rfl⟩)
    have decided := cleared.decision_eq.symm.trans decided
    split_ifs at decided with active explicit running
    · simp only [Except.ok.injEq, DeletionDecision.running.injEq, true_and] at decided
      obtain ⟨rfl, rfl, rfl⟩ := decided
      exact ⟨cleared, active, explicit⟩
    · simp at decided
    · simp at decided
    · cases listed : backend.enumerateTargets call.deletionId dir <;> simp [listed] at decided
  · rintro ⟨cleared, active, explicit⟩
    rw [cleared.decision_eq, if_pos active, if_pos explicit]

end
end DeletionBackend
end KSlide
