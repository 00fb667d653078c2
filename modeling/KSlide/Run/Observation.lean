import KSlide.Run.Sync

/-
This file shows which phases the workspace record can observe one after the other.
-/

namespace KSlide
open RunStore

section
variable [Sha256]

theorem RunStore.commitCheckpoint_planned {current : ExecutionJob Int}
    {checkpoint : RunCheckpoint Int} {first second : Timestamp}
    (named : checkpoint.environmentIdentitySha256 = .str (environmentName current))
    (next : checkpoint.revision = current.checkpoint.revision + 1)
    (run : checkpoint.runId = current.runId) (job : checkpoint.jobId = current.jobId)
    (execution : checkpoint.executionId = current.executionId) : ∃ candidate,
    (StoreCall.commitCheckpoint checkpoint current.revision).plan current first second =
      .ok (.commit candidate) := by
  have filled : RunCheckpoint.Fields.Valid { checkpoint.toFields with
      checkpointSha256 := .str checkpoint.computedSha256 } :=
    { checkpoint.valid with hash := Or.inr rfl }
  have bound : ∀ identity ∈ current.environmentIdentity,
      checkpoint.environmentIdentitySha256 = .str identity.identitySha256 := by
    intro identity present
    rw [named, environmentName, Option.mem_def.mp present]
  have valid : ExecutionJob.Fields.Valid { current.toFields with
      checkpoint := ⟨_, filled⟩, revision := current.revision + 1,
      updatedAt := some first.text } :=
    { current.valid with
      nonnegative := later_nonnegative current
      updated := first.moment
      checkpointRun := run
      checkpointJob := job
      checkpointExecution := execution
      bound := bound }
  have different : checkpoint.stored ≠ current.checkpoint.stored := by
    intro same
    have revisions := congrArg (fun found : RunCheckpoint Int => found.revision) same
    change checkpoint.revision = current.checkpoint.revision at revisions
    omega
  have encoded : checkpoint.asDict ≠ current.checkpoint.asDict := by
    intro same
    apply different
    have first := RunCheckpoint.checkpointFromDict_asDict checkpoint
    rw [same, RunCheckpoint.checkpointFromDict_asDict] at first
    exact (Except.ok.inj first).symm
  refine ⟨⟨_, valid⟩, bind_ok.mpr ⟨(), validateCheckpointEnvironment_ok.mpr named, ?_⟩⟩
  rw [if_neg encoded, if_neg (by simp), if_neg (by simp [next])]
  exact bind_ok.mpr ⟨⟨_, filled⟩, normalizeCheckpoint_ok.mpr rfl,
    bind_ok.mpr ⟨_, ExecutionJob.replace_valid valid, rfl⟩⟩

namespace WorkspaceRunStore

/-- A planned replacement is written when no other call interferes. -/
theorem perform_committed {call : StoreCall} {current candidate : ExecutionJob Int}
    {now : Timestamp} (stored : current.stored = current)
    (workspace : current.profile = .workspaceLocal)
    (planned : call.plan current now now = .ok (.commit candidate)) :
    perform call current now = .ok ⟨.accepted, candidate⟩ := by
  have kept := plan_kept stored planned
  have different : current.asDict ≠ candidate.asDict := by
    rw [ne_eq, ExecutionJob.asDict_eq_iff]
    intro same
    have revisions := congrArg (fun found : ExecutionJob Int => found.revision) same
    simp only [ExecutionJob.stored_revision, kept.revision] at revisions
    omega
  refine bind_ok.mpr ⟨_, planned, ?_⟩
  simp [commitJob, different, kept.revision, kept.profile, workspace, kept.environment]

end WorkspaceRunStore

/-- The moves of the lifecycle table that a sync needs between two observed phases. -/
def Observable (last current : RunPhase) : Prop :=
  operationalForPhase last = operationalForPhase current ∨
    (operationalForPhase current).lifecycle ∈
      operationalTransitions (operationalForPhase last).lifecycle

instance (last current : RunPhase) : Decidable (Observable last current) :=
  inferInstanceAs (Decidable (_ ∨ _))

namespace Workspace

/-- The engine values fit into a progress snapshot. -/
structure Presentable (workspace : Workspace) : Prop where
  bounded : workspace.total ≤ 100000
  unit : ∀ text ∈ workspace.state.currentWorkUnit, isIdentifier text = true

/-- The record belongs to the run and to its environment. -/
structure Bound (job : ExecutionJob Int) (environment : RunEnvironmentIdentity) : Prop where
  stored : job.stored = job
  profile : job.profile = .workspaceLocal
  environment : job.environmentIdentity = some environment

theorem Bound.kept {before after : ExecutionJob Int} {environment : RunEnvironmentIdentity}
    (bound : Bound before environment) (kept : before.Kept after) :
    Bound after.stored environment where
  stored := after.stored_stored
  profile := kept.profile.trans bound.profile
  environment := kept.environment.trans bound.environment

omit [Sha256] in
theorem phase_accepted (phase : RunPhase) : isPhase phase.value = true := by
  cases phase <;> decide

theorem completed_le (workspace : Workspace) : workspace.completed ≤ workspace.total := by
  unfold completed total
  cases workspace.queue with
  | none => exact Nat.zero_le _
  | some queue => exact queue.completed_le

theorem queueRevision_accepted (workspace : Workspace) :
    (Json.str workspace.queueRevision).truthy = true →
      ∃ text, Json.str workspace.queueRevision = .str text ∧
        RunCheckpoint.Fields.isQueueRevision text = true := by
  intro present
  refine ⟨_, rfl, ?_⟩
  cases found : workspace.queue with
  | none => simp [queueRevision, found] at present
  | some queue =>
    simp [queueRevision, found, RunCheckpoint.Fields.isQueueRevision, WorkQueue.queueRevision]

variable {workspace : Workspace} {job : ExecutionJob Int} {last current : RunPhase}
  (now : Timestamp)

theorem checkpointForEngine_exists (presentable : workspace.Presentable) :
    ∃ checkpoint, workspace.checkpointForEngine = .ok checkpoint ∧
      checkpoint.revision = workspace.job.checkpoint.revision + 1 ∧
      checkpoint.enginePhase = workspace.state.phase.value ∧
      checkpoint.runId = workspace.job.checkpoint.runId ∧
      checkpoint.jobId = workspace.job.checkpoint.jobId ∧
      checkpoint.executionId = workspace.job.checkpoint.executionId ∧
      checkpoint.environmentIdentitySha256 =
        workspace.job.checkpoint.environmentIdentitySha256 := by
  have accepted := phase_accepted workspace.state.phase
  have within := workspace.completed_le
  have bounded := presentable.bounded
  have progress : ProgressSnapshot.Fields.Valid (⟨workspace.state.phase.value,
      workspace.completed, workspace.total, workspace.state.currentWorkUnit⟩ :
      ProgressSnapshot.Fields Int) := by
    refine ⟨accepted, ?_, ?_, ?_, presentable.unit⟩ <;> simp only [toInt_int] <;> omega
  have later : 0 ≤ PythonInt.toInt (workspace.job.checkpoint.revision + 1) := by
    have nonnegative := workspace.job.checkpoint.valid.nonnegative
    simp only [toInt_int] at nonnegative ⊢
    omega
  have valid : RunCheckpoint.Fields.Valid { workspace.job.checkpoint.toFields with
      revision := workspace.job.checkpoint.revision + 1
      enginePhase := workspace.state.phase.value
      progress := ⟨_, progress⟩
      engineStateRevision := workspace.state.revision
      queueRevision := .str workspace.queueRevision
      resumeEligibility := (operationalForPhase workspace.state.phase).eligibility
      checkpointSha256 := .str "" } :=
    { workspace.job.checkpoint.valid with
      nonnegative := later
      phase := accepted
      engine := Int.natCast_nonneg _
      queue := workspace.queueRevision_accepted
      hash := Or.inl (by simp) }
  refine ⟨⟨_, valid⟩, bind_ok.mpr ⟨⟨_, progress⟩, ProgressSnapshot.make_ok.mpr ⟨rfl, rfl, rfl, rfl⟩,
    RunCheckpoint.replace_ok.mpr rfl⟩, rfl, rfl, rfl, rfl, rfl, rfl⟩

/-- The checkpoint of the record follows the engine whatever the phase is. -/
theorem syncCheckpoint_ok
    (bound : Bound workspace.job workspace.environment) (presentable : workspace.Presentable) :
    ∃ job, workspace.syncCheckpoint now = .ok job ∧ Bound job workspace.environment ∧
      job.operational = workspace.job.operational ∧
      job.checkpoint.enginePhase = workspace.state.phase.value := by
  obtain ⟨desired, made, next, phase, run, name, execution, environment⟩ :=
    checkpointForEngine_exists presentable
  have valid := workspace.job.valid
  have matched : raiseEnvironmentMismatch workspace.job.environmentIdentity
      (some workspace.environment) = .ok () := by
    rw [raiseEnvironmentMismatch_ok, bound.environment]
  by_cases same : sameCheckpoint desired workspace.job.checkpoint = true
  · refine ⟨workspace.job, bind_ok.mpr ⟨(), matched, bind_ok.mpr ⟨desired, made, ?_⟩⟩, bound, rfl, ?_⟩
    · rw [if_pos same]
      rfl
    · simp only [sameCheckpoint, Bool.and_eq_true, beq_iff_eq] at same
      rw [← same.1.1.1.1, phase]
  · have named : desired.environmentIdentitySha256 = .str (environmentName workspace.job) := by
      rw [environment, valid.bound _ bound.environment, environmentName, bound.environment]
    have advanced : ∃ candidate, (StoreCall.commitCheckpoint desired workspace.job.revision).plan
        workspace.job now now = .ok (.commit candidate) :=
      commitCheckpoint_planned named next (run.trans valid.checkpointRun)
        (name.trans valid.checkpointJob) (execution.trans valid.checkpointExecution)
    obtain ⟨candidate, planned⟩ := advanced
    have written := WorkspaceRunStore.perform_committed bound.stored bound.profile planned
    have change := Change.of_plan bound.stored planned
    obtain ⟨moment, -, -, -, fields⟩ := change
    refine ⟨candidate.stored, bind_ok.mpr ⟨(), matched, bind_ok.mpr ⟨desired, made, ?_⟩⟩,
      bound.kept (plan_kept bound.stored planned), ?_, ?_⟩
    · rw [if_neg same]
      exact bind_ok.mpr ⟨_, written, bind_ok.mpr ⟨(), rfl, rfl⟩⟩
    · simp only [ExecutionJob.operational, fields]
    · rw [fields]
      exact phase

omit [Sha256] in
/-- The eligibility of an observed job follows from its lifecycle and its outcome. -/
theorem operational_eq
    (lifecycle : (operationalForPhase last).lifecycle = (operationalForPhase current).lifecycle)
    (outcome : (operationalForPhase last).outcome = (operationalForPhase current).outcome) :
    operationalForPhase last = operationalForPhase current := by
  cases last <;> cases current <;> first | rfl | cases lifecycle; done | cases outcome

/-- The lifecycle of the record follows the phase when the lifecycle table has the move. -/
theorem syncLifecycle_ok {environment : RunEnvironmentIdentity}
    {last current : RunPhase} (now : Timestamp) (bound : Bound job environment)
    (observed : job.operational = operationalForPhase last)
    (observable : Observable last current) :
    ∃ after, syncLifecycle current job now = .ok after ∧ Bound after environment ∧
      after.operational = operationalForPhase current ∧
      after.checkpoint.enginePhase = job.checkpoint.enginePhase := by
  by_cases same : job.operational = operationalForPhase current
  · exact ⟨job, by rw [syncLifecycle, if_pos same]; rfl, bound, same, rfl⟩
  · have values := observed
    simp only [ExecutionJob.operational] at values
    have lifecycle : job.lifecycle = (operationalForPhase last).lifecycle := by rw [← values]
    have outcome : job.terminalOutcome = (operationalForPhase last).outcome := by rw [← values]
    have edge : (operationalForPhase current).lifecycle ∈ operationalTransitions job.lifecycle := by
      rcases observable with equal | edge
      · exact absurd (observed.trans equal) same
      · rwa [lifecycle]
    have changed : ¬(job.lifecycle = (operationalForPhase current).lifecycle ∧
        job.terminalOutcome = (operationalForPhase current).outcome) := by
      rintro ⟨first, second⟩
      exact same (observed.trans (operational_eq (lifecycle ▸ first) (outcome ▸ second)))
    have settled : ∃ candidate, (StoreCall.transitionOperational job.jobId job.revision
        (operationalForPhase current).lifecycle (operationalForPhase current).outcome
        (some (operationalForPhase current).eligibility)).plan job now now =
          .ok (.commit candidate) :=
      transition_planned edge changed (by cases current <;> simp [operationalForPhase])
    obtain ⟨candidate, planned⟩ := settled
    have written := WorkspaceRunStore.perform_committed bound.stored bound.profile planned
    obtain ⟨moment, -, -, fields⟩ := Change.of_plan bound.stored planned
    refine ⟨candidate.stored, ?_, bound.kept (plan_kept bound.stored planned), ?_, ?_⟩
    · rw [syncLifecycle, if_neg same]
      exact bind_ok.mpr ⟨_, written, bind_ok.mpr ⟨(), rfl, rfl⟩⟩
    · simp only [ExecutionJob.operational, fields]
      cases current <;> rfl
    · rw [fields]

/-- A move that the lifecycle table refuses makes the sync fail. -/
theorem syncLifecycle_refused (observed : job.operational = operationalForPhase last)
    (refused : ¬Observable last current) :
    ∃ error, syncLifecycle current job now = .error error := by
  obtain ⟨other, edge⟩ := not_or.mp refused
  have different : job.operational ≠ operationalForPhase current :=
    fun same => other (observed.symm.trans same)
  simp only [ExecutionJob.operational] at observed
  have lifecycle : job.lifecycle = (operationalForPhase last).lifecycle := by rw [← observed]
  have outcome : job.terminalOutcome = (operationalForPhase last).outcome := by rw [← observed]
  have unchanged : ¬(job.lifecycle = (operationalForPhase current).lifecycle ∧
      job.terminalOutcome = (operationalForPhase current).outcome) := by
    rintro ⟨first, second⟩
    exact other (operational_eq (lifecycle ▸ first) (outcome ▸ second))
  have planned : (StoreCall.transitionOperational job.jobId job.revision
      (operationalForPhase current).lifecycle (operationalForPhase current).outcome
      (some (operationalForPhase current).eligibility)).plan job now now =
        .ok (.settle .conflict) := by
    rw [StoreCall.plan, planTransitionOperational, if_neg unchanged, if_neg (by simp),
      if_pos (by rwa [lifecycle])]
    rfl
  refine ⟨stale "Workspace execution lifecycle changed concurrently; reload before continuing." job,
    ?_⟩
  rw [syncLifecycle, if_neg different]
  simp only [WorkspaceRunStore.perform, planned]
  rfl

/-- The engine keeps a bounded number of units and names the current one. -/
structure EngineProgress where
  queue : Option WorkQueue
  inputCount : Nat
  currentWorkUnit : Option String
  bounded : (match queue with
    | some queue => queue.workUnits.length
    | none => inputCount) ≤ 100000
  unit : ∀ text ∈ currentWorkUnit, isIdentifier text = true

/-- Between two calls of the engine the run moves, its progress changes or it is synced. -/
inductive Event where
  | move (target : RunPhase) (nextAction errorCode errorMessage : Option String)
  | engine (progress : EngineProgress)
  | sync (now : Timestamp)

/-- A refused move raises and leaves the saved state as it is. -/
def move (workspace : Workspace) (target : RunPhase)
    (nextAction errorCode errorMessage : Option String) : Workspace :=
  match workspace.state.transition target nextAction errorCode errorMessage with
  | .ok state => { workspace with state := state.saved }
  | .error _ => workspace

def engine (workspace : Workspace) (progress : EngineProgress) : Workspace :=
  { workspace with
    queue := progress.queue
    state := { workspace.state with
      inputCount := progress.inputCount, currentWorkUnit := progress.currentWorkUnit } }

/-- Every sync of the run succeeds and leaves a record that shows the phase of the run. -/
def Simulates (workspace : Workspace) : List Event → Prop
  | [] => True
  | .move target nextAction errorCode errorMessage :: rest =>
    (workspace.move target nextAction errorCode errorMessage).Simulates rest
  | .engine progress :: rest => (workspace.engine progress).Simulates rest
  | .sync now :: rest =>
    ∃ after, workspace.sync now = (.ok (), after) ∧
      after.job.operational = operationalForPhase workspace.state.phase ∧
      after.job.checkpoint.enginePhase = workspace.state.phase.value ∧
      after.Simulates rest

/-- A phase moves only along the table of the run. -/
def reached (phase target : RunPhase) : RunPhase :=
  if target ∈ phase.allowed then target else phase

/-- Each phase that a sync finds is observable after the phase of the sync before it. -/
def Observed (last current : RunPhase) : List Event → Prop
  | [] => True
  | .move target _ _ _ :: rest => Observed last (reached current target) rest
  | .engine _ :: rest => Observed last current rest
  | .sync _ :: rest => Observable last current ∧ Observed current current rest

omit [Sha256] in
theorem transition_reached (state : RunState) (target : RunPhase)
    (nextAction errorCode errorMessage : Option String) :
    (match state.transition target nextAction errorCode errorMessage with
      | .ok after => after.saved.phase
      | .error _ => state.phase) = reached state.phase target := by
  unfold RunState.transition reached
  split_ifs with same listed listed
  · exact same.symm
  · rfl
  · rfl
  · rfl

theorem move_phase (workspace : Workspace) (target : RunPhase)
    (nextAction errorCode errorMessage : Option String) :
    (workspace.move target nextAction errorCode errorMessage).state.phase =
      reached workspace.state.phase target := by
  rw [← transition_reached workspace.state target nextAction errorCode errorMessage]
  unfold move
  cases workspace.state.transition target nextAction errorCode errorMessage <;> rfl

/-- A move keeps the record and the values of the engine. -/
theorem move_kept (workspace : Workspace) (target : RunPhase)
    (nextAction errorCode errorMessage : Option String) :
    let after := workspace.move target nextAction errorCode errorMessage
    after.job = workspace.job ∧ after.environment = workspace.environment ∧
      (workspace.Presentable → after.Presentable) := by
  unfold move
  cases moved : workspace.state.transition target nextAction errorCode errorMessage with
  | error error => exact ⟨rfl, rfl, id⟩
  | ok state =>
    refine ⟨rfl, rfl, fun presentable => ?_⟩
    rcases RunState.transition_ok.mp moved with ⟨_, rfl⟩ | ⟨_, _, rfl⟩ <;>
      exact ⟨presentable.bounded, presentable.unit⟩

theorem sync_iff {last : RunPhase} (now : Timestamp)
    (bound : Bound workspace.job workspace.environment) (presentable : workspace.Presentable)
    (observed : workspace.job.operational = operationalForPhase last) :
    if Observable last workspace.state.phase then
      ∃ job, workspace.sync now = (.ok (), { workspace with job }) ∧
        Bound job workspace.environment ∧
        job.operational = operationalForPhase workspace.state.phase ∧
        job.checkpoint.enginePhase = workspace.state.phase.value
    else ∃ error after, workspace.sync now = (.error error, after) := by
  obtain ⟨job, synced, jobBound, kept, phase⟩ := syncCheckpoint_ok now bound presentable
  split_ifs with observable
  · obtain ⟨after, moved, afterBound, operational, checkpoint⟩ :=
      syncLifecycle_ok now jobBound (kept.trans observed) observable
    exact ⟨after, by simp only [sync, synced, moved], afterBound, operational,
      checkpoint.trans phase⟩
  · obtain ⟨error, refused⟩ := syncLifecycle_refused now (kept.trans observed) observable
    exact ⟨error, { workspace with job }, by simp only [sync, synced, refused]⟩

/-- The record follows the engine exactly in the runs whose observed phases follow each other in
the lifecycle table. -/
theorem simulates_iff {last : RunPhase}
    (bound : Bound workspace.job workspace.environment) (presentable : workspace.Presentable)
    (observed : workspace.job.operational = operationalForPhase last) (events : List Event) :
    workspace.Simulates events ↔ Observed last workspace.state.phase events := by
  induction events generalizing workspace last with
  | nil => exact Iff.rfl
  | cons event events ih =>
    cases event with
    | move target nextAction errorCode errorMessage =>
      obtain ⟨job, environment, kept⟩ :=
        workspace.move_kept target nextAction errorCode errorMessage
      simp only [Simulates, Observed]
      rw [ih (by rwa [job, environment]) (kept presentable) (by rwa [job]), move_phase]
    | engine progress => exact ih bound ⟨progress.bounded, progress.unit⟩ observed
    | sync now =>
      simp only [Simulates, Observed]
      have synced := sync_iff now bound presentable observed
      split_ifs at synced with observable
      · obtain ⟨job, reached, jobBound, operational, phase⟩ := synced
        have later : Simulates { workspace with job } events ↔ _ :=
          ih jobBound ⟨presentable.bounded, presentable.unit⟩ operational
        constructor
        · rintro ⟨after, same, -, -, simulates⟩
          rw [reached] at same
          obtain ⟨-, rfl⟩ := Prod.mk.inj same
          exact ⟨observable, later.mp simulates⟩
        · rintro ⟨-, rest⟩
          exact ⟨_, reached, operational, phase, later.mpr rest⟩
      · obtain ⟨error, after, failed⟩ := synced
        constructor
        · rintro ⟨other, same, -⟩
          rw [failed] at same
          cases (Prod.mk.inj same).1
        · rintro ⟨impossible, -⟩
          exact absurd impossible observable

theorem create_bound {now : Timestamp} {runId : String} {environment : RunEnvironmentIdentity}
    {nextAction : Option String} {workspace : Workspace}
    (created : create now runId environment nextAction = .ok workspace) :
    workspace.state.phase = .created ∧ Bound workspace.job workspace.environment ∧
      workspace.Presentable ∧ workspace.job.operational = operationalForPhase .created := by
  simp only [create, bind_ok, pure_ok] at created
  obtain ⟨job, made, rfl⟩ := created
  have fresh := ExecutionJob.new_new made
  obtain ⟨-, -, -, profile, -, -, environment⟩ := ExecutionJob.new_names made
  refine ⟨rfl, ⟨job.stored_stored, profile, environment⟩, ⟨Nat.zero_le _, by simp⟩, ?_⟩
  change (⟨job.lifecycle, job.terminalOutcome, job.resumeEligibility⟩ : Operational) = _
  rw [fresh.lifecycle, fresh.outcome, fresh.eligible]
  rfl

/-- From a created run on, every sync succeeds and shows the phase exactly when every phase that a
sync finds is observable after the phase of the sync before it. -/
theorem sync_simulates_engine {now : Timestamp} {runId : String}
    {environment : RunEnvironmentIdentity} {nextAction : Option String} {workspace : Workspace}
    (created : create now runId environment nextAction = .ok workspace) (events : List Event) :
    workspace.Simulates events ↔ Observed .created .created events := by
  obtain ⟨phase, bound, presentable, observed⟩ := create_bound created
  rw [← phase]
  exact simulates_iff bound presentable (by rwa [phase]) events

theorem create_exists : ∃ workspace,
    create .newYear "run-1" .sample (some "Validate inputs") = .ok workspace := by
  have started : ∃ job, ExecutionJob.new Int .newYear "run-1" .workspaceLocal "workspace"
      "workspace-run-1" none none (.int 0) (.int 3) (.int 1) (some .sample) = .ok job :=
    ExecutionJob.new_exists (by decide) (by decide) (by decide) (by decide) (by decide)
      (by decide) (by decide) (by decide) (by decide) (by decide)
  obtain ⟨job, made⟩ := started
  exact ⟨_, bind_ok.mpr ⟨job, made, rfl⟩⟩

end Workspace
end

section
attribute [local instance] Sha256.polynomial

theorem Workspace.sync_simulates_engine_started : ∃ workspace,
    Workspace.create .newYear "run-1" .sample (some "Validate inputs") = .ok workspace ∧
    ∀ events, workspace.Simulates events ↔ Observed .created .created events := by
  obtain ⟨workspace, created⟩ := Workspace.create_exists
  exact ⟨workspace, created, fun events => Workspace.sync_simulates_engine created events⟩

/-- A normalization that is tried again after a synced failure cannot be synced. -/
theorem Workspace.sync_refuses_retry : ∃ workspace,
    Workspace.create .newYear "run-1" .sample (some "Validate inputs") = .ok workspace ∧
    ¬workspace.Simulates [.move .inputValidated none none none,
      .move .failedNormalization none none none, .sync .newYear,
      .move .normalizing none none none, .sync .newYear] := by
  obtain ⟨workspace, created⟩ := Workspace.create_exists
  obtain ⟨phase, bound, presentable, observed⟩ := Workspace.create_bound created
  refine ⟨workspace, created, ?_⟩
  rw [Workspace.simulates_iff bound presentable observed, phase]
  simp only [Workspace.Observed]
  decide

end
end KSlide
