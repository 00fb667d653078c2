import KSlide.Execution.Acceptance

/-
This file gives the values of a new job and shows when its constructors accept them.
-/

namespace KSlide

section
variable [Sha256]

/-- The values of a new checkpoint depend on its names and counts only. -/
structure RunCheckpoint.New (checkpoint : RunCheckpoint Int) (total : Int) : Prop where
  revision : checkpoint.revision = 0
  phase : checkpoint.enginePhase = "CREATED"
  completed : checkpoint.progress.completedWorkUnits = 0
  total : checkpoint.progress.totalWorkUnits = total
  unit : checkpoint.progress.currentWorkUnit = none
  stage : checkpoint.progress.engineStage = "CREATED"
  queue : checkpoint.queueRevision = .str ""
  eligible : checkpoint.resumeEligibility = .eligible
  metadata : checkpoint.metadata = []

/-- A new job waits in the queue with nothing done and nothing tried. -/
structure ExecutionJob.New (job : ExecutionJob Int) (total maxAttempts : Int) : Prop where
  lifecycle : job.lifecycle = .queued
  revision : job.revision = 0
  checkpoint : job.checkpoint.New total
  cancellation : job.cancellation = .initial
  attempt : job.retry.attempt = 0
  limit : job.retry.maxAttempts = maxAttempts
  disposition : job.retry.disposition = .none
  error : job.retry.lastErrorCode = none
  eligible : job.resumeEligibility = .eligible
  outcome : job.terminalOutcome = .none
  markers : job.resultMarkers = []

namespace ExecutionJob
variable {now : Timestamp} {runId scopeRef storeRef : String} {jobId executionId : Option String}
variable {profile : ExecutionProfile} {total maxAttempts engine : Int}
variable {environment : Option RunEnvironmentIdentity}

theorem initial_new {run job execution : Json} {checkpoint : RunCheckpoint Int}
    (made : RunCheckpoint.initial Int run job execution (.int total) (.int engine) =
      .ok checkpoint) : checkpoint.New total := by
  simp only [RunCheckpoint.initial, bind_ok, ProgressSnapshot.make_ok, RunCheckpoint.make_ok]
    at made
  obtain ⟨progress, ⟨stage, completed, totalEq, unit⟩, args⟩ := made
  simp only [RunCheckpoint.Args.settled, RunCheckpoint.Fields.args, RunCheckpoint.Args.mk.injEq]
    at args
  obtain ⟨-, -, -, revision, phase, rfl, -, queue, eligible, metadata, -, -, -⟩ := args
  have empty : checkpoint.metadata = [] := by
    cases found : checkpoint.metadata with
    | nil => rfl
    | cons item items => simp [found, metadataJson, Json.orEmpty] at metadata
  simp only [toJson_int, Json.int.injEq, Json.str.injEq] at stage completed totalEq revision phase
  refine ⟨revision.symm, phase.symm, completed.symm, totalEq.symm, ?_, stage.symm, queue.symm,
    eligible.symm, empty⟩
  cases found : checkpoint.progress.currentWorkUnit with
  | none => rfl
  | some text => simp [found] at unit

/-- The environment is the only value that binding changes. -/
theorem New.bound {checkpoint bound : RunCheckpoint Int}
    (fresh : checkpoint.New total) (found : bindEnvironment environment checkpoint = .ok bound) :
    bound.New total := by
  have same := (bindEnvironment_ok found).1
  simp only [RunCheckpoint.Fields.args, RunCheckpoint.Args.mk.injEq] at same
  obtain ⟨-, -, -, revision, phase, progress, -, queue, eligible, metadata, -, -, -⟩ := same
  obtain ⟨h1, h2, h3, h4, h5, h6, h7, h8, h9⟩ := fresh
  simp only [toJson_int, Json.int.injEq, Json.str.injEq] at revision phase
  exact ⟨revision ▸ h1, phase ▸ h2, progress ▸ h3, progress ▸ h4, progress ▸ h5, progress ▸ h6,
    queue ▸ h7, eligible ▸ h8, metadataJson_injective metadata ▸ h9⟩

theorem new_new {job : ExecutionJob Int}
    (made : new Int now runId profile scopeRef storeRef jobId executionId (.int total)
      (.int maxAttempts) (.int engine) environment = .ok job) : job.New total maxAttempts := by
  simp only [new, bind_ok, RunStoreRef.make_ok, RetryState.make_ok, make_ok] at made
  obtain ⟨checkpoint, initial, store, -, retry, ⟨attempt, limit, disposition, error⟩, bound,
    args⟩ := made
  simp only [Fields.args, Args.mk.injEq] at args
  obtain ⟨-, -, -, -, -, lifecycle, revision, -, cancellation, rfl, eligible, outcome, -, -, -,
    markers, -⟩ := args
  simp only [toJson_int, Json.int.injEq] at attempt limit revision
  refine ⟨lifecycle.symm, revision.symm, New.bound (initial_new initial) bound, cancellation.symm,
    attempt.symm, limit.symm, disposition.symm, ?_, eligible.symm, outcome.symm, markers.symm⟩
  cases found : job.retry.lastErrorCode with
  | none => rfl
  | some text => simp [found] at error

theorem new_names {job : ExecutionJob Int} {totalWorkUnits attempts engineStateRevision : Json}
    (made : new Int now runId profile scopeRef storeRef jobId executionId totalWorkUnits
      attempts engineStateRevision environment = .ok job) :
    job.runId = runId ∧ job.jobId = nameOr jobId s!"job-{runId}" ∧
      job.executionId = nameOr executionId s!"execution-{runId}" ∧ job.profile = profile ∧
      job.storeRef.scopeRef = scopeRef ∧ job.storeRef.storeRef = storeRef ∧
      job.environmentIdentity = environment := by
  simp only [new, bind_ok, RunStoreRef.make_ok, RetryState.make_ok, make_ok] at made
  obtain ⟨_, _, _, ⟨scope, store⟩, _, _, _, args⟩ := made
  simp only [Fields.args, Args.mk.injEq] at args
  obtain ⟨run, name, execution, rfl, rfl, -, -, -, -, -, -, -, -, -, -, -, rfl⟩ := args
  simp only [Json.str.injEq] at run name execution scope store
  exact ⟨run.symm, name.symm, execution.symm, rfl, scope.symm, store.symm, rfl⟩

theorem bindEnvironment_exists (environment : Option RunEnvironmentIdentity)
    (checkpoint : RunCheckpoint Int)
    (unnamed : checkpoint.environmentIdentitySha256 = .str "")
    (unhashed : checkpoint.checkpointSha256 = .str "") :
    ∃ bound, bindEnvironment environment checkpoint = .ok bound := by
  cases environment with
  | none => exact ⟨checkpoint, rfl⟩
  | some identity =>
    have valid : RunCheckpoint.Fields.Valid { checkpoint.toFields with
        environmentIdentitySha256 := .str identity.identitySha256 } :=
      { checkpoint.valid with
        hash := Or.inl (by simp [unhashed])
        environment := fun _ => ⟨_, rfl, stableRevision_shape _⟩ }
    let bound : RunCheckpoint Int := ⟨_, valid⟩
    have made : RunCheckpoint.replace bound.toFields = .ok bound := RunCheckpoint.replace_ok.mpr rfl
    refine ⟨⟨_, valid⟩, ?_⟩
    simp only [bindEnvironment, unnamed, ↓reduceIte]
    exact made

/-- Well-formed names and bounded counts make a new job. -/
theorem new_exists (run : isIdentifier runId = true)
    (name : isIdentifier (nameOr jobId s!"job-{runId}") = true)
    (execution : isIdentifier (nameOr executionId s!"execution-{runId}") = true)
    (scope : isIdentifier scopeRef = true) (store : isIdentifier storeRef = true)
    (nonnegative : 0 ≤ total) (bounded : total ≤ 100000) (positive : 1 ≤ maxAttempts)
    (few : maxAttempts ≤ 32) (engineNonnegative : 0 ≤ engine) :
    ∃ job, new Int now runId profile scopeRef storeRef jobId executionId (.int total)
      (.int maxAttempts) (.int engine) environment = .ok job := by
  have created : isPhase "CREATED" = true := by decide
  have progress : ProgressSnapshot.Fields.Valid (⟨"CREATED", 0, total, none⟩ :
      ProgressSnapshot.Fields Int) := ⟨created, le_refl _, nonnegative, bounded, by simp⟩
  have checkpoint : RunCheckpoint.Fields.Valid (⟨runId, nameOr jobId s!"job-{runId}",
      nameOr executionId s!"execution-{runId}", 0, "CREATED", ⟨_, progress⟩, engine, .str "",
      .eligible, [], .str "", .str ""⟩ : RunCheckpoint.Fields Int) :=
    ⟨run, name, execution, le_refl _, created, engineNonnegative, by simp,
      by simp [MetadataValid], Or.inl (by simp), by simp⟩
  have retry : RetryState.Fields.Valid (⟨0, maxAttempts, .none, none⟩ : RetryState.Fields Int) :=
    ⟨le_refl _, positive, le_trans zero_le_one positive, few, by simp,
      Or.inl RetryDisposition.noConfusion⟩
  obtain ⟨bound, found⟩ := bindEnvironment_exists environment ⟨_, checkpoint⟩ rfl rfl
  have same := (bindEnvironment_ok found).1
  simp only [RunCheckpoint.Fields.args, RunCheckpoint.Args.mk.injEq, Json.str.injEq] at same
  have valid : Fields.Valid (⟨runId, nameOr jobId s!"job-{runId}",
      nameOr executionId s!"execution-{runId}", profile, ⟨⟨scopeRef, storeRef⟩, scope, store⟩,
      .queued, 0, bound, .initial, ⟨_, retry⟩, .eligible, .none, some now.text, some now.text, [],
      environment⟩ : Fields Int) :=
    ⟨run, name, execution, le_refl _, same.1.symm, same.2.1.symm, same.2.2.1.symm,
      (bindEnvironment_ok found).2, now.moment, now.moment, rfl, Nat.zero_le _, List.nodup_nil⟩
  have initial : RunCheckpoint.initial Int (.str runId) (.str (nameOr jobId s!"job-{runId}"))
      (.str (nameOr executionId s!"execution-{runId}")) (.int total) (.int engine) =
        .ok ⟨_, checkpoint⟩ := by
    refine bind_ok.mpr ⟨⟨_, progress⟩, ProgressSnapshot.make_ok.mpr ⟨rfl, rfl, rfl, rfl⟩, ?_⟩
    exact RunCheckpoint.make_ok.mpr rfl
  refine ⟨⟨_, valid⟩, bind_ok.mpr ⟨⟨_, checkpoint⟩, initial, bind_ok.mpr ⟨⟨⟨scopeRef, storeRef⟩, scope, store⟩,
    RunStoreRef.make_ok.mpr ⟨rfl, rfl⟩, bind_ok.mpr ⟨⟨_, retry⟩,
      RetryState.make_ok.mpr ⟨rfl, rfl, rfl, rfl⟩, make_ok.mpr ⟨found, rfl⟩⟩⟩⟩⟩

end ExecutionJob
end
end KSlide
