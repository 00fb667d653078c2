import KSlide.Run.Capacity
import KSlide.Run.Completion

/-
This file gives the intake of an admitted run and proves when it leaves a run that can finish.
-/

namespace KSlide
open Interleaving

/-- A validated input before it is copied. -/
structure InputArtifact where
  extension : String
  kind : String
  sha256 : String
deriving DecidableEq

/-- A verified copy has the digest of its input. -/
def InputArtifact.snapshot (artifact : InputArtifact) : SnapshotRecord :=
  ⟨artifact.extension, artifact.kind, artifact.sha256, some artifact.sha256⟩

section
variable [Engine]

/-- The answers of the environment to the intake of a run. -/
structure IntakeAnswers where
  action : PreparationAction → Answer Raised Unit
  copied : Nat → Answer Raised Nat
  digest : Nat → Answer Raised String
  now : String
  normalization : NormalizeAnswers
  extraction : ExtractAnswers

/-- The queue of an intake has one unit for each input. -/
def createQueue (runId : String) (inputCount : Nat) (now : String) : Except Raised WorkQueue :=
  WorkQueue.build runId ((List.range' 1 inputCount).map fun index =>
    { workUnitId := s!"{documentId index}-input-{numbered 4 index}"
      documentId := documentId index
      sourceInputId := inputId index
      sourceIndex := index - 1
      kind := "input"
      status := .pending
      evidenceRevision := none
      translationRevision := none
      canonicalIrSha256 := none
      translationAttempts := 0
      repairAttempts := 0
      verificationStatus := "NOT_RUN"
      revision := 0
      createdAt := now
      updatedAt := now })

namespace RunFolder
open Program

/-- A refused intake leaves a terminal phase. -/
def refuseInput (answers : IntakeAnswers) (nextAction : String) (error : KSlideError) :
    Preparation Unit := do
  let folder ← examine
  enter answers.action folder.dir.state .failedInput nextAction (some error.code.value)
    (some error.message)
  ask .sync (answers.action .sync)
  ask .inventory (answers.action .inventory)
  ask .failureMarker (answers.action .failureMarker)

def refuseCopy (answers : IntakeAnswers) : Preparation Unit := do
  let folder ← examine
  enter answers.action folder.dir.state .failedRuntime "Retry after checking local storage."
    (some "KSLIDE_SNAPSHOT_HASH_MISMATCH") (some "Immutable input copy failed hash verification.")
  ask .sync (answers.action .sync)
  ask .failureMarker (answers.action .failureMarker)

def changedInput : KSlideError :=
  ⟨.resourceLimit,
    "Input changed beyond the configured resource budget during immutable snapshot creation.", []⟩

/-- The copies are measured and hashed one after the other. -/
def copyInputs (answers : IntakeAnswers) (budget : ResourceBudget) :
    List (InputArtifact × Nat) → Nat → Preparation Bool
  | [], _ => return true
  | (artifact, index) :: artifacts, copied => do
    let size ← lift (answers.copied index)
    if size > budget.maxFileBytes ∨ copied + size > budget.maxTotalFileBytesPerRun then
      ask .unlinkCopy (answers.action .unlinkCopy)
      refuseInput answers
        "Retry with stable inputs that fit the configured resource budget." changedInput
      return false
    else
      let digest ← lift (answers.digest index)
      if digest ≠ artifact.sha256 then
        refuseCopy answers
        return false
      else copyInputs answers budget artifacts (copied + size)

def withSnapshots (folder : RunFolder) (snapshots : List SnapshotRecord) : RunFolder :=
  { folder with snapshots }

/-- The queue of the inputs is written before the phase. -/
def storeQueue (answers : IntakeAnswers) (inputCount : Nat) : Preparation Unit := do
  let folder ← examine
  let state := folder.dir.state
  let queue ← lift (Answer.raise (createQueue state.runId inputCount answers.now))
  perform .saveQueue (answers.action .saveQueue) (·.withQueue queue)
  enter answers.action { state with inputCount, currentWorkUnit := none } .inputValidated
    "Normalize documents and create evidence work units." none none

/-- The manifests of the inputs are written before their queue. -/
def storeInputs (answers : IntakeAnswers) (artifacts : List InputArtifact) : Preparation Unit := do
  ask .sourceManifest (answers.action .sourceManifest)
  perform .runManifest (answers.action .runManifest)
    (·.withSnapshots (artifacts.map InputArtifact.snapshot))
  ask .inventory (answers.action .inventory)
  ask .runSummary (answers.action .runSummary)
  ask .artifactManifest (answers.action .artifactManifest)
  ask .metrics (answers.action .metrics)
  ask .runtimeMetadata (answers.action .runtimeMetadata)
  storeQueue answers artifacts.length

/-- A last action follows a value or an exception. -/
def thenAlways (program last : Preparation Unit) : Preparation Unit := do
  rescue program fun error => do
    last
    throw (.raised error)
  last

/-- The documents are processed in the same call when the caller asks for it. -/
def processInputs (answers : IntakeAnswers) : Preparation Unit :=
  thenAlways (do
    let _ ← normalizeRun answers.normalization
    let _ ← extractRun answers.extraction) (ask .sync (answers.action .sync))

/-- The intake of an admitted run copies its inputs before it moves the run. -/
def prepareAdmitted (answers : IntakeAnswers) (artifacts : List InputArtifact)
    (performProcessing : Bool) : Preparation Unit := do
  let folder ← examine
  if ← copyInputs answers folder.budget (artifacts.zipIdx 1) 0 then
    storeInputs answers artifacts
    ask .bindSession (answers.action .bindSession)
    if performProcessing then processInputs answers
    else ask .sync (answers.action .sync)

/-- The copies end a run early or let it go on. -/
def copyWork (answers : IntakeAnswers) (budget : ResourceBudget) :
    List (InputArtifact × Nat) → Nat → Answer Raised (Option RunPhase)
  | [], _ => return none
  | (artifact, index) :: artifacts, copied => do
    let size ← answers.copied index
    if size > budget.maxFileBytes ∨ copied + size > budget.maxTotalFileBytesPerRun then
      answers.action .unlinkCopy
      answers.action (.saveState .failedInput)
      return some .failedInput
    else
      let digest ← answers.digest index
      if digest ≠ artifact.sha256 then
        answers.action (.saveState .failedRuntime)
        return some .failedRuntime
      else copyWork answers budget artifacts (copied + size)

/-- The records of the inputs are written before the phase. -/
def storeInputsWork (answers : IntakeAnswers) (runId : String) (inputCount : Nat) :
    Answer Raised Unit := do
  answers.action .sourceManifest
  answers.action .runManifest
  answers.action .inventory
  answers.action .runSummary
  answers.action .artifactManifest
  answers.action .metrics
  answers.action .runtimeMetadata
  let _ ← Answer.raise (createQueue runId inputCount answers.now)
  answers.action .saveQueue
  answers.action (.saveState .inputValidated)

/-- An intake keeps the slot of its run. -/
structure Reserved (before after : RunFolder) : Prop where
  reservation : after.reservation = before.reservation
  budget : after.budget = before.budget
  runId : after.dir.state.runId = before.dir.state.runId

theorem Reserved.refl (folder : RunFolder) : Reserved folder folder := ⟨rfl, rfl, rfl⟩

theorem Reserved.trans {first second third : RunFolder} (before : Reserved first second)
    (after : Reserved second third) : Reserved first third :=
  ⟨after.reservation.trans before.reservation, after.budget.trans before.budget,
    after.runId.trans before.runId⟩

/-- A refusal moves its run unless the write of the phase is interrupted. -/
structure Refused (answer : Answer Raised Unit) (target : RunPhase) (folder : RunFolder)
    (outcome : Answer Raised Unit) (after : RunFolder) : Prop where
  reserved : Reserved folder after
  interrupted : ∀ interrupt, answer = .error interrupt → outcome = .error interrupt ∧ after = folder
  moved : answer = .ok () → after.phase = target

theorem run_refusal (answers : PreparationAction → Answer Raised Unit) {target : RunPhase}
    (nextAction : String) (errorCode errorMessage : Option String) (rest : Preparation Unit)
    {folder : RunFolder} (other : folder.dir.state.phase ≠ target)
    (allowed : target ∈ folder.dir.state.phase.allowed)
    (still : ∀ folder, (rest.run folder).2 = folder) :
    ∃ outcome after, (do
      enter answers folder.dir.state target nextAction errorCode errorMessage
      rest : Preparation Unit).run folder = (outcome, after) ∧
      Refused (answers (.saveState target)) target folder outcome after := by
  rw [run_bind, run_enter other allowed]
  cases answers (.saveState target) with
  | error interrupt =>
    refine ⟨_, folder, rfl, .refl folder, ?_, nofun⟩
    rintro interrupt ⟨⟩
    exact ⟨rfl, rfl⟩
  | ok value =>
    refine ⟨_, _, rfl, ?_, nofun, ?_⟩
    · simp only [still]
      exact ⟨rfl, rfl, rfl⟩
    · intro _
      simp only [still]
      rfl

theorem run_asks (first : PreparationAction) (answer : Answer Raised Unit) {rest : Preparation Unit}
    (still : ∀ folder, (rest.run folder).2 = folder) (folder : RunFolder) :
    ((do ask first answer; rest : Preparation Unit).run folder).2 = folder := by
  rw [run_ask_bind]
  cases answer with
  | error interrupt => rfl
  | ok value => exact still folder

theorem run_ask_state (action : PreparationAction) (answer : Answer Raised Unit)
    (folder : RunFolder) : ((ask action answer).run folder).2 = folder := by
  rw [run_ask]

variable (answers : IntakeAnswers) {snapshots : List SnapshotRecord} {work : Answer Raised Unit}
  {program : Preparation Unit} {folder : RunFolder}

theorem run_refuseInput (nextAction : String) (error : KSlideError)
    {folder : RunFolder} (created : folder.phase = .created) :
    ∃ outcome after, (refuseInput answers nextAction error).run folder = (outcome, after) ∧
      Refused (answers.action (.saveState .failedInput)) .failedInput folder outcome after := by
  have phase : folder.dir.state.phase = .created := created
  unfold refuseInput
  rw [run_bind_ok (run_examine folder)]
  apply run_refusal
  · simp [phase]
  · simp [phase, RunPhase.allowed]
  · exact run_asks _ _ (run_asks _ _ (run_ask_state _ _))

theorem run_refuseCopy (created : folder.phase = .created) :
    ∃ outcome after, (refuseCopy answers).run folder = (outcome, after) ∧
      Refused (answers.action (.saveState .failedRuntime)) .failedRuntime folder outcome after := by
  have phase : folder.dir.state.phase = .created := created
  unfold refuseCopy
  rw [run_bind_ok (run_examine folder)]
  apply run_refusal
  · simp [phase]
  · simp [phase, RunPhase.allowed]
  · exact run_asks _ _ (run_ask_state _ _)

/-- The copies of a run end as their answers say. -/
structure Copies (work : Answer Raised (Option RunPhase)) (folder : RunFolder)
    (outcome : Answer Raised Bool) (after : RunFolder) : Prop where
  reserved : Reserved folder after
  interrupted : ∀ interrupt, work = .error interrupt → outcome = .error interrupt ∧ after = folder
  copied : work = .ok none → outcome = .ok true ∧ after = folder
  refused : ∀ phase, work = .ok (some phase) → after.phase = phase ∧ outcome ≠ .ok true

theorem copies_refused {answer : Answer Raised Unit} {target : RunPhase} {folder after : RunFolder}
    {outcome : Answer Raised Unit} (refused : Refused answer target folder outcome after)
    {program : Preparation Unit} (ran : program.run folder = (outcome, after)) :
    ∃ result after, (do program; return false : Preparation Bool).run folder = (result, after) ∧
      Copies (do answer; return some target) folder result after := by
  rw [run_bind, ran]
  cases answer with
  | error interrupt =>
    obtain ⟨rfl, rfl⟩ := refused.interrupted interrupt rfl
    refine ⟨_, _, rfl, .refl _, ?_, nofun, nofun⟩
    rintro interrupt ⟨⟩
    exact ⟨rfl, rfl⟩
  | ok value =>
    have moved := refused.moved rfl
    cases outcome with
    | error interrupt =>
      refine ⟨_, after, rfl, refused.reserved, nofun, nofun, ?_⟩
      rintro phase ⟨⟩
      exact ⟨moved, nofun⟩
    | ok value =>
      refine ⟨_, after, rfl, refused.reserved, nofun, nofun, ?_⟩
      rintro phase ⟨⟩
      exact ⟨moved, nofun⟩

/-- An interrupted copy leaves its run unchanged. -/
theorem copies_interrupted (interrupt : Interrupt Raised) (folder : RunFolder) :
    Copies (.error interrupt) folder (.error interrupt) folder := by
  refine ⟨.refl folder, ?_, nofun, nofun⟩
  rintro interrupt ⟨⟩
  exact ⟨rfl, rfl⟩

/-- The inputs are copied before anything is recorded. -/
theorem run_copyInputs (budget : ResourceBudget)
    (artifacts : List (InputArtifact × Nat)) (copied : Nat) {folder : RunFolder}
    (created : folder.phase = .created) :
    ∃ outcome after, (copyInputs answers budget artifacts copied).run folder = (outcome, after) ∧
      Copies (copyWork answers budget artifacts copied) folder outcome after := by
  induction artifacts generalizing copied with
  | nil => exact ⟨_, folder, rfl, .refl folder, nofun, fun _ => ⟨rfl, rfl⟩, nofun⟩
  | cons input artifacts ih =>
    obtain ⟨artifact, index⟩ := input
    rw [copyInputs, copyWork, run_bind, run_lift]
    cases answers.copied index with
    | error interrupt => exact ⟨_, folder, rfl, copies_interrupted interrupt folder⟩
    | ok size =>
      rw [Answer.ok_bind]
      dsimp only
      split_ifs with beyond
      · rw [run_ask_bind]
        cases answers.action .unlinkCopy with
        | error interrupt => exact ⟨_, folder, rfl, copies_interrupted interrupt folder⟩
        | ok value =>
          obtain ⟨outcome, after, ran, refused⟩ := run_refuseInput answers
            "Retry with stable inputs that fit the configured resource budget." changedInput
            created
          exact copies_refused refused ran
      · rw [run_bind, run_lift]
        cases answers.digest index with
        | error interrupt => exact ⟨_, folder, rfl, copies_interrupted interrupt folder⟩
        | ok digest =>
          rw [Answer.ok_bind]
          dsimp only
          split_ifs with changed
          · obtain ⟨outcome, after, ran, refused⟩ := run_refuseCopy answers created
            exact copies_refused refused ran
          · exact ih (copied + size)

/-- The records of the inputs are stored before the run is validated. -/
structure Stores (snapshots : List SnapshotRecord) (work : Answer Raised Unit)
    (program : Preparation Unit) (folder : RunFolder) : Prop where
  ends : (program.run folder).1 = work
  reserved : Reserved folder (program.run folder).2
  interrupted : ∀ interrupt, work = .error interrupt →
    (program.run folder).2.phase = folder.phase
  validated : work = .ok () → (program.run folder).2.phase = .inputValidated ∧
    (program.run folder).2.snapshots = snapshots

/-- An action that keeps the slot and the phase stands before the stored records. -/
theorem stores_perform {update : RunFolder → RunFolder}
    (reserved : Reserved folder (update folder)) (phase : (update folder).phase = folder.phase)
    (stores : Stores snapshots work program (update folder))
    (action : PreparationAction) (answer : Answer Raised Unit) :
    Stores snapshots (do answer; work) (do perform action answer update; program) folder := by
  cases answer with
  | error interrupt =>
    have ran : (do perform action (.error interrupt) update; program : Preparation Unit).run
        folder = (.error interrupt, folder) :=
      run_bind_error (run_perform_error action interrupt update folder)
    exact ⟨by rw [ran]; rfl, by rw [ran]; exact .refl folder, fun _ _ => by rw [ran], nofun⟩
  | ok value =>
    have ran : (do perform action (.ok value) update; program : Preparation Unit).run folder =
        program.run (update folder) := run_bind_ok (run_perform_ok action value update folder)
    refine ⟨?_, ?_, ?_, ?_⟩ <;> rw [ran]
    · exact stores.ends
    · exact reserved.trans stores.reserved
    · exact fun interrupt interrupted => (stores.interrupted interrupt interrupted).trans phase
    · exact stores.validated

theorem stores_ask (stores : Stores snapshots work program folder)
    (action : PreparationAction) (answer : Answer Raised Unit) :
    Stores snapshots (do answer; work) (do ask action answer; program) folder :=
  stores_perform (.refl folder) rfl stores action answer

theorem stores_enter {state : RunState} {folder : RunFolder}
    (created : state.phase = .created) (same : state.runId = folder.dir.state.runId) :
    Stores folder.snapshots (answers.action (.saveState .inputValidated)) (enter answers.action state
      .inputValidated "Normalize documents and create evidence work units." none none) folder := by
  have ran := @run_enter _ answers.action state .inputValidated
    "Normalize documents and create evidence work units." none none (by simp [created])
    (by simp [created, RunPhase.allowed]) folder
  cases saved : answers.action (.saveState .inputValidated) with
  | error interrupt =>
    rw [saved] at ran
    exact ⟨by rw [ran], by rw [ran]; exact .refl folder, fun _ _ => by rw [ran], by simp⟩
  | ok value =>
    rw [saved] at ran
    exact ⟨by rw [ran], by rw [ran]; exact ⟨rfl, rfl, same⟩, by simp, fun _ => by rw [ran]; exact ⟨rfl, rfl⟩⟩

theorem stores_storeQueue (inputCount : Nat) {folder : RunFolder}
    (created : folder.phase = .created) :
    Stores folder.snapshots (do
        let _ ← Answer.raise (createQueue folder.dir.state.runId inputCount answers.now)
        answers.action .saveQueue
        answers.action (.saveState .inputValidated))
      (storeQueue answers inputCount) folder := by
  have ran : (storeQueue answers inputCount).run folder = (do
      let queue ← lift (Answer.raise (createQueue folder.dir.state.runId inputCount answers.now))
      perform .saveQueue (answers.action .saveQueue) (·.withQueue queue)
      enter answers.action { folder.dir.state with inputCount, currentWorkUnit := none }
        .inputValidated "Normalize documents and create evidence work units." none none :
        Preparation Unit).run folder := run_bind_ok (run_examine folder)
  cases built : createQueue folder.dir.state.runId inputCount answers.now with
  | error error =>
    rw [built] at ran
    exact ⟨by rw [ran]; rfl, by rw [ran]; exact .refl folder, fun _ _ => by rw [ran]; rfl, nofun⟩
  | ok queue =>
    have entered := @stores_enter _ answers
      { folder.dir.state with inputCount, currentWorkUnit := none } (folder.withQueue queue)
      created rfl
    have stored := @stores_perform _ _ _ _ folder (·.withQueue queue) ⟨rfl, rfl, rfl⟩ rfl entered
      .saveQueue (answers.action .saveQueue)
    rw [built] at ran
    exact ⟨by rw [ran]; exact stored.ends, by rw [ran]; exact stored.reserved,
      by rw [ran]; exact stored.interrupted, by rw [ran]; exact stored.validated⟩

theorem stores_storeInputs (artifacts : List InputArtifact)
    {folder : RunFolder} (created : folder.phase = .created) :
    Stores (artifacts.map InputArtifact.snapshot)
      (storeInputsWork answers folder.dir.state.runId artifacts.length)
      (storeInputs answers artifacts) folder := by
  apply stores_ask
  refine @stores_perform _ _ _ _ folder (·.withSnapshots (artifacts.map InputArtifact.snapshot))
    ⟨rfl, rfl, rfl⟩ rfl ?_ _ _
  apply stores_ask
  apply stores_ask
  apply stores_ask
  apply stores_ask
  apply stores_ask
  exact @stores_storeQueue _ answers artifacts.length
    (folder.withSnapshots (artifacts.map InputArtifact.snapshot)) created

/-- The run that an intake hands to its normalization. -/
def validated (folder : RunFolder) (artifacts : List InputArtifact) : RunFolder :=
  (folder.withSnapshots (artifacts.map InputArtifact.snapshot)).withState
    { folder.dir.state with phase := .inputValidated }

/-- An intake concludes when its run is refused or validated, and when the normalization that it
starts settles. -/
def Concludes (answers : IntakeAnswers) (artifacts : List InputArtifact) (performProcessing : Bool)
    (folder : RunFolder) : Prop :=
  (∃ phase, copyWork answers folder.budget (artifacts.zipIdx 1) 0 = .ok (some phase)) ∨
  (copyWork answers folder.budget (artifacts.zipIdx 1) 0 = .ok none ∧
    storeInputsWork answers folder.dir.state.runId artifacts.length = .ok () ∧
    (performProcessing = true → answers.action .bindSession = .ok () →
      (PreparationCall.normalize answers.normalization).Settles (folder.validated artifacts)))

/-- A last action without a write leaves the run to the program before it. -/
theorem run_thenAlways {program last : Preparation Unit} (still : ∀ folder, (last.run folder).2 = folder)
    (folder : RunFolder) : ((thenAlways program last).run folder).2 = (program.run folder).2 := by
  unfold thenAlways
  rw [run_bind, run_rescue]
  rcases program.run folder with ⟨_ | value, after⟩
  · rename_i interrupt
    cases interrupt with
    | crashed => rfl
    | raised error =>
      have same := still after
      dsimp only
      rw [run_bind]
      rcases ended : last.run after with ⟨_ | value, left⟩ <;> rw [ended] at same <;> exact same
  · exact still after

/-- A processing runs its extraction only after its normalization returned. -/
theorem run_processInputs (folder : RunFolder) : ((processInputs answers).run folder).2 =
        ((normalizeRun answers.normalization).run folder).2 ∨
      ((processInputs answers).run folder).2 = ((extractRun answers.extraction).run
        ((normalizeRun answers.normalization).run folder).2).2 := by
  rw [processInputs, run_thenAlways (run_ask_state _ _), run_bind]
  rcases (normalizeRun answers.normalization).run folder with ⟨_ | result, middle⟩
  · exact Or.inl rfl
  · apply Or.inr
    dsimp only
    rw [run_bind]
    rcases (extractRun answers.extraction).run middle with ⟨_ | evidence, after⟩ <;> rfl

/-- The phases that a concluded intake leaves. -/
def concluded : List RunPhase :=
  [.failedInput, .failedRuntime, .inputValidated, .failedNormalization, .normalized, .extracting,
    .extracted, .failedExtraction]

theorem concluded_extractRun (answers : ExtractAnswers) {folder : RunFolder}
    (held : folder.phase ∈ concluded) : ((extractRun answers).run folder).2.phase ∈ concluded := by
  have ends := run_extractRun answers folder
  generalize ((extractRun answers).run folder).2 = after at ends
  cases ends with
  | idle => exact held
  | extracted after _ _ reached => exact reached ▸ by decide
  | interrupted after _ _ _ _ reached => exact reached ▸ by decide
  | failed after _ reached => exact reached ▸ by decide

theorem wedged_extractRun (answers : ExtractAnswers) {folder : RunFolder} (wedged : Wedged folder) :
    Wedged ((extractRun answers).run folder).2 := by
  rw [run_extractRun_idle]
  · exact wedged
  · rcases wedged with phase | phase <;> simp [phase]
  · rcases wedged with phase | phase <;> simp [phase]

theorem concluded_normalizeRun {answers : NormalizeAnswers} {folder : RunFolder}
    (ready : folder.phase = .inputValidated)
    (settles : (PreparationCall.normalize answers).Settles folder) :
    ((normalizeRun answers).run folder).2.phase ∈ concluded := by
  by_cases works : Normalizes answers folder
  · have settled := settles works
    obtain ⟨outcome, after, ran, _, reached, _⟩ := run_normalizeRun works
    rw [ran, reached]
    cases worked : normalizationWork answers folder with
    | ok result => simp [normalizationPhase, concluded]
    | error interrupt =>
      rw [worked] at settled
      cases interrupt with
      | crashed => exact settled.elim
      | raised error => simp [normalizationPhase, settled.1, settled.2, concluded]
  · rw [run_normalizeRun_idle works, ready]
    decide

theorem processInputs_concludes {answers : IntakeAnswers} {folder : RunFolder}
    (ready : folder.phase = .inputValidated) :
    ((PreparationCall.normalize answers.normalization).Settles folder →
        ((processInputs answers).run folder).2.phase ∈ concluded) ∧
      (¬(PreparationCall.normalize answers.normalization).Settles folder →
        Wedged ((processInputs answers).run folder).2) := by
  constructor
  · intro settles
    have held := concluded_normalizeRun ready settles
    rcases run_processInputs answers folder with same | same <;> rw [same]
    · exact held
    · exact concluded_extractRun _ held
  · intro unsettled
    have wedged : Wedged ((normalizeRun answers.normalization).run folder).2 :=
      Or.inr (unsettled_normalizeRun unsettled)
    rcases run_processInputs answers folder with same | same <;> rw [same]
    · exact wedged
    · exact wedged_extractRun _ wedged

/-- A normalization sees only the phase, the inputs and the name of its run. -/
theorem settles_congr {answers : NormalizeAnswers} {first second : RunFolder}
    (phase : first.phase = second.phase) (snapshots : first.snapshots = second.snapshots)
    (budget : first.budget = second.budget)
    (runId : first.dir.state.runId = second.dir.state.runId) :
    (PreparationCall.normalize answers).Settles first ↔
      (PreparationCall.normalize answers).Settles second := by
  have starts : Normalizes answers first ↔ Normalizes answers second := by
    constructor
    · exact fun works => ⟨works.environment, works.locked, phase ▸ works.phase, works.started⟩
    · exact fun works => ⟨works.environment, works.locked, phase ▸ works.phase, works.started⟩
  have work : normalizationWork answers first = normalizationWork answers second := by
    rw [normalizationWork, normalizationWork, snapshots, budget, runId]
  rw [PreparationCall.Settles, PreparationCall.Settles, starts, work]

theorem copyWork_refused {answers : IntakeAnswers} {budget : ResourceBudget}
    {artifacts : List (InputArtifact × Nat)} {copied : Nat} {phase : RunPhase}
    (refused : copyWork answers budget artifacts copied = .ok (some phase)) : phase ∈ concluded := by
  induction artifacts generalizing copied with
  | nil => cases refused
  | cons input artifacts ih =>
    rw [copyWork] at refused
    simp only [bind_ok] at refused
    obtain ⟨size, _, refused⟩ := refused
    split_ifs at refused
    · simp only [bind_ok, pure_ok, Option.some.injEq] at refused
      obtain ⟨_, _, _, _, rfl⟩ := refused
      decide
    · simp only [bind_ok] at refused
      obtain ⟨digest, _, refused⟩ := refused
      split_ifs at refused
      · simp only [bind_ok, pure_ok, Option.some.injEq] at refused
        obtain ⟨_, _, rfl⟩ := refused
        decide
      · exact ih refused

/-- The intake goes on once all inputs are copied. -/
theorem run_prepareAdmitted_copied {answers : IntakeAnswers} {artifacts : List InputArtifact}
    {performProcessing : Bool} {folder : RunFolder} (created : folder.phase = .created)
    (copied : copyWork answers folder.budget (artifacts.zipIdx 1) 0 = .ok none) :
    (prepareAdmitted answers artifacts performProcessing).run folder = (do
      storeInputs answers artifacts
      ask .bindSession (answers.action .bindSession)
      if performProcessing then processInputs answers
      else ask .sync (answers.action .sync) : Preparation Unit).run folder := by
  obtain ⟨outcome, after, ran, copies⟩ := run_copyInputs answers folder.budget (artifacts.zipIdx 1) 0
    created
  obtain ⟨rfl, rfl⟩ := copies.copied copied
  rw [prepareAdmitted, run_bind_ok (run_examine _), run_bind_ok ran]
  rfl

theorem run_prepareAdmitted_stopped {answers : IntakeAnswers} {artifacts : List InputArtifact}
    {performProcessing : Bool} {folder middle : RunFolder} {outcome : Answer Raised Bool}
    (ran : (copyInputs answers folder.budget (artifacts.zipIdx 1) 0).run folder = (outcome, middle))
    (stopped : outcome ≠ .ok true) :
    ((prepareAdmitted answers artifacts performProcessing).run folder).2 = middle := by
  rw [prepareAdmitted, run_bind_ok (run_examine _)]
  cases outcome with
  | error interrupt => rw [run_bind_error ran]
  | ok copied =>
    cases copied with
    | true => exact absurd rfl stopped
    | false =>
      rw [run_bind_ok ran]
      rfl

theorem validated_concludes {answers : IntakeAnswers} {performProcessing : Bool}
    {folder : RunFolder} (ready : folder.phase = .inputValidated) :
    let program : Preparation Unit := do
      ask .bindSession (answers.action .bindSession)
      if performProcessing then processInputs answers else ask .sync (answers.action .sync)
    ((performProcessing = true → answers.action .bindSession = .ok () →
        (PreparationCall.normalize answers.normalization).Settles folder) →
      (program.run folder).2.phase ∈ concluded) ∧
    (¬(performProcessing = true → answers.action .bindSession = .ok () →
        (PreparationCall.normalize answers.normalization).Settles folder) →
      Wedged (program.run folder).2) := by
  dsimp only
  rw [run_ask_bind]
  cases answers.action .bindSession with
  | error interrupt =>
    constructor
    · intro _
      exact ready ▸ by decide
    · intro unsettled
      exact absurd (fun _ => nofun) unsettled
  | ok value =>
    cases performProcessing with
    | false =>
      constructor
      · intro _
        simp only [Bool.false_eq_true, ↓reduceIte, run_ask, ready]
        decide
      · intro unsettled
        exact absurd nofun unsettled
    | true =>
      obtain ⟨concludes, wedges⟩ := @processInputs_concludes _ answers folder ready
      constructor
      · intro settles
        exact concludes (settles rfl rfl)
      · intro unsettled
        apply wedges
        intro settles
        exact unsettled fun _ _ => settles

theorem prepareAdmitted_concludes {answers : IntakeAnswers} {artifacts : List InputArtifact}
    {performProcessing : Bool} {folder : RunFolder} (created : folder.phase = .created) :
    (Concludes answers artifacts performProcessing folder →
        ((prepareAdmitted answers artifacts performProcessing).run folder).2.phase ∈ concluded) ∧
      (¬Concludes answers artifacts performProcessing folder →
        Wedged ((prepareAdmitted answers artifacts performProcessing).run folder).2) := by
  unfold Concludes
  cases worked : copyWork answers folder.budget (artifacts.zipIdx 1) 0 with
  | error interrupt =>
    obtain ⟨outcome, after, ran, copies⟩ := run_copyInputs answers folder.budget
      (artifacts.zipIdx 1) 0 created
    obtain ⟨rfl, rfl⟩ := copies.interrupted interrupt worked
    rw [run_prepareAdmitted_stopped ran nofun]
    exact ⟨by simp, fun _ => Or.inl created⟩
  | ok refusal =>
    cases refusal with
    | some phase =>
      obtain ⟨outcome, after, ran, copies⟩ := run_copyInputs answers folder.budget
        (artifacts.zipIdx 1) 0 created
      obtain ⟨reached, stopped⟩ := copies.refused phase worked
      rw [run_prepareAdmitted_stopped ran stopped, reached]
      exact ⟨fun _ => copyWork_refused worked, by simp⟩
    | none =>
      rw [run_prepareAdmitted_copied created worked]
      have stores := stores_storeInputs answers artifacts created
      rcases ran : (storeInputs answers artifacts).run folder with ⟨outcome, middle⟩
      obtain ⟨ends, reserved, interrupted, stored⟩ := stores
      rw [ran] at ends reserved interrupted stored
      change outcome = _ at ends
      cases outcome with
      | error interrupt =>
        rw [run_bind_error ran, ← ends]
        constructor
        · simp
        · intro _
          exact Or.inl ((interrupted interrupt ends.symm).trans created)
      | ok value =>
        obtain ⟨ready, snapshots⟩ := stored ends.symm
        have congr : (PreparationCall.normalize answers.normalization).Settles middle ↔
            (PreparationCall.normalize answers.normalization).Settles
              (folder.validated artifacts) :=
          settles_congr ready snapshots reserved.budget reserved.runId
        rw [run_bind_ok ran, ← ends, ← congr]
        have concludes := @validated_concludes _ answers performProcessing middle ready
        simpa using concludes

end RunFolder
end

/-- Some run in the phase is ended by operations of the engine. -/
def RunPhase.CanFinish (phase : RunPhase) : Prop :=
  ∃ (_ : Engine) (_ : Sha256) (folder : RunFolder), folder.phase = phase ∧ folder.Finishes

/-- The slot of the run is given back or can be given back. -/
def RunPhase.Released (phase : RunPhase) : Prop := phase ∈ terminal ∨ phase.CanFinish

section
attribute [local instance] Engine.recorded Sha256.polynomial

/-- The documents of the run are extracted. -/
def RunFolder.evidenced : RunFolder := { RunFolder.single with dir := .extracted }

theorem RunDir.translated_completed :
    (RunDir.finalizeRun.run RunDir.translated).2.state.phase = .complete := by
  have found : (RunDir.translated.opened "Re-verifying current artifacts").rendered = .ok _ := rfl
  have ran := RunDir.run_finalizeRun rfl rfl (Or.inr (by decide) : RunDir.translated.permitsVerifying)
  dsimp only at ran
  rw [found] at ran
  dsimp only at ran
  rw [if_pos (by decide +kernel)] at ran
  rw [ran]
  rfl

theorem RunFolder.finishes_evidenced : RunFolder.evidenced.Finishes := by
  have ended : (RunFolder.evidenced.operate
      [.host .next, .host (.submit "translation"), .host .finalizeRun]).phase =
      (HostCall.finalizeRun.operation.run
        ((HostCall.submit "translation").operation.run
          (HostCall.next.operation.run RunDir.extracted).2).2).2.state.phase := rfl
  have completed := RunDir.translated_completed
  rw [RunDir.translated] at completed
  simp only [HostCall.operation, RunDir.run_ignored, completed] at ended
  exact ⟨_, by rw [ended]; decide⟩

/-- An intake that cannot copy its input. -/
def IntakeAnswers.interrupted : IntakeAnswers where
  action _ := .ok ()
  copied _ := .error (.raised (.other "OSError"))
  digest _ := .ok "digest"
  now := ""
  normalization := .undisturbed
  extraction := .undisturbed

/-- An admitted run whose inputs are not copied yet. -/
def RunFolder.admitted : RunFolder :=
  { RunFolder.single with
    dir := { RunDir.extracted with state := ⟨"run-1", .created, 0, none, none, none, none, 1⟩ }
    snapshots := [] }

end

/-- Operations of the engine end some run of every phase that a concluded intake leaves. -/
theorem RunPhase.released_concluded {phase : RunPhase} (concluded : phase ∈ RunFolder.concluded) :
    phase.Released := by
  have cases : ∀ phase ∈ RunFolder.concluded, phase ∈ terminal ∨ phase = .inputValidated ∨
      (phase = .normalized ∨ phase = .extracting) ∨ phase = .extracted := by
    decide
  let := Engine.recorded
  let := Sha256.polynomial
  rcases cases phase concluded with ended | validated | normalized | extracted
  · exact Or.inl ended
  · apply Or.inr
    let folder := RunFolder.admitted.withState { RunFolder.admitted.dir.state with phase }
    have reached : folder.phase = phase := rfl
    exact ⟨_, _, folder, rfl, RunFolder.finishes_validated validated⟩
  · apply Or.inr
    let folder := RunFolder.admitted.withState { RunFolder.admitted.dir.state with phase }
    exact ⟨_, _, folder, rfl, RunFolder.finishes_normalized normalized⟩
  · exact Or.inr ⟨_, _, RunFolder.evidenced, extracted.symm, RunFolder.finishes_evidenced⟩

/-- No operation of the engine ends a run in a wedged phase. -/
theorem RunPhase.unreleased {phase : RunPhase} (wedged : phase = .created ∨ phase = .normalizing) :
    ¬phase.Released := by
  rintro (ended | ⟨engine, digests, folder, rfl, finishes⟩)
  · rcases wedged with rfl | rfl <;> exact absurd ended (by decide)
  · exact RunFolder.wedged_unfinished wedged finishes

section
variable [Engine] [Sha256]

/-- A finished intake can give its slot back exactly when it concludes; otherwise every operation
leaves the run in its phase and the slot taken. -/
theorem RunFolder.capacity_released (answers : IntakeAnswers) (artifacts : List InputArtifact)
    (performProcessing : Bool) (folder : RunFolder) (created : folder.phase = .created) :
    let after := ((prepareAdmitted answers artifacts performProcessing).run folder).2
    (after.phase.Released ↔ Concludes answers artifacts performProcessing folder) ∧
      (after.phase ≠ .extracted → Concludes answers artifacts performProcessing folder →
        after.phase ∈ RunPhase.terminal ∨ after.Finishes) ∧
      (¬Concludes answers artifacts performProcessing folder →
        ∀ calls, (after.operate calls).phase = after.phase) := by
  obtain ⟨concludes, wedges⟩ := @prepareAdmitted_concludes _ answers artifacts performProcessing
    folder created
  refine ⟨⟨?_, ?_⟩, ?_, ?_⟩
  · intro released
    by_contra unsettled
    exact RunPhase.unreleased (wedges unsettled) released
  · intro settled
    exact RunPhase.released_concluded (concludes settled)
  · intro unextracted settled
    have cases : ∀ phase ∈ concluded, phase ∈ RunPhase.terminal ∨ phase = .inputValidated ∨
        (phase = .normalized ∨ phase = .extracting) ∨ phase = .extracted := by
      decide
    rcases cases _ (concludes settled) with ended | validated | normalized | extracted
    · exact Or.inl ended
    · exact Or.inr (finishes_validated validated)
    · exact Or.inr (finishes_normalized normalized)
    · exact absurd extracted unextracted
  · intro unsettled calls
    exact wedged_operate (wedges unsettled) calls

end

section
attribute [local instance] Engine.recorded Sha256.polynomial

theorem RunFolder.capacity_released_admitted :
    let after := ((prepareAdmitted .interrupted [⟨".png", "image", "digest"⟩] false).run admitted).2
    (after.phase.Released ↔
        Concludes .interrupted [⟨".png", "image", "digest"⟩] false admitted) ∧
      (after.phase ≠ .extracted →
        Concludes .interrupted [⟨".png", "image", "digest"⟩] false admitted →
        after.phase ∈ RunPhase.terminal ∨ after.Finishes) ∧
      (¬Concludes .interrupted [⟨".png", "image", "digest"⟩] false admitted →
        ∀ calls, (after.operate calls).phase = after.phase) :=
  RunFolder.capacity_released .interrupted [⟨".png", "image", "digest"⟩] false admitted rfl

/-- An intake that cannot copy its input keeps its slot for ever. -/
theorem capacity_leaked : ¬∀ (answers : IntakeAnswers) (artifacts : List InputArtifact)
    (performProcessing : Bool) (folder : RunFolder), folder.phase = .created →
    ((RunFolder.prepareAdmitted answers artifacts performProcessing).run folder).2.phase.Released := by
  intro claim
  have released := claim .interrupted [⟨".png", "image", "digest"⟩] false .admitted rfl
  exact RunPhase.unreleased (Or.inl rfl) released

end
end KSlide
