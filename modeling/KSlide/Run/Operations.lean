import KSlide.Interleaving.Crash
import KSlide.Run.Directory

/-
This file gives the calls of a host on a run directory, one durable write after the other.
-/

namespace KSlide
open Interleaving

/-- The actions of a call are its reads and its durable writes. -/
inductive RunAction where
  | read | metrics | translationPatch | canonicalIr | document (name : String)
  | removal (name : String) | workQueue | runState | summary
deriving DecidableEq

abbrev Operation [Engine] (Result : Type) : Type := Program RunAction RunDir Raised Result

namespace RunDir
open CompletionPolicy Program
variable [Engine]

def look : Operation RunDir := .read .read .ok

/-- A write under the deletion fence of the run fails. -/
def guarded (write : RunAction) (update : RunDir → RunDir) : Operation Unit :=
  .transact write fun dir =>
    match dir.mutationGuard with
    | .ok () => (.ok (), update dir)
    | .error error => (.error error, dir)

def saveState (state : RunState) : Operation RunState := do
  guarded .runState fun dir => { dir with state := state.saved }
  return state.saved

def saveQueue (queue : WorkQueue) : Operation Unit :=
  guarded .workQueue fun dir => { dir with queue }

def withDocument (dir : RunDir) (name text : String) : RunDir :=
  { dir with documents := dir.documents.insert name text }

def writeDocument (name text : String) : Operation Unit :=
  guarded (.document name) (·.withDocument name text)

@[simp] theorem run_look (dir : RunDir) : look.run dir = (.ok dir, dir) := run_read _ _ _

theorem run_guarded (write : RunAction) (update : RunDir → RunDir) (dir : RunDir) :
    (guarded write update).run dir =
      match dir.mutationGuard with
      | .ok () => (.ok (), update dir)
      | .error error => (.error error, dir) := run_transact _ _ _

/-- No fence stands before the write. -/
theorem run_guarded_open {write : RunAction} {update : RunDir → RunDir} {dir : RunDir}
    (unfenced : dir.mutationGuard = .ok ()) :
    (guarded write update).run dir = (.ok (), update dir) := by
  rw [run_guarded, unfenced]

section

inductive NextStatus where
  | processingFailed | complete | verified | needsReview | notReady | ready | repairReady
  | conflictAssessmentRequired | allTranslated
deriving DecidableEq, Repr

/-- The answer names the phase, the error and the unit that the caller needs. -/
structure NextAnswer where
  status : NextStatus
  runId : String
  nextAction : Option String
  phase : Option RunPhase
  errorCode : Option String
  errorMessage : Option String
  workUnit : Option WorkUnit
deriving DecidableEq

/-- A plan leaves the run or writes its queue and then its state. -/
abbrev NextPlan : Type := NextAnswer × Option (WorkQueue × RunState)

def answer (dir : RunDir) (status : NextStatus) (nextAction : Option String) : NextAnswer :=
  ⟨status, dir.state.runId, nextAction, none, none, none, none⟩

/-- The current unit waits for the translation that its caller reserved it for. -/
def reserved (dir : RunDir) : Except Raised (Option WorkUnit) :=
  match dir.state.currentWorkUnit with
  | none | some "" => .ok none
  | some workUnitId => do
    let unit ← dir.queue.get workUnitId
    return if unit.status ∈ [.translating, .repairing, .needsReview] then some unit else none

def resumeUnit (dir : RunDir) (unit : WorkUnit) : NextAnswer :=
  { dir.answer (if unit.status ∈ [.repairing, .needsReview] then .repairReady else .ready)
      (some "kslide_evidence") with workUnit := some unit }

/-- A unit is translated in phase TRANSLATING, or beside the units that await their review. -/
def translationState (dir : RunDir) (unit : WorkUnit) (queue : WorkQueue) :
    Except Raised RunState :=
  let state : RunState := { dir.state with currentWorkUnit := some unit.workUnitId }
  let action := some "Translate the returned evidence work unit"
  if state.phase ≠ .translating ∧ queue.awaitsReview = false then
    state.transition .translating action none none
  else if state.phase = .translating then .ok { state with nextAction := action }
  else .ok state

def planTranslation (dir : RunDir) (unit : WorkUnit) : Except Raised NextPlan := do
  let queue := dir.queue.update unit.workUnitId WorkUnit.startTranslation fun _ => rfl
  let state ← dir.translationState unit queue
  return ({ dir.answer .ready (some "kslide_evidence") with
    workUnit := some unit.startTranslation }, some (queue, state))

def planRepair (dir : RunDir) (unit : WorkUnit) : Except Raised NextPlan :=
  if unit.repairAttempts ≥ maxAutoRepairsPerUnit then do
    let queue := dir.queue.update unit.workUnitId WorkUnit.leaveToReview fun _ => rfl
    let state ← RunState.transition { dir.state with currentWorkUnit := none } .needsReview
      (some "Human review is required after bounded automatic repair attempts.") none none
    return ({ dir.answer .needsReview
        (some "Review 07_unresolved_items.md or provide an explicit repair.") with
      workUnit := some unit.leaveToReview }, some (queue, state))
  else do
    let queue := dir.queue.update unit.workUnitId WorkUnit.startRepair fun _ => rfl
    let state ← RunState.transition
      { dir.state with currentWorkUnit := some unit.workUnitId } .repairing (some "Repair the exact verification targets") none none
    return ({ dir.answer .repairReady (some "kslide_evidence") with
      workUnit := some unit.startRepair }, some (queue, state))

def reviewRequired (dir : RunDir) : NextAnswer :=
  dir.answer .needsReview (some "Human review or explicit repair is required.")

/-- The queue decides when no unit is reserved. -/
def planQueue (dir : RunDir) : Except Raised NextPlan :=
  match dir.queue.next with
  | .ready unit => dir.planTranslation unit
  | .repairReady unit => dir.planRepair unit
  | .allTranslated =>
    match Engine.conflictAssessmentStatus dir.contents.manifest with
    | .error error => .error (.kslide error)
    | .ok .notAssessed => .ok (dir.answer .conflictAssessmentRequired
        (some "kslide_conflict_assess"), none)
    | .ok _ => .ok (dir.answer .allTranslated (some "kslide_verify"), none)
  | .needsReview => .ok (dir.reviewRequired, none)
  | .notReady => .ok ({ dir.answer .notReady
      (some "No READY work unit is available yet.") with phase := some dir.state.phase }, none)

/-- The phases before the first unit is ready. -/
def preparing : List RunPhase := [.created, .inputValidated, .normalizing, .normalized, .extracting]

def planNext (dir : RunDir) : Except Raised NextPlan :=
  let state := dir.state
  if state.phase ∈ RunPhase.operationalFailures then
    .ok ({ dir.answer .processingFailed state.nextAction with
      phase := some state.phase
      errorCode := state.errorCode
      errorMessage := some (match state.errorMessage with
        | none | some "" => "K-Slide processing failed safely."
        | some message => message) }, none)
  else if state.phase = .complete then .ok (dir.answer .complete none, none)
  else if state.phase = .verified then .ok (dir.answer .verified (some "kslide_finalize"), none)
  else if state.phase = .needsReview ∧ dir.queue.offers = false then
    .ok (dir.reviewRequired, none)
  else do
    dir.compatible
    dir.bound
    if state.phase ∈ preparing then
      return ({ dir.answer .notReady (some "Document normalization and extraction must produce READY work units before translation.") with
        phase := some state.phase }, none)
    else
      match ← dir.reserved with
      | some unit => return (dir.resumeUnit unit, none)
      | none => dir.planQueue

def next : Operation NextAnswer := do
  let dir ← look
  let (answer, change) ← .lift dir.planNext
  match change with
  | none => return answer
  | some (queue, state) =>
    saveQueue queue
    let _ ← saveState state
    return answer

variable {dir : RunDir} {unit : WorkUnit} {result : NextAnswer} {queue : WorkQueue}
  {state : RunState}

/-- A reserved translation moves the run to TRANSLATING unless a unit awaits its review. -/
theorem planTranslation_ok
    (planned : dir.planTranslation unit = .ok (result, some (queue, state))) :
    queue = dir.queue.update unit.workUnitId WorkUnit.startTranslation (fun _ => rfl) ∧
      result.status = .ready ∧ result.workUnit = some unit.startTranslation ∧
      state.currentWorkUnit = some unit.workUnitId ∧
      (state.phase = .translating ∨ (queue.awaitsReview = true ∧ state.phase = dir.state.phase)) := by
  simp only [planTranslation, bind_ok, pure_ok, Prod.mk.injEq, Option.some.injEq] at planned
  obtain ⟨moved, movement, rfl, rfl, rfl⟩ := planned
  refine ⟨rfl, rfl, rfl, ?_⟩
  simp only [translationState] at movement
  split_ifs at movement with away translating
  · refine ⟨?_, Or.inl (RunState.transition_phase movement)⟩
    rcases RunState.transition_ok.mp movement with ⟨_, rfl⟩ | ⟨_, _, rfl⟩ <;> rfl
  · cases movement
    exact ⟨rfl, Or.inl translating⟩
  · cases movement
    refine ⟨rfl, Or.inr ⟨?_, rfl⟩⟩
    by_contra none
    exact away ⟨translating, by simpa using none⟩

/-- A unit is repaired a bounded number of times before it is left to a reviewer. -/
theorem planRepair_ok (planned : dir.planRepair unit = .ok (result, some (queue, state))) :
    (queue = dir.queue.update unit.workUnitId WorkUnit.leaveToReview (fun _ => rfl) ∧
      result.status = .needsReview ∧ state.currentWorkUnit = none ∧
      state.phase = .needsReview) ∨
    (queue = dir.queue.update unit.workUnitId WorkUnit.startRepair (fun _ => rfl) ∧
      result.status = .repairReady ∧ result.workUnit = some unit.startRepair ∧
      state.currentWorkUnit = some unit.workUnitId ∧ state.phase = .repairing) := by
  unfold planRepair at planned
  split_ifs at planned with spent
  · simp only [bind_ok, pure_ok, Prod.mk.injEq, Option.some.injEq] at planned
    obtain ⟨moved, movement, rfl, rfl, rfl⟩ := planned
    refine Or.inl ⟨rfl, rfl, ?_, RunState.transition_phase movement⟩
    rcases RunState.transition_ok.mp movement with ⟨_, rfl⟩ | ⟨_, _, rfl⟩ <;> rfl
  · simp only [bind_ok, pure_ok, Prod.mk.injEq, Option.some.injEq] at planned
    obtain ⟨moved, movement, rfl, rfl, rfl⟩ := planned
    refine Or.inr ⟨rfl, rfl, rfl, ?_, RunState.transition_phase movement⟩
    rcases RunState.transition_ok.mp movement with ⟨_, rfl⟩ | ⟨_, _, rfl⟩ <;> rfl

/-- Only the next unit of the queue changes the run. -/
theorem planQueue_ok (planned : dir.planQueue = .ok (result, some (queue, state))) :
    ∃ unit, (dir.queue.next = .ready unit ∧
        dir.planTranslation unit = .ok (result, some (queue, state))) ∨
      (dir.queue.next = .repairReady unit ∧
        dir.planRepair unit = .ok (result, some (queue, state))) := by
  unfold planQueue at planned
  cases offered : dir.queue.next with
  | ready unit => exact ⟨unit, Or.inl ⟨rfl, by simpa only [offered] using planned⟩⟩
  | repairReady unit => exact ⟨unit, Or.inr ⟨rfl, by simpa only [offered] using planned⟩⟩
  | allTranslated =>
    rw [offered] at planned
    dsimp only at planned
    split at planned <;> simp at planned
  | needsReview => simp [offered] at planned
  | notReady => simp [offered] at planned

/-- The phases that answer without the queue. -/
def settledPhase (dir : RunDir) : Prop :=
  dir.state.phase ∈ RunPhase.operationalFailures ∨ dir.state.phase = .complete ∨
    dir.state.phase = .verified ∨ (dir.state.phase = .needsReview ∧ dir.queue.offers = false)

/-- An unsettled run answers with its reserved unit or from its queue. -/
theorem planNext_unsettled (unsettled : ¬dir.settledPhase) : dir.planNext = (do
      dir.compatible
      dir.bound
      if dir.state.phase ∈ preparing then
        return ({ dir.answer .notReady (some "Document normalization and extraction must produce READY work units before translation.") with
          phase := some dir.state.phase }, none)
      else
        match ← dir.reserved with
        | some unit => return (dir.resumeUnit unit, none)
        | none => dir.planQueue) := by
  unfold settledPhase at unsettled
  push Not at unsettled
  obtain ⟨working, incomplete, unverified, offered⟩ := unsettled
  unfold planNext
  rw [if_neg working, if_neg incomplete, if_neg unverified, if_neg]
  rintro ⟨reviewed, none⟩
  exact offered reviewed none

/-- A call that changes the run found no reserved unit. -/
theorem planNext_ok (planned : dir.planNext = .ok (result, some (queue, state))) :
    ¬dir.settledPhase ∧ dir.state.phase ∉ preparing ∧ dir.reserved = .ok none ∧
      dir.planQueue = .ok (result, some (queue, state)) := by
  have unsettled : ¬dir.settledPhase := by
    rintro (failed | complete | verified | ⟨reviewed, none⟩)
    · simp [planNext, failed] at planned
    · simp [planNext, complete, RunPhase.operationalFailures] at planned
    · simp [planNext, verified, RunPhase.operationalFailures] at planned
    · simp [planNext, reviewed, none, RunPhase.operationalFailures] at planned
  refine ⟨unsettled, ?_⟩
  rw [planNext_unsettled unsettled] at planned
  simp only [bind_ok] at planned
  obtain ⟨_, -, _, -, rest⟩ := planned
  split_ifs at rest with early
  · simp at rest
  · refine ⟨early, ?_⟩
    simp only [bind_ok] at rest
    obtain ⟨unit, held, rest⟩ := rest
    cases unit with
    | some unit => simp at rest
    | none => exact ⟨held, rest⟩

end

def withReports (dir : RunDir) (reports : Reports) : RunDir :=
  ((dir.withDocument "05_final_report.md" reports.finalReport).withDocument
    "05_executive_brief.md" reports.executiveBrief).withDocument
    "07_unresolved_items.md" reports.unresolved

/-- The reports of a run replace the earlier ones. -/
def renderRun : Operation Unit := do
  let dir ← look
  let reports ← .lift (Engine.render dir.contents dir.queue)
  writeDocument "05_final_report.md" reports.finalReport
  writeDocument "05_executive_brief.md" reports.executiveBrief
  writeDocument "07_unresolved_items.md" reports.unresolved

theorem run_renderRun {dir : RunDir} (unfenced : dir.mutationGuard = .ok ()) :
    renderRun.run dir =
      match Engine.render dir.contents dir.queue with
      | .ok reports => (.ok (), dir.withReports reports)
      | .error error => (.error error, dir) := by
  simp only [renderRun, run_bind, run_look, run_lift]
  cases Engine.render dir.contents dir.queue with
  | error error => rfl
  | ok reports => simp only [writeDocument, run_guarded, withDocument, unfenced, withReports]

def checkBudget (budget : TokenBudget) (payload : String) : Except Raised Unit := do
  let observed := payload.utf8ByteSize
  require (observed ≤ budget.perWorkUnit) (.kslide ⟨.resourceLimit,
    "TranslationPatch exceeds the configured model output-token budget.",
    [("observed_tokens", .int observed), ("max_tokens", .int budget.perWorkUnit)]⟩)
  require (budget.reserved + budget.committed + observed ≤ budget.perRun) (.kslide
    ⟨.resourceLimit, "TranslationPatch exceeds the remaining run model-token budget.",
      [("observed_tokens", .int observed),
       ("remaining_tokens", .int (budget.perRun - budget.reserved - budget.committed))]⟩)

def charged (dir : RunDir) (payload : String) : RunDir :=
  { dir with budget := { dir.budget with
    committed := dir.budget.committed + payload.utf8ByteSize } }

/-- The tokens of a payload count even when the payload exceeds the budget. -/
def chargeModelOutputBudget (payload : String) : Operation Unit :=
  .transact .metrics fun dir => (checkBudget dir.budget payload, dir.charged payload)

/-- The phases of translation and repair accept a patch. -/
def submissible : List RunPhase := [.translating, .repairing, .needsReview]

def phaseRefused (dir : RunDir) : Raised :=
  .kslide ⟨.invalidTransition,
    "Structured translation can only be submitted during translation or repair.",
    [("phase", .str dir.state.phase.value)]⟩

/-- A checked submission has its unit and its merged canonical slide. -/
structure Submission where
  unit : WorkUnit
  canonical : Engine.Canonical

/-- A repair names the translation that it replaces. -/
def repairs (unit : WorkUnit) (patch : Engine.Patch) : Bool :=
  match Engine.repairRevision patch with
  | none => false
  | some revision => revision != "" && some revision == unit.translationRevision

def checkSubmission (dir : RunDir) (patch : Engine.Patch) : Except Raised Submission := do
  dir.bound
  let unit ← dir.queue.get (Engine.workUnitId patch)
  require (dir.state.phase ∈ submissible) dir.phaseRefused
  require (unit.status ∉ [.translated, .verified]) (.kslide ⟨.workUnitAlreadyComplete,
    "This work unit already has a verified translation.",
    [("work_unit_id", .str unit.workUnitId)]⟩)
  require (unit.status ∈ [.translating, .repairing, .needsReview, .verifyFailed]) (.kslide
    ⟨.workUnitConflict, "Work unit is not reserved for translation or repair.",
      [("work_unit_id", .str unit.workUnitId),
       ("status", .str (Text.Enumeration.value unit.status))]⟩)
  let evidence ← dir.contents.evidence unit.workUnitId
  require (unit.evidenceRevision.all fun revision =>
    revision == "" || revision == Engine.evidenceRevision evidence) (.kslide ⟨.staleEvidence,
      "Work queue evidence revision is stale.",
      [("expected", .str (Engine.evidenceRevision evidence)),
       ("actual", .ofText? unit.evidenceRevision)]⟩)
  require (unit.status ∉ [.repairing, .needsReview, .verifyFailed] || repairs unit patch) (.kslide
    ⟨.workUnitConflict, "Repair submission must identify the current translation revision.",
      [("work_unit_id", .str unit.workUnitId)]⟩)
  Engine.validateAgainst patch evidence
  let runtime ← Engine.runtimeMetadata dir.contents.manifest
  let canonical ← Engine.mergeEvidencePatch evidence patch runtime (Engine.patchRevision patch)
  return ⟨unit, canonical⟩

def withPatch (dir : RunDir) (workUnitId : String) (patch : Engine.Patch) : RunDir :=
  { dir with patches := dir.patches.insert workUnitId patch }

def withCanonical (dir : RunDir) (workUnitId : String) (canonical : Engine.Canonical) : RunDir :=
  { dir with
    contents := { dir.contents with canonical := dir.contents.canonical.insert workUnitId canonical } }

def submissionAction (recoveryUnresolved : List String) : String :=
  if recoveryUnresolved.isEmpty then
    "Call kslide_next for the next work unit or whole-run verification."
  else "Review retained source crops and resolve engine literal recovery before finalization."

/-- An unresolved recovery moves the run to its review, and the last review ends it. -/
def settleState (state : RunState) (queue : WorkQueue) (recoveryUnresolved : List String) :
    Except Raised RunState :=
  let action := some (submissionAction recoveryUnresolved)
  let state : RunState := { state with currentWorkUnit := none, nextAction := action }
  if recoveryUnresolved ≠ [] ∧ state.phase ≠ .needsReview then
    state.transition .needsReview action none none
  else if state.phase = .needsReview ∧ queue.awaitsReview = false then
    state.transition .translating action none none
  else .ok state

structure SubmitAnswer where
  accepted : Bool
  runId : String
  workUnitId : String
  translationRevision : String
  unresolvedSourceIds : List String
deriving DecidableEq

/-- A payload is charged before it is parsed. -/
def receive (payload : String) : Operation Engine.Patch := do
  let dir ← look
  .lift dir.compatible
  chargeModelOutputBudget payload
  .lift (Engine.parseTranslationPatch payload)

def acceptedQueue (dir : RunDir) (patch : Engine.Patch) (submission : Submission) : WorkQueue :=
  dir.queue.update submission.unit.workUnitId (·.accept (Engine.patchRevision patch)
    (Engine.sha256File submission.canonical) (Engine.recoveryUnresolved submission.canonical))
    fun _ => rfl

/-- The patch, the canonical slide, the reports and the queue are written before the state. -/
def storeSubmission (dir : RunDir) (patch : Engine.Patch) (submission : Submission) :
    Operation SubmitAnswer := do
  let workUnitId := submission.unit.workUnitId
  let unresolved := Engine.recoveryUnresolved submission.canonical
  guarded .translationPatch (·.withPatch workUnitId patch)
  guarded .canonicalIr (·.withCanonical workUnitId submission.canonical)
  renderRun
  let queue := dir.acceptedQueue patch submission
  saveQueue queue
  let state ← .lift (settleState dir.state queue unresolved)
  let _ ← saveState state
  return ⟨unresolved.isEmpty, state.runId, workUnitId, Engine.patchRevision patch, unresolved⟩

def submit (payload : String) : Operation SubmitAnswer := do
  let patch ← receive payload
  let dir ← look
  let submission ← .lift (dir.checkSubmission patch)
  storeSubmission dir patch submission

section
variable [Sha256]

def verificationLines (result : VerificationResult) : List String :=
  ["# K-Slide Verification", "", s!"Status: **{result.status}**", s!"Run: `{result.runId}`", "",
    s!"Work units checked: {result.checkedWorkUnits}",
    s!"Critical issues: {result.criticalCount}",
    s!"Unaccounted source items: {result.unaccountedCount}"] ++
  (if result.unitStatus.isEmpty then [] else ["", "## Work-unit status", ""] ++
    (result.unitStatus.mergeSort fun first second => first.1 ≤ second.1).map fun status =>
      s!"- `{status.1}`: **{status.2.value}**") ++
  (if result.issues.isEmpty then [] else ["", "## Issues"] ++ result.issues.map fun issue =>
    s!"- **{issue.severity.value}** `{issue.code}` [{issue.scope}]: {issue.message}" ++
      (match issue.target with
        | none | some "" => ""
        | some target => s!" (`{target}`)")) ++
  ["", "## Completion policy", "", "Policy version: `1.0`", "",
    "`RUN_COMPLETE.md` is created only by deterministic finalization after current verification passes.",
    ""]

def persistVerification (result : VerificationResult) : Operation Unit := do
  guarded .summary fun dir => { dir with summary := some result }
  writeDocument "06_verification.md" ("\n".intercalate (verificationLines result))

def phaseNotVerifiable (dir : RunDir) : VerificationResult :=
  { issues := [critical "KSLIDE_PHASE_NOT_VERIFIABLE"
      "Run is not in a translation/verification phase." dir.state.phase.value
      "WORK_UNIT_TRANSLATION_FAILURE"]
    runId := dir.state.runId
    checkedSlides := 0
    checkedRegions := 0
    checkedWorkUnits := 0
    unaccountedCount := 0
    queueRevision := none
    unitStatus := [] }

/-- The verdicts mark the units that they accept and the units that need a repair. -/
def judgeUnit (result : VerificationResult) (unit : WorkUnit) : WorkUnit :=
  match result.verdict unit.workUnitId with
  | some .pass =>
    { unit with verificationStatus := "PASS", status := .verified, revision := unit.revision + 1 }
  | some .failRepairable =>
    { unit with
      verificationStatus := "FAIL", status := .verifyFailed, revision := unit.revision + 1 }
  | _ => unit

omit [Engine] [Sha256] in
theorem judgeUnit_name (result : VerificationResult) (unit : WorkUnit) :
    (judgeUnit result unit).workUnitId = unit.workUnitId := by
  unfold judgeUnit
  split <;> rfl

def judgedQueue (queue : WorkQueue) (result : VerificationResult) : WorkQueue :=
  queue.mapUnits (judgeUnit result) (judgeUnit_name result)

/-- Reports are rendered once a unit has its canonical slide. -/
def renderTranslated : Operation Unit := do
  let dir ← look
  if dir.contents.canonical.keys = [] then return ()
  else renderRun

def unlinkMarker : Operation Unit :=
  guarded (.removal completionMarker) fun dir =>
    { dir with documents := dir.documents.erase completionMarker }

/-- A complete run loses its marker before it is verified again. -/
def reopen (state : RunState) : Operation RunState := do
  unlinkMarker
  let state ← .lift (state.transition .verifying (some "Re-verifying current artifacts") none none)
  saveState state

/-- The verdicts of a verification that ran to its end decide the phase. -/
def concludeVerification (state : RunState) : Operation VerificationResult := do
  renderTranslated
  let dir ← look
  let result := dir.verifyUnlocked
  tryCatch (saveQueue (judgedQueue dir.queue result)) fun error =>
    match error with
    | .kslide _ => return ()
    | .other kind => throw (.other kind)
  let state ← .lift (if result.passed then
      state.transition .verified (some "Finalize after current verification") none none
    else state.transition .failRepairable (some "Repair exact verification targets") none none)
  let _ ← saveState state
  persistVerification result
  return result

/-- The phases of a translation that can be verified. -/
def verifiable : List RunPhase := [.translated, .translating, .repairing, .needsReview, .verified]

def verifyRun : Operation VerificationResult := do
  let dir ← look
  .lift dir.compatible
  if dir.state.phase = .complete then
    let state ← reopen dir.state
    concludeVerification state
  else if dir.state.phase ∈ verifiable then
    let state ← .lift (dir.state.transition .verifying
      (some "Deterministic verification in progress") none none)
    let state ← saveState state
    concludeVerification state
  else
    persistVerification dir.phaseNotVerifiable
    return dir.phaseNotVerifiable

def startFinalization (state : RunState) : Operation Unit := do
  if state.phase = .complete then
    let _ ← reopen state
  else if state.phase = .verifying then return ()
  else
    let state ← .lift (state.transition .verifying (some "Re-verifying current artifacts") none none)
    let _ ← saveState state

def completionBlocked (message : String) (details : List (String × Json)) : Raised :=
  .kslide ⟨.completionBlocked, message, details⟩

def verificationFailed (result : VerificationResult) : Raised :=
  completionBlocked
    "K-Slide cannot finalize because current deterministic verification has not passed."
    [("verification", .str result.status)]

def markerText : String :=
  "# DONE\n\nK-Slide deterministic verification passed against the current artifacts.\n"

/-- A failed finalization leaves the run to its repair. -/
def refuseCompletion (result : VerificationResult) : Operation VerificationResult := do
  let dir ← look
  let state ← .lift (dir.state.transition .failRepairable
    (some "Repair exact verification targets") none none)
  let _ ← saveState state
  throw (verificationFailed result)

/-- The marker is written before the phase. -/
def complete (result : VerificationResult) : Operation VerificationResult := do
  let dir ← look
  .lift (require (missing dir.documents false = []) (completionBlocked
    "Required K-Slide completion artifacts are missing."
    [("missing", .arr ((missing dir.documents false).map .str))]))
  writeDocument completionMarker markerText
  let dir ← look
  .lift (require (missing dir.documents true = []) (completionBlocked
    "Completion artifacts are incomplete."
    [("missing", .arr ((missing dir.documents true).map .str))]))
  let state ← .lift (dir.state.transition .verified
    (some "Create deterministic completion sentinel") none none)
  let state ← .lift (state.transition .complete none none none)
  let _ ← saveState state
  return result

/-- A finalization verifies the artifacts that it finds. -/
def reverify : Operation VerificationResult := do
  let dir ← look
  .lift dir.compatible
  startFinalization dir.state
  renderTranslated
  let dir ← look
  return dir.verifyUnlocked

def finalizeRun : Operation VerificationResult := do
  let result ← reverify
  persistVerification result
  if result.passed then complete result
  else refuseCompletion result

end
end RunDir

/-- A host makes its calls in any order. -/
inductive HostCall where
  | next
  | submit (payload : String)
  | verifyRun
  | finalizeRun
deriving DecidableEq

def HostCall.operation [Engine] [Sha256] : HostCall → Operation Unit
  | next => do let _ ← RunDir.next
  | submit payload => do let _ ← RunDir.submit payload
  | verifyRun => do let _ ← RunDir.verifyRun
  | finalizeRun => do let _ ← RunDir.finalizeRun

section

/-- A recorded patch names the sources whose recovery stays unresolved. -/
structure RecordedPatch where
  workUnitId : String
  repairRevision : Option String
  revision : String
  unresolved : List String
deriving DecidableEq

/-- The engine accepts the recorded translations of one unit and finds no fault in them. -/
@[reducible] def Engine.recorded : Engine where
  Evidence := String
  Patch := RecordedPatch
  Canonical := RecordedPatch
  Manifest := Unit
  evidenceRevision := id
  workUnitId := RecordedPatch.workUnitId
  repairRevision := RecordedPatch.repairRevision
  patchRevision := RecordedPatch.revision
  parseTranslationPatch payload :=
    match payload with
    | "translation" => .ok ⟨"unit-1", none, "first", []⟩
    | "partial" => .ok ⟨"unit-1", none, "first", ["region-1"]⟩
    | "repair" => .ok ⟨"unit-1", some "first", "second", []⟩
    | _ => .error (.kslide ⟨.schemaInvalid, "Translation payload is not valid JSON.", []⟩)
  validateAgainst _ _ := .ok ()
  runtimeMetadata _ := .ok (.obj [])
  mergeEvidencePatch _ patch _ _ := .ok patch
  recoveryUnresolved := RecordedPatch.unresolved
  sha256File := RecordedPatch.revision
  render _ _ := .ok ⟨"# K-Slide English Reconstruction", "# K-Slide Executive Brief",
    "# K-Slide Unresolved Items"⟩
  validateSlide _ _ := ⟨[], 0, 0, 0, by simp⟩
  conflictAssessmentStatus _ := .ok .assessedZeroConflicts
  validateRegistry _ := []

def WorkQueue.single : WorkQueue where
  runId := "run-1"
  workUnits := [⟨"unit-1", "doc-001", "source-001", 0, "slide", .ready, some "evidence-1", none,
    none, 0, 0, "NOT_RUN", 0, "2026-01-01T00:00:00Z", "2026-01-01T00:00:00Z"⟩]
  named := by decide
  distinct := by decide

attribute [local instance] Engine.recorded

/-- An extracted run has one unit that is ready for its translation. -/
def RunDir.extracted : RunDir where
  state := ⟨"run-1", .extracted, 1, none, none, none, none, 7⟩
  queue := .single
  contents := ⟨fun _ => .ok "evidence-1", ∅, ()⟩
  patches := ∅
  documents := ∅
  summary := none
  budget := ⟨0, 0, 1000, 1000⟩
  compatible := .ok ()
  bound := .ok ()
  mutationGuard := .ok ()

end
end KSlide
