import KSlide.Interleaving.Answers
import KSlide.Run.Operations

/-
This file gives the normalization of the inputs of a run, one durable write after the other.
-/

namespace KSlide
open Interleaving

/-- The formats that the normalization converts. -/
inductive SourceFormat where
  | image | pdf | pptx
deriving DecidableEq, Repr

def SourceFormat.ofExtension (extension : String) : Option SourceFormat :=
  if extension ∈ [".png", ".jpg", ".jpeg", ".webp"] then some image
  else if extension = ".pdf" then some pdf
  else if extension = ".pptx" then some pptx
  else none

/-- The manifest names the digest of a snapshot, and the stored copy has its own. -/
structure SnapshotRecord where
  extension : String
  kind : String
  sha256 : String
  stored : Option String
deriving DecidableEq

/-- A page or a slide that a converter rendered. -/
structure Page where
  widthPx : Nat
  heightPx : Nat
  renderSha256 : String
  renderBytes : Nat
deriving DecidableEq

structure DocumentUnit where
  workUnitId : String
  documentId : String
  inputId : String
  sourceIndex : Nat
  kind : String
  widthPx : Nat
  heightPx : Nat
  canonicalRenderPath : String
  renderSha256 : String
  nativeEvidencePath : String
deriving DecidableEq

structure NormalizedDocument where
  documentId : String
  inputId : String
  kind : String
  sourceSha256 : String
  units : List DocumentUnit
deriving DecidableEq

/-- The units of all documents stand in the order of the inputs. -/
structure NormalizationResult where
  documents : List NormalizedDocument
deriving DecidableEq

def NormalizationResult.units (result : NormalizationResult) : List DocumentUnit :=
  result.documents.flatMap (·.units)

/-- The limits of a run on its inputs, its pages and the runs beside it. -/
structure ResourceBudget where
  maxConcurrentRunsPerScope : Nat
  maxFileBytes : Nat
  maxTotalFileBytesPerRun : Nat
  maxPdfPagesPerDocument : Nat
  maxPptxSlidesPerDeck : Nat
  maxWorkUnitsPerRun : Nat
  maxTotalDecodedPixelsPerRun : Nat
  maxNormalizedBytesPerRun : Nat
deriving DecidableEq

/-- An admitted run holds a slot of its workspace. -/
structure CapacityReservation where
  status : String
  runId : String
deriving DecidableEq

/-- A run directory with its snapshots, its normalized documents and its workspace slot. -/
structure RunFolder [Engine] where
  dir : RunDir
  snapshots : List SnapshotRecord
  budget : ResourceBudget
  normalization : Option NormalizationResult
  reservation : Option CapacityReservation

/-- Each action of a preparation can be interrupted. -/
inductive PreparationAction where
  | environment | runLock | readState | readSnapshots | readBudget | preflight
  | saveManifest | readQueue | saveQueue | saveState (phase : RunPhase) | readNormalization
  | provider | ocrMetadata | readManifest | saveEvidence (workUnitId : String) | reloadState
  | metrics | recordLock | errorRecord | failureMarker | admissionLock | reserve | unlinkCopy
  | sourceManifest | runManifest | inventory | runSummary | artifactManifest | runtimeMetadata | bindSession
  | sync
deriving DecidableEq

/-- A preparation runs under the answers of its environment. -/
abbrev Preparation [Engine] (Result : Type) : Type :=
  Program PreparationAction RunFolder (Interrupt Raised) Result

/-- The number of an input, a page or a slide is filled with zeros. -/
def numbered (width number : Nat) : String := String.leftpad width '0' (toString number)

def documentId (index : Nat) : String := s!"doc-{numbered 3 index}"

def inputId (index : Nat) : String := s!"source-{numbered 3 index}"

namespace SnapshotRecord

/-- A snapshot is intact when its stored copy has the digest of the manifest. -/
def intact (snapshot : SnapshotRecord) : Prop :=
  SourceFormat.ofExtension snapshot.extension ≠ none ∧ snapshot.stored = some snapshot.sha256

/-- The digest of a stored copy is checked before its conversion. -/
def check (snapshot : SnapshotRecord) (index : Nat) : Except Raised Unit := do
  require (SourceFormat.ofExtension snapshot.extension).isSome (.kslide ⟨.inputCorrupt,
    "Immutable input snapshot metadata is invalid.", []⟩)
  require snapshot.stored.isSome (.kslide ⟨.inputNotFound, "Immutable input snapshot is missing.",
    [("input_id", .str (inputId index))]⟩)
  require (snapshot.stored = some snapshot.sha256) (.kslide ⟨.inputCorrupt,
    "Immutable input snapshot failed hash verification.", []⟩)

end SnapshotRecord

/-- The inputs of a run are numbered from one. -/
def snapshotInputs (snapshots : List SnapshotRecord) :
    Except Raised (List (SnapshotRecord × Nat)) := do
  forM (snapshots.zipIdx 1) fun input => input.1.check input.2
  return snapshots.zipIdx 1

/-- A unit is named by its document, its kind and its place. -/
def documentUnit (index : Nat) (kind : String) (place sourceIndex : Nat) (page : Page) :
    DocumentUnit :=
  let workUnitId := s!"{documentId index}-{kind}-{numbered 4 place}"
  { workUnitId
    documentId := documentId index
    inputId := inputId index
    sourceIndex
    kind
    widthPx := page.widthPx
    heightPx := page.heightPx
    canonicalRenderPath := s!"normalized/{workUnitId}.png"
    renderSha256 := page.renderSha256
    nativeEvidencePath := s!"native/{workUnitId}.json" }

def pageUnits (index : Nat) (kind : String) (pages : List Page) : List DocumentUnit :=
  (pages.zipIdx).map fun page => documentUnit index kind (page.2 + 1) page.2 page.1

/-- The answers of the environment to one normalization. -/
structure NormalizeAnswers where
  action : PreparationAction → Answer Raised Unit
  decodeImage : Nat → Answer Raised Page
  pageCount : Nat → Answer Raised Nat
  renderPage : Nat → Nat → Answer Raised Page
  slideCount : Nat → Answer Raised Nat
  renderSlides : Nat → Answer Raised (List Page)
  presentationSlides : Nat → Answer Raised Nat
  now : String

/-- A converted document has its units and their pages. -/
structure Conversion where
  document : NormalizedDocument
  pages : List Page
deriving DecidableEq

namespace NormalizeAnswers

/-- A check of the code raises a package error. -/
def ensure (condition : Bool) (code : ErrorCode) (message : String)
    (details : List (String × Json)) : Answer Raised Unit :=
  .raise (require condition (.kslide ⟨code, message, details⟩))

/-- Each format has its own converter. -/
def convert (answers : NormalizeAnswers) (budget : ResourceBudget)
    (input : SnapshotRecord × Nat) : Answer Raised Conversion := do
  let index := input.2
  let document (units : List DocumentUnit) : NormalizedDocument :=
    ⟨documentId index, inputId index, input.1.kind, input.1.sha256, units⟩
  match SourceFormat.ofExtension input.1.extension with
  | some .image =>
    let page ← answers.decodeImage index
    return ⟨document [documentUnit index "image" 1 (index - 1) page], [page]⟩
  | some .pdf =>
    let count ← answers.pageCount index
    ensure (1 ≤ count) .normalizationFailed "PDF contains no pages." []
    ensure (count ≤ budget.maxPdfPagesPerDocument) .resourceLimit
      "PDF page count exceeds the configured resource budget."
      [("pages", .int count), ("max_pages", .int budget.maxPdfPagesPerDocument)]
    let pages ← (List.range count).mapM (answers.renderPage index)
    return ⟨document (pageUnits index "page" pages), pages⟩
  | some .pptx =>
    let slides ← answers.slideCount index
    ensure (slides ≤ budget.maxPptxSlidesPerDeck) .resourceLimit
      "PPTX slide count exceeds the configured resource budget."
      [("max_slides", .int budget.maxPptxSlidesPerDeck)]
    let pages ← answers.renderSlides index
    let expected ← answers.presentationSlides index
    ensure (pages.length = expected) .renderCountMismatch
      "PPTX render page count does not match slide count."
      [("slides", .int expected), ("renders", .int pages.length)]
    return ⟨document (pageUnits index "slide" pages), pages⟩
  | none => .error (.raised (.kslide ⟨.inputUnsupported, "Unsupported normalized input type.",
      [("extension", .str input.1.extension)]⟩))

/-- The totals of a run are checked once all inputs are converted. -/
def checkTotals (budget : ResourceBudget) (conversions : List Conversion) :
    Answer Raised Unit := do
  let pages := conversions.flatMap (·.pages)
  let documentIds := conversions.map (·.document.documentId)
  ensure documentIds.Nodup .duplicateDocumentId "Normalization generated duplicate document IDs."
    [("document_ids", .arr (documentIds.map .str))]
  ensure (pages.length ≤ budget.maxWorkUnitsPerRun) .resourceLimit
    "Page/slide count exceeds the configured resource budget."
    [("units", .int pages.length), ("max_units", .int budget.maxWorkUnitsPerRun)]
  let pixels := (pages.map fun page => page.widthPx * page.heightPx).sum
  ensure (pixels ≤ budget.maxTotalDecodedPixelsPerRun) .resourceLimit
    "Total normalized render pixels exceed the configured resource budget."
    [("pixels", .int pixels), ("max_pixels", .int budget.maxTotalDecodedPixelsPerRun)]
  let bytes := (pages.map (·.renderBytes)).sum
  ensure (bytes ≤ budget.maxNormalizedBytesPerRun) .resourceLimit
    "Normalized render bytes exceed the configured resource budget."
    [("bytes", .int bytes), ("max_bytes", .int budget.maxNormalizedBytesPerRun)]

/-- The documents of a run are converted before anything is recorded. -/
def documents (answers : NormalizeAnswers) (snapshots : List SnapshotRecord)
    (budget : ResourceBudget) : Answer Raised NormalizationResult := do
  answers.action .readSnapshots
  let inputs ← Answer.raise (snapshotInputs snapshots)
  answers.action .readBudget
  answers.action .preflight
  let conversions ← inputs.mapM (answers.convert budget)
  checkTotals budget conversions
  return ⟨conversions.map (·.document)⟩

end NormalizeAnswers

/-- A queue is saved when it names each of its units once. -/
def WorkQueue.build (runId : String) (workUnits : List WorkUnit) : Except Raised WorkQueue :=
  if distinct : (workUnits.map (·.workUnitId)).Nodup then
    if named : runId ≠ "" then .ok ⟨runId, workUnits, named, distinct⟩
    else .error (.corrupt "Work queue has no run ID.")
  else .error (.kslide ⟨.duplicateWorkUnitId, "Work queue contains duplicate work-unit IDs.",
    [("work_unit_ids", .arr (workUnits.map fun unit => .str unit.workUnitId))]⟩)

theorem WorkQueue.build_distinct {runId : String} {workUnits : List WorkUnit}
    (distinct : (workUnits.map (·.workUnitId)).Nodup) (named : runId ≠ "") :
    WorkQueue.build runId workUnits = .ok ⟨runId, workUnits, named, distinct⟩ := by
  rw [WorkQueue.build, dif_pos distinct, dif_pos named]

theorem WorkQueue.build_ok {runId : String} {workUnits : List WorkUnit} {queue : WorkQueue}
    (built : WorkQueue.build runId workUnits = .ok queue) : queue.workUnits = workUnits := by
  unfold WorkQueue.build at built
  split_ifs at built
  exact (congrArg WorkQueue.workUnits (Except.ok.inj built)).symm

def DocumentUnit.workUnit (unit : DocumentUnit) (now : String) : WorkUnit :=
  { workUnitId := unit.workUnitId
    documentId := unit.documentId
    sourceInputId := unit.inputId
    sourceIndex := unit.sourceIndex
    kind := unit.kind
    status := .normalized
    evidenceRevision := none
    translationRevision := none
    canonicalIrSha256 := none
    translationAttempts := 0
    repairAttempts := 0
    verificationStatus := "NOT_RUN"
    revision := 0
    createdAt := now
    updatedAt := now }

def NormalizationResult.queue (result : NormalizationResult) (runId now : String) :
    Except Raised WorkQueue :=
  WorkQueue.build runId (result.units.map (·.workUnit now))

namespace RunFolder
open Program
variable [Engine]

def withState (folder : RunFolder) (state : RunState) : RunFolder :=
  { folder with dir := { folder.dir with state } }

def withQueue (folder : RunFolder) (queue : WorkQueue) : RunFolder :=
  { folder with dir := { folder.dir with queue } }

def withNormalization (folder : RunFolder) (result : NormalizationResult) : RunFolder :=
  { folder with normalization := some result }

def phase (folder : RunFolder) : RunPhase := folder.dir.state.phase

def examine : Preparation RunFolder := .read .readState .ok

/-- An answer decides whether an action that changes nothing goes on. -/
def ask (action : PreparationAction) (answer : Answer Raised Unit) : Preparation Unit :=
  perform action answer id

/-- A moved state is saved with the next revision. -/
def enter (answers : PreparationAction → Answer Raised Unit) (state : RunState)
    (target : RunPhase) (nextAction : String) (errorCode errorMessage : Option String) :
    Preparation Unit := do
  let moved ← lift (Answer.raise (state.transition target (some nextAction) errorCode errorMessage))
  perform (.saveState target) (answers (.saveState target)) (·.withState moved.saved)

/-- The phases whose normalization is answered from its manifest. -/
def normalizedPhases : List RunPhase :=
  [.normalized, .extracted, .translating, .translated, .verifying, .verified, .complete]

def loadNormalizationResult (answers : PreparationAction → Answer Raised Unit) :
    Preparation NormalizationResult := do
  ask .readNormalization (answers .readNormalization)
  let folder ← examine
  match folder.normalization with
  | some result => return result
  | none => throw (.raised (.corrupt "Could not read structured state: DOCUMENT_MANIFEST.json"))

/-- The manifest, the queue and the phase are written in this order. -/
def normalizeInputs (answers : NormalizeAnswers) (state : RunState) :
    Preparation NormalizationResult := do
  let folder ← examine
  let result ← lift (answers.documents folder.snapshots folder.budget)
  perform .saveManifest (answers.action .saveManifest) (·.withNormalization result)
  let queue ← lift (Answer.raise (result.queue state.runId answers.now))
  perform .saveQueue (answers.action .saveQueue) (·.withQueue queue)
  enter answers.action { state with inputCount := result.units.length } .normalized
    "Extract native evidence and generate regions" none none
  return result

/-- The exceptions beside the package errors that a normalization records. -/
def recordedKinds : List String := ["ImportError", "OSError", "RuntimeError", "ValueError"]

/-- A recorded exception has a package error. -/
def recorded : Raised → Option KSlideError
  | .kslide error => some error
  | .other kind =>
    if kind ∈ recordedKinds then
      some ⟨.normalizationFailed, "Document normalization failed safely.",
        [("reason", .str kind)]⟩
    else none

/-- A failed normalization records its error and can be retried. -/
def recordNormalizationFailure (answers : PreparationAction → Answer Raised Unit)
    (error : KSlideError) : Preparation Unit := do
  ask .readState (answers .readState)
  let folder ← examine
  enter answers folder.dir.state .failedNormalization
    "Fix the normalization capability or source file and retry"
    (some error.code.value) (some error.message)
  ask .errorRecord (answers .errorRecord)
  ask .failureMarker (answers .failureMarker)

/-- An exception that is not recorded leaves the phase of the work. -/
def failNormalization (answers : PreparationAction → Answer Raised Unit) (error : Raised) :
    Preparation NormalizationResult :=
  match recorded error with
  | some failure => do
    recordNormalizationFailure answers failure
    throw (.raised (.kslide failure))
  | none => throw (.raised error)

/-- A normalization replaces the queue of the inputs by the units of their documents. -/
def normalizeRun (answers : NormalizeAnswers) : Preparation NormalizationResult := do
  ask .environment (answers.action .environment)
  ask .runLock (answers.action .runLock)
  let folder ← examine
  let state := folder.dir.state
  if state.phase ∈ [.inputValidated, .failedNormalization] then
    let working ← lift (Answer.raise (state.transition .normalizing
      (some "Normalize immutable document inputs") none none))
    perform (.saveState .normalizing) (answers.action (.saveState .normalizing))
      (·.withState working.saved)
    rescue (normalizeInputs answers working.saved) (failNormalization answers.action)
  else if state.phase ∈ normalizedPhases then loadNormalizationResult answers.action
  else throw (.raised (.kslide ⟨.invalidTransition, "Run is not ready for normalization.",
    [("phase", .str state.phase.value)]⟩))

/-- A run keeps its inputs and its slot while its documents are prepared. -/
structure Kept (before after : RunFolder) : Prop where
  snapshots : after.snapshots = before.snapshots
  budget : after.budget = before.budget
  reservation : after.reservation = before.reservation
  runId : after.dir.state.runId = before.dir.state.runId

theorem Kept.refl (folder : RunFolder) : Kept folder folder := ⟨rfl, rfl, rfl, rfl⟩

theorem Kept.trans {first second third : RunFolder} (before : Kept first second)
    (after : Kept second third) : Kept first third :=
  ⟨after.snapshots.trans before.snapshots, after.budget.trans before.budget,
    after.reservation.trans before.reservation, after.runId.trans before.runId⟩

theorem run_ask (action : PreparationAction) (answer : Answer Raised Unit) (folder : RunFolder) :
    (ask action answer).run folder = (answer, folder) := by
  rw [ask, run_perform]
  cases answer <;> rfl

@[simp] theorem run_examine (folder : RunFolder) :
    examine.run folder = (.ok folder, folder) := run_read _ _ _

/-- An interrupted action ends its program and changes nothing. -/
theorem run_ask_bind {Result : Type} (action : PreparationAction) (answer : Answer Raised Unit)
    (rest : Unit → Preparation Result) (folder : RunFolder) :
    (ask action answer >>= rest).run folder =
      match answer with
      | .ok () => (rest ()).run folder
      | .error interrupt => (.error interrupt, folder) := by
  rw [run_bind, run_ask]
  cases answer <;> rfl

/-- A permitted move is saved when its write is not interrupted. -/
theorem run_enter {answers : PreparationAction → Answer Raised Unit} {state : RunState}
    {target : RunPhase} {nextAction : String} {errorCode errorMessage : Option String}
    (other : state.phase ≠ target) (allowed : target ∈ state.phase.allowed) (folder : RunFolder) :
    (enter answers state target nextAction errorCode errorMessage).run folder =
      match answers (.saveState target) with
      | .ok () => (.ok (), folder.withState (RunState.saved { state with
          phase := target, nextAction := some nextAction, errorCode, errorMessage }))
      | .error interrupt => (.error interrupt, folder) := by
  have moved : state.transition target (some nextAction) errorCode errorMessage = .ok
      { state with phase := target, nextAction := some nextAction, errorCode, errorMessage } :=
    RunState.transition_ok.mpr (Or.inr ⟨Ne.symm other, allowed, rfl⟩)
  rw [enter, moved, Answer.raise, run_bind_ok (run_lift _ _), run_perform]
  cases answers (.saveState target) <;> rfl

/-- The state that a run has while its inputs are normalized. -/
def normalizing (folder : RunFolder) : RunState :=
  RunState.saved { folder.dir.state with
    phase := .normalizing
    nextAction := some "Normalize immutable document inputs"
    errorCode := none
    errorMessage := none }

/-- A normalization works once its phase is saved. -/
structure Normalizes (answers : NormalizeAnswers) (folder : RunFolder) : Prop where
  environment : answers.action .environment = .ok ()
  locked : answers.action .runLock = .ok ()
  phase : folder.phase ∈ [RunPhase.inputValidated, .failedNormalization]
  started : answers.action (.saveState .normalizing) = .ok ()

/-- The work of a normalization ends with its documents or at its first interruption. -/
def normalizationWork (answers : NormalizeAnswers) (folder : RunFolder) :
    Answer Raised NormalizationResult := do
  let result ← answers.documents folder.snapshots folder.budget
  answers.action .saveManifest
  let _ ← Answer.raise (result.queue folder.dir.state.runId answers.now)
  answers.action .saveQueue
  answers.action (.saveState .normalized)
  return result

/-- A run with its normalized documents and their queue. -/
structure Documented (folder after : RunFolder) (result : NormalizationResult) : Prop where
  kept : Kept folder after
  phase : after.phase = .normalized
  normalization : after.normalization = some result
  queued : ∃ now, result.queue after.dir.state.runId now = .ok after.dir.queue

/-- The work ends as its answers say, and only a completed work changes the state of the run. -/
theorem run_normalizeInputs (answers : NormalizeAnswers) {folder : RunFolder}
    (state : folder.phase = .normalizing) :
    ∃ after, (normalizeInputs answers folder.dir.state).run folder =
        (normalizationWork answers folder, after) ∧ Kept folder after ∧
      (∀ result, normalizationWork answers folder = .ok result → Documented folder after result) ∧
      (∀ interrupt, normalizationWork answers folder = .error interrupt →
        after.dir.state = folder.dir.state) := by
  have phase : folder.dir.state.phase = .normalizing := state
  unfold normalizeInputs normalizationWork
  simp only [run_bind, run_examine, run_lift]
  simp only [Bind.bind, Except.bind, Pure.pure, Except.pure]
  cases documents : answers.documents folder.snapshots folder.budget with
  | error interrupt => exact ⟨folder, rfl, .refl folder, by simp, fun _ _ => rfl⟩
  | ok result =>
    have documented : Kept folder (folder.withNormalization result) := ⟨rfl, rfl, rfl, rfl⟩
    cases manifest : answers.action .saveManifest with
    | error interrupt =>
      simp only [run_perform_error]
      exact ⟨folder, rfl, .refl folder, by simp, fun _ _ => rfl⟩
    | ok value =>
      simp only [run_perform_ok]
      cases queued : result.queue folder.dir.state.runId answers.now with
      | error error => exact ⟨_, rfl, documented, by simp [Answer.raise], fun _ _ => rfl⟩
      | ok queue =>
        simp only [Answer.raise]
        cases saved : answers.action .saveQueue with
        | error interrupt =>
          simp only [run_perform_error]
          exact ⟨_, rfl, documented, by simp, fun _ _ => rfl⟩
        | ok value =>
          simp only [run_perform_ok]
          rw [run_enter (by simp [phase]) (by simp [phase, RunPhase.allowed])]
          cases finished : answers.action (.saveState .normalized) with
          | error interrupt =>
            exact ⟨_, rfl, ⟨rfl, rfl, rfl, rfl⟩, by simp, fun _ _ => rfl⟩
          | ok value =>
            refine ⟨_, rfl, ⟨rfl, rfl, rfl, rfl⟩, ?_, by simp⟩
            rintro result ⟨⟩
            exact ⟨⟨rfl, rfl, rfl, rfl⟩, rfl, rfl, answers.now, queued⟩

/-- The record of a failure is read and written without an interruption. -/
def recordsFailure (answers : PreparationAction → Answer Raised Unit) (failed : RunPhase) : Bool :=
  answers .readState = .ok () ∧ answers (.saveState failed) = .ok ()

variable (answers : PreparationAction → Answer Raised Unit)

theorem run_recordNormalizationFailure
    (error : KSlideError) {folder : RunFolder} (state : folder.phase = .normalizing) :
    ∃ outcome after, (recordNormalizationFailure answers error).run folder = (outcome, after) ∧
      Kept folder after ∧ after.phase =
        if recordsFailure answers .failedNormalization then .failedNormalization else .normalizing := by
  have phase : folder.dir.state.phase = .normalizing := state
  rw [recordNormalizationFailure, run_ask_bind]
  cases examined : answers .readState with
  | error interrupt => exact ⟨_, _, rfl, .refl folder, by simp [recordsFailure, examined, state]⟩
  | ok value =>
    simp only [run_bind, run_examine]
    rw [run_enter (by simp [phase]) (by simp [phase, RunPhase.allowed])]
    cases saved : answers (.saveState .failedNormalization) with
    | error interrupt =>
      exact ⟨_, _, rfl, .refl folder, by simp [recordsFailure, saved, state]⟩
    | ok value =>
      simp only [run_ask]
      have recorded : recordsFailure answers .failedNormalization = true := by
        simp [recordsFailure, examined, saved]
      cases answers .errorRecord with
      | error interrupt => exact ⟨_, _, rfl, ⟨rfl, rfl, rfl, rfl⟩, by rw [recorded]; rfl⟩
      | ok value => exact ⟨_, _, rfl, ⟨rfl, rfl, rfl, rfl⟩, by rw [recorded]; rfl⟩

/-- The phase that a normalization leaves once it works. -/
def normalizationPhase (answers : PreparationAction → Answer Raised Unit) :
    Answer Raised NormalizationResult → RunPhase
  | .ok _ => .normalized
  | .error (.raised error) =>
    if (recorded error).isSome && recordsFailure answers .failedNormalization then
      .failedNormalization
    else .normalizing
  | .error .crashed => .normalizing

omit [Engine] in
/-- The phases that a normalization accepts lead to its own phase. -/
theorem startsNormalizing {phase : RunPhase}
    (ready : phase ∈ [RunPhase.inputValidated, .failedNormalization]) :
    phase ≠ .normalizing ∧ RunPhase.normalizing ∈ phase.allowed := by
  simp only [List.mem_cons, List.not_mem_nil, or_false] at ready
  rcases ready with rfl | rfl <;> decide

theorem run_failNormalization (error : Raised)
    {folder : RunFolder} (state : folder.phase = .normalizing) :
    ∃ interrupt after, (failNormalization answers error).run folder = (.error interrupt, after) ∧
      Kept folder after ∧ after.phase = normalizationPhase answers (.error (.raised error)) := by
  unfold failNormalization
  cases known : recorded error with
  | none => exact ⟨_, folder, rfl, .refl folder, by simp [normalizationPhase, known, state]⟩
  | some failure =>
    obtain ⟨outcome, after, recording, kept, reached⟩ :=
      run_recordNormalizationFailure answers failure state
    have phase : after.phase = normalizationPhase answers (.error (.raised error)) := by
      simp [normalizationPhase, known, reached]
    simp only [run_bind, recording]
    cases outcome with
    | error interrupt => exact ⟨_, after, rfl, kept, phase⟩
    | ok value => exact ⟨_, after, rfl, kept, phase⟩

/-- A normalization that does not work leaves its run unchanged. -/
theorem run_normalizeRun_idle {answers : NormalizeAnswers} {folder : RunFolder}
    (idle : ¬Normalizes answers folder) : ((normalizeRun answers).run folder).2 = folder := by
  rw [normalizeRun, run_ask_bind]
  cases environment : answers.action .environment with
  | error interrupt => rfl
  | ok value =>
    simp only [run_ask_bind]
    cases locked : answers.action .runLock with
    | error interrupt => rfl
    | ok value =>
      simp only [run_bind, run_examine]
      split_ifs with ready answered
      · obtain ⟨other, allowed⟩ := startsNormalizing ready
        rw [RunState.transition_allowed _ _ _ other allowed, Answer.raise, run_bind_ok (run_lift _ _)]
        cases started : answers.action (.saveState .normalizing) with
        | error interrupt => rw [run_bind_error (run_perform_error _ _ _ _)]
        | ok value => exact absurd ⟨environment, locked, ready, started⟩ idle
      · rw [loadNormalizationResult, run_ask_bind]
        cases answers.action .readNormalization with
        | error interrupt => rfl
        | ok value =>
          simp only [run_bind, run_examine]
          cases folder.normalization <;> rfl
      · rfl

theorem run_normalizeRun {answers : NormalizeAnswers} {folder : RunFolder}
    (works : Normalizes answers folder) :
    ∃ outcome after, (normalizeRun answers).run folder = (outcome, after) ∧ Kept folder after ∧
      after.phase = normalizationPhase answers.action (normalizationWork answers folder) ∧
      ∀ result, normalizationWork answers folder = .ok result →
        outcome = .ok result ∧ Documented folder after result := by
  have ready : folder.dir.state.phase ∈ [RunPhase.inputValidated, .failedNormalization] :=
    works.phase
  obtain ⟨other, allowed⟩ := startsNormalizing ready
  obtain ⟨left, ran, kept, documented, unmoved⟩ := @run_normalizeInputs _ answers
    (folder.withState folder.normalizing) rfl
  have started : Kept folder (folder.withState folder.normalizing) := ⟨rfl, rfl, rfl, rfl⟩
  have work : normalizationWork answers (folder.withState folder.normalizing) =
      normalizationWork answers folder := rfl
  rw [normalizeRun, works.environment, run_ask_bind]
  simp only [works.locked, run_ask_bind]
  simp only [run_bind, run_examine]
  rw [if_pos ready, RunState.transition_allowed _ _ _ other allowed, Answer.raise,
    run_bind_ok (run_lift _ _), works.started, run_bind_ok (run_perform_ok _ _ _ _)]
  rw [work] at ran documented unmoved
  change ∃ outcome after, (rescue (normalizeInputs answers (folder.withState folder.normalizing).dir.state)
    (failNormalization answers.action)).run (folder.withState folder.normalizing) =
      (outcome, after) ∧ _
  cases ended : normalizationWork answers folder with
  | ok result =>
    rw [ended] at ran
    have found := documented result ended
    refine ⟨_, left, run_rescue_ok ran, started.trans kept, found.phase, ?_⟩
    rintro result ⟨⟩
    exact ⟨rfl, ⟨started.trans kept, found.phase, found.normalization, found.queued⟩⟩
  | error interrupt =>
    rw [ended] at ran
    have phase : left.phase = .normalizing := congrArg RunState.phase (unmoved interrupt ended)
    cases interrupt with
    | crashed => exact ⟨_, left, run_rescue_crashed ran, started.trans kept, phase, by simp⟩
    | raised error =>
      obtain ⟨outcome, after, failing, failKept, reached⟩ :=
        run_failNormalization answers.action error phase
      exact ⟨_, after, (run_rescue_raised ran).trans failing, (started.trans kept).trans failKept,
        reached, by simp⟩

end RunFolder
end KSlide
