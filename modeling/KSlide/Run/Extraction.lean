import KSlide.Run.Normalization

/-
This file gives the extraction of the evidence of a run, one durable write after the other.
-/

namespace KSlide
open Interleaving List

/-- The answers of the environment to one extraction. -/
structure ExtractAnswers [Engine] where
  action : PreparationAction → Answer Raised Unit
  evidence : DocumentUnit → Answer Raised Engine.Evidence
  now : String

/-- A unit is offered once its evidence is saved. -/
def WorkUnit.offer (unit : WorkUnit) (evidenceRevision now : String) : WorkUnit :=
  { unit with
    status := .ready
    evidenceRevision := some evidenceRevision
    updatedAt := now
    revision := unit.revision + 1 }

def WorkQueue.offer (queue : WorkQueue) (workUnitId evidenceRevision now : String) : WorkQueue :=
  queue.update workUnitId (·.offer evidenceRevision now) fun _ => rfl

@[simp] theorem WorkQueue.offer_names (queue : WorkQueue)
    (workUnitId evidenceRevision now : String) :
    (queue.offer workUnitId evidenceRevision now).workUnits.map (·.workUnitId) =
      queue.workUnits.map (·.workUnitId) :=
  WorkQueue.update_names _ _ _ _

namespace RunFolder
open Program
variable [Engine]

def withEvidence (folder : RunFolder) (workUnitId : String) (evidence : Engine.Evidence) :
    RunFolder :=
  { folder with dir := { folder.dir with contents := { folder.dir.contents with
    evidence := Function.update folder.dir.contents.evidence workUnitId (.ok evidence) } } }

/-- The exceptions that make an extraction ignore the evidence that it finds. -/
def unreadableKinds : List String := ["OSError", "ValueError"]

/-- The evidence of the units is read in the order of the queue. -/
def storedEvidence (folder : RunFolder) : Except Raised (List Engine.Evidence) :=
  folder.dir.queue.workUnits.mapM fun unit => folder.dir.contents.evidence unit.workUnitId

/-- An extracted run is answered from its evidence when all of it is readable. -/
def cachedEvidence (folder : RunFolder) : Except Raised (Option (List Engine.Evidence)) :=
  match folder.storedEvidence with
  | .ok [] => .ok none
  | .ok evidence => .ok (some evidence)
  | .error (.kslide _) => .ok none
  | .error (.other kind) =>
    if kind ∈ unreadableKinds then .ok none else .error (.other kind)

def reuseEvidence (answers : ExtractAnswers) (folder : RunFolder) :
    Preparation (Option (List Engine.Evidence)) := do
  if folder.phase = .extracted then
    ask .readQueue (answers.action .readQueue)
    lift (Answer.raise folder.cachedEvidence)
  else return none

/-- The evidence of each unit is saved before the next unit is read. -/
def extractUnits (answers : ExtractAnswers) :
    List DocumentUnit → WorkQueue → Preparation (WorkQueue × List Engine.Evidence)
  | [], queue => return (queue, [])
  | unit :: units, queue => do
    let evidence ← lift (answers.evidence unit)
    perform (.saveEvidence unit.workUnitId) (answers.action (.saveEvidence unit.workUnitId))
      (·.withEvidence unit.workUnitId evidence)
    let _ ← lift (Answer.raise (queue.get unit.workUnitId))
    let (queue, values) ← extractUnits answers units
      (queue.offer unit.workUnitId (Engine.evidenceRevision evidence) answers.now)
    return (queue, evidence :: values)

/-- The queue is written before the phase. -/
def storeExtraction (answers : ExtractAnswers) (queue : WorkQueue) : Preparation Unit := do
  perform .saveQueue (answers.action .saveQueue) (·.withQueue queue)
  ask .reloadState (answers.action .reloadState)
  let folder ← examine
  enter answers.action { folder.dir.state with currentWorkUnit := none } .extracted
    "Schedule the next bounded translation work unit" none none

/-- The evidence of all units is written before the queue. -/
def extractDocuments (answers : ExtractAnswers) : Preparation (List Engine.Evidence) := do
  let normalized ← loadNormalizationResult answers.action
  ask .provider (answers.action .provider)
  ask .ocrMetadata (answers.action .ocrMetadata)
  ask .readQueue (answers.action .readQueue)
  let folder ← examine
  ask .readManifest (answers.action .readManifest)
  let (queue, evidence) ← extractUnits answers normalized.units folder.dir.queue
  storeExtraction answers queue
  return evidence

/-- The phases that an extraction accepts. -/
def extractable : List RunPhase := [.normalized, .extracting, .extracted]

def startExtraction (answers : ExtractAnswers) (state : RunState) : Preparation Unit := do
  if state.phase = .extracting then return ()
  else enter answers.action state .extracting "Generate immutable source EvidenceIR" none none

def extractRunLocked (answers : ExtractAnswers) : Preparation (List Engine.Evidence) := do
  ask .runLock (answers.action .runLock)
  let folder ← examine
  if folder.phase ∈ extractable then
    match ← reuseEvidence answers folder with
    | some evidence => return evidence
    | none => do
      startExtraction answers folder.dir.state
      let evidence ← extractDocuments answers
      ask .metrics (answers.action .metrics)
      return evidence
  else throw (.raised (.kslide ⟨.invalidTransition, "Run is not ready for evidence extraction.",
    [("phase", .str folder.phase.value)]⟩))

/-- The error of a failed extraction. -/
def extractionError : Raised → ErrorCode × String
  | .kslide error => (error.code, error.message)
  | .other _ => (.normalizationFailed, "Evidence extraction failed safely.")

/-- A failure is recorded while the run is extracting. -/
def recordExtractionFailure (answers : PreparationAction → Answer Raised Unit) (error : Raised) :
    Preparation Unit := do
  ask .recordLock (answers .recordLock)
  ask .readState (answers .readState)
  let folder ← examine
  if folder.phase = .extracting then
    enter answers folder.dir.state .failedExtraction
      "Fix the extraction capability or source file and retry"
      (some (extractionError error).1.value) (some (extractionError error).2)
    ask .errorRecord (answers .errorRecord)
    ask .failureMarker (answers .failureMarker)

/-- A failure of the record itself is ignored. -/
def ignoreRecordFailure : Raised → Preparation Unit
  | .kslide _ => return ()
  | .other kind => if kind = "OSError" then return () else throw (.raised (.other kind))

def failExtraction (answers : PreparationAction → Answer Raised Unit) (error : Raised) :
    Preparation (List Engine.Evidence) := do
  rescue (recordExtractionFailure answers error) ignoreRecordFailure
  throw (.raised error)

/-- An extraction leaves the evidence of all units or a record of its failure. -/
def extractRun (answers : ExtractAnswers) : Preparation (List Engine.Evidence) := do
  ask .environment (answers.action .environment)
  rescue (extractRunLocked answers) (failExtraction answers.action)

/-- The units of a queue are offered with the evidence that is saved for them. -/
def unitsWork (answers : ExtractAnswers) :
    List DocumentUnit → WorkQueue → Answer Raised (WorkQueue × List Engine.Evidence)
  | [], queue => return (queue, [])
  | unit :: units, queue => do
    let evidence ← answers.evidence unit
    answers.action (.saveEvidence unit.workUnitId)
    let _ ← Answer.raise (queue.get unit.workUnitId)
    let (queue, values) ← unitsWork answers units
      (queue.offer unit.workUnitId (Engine.evidenceRevision evidence) answers.now)
    return (queue, evidence :: values)

/-- A unit is ready when it names the revision of its evidence. -/
structure Ready (folder : RunFolder) (unit : WorkUnit) : Prop where
  ready : unit.status = .ready
  evidenced : ∃ evidence, folder.dir.contents.evidence unit.workUnitId = .ok evidence ∧
    unit.evidenceRevision = some (Engine.evidenceRevision evidence)

/-- Saved evidence changes nothing but the evidence of the named units. -/
structure Evidenced (workUnitIds : List String) (before after : RunFolder) : Prop where
  kept : Kept before after
  state : after.dir.state = before.dir.state
  queue : after.dir.queue = before.dir.queue
  normalization : after.normalization = before.normalization
  others : ∀ workUnitId ∉ workUnitIds,
    after.dir.contents.evidence workUnitId = before.dir.contents.evidence workUnitId

theorem Evidenced.refl (workUnitIds : List String) (folder : RunFolder) :
    Evidenced workUnitIds folder folder := ⟨.refl folder, rfl, rfl, rfl, fun _ _ => rfl⟩

variable {answers : ExtractAnswers} (folder : RunFolder) {before after : RunFolder}

theorem evidenced_withEvidence (workUnitId : String)
    (workUnitIds : List String) (evidence : Engine.Evidence) :
    Evidenced (workUnitId :: workUnitIds) folder (folder.withEvidence workUnitId evidence) where
  kept := ⟨rfl, rfl, rfl, rfl⟩
  state := rfl
  queue := rfl
  normalization := rfl
  others _ absent := Function.update_of_ne (ne_of_not_mem_cons absent) _ _

theorem Evidenced.trans {workUnitId : String} {workUnitIds : List String}
    {first second third : RunFolder} (before : Evidenced (workUnitId :: workUnitIds) first second)
    (after : Evidenced workUnitIds second third) :
    Evidenced (workUnitId :: workUnitIds) first third where
  kept := before.kept.trans after.kept
  state := after.state.trans before.state
  queue := after.queue.trans before.queue
  normalization := after.normalization.trans before.normalization
  others other absent :=
    (after.others other (not_mem_of_not_mem_cons absent)).trans (before.others other absent)

/-- The named units of a queue are ready, and the other units are unchanged. -/
structure Offered (workUnitIds : List String) (before : WorkQueue) (after : RunFolder)
    (queue : WorkQueue) : Prop where
  names : queue.workUnits.map (·.workUnitId) = before.workUnits.map (·.workUnitId)
  ready : ∀ unit ∈ queue.workUnits, unit.workUnitId ∈ workUnitIds → Ready after unit
  others : ∀ unit ∈ queue.workUnits, unit.workUnitId ∉ workUnitIds → unit ∈ before.workUnits

/-- A unit that is offered first stays as it is unless it is offered again. -/
theorem offered_cons {folder after : RunFolder} {workUnitId : String}
    {workUnitIds : List String} {evidence : Engine.Evidence} {before queue : WorkQueue}
    (rest : Evidenced workUnitIds (folder.withEvidence workUnitId evidence) after)
    (offers : Offered workUnitIds
      (before.offer workUnitId (Engine.evidenceRevision evidence) answers.now) after queue) :
    Offered (workUnitId :: workUnitIds) before after queue where
  names := offers.names.trans (WorkQueue.offer_names _ _ _ _)
  ready unit listed named := by
    by_cases again : unit.workUnitId ∈ workUnitIds
    · exact offers.ready unit listed again
    · have first : unit.workUnitId = workUnitId := by
        rcases mem_cons.mp named with same | later
        · exact same
        · exact absurd later again
      have saved : after.dir.contents.evidence unit.workUnitId = .ok evidence := by
        rw [rest.others _ again, first]
        exact Function.update_self _ _ _
      rcases WorkQueue.mem_update_cases (offers.others unit listed again) with
        ⟨found, _, _, rfl⟩ | ⟨_, other⟩
      · exact ⟨rfl, evidence, saved, rfl⟩
      · exact absurd first other
  others unit listed absent := by
    have found := offers.others unit listed (not_mem_of_not_mem_cons absent)
    rcases WorkQueue.mem_update_cases found with ⟨other, _, named, rfl⟩ | ⟨kept, _⟩
    · exact absurd named (ne_of_not_mem_cons absent)
    · exact kept

theorem run_extractUnits (answers : ExtractAnswers) (units : List DocumentUnit) (queue : WorkQueue)
    (folder : RunFolder) :
    ∃ after, (extractUnits answers units queue).run folder = (unitsWork answers units queue, after) ∧
      Evidenced (units.map (·.workUnitId)) folder after ∧
      ∀ offered values, unitsWork answers units queue = .ok (offered, values) →
        Offered (units.map (·.workUnitId)) queue after offered := by
  induction units generalizing queue folder with
  | nil =>
    refine ⟨folder, rfl, .refl _ folder, ?_⟩
    rintro offered values ⟨⟩
    exact ⟨rfl, fun _ _ listed => absurd listed not_mem_nil, fun _ listed _ => listed⟩
  | cons unit units ih =>
    unfold extractUnits unitsWork
    simp only [run_bind, run_lift]
    simp only [Bind.bind, Except.bind, Pure.pure, Except.pure]
    cases answers.evidence unit with
    | error interrupt => exact ⟨folder, rfl, .refl _ folder, by simp⟩
    | ok evidence =>
      cases answers.action (.saveEvidence unit.workUnitId) with
      | error interrupt =>
        simp only [run_perform_error]
        exact ⟨folder, rfl, .refl _ folder, by simp⟩
      | ok value =>
        have saved := evidenced_withEvidence folder unit.workUnitId
          (units.map (·.workUnitId)) evidence
        simp only [run_perform_ok]
        cases queue.get unit.workUnitId with
        | error error => exact ⟨_, rfl, saved, by simp [Answer.raise]⟩
        | ok found =>
          obtain ⟨after, ran, rest, offers⟩ := ih
            (queue.offer unit.workUnitId (Engine.evidenceRevision evidence) answers.now)
            (folder.withEvidence unit.workUnitId evidence)
          simp only [Answer.raise, ran]
          cases worked : unitsWork answers units _ with
          | error interrupt => exact ⟨after, rfl, saved.trans rest, by simp⟩
          | ok result =>
            obtain ⟨offered, values⟩ := result
            refine ⟨after, rfl, saved.trans rest, ?_⟩
            rintro offered values ⟨⟩
            exact offered_cons rest (offers _ _ worked)

/-- The normalization manifest of a run is read. -/
def foundNormalization (answers : PreparationAction → Answer Raised Unit) (folder : RunFolder) :
    Answer Raised NormalizationResult := do
  answers .readNormalization
  match folder.normalization with
  | some result => return result
  | none => .error (.raised (.corrupt "Could not read structured state: DOCUMENT_MANIFEST.json"))

theorem run_loadNormalizationResult (answers : PreparationAction → Answer Raised Unit)
    (folder : RunFolder) :
    (loadNormalizationResult answers).run folder = (foundNormalization answers folder, folder) := by
  rw [loadNormalizationResult, run_ask_bind, foundNormalization]
  cases answers .readNormalization with
  | error interrupt => rfl
  | ok value =>
    simp only [run_bind, run_examine]
    cases folder.normalization <;> rfl

def storeWork (answers : ExtractAnswers) : Answer Raised Unit := do
  answers.action .saveQueue
  answers.action .reloadState
  answers.action (.saveState .extracted)

/-- The work of an extraction ends with its evidence or at its first interruption. -/
def extractionWork (answers : ExtractAnswers) (folder : RunFolder) :
    Answer Raised (List Engine.Evidence) := do
  let normalized ← foundNormalization answers.action folder
  answers.action .provider
  answers.action .ocrMetadata
  answers.action .readQueue
  answers.action .readManifest
  let (_, evidence) ← unitsWork answers normalized.units folder.dir.queue
  storeWork answers
  return evidence

/-- The queue of a run has one unit for each of its normalized units. -/
def Catalogued (folder : RunFolder) : Prop :=
  ∃ result, folder.normalization = some result ∧
    folder.dir.queue.workUnits.map (·.workUnitId) = result.units.map (·.workUnitId)

/-- An extracted run offers each of its normalized units with its evidence. -/
structure Prepared (folder : RunFolder) : Prop where
  phase : folder.phase = .extracted
  catalogued : Catalogued folder
  ready : ∀ unit ∈ folder.dir.queue.workUnits, Ready folder unit

/-- An extraction keeps the normalized documents and the names of the queue. -/
structure Advances (before after : RunFolder) : Prop where
  kept : Kept before after
  normalization : after.normalization = before.normalization
  names : after.dir.queue.workUnits.map (·.workUnitId) =
    before.dir.queue.workUnits.map (·.workUnitId)

theorem Advances.refl : Advances folder folder := ⟨.refl folder, rfl, rfl⟩

theorem Advances.trans {first second third : RunFolder} (before : Advances first second)
    (after : Advances second third) : Advances first third :=
  ⟨before.kept.trans after.kept, after.normalization.trans before.normalization,
    after.names.trans before.names⟩

theorem Advances.catalogued (advances : Advances before after)
    (catalogued : Catalogued before) : Catalogued after := by
  obtain ⟨result, found, names⟩ := catalogued
  exact ⟨result, advances.normalization.trans found, advances.names.trans names⟩

theorem Evidenced.advances {workUnitIds : List String} {before after : RunFolder}
    (evidenced : Evidenced workUnitIds before after) : Advances before after :=
  ⟨evidenced.kept, evidenced.normalization, by rw [evidenced.queue]⟩

/-- A stored queue is left with the phase of the work or with the next phase. -/
structure Stored (before after : RunFolder) (queue : WorkQueue) : Prop where
  kept : Kept before after
  normalization : after.normalization = before.normalization
  contents : after.dir.contents = before.dir.contents
  queue : after.dir.queue = before.dir.queue ∨ after.dir.queue = queue

theorem run_storeExtraction (answers : ExtractAnswers) (queue : WorkQueue) {folder : RunFolder}
    (state : folder.phase = .extracting) :
    ∃ after, (storeExtraction answers queue).run folder = (storeWork answers, after) ∧
      Stored folder after queue ∧
      (storeWork answers = .ok () → after.phase = .extracted ∧ after.dir.queue = queue) ∧
      ∀ interrupt, storeWork answers = .error interrupt → after.dir.state = folder.dir.state := by
  have phase : folder.dir.state.phase = .extracting := state
  unfold storeExtraction storeWork
  simp only [run_bind, run_ask, run_examine]
  simp only [Bind.bind, Except.bind]
  cases answers.action .saveQueue with
  | error interrupt =>
    simp only [run_perform_error]
    exact ⟨folder, rfl, ⟨.refl folder, rfl, rfl, Or.inl rfl⟩, by simp, fun _ _ => rfl⟩
  | ok value =>
    simp only [run_perform_ok]
    cases answers.action .reloadState with
    | error interrupt =>
      exact ⟨_, rfl, ⟨⟨rfl, rfl, rfl, rfl⟩, rfl, rfl, Or.inr rfl⟩, by simp, fun _ _ => rfl⟩
    | ok value =>
      simp only
      rw [run_enter (by simp [withQueue, phase]) (by simp [withQueue, phase, RunPhase.allowed])]
      cases answers.action (.saveState .extracted) with
      | error interrupt =>
        exact ⟨_, rfl, ⟨⟨rfl, rfl, rfl, rfl⟩, rfl, rfl, Or.inr rfl⟩, by simp, fun _ _ => rfl⟩
      | ok value =>
        exact ⟨_, rfl, ⟨⟨rfl, rfl, rfl, rfl⟩, rfl, rfl, Or.inr rfl⟩, fun _ => ⟨rfl, rfl⟩, by simp⟩

theorem Stored.advances {queue : WorkQueue}
    (stored : Stored before after queue) (names : queue.workUnits.map (·.workUnitId) =
      before.dir.queue.workUnits.map (·.workUnitId)) : Advances before after where
  kept := stored.kept
  normalization := stored.normalization
  names := by
    rcases stored.queue with same | same
    · rw [same]
    · rw [same, names]

theorem foundNormalization_ok {answers : PreparationAction → Answer Raised Unit}
    {folder : RunFolder} {normalized : NormalizationResult}
    (found : foundNormalization answers folder = .ok normalized) :
    folder.normalization = some normalized := by
  simp only [foundNormalization, bind_ok] at found
  obtain ⟨_, _, found⟩ := found
  cases stored : folder.normalization with
  | none => simp [stored] at found
  | some result => simpa [stored, Pure.pure, Except.pure] using found

theorem prepared_of_offered {folder middle after : RunFolder} {normalized : NormalizationResult}
    {queue : WorkQueue} (catalogued : Catalogued folder)
    (found : folder.normalization = some normalized) (advances : Advances folder after)
    (reached : after.phase = .extracted) (saved : after.dir.queue = queue)
    (contents : after.dir.contents = middle.dir.contents)
    (offered : Offered (normalized.units.map (·.workUnitId)) folder.dir.queue middle queue) :
    Prepared after where
  phase := reached
  catalogued := advances.catalogued catalogued
  ready unit listed := by
    rw [saved] at listed
    obtain ⟨result, known, names⟩ := catalogued
    cases known.symm.trans found
    have named : unit.workUnitId ∈ normalized.units.map (·.workUnitId) := by
      rw [← names, ← offered.names]
      exact mem_map_of_mem listed
    obtain ⟨ready, evidence, found, revision⟩ := offered.ready unit listed named
    exact ⟨ready, evidence, by rw [contents]; exact found, revision⟩

/-- The work ends as its answers say, and only a completed work changes the state of the run. -/
theorem run_extractDocuments (answers : ExtractAnswers) {folder : RunFolder}
    (state : folder.phase = .extracting) :
    ∃ after, (extractDocuments answers).run folder = (extractionWork answers folder, after) ∧
      Advances folder after ∧
      (∀ evidence, extractionWork answers folder = .ok evidence → after.phase = .extracted ∧
        (Catalogued folder → Prepared after)) ∧
      ∀ interrupt, extractionWork answers folder = .error interrupt →
        after.dir.state = folder.dir.state := by
  unfold extractDocuments extractionWork
  simp only [run_bind, run_loadNormalizationResult, run_ask, run_examine]
  simp only [Bind.bind, Except.bind, Pure.pure, Except.pure]
  have same : Advances folder folder := .refl folder
  cases found : foundNormalization answers.action folder with
  | error interrupt => exact ⟨folder, rfl, same, nofun, fun _ _ => rfl⟩
  | ok normalized =>
    cases answers.action .provider with
    | error interrupt => exact ⟨folder, rfl, same, nofun, fun _ _ => rfl⟩
    | ok value =>
      cases answers.action .ocrMetadata with
      | error interrupt => exact ⟨folder, rfl, same, nofun, fun _ _ => rfl⟩
      | ok value =>
        cases answers.action .readQueue with
        | error interrupt => exact ⟨folder, rfl, same, nofun, fun _ _ => rfl⟩
        | ok value =>
          cases answers.action .readManifest with
          | error interrupt => exact ⟨folder, rfl, same, nofun, fun _ _ => rfl⟩
          | ok value =>
            obtain ⟨middle, ran, evidenced, offers⟩ :=
              run_extractUnits answers normalized.units folder.dir.queue folder
            simp only [ran]
            cases worked : unitsWork answers normalized.units folder.dir.queue with
            | error interrupt =>
              exact ⟨middle, rfl, evidenced.advances, nofun, fun _ _ => evidenced.state⟩
            | ok result =>
              obtain ⟨queue, evidence⟩ := result
              have offered := offers queue evidence worked
              have phase : middle.phase = .extracting :=
                (congrArg RunState.phase evidenced.state).trans state
              obtain ⟨after, storing, stored, finished, unmoved⟩ :=
                run_storeExtraction answers queue phase
              have advances := evidenced.advances.trans (stored.advances
                (by rw [offered.names, evidenced.queue]))
              simp only [storing]
              cases ended : storeWork answers with
              | error interrupt =>
                exact ⟨after, rfl, advances, nofun, fun _ _ =>
                  (unmoved interrupt ended).trans evidenced.state⟩
              | ok value =>
                obtain ⟨reached, same⟩ := finished ended
                refine ⟨after, rfl, advances, fun _ _ => ⟨reached, ?_⟩, nofun⟩
                intro catalogued
                exact prepared_of_offered catalogued (foundNormalization_ok found)
                  advances reached same stored.contents offered

/-- An extraction works once its phase is saved. -/
structure Extracts (answers : ExtractAnswers) (folder : RunFolder) : Prop where
  environment : answers.action .environment = .ok ()
  locked : answers.action .runLock = .ok ()
  phase : folder.phase = .normalized ∨ folder.phase = .extracting
  started : folder.phase = .extracting ∨ answers.action (.saveState .extracting) = .ok ()

/-- The record of a failed extraction is written without an interruption. -/
structure RecordsFailure (answers : PreparationAction → Answer Raised Unit) : Prop where
  locked : answers .recordLock = .ok ()
  examined : answers .readState = .ok ()
  saved : answers (.saveState .failedExtraction) = .ok ()

/-- An exception reaches a run that is extracting, and its record is written. -/
structure FailsExtraction (answers : ExtractAnswers) (folder : RunFolder) : Prop where
  raised : (folder.phase = .extracting ∧ answers.action .environment = .ok () ∧
      ∃ error, answers.action .runLock = .error (.raised error)) ∨
    (Extracts answers folder ∧ ∃ error, extractionWork answers folder = .error (.raised error))
  recorded : RecordsFailure answers.action

/-- A record is written or its run is unchanged. -/
inductive Recording (answers : PreparationAction → Answer Raised Unit) (folder : RunFolder) :
    RunFolder → Prop
  | refused (unrecorded : ¬(folder.phase = .extracting ∧ RecordsFailure answers)) :
      Recording answers folder folder
  | written (after : RunFolder) (working : folder.phase = .extracting)
      (records : RecordsFailure answers) (reached : after.phase = .failedExtraction)
      (advances : Advances folder after) : Recording answers folder after

theorem run_recordExtractionFailure (answers : PreparationAction → Answer Raised Unit)
    (error : Raised) (folder : RunFolder) :
    Recording answers folder ((recordExtractionFailure answers error).run folder).2 := by
  rw [recordExtractionFailure, run_ask_bind]
  cases locked : answers .recordLock with
  | error interrupt => exact .refused fun records => by simp [records.2.locked] at locked
  | ok value =>
    simp only [run_ask_bind]
    cases examined : answers .readState with
    | error interrupt => exact .refused fun records => by simp [records.2.examined] at examined
    | ok value =>
      simp only [run_bind, run_examine]
      split_ifs with working
      · have phase : folder.dir.state.phase = .extracting := working
        simp only [run_bind]
        rw [run_enter (by simp [phase]) (by simp [phase, RunPhase.allowed])]
        cases saved : answers (.saveState .failedExtraction) with
        | error interrupt => exact .refused fun records => by simp [records.2.saved] at saved
        | ok value =>
          have records : RecordsFailure answers := ⟨locked, examined, saved⟩
          simp only [run_ask]
          cases answers .errorRecord with
          | error interrupt =>
            exact .written _ working records rfl ⟨⟨rfl, rfl, rfl, rfl⟩, rfl, rfl⟩
          | ok value => exact .written _ working records rfl ⟨⟨rfl, rfl, rfl, rfl⟩, rfl, rfl⟩
      · exact .refused fun records => working records.1

theorem run_ignoreRecordFailure (error : Raised) (folder : RunFolder) :
    ((ignoreRecordFailure error).run folder).2 = folder := by
  cases error with
  | kslide error => rfl
  | other kind =>
    simp only [ignoreRecordFailure]
    split_ifs <;> rfl

theorem run_failExtraction (answers : PreparationAction → Answer Raised Unit) (error : Raised)
    (folder : RunFolder) :
    ∃ interrupt after, (failExtraction answers error).run folder = (.error interrupt, after) ∧
      Recording answers folder after := by
  have recording := run_recordExtractionFailure answers error folder
  unfold failExtraction
  simp only [run_bind, run_rescue]
  rcases ended : (recordExtractionFailure answers error).run folder with ⟨outcome, after⟩
  rw [ended] at recording
  cases outcome with
  | ok value => exact ⟨_, after, rfl, recording⟩
  | error interrupt =>
    cases interrupt with
    | crashed => exact ⟨_, after, rfl, recording⟩
    | raised failure =>
      have same := run_ignoreRecordFailure failure after
      rcases ignored : (ignoreRecordFailure failure).run after with ⟨outcome, left⟩
      rw [ignored] at same
      dsimp only at same
      subst same
      simp only [ignored]
      cases outcome with
      | ok value => exact ⟨_, left, rfl, recording⟩
      | error interrupt => exact ⟨_, left, rfl, recording⟩

/-- What an extraction leaves of its run. -/
inductive ExtractionEnds (answers : ExtractAnswers) (folder : RunFolder) : RunFolder → Prop
  | idle (idle : ¬Extracts answers folder) (unfailed : ¬FailsExtraction answers folder) :
      ExtractionEnds answers folder folder
  | extracted (after : RunFolder) (works : Extracts answers folder)
      (unfailed : ¬FailsExtraction answers folder) (reached : after.phase = .extracted)
      (prepared : Catalogued folder → Prepared after)
      (advances : Advances folder after) : ExtractionEnds answers folder after
  | interrupted (after : RunFolder) (works : Extracts answers folder) (interrupt : Interrupt Raised)
      (worked : extractionWork answers folder = .error interrupt)
      (unfailed : ¬FailsExtraction answers folder) (reached : after.phase = .extracting)
      (advances : Advances folder after) : ExtractionEnds answers folder after
  | failed (after : RunFolder) (fails : FailsExtraction answers folder)
      (reached : after.phase = .failedExtraction) (advances : Advances folder after) :
      ExtractionEnds answers folder after

/-- The evidence of an extracted run is read without a write. -/
theorem run_reuseEvidence (answers : ExtractAnswers) (folder : RunFolder) :
    ((reuseEvidence answers folder).run folder).2 = folder := by
  unfold reuseEvidence
  split_ifs
  · rw [run_ask_bind]
    cases answers.action .readQueue with
    | error interrupt => rfl
    | ok value => simp only [run_lift]
  · rfl

theorem reuseEvidence_fresh {folder : RunFolder}
    (fresh : folder.phase ≠ .extracted) : reuseEvidence answers folder = pure none := by
  rw [reuseEvidence, if_neg fresh]

/-- The state that a run has while its evidence is extracted. -/
def extracting (folder : RunFolder) : RunFolder :=
  if folder.phase = .extracting then folder
  else folder.withState (RunState.saved { folder.dir.state with
    phase := .extracting
    nextAction := some "Generate immutable source EvidenceIR"
    errorCode := none
    errorMessage := none })

theorem extracting_phase : folder.extracting.phase = .extracting := by
  unfold extracting
  split_ifs with working
  · exact working
  · rfl

theorem extracting_advances : Advances folder folder.extracting := by
  unfold extracting
  split_ifs
  · exact .refl folder
  · exact ⟨⟨rfl, rfl, rfl, rfl⟩, rfl, rfl⟩

theorem extracting_work (answers : ExtractAnswers) (folder : RunFolder) :
    extractionWork answers folder.extracting = extractionWork answers folder := by
  unfold extracting
  split_ifs <;> rfl

theorem run_startExtraction {folder : RunFolder} (works : Extracts answers folder) :
    (startExtraction answers folder.dir.state).run folder = (.ok (), folder.extracting) := by
  unfold startExtraction extracting
  by_cases working : folder.phase = .extracting
  · have phase : folder.dir.state.phase = .extracting := working
    rw [if_pos phase, if_pos working]
    rfl
  · have phase : folder.dir.state.phase ≠ .extracting := working
    have normalized : folder.dir.state.phase = .normalized := works.phase.resolve_right working
    rw [if_neg phase, if_neg working, run_enter working (by simp [normalized, RunPhase.allowed]),
      works.started.resolve_left working]

theorem run_extractRunLocked {folder : RunFolder} (works : Extracts answers folder) :
    (extractRunLocked answers).run folder = ((do
      let evidence ← extractDocuments answers
      ask .metrics (answers.action .metrics)
      return evidence : Preparation (List Engine.Evidence))).run folder.extracting := by
  have fresh : folder.phase ≠ .extracted := by
    rcases works.phase with same | same <;> rw [same] <;> decide
  have accepted : folder.phase ∈ extractable := by
    rcases works.phase with same | same <;> rw [same] <;> decide
  rw [extractRunLocked, run_ask_bind, works.locked]
  simp only [run_bind, run_examine]
  rw [if_pos accepted, reuseEvidence_fresh fresh]
  simp only [run_bind, run_pure, run_startExtraction works]

theorem run_startExtraction_idle {folder : RunFolder}
    (environment : answers.action .environment = .ok ())
    (locked : answers.action .runLock = .ok ()) (accepted : folder.phase ∈ extractable)
    (fresh : folder.phase ≠ .extracting) (idle : ¬Extracts answers folder) :
    ∃ interrupt, (startExtraction answers folder.dir.state).run folder = (.error interrupt, folder) := by
  have other : folder.dir.state.phase ≠ .extracting := fresh
  rw [startExtraction, if_neg other]
  by_cases normalized : folder.phase = .normalized
  · have phase : folder.dir.state.phase = .normalized := normalized
    rw [run_enter other (by simp [phase, RunPhase.allowed])]
    cases started : answers.action (.saveState .extracting) with
    | error interrupt => exact ⟨interrupt, rfl⟩
    | ok value => exact absurd ⟨environment, locked, Or.inl normalized, Or.inr started⟩ idle
  · have extracted : folder.dir.state.phase = .extracted := by
      simp only [extractable, mem_cons, not_mem_nil, or_false] at accepted
      exact (accepted.resolve_left normalized).resolve_left fresh
    rw [enter, RunState.transition_refused (by simp [extracted])
      (by simp [extracted, RunPhase.allowed])]
    exact ⟨_, rfl⟩

/-- The locked part of an extraction that does not work leaves its run unchanged. -/
theorem run_extractRunLocked_idle {folder : RunFolder}
    (environment : answers.action .environment = .ok ()) (idle : ¬Extracts answers folder) :
    ∃ outcome, (extractRunLocked answers).run folder = (outcome, folder) ∧
      (folder.phase = .extracting → ∀ error, outcome = .error (.raised error) ↔
        answers.action .runLock = .error (.raised error)) := by
  rw [extractRunLocked, run_ask_bind]
  cases locked : answers.action .runLock with
  | error interrupt =>
    exact ⟨.error interrupt, rfl, fun _ error => by simp⟩
  | ok value =>
    simp only [run_bind, run_examine]
    split_ifs with accepted
    · have fresh : folder.phase ≠ .extracting := fun working => idle
        ⟨environment, locked, Or.inr working, Or.inl working⟩
      have same := run_reuseEvidence answers folder
      rcases found : (reuseEvidence answers folder).run folder with ⟨outcome, left⟩
      rw [found] at same
      rw [show left = folder from same] at found
      simp only [run_bind, found]
      cases outcome with
      | error interrupt => exact ⟨_, rfl, fun working => absurd working fresh⟩
      | ok reused =>
        cases reused with
        | some evidence => exact ⟨_, rfl, fun working => absurd working fresh⟩
        | none =>
          obtain ⟨interrupt, refused⟩ := run_startExtraction_idle environment locked accepted
            fresh idle
          simp only [run_bind, refused]
          exact ⟨_, rfl, fun working => absurd working fresh⟩
    · exact ⟨_, rfl, fun working => absurd (working ▸ by decide) accepted⟩

theorem extractionEnds_works {folder : RunFolder} (works : Extracts answers folder) :
    ExtractionEnds answers folder ((extractRun answers).run folder).2 := by
  obtain ⟨middle, ran, advances, finished, unmoved⟩ :=
    run_extractDocuments answers folder.extracting_phase
  rw [extracting_work] at ran finished unmoved
  have started : Advances folder middle := folder.extracting_advances.trans advances
  rw [extractRun, run_ask_bind, works.environment]
  simp only [run_rescue]
  rw [run_extractRunLocked works]
  simp only [run_bind, ran, run_ask]
  cases ended : extractionWork answers folder with
  | ok evidence =>
    obtain ⟨reached, prepared⟩ := finished evidence ended
    have unfailed : ¬FailsExtraction answers folder := by
      rintro ⟨⟨_, _, error, locked⟩ | ⟨_, error, raised⟩, _⟩
      · exact absurd (works.locked.symm.trans locked) nofun
      · exact absurd (ended.symm.trans raised) nofun
    have done : ExtractionEnds answers folder middle := .extracted middle works unfailed reached
      (fun catalogued => prepared (folder.extracting_advances.catalogued catalogued)) started
    simp only
    cases answers.action .metrics with
    | ok value => exact done
    | error interrupt =>
      cases interrupt with
      | crashed => exact done
      | raised error =>
        obtain ⟨interrupt, after, failing, recording⟩ :=
          run_failExtraction answers.action error middle
        simp only [failing]
        cases recording with
        | refused => exact done
        | written _ working => exact absurd (working.symm.trans reached) (by decide)
  | error interrupt =>
    have reached : middle.phase = .extracting :=
      (congrArg RunState.phase (unmoved interrupt ended)).trans folder.extracting_phase
    cases interrupt with
    | crashed =>
      refine .interrupted middle works .crashed ended ?_ reached started
      rintro ⟨⟨phase, _, error, locked⟩ | ⟨_, error, raised⟩, _⟩
      · exact absurd (works.locked.symm.trans locked) nofun
      · exact absurd (ended.symm.trans raised) nofun
    | raised error =>
      obtain ⟨interrupt, after, failing, recording⟩ :=
        run_failExtraction answers.action error middle
      simp only [failing]
      cases recording with
      | refused unrecorded =>
        exact .interrupted middle works _ ended
          (fun fails => unrecorded ⟨reached, fails.recorded⟩) reached started
      | written _ _ records failed moved =>
        exact .failed after ⟨Or.inr ⟨works, error, ended⟩, records⟩ failed
          (started.trans moved)

/-- An extraction offers the units of its run, waits for its repetition or fails. -/
theorem run_extractRun (answers : ExtractAnswers) (folder : RunFolder) :
    ExtractionEnds answers folder ((extractRun answers).run folder).2 := by
  by_cases works : Extracts answers folder
  · exact extractionEnds_works works
  · rw [extractRun, run_ask_bind]
    cases environment : answers.action .environment with
    | error interrupt =>
      apply ExtractionEnds.idle works
      rintro ⟨⟨_, fits, _⟩ | ⟨other, _⟩, _⟩
      · exact absurd (environment.symm.trans fits) nofun
      · exact works other
    | ok value =>
      obtain ⟨outcome, ran, located⟩ := run_extractRunLocked_idle environment works
      simp only [run_rescue, ran]
      have unfailed (kept : ∀ error, outcome = .error (.raised error) →
          ¬(folder.phase = .extracting ∧ RecordsFailure answers.action)) :
          ¬FailsExtraction answers folder := by
        rintro ⟨⟨working, _, error, locked⟩ | ⟨other, _⟩, records⟩
        · exact kept error ((located working error).mpr locked) ⟨working, records⟩
        · exact works other
      cases outcome with
      | ok evidence => exact .idle works (unfailed nofun)
      | error interrupt =>
        cases interrupt with
        | crashed => exact .idle works (unfailed nofun)
        | raised error =>
          obtain ⟨interrupt, after, failing, recording⟩ :=
            run_failExtraction answers.action error folder
          simp only [failing]
          cases recording with
          | refused unrecorded => exact .idle works (unfailed fun _ _ => unrecorded)
          | written _ working records failed moved =>
            have locked := (located working error).mp rfl
            exact .failed after ⟨Or.inl ⟨working, environment, error, locked⟩, records⟩
              failed moved

/-- An extraction leaves a run in any other phase unchanged. -/
theorem run_extractRun_idle (answers : ExtractAnswers) {folder : RunFolder}
    (unready : folder.phase ≠ .normalized) (unbegun : folder.phase ≠ .extracting) :
    ((extractRun answers).run folder).2 = folder := by
  have idle : ¬Extracts answers folder := fun works => works.phase.elim unready unbegun
  have ends := run_extractRun answers folder
  generalize ((extractRun answers).run folder).2 = after at ends
  cases ends with
  | idle => rfl
  | extracted after works => exact absurd works idle
  | interrupted after works => exact absurd works idle
  | failed after fails =>
    rcases fails.raised with ⟨working, _⟩ | ⟨works, _⟩
    · exact absurd working unbegun
    · exact absurd works idle

end RunFolder
end KSlide
