import KSlide.Run.Extraction

/-
This file proves when an interrupted preparation can be repeated until its units are ready.
-/

namespace KSlide
open Interleaving List

section
variable [Engine]

/-- A preparation is called with the answers of its environment. -/
inductive PreparationCall where
  | normalize (answers : NormalizeAnswers)
  | extract (answers : ExtractAnswers)

namespace PreparationCall

/-- The run directory that a call leaves, however the call ends. -/
def leaves : PreparationCall → RunFolder → RunFolder
  | normalize answers, folder => ((RunFolder.normalizeRun answers).run folder).2
  | extract answers, folder => ((RunFolder.extractRun answers).run folder).2

/-- A call settles unless it leaves its run normalizing or records a failed extraction. -/
def Settles : PreparationCall → RunFolder → Prop
  | normalize answers, folder => RunFolder.Normalizes answers folder →
      match RunFolder.normalizationWork answers folder with
      | .ok _ => True
      | .error (.raised error) => (RunFolder.recorded error).isSome ∧
          RunFolder.recordsFailure answers.action .failedNormalization
      | .error .crashed => False
  | extract answers, folder => ¬RunFolder.FailsExtraction answers folder

end PreparationCall

/-- The environment lets every action of a normalization through, and the documents fit. -/
structure NormalizeAnswers.FailureFree (answers : NormalizeAnswers) (folder : RunFolder) : Prop where
  actions : ∀ action, answers.action action = .ok ()
  converts : ∃ result, answers.documents folder.snapshots folder.budget = .ok result ∧
    ∃ queue, result.queue folder.dir.state.runId answers.now = .ok queue

/-- The environment lets every action of an extraction through. -/
structure ExtractAnswers.FailureFree (answers : ExtractAnswers) : Prop where
  actions : ∀ action, answers.action action = .ok ()
  extracts : ∀ unit, ∃ evidence, answers.evidence unit = .ok evidence

namespace RunFolder
open Program

/-- The calls of a preparation follow each other. -/
def prepare (calls : List PreparationCall) (folder : RunFolder) : RunFolder :=
  calls.foldl (fun folder call => call.leaves folder) folder

/-- Each call settles in the run that the earlier calls left. -/
def AllSettle : List PreparationCall → RunFolder → Prop
  | [], _ => True
  | call :: calls, folder => call.Settles folder ∧ AllSettle calls (call.leaves folder)

/-- Any failure-free calls prepare the run in some order. -/
def Restartable (folder : RunFolder) : Prop :=
  ∀ (normalization : NormalizeAnswers) (extraction : ExtractAnswers),
    normalization.FailureFree folder → extraction.FailureFree →
    ∃ calls, (∀ call ∈ calls, call = .normalize normalization ∨ call = .extract extraction) ∧
      (folder.prepare calls).Prepared

/-- A run between two calls of its preparation. -/
inductive Preparing (folder : RunFolder) : Prop
  | waiting (phase : folder.phase ∈ [RunPhase.inputValidated, .failedNormalization])
  | documented (phase : folder.phase = .normalized ∨ folder.phase = .extracting)
      (catalogued : Catalogued folder)
  | prepared (prepared : Prepared folder)

/-- The queue of the normalized documents has their units. -/
theorem Documented.catalogued {folder after : RunFolder} {result : NormalizationResult}
    (documented : Documented folder after result) : Catalogued after := by
  obtain ⟨now, built⟩ := documented.queued
  refine ⟨result, documented.normalization, ?_⟩
  rw [WorkQueue.build_ok built, map_map]
  rfl

variable {calls : List PreparationCall} {answers : ExtractAnswers} {folder : RunFolder}
  {call : PreparationCall} {evidence : List Engine.Evidence}

/-- A run whose documents are normalized has their queue. -/
theorem Preparing.catalogued (preparing : Preparing folder)
    (phase : folder.phase = .normalized ∨ folder.phase = .extracting) : Catalogued folder := by
  cases preparing with
  | waiting waiting =>
    rcases phase with same | same <;> exact absurd waiting (same ▸ by decide)
  | documented _ catalogued => exact catalogued
  | prepared prepared => exact prepared.catalogued

theorem preparing_leaves (preparing : Preparing folder)
    (settles : call.Settles folder) : Preparing (call.leaves folder) := by
  cases call with
  | normalize answers =>
    by_cases works : Normalizes answers folder
    · have settled := settles works
      obtain ⟨outcome, after, ran, kept, reached, documented⟩ := run_normalizeRun works
      have left : PreparationCall.leaves (.normalize answers) folder = after := by
        rw [PreparationCall.leaves, ran]
      rw [left]
      cases worked : normalizationWork answers folder with
      | ok result =>
        have found := (documented result worked).2
        exact .documented (Or.inl found.phase) found.catalogued
      | error interrupt =>
        rw [worked] at settled reached
        cases interrupt with
        | crashed => exact settled.elim
        | raised error =>
          apply Preparing.waiting
          rw [reached, normalizationPhase, settled.1, settled.2]
          decide
    · rw [PreparationCall.leaves, run_normalizeRun_idle works]
      exact preparing
  | extract answers =>
    have ends := run_extractRun answers folder
    change Preparing ((extractRun answers).run folder).2
    generalize ((extractRun answers).run folder).2 = after at ends
    cases ends with
    | idle => exact preparing
    | extracted after works _ _ prepared =>
      exact .prepared (prepared (preparing.catalogued works.phase))
    | interrupted after works _ _ _ reached advances =>
      exact .documented (Or.inr reached) (advances.catalogued (preparing.catalogued works.phase))
    | failed after fails => exact absurd fails settles

theorem preparing_prepare (preparing : Preparing folder) (settle : AllSettle calls folder) :
    Preparing (folder.prepare calls) := by
  induction calls generalizing folder with
  | nil => exact preparing
  | cons call calls ih => exact ih (preparing_leaves preparing settle.1) settle.2

/-- Every unit that the queue names is found in it. -/
theorem unitsWork_failureFree (free : answers.FailureFree)
    (units : List DocumentUnit) (queue : WorkQueue)
    (listed : ∀ unit ∈ units, unit.workUnitId ∈ queue.workUnits.map (·.workUnitId)) :
    ∃ offered values, unitsWork answers units queue = .ok (offered, values) := by
  induction units generalizing queue with
  | nil => exact ⟨queue, [], rfl⟩
  | cons unit units ih =>
    obtain ⟨evidence, extracted⟩ := free.extracts unit
    obtain ⟨found, member, name⟩ := mem_map.mp (listed unit mem_cons_self)
    have got := WorkQueue.get_ok.mpr ⟨member, name⟩
    obtain ⟨offered, values, worked⟩ := ih
      (queue.offer unit.workUnitId (Engine.evidenceRevision evidence) answers.now) (by
        intro other later
        rw [WorkQueue.offer_names]
        exact listed other (mem_cons_of_mem _ later))
    refine ⟨offered, evidence :: values, ?_⟩
    rw [unitsWork, extracted, free.actions, got]
    simp only [Bind.bind, Except.bind, Answer.raise, worked, Pure.pure, Except.pure]

theorem prepared_extract (free : answers.FailureFree) (catalogued : Catalogued folder)
    (phase : folder.phase = .normalized ∨ folder.phase = .extracting) :
    Prepared (PreparationCall.leaves (.extract answers) folder) := by
  have works : Extracts answers folder :=
    ⟨free.actions _, free.actions _, phase, Or.inr (free.actions _)⟩
  obtain ⟨result, normalized, names⟩ := catalogued
  obtain ⟨offered, values, worked⟩ := unitsWork_failureFree free result.units folder.dir.queue (by
    intro unit listed
    rw [names]
    exact mem_map_of_mem listed)
  have ended : extractionWork answers folder = .ok values := by
    simp only [extractionWork, foundNormalization, free.actions, normalized, worked, storeWork,
      Bind.bind, Except.bind, Pure.pure, Except.pure]
  have ends := run_extractRun answers folder
  change Prepared ((extractRun answers).run folder).2
  generalize ((extractRun answers).run folder).2 = after at ends
  cases ends with
  | idle idle => exact absurd works idle
  | extracted after _ _ _ prepared => exact prepared ⟨result, normalized, names⟩
  | interrupted after _ interrupt raised =>
    rw [ended] at raised
    cases raised
  | failed after fails =>
    obtain ⟨⟨_, _, error, locked⟩ | ⟨_, error, raised⟩, _⟩ := fails
    · rw [free.actions] at locked
      cases locked
    · rw [ended] at raised
      cases raised

theorem documented_normalize {answers : NormalizeAnswers} {folder : RunFolder}
    (free : answers.FailureFree folder)
    (phase : folder.phase ∈ [RunPhase.inputValidated, .failedNormalization]) :
    ∃ result, Documented folder (PreparationCall.leaves (.normalize answers) folder) result := by
  have works : Normalizes answers folder :=
    ⟨free.actions _, free.actions _, phase, free.actions _⟩
  obtain ⟨outcome, after, ran, _, _, documented⟩ := run_normalizeRun works
  obtain ⟨result, converted, queue, queued⟩ := free.converts
  have worked : normalizationWork answers folder = .ok result := by
    simp only [normalizationWork, converted, free.actions, queued, Answer.raise, Bind.bind,
      Except.bind, Pure.pure, Except.pure]
  refine ⟨result, ?_⟩
  rw [PreparationCall.leaves, ran]
  exact (documented result worked).2

/-- A run in preparation can be repeated. -/
theorem Preparing.restartable (preparing : Preparing folder) : Restartable folder := by
  intro normalization extraction free extracts
  cases preparing with
  | waiting phase =>
    obtain ⟨result, documented⟩ := documented_normalize free phase
    refine ⟨[.normalize normalization, .extract extraction], by simp, ?_⟩
    exact prepared_extract extracts documented.catalogued (Or.inl documented.phase)
  | documented phase catalogued =>
    refine ⟨[.extract extraction], by simp, ?_⟩
    exact prepared_extract extracts catalogued phase
  | prepared prepared => exact ⟨[], by simp, prepared⟩

/-- The phases that no call of a preparation leaves. -/
def Stranded (folder : RunFolder) : Prop :=
  folder.phase = .normalizing ∨ folder.phase = .failedExtraction

theorem stranded_leaves (stranded : Stranded folder) (call : PreparationCall) :
    call.leaves folder = folder := by
  cases call with
  | normalize answers =>
    apply run_normalizeRun_idle
    intro works
    rcases stranded with phase | phase <;> exact absurd works.phase (phase ▸ by decide)
  | extract answers =>
    apply run_extractRun_idle
    · rcases stranded with phase | phase <;> simp [phase]
    · rcases stranded with phase | phase <;> simp [phase]

theorem stranded_prepare (stranded : Stranded folder)
    (calls : List PreparationCall) : folder.prepare calls = folder := by
  induction calls with
  | nil => rfl
  | cons call calls ih =>
    change (call.leaves folder).prepare calls = folder
    rw [stranded_leaves stranded call, ih]

/-- A normalization that does not settle leaves the phase of its work. -/
theorem unsettled_normalizeRun {answers : NormalizeAnswers} {folder : RunFolder}
    (unsettled : ¬(PreparationCall.normalize answers).Settles folder) :
    ((normalizeRun answers).run folder).2.phase = .normalizing := by
  obtain ⟨works, unsettled⟩ := Classical.not_imp.mp unsettled
  obtain ⟨outcome, after, ran, _, reached, _⟩ := run_normalizeRun works
  rw [ran, reached]
  cases worked : normalizationWork answers folder with
  | ok result =>
    rw [worked] at unsettled
    exact absurd trivial unsettled
  | error interrupt =>
    rw [worked] at unsettled
    cases interrupt with
    | crashed => rfl
    | raised error =>
      rw [normalizationPhase, if_neg]
      rintro both
      exact unsettled (Bool.and_eq_true_iff.mp both)

theorem unsettled_strands (unsettled : ¬call.Settles folder) : Stranded (call.leaves folder) := by
  cases call with
  | normalize answers => exact Or.inl (unsettled_normalizeRun unsettled)
  | extract answers =>
    have fails : FailsExtraction answers folder := not_not.mp unsettled
    have ends := run_extractRun answers folder
    change Stranded ((extractRun answers).run folder).2
    generalize ((extractRun answers).run folder).2 = after at ends
    cases ends with
    | idle _ unfailed => exact absurd fails unfailed
    | extracted after _ unfailed => exact absurd fails unfailed
    | interrupted after _ _ _ unfailed => exact absurd fails unfailed
    | failed after _ reached => exact Or.inr reached

/-- A call keeps the inputs of its run. -/
theorem kept_leaves (call : PreparationCall) (folder : RunFolder) :
    Kept folder (call.leaves folder) := by
  cases call with
  | normalize answers =>
    by_cases works : Normalizes answers folder
    · obtain ⟨outcome, after, ran, kept, _⟩ := run_normalizeRun works
      rw [PreparationCall.leaves, ran]
      exact kept
    · rw [PreparationCall.leaves, run_normalizeRun_idle works]
      exact .refl folder
  | extract answers =>
    have ends := run_extractRun answers folder
    change Kept folder ((extractRun answers).run folder).2
    generalize ((extractRun answers).run folder).2 = after at ends
    cases ends with
    | idle => exact .refl folder
    | extracted after _ _ _ _ advances => exact advances.kept
    | interrupted after _ _ _ _ _ advances => exact advances.kept
    | failed after _ _ advances => exact advances.kept

theorem kept_prepare (calls : List PreparationCall) (folder : RunFolder) :
    Kept folder (folder.prepare calls) := by
  induction calls generalizing folder with
  | nil => exact .refl folder
  | cons call calls ih => exact (kept_leaves call folder).trans (ih _)

theorem failureFree_kept {answers : NormalizeAnswers} {before after : RunFolder}
    (free : answers.FailureFree before) (kept : Kept before after) : answers.FailureFree after where
  actions := free.actions
  converts := by
    rw [kept.snapshots, kept.budget, kept.runId]
    exact free.converts

theorem stranded_of_unsettled
    (unsettled : ¬AllSettle calls folder) : Stranded (folder.prepare calls) := by
  induction calls generalizing folder with
  | nil => exact absurd trivial unsettled
  | cons call calls ih =>
    change Stranded ((call.leaves folder).prepare calls)
    by_cases settles : call.Settles folder
    · exact ih fun rest => unsettled ⟨settles, rest⟩
    · have stranded := unsettled_strands settles
      rw [stranded_prepare stranded]
      exact stranded

/-- A stranded run is never prepared. -/
theorem not_restartable (stranded : Stranded folder)
    {normalization : NormalizeAnswers} {extraction : ExtractAnswers}
    (free : normalization.FailureFree folder) (extracts : extraction.FailureFree) :
    ¬Restartable folder := by
  intro restartable
  obtain ⟨calls, _, prepared⟩ := restartable normalization extraction free extracts
  rw [stranded_prepare stranded] at prepared
  rcases stranded with phase | phase <;> exact absurd (phase.symm.trans prepared.phase) (by decide)

theorem run_extractRun_replay (free : answers.FailureFree)
    (extracted : folder.phase = .extracted) (stored : folder.storedEvidence = .ok evidence)
    (units : evidence ≠ []) : (extractRun answers).run folder = (.ok evidence, folder) := by
  have accepted : folder.phase ∈ extractable := extracted ▸ by decide
  have cached : folder.cachedEvidence = .ok (some evidence) := by
    rw [cachedEvidence, stored]
    cases evidence with
    | nil => exact absurd rfl units
    | cons first rest => rfl
  have reused : (reuseEvidence answers folder).run folder = (.ok (some evidence), folder) := by
    rw [reuseEvidence, if_pos extracted, run_ask_bind, free.actions]
    simp only [run_lift, cached, Answer.raise]
  rw [extractRun, run_ask_bind, free.actions]
  apply run_rescue_ok
  rw [extractRunLocked, run_ask_bind, free.actions]
  simp only [run_bind, run_examine]
  rw [if_pos accepted]
  simp only [run_bind, reused, run_pure]

/-- An extracted run without a unit is refused. -/
theorem run_extractRun_empty (free : answers.FailureFree) (extracted : folder.phase = .extracted)
    (stored : folder.storedEvidence = .ok []) :
    ∀ evidence, (extractRun answers).run folder ≠ (.ok evidence, folder) := by
  have accepted : folder.phase ∈ extractable := extracted ▸ by decide
  have phase : folder.dir.state.phase = .extracted := extracted
  have cached : folder.cachedEvidence = .ok none := by rw [cachedEvidence, stored]
  have reused : (reuseEvidence answers folder).run folder = (.ok none, folder) := by
    rw [reuseEvidence, if_pos extracted, run_ask_bind, free.actions]
    simp only [run_lift, cached, Answer.raise]
  have idle : ¬Extracts answers folder := by
    intro works
    rcases works.phase with other | other <;> exact absurd (extracted.symm.trans other) (by decide)
  obtain ⟨interrupt, refused⟩ := run_startExtraction_idle (free.actions _) (free.actions _) accepted
    (by simp [extracted]) idle
  have locked : (extractRunLocked answers).run folder = (.error interrupt, folder) := by
    rw [extractRunLocked, run_ask_bind, free.actions]
    simp only [run_bind, run_examine]
    rw [if_pos accepted]
    simp only [run_bind, reused, refused]
  intro evidence
  rw [extractRun, run_ask_bind, free.actions]
  simp only [run_rescue, locked]
  cases interrupt with
  | crashed => simp
  | raised error =>
    obtain ⟨interrupt, after, failing, _⟩ := run_failExtraction answers.action error folder
    simp [failing]

/-- A repeated extraction returns the stored evidence and changes nothing. -/
def Replays (folder : RunFolder) (answers : ExtractAnswers) (evidence : List Engine.Evidence) :
    Prop :=
  (extractRun answers).run folder = (.ok evidence, folder)

theorem storedEvidence_nil (stored : folder.storedEvidence = .ok evidence) :
    evidence = [] ↔ folder.dir.queue.workUnits = [] := by
  unfold storedEvidence at stored
  cases units : folder.dir.queue.workUnits with
  | nil =>
    rw [units, mapM_nil, pure_ok] at stored
    simp [← stored]
  | cons unit units' =>
    rw [units, mapM_cons] at stored
    simp only [bind_ok, pure_ok] at stored
    obtain ⟨first, _, rest, _, rfl⟩ := stored
    simp

end RunFolder
end

section
attribute [local instance] Engine.recorded

/-- The environment of a call without a failure. -/
def NormalizeAnswers.undisturbed : NormalizeAnswers where
  action _ := .ok ()
  decodeImage _ := .ok ⟨1, 1, "render", 1⟩
  pageCount _ := .ok 0
  renderPage _ _ := .ok ⟨1, 1, "render", 1⟩
  slideCount _ := .ok 0
  renderSlides _ := .ok []
  presentationSlides _ := .ok 0
  now := "2026-01-01T00:00:00Z"

def ExtractAnswers.undisturbed : ExtractAnswers where
  action _ := .ok ()
  evidence _ := .ok "evidence-1"
  now := "2026-01-01T00:00:00Z"

/-- The process ends after the phase of the work is saved. -/
def NormalizeAnswers.interrupted : NormalizeAnswers :=
  { undisturbed with
    action := fun action => if action = .readSnapshots then .error .crashed else .ok () }

/-- A validated run has one intact image. -/
def RunFolder.single : RunFolder where
  dir := { RunDir.extracted with
    state := ⟨"run-1", .inputValidated, 1, none, none, none, none, 3⟩ }
  snapshots := [⟨".png", "image", "digest", some "digest"⟩]
  budget := ⟨1, 100, 100, 10, 10, 10, 100, 100⟩
  normalization := none
  reservation := some ⟨"admitted", "run-1"⟩

theorem NormalizeAnswers.undisturbed_free :
    NormalizeAnswers.undisturbed.FailureFree RunFolder.single where
  actions _ := rfl
  converts := ⟨_, rfl, _, WorkQueue.build_distinct (by exact nodup_singleton _) (by decide)⟩

theorem ExtractAnswers.undisturbed_free : ExtractAnswers.undisturbed.FailureFree :=
  ⟨fun _ => rfl, fun _ => ⟨_, rfl⟩⟩

end
end KSlide
