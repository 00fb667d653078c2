import KSlide.Conflict.Records
import KSlide.Run.Phase
import KSlide.Run.Queue
import Mathlib.Algebra.Ring.Nat
import Mathlib.Data.List.AList

/-
This file gives the contents of a run directory and the verification that reads them.
-/

namespace KSlide
open List

inductive Severity where
  | info | minor | major | critical
deriving DecidableEq, Repr

def Severity.value : Severity → String
  | info => "INFO"
  | minor => "MINOR"
  | major => "MAJOR"
  | critical => "CRITICAL"

structure VerificationIssue where
  code : String
  severity : Severity
  message : String
  target : Option String
  evidenceIds : List String
  scope : String
deriving DecidableEq, Repr

/-- The verifier accepts a unit, asks for its repair, leaves it to a reviewer or misses it. -/
inductive UnitVerdict where
  | pass | failRepairable | needsReview | incomplete
deriving DecidableEq, Repr

def UnitVerdict.value : UnitVerdict → String
  | pass => "PASS"
  | failRepairable => "FAIL_REPAIRABLE"
  | needsReview => "NEEDS_REVIEW"
  | incomplete => "INCOMPLETE"

/-- The checks of one slide report an issue for each source item that they miss. -/
structure SlideCheck where
  issues : List VerificationIssue
  checkedRegions : Nat
  checkedSlides : Nat
  unaccounted : Nat
  reported : unaccounted ≠ 0 → issues ≠ []

structure VerificationResult where
  issues : List VerificationIssue
  runId : String
  checkedSlides : Nat
  checkedRegions : Nat
  checkedWorkUnits : Nat
  unaccountedCount : Nat
  queueRevision : Option String
  unitStatus : List (String × UnitVerdict)
deriving DecidableEq

namespace VerificationResult

def status (result : VerificationResult) : String :=
  if result.issues.isEmpty then "PASS" else "FAIL"

def criticalCount (result : VerificationResult) : Nat :=
  result.issues.countP (·.severity == .critical)

def passed (result : VerificationResult) : Bool :=
  result.status == "PASS" && result.criticalCount == 0 && result.unaccountedCount == 0

/-- The verdict on a unit. -/
def verdict (result : VerificationResult) (workUnitId : String) : Option UnitVerdict :=
  (result.unitStatus.find? (·.1 == workUnitId)).map (·.2)

end VerificationResult

/-- A run keeps the evidence of its units, their canonical files, and its manifest with the
runtime metadata and the conflict registry. -/
structure Contents (Evidence Canonical Manifest : Type) where
  evidence : String → Except Raised Evidence
  canonical : AList fun _ : String => Canonical
  manifest : Manifest

structure Reports where
  finalReport : String
  executiveBrief : String
  unresolved : String
deriving DecidableEq

/-- The parts of the engine that read, merge, render and check the content of the units. -/
class Engine where
  Evidence : Type
  Patch : Type
  Canonical : Type
  Manifest : Type
  evidenceRevision : Evidence → String
  workUnitId : Patch → String
  repairRevision : Patch → Option String
  patchRevision : Patch → String
  parseTranslationPatch : String → Except Raised Patch
  validateAgainst : Patch → Evidence → Except Raised Unit
  runtimeMetadata : Manifest → Except Raised Json
  mergeEvidencePatch : Evidence → Patch → Json → String → Except Raised Canonical
  recoveryUnresolved : Canonical → List String
  sha256File : Canonical → String
  render : Contents Evidence Canonical Manifest → WorkQueue → Except Raised Reports
  validateSlide : Contents Evidence Canonical Manifest → String → SlideCheck
  conflictAssessmentStatus : Manifest → Except KSlideError ConflictAssessmentState
  validateRegistry : Contents Evidence Canonical Manifest → List VerificationIssue

/-- The model tokens of a run count against the limits of its budget. -/
structure TokenBudget where
  reserved : Nat
  committed : Nat
  perWorkUnit : Nat
  perRun : Nat
deriving DecidableEq

/-- A caller reads a run directory when its environment and its session fit the run, and writes it
when no deletion fences the run. -/
structure RunDir [Engine] where
  state : RunState
  queue : WorkQueue
  contents : Contents Engine.Evidence Engine.Canonical Engine.Manifest
  patches : AList fun _ : String => Engine.Patch
  documents : AList fun _ : String => String
  summary : Option VerificationResult
  budget : TokenBudget
  compatible : Except Raised Unit
  bound : Except Raised Unit
  mutationGuard : Except Raised Unit

namespace CompletionPolicy

def precompletionArtifacts : List String :=
  ["05_executive_brief.md", "05_final_report.md", "06_verification.md", "07_unresolved_items.md"]

def completionMarker : String := "RUN_COMPLETE.md"

def requiredArtifacts : List String :=
  ["05_executive_brief.md", "05_final_report.md", "06_verification.md", "07_unresolved_items.md",
    completionMarker]

def missing (documents : AList fun _ : String => String) (includeSentinel : Bool) : List String :=
  (if includeSentinel then requiredArtifacts else precompletionArtifacts).filter fun name =>
    name ∉ documents

/-- A repair that fails this often is left to a reviewer. -/
def maxAutoRepairsPerUnit : Nat := 2

end CompletionPolicy

namespace RunDir
open CompletionPolicy
variable [Engine]

def marked (dir : RunDir) : Prop := completionMarker ∈ dir.documents

instance (dir : RunDir) : Decidable dir.marked := inferInstanceAs (Decidable (_ ∈ _))

/-- Exactly the units without an issue pass, and a missed source item is an issue. -/
structure UnitCheck where
  verdict : UnitVerdict
  issues : List VerificationIssue
  checkedSlides : Nat
  checkedRegions : Nat
  unaccounted : Nat
  judged : verdict = .pass ↔ issues = []
  reported : unaccounted ≠ 0 → issues ≠ []

def critical (code message target scope : String) : VerificationIssue :=
  ⟨code, .critical, message, some target, [], scope⟩

/-- A unit that is not checked has one issue. -/
def UnitCheck.unchecked (verdict : UnitVerdict) (issue : VerificationIssue)
    (other : verdict ≠ .pass) : UnitCheck :=
  ⟨verdict, [issue], 0, 0, 0, by simp [other], by simp⟩

/-- A canonical file is checked against the digest of its unit and against its evidence. -/
def checkCanonical (dir : RunDir) (unit : WorkUnit) (canonical : Engine.Canonical) : UnitCheck :=
  let slide := Engine.validateSlide dir.contents unit.workUnitId
  let changed := unit.canonicalIrSha256.any fun digest =>
    digest != "" && Engine.sha256File canonical != digest
  let issues := (if changed then [critical "KSLIDE_CANONICAL_IR_CHANGED"
    "Canonical SlideIR changed after engine merge." unit.workUnitId
    "WORK_UNIT_TRANSLATION_FAILURE"] else []) ++ slide.issues
  { verdict := if issues = [] then .pass else .failRepairable
    issues
    checkedSlides := slide.checkedSlides
    checkedRegions := slide.checkedRegions
    unaccounted := slide.unaccounted
    judged := by split_ifs with none <;> simp [none]
    reported := fun missed empty => slide.reported missed (append_eq_nil_iff.mp empty).2 }

def checkUnit (dir : RunDir) (unit : WorkUnit) : UnitCheck :=
  match unit.status with
  | .needsReview => .unchecked .needsReview (critical "KSLIDE_REVIEW_REQUIRED"
      "Work unit requires human review or a bounded repair before final certification."
      unit.workUnitId "RUN_LEVEL_POLICY_FAILURE") (by decide)
  | .translated | .verified =>
    match dir.contents.canonical.lookup unit.workUnitId with
    | some canonical => dir.checkCanonical unit canonical
    | none => .unchecked .failRepairable (critical "KSLIDE_IR_MISSING"
        "Translated work unit has no canonical SlideIR." unit.workUnitId
        "WORK_UNIT_TRANSLATION_FAILURE") (by decide)
  | _ => .unchecked .incomplete (critical "KSLIDE_WORK_UNIT_INCOMPLETE"
      "Work unit is not translated or explicitly reviewable." unit.workUnitId
      "RUN_LEVEL_POLICY_FAILURE") (by decide)

def validateConflictRegistry (dir : RunDir) : List VerificationIssue :=
  match Engine.conflictAssessmentStatus dir.contents.manifest with
  | .error error => [critical "KSLIDE_CONFLICT_REGISTRY_INVALID" error.message
      "RUN_MANIFEST.json" "RUN_LEVEL_POLICY_FAILURE"]
  | .ok .notAssessed => [critical "KSLIDE_CONFLICT_ASSESSMENT_REQUIRED"
      "KSA-23 runs require durable conflict assessment before verification and finalization."
      "CONFLICT_REGISTRY.json" "RUN_LEVEL_POLICY_FAILURE"]
  | .ok _ => Engine.validateRegistry dir.contents

/-- The verification writes its own report, so that it cannot require it. -/
def missingReports (dir : RunDir) : List VerificationIssue :=
  ((missing dir.documents false).filter (· != "06_verification.md")).map fun name =>
    critical "KSLIDE_REQUIRED_ARTIFACT_MISSING" "Required pre-completion artifact is missing." name
      "RUN_LEVEL_ARTIFACT_FAILURE"

def verifyUnlocked [Sha256] (dir : RunDir) : VerificationResult :=
  let checks := dir.queue.workUnits.map dir.checkUnit
  { issues := (if dir.queue.workUnits.isEmpty then [⟨"KSLIDE_NO_WORK_UNITS", .critical,
        "No engine-defined work units exist.", none, [], "RUN_LEVEL_POLICY_FAILURE"⟩] else []) ++
      checks.flatMap (·.issues) ++ dir.validateConflictRegistry ++ dir.missingReports
    runId := dir.state.runId
    checkedSlides := (checks.map (·.checkedSlides)).sum
    checkedRegions := (checks.map (·.checkedRegions)).sum
    checkedWorkUnits := dir.queue.workUnits.length
    unaccountedCount := (checks.map (·.unaccounted)).sum
    queueRevision := some dir.queue.queueRevision
    unitStatus := dir.queue.workUnits.map fun unit =>
      (unit.workUnitId, (dir.checkUnit unit).verdict) }

theorem verifyUnlocked_passed [Sha256] {dir : RunDir} :
    dir.verifyUnlocked.passed = true ↔ dir.verifyUnlocked.issues = [] := by
  simp only [VerificationResult.passed, VerificationResult.status, Bool.and_eq_true, beq_iff_eq]
  constructor
  · rintro ⟨⟨status, -⟩, -⟩
    by_contra found
    simp [found] at status
  · intro empty
    refine ⟨⟨by simp [empty], by simp [VerificationResult.criticalCount, empty]⟩, ?_⟩
    simp only [verifyUnlocked, append_eq_nil_iff, flatMap_eq_nil_iff,
      forall_mem_map] at empty
    rw [verifyUnlocked, List.sum_eq_zero_iff_forall_eq_nat]
    simp only [forall_mem_map]
    intro unit listed
    by_contra missed
    exact (dir.checkUnit unit).reported missed (empty.1.1.2 unit listed)

end RunDir
end KSlide
