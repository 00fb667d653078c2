import KSlide.Scoring.Scorers
import Mathlib.Algebra.Order.Ring.Rat
import Mathlib.Algebra.Ring.Nat

/-
This file gives the score of one unit and the score of a case with several units.
-/

namespace KSlide
namespace Scoring
open Python

/-- The scorer reads the evidence of a unit and its patch. -/
structure ScoredUnit where
  evidence : EvidenceIR
  patch : Json

def ScoredUnit.id (unit : ScoredUnit) : Json := unit.evidence.workUnitId

section
variable [Printing]

/-- The required regions of a unit. -/
def sourceRegionIds (evidence : EvidenceIR) : List Json :=
  ((evidence.regions.filter (·.fields.requiredForTranslation)).map (·.fields.regionId)).dedup

/-- A region is missing, or it is unresolved without a reason. -/
def isInvalidRegion (regions : List (String × Json)) (id : Json) : Bool :=
  match find regions id with
  | none => true
  | some region =>
    (region.field "unresolved").truthy && !(region.field "unresolved_reason").truthy

def invalidRegions (evidence : EvidenceIR) (patch : Json) : List Json :=
  (sourceRegionIds evidence).filter (isInvalidRegion (patchRegions patch))

/-- A unit without required regions has no coverage. -/
def coverage (evidence : EvidenceIR) (patch : Json) : ℚ :=
  let total := (sourceRegionIds evidence).length
  let invalid := (invalidRegions evidence patch).length
  (total - invalid : ℚ) / max 1 total

def repeated (texts : List String) : List String :=
  sortedSet (texts.filter fun text => decide (1 < texts.count text))

def duplicateRegionIds (patch : Json) : List String :=
  repeated ((objectsAt patch "regions").map fun item => str (get item "region_id" (.str "")))

/-- The part of the facts that the patch keeps. -/
def numericFidelity (details : List NumericDetail) : ℚ :=
  if details.isEmpty then 1 else ((details.filter (·.matched)).length : ℚ) / details.length

end

section
variable [Printing]

def sortedIds (ids : List Json) : List Json :=
  ids.dedup.insertionSort fun first second => str first ≤ str second

/-- The required and the translated cells of a required table. -/
structure TableStructure where
  tableId : Json
  expectedCellIds : List Json
  observedCellIds : List Json
  missingCellIds : List Json
  extraCellIds : List Json
  duplicateCellIds : List Json

namespace TableStructure

def complete (table : TableStructure) : Bool :=
  table.missingCellIds.isEmpty && table.extraCellIds.isEmpty && table.duplicateCellIds.isEmpty

end TableStructure

def requiredTables (evidence : EvidenceIR) : List EvidenceIR.Table :=
  evidence.tables.filter (·.requiredForTranslation)

def patchTable (patch : Json) (table : EvidenceIR.Table) : Option Json :=
  (patchTables patch).find? fun item => (item.field "table_id").equal table.tableId

def tableStructure (patch : Json) (table : EvidenceIR.Table) : TableStructure :=
  let expected := (table.cells.filter (·.requiredForTranslation)).map (·.cellId)
  let items := ((patchTable patch table).map fun item => objectsAt item "cells").getD []
  let actual := items.map fun cell => Json.str (str (get cell "cell_id" (.str "")))
  { tableId := table.tableId
    expectedCellIds := sortedIds expected
    observedCellIds := actual.insertionSort fun first second => str first ≤ str second
    missingCellIds := sortedIds (expected.filter (!actual.elem ·))
    extraCellIds := sortedIds (actual.filter (!expected.elem ·))
    duplicateCellIds := sortedIds (actual.filter fun id => decide (1 < actual.count id)) }

/-- The required tables and the translated tables are the same, and each stands once. -/
def tablesAgree (evidence : EvidenceIR) (patch : Json) : Bool :=
  let actual := (patchTables patch).map fun item => Json.str (str (get item "table_id" (.str "")))
  let expected := (requiredTables evidence).map (·.tableId)
  decide actual.Nodup && actual.all (expected.elem ·) && expected.all (actual.elem ·)

/-- A missing table also misses its cells, which are not named again. -/
def tableFailuresOf (patch : Json) (table : EvidenceIR.Table) : List String :=
  let cells := tableStructure patch table
  (if cells.complete then [] else ["TABLE_CARDINALITY_MISMATCH"]) ++
    match patchTable patch table with
    | none => ["MISSING_TABLE:" ++ str table.tableId]
    | some _ => cells.missingCellIds.map fun id => "MISSING_CELL:" ++ str id

def tableFailures (evidence : EvidenceIR) (patch : Json) : List String :=
  (if tablesAgree evidence patch then [] else ["TABLE_CARDINALITY_MISMATCH"]) ++
    (requiredTables evidence).flatMap (tableFailuresOf patch)

end

section
variable [Printing]

def unresolvedNames (items : List Json) (key : String) : List String :=
  (items.filter fun item => item.isObject && (item.field "unresolved").truthy &&
    (item.field key).truthy).map fun item => str (item.field key)

def unresolvedIds (patch : Json) : List String :=
  sortedSet (unresolvedNames (listAt patch "regions") "region_id" ++
    unresolvedNames ((patchTables patch).flatMap fun table => listAt table "cells") "cell_id")

/-- These regions have to stay unresolved. -/
def materialUnresolvedIds (evidence : EvidenceIR) : List String :=
  ((evidence.regions.filter fun region => region.fields.requiredForTranslation &&
    region.fields.recoveryStatus == .str "NEEDS_REVIEW").map fun region =>
      str region.fields.regionId).insertionSort (· ≤ ·)

def requiredCount (evidence : EvidenceIR) : Nat :=
  (sourceRegionIds evidence).length +
    ((requiredTables evidence).map fun table => table.cells.length).sum

def allowedUnresolved (gold : Json) : Bool := (gold.field "allowed_unresolved").truthy

def expectedUnresolvedMax [Fractions] (gold : Json) : Except Raised Int :=
  int (get gold "expected_unresolved_max" (.int (if allowedUnresolved gold then 1 else 0)))

end

/-- The score of a unit with the data that its checks are computed from. -/
structure Score where
  workUnitId : Json
  coverage : ℚ
  invalidRegionIds : List Json
  duplicateRegionIds : List String
  numericDetails : List NumericDetail
  modalityDetail : ModalityDetail
  tableFailures : List String
  tableHeaderFailures : List String
  tableHeaderChecked : List Json
  tableStructures : List TableStructure
  chartFailures : List String
  process : ProcessScore
  visualRelationRecall : ℚ
  hangulBySurface : HangulSurfaces
  unsupportedExecutiveClaims : Nat
  executiveClaimFailures : List String
  unresolvedIds : List String
  unresolvedRegionRate : ℚ
  unexpectedUnresolved : Bool
  materialUnresolvedRequiredIds : List String
  noncritical : Observations
  criticalFailures : List String

namespace Score
variable (score : Score)

def numericFidelity : ℚ := Scoring.numericFidelity score.numericDetails

def modality : ℚ := score.modalityDetail.score

def tableCellFidelity : ℚ := if score.tableFailures.isEmpty then 1 else 0

def materialUnresolvedObservedIds : List String :=
  sortedSet (score.materialUnresolvedRequiredIds.filter (score.unresolvedIds.elem ·))

def unresolvedFalsePositiveIds : List String :=
  score.unresolvedIds.filter (!score.materialUnresolvedRequiredIds.elem ·)

def criticalAxisMinimumDiagnostic : ℚ :=
  min score.coverage (min score.numericFidelity (min score.modality
    (min score.tableCellFidelity score.visualRelationRecall)))

end Score

def when (condition : Bool) (failure : String) : List String :=
  if condition then [failure] else []

theorem when_eq_nil {condition : Bool} {failure : String} :
    when condition failure = [] ↔ condition = false := by
  cases condition <;> simp [when]

theorem sortedSet_eq_nil {texts : List String} : sortedSet texts = [] ↔ texts = [] := by
  rw [List.eq_nil_iff_forall_not_mem, List.eq_nil_iff_forall_not_mem]
  simp only [mem_sortedSet]

section
variable [Unicode] [Compatibility] [Floating] [Fractions] [Printing] [Sha256]

/-- The evidence that a retained text may cite. -/
def retentionIds (evidence : EvidenceIR) : List Json :=
  evidence.requiredSourceIds ++ evidence.regions.map (·.fields.regionId)

/-- The regions that should stay unresolved and do not. -/
def falseResolved (evidence : EvidenceIR) (patch : Json) : List String :=
  sortedSet ((materialUnresolvedIds evidence).filter (!(unresolvedIds patch).elem ·))

/-- The failures that the items of the gold decide. -/
def itemFailures (scenario : Scenario) (unit : ScoredUnit) : List String :=
  let modality := modalityScore scenario.gold unit.evidence (patchRegions unit.patch)
  let process := processRelationScore scenario.gold unit.evidence unit.patch
  claimFailures scenario.gold unit.evidence unit.patch ++
    when (decide (modality.score < 1)) "CRITICAL_MODALITY_MISMATCH" ++
    when modality.isUnbound "SCORER_SOURCE_BINDING_FAILURE" ++
    chartFailures scenario.gold unit.evidence unit.patch ++ process.failures ++
    when (decide (process.score < 1)) "VISUAL_RELATION_OMISSION" ++
    when (noncriticalSemanticObservations scenario unit.evidence unit.patch).bindingFailure
      "SCORER_SOURCE_BINDING_FAILURE"

/-- The failures that the unit and the tables of the gold decide. -/
def unitFailures (gold : Json) (unit : ScoredUnit) : List String :=
  let evidence := unit.evidence
  let patch := unit.patch
  when (decide (coverage evidence patch < 1)) "SILENT_REGION_OMISSION" ++
    when ((sourceLocalNumericScore evidence patch).any (!·.matched)) "CRITICAL_NUMERIC_MISMATCH" ++
    when (!(hangulSurfaces patch (retentionIds evidence)).all.isEmpty) "UNEXPECTED_HANGUL" ++
    when (!(unsupportedClaims evidence patch).isEmpty) "UNSUPPORTED_EXECUTIVE_CLAIM" ++
    when (!(tableFailures evidence patch).isEmpty) "TABLE_CELL_SEMANTIC_FAILURE" ++
    when ((tableFailures evidence patch).elem "TABLE_CARDINALITY_MISMATCH")
      "TABLE_CARDINALITY_MISMATCH" ++
    when (!(tableSemanticFailures (tableSemanticChecks gold evidence patch)).isEmpty)
      "TABLE_HEADER_SEMANTIC_FAILURE" ++
    when (!(falseResolved evidence patch).isEmpty) "MATERIAL_UNRESOLVED_MISSED" ++
    when (!(duplicateRegionIds patch).isEmpty) "SCORER_SOURCE_BINDING_FAILURE"

/-- The relations of the gold count before its chart. -/
def visualRecall (gold : Json) (chart : List String) (process : ProcessScore) : ℚ :=
  if ((processOf gold).field "relations").truthy then process.score
  else if (gold.field "chart").truthy then (if chart.isEmpty then 1 else 0)
  else 1

/-- The highest number of unresolved objects that the gold expects is read before. -/
def scoreOf (scenario : Scenario) (unit : ScoredUnit) (expectedMax : Int) : Score :=
  let gold := scenario.gold
  let evidence := unit.evidence
  let patch := unit.patch
  let checks := tableSemanticChecks gold evidence patch
  let chart := chartFailures gold evidence patch
  let process := processRelationScore gold evidence patch
  let unresolved := unresolvedIds patch
  { workUnitId := evidence.workUnitId
    coverage := coverage evidence patch
    invalidRegionIds := sortedIds (invalidRegions evidence patch)
    duplicateRegionIds := duplicateRegionIds patch
    numericDetails := sourceLocalNumericScore evidence patch
    modalityDetail := modalityScore gold evidence (patchRegions patch)
    tableFailures := tableFailures evidence patch
    tableHeaderFailures := tableSemanticFailures checks
    tableHeaderChecked := checks.map Prod.fst
    tableStructures := (requiredTables evidence).map (tableStructure patch)
    chartFailures := chart
    process := process
    visualRelationRecall := visualRecall gold chart process
    hangulBySurface := hangulSurfaces patch (retentionIds evidence)
    unsupportedExecutiveClaims := (unsupportedClaims evidence patch).length
    executiveClaimFailures := claimFailures gold evidence patch
    unresolvedIds := unresolved
    unresolvedRegionRate := (unresolved.length : ℚ) / max 1 (requiredCount evidence)
    unexpectedUnresolved := decide (expectedMax < unresolved.length) ||
      (!unresolved.isEmpty && !allowedUnresolved gold)
    materialUnresolvedRequiredIds := materialUnresolvedIds evidence
    noncritical := noncriticalSemanticObservations scenario evidence patch
    criticalFailures := sortedSet (itemFailures scenario unit ++ unitFailures gold unit) }

def scoreTranslationPatch (scenario : Scenario) (unit : ScoredUnit) : Except Raised Score := do
  return scoreOf scenario unit (← expectedUnresolvedMax scenario.gold)

/-- The score of a case takes the mean of each metric over its units. -/
structure Aggregate where
  unitCount : Nat
  coverage : ℚ
  numericFidelity : ℚ
  modality : ℚ
  tableCellFidelity : ℚ
  visualRelationRecall : ℚ
  criticalAxisMinimumDiagnostic : ℚ
  noncriticalSemanticAssertionIds : List String
  noncriticalSemanticObservations : List Observation
  criticalFailures : List String
  units : List Score
  unresolvedRegionRate : ℚ
  unexpectedUnresolvedRate : ℚ
  materialUnresolvedRequiredCount : Nat
  materialUnresolvedTruePositiveCount : Nat
  unresolvedObservedCount : Nat
  unresolvedFalsePositiveCount : Nat

/-- The means are exact here. -/
def meanOf (scores : List Score) (metric : Score → ℚ) : ℚ :=
  (scores.map metric).sum / scores.length

def total (scores : List Score) (count : Score → Nat) : Nat := (scores.map count).sum

def observationsOf (scores : List Score) : List Observation :=
  scores.flatMap (·.noncritical.observed)

/-- Each approved assertion is observed in exactly one unit. -/
def coversAssertions (expected : List String) (scores : List Score) : Bool :=
  let observed := (observationsOf scores).map (·.assertionId)
  decide observed.Nodup && observed.insertionSort (· ≤ ·) == expected

/-- A case without units has no score. -/
def aggregateUnitSemantics (scores : List Score) (scenario : Scenario) :
    Except Raised (Option Aggregate) := do
  if scores.isEmpty then return none
  let assertions ← assertionsForScenario scenario
  let expected := (assertions.map Assertion.id).insertionSort (· ≤ ·)
  return some {
    unitCount := scores.length
    coverage := meanOf scores (·.coverage)
    numericFidelity := meanOf scores (·.numericFidelity)
    modality := meanOf scores (·.modality)
    tableCellFidelity := meanOf scores (·.tableCellFidelity)
    visualRelationRecall := meanOf scores (·.visualRelationRecall)
    criticalAxisMinimumDiagnostic := meanOf scores (·.criticalAxisMinimumDiagnostic)
    noncriticalSemanticAssertionIds := expected
    noncriticalSemanticObservations := inOrder (observationsOf scores)
    criticalFailures := sortedSet (scores.flatMap (·.criticalFailures) ++
      when (!coversAssertions expected scores) "SCORER_SOURCE_BINDING_FAILURE")
    units := scores
    unresolvedRegionRate := meanOf scores (·.unresolvedRegionRate)
    unexpectedUnresolvedRate :=
      meanOf scores fun score => if score.unexpectedUnresolved then 1 else 0
    materialUnresolvedRequiredCount := total scores (·.materialUnresolvedRequiredIds.length)
    materialUnresolvedTruePositiveCount := total scores (·.materialUnresolvedObservedIds.length)
    unresolvedObservedCount := total scores (·.unresolvedIds.length)
    unresolvedFalsePositiveCount := total scores (·.unresolvedFalsePositiveIds.length) }

/-- The runner scores the units of a case one after another. -/
def scoreCase (scenario : Scenario) (units : List ScoredUnit) :
    Except Raised (Option Aggregate) := do
  aggregateUnitSemantics (← units.mapM (scoreTranslationPatch scenario)) scenario

end

end Scoring
end KSlide
