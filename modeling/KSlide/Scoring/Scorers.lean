import KSlide.Conflict.Records
import KSlide.Numeric.Identity
import KSlide.Scoring.Assertions
import KSlide.Scoring.GoldBinding

/-
This file gives the scorers of one unit, which compare its patch with its evidence and the gold.
-/

namespace KSlide
namespace Scoring
open Python

section
variable [Printing]

/-- The objects of a patch under the texts of their identities. -/
def named (items : List Json) (key : String) : List (String × Json) :=
  (items.filter fun item => item.isObject && (item.field key).truthy).map fun item =>
    (str (item.field key), item)

/-- Of equal identities the last one counts. -/
def find (entries : List (String × Json)) (id : Json) : Option Json :=
  (entries.reverse.find? fun entry => id == .str entry.1).map Prod.snd

def patchRegions (patch : Json) : List (String × Json) := named (listAt patch "regions") "region_id"

def patchTables (patch : Json) : List Json := objectsAt patch "tables"

def patchCells (patch : Json) : List (String × Json) :=
  named ((patchTables patch).flatMap fun table => listAt table "cells") "cell_id"

def englishOf (item : Json) : String := str (get item "english" (.str ""))

def lowered [Unicode] (text : String) : List Char := Unicode.lower text.toList

end

section
variable [Unicode] [Floating] [Printing]

/-- The interpreter converts a number of the evidence for a comparison. -/
def readValue : Json → Option Floating.Value
  | .int value =>
    if 0 ≤ value then some (Floating.ofNat value.toNat)
    else some (Floating.sub (Floating.ofNat 0) (Floating.ofNat (-value).toNat))
  | .real text => some (Floating.ofDecimal text.toList)
  | _ => none

/-- A fact is stored as an object, and its kinds are stored as their texts. -/
def readFact (fact : Json) : NumericFact where
  factId := str (fact.field "fact_id")
  sourceObjectId := str (fact.field "source_object_id")
  sourceRegionId := text? (fact.field "source_region_id")
  sourceTableId := text? (fact.field "source_table_id")
  sourceCellId := text? (fact.field "source_cell_id")
  sourceString := ((text? (fact.field "source_string")).getD "").toList
  rawValue := readValue (fact.field "raw_value")
  canonicalValue := readValue (fact.field "canonical_value")
  scaleFactor := match fact.field "scale_factor" with
    | .int value => value.toNat
    | _ => 1
  sourceUnit := (text? (fact.field "source_unit")).map String.toList
  semanticQuantity := ((text? (fact.field "semantic_quantity")).bind
    (Text.Enumeration.parse SemanticQuantity)).getD .number
  currency := text? (fact.field "currency")
  timePeriod := (text? (fact.field "time_period")).map String.toList
  direction := (text? (fact.field "direction")).bind (Text.Enumeration.parse NumericDirection)
  approximation := text? (fact.field "approximation")

structure NumericDetail where
  factId : Json
  sourceObjectId : Json
  targetText : String
  matched : Bool
  reason : String

/-- A fact is compared with the text of its own cell or region. -/
def factText (fact : Json) (regions cells : List (String × Json)) : String :=
  let sourceCell := fact.field "source_cell_id"
  let sourceRegion := either (fact.field "source_region_id") (fact.field "source_object_id")
  let owned (id : Json) (entries : List (String × Json)) :=
    if id.truthy then find entries id else none
  ((owned sourceCell cells <|> owned sourceRegion regions).map englishOf).getD ""

def numericDetail (regions cells : List (String × Json)) (fact : Json) : NumericDetail :=
  let text := factText fact regions cells
  let outcome := Numeric.numericFactMatches (readFact fact) (some text.toList) none
  { factId := fact.field "fact_id", sourceObjectId := fact.field "source_object_id"
    targetText := text, matched := outcome.1, reason := outcome.2 }

def sourceLocalNumericScore (evidence : EvidenceIR) (patch : Json) : List NumericDetail :=
  evidence.numericFacts.map (numericDetail (patchRegions patch) (patchCells patch))

end

section
variable [Printing]

/-- What the scorer says about the modality of a unit. -/
inductive ModalityDetail where
  | unchecked
  | unbound (expectedCommitment : Json) (sourceHint : String)
  | bound (expectedCommitment expectedSpeech : Json) (candidateCount : Nat) (sourceHint : String)
      (passed : Bool)

namespace ModalityDetail

def score : ModalityDetail → ℚ
  | .unchecked => 1
  | .unbound _ _ => 0
  | .bound _ _ _ _ passed => if passed then 1 else 0

def isUnbound : ModalityDetail → Bool
  | .unbound _ _ => true
  | _ => false

end ModalityDetail

def modalityOf (gold : Json) : Json := (gold.field "modality").orEmpty

def expectedCommitment (gold : Json) : Json :=
  either ((modalityOf gold).field "commitment") (gold.field "commitment")

def expectedSpeech (gold : Json) : Json :=
  either ((modalityOf gold).field "speech_act") (gold.field "speech_act")

def sourceHint (gold : Json) : String := str (get (modalityOf gold) "source_text" (.str ""))

/-- The gold expects a commitment or a speech act. -/
def expectsModality (gold : Json) : Bool :=
  (modalityOf gold).truthy && ((expectedCommitment gold).truthy || (expectedSpeech gold).truthy)

/-- Every region contains an empty hint. -/
def hintedRegions (gold : Json) (evidence : EvidenceIR) : List EvidenceIR.Region :=
  evidence.regions.filter fun region =>
    Text.within (sourceHint gold).toList (literalOf region).toList

def modalityScore (gold : Json) (evidence : EvidenceIR) (regions : List (String × Json)) :
    ModalityDetail :=
  if !expectsModality gold then .unchecked
  else
    let commitment := expectedCommitment gold
    let speech := expectedSpeech gold
    let found := (hintedRegions gold evidence).filterMap fun region =>
      find regions region.fields.regionId
    match found with
    | [] => .unbound commitment (sourceHint gold)
    | candidate :: others =>
      .bound commitment speech (others.length + 1) (sourceHint gold)
        (others.isEmpty && (candidate.field "commitment_status").equal commitment &&
          (!speech.truthy || (candidate.field "speech_act").equal speech))

end

section
variable [Unicode] [Printing]

def approvedHangulContext : List String :=
  ["source quote", "proper name", "do not translate", "unresolved"]

structure HangulSurfaces where
  regions : List String
  tableCells : List String
  visualInterpretations : List String
  executiveClaims : List String

def HangulSurfaces.all (surfaces : HangulSurfaces) : List String :=
  surfaces.regions ++ surfaces.tableCells ++ surfaces.visualInterpretations ++
    surfaces.executiveClaims

def hasHangul (text : String) : Bool := text.toList.any Numeric.isHangul

/-- A retained text gives an approved reason and cites known evidence. -/
def retained (knownEvidenceIds : List Json) (item : Json) : Bool :=
  let retention := item.field "hangul_retention"
  let reason := lowered (str (get retention "reason" (.str "")))
  retention.isObject && approvedHangulContext.any (fun value => Text.within value.toList reason) &&
    holds knownEvidenceIds (retention.field "evidence_id")

def translationSurface (known : List Json) (items : List Json) (key : String) : List String :=
  (items.filter fun item => item.isObject && hasHangul (englishOf item) &&
    !(item.field "unresolved").truthy && !retained known item).map fun item => str (item.field key)

def statementSurface (known : List Json) (items : List Json) : List String :=
  (items.filter fun item => item.isObject &&
    hasHangul (str (get item "interpretation" (get item "text" (.str "")))) &&
    !retained known item).map fun item =>
      str (get item "relation_id" (get item "claim_id" (.str "unknown")))

def hangulSurfaces (patch : Json) (known : List Json) : HangulSurfaces where
  regions := translationSurface known (listAt patch "regions") "region_id"
  tableCells := translationSurface known
    ((patchTables patch).flatMap fun table => listAt table "cells") "cell_id"
  visualInterpretations := statementSurface known (listAt patch "visual_interpretations")
  executiveClaims := statementSurface known (listAt patch "executive_claims")

end

section
variable [Unicode] [Printing]

def expectedTerms : List (String × List String) := [
  ("항목", ["item", "category", "metric"]),
  ("매출", ["revenue", "sales"]),
  ("영업이익", ["operating profit", "operating income"]),
  ("투자", ["investment"]),
  ("증감", ["change", "variance", "increase", "decrease"]),
  ("검토", ["review", "under review", "consideration"])]

/-- The gold names the terms of a cell, or the text of the cell does. -/
def acceptableTerms (roles : List Json) (cell : EvidenceIR.TableCell) : List String :=
  let role := roles.find? fun item =>
    (item.field "row").equal (.int cell.row) && (item.field "column").equal (.int cell.column)
  match role with
  | some role => (listAt role "acceptable").map str
  | none => (expectedTerms.lookup (strip (textOf cell))).getD []

def cellMap (table : Json) : List (String × Json) :=
  (objectsAt table "cells").map fun cell => (str (cell.field "cell_id"), cell)

def headerRoles (gold : Json) : List Json := listAt (gold.field "table").orEmpty "header_roles"

/-- The cells of a table that must have certain terms, each with its outcome. -/
def checkedHeaders (roles : List Json) (patch : Json) (table : EvidenceIR.Table) :
    List (Json × Bool) :=
  match (listAt patch "tables").find? fun item => (item.field "table_id").equal table.tableId with
  | none => []
  | some patchTable =>
    (table.cells.filter fun cell => !(acceptableTerms roles cell).isEmpty).map fun cell =>
      let translated := lowered
        (((find (cellMap patchTable) cell.cellId).map englishOf).getD "")
      (cell.cellId, (acceptableTerms roles cell).any fun term =>
        Text.within (lowered term) translated)

def tableSemanticChecks (gold : Json) (evidence : EvidenceIR) (patch : Json) :
    List (Json × Bool) :=
  evidence.tables.flatMap (checkedHeaders (headerRoles gold) patch)

def tableSemanticFailures (checks : List (Json × Bool)) : List String :=
  (checks.filter (!·.2)).map fun check => "WRONG_TABLE_HEADER_OR_STATUS:" ++ str check.1

end

section
variable [Unicode] [Printing]

/-- The words of each trend and the words against it. -/
def trendWords : List (String × List String × List String) := [
  ("increasing", ["increas", "grow", "upward", "rise", "positive", "trend"],
    ["declin", "decreas", "fall", "downward", "down", "negative"]),
  ("decreasing", ["declin", "decreas", "fall", "downward", "down", "negative", "trend"],
    ["increas", "grow", "upward", "rise", "positive"]),
  ("flat", ["flat", "stable", "unchanged", "constant"],
    ["declin", "decreas", "fall", "downward", "down", "increas", "grow", "upward", "rise"])]

/-- A patch makes claims about the trend of one chart element. -/
def trendClaims (patch element : Json) : List Json :=
  (objectsAt patch "visual_interpretations").filter fun item =>
    let claim := item.field "chart_claim"
    claim.isObject && (claim.field "chart_element_id").equal element &&
      claim.field "kind" == .str "trend"

def isDirected (trend : Json) : Bool := trend == .str "increasing" || trend == .str "decreasing"

/-- The first claim about the element has to cite it and to name the expected trend. -/
def elementTrendFailures (chart patch element : Json) : List String :=
  match trendClaims patch element with
  | [] => ["CHART_TREND_UNSUPPORTED"]
  | observed :: _ =>
    let direction := (observed.field "chart_claim").field "direction"
    if !holds (listAt observed "evidence_ids") element ||
        !holds (listAt observed "source_element_ids") element then
      ["SCORER_SOURCE_BINDING_FAILURE"]
    else if direction.equal (chart.field "trend") then []
    else if isDirected direction && isDirected (chart.field "trend") then
      ["CRITICAL_TREND_REVERSAL"]
    else ["CHART_TREND_UNSUPPORTED"]

def interpretationText (patch : Json) : List Char :=
  lowered (" ".intercalate ((objectsAt patch "visual_interpretations").map fun item =>
    str (get item "interpretation" (.str ""))))

/-- Without an element of the chart all interpretations together name its trend. -/
def textTrendFailures (chart patch : Json) : List String :=
  let text := interpretationText patch
  let mentions (words : List String) := words.any fun word => Text.within word.toList text
  match (text? (chart.field "trend")).bind (trendWords.lookup ·) with
  | none => []
  | some (words, opposites) =>
    if mentions opposites then ["CRITICAL_TREND_REVERSAL"]
    else if !mentions words then ["CHART_TREND_UNSUPPORTED"]
    else []

/-- The score of a chart is one exactly when it has no failures. -/
def chartFailures (gold : Json) (evidence : EvidenceIR) (patch : Json) : List String :=
  let chart := chartOf gold
  if !chart.truthy then []
  else if (chartElements evidence).isEmpty then textTrendFailures chart patch
  else
    let element := ((bindGoldRoles gold evidence).get? (chartIdOf chart)).getD .null
    if !element.truthy then ["SCORER_SOURCE_BINDING_FAILURE"]
    else elementTrendFailures chart patch element

end

section
variable [Printing]

/-- A patch has a relation when one interpretation has its ends and its type. -/
def findsRelation (observed : List Json) (relation : BoundRelation) : Bool :=
  observed.any fun item =>
    (Json.arr ((listAt item "source_element_ids").take 2)).equal
      (.arr [relation.source, relation.target]) &&
    (get item "relation_type" (.str "")).equal relation.type

structure ProcessScore where
  score : ℚ
  failures : List String

def processRelationScore (gold : Json) (evidence : EvidenceIR) (patch : Json) : ProcessScore :=
  let bound := bindProcessRelations gold evidence
  if !bound.2.failures.isEmpty then
    ⟨0, bound.2.failures ++ ["PROCESS_RELATION_MISMATCH"]⟩
  else if bound.1.isEmpty then ⟨1, []⟩
  else
    let observed := objectsAt patch "visual_interpretations"
    let matched := (bound.1.filter (findsRelation observed)).length
    ⟨(matched : ℚ) / bound.1.length,
      if matched = bound.1.length then [] else ["PROCESS_RELATION_MISMATCH"]⟩

end

section
variable [Unicode] [Compatibility] [Printing]

/-- A claim may cite the objects of its unit. -/
def claimEvidenceIds (evidence : EvidenceIR) : List Json :=
  evidence.regions.map (·.fields.regionId) ++
    evidence.visualElements.map (·.field "element_id") ++
    evidence.tables.map (·.tableId) ++ (cellsOf evidence).map (·.cellId)

def isSupported (known : List Json) (claim : Json) : Bool :=
  (listAt claim "evidence_ids").any (holds known)

/-- An empty list of phrases accepts every text. -/
def namesPhrase (gold claim : Json) : Bool :=
  let phrases := (listAt gold "acceptable_phrases").map fun value => lowered (str value)
  phrases.isEmpty || phrases.any fun phrase =>
    Text.within phrase (lowered (str (get claim "text" (.str ""))))

def kindOf (gold : Json) : String :=
  String.ofList (Compatibility.upper (str (get gold "kind" (.str "claim"))).toList)

/-- The first claim of the kind counts. -/
def claimOf (claims : List Json) (gold : Json) : Option Json :=
  claims.find? fun claim => (claim.field "kind").equal (gold.field "kind")

def claimFailuresOf (known claims : List Json) (gold : Json) : List String :=
  match claimOf claims gold with
  | none => ["MISSING_" ++ kindOf gold]
  | some claim =>
    (if isSupported known claim then [] else ["UNSUPPORTED_EXECUTIVE_CLAIM"]) ++
      if namesPhrase gold claim then [] else ["WRONG_" ++ kindOf gold ++ "_SEMANTICS"]

def goldClaims (gold : Json) : List Json := listAt gold "executive_claims"

def claimFailures (gold : Json) (evidence : EvidenceIR) (patch : Json) : List String :=
  (goldClaims gold).flatMap
    (claimFailuresOf (claimEvidenceIds evidence) (listAt patch "executive_claims"))

/-- A claim of the patch needs evidence also when the gold has no such claim. -/
def unsupportedClaims (evidence : EvidenceIR) (patch : Json) : List Json :=
  (objectsAt patch "executive_claims").filter (!isSupported (claimEvidenceIds evidence) ·)

end

section
variable [Unicode] [Compatibility] [Printing]

/-- An object of the unit that has the text of an anchor. -/
structure AssertionCandidate where
  sourceId : Json
  sourceKind : String
  recoveryStatus : String

/-- The surface says which objects of the unit may carry the anchor. -/
def assertionSourceCandidates (assertion : Assertion) (evidence : EvidenceIR) :
    List AssertionCandidate :=
  let isAnchor (text : String) :=
    Text.strip text.toList == Text.strip assertion.sourceText.text.toList
  let regions := if assertion.surface = .tableCell then []
    else (evidence.regions.filter fun region => isAnchor (literalOf region)).map fun region =>
      ⟨region.fields.regionId, "region",
        str (either region.fields.recoveryStatus (.str "NOT_REQUIRED"))⟩
  let cells := if assertion.surface = .region then []
    else ((cellsOf evidence).filter fun cell => isAnchor (textOf cell)).map fun cell =>
      ⟨cell.cellId, "table_cell", "NOT_REQUIRED"⟩
  let elements := if assertion.surface ≠ .visualInterpretation then []
    else ((namedElements evidence).filter fun element => isAnchor (labelOf element)).map
      fun element => ⟨.str (str (element.field "element_id")), "visual_element", "NOT_REQUIRED"⟩
  regions ++ cells ++ elements

/-- Only a single output of the source object counts. -/
def single : List Json → Option Json
  | [item] => some item
  | _ => none

/-- The text that a patch gives for the source object, and whether it is unresolved. -/
def assertionOutputText (surface : Surface) (sourceId patch : Json) : Option String × Bool :=
  let translated (items : List Json) (key : String) :=
    match single (items.filter fun item => (item.field key).equal sourceId) with
    | some item => (some (englishOf item), item.field "unresolved" == .bool true)
    | none => (none, false)
  let stated (items : List Json) (key : String) :=
    ((single items).map fun item => str (get item key (.str "")), false)
  match surface with
  | .region => translated (objectsAt patch "regions") "region_id"
  | .tableCell =>
    translated ((patchTables patch).flatMap fun table => objectsAt table "cells") "cell_id"
  | .executiveClaim => stated ((objectsAt patch "executive_claims").filter fun item =>
    holds (listAt item "evidence_ids") sourceId) "text"
  | .visualInterpretation =>
    stated ((objectsAt patch "visual_interpretations").filter fun item =>
      holds (listAt item "source_element_ids") sourceId ||
        holds (listAt item "evidence_ids") sourceId) "interpretation"

def matchesApprovedMeaning (text : String) (phrases : List String) : Bool :=
  let observed := normalizedPhraseTokens text
  !observed.isEmpty && (phrases.map normalizedPhraseTokens).elem observed

inductive Outcome where
  | correct | incorrect | unresolvedExempt
deriving DecidableEq, Repr

structure Observation where
  assertionId : String
  sourceObjectId : Json
  anchorKind : String
  anchorSha256 : String
  outcome : Outcome

def assertionOutcome (gold patch : Json) (assertion : Assertion) (candidate : AssertionCandidate) :
    Outcome :=
  let output := assertionOutputText assertion.surface candidate.sourceId patch
  if output.2 && candidate.recoveryStatus == "NEEDS_REVIEW" &&
      gold.field "allowed_unresolved" == .bool true then .unresolvedExempt
  else if output.1.any (matchesApprovedMeaning · assertion.acceptedPhrases.phrases) then .correct
  else .incorrect

variable [Sha256]

def anchorSha256 (workUnitId : String) (candidate : AssertionCandidate) : String :=
  Sha256.hexdigest (workUnitId ++ "\x00" ++ candidate.sourceKind ++ "\x00" ++
    str candidate.sourceId)

def observe (gold patch : Json) (workUnitId : String) (assertion : Assertion)
    (candidate : AssertionCandidate) : Observation where
  assertionId := assertion.id
  sourceObjectId := candidate.sourceId
  anchorKind := candidate.sourceKind
  anchorSha256 := anchorSha256 workUnitId candidate
  outcome := assertionOutcome gold patch assertion candidate

structure Observations where
  observed : List Observation
  bindingFailure : Bool

/-- An assertion without an anchor may belong to another unit, and two anchors are a failure. -/
def observeAssertion (gold patch : Json) (evidence : EvidenceIR) (assertion : Assertion) :
    Option Observation :=
  match assertionSourceCandidates assertion evidence with
  | [candidate] => some (observe gold patch (str evidence.workUnitId) assertion candidate)
  | _ => none

def isAmbiguous (evidence : EvidenceIR) (assertion : Assertion) : Bool :=
  decide (2 ≤ (assertionSourceCandidates assertion evidence).length)

def inOrder (observations : List Observation) : List Observation :=
  observations.insertionSort fun first second => first.assertionId ≤ second.assertionId

/-- Malformed assertions are a failure of the binding too. -/
def noncriticalSemanticObservations (scenario : Scenario) (evidence : EvidenceIR) (patch : Json) :
    Observations :=
  match assertionsForScenario scenario with
  | .error _ => ⟨[], true⟩
  | .ok assertions =>
    ⟨inOrder (assertions.filterMap (observeAssertion scenario.gold patch evidence)),
      assertions.any (isAmbiguous evidence)⟩

end

end Scoring
end KSlide
