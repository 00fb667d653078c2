import KSlide.Certification.QualityPolicy
import KSlide.Corpus.SetIdentity
import KSlide.Json.Conversions
import Mathlib.Data.List.Dedup
import Mathlib.Data.Prod.Lex

/-
This file gives the validation of the bilingual review contract and the metrics that it derives.
-/

namespace KSlide
namespace Bilingual

/-- Every truth unit belongs to one metric. -/
inductive Metric where
  | criticalBusinessMeaningErrors | criticalNumericDateUnitErrors | criticalModalityEscalations
  | criticalTableMappingErrors | criticalTrendReversals | unsupportedCriticalExecutiveClaims
  | overallNoncriticalSemanticFidelity | unresolvedPrecision | materialUnresolvedRecall
  | lockedTerminology
deriving DecidableEq, Repr

instance : Text.Enumeration Metric where
  value
    | .criticalBusinessMeaningErrors => "critical_business_meaning_errors"
    | .criticalNumericDateUnitErrors => "critical_numeric_date_unit_errors"
    | .criticalModalityEscalations => "critical_modality_escalations"
    | .criticalTableMappingErrors => "critical_table_mapping_errors"
    | .criticalTrendReversals => "critical_trend_reversals"
    | .unsupportedCriticalExecutiveClaims => "unsupported_critical_executive_claims"
    | .overallNoncriticalSemanticFidelity => "overall_noncritical_semantic_fidelity"
    | .unresolvedPrecision => "unresolved_precision"
    | .materialUnresolvedRecall => "material_unresolved_recall"
    | .lockedTerminology => "locked_terminology"
  all := [.criticalBusinessMeaningErrors, .criticalNumericDateUnitErrors,
    .criticalModalityEscalations, .criticalTableMappingErrors, .criticalTrendReversals,
    .unsupportedCriticalExecutiveClaims, .overallNoncriticalSemanticFidelity, .unresolvedPrecision,
    .materialUnresolvedRecall, .lockedTerminology]

namespace Metric

def name (metric : Metric) : Json := .str (Text.Enumeration.value metric)

/-- The critical metrics stand in the order of their names. -/
def critical : List Metric := [.criticalBusinessMeaningErrors, .criticalModalityEscalations,
  .criticalNumericDateUnitErrors, .criticalTableMappingErrors, .criticalTrendReversals,
  .unsupportedCriticalExecutiveClaims]

def rates : List Metric := [.lockedTerminology, .materialUnresolvedRecall,
  .overallNoncriticalSemanticFidelity, .unresolvedPrecision]

end Metric

def correct : Json := .str "correct"
def incorrect : Json := .str "incorrect"

def isOutcome (value : Json) : Bool := value == correct || value == incorrect

def isMetric (value : Json) : Bool :=
  (Text.Enumeration.all : List Metric).any fun metric => value == metric.name

def contractFields : List String := ["schema_version", "subject_git_sha", "deployment_fingerprint",
  "evaluation_purpose", "corpus_set_identity", "corpus_manifest", "policy_identity", "work_units",
  "review_records", "adjudication_records", "ai_assistance_records", "truth_unit_decisions"]

def workUnitFields : List String := ["item_id", "source_sha256", "gold_sha256", "work_unit_id",
  "artifact_id", "artifact_sha256", "truth_units"]

def truthUnitFields : List String := ["truth_unit_id", "metric"]

def bindingFields : List String := ["subject_git_sha", "deployment_fingerprint",
  "corpus_set_identity_sha256", "evaluation_purpose", "corpus_item_id",
  "corpus_item_identity_sha256", "policy_identity_sha256", "work_unit_id", "artifact_id",
  "artifact_sha256"]

def reviewFields : List String := bindingFields ++ ["review_record_id", "review_record_sha256",
  "review_artifact_id", "review_artifact_sha256", "reviewer_id", "reviewer_kind",
  "decision_authority", "decision_basis", "ai_assistance_ids", "truth_unit_outcomes"]

def reviewOutcomeFields : List String := ["truth_unit_id", "metric", "outcome"]

def adjudicationFields : List String := bindingFields ++ ["adjudication_record_id",
  "adjudication_record_sha256", "adjudication_artifact_id", "adjudication_artifact_sha256",
  "adjudicator_id", "adjudicator_kind", "decision_authority", "truth_unit_id", "metric",
  "review_record_refs", "resolution_outcome"]

def assistanceFields : List String := bindingFields ++ ["assistance_record_id",
  "assistance_record_sha256", "assistance_artifact_id", "assistance_artifact_sha256",
  "review_record_id", "assistance_kind", "authority"]

def fail (message : String) : Raised := .other ("BilingualAdjudicationError: " ++ message)

def entries : Json → List Json
  | .arr items => items
  | _ => []

def isDigest : Json → Bool
  | .str text => Text.isSha256 text
  | _ => false

def hash (label : String) (value : Json) : Except Raised Unit :=
  require (isDigest value) (fail (label ++ " must be a lowercase SHA-256 digest"))

def validateShape (value : Json) (fields : List String) (label : String) : Except Raised Unit :=
  require (value.hasKeys fields) (fail (label ++ " has an unsupported shape"))

/-- A list stays the same when it is sorted by a key. -/
def ordered {Key : Type} [LinearOrder Key] (values : Json) (key : Json → Key) (label : String) :
    Except Raised (List Json) :=
  match values with
  | .arr items => do
    require (Json.equalItems items (items.mergeSort fun first second => key first ≤ key second))
      (fail (label ++ " must be a deterministically sorted list"))
    return items
  | _ => .error (fail (label ++ " must be a deterministically sorted list"))

/-- A lookup needs a value with a hash. -/
def findBy (records : List Json) (key : String) (value : Json) : Except Raised (Option Json) :=
  if value.hashable then .ok (records.find? fun record => record.field key == value)
  else .error (.other "TypeError")

/-- The texts of a list, each one greater than the one before it. -/
def strictTexts : List Json → Bool
  | .str first :: .str second :: rest =>
    decide (first < second) && strictTexts (.str second :: rest)
  | _ => true

section
variable [Python.Printing]

def textKey (name : String) (value : Json) : String :=
  if value.isObject then Python.str (Python.get value name (.str "")) else ""

def workKey (work : Json) : String ×ₗ String :=
  toLex (textKey "item_id" work, textKey "work_unit_id" work)

end

/-- A list that is sorted by other keys is refused with its entries. -/
def keyText (name : String) (value : Json) : String := (Python.text? (value.field name)).getD ""

/-- The identities of the truth units of some work units. -/
def truthIds (works : List Json) : List Json :=
  works.flatMap fun work => (entries (work.field "truth_units")).map (·.field "truth_unit_id")

def checkTruth (known : List Json) (truth : Json) : Except Raised (List Json) := do
  validateShape truth truthUnitFields "decision-critical truth unit"
  hash "truth-unit identity" (truth.field "truth_unit_id")
  require (isMetric (truth.field "metric") && !known.elem (truth.field "truth_unit_id"))
    (fail "truth-unit identity or metric is duplicate or unsupported")
  return known ++ [truth.field "truth_unit_id"]

section
variable [Sha256]

def recordDigest (record : Json) (digestField label : String) : Except Raised Unit := do
  hash label (record.field digestField)
  require (record.field digestField == .str (stableRevision (record.without digestField)))
    (fail (label ++ " does not match its canonical record"))

def corpusItemIdentity (work : Json) : String := stableRevision (.obj [
  ("gold_sha256", work.field "gold_sha256"),
  ("item_id", work.field "item_id"),
  ("source_sha256", work.field "source_sha256")])

def bindingFor (contract work : Json) : List (String × Json) := [
  ("subject_git_sha", contract.field "subject_git_sha"),
  ("deployment_fingerprint", contract.field "deployment_fingerprint"),
  ("corpus_set_identity_sha256", .str (stableRevision (contract.field "corpus_set_identity"))),
  ("evaluation_purpose", contract.field "evaluation_purpose"),
  ("corpus_item_id", work.field "item_id"),
  ("corpus_item_identity_sha256", .str (corpusItemIdentity work)),
  ("policy_identity_sha256", (contract.field "policy_identity").field "identity_sha256"),
  ("work_unit_id", work.field "work_unit_id"),
  ("artifact_id", work.field "artifact_id"),
  ("artifact_sha256", work.field "artifact_sha256")]

def isBound (contract work record : Json) : Bool :=
  (bindingFor contract work).all fun entry => record.field entry.1 == entry.2

/-- A corpus error becomes an error of the contract. -/
def corpusBinding {Value : Type} (result : Except GovernanceError Value) : Except Raised Value :=
  match result with
  | .ok value => .ok value
  | .error (.corpus _) => .error (fail "bilingual review corpus binding is invalid")
  | .error .typeError => .error (.other "TypeError")

def validateHeader (contract : Json) : Except Raised CorpusManifest := do
  validateShape contract contractFields "bilingual review contract"
  require (contract.field "schema_version" == .str "1.0")
    (fail "unsupported bilingual review contract version")
  require ((Python.text? (contract.field "subject_git_sha")).any (Text.isExactly Text.isHex 40))
    (fail "bilingual review candidate subject is malformed")
  hash "bilingual review deployment fingerprint" (contract.field "deployment_fingerprint")
  require (contract.field "evaluation_purpose" == .str "private_evaluation")
    (fail "bilingual review purpose must be private_evaluation")
  let manifest ← corpusBinding (canonicalManifest (contract.field "corpus_manifest"))
  let _ ← corpusBinding (canonicalSetIdentity (contract.field "corpus_set_identity"))
  let consumed ← corpusBinding
    (requireSetPurpose (contract.field "corpus_set_identity") "private_evaluation")
  require (manifest.role == .privateRepresentative && consumed == manifest.identity)
    (fail "bilingual review manifest and governed set identity disagree")
  require (contract.field "policy_identity" == policyIdentityRecord)
    (fail "bilingual review policy identity is stale")
  return manifest

def activeItem (manifest : CorpusManifest) (work : Json) : Option CorpusItem :=
  manifest.items.find? fun item =>
    item.state == .active && work.field "item_id" == .str item.itemId.val

def bindsItem (manifest : CorpusManifest) (work : Json) : Bool :=
  (activeItem manifest work).any fun item =>
    work.field "source_sha256" == .str item.sourceSha256.val &&
      work.field "gold_sha256" == .str item.goldSha256.val

def artifactBinding (work : Json) : Json × Json :=
  (work.field "item_id", work.field "artifact_sha256")

/-- The first work unit of an artifact binds it to its item and its hash. -/
def keepsArtifact (seen : List Json) (work : Json) : Bool :=
  ((seen.find? fun other => other.field "artifact_id" == work.field "artifact_id").map
    artifactBinding).all (· == artifactBinding work)

variable [Python.Printing]

def checkWork (manifest : CorpusManifest) (seen : List Json) (work : Json) :
    Except Raised (List Json) := do
  validateShape work workUnitFields "bilingual work unit"
  require (bindsItem manifest work)
    (fail "bilingual work unit does not bind an active governed corpus item")
  hash "work unit identity" (work.field "work_unit_id")
  hash "reviewed output artifact identity" (work.field "artifact_id")
  hash "reviewed output artifact hash" (work.field "artifact_sha256")
  require (!(seen.map (·.field "work_unit_id")).elem (work.field "work_unit_id"))
    (fail "bilingual work unit identity is duplicated or replayed")
  require (keepsArtifact seen work)
    (fail "reviewed output artifact is replayed across governed items")
  let truths ← ordered (work.field "truth_units") (textKey "truth_unit_id") "truth units"
  require (!truths.isEmpty) (fail "bilingual work unit has no decision-critical truth units")
  let _ ← truths.foldlM checkTruth (truthIds seen)
  return seen ++ [work]

/-- The truth units with their work units. -/
def truthUnits (works : List Json) : List (Json × Json) :=
  works.flatMap fun work => (entries (work.field "truth_units")).map fun truth => (work, truth)

def coversMetrics (metrics : List Json) : Bool :=
  (Text.Enumeration.all : List Metric).all fun metric => metrics.elem metric.name

def validateWorkUnits (contract : Json) (manifest : CorpusManifest) :
    Except Raised (List Json) := do
  let units ← ordered (contract.field "work_units") workKey "bilingual work units"
  require (decide (200 ≤ units.length))
    (fail "bilingual review sample has fewer than 200 work units")
  let works ← units.foldlM (checkWork manifest) []
  require (decide (50 ≤ (works.map (·.field "artifact_id")).dedup.length))
    (fail "bilingual review sample has fewer than 50 distinct output artifacts")
  require (coversMetrics ((truthUnits works).map fun entry => entry.2.field "metric"))
    (fail "bilingual review sample lacks a decision-critical metric category")
  return works

end

section
variable [Sha256]

def expectedMetric (work truthId : Json) : Json :=
  (((entries (work.field "truth_units")).find? (·.field "truth_unit_id" == truthId)).map
    (·.field "metric")).getD .null

def checkOutcome (work : Json) (actual : List Json) (outcome : Json) :
    Except Raised (List Json) := do
  validateShape outcome reviewOutcomeFields "review truth-unit outcome"
  hash "reviewed truth-unit identity" (outcome.field "truth_unit_id")
  require (!actual.elem (outcome.field "truth_unit_id") &&
      outcome.field "metric" == expectedMetric work (outcome.field "truth_unit_id") &&
      isOutcome (outcome.field "outcome"))
    (fail "review record contains a duplicate, unrelated, or invalid truth-unit outcome")
  return actual ++ [outcome.field "truth_unit_id"]

/-- No earlier record shares one of the values that identify a record. -/
def isFresh (names : List String) (seen : List Json) (record : Json) : Bool :=
  names.all fun name => !(seen.map (·.field name)).elem (record.field name)

def reviewNames : List String :=
  ["review_record_id", "review_record_sha256", "review_artifact_id", "review_artifact_sha256"]

def isHumanReview (record : Json) : Bool :=
  record.field "reviewer_kind" == .str "independent_bilingual_human" &&
    record.field "decision_authority" == .str "human_review" &&
    record.field "decision_basis" == .str "direct_source_gold_comparison"

def boundElsewhere (kind : String) : Raised :=
  fail (kind ++ " is bound to another candidate, corpus item, policy, artifact, or work unit")

def isIdList : Json → Bool
  | .arr ids => ids.all isDigest && strictTexts ids
  | _ => false

def checkReview (contract : Json) (works seen : List Json) (record : Json) :
    Except Raised (List Json) := do
  validateShape record reviewFields "bilingual review record"
  hash "review record identity" (record.field "review_record_id")
  recordDigest record "review_record_sha256" "review record hash"
  hash "review artifact identity" (record.field "review_artifact_id")
  hash "review artifact hash" (record.field "review_artifact_sha256")
  hash "reviewer identity" (record.field "reviewer_id")
  require (isFresh reviewNames seen record)
    (fail "bilingual review record is duplicate, copied, or replayed")
  require (isHumanReview record)
    (fail "bilingual review record is not an authoritative independent human review")
  let found ← findBy works "work_unit_id" (record.field "work_unit_id")
  let work ← found.elim (.error (boundElsewhere "bilingual review record")) .ok
  require (isBound contract work record) (boundElsewhere "bilingual review record")
  let outcomes ← ordered (record.field "truth_unit_outcomes") (keyText "truth_unit_id")
    "review truth-unit outcomes"
  let actual ← outcomes.foldlM (checkOutcome work) []
  require ((truthIds [work]).all (actual.elem ·) && actual.all ((truthIds [work]).elem ·))
    (fail "review record does not cover the exact work-unit truth inventory")
  require (isIdList (record.field "ai_assistance_ids"))
    (fail "review AI-assistance references must be unique and sorted")
  return seen ++ [record]

def reviewsOf (reviews : List Json) (work : Json) : List Json :=
  reviews.filter fun record => record.field "work_unit_id" == work.field "work_unit_id"

/-- Two reviews of one work unit have two reviewers and two identities. -/
def isPair : List Json → Bool
  | [first, second] => first.field "reviewer_id" != second.field "reviewer_id" &&
      first.field "review_record_id" != second.field "review_record_id"
  | _ => false

variable [Python.Printing]

def validateReviews (contract : Json) (works : List Json) : Except Raised (List Json) := do
  let records ← ordered (contract.field "review_records") (textKey "review_record_id")
    "bilingual review records"
  require (decide (records.length = works.length * 2))
    (fail "each bilingual work unit requires exactly two independent review records")
  let reviews ← records.foldlM (checkReview contract works) []
  require (works.all fun work =>
      (reviewsOf reviews work).isEmpty || isPair (reviewsOf reviews work))
    (fail "each work unit requires two distinct reviewers and review records")
  return reviews

def assistanceNames : List String := ["assistance_record_id", "assistance_record_sha256",
  "assistance_artifact_id", "assistance_artifact_sha256"]

def isSuggestion (assistance : Json) : Bool :=
  ["translation_suggestion", "terminology_suggestion", "comparison_suggestion"].any
    (fun kind => assistance.field "assistance_kind" == .str kind) &&
  assistance.field "authority" == .str "non_authoritative_assistance"

def workOf (works : List Json) (record : Json) : Except Raised Json :=
  (works.find? fun work => work.field "work_unit_id" == record.field "work_unit_id").elim
    (.error (.other "KeyError")) .ok

def checkAssistance (contract : Json) (works reviews seen : List Json) (assistance : Json) :
    Except Raised (List Json) := do
  validateShape assistance assistanceFields "AI assistance record"
  hash "AI assistance identity" (assistance.field "assistance_record_id")
  recordDigest assistance "assistance_record_sha256" "AI assistance record hash"
  hash "AI assistance artifact identity" (assistance.field "assistance_artifact_id")
  hash "AI assistance artifact hash" (assistance.field "assistance_artifact_sha256")
  require (isFresh assistanceNames seen assistance)
    (fail "AI assistance record or artifact is duplicated or replayed")
  require (isSuggestion assistance)
    (fail "AI assistance may only be recorded as non-authoritative provenance")
  let found ← findBy reviews "review_record_id" (assistance.field "review_record_id")
  let review ← found.elim (.error (fail
    "AI assistance must reference an exact human review record")) .ok
  let work ← workOf works review
  require (isBound contract work assistance) (boundElsewhere "AI assistance")
  return seen ++ [assistance]

/-- The sorted identities of the suggestions for a review. -/
def assistanceOf (assistance : List Json) (record : Json) : List Json :=
  ((assistance.filter fun entry =>
    entry.field "review_record_id" == record.field "review_record_id").mergeSort fun first second =>
      keyText "assistance_record_id" first ≤ keyText "assistance_record_id" second).map
    (·.field "assistance_record_id")

def validateAssistance (contract : Json) (works reviews : List Json) :
    Except Raised (List Json) := do
  let records ← ordered (contract.field "ai_assistance_records") (textKey "assistance_record_id")
    "AI assistance records"
  let assistance ← records.foldlM (checkAssistance contract works reviews) []
  require (reviews.all fun record =>
      record.field "ai_assistance_ids" == .arr (assistanceOf assistance record))
    (fail "review AI-assistance references do not match non-authoritative provenance")
  return assistance

end

section
variable [Sha256] [Python.Printing]

/-- A truth unit is resolved by its two reviews or by an adjudication of them. -/
structure Resolution where
  work : Json
  truth : Json
  pair : List Json
  adjudication : Option Json
  outcome : Json

/-- The outcome that a review gives to a truth unit. -/
def reviewOutcome (record truth : Json) : Json :=
  (((entries (record.field "truth_unit_outcomes")).find?
    (·.field "truth_unit_id" == truth.field "truth_unit_id")).map (·.field "outcome")).getD .null

def reviewRefs (pair : List Json) : Json := .arr (pair.map fun record => .obj [
  ("review_record_id", record.field "review_record_id"),
  ("review_record_sha256", record.field "review_record_sha256")])

def adjudicationNames : List String := ["adjudication_record_id", "adjudication_record_sha256",
  "adjudication_artifact_id", "adjudication_artifact_sha256"]

def isHumanAdjudication (adjudication : Json) : Bool :=
  adjudication.field "adjudicator_kind" == .str "human_bilingual_adjudicator" &&
    adjudication.field "decision_authority" == .str "human_adjudication"

def checkAdjudication (contract work truth : Json) (pair seen : List Json) (adjudication : Json) :
    Except Raised Unit := do
  validateShape adjudication adjudicationFields "bilingual adjudication record"
  hash "adjudication record identity" (adjudication.field "adjudication_record_id")
  recordDigest adjudication "adjudication_record_sha256" "adjudication record hash"
  hash "adjudication artifact identity" (adjudication.field "adjudication_artifact_id")
  hash "adjudication artifact hash" (adjudication.field "adjudication_artifact_sha256")
  require (isFresh adjudicationNames seen adjudication)
    (fail "adjudication record or artifact is duplicated or replayed")
  require (adjudication.field "adjudicator_id" != .null)
    (fail "adjudication provenance is missing")
  hash "adjudicator identity" (adjudication.field "adjudicator_id")
  require (isHumanAdjudication adjudication)
    (fail "only a provenance-bearing human adjudication may resolve disagreement")
  require (isBound contract work adjudication) (boundElsewhere "adjudication")
  require (adjudication.field "metric" == truth.field "metric" &&
      adjudication.field "review_record_refs" == reviewRefs pair)
    (fail "adjudication does not cite the exact conflicting reviews and truth unit")
  require (isOutcome (adjudication.field "resolution_outcome"))
    (fail "adjudication outcome is not a closed authoritative resolution")

def findAdjudication (adjudications : List Json) (truth : Json) : Option Json :=
  adjudications.find? fun entry =>
    entry.isObject && entry.field "truth_unit_id" == truth.field "truth_unit_id"

def sortedReviews (reviews : List Json) (work : Json) : List Json :=
  (reviewsOf reviews work).mergeSort fun first second =>
    keyText "review_record_id" first ≤ keyText "review_record_id" second

/-- Two reviews that agree decide, and an adjudication decides between two others. -/
def resolveTruth (contract : Json) (reviews adjudications : List Json) (seen : List Resolution)
    (entry : Json × Json) : Except Raised (List Resolution) :=
  match sortedReviews reviews entry.1 with
  | first :: second :: rest =>
    let pair := first :: second :: rest
    if reviewOutcome first entry.2 = reviewOutcome second entry.2 then
      .ok (seen ++ [⟨entry.1, entry.2, pair, none, reviewOutcome first entry.2⟩])
    else
      match findAdjudication adjudications entry.2 with
      | none =>
        .error (fail "unresolved reviewer disagreement blocks authoritative bilingual truth")
      | some adjudication => do
        checkAdjudication contract entry.1 entry.2 pair (seen.filterMap (·.adjudication))
          adjudication
        return seen ++ [⟨entry.1, entry.2, pair, some adjudication,
          adjudication.field "resolution_outcome"⟩]
  | _ => .error (.other "IndexError")

def decision (resolution : Resolution) : Json := .obj [
  ("adjudication_record_id",
    (resolution.adjudication.map (·.field "adjudication_record_id")).getD .null),
  ("agreement_status",
    .str (if resolution.adjudication.isSome then "disagreement" else "agreement")),
  ("authoritative_outcome", resolution.outcome),
  ("item_id", resolution.work.field "item_id"),
  ("metric", resolution.truth.field "metric"),
  ("review_record_refs", reviewRefs resolution.pair),
  ("truth_unit_id", resolution.truth.field "truth_unit_id"),
  ("work_unit_id", resolution.work.field "work_unit_id")]

def decisionKey (value : Json) : String ×ₗ String ×ₗ String :=
  toLex (keyText "item_id" value, toLex (keyText "work_unit_id" value,
    keyText "truth_unit_id" value))

def decisions (resolutions : List Resolution) : List Json :=
  (resolutions.map decision).mergeSort fun first second => decisionKey first ≤ decisionKey second

/-- The truth units are resolved in the order of their identities. -/
def sortedTruths (works : List Json) : List (Json × Json) :=
  (truthUnits works).mergeSort fun first second =>
    keyText "truth_unit_id" first.2 ≤ keyText "truth_unit_id" second.2

def validateAdjudications (contract : Json) (works reviews : List Json) :
    Except Raised (List Resolution) := do
  let adjudications ← ordered (contract.field "adjudication_records")
    (textKey "adjudication_record_id") "bilingual adjudication records"
  let resolutions ← (sortedTruths works).foldlM (resolveTruth contract reviews adjudications) []
  require (decide (adjudications.length = (resolutions.filterMap (·.adjudication)).length))
    (fail "adjudication set contains missing, malformed, or unrelated records")
  require (contract.field "truth_unit_decisions" == .arr (decisions resolutions))
    (fail "truth-unit agreement and adjudication summary is incomplete or tampered")
  require (coversMetrics (resolutions.map fun resolution => resolution.truth.field "metric"))
    (fail "bilingual truth does not cover every required quality metric")
  return resolutions

/-- A critical metric counts errors, and another metric is an exact fraction. -/
inductive Measure where
  | count (errors : Nat)
  | rate (fraction : ℚ)
deriving DecidableEq

def metricOutcomes (resolutions : List Resolution) (metric : Metric) : List Json :=
  (resolutions.filter fun resolution => resolution.truth.field "metric" == metric.name).map
    (·.outcome)

def derive (resolutions : List Resolution) : List (Metric × Measure) :=
  (Metric.critical.map fun metric =>
    (metric, .count ((metricOutcomes resolutions metric).count incorrect))) ++
  Metric.rates.map fun metric => (metric, .rate
    (((metricOutcomes resolutions metric).count correct : ℚ) /
      (metricOutcomes resolutions metric).length))

def validateContract (contract : Json) : Except Raised (List (Metric × Measure) × List Json) := do
  let manifest ← validateHeader contract
  let works ← validateWorkUnits contract manifest
  let reviews ← validateReviews contract works
  let _ ← validateAssistance contract works reviews
  let resolutions ← validateAdjudications contract works reviews
  return (derive resolutions, decisions resolutions)

end
end Bilingual
end KSlide
