import KSlide.Evidence.Codec
import KSlide.Readings
import KSlide.Scoring.Absence
import KSlide.Scoring.Contract

/-
This file shows when the score of a case depends on the unit alone that owns the items of the gold.
-/

open Json

namespace KSlide
open List
namespace Scoring
open Python

/-- Texts in another order are sorted alike. -/
theorem insertionSort_perm {first second : List String} (same : first.Perm second) :
    first.insertionSort (· ≤ ·) = second.insertionSort (· ≤ ·) := by
  have sorted (texts : List String) : (texts.insertionSort (· ≤ ·)).Pairwise (· ≤ ·) :=
    pairwise_insertionSort _ _
  apply List.Perm.eq_of_pairwise (fun _ _ _ _ => le_antisymm) (sorted first) (sorted second)
  exact (perm_insertionSort _ _).trans (same.trans (perm_insertionSort _ _).symm)

/-- When only one of different items has values, all values are its values. -/
theorem flatMap_owner {Unit Value Key : Type} {units : List Unit} {owner : Unit} {key : Unit → Key}
    (values : Unit → List Value) (distinct : (units.map key).Nodup) (listed : owner ∈ units)
    (others : ∀ other ∈ units, key other ≠ key owner → values other = []) :
    units.flatMap values = values owner := by
  induction units with
  | nil => cases listed
  | cons unit units ih =>
    rw [map_cons, nodup_cons] at distinct
    rw [flatMap_cons]
    rcases mem_cons.mp listed with same | later
    · have silent : units.flatMap values = [] := by
        rw [flatMap_eq_nil_iff]
        intro other known
        apply others other (mem_cons_of_mem _ known)
        intro equal
        apply distinct.1
        rw [← same, ← equal]
        exact mem_map_of_mem known
      rw [silent, append_nil, same]
    · have apart : key unit ≠ key owner := by
        intro equal
        apply distinct.1
        rw [equal]
        exact mem_map_of_mem later
      rw [others unit mem_cons_self apart, nil_append]
      exact ih distinct.2 later fun other known =>
        others other (mem_cons_of_mem _ known)

theorem perm_inOrder (observations : List Observation) : (inOrder observations).Perm observations :=
  perm_insertionSort _ _

theorem exists_other {units : List ScoredUnit} {owner : ScoredUnit} (several : 2 ≤ units.length)
    (distinct : (units.map ScoredUnit.id).Nodup) :
    ∃ other ∈ units, other.id ≠ owner.id := by
  obtain ⟨first, second, others, rfl⟩ :
      ∃ first second others, units = first :: second :: others := by
    match units, several with
    | first :: second :: others, _ => exact ⟨first, second, others, rfl⟩
  have apart : first.id ≠ second.id := by
    rw [map_cons, nodup_cons] at distinct
    intro same
    apply distinct.1
    rw [same]
    exact mem_map_of_mem mem_cons_self
  by_cases same : first.id = owner.id
  · use second, mem_cons_of_mem _ mem_cons_self
    rw [← same]
    exact apart.symm
  · exact ⟨first, mem_cons_self, same⟩

section
variable [Unicode] [Compatibility] [Printing] {scenario : Scenario} {units : List ScoredUnit}
  {owner : ScoredUnit}

/-- A unit has the texts and elements that the items of the gold are about. -/
structure OwnsAnchors (scenario : Scenario) (evidence : EvidenceIR) : Prop where
  modality : expectsModality scenario.gold = true → hintedRegions scenario.gold evidence ≠ []
  chart : (chartOf scenario.gold).truthy = true → chartElements evidence ≠ []
  nodes : ∀ node ∈ nodesOf scenario.gold, isAnchored node = true →
    candidates evidence (sourceTextOf node) ≠ []
  assertions : ∀ assertions, assertionsForScenario scenario = .ok assertions →
    ∀ assertion ∈ assertions, assertionSourceCandidates assertion evidence ≠ []

omit [Printing] in
theorem aggregateUnitSemantics_clean {assertions : List Assertion} {scores : List Score}
    (approved : assertionsForScenario scenario = .ok assertions) (occupied : scores ≠ []) :
    ∃ aggregate, aggregateUnitSemantics scores scenario = .ok (some aggregate) ∧
      (aggregate.criticalFailures = [] ↔ (∀ score ∈ scores, score.criticalFailures = []) ∧
        coversAssertions ((assertions.map Assertion.id).insertionSort (· ≤ ·)) scores = true) := by
  have filled : scores.isEmpty = false := by
    rw [← Bool.not_eq_true, List.isEmpty_iff]
    exact occupied
  unfold aggregateUnitSemantics
  rw [filled, approved]
  refine ⟨_, rfl, ?_⟩
  dsimp only
  rw [sortedSet_eq_nil, append_eq_nil_iff, flatMap_eq_nil_iff, when_eq_nil,
    Bool.not_eq_false']

variable [Sha256]

/-- The owner of all anchors observes each assertion once. -/
theorem observedIds_owner (scenario : Scenario) (patch : Json) {assertions : List Assertion}
    {evidence : EvidenceIR}
    (owned : ∀ assertion ∈ assertions, assertionSourceCandidates assertion evidence ≠ [])
    (clear : assertions.any (isAmbiguous evidence) = false) :
    (assertions.filterMap (observeAssertion scenario.gold patch evidence)).map (·.assertionId) =
      assertions.map Assertion.id := by
  induction assertions with
  | nil => rfl
  | cons assertion assertions ih =>
    rw [any_cons, Bool.or_eq_false_iff] at clear
    have first := clear.1
    unfold isAmbiguous at first
    obtain ⟨candidate, others, found⟩ :=
      exists_cons_of_ne_nil (owned assertion mem_cons_self)
    have alone : others = [] := by
      rw [found, decide_eq_false_iff_not] at first
      cases others with
      | nil => rfl
      | cons other others => simp at first
    have seen : observeAssertion scenario.gold patch evidence assertion =
        some (observe scenario.gold patch (str evidence.workUnitId) assertion candidate) := by
      unfold observeAssertion
      rw [found, alone]
    rw [filterMap_cons, seen, map_cons, map_cons,
      ih (fun other listed => owned other (mem_cons_of_mem _ listed)) clear.2]
    rfl

/-- A unit without binding failures has approved assertions and no anchor twice. -/
theorem approved_of_bindingFailure {evidence : EvidenceIR} {patch : Json}
    (bound : (noncriticalSemanticObservations scenario evidence patch).bindingFailure = false) :
    ∃ assertions, assertionsForScenario scenario = .ok assertions ∧
      assertions.any (isAmbiguous evidence) = false := by
  unfold noncriticalSemanticObservations at bound
  cases found : assertionsForScenario scenario with
  | error error => simp [found] at bound
  | ok assertions =>
    rw [found] at bound
    exact ⟨assertions, rfl, bound⟩

theorem bindingFailure_of_itemFailures {unit : ScoredUnit}
    (passed : itemFailures scenario unit = []) :
    (noncriticalSemanticObservations scenario unit.evidence unit.patch).bindingFailure = false := by
  unfold itemFailures at passed
  dsimp only at passed
  rw [append_eq_nil_iff, when_eq_nil] at passed
  exact passed.2

variable [Floating]

theorem criticalFailures_scoreOf {unit : ScoredUnit} {highest : Int} :
    (scoreOf scenario unit highest).criticalFailures = [] ↔
      itemFailures scenario unit = [] ∧ unitFailures scenario.gold unit = [] := by
  change sortedSet _ = [] ↔ _
  rw [sortedSet_eq_nil, append_eq_nil_iff]

theorem coversAssertions_owner {assertions : List Assertion} (highest : Int)
    (approved : assertionsForScenario scenario = .ok assertions)
    (distinct : (units.map ScoredUnit.id).Nodup) (listed : owner ∈ units)
    (owned : OwnsAnchors scenario owner.evidence)
    (clear : assertions.any (isAmbiguous owner.evidence) = false)
    (lacking : ∀ other ∈ units, other.id ≠ owner.id → LacksAnchors scenario other.evidence) :
    coversAssertions ((assertions.map Assertion.id).insertionSort (· ≤ ·))
      (units.map (scoreOf scenario · highest)) = true := by
  have observed : observationsOf (units.map (scoreOf scenario · highest)) =
      inOrder (assertions.filterMap
        (observeAssertion scenario.gold owner.patch owner.evidence)) := by
    unfold observationsOf
    rw [flatMap_map]
    let observed (unit : ScoredUnit) :=
      (noncriticalSemanticObservations scenario unit.evidence unit.patch).observed
    show units.flatMap observed = _
    rw [flatMap_owner observed distinct listed]
    · show (noncriticalSemanticObservations scenario owner.evidence owner.patch).observed = _
      unfold noncriticalSemanticObservations
      rw [approved]
    · intro other known apart
      show (noncriticalSemanticObservations scenario other.evidence other.patch).observed = []
      rw [observations_lacking (lacking other known apart) approved]
  have ids : ((inOrder (assertions.filterMap
      (observeAssertion scenario.gold owner.patch owner.evidence))).map (·.assertionId)).Perm
        (assertions.map Assertion.id) := by
    rw [← observedIds_owner scenario owner.patch (owned.assertions assertions approved) clear]
    exact (perm_inOrder _).map _
  unfold coversAssertions
  rw [observed, Bool.and_eq_true, decide_eq_true_iff, beq_iff_eq]
  exact ⟨ids.nodup_iff.mpr (assertionsForScenario_apart approved), insertionSort_perm ids⟩

variable [Fractions]

/-- A case with one owner of all anchors passes exactly when the gold names nothing that the other
units fail for lack of an anchor, and each of them also makes the expected claims. -/
theorem scoring_local (several : 2 ≤ units.length) (distinct : (units.map ScoredUnit.id).Nodup)
    (listed : owner ∈ units) (owned : OwnsAnchors scenario owner.evidence)
    (clean : IsClean scenario owner)
    (apart : ∀ other ∈ units, other.id ≠ owner.id →
      LacksAnchors scenario other.evidence ∧ IsClean scenario.withoutItems other) :
    ∃ aggregate, scoreCase scenario units = .ok (some aggregate) ∧
      (aggregate.criticalFailures = [] ↔ NamesNoLocal scenario.gold ∧
        ∀ other ∈ units, other.id ≠ owner.id →
          ∀ expected ∈ goldClaims scenario.gold, MeetsClaim other expected) := by
  obtain ⟨⟨highest, read⟩, items, others⟩ := isClean_iff.mp clean
  obtain ⟨assertions, approved, clear⟩ :=
    approved_of_bindingFailure (bindingFailure_of_itemFailures items)
  have scored : units.mapM (scoreTranslationPatch scenario) =
      .ok (units.map (scoreOf scenario · highest)) := by
    have each : ∀ unit ∈ units,
        scoreTranslationPatch scenario unit = .ok (scoreOf scenario unit highest) := by
      intro unit _
      unfold scoreTranslationPatch
      rw [read]
      rfl
    rw [mapM_congr each]
    exact mapM_pure
  have occupied : units.map (scoreOf scenario · highest) ≠ [] := by
    intro empty
    rw [map_eq_nil_iff] at empty
    rw [empty] at listed
    cases listed
  have covered := coversAssertions_owner highest approved distinct listed owned clear
    fun other known different => (apart other known different).1
  obtain ⟨aggregate, aggregated, failures⟩ := aggregateUnitSemantics_clean approved occupied
  have whole : scoreCase scenario units = .ok (some aggregate) := by
    unfold scoreCase
    rw [scored]
    exact aggregated
  use aggregate, whole
  rw [failures, and_iff_left covered, forall_mem_map]
  have decided : ∀ other ∈ units, other.id ≠ owner.id →
      ((scoreOf scenario other highest).criticalFailures = [] ↔ NamesNoLocal scenario.gold ∧
        ∀ expected ∈ goldClaims scenario.gold, MeetsClaim other expected) := by
    intro other known different
    obtain ⟨lacks, remaining⟩ := apart other known different
    have passed := (isClean_iff.mp remaining).2.2
    rw [unitFailures_withoutItems] at passed
    rw [criticalFailures_scoreOf, and_iff_left passed, itemFailures_lacking lacks approved]
  constructor
  · intro passed
    have each : ∀ other ∈ units, other.id ≠ owner.id → NamesNoLocal scenario.gold ∧
        ∀ expected ∈ goldClaims scenario.gold, MeetsClaim other expected :=
      fun other known different => (decided other known different).mp (passed other known)
    obtain ⟨other, known, different⟩ := exists_other several distinct
    exact ⟨(each other known different).1, fun other known different =>
      (each other known different).2⟩
  · rintro ⟨silent, claims⟩ unit known
    by_cases same : unit.id = owner.id
    · rw [inj_on_of_nodup_map distinct known listed same, criticalFailures_scoreOf]
      exact ⟨items, others⟩
    · exact (decided unit known same).mpr ⟨silent, claims unit known same⟩

end

section
attribute [local instance] Unicode.basic Compatibility.basic Floating.fixed Sha256.polynomial
  EvidenceIR.sampleFractions EvidenceIR.samplePrinting

/-- The first slide of this case says that a launch is decided. -/
def deploymentGold : Json := .obj [
  ("expected_region_min", .int 1),
  ("modality", .obj [("commitment", .str "decided"), ("source_text", .str "Launch decided"),
    ("speech_act", .str "decision")]),
  ("noncritical_semantic_assertions", .arr [.obj [
    ("accepted_phrases", .arr [.str "the launch is decided"]),
    ("assertion_id", .str "ncs-208d55c7be6ea492c5bc4d18"),
    ("source_text", .str "Launch decided"),
    ("surface", .str "region")]]),
  ("visible_items", .int 2),
  ("visual_elements", .arr [.str "headline"])]

def deployment : Scenario := ⟨"scenario-0001", deploymentGold⟩

def slideEvidence (workUnitId text : String) : EvidenceIR where
  documentId := .str "document-1"
  workUnitId := .str workUnitId
  source := .named []
  regions := [.make {
    regionId := .str "region-1"
    selectedLiteralCandidate := .str text
    language := .str "en" }]
  requiredSourceIds := [.str "region-1"]

def slidePatch (region : List (String × Json)) : Json := .obj [
  ("executive_claims", .arr []),
  ("regions", .arr [.obj region]),
  ("tables", .arr []),
  ("visual_interpretations", .arr [])]

def launchUnit : ScoredUnit where
  evidence := slideEvidence "unit-1" "Launch decided"
  patch := slidePatch [
    ("commitment_status", .str "decided"),
    ("english", .str "The launch is decided"),
    ("region_id", .str "region-1"),
    ("speech_act", .str "decision"),
    ("unresolved", .bool false)]

def agendaUnit : ScoredUnit where
  evidence := slideEvidence "unit-2" "Agenda"
  patch := slidePatch [
    ("english", .str "Agenda"),
    ("region_id", .str "region-1"),
    ("unresolved", .bool false)]

theorem deployment_accepted :
    validateGoldContract "modality_decision_state" deploymentGold "private_representative" =
      .ok deploymentGold := by
  decide +kernel

theorem launch_owns : OwnsAnchors deployment launchUnit.evidence where
  modality _ := by decide +kernel
  chart drawn := by cases drawn
  nodes node listed := by cases listed
  assertions assertions approved := by
    have all : (assertionsForScenario deployment).toOption.all (fun assertions =>
        assertions.all fun assertion =>
          !(assertionSourceCandidates assertion launchUnit.evidence).isEmpty) = true := by
      decide +kernel
    rw [approved] at all
    intro assertion listed
    simpa using all_eq_true.mp all assertion listed

theorem agenda_lacks : LacksAnchors deployment agendaUnit.evidence where
  modality _ := by decide +kernel
  chart drawn := by cases drawn
  nodes node listed := by cases listed
  assertions assertions approved := by
    have all : (assertionsForScenario deployment).toOption.all (fun assertions =>
        assertions.all fun assertion =>
          (assertionSourceCandidates assertion agendaUnit.evidence).isEmpty) = true := by
      decide +kernel
    rw [approved] at all
    intro assertion listed
    simpa using all_eq_true.mp all assertion listed

theorem launch_clean : IsClean deployment launchUnit :=
  isClean_iff.mpr ⟨⟨0, rfl⟩, by decide +kernel, by decide +kernel⟩

theorem agenda_clean : IsClean deployment.withoutItems agendaUnit :=
  isClean_iff.mpr ⟨⟨0, by decide +kernel⟩, by decide +kernel, by decide +kernel⟩

theorem deployment_local : ∃ aggregate,
    scoreCase deployment [launchUnit, agendaUnit] = .ok (some aggregate) ∧
      (aggregate.criticalFailures = [] ↔ NamesNoLocal deployment.gold ∧
        ∀ other ∈ [launchUnit, agendaUnit], other.id ≠ launchUnit.id →
          ∀ expected ∈ goldClaims deployment.gold, MeetsClaim other expected) := by
  apply scoring_local (by decide) (by decide) mem_cons_self launch_owns launch_clean
  intro other listed different
  rcases mem_cons.mp listed with same | later
  · exact absurd (congrArg ScoredUnit.id same) different
  · rw [mem_singleton.mp later]
    exact ⟨agenda_lacks, agenda_clean⟩

/-- The slide without the launch fails the modality of the slide with the launch. -/
theorem deployment_spoiled :
    validateGoldContract "modality_decision_state" deploymentGold "private_representative" =
        .ok deploymentGold ∧
      launchUnit.id ≠ agendaUnit.id ∧
      OwnsAnchors deployment launchUnit.evidence ∧ IsClean deployment launchUnit ∧
      LacksAnchors deployment agendaUnit.evidence ∧ IsClean deployment.withoutItems agendaUnit ∧
      ∃ aggregate, scoreCase deployment [launchUnit, agendaUnit] = .ok (some aggregate) ∧
        aggregate.criticalFailures =
          ["CRITICAL_MODALITY_MISMATCH", "SCORER_SOURCE_BINDING_FAILURE"] := by
  refine ⟨deployment_accepted, by decide, launch_owns, launch_clean, agenda_lacks, agenda_clean,
    _, rfl, ?_⟩
  decide +kernel

end

end Scoring
end KSlide
