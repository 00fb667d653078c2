import KSlide.Json.Edits
import KSlide.Scoring.Score

/-
This file shows what the scorers find in a unit that has none of the anchors of the gold.
-/

open Json

namespace KSlide
open List
namespace Scoring
open Python

namespace Scenario

def items : List String := ["modality", "chart", "process", "executive_claims"]

/-- The gold keeps what is not bound to a source text. -/
def withoutItems (scenario : Scenario) : Scenario where
  scenarioId := scenario.scenarioId
  gold := (items.foldl Json.without scenario.gold).put "noncritical_semantic_assertions" (.arr [])

theorem get?_withoutItems {scenario : Scenario} {key : String} (kept : key ∉ items)
    (other : key ≠ "noncritical_semantic_assertions") :
    scenario.withoutItems.gold.get? key = scenario.gold.get? key := by
  simp only [items, mem_cons, not_or] at kept
  obtain ⟨modality, chart, process, claims, _⟩ := kept
  show (Json.put _ _ _).get? key = _
  rw [get?_put_ne other]
  simp only [items, foldl_cons, foldl_nil]
  rw [get?_without_ne claims, get?_without_ne process, get?_without_ne chart,
    get?_without_ne modality]

end Scenario

section
variable [Unicode] [Floating] [Printing] {scenario : Scenario} {unit : ScoredUnit}

section
variable [Compatibility] [Fractions] [Sha256]

/-- A scored unit without a critical failure. -/
def IsClean (scenario : Scenario) (unit : ScoredUnit) : Prop :=
  ∃ score, scoreTranslationPatch scenario unit = .ok score ∧ score.criticalFailures = []

theorem isClean_iff : IsClean scenario unit ↔
    (∃ highest, expectedUnresolvedMax scenario.gold = .ok highest) ∧
      itemFailures scenario unit = [] ∧ unitFailures scenario.gold unit = [] := by
  unfold IsClean scoreTranslationPatch
  simp only [bind_ok, pure_ok]
  constructor
  · rintro ⟨score, ⟨highest, read, same⟩, none⟩
    rw [← same] at none
    change sortedSet _ = [] at none
    rw [sortedSet_eq_nil, append_eq_nil_iff] at none
    exact ⟨⟨highest, read⟩, none⟩
  · rintro ⟨⟨highest, read⟩, none⟩
    use scoreOf scenario unit highest, ⟨highest, read, rfl⟩
    change sortedSet _ = []
    rw [sortedSet_eq_nil, append_eq_nil_iff]
    exact none

end

theorem unitFailures_withoutItems :
    unitFailures scenario.withoutItems.gold unit = unitFailures scenario.gold unit := by
  have roles : headerRoles scenario.withoutItems.gold = headerRoles scenario.gold := by
    unfold headerRoles field
    rw [Scenario.get?_withoutItems (by decide) (by decide)]
  have checks : tableSemanticChecks scenario.withoutItems.gold unit.evidence unit.patch =
      tableSemanticChecks scenario.gold unit.evidence unit.patch := by
    unfold tableSemanticChecks
    rw [roles]
  unfold unitFailures
  dsimp only
  rw [checks]

end

/-- The nodes of the gold that name an object of the source. -/
def nodesOf (gold : Json) : List Json := listAt (processOf gold) "nodes"

/-- A unit has none of the texts and elements that the items of the gold are about. -/
structure LacksAnchors [Unicode] [Compatibility] [Printing] (scenario : Scenario)
    (evidence : EvidenceIR) : Prop where
  modality : expectsModality scenario.gold = true → hintedRegions scenario.gold evidence = []
  chart : (chartOf scenario.gold).truthy = true → chartElements evidence = []
  nodes : ∀ node ∈ nodesOf scenario.gold, isAnchored node = true →
    candidates evidence (sourceTextOf node) = []
  assertions : ∀ assertions, assertionsForScenario scenario = .ok assertions →
    ∀ assertion ∈ assertions, assertionSourceCandidates assertion evidence = []

section
variable [Printing] {evidence : EvidenceIR} {gold : Json} {nodes relations : List Json}
  {binding : GoldBinding}

/-- Nodes without candidates are bound to nothing, and each of them is a failure. -/
theorem foldl_bindNode (absent : ∀ node ∈ nodes, isAnchored node = true →
      candidates evidence (sourceTextOf node) = []) :
    (nodes.foldl (bindNode evidence) binding).bindings = binding.bindings ∧
      ((nodes.foldl (bindNode evidence) binding).failures = [] ↔
        binding.failures = [] ∧ ∀ node ∈ nodes, isAnchored node = false) := by
  induction nodes generalizing binding with
  | nil => simp
  | cons node nodes ih =>
    have later := fun other listed => absent other (mem_cons_of_mem _ listed)
    rw [foldl_cons, forall_mem_cons]
    cases anchored : isAnchored node with
    | false =>
      have same : bindNode evidence binding node = binding := by
        unfold bindNode
        rw [anchored]
        rfl
      rw [same]
      simpa using ih later
    | true =>
      have failed : bindNode evidence binding node =
          binding.fail (bindingFailure (roleOf node) 0) := by
        unfold bindNode
        rw [anchored, absent node mem_cons_self anchored]
        rfl
      rw [failed]
      have rest := @ih (binding.fail (bindingFailure (roleOf node) 0)) later
      exact ⟨rest.1, rest.2.trans (by simp)⟩

/-- A unit without the chart and the nodes binds nothing. -/
theorem bindGoldRoles_lacking (chart : (chartOf gold).truthy = true → chartElements evidence = [])
    (absent : ∀ node ∈ nodesOf gold, isAnchored node = true →
      candidates evidence (sourceTextOf node) = []) :
    (bindGoldRoles gold evidence).bindings = [] ∧
      ((bindGoldRoles gold evidence).failures = [] ↔
        (chartOf gold).truthy = false ∧ ∀ node ∈ nodesOf gold, isAnchored node = false) := by
  have bound : (bindNodes gold evidence).bindings = [] ∧
      ((bindNodes gold evidence).failures = [] ↔
        ([] : List String) = [] ∧ ∀ node ∈ nodesOf gold, isAnchored node = false) :=
    foldl_bindNode absent
  obtain ⟨kept, failures⟩ := bound
  unfold bindGoldRoles
  dsimp only
  cases drawn : (chartOf gold).truthy with
  | false => simpa [kept] using failures
  | true =>
    have missing : ((bindNodes gold evidence).get? (chartIdOf (chartOf gold))).isNone = true := by
      unfold GoldBinding.get?
      rw [kept]
      rfl
    simp [bindChart, chart drawn, missing, kept]

variable {patch : Json} {state : List BoundRelation × GoldBinding}

/-- A relation without bound ends leaves a failure. -/
theorem bindRelation_failures {relation : Json}
    (kept : state.2.failures ≠ [] ∨ state.2.bindings = []) :
    (bindRelation state relation).2.failures ≠ [] := by
  unfold bindRelation
  dsimp only
  split
  · split
    · rename_i known
      intro none
      rw [none] at known
      cases known
    · simp
  · rename_i bound
    rcases kept with failed | empty
    · exact failed
    · have unbound : state.2.get? (str (relation.field "from")) = none := by
        unfold GoldBinding.get?
        rw [empty]
        rfl
      simp [unbound] at bound

theorem foldl_bindRelation_failures (failed : state.2.failures ≠ []) :
    (relations.foldl bindRelation state).2.failures ≠ [] := by
  induction relations generalizing state with
  | nil => exact failed
  | cons relation relations ih => exact ih (bindRelation_failures (Or.inl failed))

/-- A unit without bindings has no relation of the gold. -/
theorem foldl_bindRelation_lacking (empty : state.2.bindings = []) :
    (relations.foldl bindRelation state).2.failures = [] ↔
      state.2.failures = [] ∧ relations = [] := by
  cases relations with
  | nil => simp
  | cons relation relations =>
    have failed : (relations.foldl bindRelation (bindRelation state relation)).2.failures ≠ [] :=
      foldl_bindRelation_failures (bindRelation_failures (Or.inr empty))
    rw [foldl_cons]
    exact ⟨fun none => absurd none failed, fun none => nomatch none.2⟩

/-- The gold names no node, no relation and no chart. -/
structure NamesNoVisual (gold : Json) : Prop where
  chart : (chartOf gold).truthy = false
  nodes : ∀ node ∈ nodesOf gold, isAnchored node = false
  relations : relationsOf gold = []

theorem processRelationScore_silent (silent : NamesNoVisual gold)
    (chart : (chartOf gold).truthy = true → chartElements evidence = [])
    (absent : ∀ node ∈ nodesOf gold, isAnchored node = true →
      candidates evidence (sourceTextOf node) = []) :
    processRelationScore gold evidence patch = ⟨1, []⟩ := by
  have unfailed := (bindGoldRoles_lacking chart absent).2.mpr ⟨silent.chart, silent.nodes⟩
  unfold processRelationScore bindProcessRelations
  simp [silent.relations, unfailed]

/-- A unit without the visual items of the gold passes only when there are none. -/
theorem processRelationScore_lacking
    (chart : (chartOf gold).truthy = true → chartElements evidence = [])
    (absent : ∀ node ∈ nodesOf gold, isAnchored node = true →
      candidates evidence (sourceTextOf node) = []) :
    (processRelationScore gold evidence patch).failures = [] ↔ NamesNoVisual gold := by
  constructor
  · intro passed
    obtain ⟨empty, failures⟩ := bindGoldRoles_lacking chart absent
    have bound : (bindProcessRelations gold evidence).2.failures = [] := by
      by_contra failed
      unfold processRelationScore at passed
      simp [failed] at passed
    have unrelated := (foldl_bindRelation_lacking empty).mp bound
    obtain ⟨drawn, nodes⟩ := failures.mp unrelated.1
    exact ⟨drawn, nodes, unrelated.2⟩
  · intro silent
    rw [processRelationScore_silent silent chart absent]

end

/-- Without a region that has the hint, only an unchecked modality passes. -/
theorem modalityScore_lacking [Printing] {gold : Json} {evidence : EvidenceIR}
    {regions : List (String × Json)}
    (absent : expectsModality gold = true → hintedRegions gold evidence = []) :
    (modalityScore gold evidence regions).isUnbound = expectsModality gold ∧
      ((modalityScore gold evidence regions).score < 1 ↔ expectsModality gold = true) := by
  unfold modalityScore
  cases expected : expectsModality gold with
  | false => exact ⟨rfl, by simp [ModalityDetail.score]⟩
  | true =>
    have less : (0 : ℚ) < 1 := by decide
    simp [absent expected, ModalityDetail.isUnbound, ModalityDetail.score, less]

section
variable [Unicode] [Compatibility] [Printing] {scenario : Scenario} {unit : ScoredUnit}

/-- The first claim of the expected kind cites the unit and has an accepted phrase. -/
def MeetsClaim (unit : ScoredUnit) (expected : Json) : Prop :=
  ∃ claim, claimOf (listAt unit.patch "executive_claims") expected = some claim ∧
    isSupported (claimEvidenceIds unit.evidence) claim = true ∧ namesPhrase expected claim = true

theorem claimFailuresOf_eq_nil {known claims : List Json} {expected : Json} :
    claimFailuresOf known claims expected = [] ↔ ∃ claim, claimOf claims expected = some claim ∧
      isSupported known claim = true ∧ namesPhrase expected claim = true := by
  unfold claimFailuresOf
  cases found : claimOf claims expected with
  | none => simp
  | some claim =>
    cases isSupported known claim <;> cases namesPhrase expected claim <;> simp

theorem claimFailures_eq_nil {gold : Json} :
    claimFailures gold unit.evidence unit.patch = [] ↔
      ∀ expected ∈ goldClaims gold, MeetsClaim unit expected := by
  unfold claimFailures MeetsClaim
  rw [flatMap_eq_nil_iff]
  simp only [claimFailuresOf_eq_nil]

variable [Sha256]

theorem observations_lacking {assertions : List Assertion} {evidence : EvidenceIR} {patch : Json}
    (lacks : LacksAnchors scenario evidence)
    (approved : assertionsForScenario scenario = .ok assertions) :
    noncriticalSemanticObservations scenario evidence patch = ⟨[], false⟩ := by
  have absent := lacks.assertions assertions approved
  have unseen : assertions.filterMap (observeAssertion scenario.gold patch evidence) = [] := by
    rw [filterMap_eq_nil_iff]
    intro assertion listed
    unfold observeAssertion
    rw [absent assertion listed]
  have clear : assertions.any (isAmbiguous evidence) = false := by
    rw [any_eq_false]
    intro assertion listed
    unfold isAmbiguous
    rw [absent assertion listed]
    decide
  unfold noncriticalSemanticObservations
  rw [approved]
  dsimp only
  rw [unseen, clear]
  rfl

/-- The gold has no item that a unit without its anchors fails. -/
structure NamesNoLocal (gold : Json) : Prop extends NamesNoVisual gold where
  modality : expectsModality gold = false

theorem itemFailures_lacking {assertions : List Assertion}
    (lacks : LacksAnchors scenario unit.evidence)
    (approved : assertionsForScenario scenario = .ok assertions) :
    itemFailures scenario unit = [] ↔ NamesNoLocal scenario.gold ∧
      ∀ expected ∈ goldClaims scenario.gold, MeetsClaim unit expected := by
  have modality := @modalityScore_lacking _ _ _ (patchRegions unit.patch) lacks.modality
  have process := @processRelationScore_lacking _ _ _ unit.patch lacks.chart lacks.nodes
  unfold itemFailures
  dsimp only
  rw [observations_lacking lacks approved]
  simp only [append_eq_nil_iff, when_eq_nil, decide_eq_false_iff_not, modality.1, modality.2,
    process, claimFailures_eq_nil]
  constructor
  · rintro ⟨⟨⟨⟨⟨⟨claims, _⟩, unexpected⟩, _⟩, silent⟩, _⟩, _⟩
    exact ⟨⟨silent, unexpected⟩, claims⟩
  · rintro ⟨⟨silent, unexpected⟩, claims⟩
    have charts : chartFailures scenario.gold unit.evidence unit.patch = [] := by
      unfold chartFailures
      simp [silent.chart]
    rw [processRelationScore_silent silent lacks.chart lacks.nodes]
    simpa [unexpected, charts, silent] using claims

end

end Scoring
end KSlide
