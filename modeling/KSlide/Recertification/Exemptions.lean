import KSlide.Recertification.Impact

/-
This file proves which evidence a change of the candidate affects.
-/

namespace KSlide
open List

theorem Candidate.mem_put {table : List (String × Json)} {key : String} {value : Json}
    {entry : String × Json} (listed : entry ∈ Candidate.put table key value) :
    entry.1 = key ∨ entry ∈ table := by
  unfold Candidate.put at listed
  split at listed
  · obtain ⟨other, known, same⟩ := mem_map.mp listed
    by_cases here : other.1 = key
    · left
      rw [if_pos here] at same
      rw [← same]
    · right
      rw [if_neg here] at same
      rw [← same]
      exact known
  · rcases mem_append.mp listed with earlier | last
    · right
      exact earlier
    · left
      rw [mem_singleton.mp last]

theorem mem_sortedNames {names : List String} {name : String} :
    name ∈ sortedNames names ↔ name ∈ names := by
  unfold sortedNames
  rw [mem_insertionSort, mem_dedup]

namespace CandidateReading
variable {reading : CandidateReading}

variable {candidate : Json} {factors : List (String × Json)}

theorem factors_inputs
    (found : reading.canonicalFactors candidate = .ok factors) {entry : String × Json}
    (listed : entry ∈ factors) : entry.1 ∈ Candidate.inputFields := by
  unfold canonicalFactors at found
  simp only [bind_ok, pure_ok] at found
  obtain ⟨normalized, _, same⟩ := found
  rw [← same] at listed
  rcases Candidate.mem_put listed with version | earlier
  · rw [version]
    decide
  · rcases Candidate.mem_put earlier with assets | named
    · rw [assets]
      decide
    · obtain ⟨key, known, found⟩ := mem_filterMap.mp named
      obtain ⟨value, _, same⟩ := Option.map_eq_some_iff.mp found
      rw [← same]
      exact (mem_filter.mp known).1

theorem factorsForImpact_inputs
    (found : reading.factorsForImpact candidate = .ok factors) {entry : String × Json}
    (listed : entry ∈ factors) : entry.1 ∈ Candidate.inputFields := by
  unfold factorsForImpact at found
  simp only [bind_ok] at found
  obtain ⟨_, _, normalized, _, canonical⟩ := found
  exact factors_inputs canonical listed

end CandidateReading

/-- The governance evidence depends on every input field. -/
theorem inputs_mapped {name : String} (listed : name ∈ Candidate.inputFields) :
    name ∈ EvidenceType.mapped :=
  mem_flatMap.mpr ⟨.governance, Text.Enumeration.complete EvidenceType.governance, listed⟩

theorem unknownNames_eq_nil {changed : List String}
    (inputs : ∀ name ∈ changed, name ∈ Candidate.inputFields) : unknownNames changed = [] := by
  have none : changed.filter (· ∉ EvidenceType.mapped) = [] := by
    rw [filter_eq_nil_iff]
    intro name listed
    simpa using inputs_mapped (inputs name listed)
  unfold unknownNames
  rw [none]
  rfl

theorem changedNames_inputs {old new : List (String × Json)}
    (oldInputs : ∀ entry ∈ old, entry.1 ∈ Candidate.inputFields)
    (newInputs : ∀ entry ∈ new, entry.1 ∈ Candidate.inputFields) :
    ∀ name ∈ changedNames old new, name ∈ Candidate.inputFields := by
  intro name listed
  have known := mem_sortedNames.mp (mem_filter.mp listed).1
  rcases mem_append.mp known with here | there
  · obtain ⟨entry, present, same⟩ := mem_map.mp here
    rw [← same]
    exact oldInputs entry present
  · obtain ⟨entry, present, same⟩ := mem_map.mp there
    rw [← same]
    exact newInputs entry present

theorem mem_affectedTypes {changed : List String} (known : unknownNames changed = [])
    {type : EvidenceType} : (affectedTypes changed).any (·.1 == type) = true ↔
      ∃ name ∈ changed, name ∈ type.dependencyFields := by
  have relevant (other : EvidenceType) : (relevantNames changed other).isEmpty = false ↔
      ∃ name ∈ changed, name ∈ other.dependencyFields := by
    unfold relevantNames
    rw [known, List.append_nil, ← Bool.not_eq_true, List.isEmpty_iff,
      eq_nil_iff_forall_not_mem]
    simp [mem_sortedNames]
  rw [← relevant type, any_eq_true]
  unfold affectedTypes
  constructor
  · intro present
    obtain ⟨entry, listed, same⟩ := present
    obtain ⟨mapped, occupied⟩ := mem_filter.mp listed
    obtain ⟨other, _, here⟩ := mem_map.mp mapped
    rw [← here] at same occupied
    rw [← eq_of_beq same]
    simpa using occupied
  · intro occupied
    use (type, relevantNames changed type)
    rw [mem_filter]
    constructor
    · constructor
      · exact mem_map_of_mem (Text.Enumeration.complete type)
      · rw [occupied]
        rfl
    · exact beq_self_eq_true type

/-- The dimension is a dependency of the governance evidence only. -/
def GovernanceOnly (dimension : String) : Prop :=
  dimension ∈ Candidate.inputFields ∧
    ∀ type, type ≠ EvidenceType.governance → dimension ∉ type.dependencyFields

/-- Three input fields serve no evidence but the governance evidence. -/
theorem governanceOnly_iff {dimension : String} : GovernanceOnly dimension ↔
    dimension ∈ ["ocr_asset_manifest", "termbase_governance", "resource_budget"] := by
  have each : ∀ name ∈ Candidate.inputFields,
      (∀ type ∈ EvidenceType.all, type ≠ .governance → name ∉ type.dependencyFields) ↔
        name ∈ ["ocr_asset_manifest", "termbase_governance", "resource_budget"] := by
    decide +kernel
  have inputs : ∀ name ∈ ["ocr_asset_manifest", "termbase_governance", "resource_budget"],
      name ∈ Candidate.inputFields := by
    decide
  constructor
  · intro only
    exact (each dimension only.1).mp fun type _ => only.2 type
  · intro listed
    use inputs dimension listed
    intro type
    exact (each dimension (inputs dimension listed)).mpr listed type (Text.Enumeration.complete type)

section
variable [Sha256] {reading : CandidateReading} {old new : Json} {impact : ChangeImpact}

theorem candidateChangeImpact_known
    (found : reading.candidateChangeImpact old new = .ok impact) :
    impact.unknownDimensions = [] ∧ ∀ type, impact.affects type = true ↔
      ∃ name ∈ impact.changedDimensions, name ∈ type.dependencyFields := by
  unfold CandidateReading.candidateChangeImpact at found
  simp only [bind_ok, pure_ok] at found
  obtain ⟨oldFactors, one, newFactors, two, _, _, _, _, same⟩ := found
  have inputs := changedNames_inputs (fun _ => CandidateReading.factorsForImpact_inputs one)
    (fun _ => CandidateReading.factorsForImpact_inputs two)
  have known := unknownNames_eq_nil inputs
  rw [← same]
  use known
  intro type
  exact mem_affectedTypes known

/-- The normal forms of the candidates differ in the dimension. -/
def DifferIn (reading : CandidateReading) (old new : Json) (dimension : String) : Prop :=
  ∃ first second, reading.normalize true old = .ok first ∧ reading.normalize true new = .ok second ∧
    ((first.lookup dimension).getD .null).equal ((second.lookup dimension).getD .null) = false

/-- The change affects all evidence through an unknown dimension, and nothing is exempted. -/
structure FailsClosed (reading : CandidateReading) (old new : Json) (dimension : String) : Prop where
  reported : ∃ impact, reading.candidateChangeImpact old new = .ok impact ∧
    dimension ∈ impact.unknownDimensions ∧ ∀ type, impact.affects type = true
  exempts : ∀ evidence prior types manifest record,
    reading.buildRecertificationRecord evidence old new prior types manifest = .ok record →
      record.1.exemptions = []

/-- A dimension that only the governance evidence depends on never fails closed. -/
theorem failsClosed_never (reading : CandidateReading) (old new : Json) (dimension : String) :
    ¬ FailsClosed reading old new dimension := by
  intro closed
  obtain ⟨impact, found, unknown, _⟩ := closed.reported
  rw [(candidateChangeImpact_known found).1] at unknown
  exact not_mem_nil unknown

end

section
attribute [local instance] Sha256.polynomial

def sampleReading : CandidateReading where
  text _ := ""
  table _ := .error (.other "TypeError")
  behaviorOrder := Candidate.behaviorFields ++ (Candidate.behaviorAliases.map Prod.fst).filter
    (· ∉ Candidate.behaviorFields)
  complete := .refl _
  retention := .ok
  model := .ok
  dataUse value := .ok (.null, value)
  corpus := .ok

def sampleEvidence : EvidenceReading where
  validateOld _ record _ := .ok record
  validatePayload _ _ := .ok ()

def budgeted (seconds : Int) : Json :=
  .obj [("resource_budget", .obj [("deadline_seconds", .int seconds)])]

def sampleManifest : Json :=
  .str "6b86b273ff34fce19d6b804eff5a3f5747ada4eaa22f1d49c01e52ddb7875b4b"

theorem budgeted_builds : (sampleReading.buildRecertificationRecord sampleEvidence (budgeted 60)
    (budgeted 90) (fun _ => .obj []) ["security"] sampleManifest).map
      (fun record => record.1.exemptions.map (·.evidenceType)) = .ok [.security] := by
  decide +kernel

theorem budgeted_differ :
    DifferIn sampleReading (budgeted 60) (budgeted 90) "resource_budget" := by
  have normal (seconds : Int) : sampleReading.normalize true (budgeted seconds) =
      .ok [("resource_budget", .obj [("deadline_seconds", .int seconds)]),
        ("behavior_configuration", .obj [])] := by
    rfl
  exact ⟨_, _, normal 60, normal 90, by decide⟩

/-- A changed resource budget leaves the security evidence exempted. -/
theorem budget_exempts : GovernanceOnly "resource_budget" ∧
    DifferIn sampleReading (budgeted 60) (budgeted 90) "resource_budget" ∧
      ¬ FailsClosed sampleReading (budgeted 60) (budgeted 90) "resource_budget" := by
  use governanceOnly_iff.mpr (by decide)
  use budgeted_differ
  intro closed
  have built := budgeted_builds
  cases found : sampleReading.buildRecertificationRecord sampleEvidence (budgeted 60)
      (budgeted 90) (fun _ => .obj []) ["security"] sampleManifest with
  | error raised =>
    rw [found] at built
    cases built
  | ok record =>
    rw [found] at built
    have types := Except.ok.inj built
    dsimp only at types
    rw [closed.exempts _ _ _ _ record found] at types
    cases types

end
end KSlide
