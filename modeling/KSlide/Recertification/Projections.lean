import KSlide.Recertification.Exemptions

/-
This file proves when evidence is carried to a candidate with the same dependency projection.
-/

namespace Json

theorem equalFields_get? {first second : List (String × Json)}
    (same : equalFields first second = true) (name : String) :
    ((Json.obj first).field name).equal ((Json.obj second).field name) = true := by
  induction first generalizing second with
  | nil =>
    cases second with
    | nil => exact equal_self _
    | cons entry second => cases same
  | cons entry first ih =>
    cases second with
    | nil => cases same
    | cons other second =>
      rw [equalFields, Bool.and_eq_true, Bool.and_eq_true, beq_iff_eq] at same
      obtain ⟨⟨key, value⟩, rest⟩ := same
      have later := ih rest
      show ((List.lookup name (entry :: first)).getD .null).equal
        ((List.lookup name (other :: second)).getD .null) = true
      rw [List.lookup_cons, List.lookup_cons, ← key]
      by_cases here : name = entry.1
      · rw [here, beq_self_eq_true]
        exact value
      · rw [beq_false_of_ne here]
        exact later

theorem equal_field {first second : Json} (object : second.isObject = true)
    (same : first.equal second = true) (name : String) :
    (first.field name).equal (second.field name) = true := by
  cases second with
  | obj second =>
    cases first with
    | obj first =>
      rw [equal] at same
      exact equalFields_get? same name
    | int value =>
      rw [equal] at same
      cases same
    | _ => cases same
  | _ => cases object

theorem equal_str {value : Json} {text : String} (same : value.equal (.str text) = true) :
    value = .str text := by
  cases value with
  | str found =>
    rw [equal, beq_iff_eq] at same
    rw [same]
  | int number =>
    rw [equal] at same
    cases same
  | _ => cases same

theorem get?_obj_iff {fields : List (String × Json)} (distinct : (fields.map Prod.fst).Nodup)
    {name : String} {value : Json} :
    fields.lookup name = some value ↔ (name, value) ∈ fields :=
  ⟨get?_eq_some_mem, get?_of_mem distinct⟩

end Json

namespace KSlide.CandidateReading
open List

section
variable {first second : List (String × Json)}

theorem lookup_sorted (distinct : (first.map Prod.fst).Nodup) (name : String) :
    (sortedObject first).get? name = first.lookup name := by
  have perm := perm_insertionSort (fun one other : String × Json => one.1 ≤ other.1) first
  have sorted := (perm.map Prod.fst).nodup_iff.mpr distinct
  ext value
  show (List.insertionSort _ first).lookup name = some value ↔ _
  rw [Json.get?_obj_iff sorted, Json.get?_obj_iff distinct, perm.mem_iff]

/-- Two tables with the same value at every name have one sorted form. -/
theorem sortedObject_inj (distinct : (first.map Prod.fst).Nodup)
    (alsoDistinct : (second.map Prod.fst).Nodup) :
    sortedObject first = sortedObject second ↔ ∀ name, first.lookup name = second.lookup name := by
  constructor
  · intro same name
    rw [← lookup_sorted distinct, same, lookup_sorted alsoDistinct]
  · intro same
    let before (one other : String × Json) : Prop := one.1 ≤ other.1
    have perm : first.Perm second := by
      rw [perm_ext_iff_of_nodup distinct.of_map alsoDistinct.of_map]
      intro entry
      rw [← Json.get?_obj_iff distinct, ← Json.get?_obj_iff alsoDistinct, same]
    have sorted (table : List (String × Json)) :
        (table.insertionSort fun one other => one.1 ≤ other.1).Pairwise before := by
      have total : Std.Total before := ⟨fun one other => le_total one.1 other.1⟩
      have transitive : IsTrans (String × Json) before := ⟨fun _ _ _ one other => le_trans one other⟩
      exact pairwise_insertionSort before table
    have listed (table : List (String × Json)) :=
      perm_insertionSort (fun one other : String × Json => one.1 ≤ other.1) table
    unfold sortedObject
    rw [Json.obj.injEq]
    apply List.Perm.eq_of_pairwise _ (sorted first) (sorted second)
      ((listed first).trans (perm.trans (listed second).symm))
    intro one other present known below above
    have key : one.1 = other.1 := le_antisymm below above
    have here := (listed first).mem_iff.mp present
    have there := perm.mem_iff.mpr ((listed second).mem_iff.mp known)
    have value := (Json.get?_obj_iff distinct).mpr (show (other.1, other.2) ∈ first from there)
    rw [← key, (Json.get?_obj_iff distinct).mpr (show (one.1, one.2) ∈ first from here)] at value
    exact Prod.ext key (Option.some.inj value)

theorem lookup_filter {table : List (String × Json)} (kept : String → Bool) (name : String) :
    (table.filter fun entry => kept entry.1).lookup name =
      if kept name then table.lookup name else none := by
  induction table with
  | nil => simp
  | cons entry table ih =>
    rw [filter_cons]
    by_cases same : name = entry.1
    · by_cases here : kept name = true
      · rw [← same, if_pos here, if_pos here, lookup_cons, lookup_cons, ← same,
          beq_self_eq_true]
      · rw [← same, if_neg here, ih, if_neg here, if_neg here]
    · have apart : (name == entry.1) = false := beq_false_of_ne same
      rw [lookup_cons, apart, ← ih]
      by_cases here : kept entry.1 = true
      · rw [if_pos here, lookup_cons, apart]
      · rw [if_neg here]

/-- The table keeps one value for each name. -/
theorem put_nodup {table : List (String × Json)} {key : String} {value : Json}
    (distinct : (table.map Prod.fst).Nodup) :
    ((Candidate.put table key value).map Prod.fst).Nodup := by
  unfold Candidate.put
  split
  · have names : (table.map fun entry => if entry.1 = key then (key, value) else entry).map
        Prod.fst = table.map Prod.fst := by
      rw [map_map]
      apply map_congr_left
      intro entry _
      by_cases here : entry.1 = key
      · simp [here]
      · simp [here]
    rw [names]
    exact distinct
  · rename_i absent
    rw [map_append, nodup_append]
    use distinct, nodup_singleton key
    intro name known other listed same
    obtain ⟨entry, present, here⟩ := mem_map.mp known
    have named : other = key := mem_singleton.mp listed
    rw [← named, ← same, ← here] at absent
    exact absent (any_eq_true.mpr ⟨entry, present, beq_self_eq_true _⟩)

end

variable {reading : CandidateReading} {candidate : Json} {factors : List (String × Json)}

theorem factors_nodup (found : reading.canonicalFactors candidate = .ok factors) :
    (factors.map Prod.fst).Nodup := by
  have fields : Candidate.inputFields.Nodup := by decide
  unfold canonicalFactors at found
  simp only [bind_ok, pure_ok] at found
  obtain ⟨normalized, _, same⟩ := found
  rw [← same]
  apply put_nodup
  apply put_nodup
  rw [map_filterMap]
  apply (fields.filter _).filterMap
  intro first second name one other
  simp only [Option.map_map, Option.mem_def, Option.map_eq_some_iff] at one other
  obtain ⟨_, _, here⟩ := one
  obtain ⟨_, _, there⟩ := other
  exact here.trans there.symm

theorem factorsForImpact_ok : reading.factorsForImpact candidate = .ok factors ↔
    candidate.isObject = true ∧ ∃ normalized, reading.normalize true candidate = .ok normalized ∧
      reading.canonicalFactors (.obj normalized) = .ok factors := by
  unfold factorsForImpact
  simp only [bind_ok, require_ok, exists_const]

/-- The factors under the fingerprint are there when the compared factors are there. -/
theorem hashed_factors (found : reading.factorsForImpact candidate = .ok factors) :
    ∃ hashed, reading.canonicalFactors candidate = .ok hashed := by
  obtain ⟨_, normalized, normal, _⟩ := factorsForImpact_ok.mp found
  unfold canonicalFactors
  rw [normal]
  exact ⟨_, rfl⟩

end KSlide.CandidateReading

namespace KSlide
open List

/-- Python compares two factors, and a missing factor is null. -/
def sameFactor (old new : List (String × Json)) (name : String) : Bool :=
  ((old.lookup name).getD .null).equal ((new.lookup name).getD .null)

theorem mem_changedNames {old new : List (String × Json)} {name : String} :
    name ∈ changedNames old new ↔ sameFactor old new name = false := by
  unfold changedNames
  rw [mem_filter, mem_sortedNames, Bool.not_eq_true']
  constructor
  · intro parts
    exact parts.2
  · intro different
    use (?_ : name ∈ old.map Prod.fst ++ new.map Prod.fst), different
    by_contra absent
    rw [mem_append, not_or] at absent
    have missing {table : List (String × Json)} (apart : name ∉ table.map Prod.fst) :
        table.lookup name = none := by
      rw [lookup_eq_none_iff]
      intro entry listed
      rw [bne_iff_ne]
      intro same
      rw [same] at apart
      exact apart (mem_map_of_mem listed)
    unfold sameFactor at different
    rw [missing absent.1, missing absent.2, Json.equal_self] at different
    cases different

section
variable [Sha256] {reading : CandidateReading} {old new : Json} {impact : ChangeImpact}
  {oldFactors newFactors : List (String × Json)}

/-- The impact compares one form of the factors and the fingerprints cover another. -/
theorem candidateChangeImpact_ok : reading.candidateChangeImpact old new = .ok impact ↔
    ∃ oldFactors newFactors oldHashed newHashed,
      reading.factorsForImpact old = .ok oldFactors ∧
      reading.factorsForImpact new = .ok newFactors ∧
      reading.canonicalFactors old = .ok oldHashed ∧
      reading.canonicalFactors new = .ok newHashed ∧
      impact = ⟨changeImpactPolicyIdentity, old.field "subject_git_sha",
        stableRevision (CandidateReading.sortedObject oldHashed), new.field "subject_git_sha",
        stableRevision (CandidateReading.sortedObject newHashed),
        changedNames oldFactors newFactors, unknownNames (changedNames oldFactors newFactors),
        affectedTypes (changedNames oldFactors newFactors),
        stableRevision (CandidateReading.sortedObject oldHashed) !=
          stableRevision (CandidateReading.sortedObject newHashed)⟩ := by
  unfold CandidateReading.candidateChangeImpact CandidateReading.deploymentFingerprint
  simp only [bind_ok, pure_ok]
  constructor
  · intro parts
    obtain ⟨first, one, second, other, _, ⟨hashed, three, here⟩, _, ⟨others, four, there⟩, same⟩ :=
      parts
    use first, second, hashed, others, one, other, three, four
    rw [← same, here, there]
  · intro parts
    obtain ⟨first, second, hashed, others, one, other, three, four, same⟩ := parts
    exact ⟨first, one, second, other, _, ⟨hashed, three, rfl⟩, _, ⟨others, four, rfl⟩, same.symm⟩

/-- The projections agree when the candidates have the same factors there. -/
theorem dependencyProjection_inj (one : reading.factorsForImpact old = .ok oldFactors)
    (other : reading.factorsForImpact new = .ok newFactors) {type : EvidenceType} :
    reading.dependencyProjection old type = reading.dependencyProjection new type ↔
      ∀ name ∈ type.dependencyFields, oldFactors.lookup name = newFactors.lookup name := by
  have mapped {candidate : Json} {factors : List (String × Json)}
      (found : reading.factorsForImpact candidate = .ok factors) :
      factors.filter (·.1 ∉ EvidenceType.mapped) = [] := by
    rw [filter_eq_nil_iff]
    intro entry listed
    simpa using inputs_mapped (CandidateReading.factorsForImpact_inputs found listed)
  have distinct {candidate : Json} {factors : List (String × Json)}
      (found : reading.factorsForImpact candidate = .ok factors) :
      ((factors.filter (·.1 ∈ type.dependencyFields)).map Prod.fst).Nodup := by
    obtain ⟨_, _, _, canonical⟩ := CandidateReading.factorsForImpact_ok.mp found
    exact (CandidateReading.factors_nodup canonical).sublist (filter_sublist.map _)
  have same := CandidateReading.sortedObject_inj (distinct one) (distinct other)
  unfold CandidateReading.dependencyProjection
  rw [one, other]
  show Except.ok (Json.obj _) = Except.ok (Json.obj _) ↔ _
  rw [mapped one, mapped other]
  simp only [Except.ok.injEq, Json.obj.injEq, List.cons.injEq, Prod.mk.injEq, true_and, and_true]
  rw [same]
  simp only [CandidateReading.lookup_filter fun name => decide (name ∈ type.dependencyFields),
    decide_eq_true_eq]
  constructor
  · intro agree name listed
    have here := agree name
    rw [if_pos listed, if_pos listed] at here
    exact here
  · intro agree name
    by_cases listed : name ∈ type.dependencyFields
    · rw [if_pos listed, if_pos listed]
      exact agree name listed
    · rw [if_neg listed, if_neg listed]

/-- The stored exemption names one projection for both candidates. -/
def SameProjection (exemption : Json) : Prop :=
  exemption.field "old_dependency_projection_identity" =
    exemption.field "new_dependency_projection_identity"

def exemptionItems (record : Json) : List Json :=
  match record.field "exemptions" with
  | .arr exemptions => exemptions
  | _ => []

/-- Evidence is only carried along unchanged projections, and no change is overlooked. -/
structure ProjectionKept (reading : CandidateReading) (old new : Json) : Prop where
  built : ∀ evidence prior types manifest record,
    reading.buildRecertificationRecord evidence old new prior types manifest = .ok record →
      ∀ exemption ∈ record.1.exemptions, SameProjection exemption.asDict
  validated : ∀ evidence record prior manifest accepted,
    reading.validateRecertificationRecord evidence record new prior manifest = .ok accepted →
      record.field "old_candidate_spec" = old →
        ∀ exemption ∈ exemptionItems record, SameProjection exemption
  unaffected : ∀ impact, reading.candidateChangeImpact old new = .ok impact →
    ∀ type, impact.affects type = false ↔
      reading.dependencyProjection old type = reading.dependencyProjection new type
  reported : ∀ impact, reading.candidateChangeImpact old new = .ok impact →
    impact.oldDeploymentFingerprint ≠ impact.newDeploymentFingerprint →
      impact.changedDimensions ≠ []

/-- Factors that Python cannot tell apart are the same JSON values. -/
structure NoTwins (reading : CandidateReading) (old new : Json) : Prop where
  compared : ∀ oldFactors newFactors, reading.factorsForImpact old = .ok oldFactors →
    reading.factorsForImpact new = .ok newFactors → ∀ type : EvidenceType,
      (∀ name ∈ type.dependencyFields, sameFactor oldFactors newFactors name = true) →
        ∀ name ∈ type.dependencyFields, oldFactors.lookup name = newFactors.lookup name
  hashed : ∀ oldFactors newFactors oldHashed newHashed,
    reading.factorsForImpact old = .ok oldFactors →
    reading.factorsForImpact new = .ok newFactors →
    reading.canonicalFactors old = .ok oldHashed → reading.canonicalFactors new = .ok newHashed →
      (∀ name, sameFactor oldFactors newFactors name = true) →
        CandidateReading.sortedObject oldHashed = CandidateReading.sortedObject newHashed

/-- A type is not affected when Python cannot tell its dimensions apart. -/
theorem not_affects_iff (found : reading.candidateChangeImpact old new = .ok impact)
    (one : reading.factorsForImpact old = .ok oldFactors)
    (other : reading.factorsForImpact new = .ok newFactors) {type : EvidenceType} :
    impact.affects type = false ↔
      ∀ name ∈ type.dependencyFields, sameFactor oldFactors newFactors name = true := by
  have affected := (candidateChangeImpact_known found).2 type
  obtain ⟨first, second, _, _, here, there, _, _, same⟩ := candidateChangeImpact_ok.mp found
  rw [one, Except.ok.injEq] at here
  rw [other, Except.ok.injEq] at there
  rw [same, ← here, ← there] at affected
  rw [← Bool.not_eq_true, same, ← here, ← there, affected]
  simp only [mem_changedNames, not_exists, not_and]
  constructor
  · intro none name listed
    by_contra different
    exact none name (Bool.eq_false_iff.mpr different) listed
  · intro each name different listed
    rw [each name listed] at different
    cases different

theorem changedDimensions_nil (found : reading.candidateChangeImpact old new = .ok impact)
    (one : reading.factorsForImpact old = .ok oldFactors)
    (other : reading.factorsForImpact new = .ok newFactors) :
    impact.changedDimensions = [] ↔ ∀ name, sameFactor oldFactors newFactors name = true := by
  obtain ⟨first, second, _, _, here, there, _, _, same⟩ := candidateChangeImpact_ok.mp found
  rw [one, Except.ok.injEq] at here
  rw [other, Except.ok.injEq] at there
  rw [same, ← here, ← there, eq_nil_iff_forall_not_mem]
  simp only [mem_changedNames, Bool.not_eq_false]

theorem candidateChangeImpact_found (one : reading.factorsForImpact old = .ok oldFactors)
    (other : reading.factorsForImpact new = .ok newFactors) :
    ∃ impact, reading.candidateChangeImpact old new = .ok impact := by
  obtain ⟨hashed, here⟩ := CandidateReading.hashed_factors one
  obtain ⟨others, there⟩ := CandidateReading.hashed_factors other
  exact ⟨_, candidateChangeImpact_ok.mpr ⟨_, _, _, _, one, other, here, there, rfl⟩⟩

theorem makeExemption_same (kept : ∀ type, impact.affects type = false →
      reading.dependencyProjection old type = reading.dependencyProjection new type)
    {type : EvidenceType} {evidence : Json} {exemption : Exemption}
    (made : reading.makeExemption type evidence impact old new = .ok exemption) :
    ∃ identity, exemption.asDict.field "old_dependency_projection_identity" = .str identity ∧
      exemption.asDict.field "new_dependency_projection_identity" = .str identity := by
  unfold CandidateReading.makeExemption CandidateReading.dependencyProjectionIdentity at made
  simp only [bind_ok, require_ok, pure_ok, exists_const, Bool.not_eq_true'] at made
  obtain ⟨free, _, ⟨first, one, oldIdentity⟩, _, ⟨second, other, newIdentity⟩, same⟩ := made
  have agree : first = second := by
    rw [kept type free, other] at one
    exact (Except.ok.inj one).symm
  rw [← oldIdentity, ← newIdentity, agree] at same
  use stableRevision second
  rw [← same]
  have distinct : (("exemption_identity" :: ["changed_dimensions", "contract_version",
      "envelope_sha256", "evidence_identity", "evidence_type", "impact_policy_identity",
      "impact_policy_version", "new_dependency_projection_identity", "new_deployment_fingerprint",
      "new_subject_git_sha", "old_dependency_projection_identity", "old_deployment_fingerprint",
      "old_subject_git_sha", "outcome", "rationale_code"]) : List String).Nodup := by decide
  constructor
  · show ((CandidateReading.sortedObject _).get? _).getD .null = _
    rw [CandidateReading.lookup_sorted]
    · rfl
    · exact distinct
  · show ((CandidateReading.sortedObject _).get? _).getD .null = _
    rw [CandidateReading.lookup_sorted]
    · rfl
    · exact distinct

variable {evidence : EvidenceReading} {prior : String → Json} {seen : List EvidenceType}

theorem checkExemption_ok {exemption : Json} {type : EvidenceType}
    (checked : reading.checkExemption evidence prior impact old new seen exemption = .ok type) :
    ∃ validated expected, reading.makeExemption type validated impact old new = .ok expected ∧
      exemption.equal expected.asDict = true := by
  unfold CandidateReading.checkExemption at checked
  simp only [bind_ok, require_ok, pure_ok, exists_const] at checked
  obtain ⟨_, stated, _, _, _, validated, _, expected, made, _, equal, same⟩ := checked
  rw [same] at made
  exact ⟨validated, expected, made, equal⟩

theorem checkExemptions_ok {exemptions : List Json}
    (checked : reading.checkExemptions evidence prior impact old new seen exemptions = .ok ()) :
    ∀ exemption ∈ exemptions, ∃ type validated expected,
      reading.makeExemption type validated impact old new = .ok expected ∧
        exemption.equal expected.asDict = true := by
  induction exemptions generalizing seen with
  | nil =>
    intro exemption listed
    cases listed
  | cons exemption rest ih =>
    unfold CandidateReading.checkExemptions at checked
    rw [bind_ok] at checked
    obtain ⟨type, first, later⟩ := checked
    exact forall_mem_cons.mpr ⟨⟨type, checkExemption_ok first⟩, ih later⟩

theorem sameProjection_made (kept : ∀ type, impact.affects type = false →
      reading.dependencyProjection old type = reading.dependencyProjection new type)
    {type : EvidenceType} {evidence stored : Json} {exemption : Exemption}
    (made : reading.makeExemption type evidence impact old new = .ok exemption)
    (same : stored.equal exemption.asDict = true) : SameProjection stored := by
  obtain ⟨identity, one, other⟩ := makeExemption_same kept made
  have object : exemption.asDict.isObject = true := by
    cases shape : exemption.asDict with
    | obj fields => rfl
    | _ =>
      rw [shape] at one
      cases one
  have here := Json.equal_field object same "old_dependency_projection_identity"
  have there := Json.equal_field object same "new_dependency_projection_identity"
  rw [one] at here
  rw [other] at there
  exact (Json.equal_str here).trans (Json.equal_str there).symm

theorem build_exemptions
    {types : List String} {manifest : Json} {record : RecertificationRecord × String}
    (built : reading.buildRecertificationRecord evidence old new prior types manifest =
      .ok record) : ∃ impact, reading.candidateChangeImpact old new = .ok impact ∧
      ∀ exemption ∈ record.1.exemptions, ∃ type validated,
        reading.makeExemption type validated impact old new = .ok exemption := by
  unfold CandidateReading.buildRecertificationRecord at built
  simp only [bind_ok, require_ok, pure_ok, exists_const] at built
  obtain ⟨_, _, impact, found, _, _, _, exemptions, made, _, _, _, _, same⟩ := built
  use impact, found
  rw [← same]
  refine mapM_all made ?_
  intro name exemption carried
  unfold CandidateReading.exempt at carried
  simp only [bind_ok] at carried
  obtain ⟨type, _, validated, _, rest⟩ := carried
  use type, validated
  split at rest
  · rw [bind_ok] at rest
    obtain ⟨_, _, again⟩ := rest
    exact again
  · exact rest

theorem validate_exemptions {record accepted : Json}
    {prior : String → Json} {manifest : Option String}
    (valid : reading.validateRecertificationRecord evidence record new prior manifest =
      .ok accepted) : ∃ impact,
      reading.candidateChangeImpact (record.field "old_candidate_spec") new = .ok impact ∧
        ∀ exemption ∈ exemptionItems record, ∃ type validated expected,
          reading.makeExemption type validated impact (record.field "old_candidate_spec") new =
            .ok expected ∧ exemption.equal expected.asDict = true := by
  unfold CandidateReading.validateRecertificationRecord at valid
  simp only [bind_ok, require_ok, exists_const] at valid
  obtain ⟨_, _, _, _, _, _, _, _, _, _, impact, found, _, _, _, _, rest⟩ := valid
  use impact, found
  split at rest
  · rename_i exemptions items
    rw [bind_ok] at rest
    obtain ⟨_, checked, _⟩ := rest
    have listed : exemptionItems record = exemptions := by
      unfold exemptionItems
      rw [items]
    rw [listed]
    exact checkExemptions_ok checked
  · cases rest

end
section
attribute [local instance] Sha256.polynomial

def budgetFactors (seconds : Int) : List (String × Json) :=
  [("resource_budget", .obj [("deadline_seconds", .int seconds)]),
   ("behavior_configuration", .obj []), ("ocr_asset_manifest_sha256", .null),
   ("candidate_spec_version", .str "1.1")]

theorem budgeted_hashed :
    sampleReading.canonicalFactors (budgeted 60) = .ok (budgetFactors 60) ∧
      sampleReading.canonicalFactors (budgeted 90) = .ok (budgetFactors 90) := by
  decide +kernel

theorem budgeted_compared :
    sampleReading.factorsForImpact (budgeted 60) = .ok (budgetFactors 60) ∧
      sampleReading.factorsForImpact (budgeted 90) = .ok (budgetFactors 90) := by
  decide +kernel

theorem budgets_distinct : NoTwins sampleReading (budgeted 60) (budgeted 90) := by
  constructor
  · intro oldFactors newFactors one other type alike name listed
    rw [budgeted_compared.1, Except.ok.injEq] at one
    rw [budgeted_compared.2, Except.ok.injEq] at other
    have same := alike name listed
    rw [← one, ← other] at same ⊢
    by_cases here : name = "resource_budget"
    · rw [here] at same
      cases same
    · simp only [budgetFactors, lookup_cons, beq_false_of_ne here]
  · intro oldFactors newFactors oldHashed newHashed one other _ _ alike
    rw [budgeted_compared.1, Except.ok.injEq] at one
    rw [budgeted_compared.2, Except.ok.injEq] at other
    have same := alike "resource_budget"
    rw [← one, ← other] at same
    cases same

def egress (value : Json) : Json := .obj [("network_egress", value)]

def egressFactors (value : Json) : List (String × Json) :=
  [("network_egress", value), ("behavior_configuration", .obj []),
   ("ocr_asset_manifest_sha256", .null), ("candidate_spec_version", .str "1.1")]

theorem egress_compared :
    sampleReading.factorsForImpact (egress (.bool true)) = .ok (egressFactors (.bool true)) ∧
      sampleReading.factorsForImpact (egress (.int 1)) = .ok (egressFactors (.int 1)) := by
  decide +kernel

end
end KSlide
