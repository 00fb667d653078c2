import KSlide.Recertification.Candidate
import KSlide.Text.Enumeration

/-
This file gives the evidence that a change of the candidate affects.
-/

namespace KSlide

inductive EvidenceType where
  | runtime | heavyRuntime | modelValidation | modelHighRiskStability | modelHeldOut
  | internalBilingual | zeroKoreanComprehension | security | reliability | modelDataPolicy
  | pilotCanary | governance
deriving DecidableEq, Repr

instance : Text.Enumeration EvidenceType where
  value
    | .runtime => "runtime"
    | .heavyRuntime => "heavy_runtime"
    | .modelValidation => "model_validation"
    | .modelHighRiskStability => "model_high_risk_stability"
    | .modelHeldOut => "model_held_out"
    | .internalBilingual => "internal_bilingual"
    | .zeroKoreanComprehension => "zero_korean_comprehension"
    | .security => "security"
    | .reliability => "reliability"
    | .modelDataPolicy => "model_data_policy"
    | .pilotCanary => "pilot_canary"
    | .governance => "governance"
  all := [.runtime, .heavyRuntime, .modelValidation, .modelHighRiskStability, .modelHeldOut,
    .internalBilingual, .zeroKoreanComprehension, .security, .reliability, .modelDataPolicy,
    .pilotCanary, .governance]

namespace EvidenceType

def name (type : EvidenceType) : String := Text.Enumeration.value type
def all : List EvidenceType := Text.Enumeration.all

def modelExecution : List String :=
  ["subject_git_sha", "candidate_spec_version", "kslide_version", "opencode_version",
   "requested_model", "effective_model", "provider", "provider_backend", "model_revision",
   "quantization_or_dtype", "vision_settings", "context_configuration",
   "image_preprocessing_settings", "prompt_identity", "prompt_version", "prompt_hash",
   "generation_settings", "ocr_provider", "ocr_asset_manifest_sha256", "normalization_behavior",
   "repair_policy", "python_version", "paddle_version", "paddleocr_version", "libreoffice_version",
   "termbase_identity", "termbase_version", "termbase_hash", "model_policy",
   "inference_route_identity", "inference_endpoint_identity", "inference_data_use_policy",
   "egress_policy_version", "egress_policy_hash", "egress_policy_identity", "schema_versions",
   "network_egress", "resolved_dependency_set_sha256", "runtime_artifact_identity",
   "runtime_artifact_manifest_sha256", "runtime_sbom_sha256", "opencode_bootstrap_identity",
   "opencode_models_identity", "behavior_configuration"]

def deploymentExecution : List String :=
  modelExecution ++ ["tenant_isolation", "constraints_sha256"]

def heavyRuntimeFields : List String :=
  ["subject_git_sha", "candidate_spec_version", "kslide_version", "opencode_version",
   "ocr_provider", "ocr_asset_manifest_sha256", "python_version", "paddle_version",
   "paddleocr_version", "libreoffice_version", "schema_versions", "constraints_sha256",
   "resolved_dependency_set_sha256", "runtime_artifact_identity",
   "runtime_artifact_manifest_sha256", "runtime_sbom_sha256", "opencode_bootstrap_identity"]

def securityFields : List String :=
  ["subject_git_sha", "candidate_spec_version", "kslide_version", "opencode_version",
   "python_version", "schema_versions", "constraints_sha256", "resolved_dependency_set_sha256",
   "runtime_artifact_identity", "runtime_artifact_manifest_sha256", "runtime_sbom_sha256",
   "opencode_bootstrap_identity", "opencode_models_identity"]

def modelPolicyAttestation : List String :=
  ["candidate_spec_version", "requested_model", "effective_model", "provider", "model_policy",
   "retention_policy", "inference_route_identity", "inference_endpoint_identity",
   "inference_data_use_policy", "egress_policy_version", "egress_policy_hash",
   "egress_policy_identity", "network_egress"]

/-- The producers of the evidence read these fields of the candidate. -/
def dependencyFields : EvidenceType → List String
  | runtime | reliability => deploymentExecution
  | heavyRuntime => heavyRuntimeFields
  | modelValidation | modelHighRiskStability | modelHeldOut => modelExecution ++ ["corpus_identity"]
  | internalBilingual | zeroKoreanComprehension => deploymentExecution ++ ["corpus_identity"]
  | security => securityFields
  | modelDataPolicy => modelPolicyAttestation
  | pilotCanary => deploymentExecution ++ ["corpus_identity", "retention_policy"]
  | governance => Candidate.inputFields

def mapped : List String := all.flatMap dependencyFields

end EvidenceType

def changeImpactPolicyVersion : String := "1.2"
def recertificationContractVersion : String := "1.0"

/-- Names are listed once in the order of their letters. -/
def sortedNames (names : List String) : List String := names.dedup.insertionSort (· ≤ ·)

def namesJson (names : List String) : Json := .arr (names.map .str)

/-- The affected evidence comes with the dimensions that affect it. -/
structure ChangeImpact where
  policyIdentity : String
  oldSubjectGitSha : Json
  oldDeploymentFingerprint : String
  newSubjectGitSha : Json
  newDeploymentFingerprint : String
  changedDimensions : List String
  unknownDimensions : List String
  affectedEvidence : List (EvidenceType × List String)
  championAffected : Bool

def ChangeImpact.affects (impact : ChangeImpact) (type : EvidenceType) : Bool :=
  impact.affectedEvidence.any (·.1 == type)

/-- An exemption carries the evidence of one type to the next candidate. -/
structure Exemption where
  evidenceType : EvidenceType
  content : Json
  identity : String
deriving DecidableEq

def Exemption.asDict (exemption : Exemption) : Json :=
  match exemption.content with
  | .obj fields =>
    CandidateReading.sortedObject (("exemption_identity", .str exemption.identity) :: fields)
  | other => other

structure RecertificationRecord where
  priorManifest : String
  impact : ChangeImpact
  oldFactors : List (String × Json)
  newFactors : List (String × Json)
  exemptions : List Exemption

/-- The identity of the record covers all of its fields. -/
def RecertificationRecord.content (record : RecertificationRecord) : Json := .obj [
  ("affected_evidence", CandidateReading.sortedObject (record.impact.affectedEvidence.map
    fun entry => (entry.1.name, namesJson entry.2))),
  ("champion_affected", .bool record.impact.championAffected),
  ("changed_dimensions", namesJson record.impact.changedDimensions),
  ("contract_version", .str recertificationContractVersion),
  ("exemptions", .arr (record.exemptions.map (·.asDict))),
  ("impact_policy_identity", .str record.impact.policyIdentity),
  ("impact_policy_version", .str changeImpactPolicyVersion),
  ("new_candidate_spec", CandidateReading.sortedObject record.newFactors),
  ("new_deployment_fingerprint", .str record.impact.newDeploymentFingerprint),
  ("new_subject_git_sha", record.impact.newSubjectGitSha),
  ("old_candidate_spec", CandidateReading.sortedObject record.oldFactors),
  ("old_deployment_fingerprint", .str record.impact.oldDeploymentFingerprint),
  ("old_subject_git_sha", record.impact.oldSubjectGitSha),
  ("prior_certification_status", .str (if record.impact.championAffected then
    "STALE_FOR_NEW_CANDIDATE" else "UNCHANGED_CANDIDATE")),
  ("prior_release_manifest_sha256", .str record.priorManifest),
  ("unknown_dimensions", namesJson record.impact.unknownDimensions)]

/-- The evidence files answer for the prior evidence. -/
structure EvidenceReading where
  validateOld : EvidenceType → Json → Json → Except Raised Json
  validatePayload : EvidenceType → Json → Except Raised Unit

def changedNames (old new : List (String × Json)) : List String :=
  (sortedNames (old.map Prod.fst ++ new.map Prod.fst)).filter fun key =>
    !((old.lookup key).getD .null).equal ((new.lookup key).getD .null)

def unknownNames (changed : List String) : List String :=
  sortedNames (changed.filter (· ∉ EvidenceType.mapped))

/-- An unknown dimension counts for every type of evidence. -/
def relevantNames (changed : List String) (type : EvidenceType) : List String :=
  sortedNames (changed.filter (· ∈ type.dependencyFields) ++ unknownNames changed)

def affectedTypes (changed : List String) : List (EvidenceType × List String) :=
  (EvidenceType.all.map fun type => (type, relevantNames changed type)).filter (!·.2.isEmpty)

section
variable [Sha256]

def changeImpactPolicyIdentity : String := stableRevision (.obj [
  ("candidate_dimensions", namesJson Candidate.inputFields),
  ("dependencies", .obj (((EvidenceType.all.map fun type =>
    (type.name, namesJson (sortedNames type.dependencyFields))).insertionSort
      fun first second => first.1 ≤ second.1))),
  ("evidence_types", namesJson (EvidenceType.all.map (·.name))),
  ("version", .str changeImpactPolicyVersion)])

namespace CandidateReading
variable (reading : CandidateReading)

def factorsForImpact (candidate : Json) : Except Raised (List (String × Json)) := do
  require candidate.isObject (evidenceInvalid "recertification candidate must be an object")
  let normalized ← reading.normalize true candidate
  reading.canonicalFactors (.obj normalized)

def candidateChangeImpact (old new : Json) : Except Raised ChangeImpact := do
  let oldFactors ← reading.factorsForImpact old
  let newFactors ← reading.factorsForImpact new
  let changed := changedNames oldFactors newFactors
  let oldDeployment ← reading.deploymentFingerprint old
  let newDeployment ← reading.deploymentFingerprint new
  return ⟨changeImpactPolicyIdentity, old.field "subject_git_sha", oldDeployment,
    new.field "subject_git_sha", newDeployment, changed, unknownNames changed,
    affectedTypes changed, oldDeployment != newDeployment⟩

def dependencyProjection (candidate : Json) (type : EvidenceType) : Except Raised Json := do
  let factors ← reading.factorsForImpact candidate
  let fields := factors.filter (·.1 ∈ type.dependencyFields)
  let unmapped := factors.filter (·.1 ∉ EvidenceType.mapped)
  return .obj [
    ("evidence_type", .str type.name), ("factors", sortedObject fields),
    ("policy_identity", .str changeImpactPolicyIdentity),
    ("policy_version", .str changeImpactPolicyVersion),
    ("unmapped_dimensions", sortedObject unmapped)]

def dependencyProjectionIdentity (candidate : Json) (type : EvidenceType) :
    Except Raised String := return stableRevision (← reading.dependencyProjection candidate type)

def exemptionContent (type : EvidenceType) (evidence : Json) (impact : ChangeImpact)
    (oldProjection newProjection : String) : Json := .obj [
  ("changed_dimensions", namesJson impact.changedDimensions),
  ("contract_version", .str recertificationContractVersion),
  ("envelope_sha256", evidence.field "envelope_sha256"),
  ("evidence_identity", evidence.field "evidence_identity"),
  ("evidence_type", .str type.name),
  ("impact_policy_identity", .str impact.policyIdentity),
  ("impact_policy_version", .str changeImpactPolicyVersion),
  ("new_dependency_projection_identity", .str newProjection),
  ("new_deployment_fingerprint", .str impact.newDeploymentFingerprint),
  ("new_subject_git_sha", impact.newSubjectGitSha),
  ("old_dependency_projection_identity", .str oldProjection),
  ("old_deployment_fingerprint", .str impact.oldDeploymentFingerprint),
  ("old_subject_git_sha", impact.oldSubjectGitSha),
  ("outcome", .str "CARRY_FORWARD"),
  ("rationale_code", .str "DEPENDENCY_PROJECTION_UNCHANGED")]

def makeExemption (type : EvidenceType) (evidence : Json) (impact : ChangeImpact)
    (old new : Json) : Except Raised Exemption := do
  require (!impact.affects type)
    (evidenceInvalid ("recertification cannot exempt affected " ++ type.name ++ " evidence"))
  let oldProjection ← reading.dependencyProjectionIdentity old type
  let newProjection ← reading.dependencyProjectionIdentity new type
  let content := exemptionContent type evidence impact oldProjection newProjection
  return ⟨type, content, stableRevision content⟩

def requestedType (name : String) : Except Raised EvidenceType :=
  match Text.Enumeration.parse EvidenceType name with
  | some type => .ok type
  | none => .error (evidenceInvalid "recertification evidence type is unknown")

def exempt (evidence : EvidenceReading) (prior : String → Json) (impact : ChangeImpact)
    (old new : Json) (name : String) : Except Raised Exemption := do
  let type ← requestedType name
  let validated ← evidence.validateOld type (prior name) old
  if (validated.field "payload").isObject then
    evidence.validatePayload type (validated.field "payload")
  reading.makeExemption type validated impact old new

/-- The record comes with its identity. -/
def buildRecertificationRecord (evidence : EvidenceReading) (old new : Json)
    (prior : String → Json) (types : List String) (manifest : Json) :
    Except Raised (RecertificationRecord × String) := do
  let manifest ← checkedText Text.isSha256
    (evidenceInvalid "prior release manifest hash must be a lowercase SHA-256 identity") manifest
  let impact ← reading.candidateChangeImpact old new
  require impact.championAffected
    (evidenceInvalid "scoped recertification requires a distinct new candidate identity")
  require impact.unknownDimensions.isEmpty
    (evidenceInvalid "recertification has unknown or unmapped changed candidate dimensions")
  require (decide types.Nodup) (evidenceInvalid "recertification evidence types must be unique")
  let exemptions ← (types.insertionSort (· ≤ ·)).mapM (reading.exempt evidence prior impact old new)
  let oldFactors ← reading.canonicalFactors old
  let newFactors ← reading.canonicalFactors new
  let record : RecertificationRecord := ⟨manifest, impact, oldFactors, newFactors, exemptions⟩
  return (record, stableRevision record.content)

def recordNames : List String :=
  ["contract_version", "impact_policy_version", "impact_policy_identity",
   "prior_release_manifest_sha256", "prior_certification_status", "old_subject_git_sha",
   "old_deployment_fingerprint", "old_candidate_spec", "new_subject_git_sha",
   "new_deployment_fingerprint", "new_candidate_spec", "changed_dimensions", "unknown_dimensions",
   "affected_evidence", "champion_affected", "exemptions", "recertification_identity"]

def exemptionNames : List String :=
  ["contract_version", "evidence_type", "outcome", "rationale_code", "impact_policy_version",
   "impact_policy_identity", "old_subject_git_sha", "old_deployment_fingerprint",
   "new_subject_git_sha", "new_deployment_fingerprint", "changed_dimensions", "evidence_identity",
   "envelope_sha256", "old_dependency_projection_identity", "new_dependency_projection_identity",
   "exemption_identity"]

/-- The identity of a stored object covers its other fields. -/
def statesIdentity (value : Json) (name : String) : Bool :=
  value.field name == .str (stableRevision (value.without name))

def expectedImpact (impact : ChangeImpact) : List (String × Json) := [
  ("impact_policy_version", .str changeImpactPolicyVersion),
  ("impact_policy_identity", .str impact.policyIdentity),
  ("old_subject_git_sha", impact.oldSubjectGitSha),
  ("old_deployment_fingerprint", .str impact.oldDeploymentFingerprint),
  ("new_subject_git_sha", impact.newSubjectGitSha),
  ("new_deployment_fingerprint", .str impact.newDeploymentFingerprint),
  ("changed_dimensions", namesJson impact.changedDimensions),
  ("unknown_dimensions", namesJson impact.unknownDimensions),
  ("affected_evidence", sortedObject (impact.affectedEvidence.map
    fun entry => (entry.1.name, namesJson entry.2))),
  ("champion_affected", .bool impact.championAffected),
  ("prior_certification_status", .str (if impact.championAffected then
    "STALE_FOR_NEW_CANDIDATE" else "UNCHANGED_CANDIDATE"))]

def unknownExemption : Raised :=
  evidenceInvalid "recertification exemption evidence type is unknown or duplicated"

/-- The stored exemption names a type of evidence. -/
def statedType (exemption : Json) : Except Raised EvidenceType :=
  match exemption.field "evidence_type" with
  | .str name =>
    match Text.Enumeration.parse EvidenceType name with
    | some type => .ok type
    | none => .error unknownExemption
  | _ => .error unknownExemption

/-- A stored exemption is made again and compared. -/
def checkExemption (evidence : EvidenceReading) (prior : String → Json) (impact : ChangeImpact)
    (old new : Json) (seen : List EvidenceType) (exemption : Json) :
    Except Raised EvidenceType := do
  require (exemption.isObject && exemption.hasKeys exemptionNames)
    (evidenceInvalid "recertification exemption does not match the closed contract")
  let type ← statedType exemption
  require (!seen.elem type) unknownExemption
  require (exemption.field "contract_version" == .str recertificationContractVersion &&
      exemption.field "outcome" == .str "CARRY_FORWARD" &&
      exemption.field "rationale_code" == .str "DEPENDENCY_PROJECTION_UNCHANGED")
    (evidenceInvalid "recertification exemption outcome or rationale is unsupported")
  let validated ← evidence.validateOld type (prior type.name) old
  let expected ← reading.makeExemption type validated impact old new
  require (statesIdentity exemption "exemption_identity")
    (evidenceInvalid "recertification exemption identity does not match its content")
  require (exemption.equal expected.asDict) (evidenceInvalid
    ("recertification " ++ type.name ++ " exemption is affected, stale, or misbound"))
  return type

def checkExemptions (evidence : EvidenceReading) (prior : String → Json) (impact : ChangeImpact)
    (old new : Json) : List EvidenceType → List Json → Except Raised Unit
  | _, [] => .ok ()
  | seen, exemption :: rest => do
    let type ← reading.checkExemption evidence prior impact old new seen exemption
    checkExemptions evidence prior impact old new (type :: seen) rest

/-- Every impact, evidence, projection and identity of a stored record is computed again. -/
def validateRecertificationRecord (evidence : EvidenceReading) (record new : Json)
    (prior : String → Json) (expectedManifest : Option String) : Except Raised Json := do
  require (record.isObject && record.hasKeys recordNames)
    (evidenceInvalid "recertification record does not match the closed contract")
  require (record.field "contract_version" == .str recertificationContractVersion)
    (evidenceInvalid "recertification contract version is unsupported")
  require (expectedManifest.all fun manifest =>
      record.field "prior_release_manifest_sha256" == .str manifest)
    (evidenceInvalid "recertification prior manifest identity changed")
  let old := record.field "old_candidate_spec"
  let canonical := evidenceInvalid "recertification old candidate specification is not canonical"
  require old.isObject canonical
  require ((sortedObject (← reading.canonicalFactors old)).equal old) canonical
  require ((record.field "new_candidate_spec").equal
      (sortedObject (← reading.canonicalFactors new)))
    (evidenceInvalid "recertification is bound to another new candidate")
  let impact ← reading.candidateChangeImpact old new
  require impact.championAffected
    (evidenceInvalid "scoped recertification must bind a distinct new candidate identity")
  require impact.unknownDimensions.isEmpty
    (evidenceInvalid "recertification contains unknown or unmapped changed dimensions")
  forM (expectedImpact impact) fun entry => require ((record.field entry.1).equal entry.2)
    (evidenceInvalid ("recertification " ++ entry.1 ++ " was edited or is stale"))
  match record.field "exemptions" with
  | .arr exemptions => do
    reading.checkExemptions evidence prior impact old new [] exemptions
    require (statesIdentity record "recertification_identity")
      (evidenceInvalid "recertification identity does not match its content")
    return record
  | _ => throw (evidenceInvalid "recertification exemptions must be a list")

end CandidateReading
end
end KSlide
