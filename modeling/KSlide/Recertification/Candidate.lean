import KSlide.Digest
import KSlide.Errors
import KSlide.Json.Number
import KSlide.Json.Record
import KSlide.Text.Unicode
import Mathlib.Data.List.Dedup
import Mathlib.Data.List.Sort

/-
This file gives the normal form of a candidate and its identity factors.
-/

namespace KSlide

def evidenceInvalid (message : String) : Raised := .other ("EvidenceValidationError: " ++ message)

namespace Candidate

def specSchemaVersion : String := "1.1"

def inputFields : List String :=
  ["candidate_spec_version", "subject_git_sha", "kslide_version", "opencode_version",
   "requested_model", "effective_model", "provider", "provider_backend", "model_revision",
   "quantization_or_dtype", "vision_settings", "context_configuration",
   "image_preprocessing_settings", "prompt_identity", "prompt_version", "prompt_hash",
   "generation_settings", "ocr_provider", "ocr_asset_manifest", "ocr_asset_manifest_sha256",
   "normalization_behavior", "repair_policy", "python_version", "paddle_version",
   "paddleocr_version", "libreoffice_version", "termbase_identity", "termbase_governance",
   "termbase_version", "termbase_hash", "model_policy", "inference_route_identity",
   "inference_endpoint_identity", "inference_data_use_policy", "egress_policy_version",
   "egress_policy_hash", "egress_policy_identity", "schema_versions", "retention_policy",
   "resource_budget", "tenant_isolation", "network_egress", "corpus_identity", "constraints_sha256",
   "resolved_dependency_set_sha256", "runtime_artifact_identity",
   "runtime_artifact_manifest_sha256", "runtime_sbom_sha256", "opencode_bootstrap_identity",
   "opencode_models_identity", "behavior_configuration"]

def outputFields : List String :=
  ["release_state", "deployment_fingerprint", "certification_fingerprint", "release_manifest",
   "release_manifest_sha256", "model_data_attestation", "attestations", "evidence_paths",
   "evidence_hashes", "evidence_envelope_hashes", "champion_hash", "generated_at",
   "report_generated_from_sha", "blocking_reasons"]

def behaviorFields : List String :=
  ["model", "provider", "prompt_version", "prompt_hash", "prompt_identity", "generation",
   "generation_settings", "temperature", "top_p", "top_k", "thinking", "reasoning", "visual_budget",
   "visual_detail", "vision", "vision_settings", "context_configuration",
   "image_preprocessing_settings", "ocr_provider", "normalization", "normalization_behavior",
   "repair_policy", "termbase_version", "termbase_hash", "evidence_ir_schema",
   "translation_patch_schema", "slide_ir_schema"]

def experimentOnlyFields : List String :=
  ["split", "scenario_ids", "formats", "repetitions", "repeats", "categories", "category_filter",
   "scenario_filter", "limit", "timeout", "evaluation_timeout", "mode", "output", "output_path",
   "filters"]

def behaviorAliases : List (String × String) :=
  [("generation", "generation_settings"), ("repair", "repair_policy"),
   ("normalization", "normalization_behavior"), ("vision", "vision_settings")]

def candidateAliases : List (String × String) :=
  [("model", "requested_model"), ("model_id", "requested_model"),
   ("inference_data_policy", "inference_data_use_policy")] ++ behaviorAliases

def canonicalName (aliases : List (String × String)) (key : String) : String :=
  (aliases.lookup key).getD key

def isUnset : Json → Bool
  | .null => true
  | .str text =>
    String.ofList (Text.upper (Text.strip text.toList)) ∈ ["UNSET", "NOT_YET_CONFIGURED"]
  | _ => false

/-- A table keeps the place of a name whose value is replaced. -/
def put (table : List (String × Json)) (key : String) (value : Json) : List (String × Json) :=
  if table.any (·.1 == key) then table.map fun entry => if entry.1 = key then (key, value) else entry
  else table ++ [(key, value)]

end Candidate

/-- The interpreter and the policies that a candidate names answer for its values. -/
structure CandidateReading where
  text : Json → String
  table : Json → Except Raised (List (String × Json))
  behaviorOrder : List String
  complete : behaviorOrder.Perm
    (Candidate.behaviorFields ++ (Candidate.behaviorAliases.map Prod.fst).filter
      (· ∉ Candidate.behaviorFields))
  retention : Json → Except String Json
  model : Json → Except Raised Json
  dataUse : Json → Except Raised (Json × Json)
  corpus : Json → Except Raised Json

namespace CandidateReading
variable (reading : CandidateReading)
open Candidate

/-- The interpreter writes a value as a text. -/
def str : Json → String
  | .null => "None"
  | .bool true => "True"
  | .bool false => "False"
  | .int value => toString value
  | .real text => text
  | .str text => text
  | value => reading.text value

/-- An object is a table, and a false value stands for the empty one. -/
def tableOf (value : Json) : Except Raised (List (String × Json)) :=
  match value.orEmpty with
  | .obj fields => .ok fields
  | other => reading.table other

def behaviorStep (strict : Bool) (normalized : List (String × Json)) (entry : String × Json) :
    Except Raised (List (String × Json)) := do
  let key := canonicalName behaviorAliases entry.1
  if key ∈ experimentOnlyFields then return normalized
  if key ∉ behaviorFields then
    require (!strict) (evidenceInvalid ("unknown behavior configuration field: " ++ entry.1))
    return normalized
  require ((normalized.lookup key).all (·.equal entry.2))
    (evidenceInvalid ("conflicting behavior configuration aliases: " ++ entry.1))
  return Candidate.put normalized key entry.2

/-- The behaviour stands in the order of its names. -/
def canonicalBehavior (strict : Bool) (configuration : List (String × Json)) :
    Except Raised Json := do
  let normalized ← configuration.foldlM (behaviorStep strict) []
  return .obj (normalized.insertionSort fun first second => first.1 ≤ second.1)

def checkSchemaVersion (value : Json) : Except Raised Unit := do
  let nested := value.field "candidate_spec"
  let declared := if value.field "candidate_spec_version" = .null then value.field "schema_version"
    else value.field "candidate_spec_version"
  let nestedVersion := if (nested.field "candidate_spec_version").truthy then
    nested.field "candidate_spec_version" else nested.field "schema_version"
  let found := if declared = .null ∧ nested.isObject = true then nestedVersion else declared
  require (found = .null || reading.str found == specSchemaVersion)
    (evidenceInvalid ("unsupported candidate specification schema: " ++ reading.str found))

/-- The nested candidate stands below the fields of the profile. -/
def sourceFields (value : Json) : List (String × Json) :=
  let nested := value.field "candidate_spec"
  let fields := match value with
    | .obj fields => fields
    | _ => []
  let below := match nested with
    | .obj fields => fields
    | _ => []
  fields.foldl (fun table entry => Candidate.put table entry.1 entry.2) below

def normalStep (strict : Bool) (normalized : List (String × Json)) (entry : String × Json) :
    Except Raised (List (String × Json)) := do
  let key := canonicalName candidateAliases entry.1
  if entry.1 = "candidate_spec" ∨ key ∈ experimentOnlyFields ∨ key ∈ outputFields ∨
      key ∈ ["schema_version", "status", "certification", "note"] then return normalized
  if key ∉ inputFields then
    require (!strict) (evidenceInvalid ("unknown candidate profile field: " ++ entry.1))
    return normalized
  match normalized.lookup key with
  | none => return Candidate.put normalized key entry.2
  | some prior =>
    if prior.equal entry.2 ∨ isUnset prior then return Candidate.put normalized key entry.2
    require (isUnset entry.2)
      (evidenceInvalid ("conflicting candidate profile aliases: " ++ entry.1))
    return normalized

/-- A behaviour field of the profile joins the behaviour configuration. -/
def behaviorAlias (source behavior : List (String × Json)) (key : String) :
    Except Raised (List (String × Json)) :=
  match source.lookup key with
  | none => return behavior
  | some value => do
    let canonical := canonicalName behaviorAliases key
    match behavior.lookup canonical with
    | none => return Candidate.put behavior canonical value
    | some prior =>
      if prior.equal value ∨ isUnset prior then return Candidate.put behavior canonical value
      require (isUnset value)
        (evidenceInvalid ("conflicting candidate behavior aliases: " ++ key))
      return behavior

def setDefault (behavior normalized : List (String × Json)) (key name : String) :
    List (String × Json) :=
  match normalized.lookup name with
  | some value => if (behavior.lookup key).isSome then behavior else behavior ++ [(key, value)]
  | none => behavior

def normalizeBehavior (strict : Bool) (source normalized : List (String × Json)) :
    Except Raised Json := do
  let configured ← reading.tableOf ((normalized.lookup "behavior_configuration").getD .null)
  let behavior ← reading.behaviorOrder.foldlM (behaviorAlias source) configured
  let modelled := setDefault behavior normalized "model" "requested_model"
  canonicalBehavior strict (setDefault modelled normalized "ocr_provider" "ocr_provider")

/-- A field that is present and accepted by the guard is replaced by its normal form. -/
def replaced (normalized : List (String × Json)) (key : String) (guard : Json → Bool)
    (change : Json → Except Raised Json) : Except Raised (List (String × Json)) :=
  match normalized.lookup key with
  | none => return normalized
  | some value => if guard value then do return Candidate.put normalized key (← change value)
      else return normalized

def retentionPolicy (value : Json) : Except Raised Json :=
  match reading.retention value with
  | .ok policy => .ok policy
  | .error kind => .error (evidenceInvalid ("retention policy is invalid (" ++ kind ++ ")"))

def dataUsePolicy (route value : Json) : Except Raised Json := do
  let policy ← reading.dataUse value
  require (route.equal policy.1)
    (evidenceInvalid "candidate inference route and data-use policy disagree")
  return policy.2

def normalize (strict : Bool) (value : Json) : Except Raised (List (String × Json)) := do
  let source := sourceFields value
  require (source.lookup "retention_days").isNone (evidenceInvalid
    ("legacy retention_days is unsupported; explicitly supply " ++
      "retention_policy.content_retention_days and " ++
      "retention_policy.operational_metadata_retention_days"))
  reading.checkSchemaVersion value
  let normalized ← source.foldlM (normalStep strict) []
  let behavior ← reading.normalizeBehavior strict source normalized
  let behaved := Candidate.put normalized "behavior_configuration" behavior
  let retained ← replaced behaved "retention_policy" (fun _ => true) reading.retentionPolicy
  let modelled ← replaced retained "model_policy" Json.isObject reading.model
  let routed ← replaced modelled "inference_data_use_policy" Json.isObject
    (reading.dataUsePolicy ((modelled.lookup "inference_route_identity").getD .null))
  replaced routed "corpus_identity" Json.isObject reading.corpus

def pathHints : List String :=
  ["ocr_asset_manifest", "ocr_asset_manifest_sha256", "termbase_governance"]

/-- The factors are the named inputs without the paths and the timestamps. -/
def canonicalFactors (candidate : Json) : Except Raised (List (String × Json)) := do
  let normalized ← reading.normalize true candidate
  let factors := (inputFields.filter (· ∉ pathHints)).filterMap fun key =>
    (normalized.lookup key).map fun value => (key, value)
  let assets := Candidate.put factors "ocr_asset_manifest_sha256"
    ((normalized.lookup "ocr_asset_manifest_sha256").getD .null)
  let version := (normalized.lookup "candidate_spec_version").getD
    ((candidate.get? "schema_version").getD (.str specSchemaVersion))
  return Candidate.put assets "candidate_spec_version" (.str (reading.str version))

/-- Tables are written in the order of their names. -/
def sortedObject (table : List (String × Json)) : Json :=
  .obj (table.insertionSort fun first second => first.1 ≤ second.1)

def deploymentFingerprint [Sha256] (candidate : Json) : Except Raised String := do
  let factors ← reading.canonicalFactors candidate
  return stableRevision (sortedObject factors)

end CandidateReading
end KSlide
