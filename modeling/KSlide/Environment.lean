import KSlide.Digest
import KSlide.Errors
import KSlide.Json.Record
import KSlide.Text.Enumeration

/-
This file gives the environment identity that a run is bound to.
-/

namespace KSlide

def executionContractVersion : String := "1.0"
def runStoreSchemaVersion : String := "1.0"
def runEnvironmentIdentityVersion : String := "1.0"

/-- The environment contract of a run has one text for each of these fields. -/
inductive EnvironmentField where
  | candidateIdentity | candidateVersion | effectiveModelIdentity | egressPolicyHash
  | egressPolicyIdentity | egressPolicyVersion | evidenceIrSchemaVersion
  | executionContractVersion | identityVersion | inferenceDataPolicyHash
  | inferenceDataPolicyIdentity | inferenceDataPolicyVersion | inferenceEndpointIdentity
  | inferenceRouteIdentity | kslideSourceRevision | kslideVersion | modelConfigIdentity
  | ocrAssetIdentity | ocrConfigIdentity | ocrProvider | runStoreSchemaVersion
  | runtimeArtifactIdentity | runtimeBuildIdentity | runtimeImageIdentity
  | runtimeManifestSha256 | runtimeSbomSha256 | semanticConfigIdentity | slideIrSchemaVersion
  | targetModelIdentity | termbaseIdentity | termbaseVersion | translationPatchSchemaVersion
deriving DecidableEq, Repr

namespace EnvironmentField

/-- The persisted key uses a neutral name for the source revision. -/
def key : EnvironmentField → String
  | candidateIdentity => "candidate_identity"
  | candidateVersion => "candidate_version"
  | effectiveModelIdentity => "effective_model_identity"
  | egressPolicyHash => "egress_policy_hash"
  | egressPolicyIdentity => "egress_policy_identity"
  | egressPolicyVersion => "egress_policy_version"
  | evidenceIrSchemaVersion => "evidence_ir_schema_version"
  | executionContractVersion => "execution_contract_version"
  | identityVersion => "identity_version"
  | inferenceDataPolicyHash => "inference_data_policy_hash"
  | inferenceDataPolicyIdentity => "inference_data_policy_identity"
  | inferenceDataPolicyVersion => "inference_data_policy_version"
  | inferenceEndpointIdentity => "inference_endpoint_identity"
  | inferenceRouteIdentity => "inference_route_identity"
  | kslideSourceRevision => "kslide_revision"
  | kslideVersion => "kslide_version"
  | modelConfigIdentity => "model_config_identity"
  | ocrAssetIdentity => "ocr_asset_identity"
  | ocrConfigIdentity => "ocr_config_identity"
  | ocrProvider => "ocr_provider"
  | runStoreSchemaVersion => "run_store_schema_version"
  | runtimeArtifactIdentity => "runtime_artifact_identity"
  | runtimeBuildIdentity => "runtime_build_identity"
  | runtimeImageIdentity => "runtime_image_identity"
  | runtimeManifestSha256 => "runtime_manifest_sha256"
  | runtimeSbomSha256 => "runtime_sbom_sha256"
  | semanticConfigIdentity => "semantic_config_identity"
  | slideIrSchemaVersion => "slide_ir_schema_version"
  | targetModelIdentity => "target_model_identity"
  | termbaseIdentity => "termbase_identity"
  | termbaseVersion => "termbase_version"
  | translationPatchSchemaVersion => "translation_patch_schema_version"

/-- The fields stand in the order of their keys. -/
def sorted : List EnvironmentField := [
  candidateIdentity, candidateVersion, effectiveModelIdentity, egressPolicyHash,
  egressPolicyIdentity, egressPolicyVersion, evidenceIrSchemaVersion, executionContractVersion,
  identityVersion, inferenceDataPolicyHash, inferenceDataPolicyIdentity,
  inferenceDataPolicyVersion, inferenceEndpointIdentity, inferenceRouteIdentity,
  kslideSourceRevision, kslideVersion, modelConfigIdentity, ocrAssetIdentity, ocrConfigIdentity,
  ocrProvider, runStoreSchemaVersion, runtimeArtifactIdentity, runtimeBuildIdentity,
  runtimeImageIdentity, runtimeManifestSha256, runtimeSbomSha256, semanticConfigIdentity,
  slideIrSchemaVersion, targetModelIdentity, termbaseIdentity, termbaseVersion,
  translationPatchSchemaVersion]

/-- The constructor checks the fields in this order. -/
def checkOrder : List EnvironmentField := [
  identityVersion, kslideSourceRevision, candidateIdentity, runtimeArtifactIdentity,
  runtimeBuildIdentity, runtimeManifestSha256, runtimeSbomSha256, modelConfigIdentity,
  semanticConfigIdentity, ocrAssetIdentity, ocrConfigIdentity, termbaseIdentity,
  inferenceEndpointIdentity, runtimeImageIdentity, candidateVersion, kslideVersion,
  termbaseVersion, targetModelIdentity, effectiveModelIdentity, ocrProvider,
  inferenceRouteIdentity, inferenceDataPolicyVersion, egressPolicyVersion,
  inferenceDataPolicyHash, inferenceDataPolicyIdentity, egressPolicyHash, egressPolicyIdentity,
  executionContractVersion, runStoreSchemaVersion, evidenceIrSchemaVersion,
  translationPatchSchemaVersion, slideIrSchemaVersion]

/-- Older records do not have these fields. -/
def legacyOptional : List EnvironmentField := [
  inferenceRouteIdentity, inferenceEndpointIdentity, inferenceDataPolicyVersion,
  inferenceDataPolicyHash, inferenceDataPolicyIdentity, egressPolicyVersion, egressPolicyHash,
  egressPolicyIdentity]

variable (field : EnvironmentField)

theorem mem_sorted : field ∈ sorted := by
  cases field <;> decide

theorem mem_checkOrder : field ∈ checkOrder := by
  cases field <;> decide

/-- The key names the field. -/
def ofKey? (key : String) : Option EnvironmentField := sorted.find? (·.key == key)

@[simp] theorem ofKey?_key : ofKey? field.key = some field := by
  cases field <;> decide

def names : List String := sorted.map key

theorem names_sorted : names.Pairwise (· < ·) := by decide +kernel

theorem key_mem_names : field.key ∈ names :=
  List.mem_map_of_mem field.mem_sorted

def legacyNames : List String := names.filter (· ∉ legacyOptional.map key)

def forbidden : List String :=
  ["access", "secret", "token", "password", "credential", "source_text", "prompt", "translation",
   "content"]

def isText (found : String) : Bool :=
  Text.isToken Text.isAlnum (fun letter => Text.isAlnum letter || "_.:/@+-".toList.elem letter)
    255 found && !Text.mentions forbidden found

def isImage (found : String) : Bool :=
  found.toList.take 7 == "sha256:".toList && (found.toList.drop 7).all Text.isHex &&
    (found.toList.drop 7).length == 64

def text (label : String) : (String → Bool) × Raised :=
  (isText, .invalid s!"Run environment {label} is invalid.")

def sha (label : String) : (String → Bool) × Raised :=
  (Text.isSha256, .invalid s!"Run environment {label} must be a SHA-256 identity.")

def version (label : String) : (String → Bool) × Raised :=
  (Text.isVersion, .invalid s!"Run environment {label} must be an exact version.")

/-- Each field has its own check and its own error. -/
def rule : EnvironmentField → (String → Bool) × Raised
  | identityVersion => ((· == runEnvironmentIdentityVersion),
      .unsupported "Unsupported run environment identity version.")
  | kslideSourceRevision => (Text.isExactly Text.isHex 40,
      .invalid "Run environment K-Slide source revision is invalid.")
  | candidateIdentity => sha "candidate identity"
  | runtimeArtifactIdentity => sha "runtime artifact identity"
  | runtimeBuildIdentity => sha "runtime build identity"
  | runtimeManifestSha256 => sha "runtime manifest identity"
  | runtimeSbomSha256 => sha "runtime SBOM identity"
  | modelConfigIdentity => sha "model configuration identity"
  | semanticConfigIdentity => sha "semantic configuration identity"
  | ocrAssetIdentity => sha "OCR asset identity"
  | ocrConfigIdentity => sha "OCR configuration identity"
  | termbaseIdentity => sha "termbase identity"
  | inferenceEndpointIdentity => sha "inference endpoint identity"
  | runtimeImageIdentity => (isImage, .invalid "Run environment runtime image identity is invalid.")
  | candidateVersion => version "candidate version"
  | kslideVersion => version "K-Slide version"
  | termbaseVersion => version "termbase version"
  | targetModelIdentity => text "target model identity"
  | effectiveModelIdentity => text "effective model identity"
  | ocrProvider => text "OCR provider identity"
  | inferenceRouteIdentity => text "inference route identity"
  | inferenceDataPolicyVersion => text "inference data-use policy version"
  | egressPolicyVersion => text "egress policy version"
  | inferenceDataPolicyHash => sha "inference data-use policy hash"
  | inferenceDataPolicyIdentity => sha "inference data-use policy identity"
  | egressPolicyHash => sha "egress policy hash"
  | egressPolicyIdentity => sha "egress policy identity"
  | executionContractVersion => version "execution contract version"
  | runStoreSchemaVersion => version "run-store schema version"
  | evidenceIrSchemaVersion => version "EvidenceIR schema version"
  | translationPatchSchemaVersion => version "TranslationPatch schema version"
  | slideIrSchemaVersion => version "SlideIR schema version"

def accepts (field : EnvironmentField) : String → Bool := field.rule.1

/-- The check of one field returns its text. -/
def check (raw : String → Json) (field : EnvironmentField) : Except Raised String :=
  checkedText field.accepts field.rule.2 (raw field.key)

end EnvironmentField

namespace ReferencePolicy
variable [Sha256]

def routeIdentity : String := "reference"
def policyVersion : String := "1.0"

def dataPolicyHash : String := stableRevision (.obj [
  ("classification_rules", .obj [("company_confidential", .bool true)]),
  ("inference_route_identity", .str routeIdentity),
  ("policy_version", .str policyVersion),
  ("schema_version", .str "1.0")])

def dataPolicyIdentity : String := stableRevision (.obj [
  ("inference_route_identity", .str routeIdentity),
  ("policy_hash", .str dataPolicyHash),
  ("policy_version", .str policyVersion)])

def endpointIdentity : String := Sha256.hexdigest
  ("k-slide-opencode-route-v1\nproviderID=9:reference\nmodelID=9:reference\n" ++
    "api.id=9:reference\napi.npm=9:reference\napi.url=9:reference\n")

def capability (capabilityClass dataClass purpose : String) (endpoint route : Json) : Json := .obj [
  ("capability_class", .str capabilityClass),
  ("data_class", .str dataClass),
  ("endpoint_identity", endpoint),
  ("purpose", .str purpose),
  ("route_identity", route),
  ("service_identity", .str "reference-adapter")]

def egressPolicyHash : String := stableRevision (.obj [
  ("capabilities", .arr [
    capability "durable_job_control" "operational_metadata" "job_control" .null .null,
    capability "inference_route" "source_content" "model_inference" (.str endpointIdentity)
      (.str routeIdentity),
    capability "non_content_telemetry" "non_content" "non_content_telemetry" .null .null,
    capability "scoped_storage" "source_content" "scoped_storage" .null .null]),
  ("default_action", .str "deny"),
  ("policy_version", .str policyVersion),
  ("schema_version", .str "1.0")])

def egressPolicyIdentity : String := stableRevision (.obj [
  ("policy_hash", .str egressPolicyHash),
  ("policy_version", .str policyVersion),
  ("schema_version", .str "1.0")])

/-- This text completes an older record. -/
def text (key : String) : String :=
  match EnvironmentField.ofKey? key with
  | some .inferenceRouteIdentity => routeIdentity
  | some .inferenceEndpointIdentity => endpointIdentity
  | some .inferenceDataPolicyVersion => policyVersion
  | some .inferenceDataPolicyHash => dataPolicyHash
  | some .inferenceDataPolicyIdentity => dataPolicyIdentity
  | some .egressPolicyVersion => policyVersion
  | some .egressPolicyHash => egressPolicyHash
  | some .egressPolicyIdentity => egressPolicyIdentity
  | _ => ""

end ReferencePolicy

/-- The identity of a run environment carries the validity of each of its texts. -/
structure RunEnvironmentIdentity where
  values : EnvironmentField → String
  valid : ∀ field : EnvironmentField, field.accepts (values field) = true

namespace RunEnvironmentIdentity

/-- The checks run in order and stop at the first error. -/
def checkAll (raw : String → Json) : List EnvironmentField → Except Raised Unit
  | [] => .ok ()
  | field :: rest => do
    let _ ← field.check raw
    checkAll raw rest

theorem checkAll_ok {raw : String → Json} {fields : List EnvironmentField} {result : Unit} :
    checkAll raw fields = .ok result ↔
      ∀ field ∈ fields, ∃ text, raw field.key = .str text ∧ field.accepts text = true := by
  induction fields with
  | nil => simp [checkAll]
  | cons field fields ih =>
    simp only [checkAll, bind_ok, EnvironmentField.check, checkedText_ok, ih,
      List.forall_mem_cons]
    grind

def textOf : Json → String
  | .str text => text
  | _ => ""

/-- The raw values pass every check before they are kept. -/
def checkValues (raw : String → Json) : Except Raised (EnvironmentField → String) := do
  checkAll raw EnvironmentField.checkOrder
  return fun field => textOf (raw field.key)

theorem checkValues_ok {raw : String → Json} {values : EnvironmentField → String} :
    checkValues raw = .ok values ↔
      (∀ field : EnvironmentField, raw field.key = .str (values field)) ∧
        ∀ field : EnvironmentField, field.accepts (values field) = true := by
  simp only [checkValues, bind_ok, checkAll_ok, pure_ok]
  constructor
  · rintro ⟨_, found, rfl⟩
    refine ⟨fun field => ?_, fun field => ?_⟩ <;>
      obtain ⟨text, same, accepted⟩ := found field field.mem_checkOrder
    · simp [same, textOf]
    · simpa [same, textOf] using accepted
  · rintro ⟨same, accepted⟩
    exact ⟨(), fun field _ => ⟨_, same field, accepted field⟩, by simp [same, textOf]⟩

def make (raw : String → Json) : Except Raised RunEnvironmentIdentity :=
  construct (checkValues raw) fun values checked => ⟨values, (checkValues_ok.mp checked).2⟩

theorem make_ok {raw : String → Json} {identity : RunEnvironmentIdentity} :
    make raw = .ok identity ↔
      ∀ field : EnvironmentField, raw field.key = .str (identity.values field) := by
  rw [make, construct_ok values (fun _ _ => rfl) (by rintro ⟨_, _⟩ ⟨_, _⟩ rfl; rfl),
    checkValues_ok]
  exact and_iff_left identity.valid

/-- The value of a key is the text of its field. -/
def raw (identity : RunEnvironmentIdentity) (key : String) : Json :=
  match EnvironmentField.ofKey? key with
  | some field => .str (identity.values field)
  | none => .null

@[simp] theorem raw_key (identity : RunEnvironmentIdentity) (field : EnvironmentField) :
    identity.raw field.key = .str (identity.values field) := by
  simp [raw]

/-- The persisted record lists the fields in the order of their keys. -/
def asDict (identity : RunEnvironmentIdentity) : Json := .record EnvironmentField.names identity.raw

def identitySha256 [Sha256] (identity : RunEnvironmentIdentity) : String :=
  stableRevision identity.asDict

@[simp] theorem identitySha256_ne_empty [Sha256] (identity : RunEnvironmentIdentity) :
    identity.identitySha256 ≠ "" := stableRevision_ne_empty _

theorem asDict_injective : Function.Injective asDict := by
  intro first second same
  obtain ⟨firstValues, _⟩ := first
  obtain ⟨secondValues, _⟩ := second
  have values : firstValues = secondValues := by
    funext field
    have each := Json.record_congr.mp same field.key field.key_mem_names
    simpa using each
  subst values
  rfl

instance : DecidableEq RunEnvironmentIdentity := fun first second =>
  decidable_of_iff (first.asDict = second.asDict) asDict_injective.eq_iff

/-- A made-up environment serves the closed runs. -/
def sample : RunEnvironmentIdentity where
  values
    | .identityVersion => "1.0"
    | .kslideSourceRevision => "0000000000000000000000000000000000000000"
    | .runtimeImageIdentity =>
      "sha256:0000000000000000000000000000000000000000000000000000000000000000"
    | .candidateVersion | .kslideVersion | .termbaseVersion | .executionContractVersion
    | .runStoreSchemaVersion | .evidenceIrSchemaVersion | .translationPatchSchemaVersion
    | .slideIrSchemaVersion => "1.0"
    | .targetModelIdentity | .effectiveModelIdentity | .ocrProvider | .inferenceRouteIdentity
    | .inferenceDataPolicyVersion | .egressPolicyVersion => "reference"
    | .candidateIdentity | .runtimeArtifactIdentity | .runtimeBuildIdentity
    | .runtimeManifestSha256 | .runtimeSbomSha256 | .modelConfigIdentity | .semanticConfigIdentity
    | .ocrAssetIdentity | .ocrConfigIdentity | .termbaseIdentity | .inferenceEndpointIdentity
    | .inferenceDataPolicyHash | .inferenceDataPolicyIdentity | .egressPolicyHash
    | .egressPolicyIdentity => "0000000000000000000000000000000000000000000000000000000000000000"
  valid field := by cases field <;> decide +kernel

/-- An older record takes the missing texts from the reference policies. -/
def fromDict [Sha256] (value : Json) : Except Raised RunEnvironmentIdentity := do
  require (value.hasKeys EnvironmentField.names || value.hasKeys EnvironmentField.legacyNames)
    (.corrupt "Run environment identity is incomplete.")
  make fun key => (value.get? key).getD (.str (ReferencePolicy.text key))

theorem fromDict_asDict [Sha256] (identity : RunEnvironmentIdentity) :
    fromDict identity.asDict = .ok identity := by
  simp only [fromDict, bind_ok, require_ok, asDict, Json.hasKeys_record_self, Bool.true_or, true_and,
    make_ok, exists_const]
  intro field
  rw [Json.get?_record field.key_mem_names, Option.getD_some, raw_key]

/-- A complete record is read back unchanged. -/
theorem asDict_of_fromDict [Sha256] {value : Json} {identity : RunEnvironmentIdentity}
    (canonical : value.Canonical) (complete : value.hasKeys EnvironmentField.names = true)
    (decoded : fromDict value = .ok identity) : identity.asDict = value := by
  simp only [fromDict, bind_ok, make_ok] at decoded
  obtain ⟨_, _, same⟩ := decoded
  rw [Json.eq_record canonical EnvironmentField.names_sorted complete, asDict, Json.record_congr]
  intro name present
  obtain ⟨field, _, rfl⟩ := List.mem_map.mp present
  obtain ⟨found, stored⟩ := Json.get?_of_hasKeys complete field.key_mem_names
  rw [raw_key, ← same field, Json.field, stored]
  rfl

/-- The mismatch fields are the keys with different values. -/
def mismatchFields (expected actual : RunEnvironmentIdentity) : List String :=
  (EnvironmentField.sorted.filter fun field => expected.values field != actual.values field).map
    EnvironmentField.key

theorem mismatchFields_eq_nil {expected actual : RunEnvironmentIdentity} :
    mismatchFields expected actual = [] ↔ expected = actual := by
  obtain ⟨expectedValues, _⟩ := expected
  obtain ⟨actualValues, _⟩ := actual
  simp only [mismatchFields, List.map_eq_nil_iff, List.filter_eq_nil_iff, mk.injEq]
  constructor
  · intro same
    funext field
    simpa using same field field.mem_sorted
  · rintro rfl
    simp

end RunEnvironmentIdentity

/-- Two optional environments are compatible when no field differs. -/
def environmentMismatchFields : Option RunEnvironmentIdentity → Option RunEnvironmentIdentity →
    List String
  | none, none => []
  | none, some _ => ["run_environment_identity"]
  | some _, none => ["current_environment_identity"]
  | some expected, some actual => expected.mismatchFields actual

def environmentMismatch (message : String) (fields : List String) : Raised :=
  .kslide ⟨.executionEnvironmentMismatch, message,
    [("mismatch_code", .str "KSLIDE_RUN_ENVIRONMENT_MISMATCH"),
     ("mismatch_fields", .arr (fields.map Json.str))]⟩

def raiseEnvironmentMismatch (expected actual : Option RunEnvironmentIdentity) :
    Except Raised Unit :=
  let fields := environmentMismatchFields expected actual
  require fields.isEmpty
    (environmentMismatch "Run environment is incompatible; resume was refused." fields)

@[simp] theorem raiseEnvironmentMismatch_ok {expected actual : Option RunEnvironmentIdentity}
    {result : Unit} : raiseEnvironmentMismatch expected actual = .ok result ↔ expected = actual := by
  cases expected <;> cases actual <;>
    simp [raiseEnvironmentMismatch, environmentMismatchFields,
      RunEnvironmentIdentity.mismatchFields_eq_nil]

end KSlide
