import KSlide.Recertification.Exemptions
import KSlide.Redaction.Values

/-
This file gives the release metadata and shows when it survives its own redaction.
-/

namespace KSlide
namespace Redaction

/-- These fields of the metadata name the deployment and its evidence. -/
def identityFields : List String :=
  ["deployment_fingerprint", "certification_fingerprint", "candidate_identity",
   "promotion_identity", "candidate_binding", "evidence_hashes", "evidence_envelope_hashes",
   "evidence_paths", "champion_hash", "constraints_sha256", "release_manifest",
   "release_manifest_sha256", "run_environment_identity_sha256"]

/-- A resolved candidate is its own specification. -/
def candidateSpec (metadata : Json) : Json :=
  if (metadata.get? "candidate_spec").isSome then metadata.field "candidate_spec" else metadata

section
variable [Unicode] [Sha256] (reading : CandidateReading)

def manifestFields : List String :=
  ["schema_version", "quality_policy", "quality_policy_identity", "release_state", "version",
   "subject_git_sha", "report_generated_from_sha", "generated_at", "deployment_fingerprint",
   "candidate_binding", "certification_fingerprint", "candidate_spec", "runtime_provenance",
   "runtime", "model_policy", "egress_policy", "ocr", "schemas", "dataset", "evidence_hashes",
   "evidence_envelope_hashes", "evidence_paths", "champion_hash", "candidate_identity",
   "promotion_identity", "champion_promotion", "recertification", "prior_release_manifest",
   "constraints_file", "constraints_sha256", "attestations", "production_dependencies",
   "blocking_reasons"]

/-- The candidate gives three values of the manifest, and the release computes the other ones. -/
def releaseManifest (candidate : Json) (part : String → Option Json) : Except Raised Json := do
  let identity ← reading.deploymentFingerprint candidate
  let factors ← reading.canonicalFactors candidate
  let value (name : String) : Option Json :=
    if name = "deployment_fingerprint" ∨ name = "candidate_identity" then some (.str identity)
    else if name = "candidate_spec" then some (CandidateReading.sortedObject factors)
    else part name
  return CandidateReading.sortedObject (manifestFields.filterMap fun name =>
    (value name).map fun found => (name, found))

/-- The written metadata has the same candidate fingerprint and the same identities. -/
def Survives (host : Host) (metadata : Json) : Prop :=
  ∃ written, Json.loads (safeOperationalJson host metadata) = some written ∧
    reading.deploymentFingerprint (candidateSpec written) =
      reading.deploymentFingerprint (candidateSpec metadata) ∧
    ∀ name ∈ identityFields, written.field name = metadata.field name

end

section
variable [Unicode] {host : Host} {metadata : Json}

/-- The field holds nothing to redact where it is present. -/
def FieldKept (host : Host) (metadata : Json) (name : String) : Prop :=
  ∀ value, metadata.get? name = some value → KeptUnder name value (Kept host value)

def SpecKept (host : Host) (metadata : Json) : Prop :=
  FieldKept host metadata "candidate_spec" ∧
    (metadata.get? "candidate_spec" = none → Kept host metadata)

theorem get?_redacted (host : Host) (metadata : Json) (name : String) :
    (redactValue host metadata).get? name =
      (metadata.get? name).map fun value => underKey name (redactValue host value) := by
  cases metadata with
  | obj fields => exact lookup_redactFields host fields name
  | _ => rfl

theorem get?_kept {name : String} (kept : FieldKept host metadata name) :
    (redactValue host metadata).get? name = metadata.get? name := by
  rw [get?_redacted]
  cases found : metadata.get? name with
  | none => rfl
  | some value =>
    have same : underKey name (redactValue host value) = value :=
      underKey_kept (kept value found) (redactValue_kept value)
    rw [Option.map_some, same]

theorem field_kept {name : String} (kept : FieldKept host metadata name) :
    (redactValue host metadata).field name = metadata.field name := by
  rw [Json.field, Json.field, get?_kept kept]

theorem candidateSpec_kept (kept : SpecKept host metadata) :
    candidateSpec (redactValue host metadata) = candidateSpec metadata := by
  obtain ⟨field, whole⟩ := kept
  rw [candidateSpec, candidateSpec, get?_kept field, field_kept field]
  cases found : metadata.get? "candidate_spec" with
  | none => exact redactValue_kept metadata (whole found)
  | some value => rfl

end

section
attribute [local instance] Unicode.basic Sha256.polynomial

def serviceHost : Host where
  home := "/home/operator".toList
  root := "/srv/release".toList
  located := by decide

def warmMetadata : Json := .obj [
  ("candidate_spec", .obj [("generation_settings", .obj [("temperature", .int 1)])]),
  ("release_manifest", .str "releases/manifest.json")]

theorem warmMetadata_canonical : warmMetadata.Canonical := by
  have settings : (Json.obj [("temperature", .int 1)]).Canonical := ⟨by decide, trivial, trivial⟩
  exact ⟨by decide, ⟨⟨by decide, settings, trivial⟩, trivial, trivial⟩⟩

theorem warmMetadata_readable : warmMetadata.Readable := by
  simp [warmMetadata, Json.Readable, Json.ReadableFields]

theorem warmMetadata_spec : SpecKept serviceHost warmMetadata := by
  constructor
  · intro value found
    have spec : (Json.obj [("generation_settings", .obj [("temperature", .int 1)])]) = value :=
      Option.some.inj found
    have outer : keyMarker "candidate_spec" = none := by decide +kernel
    have settings : keyMarker "generation_settings" = none := by decide +kernel
    have inner : keyMarker "temperature" = none := by decide +kernel
    rw [← spec]
    simp [KeptUnder, Kept, KeptFields, outer, settings, inner]
  · intro absent
    cases absent

theorem warmMetadata_identities :
    ∀ name ∈ identityFields, FieldKept serviceHost warmMetadata name := by
  intro name listed value found
  have only : ∀ name ∈ identityFields,
      name = "release_manifest" ∨ warmMetadata.get? name = none := by decide +kernel
  rcases only name listed with manifest | absent
  · have plain : keyMarker "release_manifest" = none := by decide +kernel
    rw [manifest] at found ⊢
    rw [← Option.some.inj found, KeptUnder, plain]
    exact {
      home := Or.inr (by decide +kernel)
      root := by decide +kernel
      assigned := by decide +kernel
      bearer := Option.isNone_iff_eq_none.mp (by decide +kernel)
      url := Option.isNone_iff_eq_none.mp (by decide +kernel) }
  · rw [absent] at found
    cases found

/-- The generation settings of this candidate name their end token. -/
def tokenCandidate : Json :=
  .obj [("generation_settings", .obj [("eos_token", .str "</s>")])]

def tokenSpec (token : String) : Json := .obj [
  ("behavior_configuration", .obj [("generation_settings", .obj [("eos_token", .str token)])]),
  ("candidate_spec_version", .str "1.1"),
  ("generation_settings", .obj [("eos_token", .str token)]),
  ("ocr_asset_manifest_sha256", .null)]

def tokenIdentity : String := "c58cf6eaeddcc8dbed2c4a4724caaf6a9d3e175b3fe65e402055a86848a21f6a"

def tokenMetadata : Json := .obj [
  ("candidate_identity", .str tokenIdentity),
  ("candidate_spec", tokenSpec "</s>"),
  ("deployment_fingerprint", .str tokenIdentity)]

theorem fingerprint_tokens (token : String) (candidate : Json)
    (factors : (sampleReading.canonicalFactors candidate).map CandidateReading.sortedObject =
      .ok (tokenSpec token)) :
    sampleReading.deploymentFingerprint candidate =
      .ok (String.ofList (hexDigits (letterSum (tokenSpec token).dumpsChars) 64)) := by
  rw [CandidateReading.deploymentFingerprint]
  cases found : sampleReading.canonicalFactors candidate with
  | error raised =>
    rw [found] at factors
    cases factors
  | ok fields =>
    rw [found] at factors
    have same : CandidateReading.sortedObject fields = tokenSpec token := Except.ok.inj factors
    show Except.ok (stableRevision (CandidateReading.sortedObject fields)) = _
    rw [same, stableRevision_polynomial]

theorem tokenCandidate_built :
    releaseManifest sampleReading tokenCandidate (fun _ => none) = .ok tokenMetadata := by
  have factors : sampleReading.canonicalFactors tokenCandidate = .ok [
      ("generation_settings", .obj [("eos_token", .str "</s>")]),
      ("behavior_configuration", tokenCandidate), ("ocr_asset_manifest_sha256", .null),
      ("candidate_spec_version", .str "1.1")] := by decide +kernel
  have identity : sampleReading.deploymentFingerprint tokenCandidate = .ok tokenIdentity := by
    have digits : hexDigits (letterSum (tokenSpec "</s>").dumpsChars) 64 =
        tokenIdentity.toList := by decide +kernel
    rw [fingerprint_tokens "</s>" tokenCandidate (by rw [factors]; rfl), digits,
      String.ofList_toList]
  rw [releaseManifest, identity, factors]
  rfl

end

end Redaction
end KSlide
