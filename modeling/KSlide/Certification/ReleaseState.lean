import KSlide.Json.Number
import KSlide.Recertification.Impact

/-
This file derives the release state that the evidence supports.
-/

namespace KSlide

inductive ReleaseState where
  | development | runtimeReady | gemmaEvalReady | syntheticProductionCandidate
  | internalValidated | pilotApproved | productionCertified | certificationStale
deriving DecidableEq, Repr

namespace Release

def stateValue : ReleaseState → String
  | .development => "DEVELOPMENT"
  | .runtimeReady => "RUNTIME_READY"
  | .gemmaEvalReady => "GEMMA_EVAL_READY"
  | .syntheticProductionCandidate => "SYNTHETIC_PRODUCTION_CANDIDATE"
  | .internalValidated => "INTERNAL_VALIDATED"
  | .pilotApproved => "PILOT_APPROVED"
  | .productionCertified => "PRODUCTION_CERTIFIED"
  | .certificationStale => "CERTIFICATION_STALE"

/-- Every state but the stale one can be requested. -/
def requestableStates : List ReleaseState :=
  [.development, .runtimeReady, .gemmaEvalReady, .syntheticProductionCandidate,
    .internalValidated, .pilotApproved, .productionCertified]

/-- The place of a state in the order of the requestable ones. -/
def rank (state : ReleaseState) : Nat := requestableStates.idxOf state

abbrev Table := List (String × Json)

/-- A missing key reads as null. -/
def Table.get (table : Table) (name : String) : Json := (table.lookup name).getD .null

/-- A staged file answers for its hash, its bill of materials and its locked dependency set. -/
structure SourceFile where
  isFile : Bool
  sha256 : Option String
  cyclonedx : Bool
  lockSet : Option String

/-- A validated record has an object as its payload, and its sources lead to staged files. -/
structure EvidenceRecord where
  envelope : Json
  payload : Table
  source : String → Option SourceFile

abbrev Records := EvidenceType → Option EvidenceRecord

inductive ChampionFile where
  | missing
  | malformed
  | document (value : Json)

/-- These are the parts of a validated promotion that the champion summary repeats. -/
structure Promotion where
  state : Json
  requestedModel : Json
  effectiveModel : Json
  candidateDeploymentFingerprint : Json
  behaviorConfigurationHash : Json

structure EgressPolicy where
  policyVersion : String
  policyHash : String
  policyIdentity : String
  routeIdentity : String
  endpointIdentity : String
  ready : Bool
  detail : String

/-- The files and the policies answer for the candidate; no answer depends on the records but that
of the promotion, which reads the model evidence. -/
structure Deployment where
  reading : CandidateReading
  fingerprint : String
  championFile : ChampionFile
  unresolvedFields : Table → ReleaseState → List String
  promotion : Json → Table → (validation highRisk heldOut : Option EvidenceRecord) →
    Except String Promotion
  /-- The policy is absent when it cannot be loaded or names no inference route. -/
  egress : Option EgressPolicy
  bootstrap : (identity models : Json) → Bool × String
  policyCompleteness : Json → Bool × String
  inferencePolicy : (route : Json) → Option Json
  authorityBinding : (zeroKorean bilingual : Table) → Bool

def runtimeRequirements : List EvidenceType := [.runtime]

def gemmaRequirements : List EvidenceType := [.runtime, .heavyRuntime]

def syntheticRequirements : List EvidenceType :=
  gemmaRequirements ++ [.modelValidation, .modelHighRiskStability, .modelHeldOut]

def internalRequirements : List EvidenceType :=
  syntheticRequirements ++ [.internalBilingual, .zeroKoreanComprehension, .modelDataPolicy]

def pilotRequirements : List EvidenceType :=
  internalRequirements ++ [.security, .reliability, .governance]

def productionRequirements : List EvidenceType := pilotRequirements ++ [.pilotCanary]

def stateRequirements : ReleaseState → List EvidenceType
  | .development => []
  | .runtimeReady => runtimeRequirements
  | .gemmaEvalReady => gemmaRequirements
  | .syntheticProductionCandidate => syntheticRequirements
  | .internalValidated => internalRequirements
  | .pilotApproved => pilotRequirements
  | .productionCertified => productionRequirements
  | .certificationStale => []

def championPromotionStates : List String := ["PROMOTED", "FROZEN_PROMOTED"]

def championFields : List String :=
  ["schema_version", "status", "reason", "model", "effective_model", "deployment_fingerprint",
    "behavior_configuration_hash", "promotion_contract"]

def disagreements (value : Table) (validated : Promotion) : List String :=
  [("status", validated.state), ("model", validated.requestedModel),
    ("effective_model", validated.effectiveModel),
    ("deployment_fingerprint", validated.candidateDeploymentFingerprint),
    ("behavior_configuration_hash", validated.behaviorConfigurationHash)].filterMap fun entry =>
      if (value.get entry.1).equal entry.2 then none
      else some s!"champion summary {entry.1} disagrees with validated promotion"

/-- The identity of the candidate is computed outside of the guarded part. -/
def promotionBlockers [Sha256] (deployment : Deployment) (candidate : Option Table)
    (records : Records) (value : Table) : Except Raised (List String) :=
  match candidate with
  | none => .ok ["exact candidate specification is required to validate champion promotion"]
  | some fields => do
    let identity ← deployment.reading.deploymentFingerprint (.obj fields)
    if deployment.fingerprint != identity then
      .ok ["champion candidate deployment does not match resolved candidate"]
    else
      match deployment.promotion (value.get "promotion_contract") fields
          (records .modelValidation) (records .modelHighRiskStability) (records .modelHeldOut) with
      | .error kind => .ok [s!"champion promotion contract is invalid ({kind})"]
      | .ok validated => .ok (disagreements value validated)

def summaryBlockers (value : Table) : List String :=
  let version := if value.get "schema_version" == .str "1.0" then []
    else ["champion schema version is unsupported"]
  let names := if value.all fun entry => championFields.elem entry.1 then []
    else ["champion summary contains fields outside the closed contract"]
  version ++ names

/-- A status that is a list or an object cannot be looked up in the set of states. -/
def statusBlockers [Sha256] (deployment : Deployment) (candidate : Option Table)
    (records : Records) (value : Table) : Except Raised (List String) := do
  let promoted ← (value.get "status").memberOf championPromotionStates
  if !promoted then .ok ["champion status is not a closed promotion state"]
  else
    let promotion ← promotionBlockers deployment candidate records value
    return summaryBlockers value ++ promotion

def championBlockers [Sha256] (deployment : Deployment) (candidate : Option Table)
    (records : Records) : Except Raised (List String) :=
  match deployment.championFile with
  | .missing => .ok ["champion.json is missing"]
  | .malformed => .ok ["champion.json is malformed"]
  | .document (.obj value) =>
    if Table.get value "status" == .str "UNSET" then .ok ["champion.json is UNSET"]
    else statusBlockers deployment candidate records value
  | .document _ => .ok ["champion.json is not an object"]

def unset : List Json := [.null, .str "", .str "UNSET"]

/-- An absent candidate has no table to read. -/
def egressBlockers (deployment : Deployment) (candidate : Option Table) :
    Except Raised (List String) :=
  match deployment.egress with
  | none => .ok [("authoritative default-deny egress policy deployment configuration is missing " ++
      "or invalid")]
  | some egress =>
    match candidate with
    | none => .error (.other "AttributeError")
    | some fields =>
      let bound := fields.get "egress_policy_version" == .str egress.policyVersion &&
        fields.get "egress_policy_hash" == .str egress.policyHash &&
        fields.get "egress_policy_identity" == .str egress.policyIdentity &&
        fields.get "inference_endpoint_identity" == .str egress.endpointIdentity
      let declared := match fields.get "inference_data_use_policy" with
        | .obj policy => Table.get policy "inference_route_identity" == .str egress.routeIdentity
        | _ => true
      let route := fields.get "inference_route_identity"
      let routed := unset.elem route || route == .str egress.routeIdentity
      let network := if fields.get "network_egress" == .str "default_deny" then []
        else ["candidate network_egress must declare default_deny"]
      let policy := if egress.ready && bound && declared && routed then []
        else [("authoritative default-deny egress policy is unresolved or inconsistent: " ++
          egress.detail)]
      .ok (network ++ policy)

def bootstrapBlockers (deployment : Deployment) (candidate : Table) : List String :=
  let answer := deployment.bootstrap (candidate.get "opencode_bootstrap_identity")
    (candidate.get "opencode_models_identity")
  if answer.1 then []
  else ["managed OpenCode pre-start bootstrap is unresolved or inconsistent: " ++ answer.2]

/-- A candidate that names no route and no policy is left to the other checks. -/
def inferenceBlockers (deployment : Deployment) (candidate : Table) : List String :=
  if (candidate.lookup "inference_route_identity").isNone &&
      (candidate.lookup "inference_data_use_policy").isNone then []
  else
    let raw := candidate.get "inference_data_use_policy"
    let answer := deployment.policyCompleteness raw
    if !answer.1 then
      ["authoritative inference data-use policy is unresolved: " ++ answer.2]
    else if !raw.isObject then ["authoritative inference data-use policy is not a mapping"]
    else
      match deployment.inferencePolicy (candidate.get "inference_route_identity") with
      | none => [("authoritative inference data-use policy deployment configuration is missing or " ++
          "invalid")]
      | some configured =>
        if configured.equal raw then []
        else ["inference data-use policy does not match the deployment configuration"]

def sourceOf (record : Option EvidenceRecord) (role : String) : Option SourceFile :=
  record.bind fun evidence => evidence.source role

def payloadOf (record : Option EvidenceRecord) : Table := (record.map (·.payload)).getD []

def isFile (source : Option SourceFile) : Bool := source.any (·.isFile)

def hashJson (hash : Option String) : Json := (hash.map Json.str).getD .null

def sbomBlockers (security : Option EvidenceRecord) : List String :=
  let sbom := sourceOf security "production_sbom"
  if !isFile sbom then
    ["production SBOM is missing; development inventory is not sufficient"]
  else if !sbom.any (·.cyclonedx) then ["production SBOM is malformed"]
  else []

/-- The lock of the security evidence is the resolved dependency set. -/
def lockBlockers (security : Option EvidenceRecord) : List String :=
  let payload := payloadOf security
  let lock := sourceOf security "production_lock"
  let identity := if (payload.get "resolved_dependency_set_sha256").truthy then []
    else ["security evidence has no resolved dependency-set identity"]
  let portable := if !(payload.get "resolved_dependency_lock_sha256").truthy || !isFile lock then
      ["security evidence has no portable resolved dependency lock"]
    else
      match lock.bind (·.sha256), lock.bind (·.lockSet) with
      | some hash, some lockSet =>
        if payload.get "resolved_dependency_lock_sha256" == .str hash &&
            payload.get "resolved_dependency_set_sha256" == .str lockSet then []
        else ["security evidence lock does not match the resolved dependency set"]
      | some hash, none =>
        if payload.get "resolved_dependency_lock_sha256" == .str hash then
          ["security evidence dependency lock is malformed"]
        else ["security evidence lock does not match the resolved dependency set"]
      | none, _ => ["security evidence dependency lock is malformed"]
  identity ++ portable

def securityBlockers (candidate : Option Table) (security : Option EvidenceRecord) :
    List String :=
  let payload := payloadOf security
  let hash := hashJson ((sourceOf security "production_sbom").bind (·.sha256))
  let inventory := if isFile (sourceOf security "dependency_inventory") then []
    else ["security evidence has no portable dependency inventory"]
  let staged := if (payload.get "production_sbom_sha256").truthy &&
      (payload.get "production_sbom_sha256").equal hash then []
    else ["security evidence is not bound to the staged production SBOM"]
  let subject := match candidate with
    | some fields =>
      if (payload.get "resolved_dependency_set_sha256").equal
          (fields.get "resolved_dependency_set_sha256") then []
      else ["security evidence dependency set does not match candidate"]
    | none => []
  sbomBlockers security ++ lockBlockers security ++ inventory ++ staged ++ subject

def heavyBlockers (candidate : Option Table) (security heavy : Option EvidenceRecord) :
    List String :=
  let payload := payloadOf heavy
  let secured := payloadOf security
  let expected := (candidate.getD []).get "resolved_dependency_set_sha256"
  let subjects := ["resolved_dependency_set_sha256", "built_image_dependency_set_sha256"].filterMap
    fun name =>
      if (payload.get name).equal expected &&
          (payload.get name).equal (secured.get "resolved_dependency_set_sha256") then none
      else some (s!"heavy evidence {name} does not match the security and candidate dependency " ++
        "subject")
  let lock := if (payload.get "resolved_dependency_lock_sha256").equal
      (secured.get "resolved_dependency_lock_sha256") then []
    else ["heavy evidence lock does not match the security dependency subject"]
  let assets := match candidate with
    | some fields =>
      if fields.get "ocr_provider" == .str "paddle" &&
          !(payload.get "ocr_asset_manifest_sha256").equal
            (fields.get "ocr_asset_manifest_sha256") then
        ["heavy evidence OCR asset subject does not match the candidate"]
      else []
    | none => []
  subjects ++ lock ++ assets

def productionBlockers (deployment : Deployment) (candidate : Option Table)
    (records : Records) : Except Raised (List String) := do
  let egress ← egressBlockers deployment candidate
  return egress ++ bootstrapBlockers deployment (candidate.getD []) ++
    inferenceBlockers deployment (candidate.getD []) ++
    securityBlockers candidate (records .security) ++
    heavyBlockers candidate (records .security) (records .heavyRuntime)

def missingBlockers (records : Records) (state : ReleaseState) : List String :=
  ((stateRequirements state).filter fun type => (records type).isNone).map fun type =>
    s!"missing validated {type.name} evidence"

/-- Nothing of the candidate is needed for development. -/
def candidateCompleteness (deployment : Deployment) (candidate : Table) (state : ReleaseState) :
    List String :=
  match state with
  | .development | .certificationStale => []
  | _ => deployment.unresolvedFields candidate state

def candidateBlockers (deployment : Deployment) (candidate : Option Table)
    (state : ReleaseState) : List String :=
  match candidate with
  | none => if state = .development then [] else ["candidate deployment specification is missing"]
  | some fields => (candidateCompleteness deployment fields state).map fun name =>
    s!"candidate field is unresolved: {name}"

def authorityBlockers (deployment : Deployment) (records : Records) (state : ReleaseState) :
    List String :=
  if state ∈ [ReleaseState.internalValidated, .pilotApproved, .productionCertified] then
    match records .zeroKoreanComprehension, records .internalBilingual with
    | some zeroKorean, some bilingual =>
      if deployment.authorityBinding zeroKorean.payload bilingual.payload then []
      else ["zero-Korean study truth authority does not match KSA-29 bilingual evidence"]
    | _, _ => ["zero-Korean study lacks its KSA-29 bilingual truth authority"]
  else []

/-- The champion and the heavy engine are checked from this state on. -/
def beyondEvaluation (state : ReleaseState) : Bool :=
  [ReleaseState.syntheticProductionCandidate, .internalValidated, .pilotApproved,
    .productionCertified].elem state

def engineBlockers (records : Records) (state : ReleaseState) : List String :=
  if beyondEvaluation state &&
      (records .heavyRuntime).any (fun heavy => heavy.payload.get "full_engine_pass" != .bool true)
  then ["full heavy engine evidence is required beyond GEMMA_EVAL_READY"]
  else []

def lateBlockers [Sha256] (deployment : Deployment) (candidate : Option Table)
    (records : Records) (state : ReleaseState) : Except Raised (List String) :=
  if beyondEvaluation state then championBlockers deployment candidate records else .ok []

def finalBlockers (deployment : Deployment) (candidate : Option Table) (records : Records)
    (state : ReleaseState) : Except Raised (List String) :=
  if state = .productionCertified then productionBlockers deployment candidate records else .ok []

def stateSpecificBlockers [Sha256] (deployment : Deployment) (candidate : Option Table)
    (records : Records) (state : ReleaseState) : Except Raised (List String) := do
  let champion ← lateBlockers deployment candidate records state
  let production ← finalBlockers deployment candidate records state
  return sortedNames (missingBlockers records state ++ candidateBlockers deployment candidate state ++
    authorityBlockers deployment records state ++ engineBlockers records state ++ champion ++
    production)

/-- The loop stops at the first state with a blocker. -/
def climb (blockers : ReleaseState → Except Raised (List String)) :
    List ReleaseState → ReleaseState → Except Raised ReleaseState
  | [], available => .ok available
  | state :: rest, available => do
    let found ← blockers state
    if found.isEmpty then climb blockers rest state else .ok available

/-- The highest state that the evidence supports is returned, up to the requested one. -/
def deriveFrom (blockers : ReleaseState → Except Raised (List String)) (requested : String) :
    Except Raised (ReleaseState × List String) :=
  match requestableStates.find? fun state => stateValue state == requested with
  | none => .ok (.development, [s!"release state is not requestable: {requested}"])
  | some wanted => do
    let available ← climb blockers requestableStates.tail .development
    let found ← blockers wanted
    if rank available < rank wanted then
      return (available, sortedNames (found ++
        [s!"requested {requested} exceeds evidence-derived maximum {stateValue available}"]))
    else return (wanted, found)

def deriveReleaseState [Sha256] (deployment : Deployment) (candidate : Option Table)
    (records : Records) (requested : String) : Except Raised (ReleaseState × List String) :=
  deriveFrom (stateSpecificBlockers deployment candidate records) requested

end Release
end KSlide
