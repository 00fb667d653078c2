import KSlide.Conflict.Authority
import KSlide.Json.Text
import KSlide.Text.Unicode

/-
This file gives the resolution of one conflict from configured or explicit authority.
-/

namespace KSlide
open Conflict

/-- The files of a run and its current evidence answer the questions of the registry. -/
structure ConflictRun where
  runManifestFile : Except Raised (Option Json)
  registryFile : Except Raised (Option Json)
  queueRunId : Except Raised String
  assertionReference : (workUnitId semanticKind semanticId : String) →
    Except Raised AssertionReference
  authorityReference : (workUnitId : String) → (evidenceIds : List String) →
    Except Raised AuthorityEvidenceReference
  workspaceMutationGuard : Except Raised Unit
  /-- The context of current evidence is built from its texts. -/
  textual : ∀ workUnitId evidenceIds reference,
    authorityReference workUnitId evidenceIds = .ok reference →
      ∃ text, reference.sourceContext.get? "text" = some (.str text)

section
variable [Unicode]

def authorityTarget : Regex.Pattern :=
  open Regex Pattern in
  all [literal "AUTHORITY_SUPERSEDES", gap, letters ":=", gap,
    .group "target" (all [literal "assertion-",
      .many (.letter fun found => isBasic found || "._:-".toList.contains found) 1 (some 127)]),
    .boundary Unicode.isWord]

/-- The targets that some authority evidence names. -/
def authorityTargets (evidence : List AuthorityEvidenceReference) : List String :=
  let texts := evidence.map fun item =>
    match item.sourceContext.get? "text" with
    | some (.str text) => text
    -- the engine builds every context with a text
    | _ => ""
  (Regex.findAll authorityTarget (String.intercalate " " texts).toList).map fun found =>
    String.ofList ((found.group "target").getD [])

/-- Every identity of some authority evidence counts once. -/
def authorityEvidenceIds (evidence : List AuthorityEvidenceReference) : List String :=
  sortedSet (evidence.flatMap (·.evidenceIds))

/-- The evidence names exactly one assertion, and each failure has its own message. -/
def singleTarget (evidence : List AuthorityEvidenceReference) : Except Raised String :=
  match authorityTargets evidence with
  | [target] => .ok target
  | _ => .error (conflictError ("Explicit authority evidence must contain exactly one " ++
      "engine-verifiable AUTHORITY_SUPERSEDES target.") .supersessionInvalid)

/-- A stored relation binds the current evidence of both assertions. -/
def validateExplicitAuthorityRelation (supersession : Supersession) (conflict : Conflict) :
    Except Raised Unit := do
  match supersession.authorityRelation with
  | none =>
    throw (conflictError
      "Explicit-evidence supersession requires a typed authority relation." .supersessionInvalid)
  | some relation => do
    let _ ← authorityRelation relation
    match conflict.participant supersession.supersedingAssertionId,
        conflict.participant supersession.supersededAssertionId with
    | some winner, some loser => do
      let bound (name : String) (value : Json) : Bool := relation.field name == value
      let ids (values : List String) : Json := .arr ((sortedSet values).map .str)
      require (bound "superseding_assertion_id" (.str winner.assertionId) &&
          bound "superseded_assertion_id" (.str loser.assertionId))
        (conflictError
          "Supersession authority relation reverses or omits the declared winner."
          .supersessionInvalid)
      require (bound "superseding_evidence_ids" (ids winner.provenanceEvidenceIds) &&
          bound "superseded_evidence_ids" (ids loser.provenanceEvidenceIds))
        (conflictError ("Supersession authority relation does not bind the exact competing " ++
          "assertion evidence.") .supersessionInvalid)
      require (bound "authority_evidence_ids"
          (.arr ((authorityEvidenceIds supersession.authorityEvidence).map .str)))
        (conflictError ("Supersession authority relation does not bind the exact current " ++
          "authority evidence.") .supersessionInvalid)
      let target ← singleTarget supersession.authorityEvidence
      require (target == winner.assertionId)
        (conflictError
          "Explicit authority evidence names a different superseding assertion."
          .supersessionInvalid)
    | _, _ =>
      throw (conflictError
        "Supersession authority relation references unknown participants."
        .supersessionInvalid)

/-- The caller names evidence by its identities only. -/
def authorityEvidenceInputs (value : Json) : Except Raised (List (String × List String)) := do
  let listed ← items value
    "Authority evidence must contain only current EvidenceIR identities."
  listed.foldlM (fun inputs item => do
    require (item.hasKeys ["work_unit_id", "evidence_ids"])
      (conflictError "Authority evidence inputs may contain only work_unit_id and evidence_ids."
        .schemaInvalid)
    let workUnitId ← Conflict.identifier (item.field "work_unit_id") "work_unit_id"
    require (!(inputs.map Prod.fst).contains workUnitId)
      (conflictError "Authority evidence may reference each work unit only once." .schemaInvalid)
    let listedIds ← stringTuple (item.field "evidence_ids") "authority evidence_ids"
    let evidenceIds ← listedIds.mapM fun id => Conflict.identifier (.str id) "evidence_id"
    -- a repeated pair of a unit and an identity would repeat the unit
    require (decide evidenceIds.Nodup)
      (conflictError "Authority evidence IDs must be distinct." .schemaInvalid)
    return inputs ++ [(workUnitId, evidenceIds)]) []

end

namespace ConflictRun
variable [Sha256] [Unicode]

def runManifest (run : ConflictRun) : Except Raised Json := do
  match ← run.runManifestFile with
  | none => return .obj []
  | some value => do
    require value.isObject
      (conflictError "RUN_MANIFEST.json must contain an object." .schemaInvalid)
    return value

/-- The manifest says whether the run was created under the assessment contract. -/
def conflictContractRequired (run : ConflictRun) : Except Raised Bool := do
  let contract := (← run.runManifest).field "conflict_registry_contract"
  if contract = .null then return false
  require (contract.isObject && contract.field "schema_version" == .str "1.0" &&
      contract.field "assessment_required" == .bool true)
    (conflictError "Conflict registry contract is malformed." .schemaInvalid)
  return true

def conflictAuthorityPolicy (run : ConflictRun) : Except Raised AuthorityPolicy := do
  AuthorityPolicy.conflictAuthorityPolicy (← run.runManifest)

def loadConflictRegistry (limit : Nat) (run : ConflictRun) :
    Except Raised (Option ConflictRegistry) := do
  match ← run.registryFile with
  | none => return none
  | some value => return some (← ConflictRegistry.fromDict limit value)

/-- The record of a conflict holds what the engine reads from the run. -/
def validateParticipant (run : ConflictRun) (participant : AssertionReference) :
    Except Raised Unit := do
  let expected ← run.assertionReference participant.workUnitId participant.semanticKind
    participant.semanticId
  require (participant.asDict.equal expected.asDict)
    (conflictError "Conflict participant does not match current canonical/evidence state."
      .conflictReferenceInvalid [("assertion_id", .str participant.assertionId),
        ("work_unit_id", .str participant.workUnitId)])

def validateAuthority (run : ConflictRun) (authority : AuthorityEvidenceReference) :
    Except Raised Unit := do
  let expected ← run.authorityReference authority.workUnitId authority.evidenceIds
  require (authority.asDict.equal expected.asDict)
    (conflictError "Supersession authority evidence is stale or fabricated." .supersessionInvalid
      [("work_unit_id", .str authority.workUnitId)])

/-- A supersession is checked against the conflict that it resolves. -/
def validateSupersession (run : ConflictRun) (configuredAuthorityIds : List String)
    (policy : AuthorityPolicy) (strict : Bool) (conflict : Conflict)
    (supersession : Supersession) : Except Raised Unit := do
  let explicit := supersession.authorityBasis ==
    Text.Enumeration.value SupersessionAuthorityBasis.explicitEvidence
  let configured := supersession.authorityBasis ==
    Text.Enumeration.value SupersessionAuthorityBasis.configuredAuthority
  require (supersession.state == Text.Enumeration.value SupersessionState.authoritative)
    (conflictError "Supersession state is not authoritative." .supersessionInvalid)
  if explicit then
    require (!supersession.authorityEvidence.isEmpty && supersession.authorityConfigId.isNone &&
        supersession.authorityConfigRevision.isNone)
      (conflictError ("Explicit-evidence supersession requires authority evidence and no config " ++
        "winner.") .supersessionInvalid)
    require (!strict || supersession.authorityRelation.isSome)
      (conflictError ("KSA-23 explicit-evidence supersession requires a typed authority " ++
        "relation.") .supersessionInvalid)
  else if configured then
    require (supersession.authorityEvidence.isEmpty &&
        supersession.authorityConfigId.any (configuredAuthorityIds.contains ·))
      (conflictError "Configured supersession authority is unsupported or unavailable."
        .supersessionInvalid)
    require (!strict || supersession.authorityConfigRevision == some policy.revision &&
        policy.allows supersession conflict)
      (conflictError ("Configured supersession does not match the bound deterministic authority " ++
        "policy.") .supersessionInvalid)
  else
    throw (conflictError "Unknown supersession authority cannot choose a winner."
      .supersessionInvalid)
  supersession.authorityEvidence.forM run.validateAuthority
  if strict && explicit then
    validateExplicitAuthorityRelation supersession conflict
  let participantIds := conflict.participants.map (·.assertionId)
  require (participantIds.contains supersession.supersedingAssertionId &&
      participantIds.contains supersession.supersededAssertionId)
    (conflictError "Supersession points outside its conflict participants." .supersessionInvalid)

/-- Every reference of a registry is compared with the run. -/
def validateAgainstRun (limit : Nat) (run : ConflictRun) (configuredAuthorityIds : List String)
    (policy : AuthorityPolicy) (strict : Bool) (registry : ConflictRegistry) :
    Except Raised Unit := do
  registry.validateStructure limit
  let queueRunId ← run.queueRunId
  require (registry.runId == queueRunId)
    (conflictError "Conflict registry run_id does not match WORK_QUEUE.json." .conflictInvalid
      [("expected", .str queueRunId), ("actual", .str registry.runId)])
  registry.conflicts.forM fun conflict => do
    conflict.participants.forM run.validateParticipant
    (registry.supersessions.filter (·.conflictId == conflict.conflictId)).forM
      (run.validateSupersession configuredAuthorityIds policy strict conflict)

/-- The engine derives the supersession from the text of the named evidence. -/
def explicitSupersession (run : ConflictRun) (conflict : Conflict) (value : Json) :
    Except Raised Supersession := do
  let inputs ← authorityEvidenceInputs value
  require (!inputs.isEmpty)
    (conflictError "Explicit authority requires current authority evidence." .supersessionInvalid)
  let sorted := inputs.insertionSort fun first second => toLex first ≤ toLex second
  let evidence ← sorted.mapM fun (workUnitId, evidenceIds) =>
    run.authorityReference workUnitId evidenceIds
  let target ← singleTarget evidence
  let participantIds := (conflict.participants.map (·.assertionId)).dedup
  match conflict.participant target with
  | none =>
    throw (conflictError
      "Explicit authority target is not a participant in the referenced conflict."
      .supersessionInvalid)
  | some winner => do
    require (participantIds.length == 2)
      (conflictError
        "Explicit authority cannot derive one loser from a multi-participant conflict."
        .supersessionInvalid)
    match (participantIds.find? (· != target)).bind conflict.participant with
    | none => throw (.other "StopIteration")
    | some loser => do
      let ids (values : List String) : Json := .arr ((sortedSet values).map .str)
      let relation : Json := .obj [
        ("authority_evidence_ids", .arr ((authorityEvidenceIds evidence).map .str)),
        ("relation_type", .str "supersedes"),
        ("superseded_assertion_id", .str loser.assertionId),
        ("superseded_evidence_ids", ids loser.provenanceEvidenceIds),
        ("superseding_assertion_id", .str winner.assertionId),
        ("superseding_evidence_ids", ids winner.provenanceEvidenceIds)]
      let basis := Text.Enumeration.value SupersessionAuthorityBasis.explicitEvidence
      return {
        supersessionId := supersessionIdFor conflict.conflictId winner.assertionId
          loser.assertionId basis (evidence.map (·.asDict)) none (some relation) none
        conflictId := conflict.conflictId
        supersedingAssertionId := winner.assertionId
        supersededAssertionId := loser.assertionId
        authorityBasis := basis
        authorityEvidence := evidence
        authorityRelation := some relation }

/-- A registry is revised only after its structure is checked. -/
def finalizeRegistry (limit : Nat) (registry : ConflictRegistry) :
    Except Raised ConflictRegistry := do
  registry.validateStructure limit
  return { registry with
    registryRevision := ← registry.computedRevision
    assessmentStatus := Text.Enumeration.value registry.expectedAssessmentStatus }

/-- A run without the contract saves no configured winner. -/
def saveConflictRegistry (limit : Nat) (run : ConflictRun) (registry : ConflictRegistry) :
    Except Raised ConflictRun := do
  run.workspaceMutationGuard
  let strict ← run.conflictContractRequired
  let policy ← run.conflictAuthorityPolicy
  let allowedIds := if strict then policy.configuredAuthorityIds else []
  run.validateAgainstRun limit allowedIds policy strict registry
  let saved := { run with registryFile := .ok (some (← registry.asDict)) }
  if strict then
    let status ← registry.effectiveAssessmentStatus
    let marker : Json := .obj [("schema_version", .str "1.0"),
      ("status", .str (Text.Enumeration.value status))]
    match ← run.runManifest with
    | .obj fields =>
      let marked : Json := .obj (Json.insertField "conflict_assessment" marker fields)
      return { saved with runManifestFile := .ok (some marked) }
    | _ => return saved
  else return saved

/-- Without evidence the configured authority decides. -/
def candidateSupersession (run : ConflictRun) (policy : AuthorityPolicy) (conflict : Conflict)
    (authorityEvidence : Json) : Except Raised (Option Supersession) :=
  if authorityEvidence = .null then .ok (policy.configuredSupersession conflict)
  else some <$> run.explicitSupersession conflict authorityEvidence

/-- The conflict as one supersession resolves it. -/
def resolvedBy (conflict : Conflict) (candidate : Supersession) : Conflict :=
  { conflict with
    resolutionState := Text.Enumeration.value
      ConflictResolutionState.resolvedByAuthoritativeSupersession
    supersessionIds := [candidate.supersessionId] }

/-- A registry without a change is absent here. -/
def recordSupersession (limit : Nat) (current : ConflictRegistry) (conflict : Conflict)
    (candidate : Option Supersession) : Except Raised (Option ConflictRegistry) :=
  let overridden := conflictError
    "An existing authoritative supersession cannot be replaced or overridden." .supersessionInvalid
  let existing := current.supersessions.filter (·.conflictId == conflict.conflictId)
  match candidate with
  -- too little authority leaves the conflict open
  | none => if conflict.isUnresolved then .ok none else .error overridden
  | some candidate =>
    if !conflict.isUnresolved then
      match existing with
      | [only] =>
        if only.asDict.equal candidate.asDict &&
            conflict.supersessionIds == [candidate.supersessionId] then .ok none
        else .error overridden
      | _ => .error overridden
    else do
      require existing.isEmpty
        (conflictError "An unresolved conflict already has an authoritative supersession."
          .supersessionInvalid)
      return some (← finalizeRegistry limit {
        runId := current.runId
        conflicts := current.conflicts.map fun item =>
          if item.conflictId = conflict.conflictId then resolvedBy conflict candidate else item
        supersessions := current.supersessions ++ [candidate] })

/-- One existing conflict is resolved, and the run keeps the new registry. -/
def resolveAuthoritativeConflict (limit : Nat) (run : ConflictRun) (conflictId : Json)
    (authorityEvidence : Json) : Except Raised (ConflictRegistry × ConflictRun) := do
  let conflictId ← Conflict.identifier conflictId "conflict_id"
  match ← run.loadConflictRegistry limit with
  | none => throw (conflictError "The requested conflict does not exist in the current registry.")
  | some current => do
    let policy ← run.conflictAuthorityPolicy
    let strict ← run.conflictContractRequired
    run.validateAgainstRun limit policy.configuredAuthorityIds policy strict current
    match current.conflicts.find? (·.conflictId == conflictId) with
    | none =>
      throw (conflictError "The requested conflict does not exist in the current registry."
        .conflictInvalid [("conflict_id", .str conflictId)])
    | some conflict => do
      let candidate ← run.candidateSupersession policy conflict authorityEvidence
      match ← recordSupersession limit current conflict candidate with
      | none => return (current, run)
      | some registry => return (registry, ← run.saveConflictRegistry limit registry)

end ConflictRun
end KSlide
