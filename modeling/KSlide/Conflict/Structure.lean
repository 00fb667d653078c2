import KSlide.Conflict.Records
import KSlide.Graph.DepthFirst

/-
This file gives the registry of a run and the checks of its structure.
-/

namespace KSlide
open Conflict

variable [Sha256]

structure ConflictRegistry where
  runId : String
  conflicts : List Conflict := []
  supersessions : List Supersession := []
  registryRevision : String := ""
  schemaVersion : String := "1.0"
  assessmentStatus : String := ""
deriving DecidableEq

namespace ConflictRegistry

/-- The contents of a registry decide its status. -/
def expectedAssessmentStatus (registry : ConflictRegistry) : ConflictAssessmentState :=
  if registry.conflicts ≠ [] then .assessedConflicts else .assessedZeroConflicts

def effectiveAssessmentStatus (registry : ConflictRegistry) :
    Except Raised ConflictAssessmentState :=
  if registry.assessmentStatus ≠ "" then
    match Text.Enumeration.parse ConflictAssessmentState registry.assessmentStatus with
    | some status => .ok status
    | none => .error (.other "ValueError")
  else .ok registry.expectedAssessmentStatus

/-- The order of the stored records does not depend on the order of the calls. -/
def withoutRevision (registry : ConflictRegistry) : Except Raised (List (String × Json)) := do
  let status ← registry.effectiveAssessmentStatus
  let conflicts := registry.conflicts.insertionSort fun first second =>
    first.conflictId ≤ second.conflictId
  let supersessions := registry.supersessions.insertionSort fun first second =>
    first.supersessionId ≤ second.supersessionId
  return [
    ("assessment_status", .str (Text.Enumeration.value status)),
    ("conflicts", .arr (conflicts.map (·.asDict))),
    ("run_id", .str registry.runId),
    ("schema_version", .str registry.schemaVersion),
    ("supersessions", .arr (supersessions.map (·.asDict)))]

def computedRevision (registry : ConflictRegistry) : Except Raised String := do
  return stableRevision (.obj (← registry.withoutRevision))

def asDict (registry : ConflictRegistry) : Except Raised Json := do
  let value ← registry.withoutRevision
  let revision ← if registry.registryRevision ≠ "" then .ok registry.registryRevision
    else registry.computedRevision
  return .obj (value.take 2 ++ [("registry_revision", .str revision)] ++ value.drop 2)

end ConflictRegistry

namespace Conflict

def isUnresolved (conflict : Conflict) : Bool :=
  conflict.resolutionState == Text.Enumeration.value ConflictResolutionState.unresolved

def isResolved (conflict : Conflict) : Bool :=
  conflict.resolutionState ==
    Text.Enumeration.value ConflictResolutionState.resolvedByAuthoritativeSupersession

def named (conflict : Conflict) : List (String × Json) :=
  [("conflict_id", .str conflict.conflictId)]

/-- The registry checks each conflict by itself. -/
def check (conflict : Conflict) : Except Raised Unit := do
  require (Text.Enumeration.parse ConflictResolutionState conflict.resolutionState).isSome
    (conflictError "Conflict resolution_state is unsupported." .schemaInvalid)
  require (conflict.conflictType == "contradiction")
    (conflictError "Conflict type is unsupported." .schemaInvalid)
  let ids := conflict.participants.map (·.assertionId)
  require (conflict.conflictId == conflictIdFor ids)
    (conflictError "Conflict ID is not stable for its participants." .conflictInvalid
      conflict.named)
  require (2 ≤ conflict.participants.length)
    (conflictError "Every conflict must retain at least two competing assertions."
      .conflictInvalid conflict.named)
  require (decide ids.Nodup)
    (conflictError "Conflict participants must be distinct." .conflictInvalid conflict.named)
  let sources := conflict.participants.map fun item =>
    (item.documentId, item.workUnitId, item.semanticKind, item.semanticId)
  require (sources.dedup.length == ids.length)
    (conflictError "Conflict participants must point to distinct canonical assertions."
      .conflictInvalid conflict.named)
  require (conflict.participants.all fun item => item.assertionId ==
      assertionIdFor item.documentId item.workUnitId item.semanticKind item.semanticId)
    (conflictError "Assertion identity is not stable for its canonical source object."
      .conflictReferenceInvalid)
  require (!(conflict.isUnresolved && !conflict.supersessionIds.isEmpty))
    (conflictError "Unresolved conflict may not carry supersessions." .conflictInvalid
      conflict.named)
  require (!(conflict.isResolved && conflict.supersessionIds.isEmpty))
    (conflictError "Resolved conflict requires an authoritative supersession." .conflictInvalid
      conflict.named)

end Conflict

namespace Supersession

/-- A relation binds the pair of assertions and the exact evidence. -/
def checkRelation (supersession : Supersession) (relation : Json) : Except Raised Unit := do
  let _ ← KSlide.authorityRelation relation
  require (relation.field "superseding_assertion_id" == .str supersession.supersedingAssertionId &&
      relation.field "superseded_assertion_id" == .str supersession.supersededAssertionId)
    (conflictError "Supersession authority relation does not bind the declared assertion pair."
      .supersessionInvalid)
  let evidenceIds := sortedSet (supersession.authorityEvidence.flatMap (·.evidenceIds))
  require (relation.field "authority_evidence_ids" == .arr (evidenceIds.map .str))
    (conflictError
      "Supersession authority relation does not bind the exact authority evidence."
      .supersessionInvalid)

/-- The registry checks a supersession against the conflict that it names. -/
def check (conflicts : List Conflict) (supersession : Supersession) : Except Raised Unit := do
  let supported := (Text.Enumeration.parse SupersessionState supersession.state).isSome
  match Text.Enumeration.parse SupersessionAuthorityBasis supersession.authorityBasis with
  | none =>
    throw (conflictError "Supersession state or authority basis is unsupported." .schemaInvalid)
  | some basis => do
    require supported
      (conflictError "Supersession state or authority basis is unsupported." .schemaInvalid)
    match conflicts.find? (·.conflictId == supersession.conflictId) with
    | none =>
      throw (conflictError "Supersession references an unknown conflict." .supersessionInvalid)
    | some conflict => do
      let participantIds := conflict.participants.map (·.assertionId)
      require (supersession.supersedingAssertionId != supersession.supersededAssertionId)
        (conflictError "Self-supersession is invalid." .supersessionInvalid)
      require (participantIds.contains supersession.supersedingAssertionId &&
          participantIds.contains supersession.supersededAssertionId)
        (conflictError "Supersession must reference two assertions in its conflict."
          .supersessionInvalid)
      require (!(basis == .explicitEvidence && (supersession.authorityEvidence.isEmpty ||
          supersession.authorityConfigId.isSome ||
          supersession.authorityConfigRevision.isSome)))
        (conflictError ("Explicit-evidence supersession requires authority evidence and no " ++
          "configured winner.") .supersessionInvalid)
      require (!(basis == .configuredAuthority && (!supersession.authorityEvidence.isEmpty ||
          supersession.authorityConfigId.isNone)))
        (conflictError "Configured supersession requires a configured authority identity only."
          .supersessionInvalid)
      require (supersession.supersessionId == supersessionIdFor supersession.conflictId
          supersession.supersedingAssertionId supersession.supersededAssertionId
          supersession.authorityBasis (supersession.authorityEvidence.map (·.asDict))
          supersession.authorityConfigId supersession.authorityRelation
          supersession.authorityConfigRevision)
        (conflictError "Supersession identity is not stable for its exact authority references."
          .supersessionInvalid)
      match supersession.authorityRelation with
      | none => .ok ()
      | some relation => supersession.checkRelation relation

end Supersession

namespace ConflictRegistry

/-- The assertions that win in one conflict. -/
def winners (registry : ConflictRegistry) (conflictId : String) : List String :=
  ((registry.supersessions.filter (·.conflictId == conflictId)).map
    (·.supersedingAssertionId)).dedup

/-- The assertions that one assertion supersedes. -/
def graph (registry : ConflictRegistry) (node : String) : List String :=
  sortedSet ((registry.supersessions.filter (·.supersedingAssertionId == node)).map
    (·.supersededAssertionId))

/-- The check stops at the first cycle, and a path longer than the stack is refused. -/
def checkCycles (limit : Nat) (registry : ConflictRegistry) : Except Raised Unit :=
  let roots := sortedSet (registry.supersessions.map (·.supersedingAssertionId))
  match DepthFirst.search registry.graph limit roots with
  | .ok _ => .ok ()
  | .error .cycle =>
    .error (conflictError "Supersession graph contains a cycle." .supersessionInvalid)
  | .error .depth => .error (.other "RecursionError")

/-- The check of the structure reports a status that names no member. -/
def supportedAssessmentStatus (registry : ConflictRegistry) :
    Except Raised ConflictAssessmentState :=
  match registry.effectiveAssessmentStatus with
  | .ok status => .ok status
  | .error _ =>
    .error (conflictError "Conflict registry assessment status is unsupported." .schemaInvalid)

/-- The limit is the depth of the interpreter's stack. -/
def validateStructure (limit : Nat) (registry : ConflictRegistry) : Except Raised Unit := do
  require (registry.schemaVersion == "1.0")
    (conflictError "Unsupported conflict registry schema version." .schemaInvalid)
  let _ ← identifier (.str registry.runId) "run_id"
  let status ← registry.supportedAssessmentStatus
  require (status == registry.expectedAssessmentStatus)
    (conflictError "Conflict registry assessment status does not match its contents.")
  let revision ← registry.computedRevision
  require (registry.registryRevision == "" || registry.registryRevision == revision)
    (conflictError "Conflict registry revision does not match its deterministic contents."
      .staleEvidence)
  let conflictIds : List String := registry.conflicts.map (·.conflictId)
  let supersessionIds : List String := registry.supersessions.map (·.supersessionId)
  require (decide conflictIds.Nodup)
    (conflictError "Conflict registry contains duplicate conflict IDs.")
  require (decide supersessionIds.Nodup)
    (conflictError "Conflict registry contains duplicate supersession IDs.")
  registry.conflicts.forM Conflict.check
  let referenced := registry.conflicts.flatMap (·.supersessionIds)
  require (referenced.all (supersessionIds.contains ·) &&
      supersessionIds.all (referenced.contains ·))
    (conflictError
      "Conflict registry supersession references are not bidirectionally complete.")
  registry.supersessions.forM (Supersession.check registry.conflicts)
  require (!registry.supersessions.any fun item => 1 < (registry.winners item.conflictId).length)
    (conflictError "A conflict may not have conflicting authoritative winners."
      .supersessionInvalid)
  registry.checkCycles limit

/-- A registry of an older release has no status and a revision of its other contents. -/
def upgraded (value : Json) (registry : ConflictRegistry) : Except Raised ConflictRegistry := do
  let legacy := Json.record ["conflicts", "run_id", "schema_version", "supersessions"] value.field
  require (registry.registryRevision == stableRevision legacy)
    (conflictError "Conflict registry revision does not match its deterministic contents."
      .staleEvidence [("expected", .str (stableRevision legacy)),
        ("actual", .str registry.registryRevision)])
  let assessed := { registry with
    registryRevision := ""
    assessmentStatus := Text.Enumeration.value (← registry.effectiveAssessmentStatus) }
  return { assessed with registryRevision := ← assessed.computedRevision }

/-- A stored registry names its fields and gives each of them its type. -/
def decoded (value : Json) : Except Raised ConflictRegistry := do
  require value.isObject (conflictError "Conflict registry must be an object." .schemaInvalid)
  let required := ["schema_version", "run_id", "conflicts", "supersessions", "registry_revision"]
  onlyFields value (required ++ ["assessment_status"]) "registry"
  requiredFields value required "Conflict registry is missing required fields."
  require (value.field "schema_version" == .str "1.0")
    (conflictError "Unsupported conflict registry schema version." .schemaInvalid)
  let arrays := "Conflict registry conflicts and supersessions must be arrays."
  let conflicts ← items (value.field "conflicts") arrays
  let supersessions ← items (value.field "supersessions") arrays
  let stored : ConflictRegistry := {
    runId := ← identifier (value.field "run_id") "run_id"
    conflicts := ← conflicts.mapM Conflict.fromDict
    supersessions := ← supersessions.mapM Supersession.fromDict
    registryRevision := ← nonEmpty (value.field "registry_revision") "registry_revision"
    schemaVersion := "1.0" }
  match value.get? "assessment_status" with
  | none => upgraded value stored
  | some (.str status) => return { stored with assessmentStatus := status }
  -- the text of any other value names no status
  | some _ => throw (.other "ValueError")

def fromDict (limit : Nat) (value : Json) : Except Raised ConflictRegistry := do
  let registry ← decoded value
  let revision ← registry.computedRevision
  require (registry.registryRevision == revision)
    (conflictError "Conflict registry revision does not match its deterministic contents."
      .staleEvidence [("expected", .str revision), ("actual", .str registry.registryRevision)])
  registry.validateStructure limit
  return registry

end ConflictRegistry
end KSlide
