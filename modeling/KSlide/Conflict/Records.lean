import KSlide.Digest
import KSlide.Errors
import KSlide.Json.Record
import KSlide.Text.Enumeration
import Mathlib.Data.List.Dedup
import Mathlib.Data.List.Sort
import Mathlib.Data.Prod.Lex
import Mathlib.Data.String.Basic

/-
This file gives the records of the conflict registry and the checks of their stored form.
-/

namespace KSlide

inductive ConflictResolutionState where
  | unresolved | resolvedByAuthoritativeSupersession
deriving DecidableEq, Repr

instance : Text.Enumeration ConflictResolutionState where
  value
    | .unresolved => "unresolved"
    | .resolvedByAuthoritativeSupersession => "resolved_by_authoritative_supersession"
  all := [.unresolved, .resolvedByAuthoritativeSupersession]

inductive ConflictAssessmentState where
  | legacyNotAssessed | notAssessed | assessedZeroConflicts | assessedConflicts
deriving DecidableEq, Repr

instance : Text.Enumeration ConflictAssessmentState where
  value
    | .notAssessed => "NOT_ASSESSED"
    | .assessedZeroConflicts => "ASSESSED_ZERO_CONFLICTS"
    | .assessedConflicts => "ASSESSED_CONFLICTS"
    | .legacyNotAssessed => "LEGACY_NOT_ASSESSED"
  all := [.notAssessed, .assessedZeroConflicts, .assessedConflicts, .legacyNotAssessed]

inductive AssertionKind where
  | region | tableCell | visualRelation | executiveClaim | numericFact
deriving DecidableEq, Repr

instance : Text.Enumeration AssertionKind where
  value
    | .region => "region"
    | .tableCell => "table_cell"
    | .visualRelation => "visual_relation"
    | .executiveClaim => "executive_claim"
    | .numericFact => "numeric_fact"
  all := [.region, .tableCell, .visualRelation, .executiveClaim, .numericFact]

/-- Only an explicitly supported authority may create a supersession. -/
inductive SupersessionState where
  | authoritative
deriving DecidableEq, Repr

instance : Text.Enumeration SupersessionState where
  value | .authoritative => "authoritative"
  all := [.authoritative]
  complete member := by cases member; decide
  distinct first second := by cases first; cases second; decide

inductive SupersessionAuthorityBasis where
  | explicitEvidence | configuredAuthority
deriving DecidableEq, Repr

instance : Text.Enumeration SupersessionAuthorityBasis where
  value
    | .explicitEvidence => "explicit_evidence"
    | .configuredAuthority => "configured_authority"
  all := [.explicitEvidence, .configuredAuthority]

inductive ProvenanceState where
  | sourceFact | supportedInterpretation | unresolved
deriving DecidableEq, Repr

instance : Text.Enumeration ProvenanceState where
  value
    | .sourceFact => "source_fact"
    | .supportedInterpretation => "supported_interpretation"
    | .unresolved => "unresolved"
  all := [.sourceFact, .supportedInterpretation, .unresolved]

/-- The sorted members of a set of texts. -/
def sortedSet (texts : List String) : List String := texts.dedup.insertionSort (· ≤ ·)

@[simp] theorem mem_sortedSet {texts : List String} {text : String} :
    text ∈ sortedSet texts ↔ text ∈ texts := by
  simp [sortedSet]

def conflictError (message : String) (code : ErrorCode := .conflictInvalid)
    (details : List (String × Json) := []) : Raised :=
  .kslide ⟨code, message, details⟩

namespace Conflict

def isIdentifier (text : String) : Bool :=
  Text.isToken Text.isAlnum (fun letter => Text.isAlnum letter || "._:-".toList.contains letter)
    127 text

def identifier (value : Json) (label : String) : Except Raised String :=
  checkedText isIdentifier (conflictError ("Conflict " ++ label ++ " is invalid.") .schemaInvalid
    [(label, value)]) value

def nonEmpty (value : Json) (label : String) : Except Raised String :=
  checkedText (!Text.isBlank ·)
    (conflictError ("Conflict " ++ label ++ " must be a non-empty string.") .schemaInvalid) value

/-- Every text of a text array is present. -/
def stringTuple (value : Json) (label : String) : Except Raised (List String) :=
  let refused :=
    conflictError ("Conflict " ++ label ++ " must be an array of strings.") .schemaInvalid
  match value with
  | .arr items => items.mapM (checkedText (· != "") refused)
  | _ => .error refused

def onlyFields (value : Json) (allowed : List String) (label : String) : Except Raised Unit :=
  let unknown := sortedSet (value.keys.filter (· ∉ allowed))
  require unknown.isEmpty (conflictError ("Conflict " ++ label ++ " contains unsupported fields.")
    .schemaInvalid [("fields", .arr (unknown.map .str))])

def requiredFields (value : Json) (required : List String) (message : String) :
    Except Raised Unit :=
  let missing := sortedSet (required.filter (· ∉ value.keys))
  require missing.isEmpty
    (conflictError message .schemaInvalid [("fields", .arr (missing.map .str))])

/-- A stored text names a member of its enumeration. -/
def member (Member : Type) [Text.Enumeration Member] (value : Json) (message : String) :
    Except Raised String :=
  checkedText (fun text => (Text.Enumeration.parse Member text).isSome)
    (conflictError message .schemaInvalid) value

def items (value : Json) (message : String) : Except Raised (List Json) :=
  match value with
  | .arr items => .ok items
  | _ => .error (conflictError message .schemaInvalid)

/-- An absent value passes every check. -/
def optional {Value : Type} (check : Json → Except Raised Value) :
    Json → Except Raised (Option Value)
  | .null => .ok none
  | value => some <$> check value

variable [Sha256]

def stableId (kind : String) (value : Json) : String := kind ++ "-" ++ stableRevision value

/-- The identity of one source-backed canonical assertion is stable. -/
def assertionIdFor (documentId workUnitId semanticKind semanticId : String) : String :=
  stableId "assertion" (.arr [.str documentId, .str workUnitId, .str semanticKind, .str semanticId])

def conflictIdFor (assertionIds : List String) : String :=
  stableId "conflict" (.arr [.str "contradiction", .arr ((sortedSet assertionIds).map .str)])

def supersessionIdFor (conflictId superseding superseded basis : String)
    (authorityRefs : List Json) (configId : Option String) (authorityRelation : Option Json)
    (authorityConfigRevision : Option String) : String :=
  let refs := authorityRefs.insertionSort fun first second => first.dumps ≤ second.dumps
  let bound := if authorityRelation.isSome || authorityConfigRevision.isSome then
    [authorityRelation.getD .null, .ofText? authorityConfigRevision] else []
  stableId "supersession" (.arr ([.str conflictId, .str superseding, .str superseded, .str basis,
    .arr refs, .ofText? configId] ++ bound))

end Conflict

open Conflict

/-- A relation names the evidence of both of its sides and of its authority. -/
def authorityRelation (value : Json) : Except Raised Json := do
  require value.isObject
    (conflictError "Supersession authority_relation must be an object." .schemaInvalid)
  let names := ["authority_evidence_ids", "relation_type", "superseded_assertion_id",
    "superseded_evidence_ids", "superseding_assertion_id", "superseding_evidence_ids"]
  onlyFields value names "authority relation"
  require (value.hasKeys names)
    (conflictError "Supersession authority_relation is missing required fields." .schemaInvalid)
  require (value.field "relation_type" == .str "supersedes")
    (conflictError "Supersession authority relation type is unsupported." .schemaInvalid)
  for name in ["superseding_assertion_id", "superseded_assertion_id"] do
    let _ ← identifier (value.field name) name
  require (value.field "superseding_assertion_id" != value.field "superseded_assertion_id")
    (conflictError "Supersession authority relation cannot self-supersede." .supersessionInvalid)
  for name in ["superseding_evidence_ids", "superseded_evidence_ids", "authority_evidence_ids"] do
    let values ← stringTuple (value.field name) ("authority_relation." ++ name)
    require (decide values.Nodup)
      (conflictError "Supersession authority relation evidence IDs must be distinct."
        .schemaInvalid)
  return value

/-- A durable pointer leads to one current canonical semantic object. -/
structure AssertionReference where
  assertionId : String
  documentId : String
  workUnitId : String
  semanticKind : String
  semanticId : String
  canonicalRef : Json
  evidenceRef : Json
  location : Json
  provenance : String
  provenanceEvidenceIds : List String
  sourceContext : Json
  renderedContext : Json
  provenanceReason : Option String := none
deriving DecidableEq

namespace AssertionReference

def asDict (reference : AssertionReference) : Json :=
  let reason := match reference.provenanceReason with
    | none => []
    | some reason => [("provenance_reason", Json.str reason)]
  .obj ([
    ("assertion_id", .str reference.assertionId),
    ("canonical_ref", reference.canonicalRef),
    ("document_id", .str reference.documentId),
    ("evidence_ref", reference.evidenceRef),
    ("location", reference.location),
    ("provenance", .str reference.provenance),
    ("provenance_evidence_ids", .arr (reference.provenanceEvidenceIds.map .str))] ++ reason ++ [
    ("rendered_context", reference.renderedContext),
    ("semantic_id", .str reference.semanticId),
    ("semantic_kind", .str reference.semanticKind),
    ("source_context", reference.sourceContext),
    ("work_unit_id", .str reference.workUnitId)])

def fromDict (value : Json) : Except Raised AssertionReference := do
  require value.isObject (conflictError "Conflict participant must be an object." .schemaInvalid)
  let required := ["assertion_id", "document_id", "work_unit_id", "semantic_kind", "semantic_id",
    "canonical_ref", "evidence_ref", "location", "provenance", "provenance_evidence_ids",
    "source_context", "rendered_context"]
  onlyFields value (required ++ ["provenance_reason"]) "participant"
  requiredFields value required "Conflict participant is missing required fields."
  require (["canonical_ref", "evidence_ref", "location", "source_context",
    "rendered_context"].all fun name => (value.field name).isObject)
    (conflictError "Conflict participant reference/context fields must be objects." .schemaInvalid)
  let semanticKind ← member AssertionKind (value.field "semantic_kind")
    "Conflict participant has an unsupported semantic kind."
  let provenance ← match value.field "provenance" with
    | .str text =>
      if (Text.Enumeration.parse ProvenanceState text).isSome then .ok text
      else .error (conflictError
        "conflict participant provenance is not a supported semantic value." .schemaInvalid
        [("value", .str text), ("allowed", .arr (Text.Enumeration.all.map fun
          (state : ProvenanceState) => .str (Text.Enumeration.value state)))])
    | _ => .error (conflictError "conflict participant provenance must be a string." .schemaInvalid)
  let evidenceIds ← stringTuple (value.field "provenance_evidence_ids") "provenance_evidence_ids"
  let reason ← optional (checkedText (!Text.isBlank ·)
    (conflictError "Conflict participant provenance_reason must be non-empty when present."
      .schemaInvalid)) (value.field "provenance_reason")
  let unresolved := provenance == Text.Enumeration.value ProvenanceState.unresolved
  require (!unresolved || reason.isSome)
    (conflictError "Unresolved conflict participants require provenance_reason." .schemaInvalid)
  require (unresolved || reason.isNone)
    (conflictError "Only unresolved conflict participants may carry provenance_reason."
      .schemaInvalid)
  return {
    assertionId := ← identifier (value.field "assertion_id") "assertion_id"
    documentId := ← identifier (value.field "document_id") "document_id"
    workUnitId := ← identifier (value.field "work_unit_id") "work_unit_id"
    semanticKind
    semanticId := ← identifier (value.field "semantic_id") "semantic_id"
    canonicalRef := value.field "canonical_ref"
    evidenceRef := value.field "evidence_ref"
    location := value.field "location"
    provenance
    provenanceEvidenceIds := evidenceIds
    sourceContext := value.field "source_context"
    renderedContext := value.field "rendered_context"
    provenanceReason := reason }

end AssertionReference

/-- The current evidence that establishes authority is named exactly. -/
structure AuthorityEvidenceReference where
  documentId : String
  workUnitId : String
  evidenceRevision : String
  evidenceIds : List String
  location : Json
  sourceContext : Json
deriving DecidableEq

namespace AuthorityEvidenceReference

def asDict (reference : AuthorityEvidenceReference) : Json := .obj [
  ("document_id", .str reference.documentId),
  ("evidence_ids", .arr (reference.evidenceIds.map .str)),
  ("evidence_revision", .str reference.evidenceRevision),
  ("location", reference.location),
  ("source_context", reference.sourceContext),
  ("work_unit_id", .str reference.workUnitId)]

def fromDict (value : Json) : Except Raised AuthorityEvidenceReference := do
  require value.isObject
    (conflictError "Supersession authority evidence must be an object." .schemaInvalid)
  let required := ["document_id", "work_unit_id", "evidence_revision", "evidence_ids", "location",
    "source_context"]
  onlyFields value required "authority evidence"
  requiredFields value required "Supersession authority evidence is missing required fields."
  require ((value.field "location").isObject && (value.field "source_context").isObject)
    (conflictError "Supersession authority evidence location/context must be objects."
      .schemaInvalid)
  let evidenceRevision ← checkedText Text.isSha256
    (conflictError "Supersession authority evidence revision is invalid." .schemaInvalid)
    (value.field "evidence_revision")
  let evidenceIds ← stringTuple (value.field "evidence_ids") "authority evidence_ids"
  require (decide evidenceIds.Nodup)
    (conflictError "Supersession authority evidence IDs must be distinct." .schemaInvalid)
  return {
    documentId := ← identifier (value.field "document_id") "document_id"
    workUnitId := ← identifier (value.field "work_unit_id") "work_unit_id"
    evidenceRevision
    evidenceIds
    location := value.field "location"
    sourceContext := value.field "source_context" }

end AuthorityEvidenceReference

structure Supersession where
  supersessionId : String
  conflictId : String
  supersedingAssertionId : String
  supersededAssertionId : String
  state : String := "authoritative"
  authorityBasis : String := "explicit_evidence"
  authorityEvidence : List AuthorityEvidenceReference := []
  authorityConfigId : Option String := none
  authorityRelation : Option Json := none
  authorityConfigRevision : Option String := none
deriving DecidableEq

namespace Supersession

def asDict (supersession : Supersession) : Json :=
  let revision := match supersession.authorityConfigRevision with
    | none => []
    | some revision => [("authority_config_revision", Json.str revision)]
  let relation := match supersession.authorityRelation with
    | none => []
    | some relation => [("authority_relation", relation)]
  let evidence := supersession.authorityEvidence.insertionSort fun first second =>
    toLex (first.workUnitId, first.evidenceIds) ≤ toLex (second.workUnitId, second.evidenceIds)
  .obj ([
    ("authority_basis", .str supersession.authorityBasis),
    ("authority_config_id", .ofText? supersession.authorityConfigId)] ++ revision ++ [
    ("authority_evidence", .arr (evidence.map (·.asDict)))] ++ relation ++ [
    ("conflict_id", .str supersession.conflictId),
    ("state", .str supersession.state),
    ("superseded_assertion_id", .str supersession.supersededAssertionId),
    ("superseding_assertion_id", .str supersession.supersedingAssertionId),
    ("supersession_id", .str supersession.supersessionId)])

def fromDict (value : Json) : Except Raised Supersession := do
  require value.isObject (conflictError "Supersession must be an object." .schemaInvalid)
  let required := ["supersession_id", "conflict_id", "superseding_assertion_id",
    "superseded_assertion_id", "state", "authority_basis", "authority_evidence",
    "authority_config_id"]
  onlyFields value (required ++ ["authority_relation", "authority_config_revision"]) "supersession"
  requiredFields value required "Supersession is missing required fields."
  let unsupported := "Supersession state or authority basis is unsupported."
  let state ← member SupersessionState (value.field "state") unsupported
  let basis ← member SupersessionAuthorityBasis (value.field "authority_basis") unsupported
  let authorityConfigId ← optional (identifier · "authority_config_id")
    (value.field "authority_config_id")
  let authorityConfigRevision ← optional (checkedText Text.isSha256
    (conflictError "Supersession authority_config_revision is invalid." .schemaInvalid))
    (value.field "authority_config_revision")
  let evidence ← items (value.field "authority_evidence")
    "Supersession authority_evidence must be an array."
  return {
    supersessionId := ← identifier (value.field "supersession_id") "supersession_id"
    conflictId := ← identifier (value.field "conflict_id") "conflict_id"
    supersedingAssertionId :=
      ← identifier (value.field "superseding_assertion_id") "superseding_assertion_id"
    supersededAssertionId :=
      ← identifier (value.field "superseded_assertion_id") "superseded_assertion_id"
    state
    authorityBasis := basis
    authorityEvidence := ← evidence.mapM AuthorityEvidenceReference.fromDict
    authorityConfigId
    authorityRelation := ← optional KSlide.authorityRelation (value.field "authority_relation")
    authorityConfigRevision }

end Supersession

structure Conflict where
  conflictId : String
  participants : List AssertionReference
  resolutionState : String := "unresolved"
  supersessionIds : List String := []
  conflictType : String := "contradiction"
deriving DecidableEq

namespace Conflict

def asDict (conflict : Conflict) : Json :=
  let participants := conflict.participants.insertionSort fun first second =>
    first.assertionId ≤ second.assertionId
  .obj [
    ("conflict_id", .str conflict.conflictId),
    ("conflict_type", .str conflict.conflictType),
    ("participants", .arr (participants.map (·.asDict))),
    ("resolution_state", .str conflict.resolutionState),
    ("supersession_ids", .arr ((conflict.supersessionIds.insertionSort (· ≤ ·)).map .str))]

def fromDict (value : Json) : Except Raised Conflict := do
  require value.isObject (conflictError "Conflict must be an object." .schemaInvalid)
  let required := ["conflict_id", "conflict_type", "resolution_state", "participants",
    "supersession_ids"]
  onlyFields value required "conflict"
  requiredFields value required "Conflict is missing required fields."
  let state ← member ConflictResolutionState (value.field "resolution_state")
    "Conflict resolution_state is unsupported."
  let participants ← items (value.field "participants") "Conflict participants must be an array."
  require (value.field "conflict_type" == .str "contradiction")
    (conflictError "Conflict type is unsupported." .schemaInvalid)
  return {
    conflictId := ← identifier (value.field "conflict_id") "conflict_id"
    conflictType := "contradiction"
    resolutionState := state
    participants := ← participants.mapM AssertionReference.fromDict
    supersessionIds := ← stringTuple (value.field "supersession_ids") "supersession_ids" }

end Conflict
end KSlide
