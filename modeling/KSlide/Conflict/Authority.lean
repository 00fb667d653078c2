import KSlide.Conflict.Structure
import KSlide.Json.Number

/-
This file gives the authority policy of a run and the supersession that it configures.
-/

namespace KSlide
open Conflict

/-- A selector fixes at least one field of a participant. -/
structure AuthoritySelector where
  documentId : Option String
  workUnitId : Option String
  semanticKind : Option String
  sourceIndex : Option Int
  present : documentId.isSome || workUnitId.isSome || semanticKind.isSome || sourceIndex.isSome

namespace AuthoritySelector

def selectorMatches (selector : AuthoritySelector) (participant : AssertionReference) : Bool :=
  selector.documentId.all (· == participant.documentId) &&
    selector.workUnitId.all (· == participant.workUnitId) &&
    selector.semanticKind.all (· == participant.semanticKind) &&
    selector.sourceIndex.all ((participant.location.field "source_index").equalsInt ·)

def asDict (selector : AuthoritySelector) : Json :=
  let text (name : String) (value : Option String) : List (String × Json) :=
    value.toList.map fun value => (name, .str value)
  .obj (text "document_id" selector.documentId ++ text "semantic_kind" selector.semanticKind ++
    selector.sourceIndex.toList.map (fun value => ("source_index", .int value)) ++
    text "work_unit_id" selector.workUnitId)

end AuthoritySelector

structure AuthorityRule where
  authorityConfigId : String
  priority : Int
  winnerSelector : AuthoritySelector
  loserSelector : AuthoritySelector

namespace AuthorityRule

/-- A rule lets one participant supersede another. -/
def directs (rule : AuthorityRule) (winner loser : AssertionReference) : Bool :=
  rule.winnerSelector.selectorMatches winner && rule.loserSelector.selectorMatches loser

def asDict (rule : AuthorityRule) : Json := .obj [
  ("authority_config_id", .str rule.authorityConfigId),
  ("loser_selector", rule.loserSelector.asDict),
  ("priority", .int rule.priority),
  ("winner_selector", rule.winnerSelector.asDict)]

end AuthorityRule

structure AuthorityPolicy where
  rules : List AuthorityRule

namespace AuthorityPolicy

def asDict (policy : AuthorityPolicy) : Json :=
  .obj [("rules", .arr (policy.rules.map (·.asDict))), ("schema_version", .str "1.0")]

def configuredAuthorityIds (policy : AuthorityPolicy) : List String :=
  policy.rules.map (·.authorityConfigId)

/-- A selector compares texts and an integer. -/
def selectorFromDict (value : Json) : Except Raised AuthoritySelector := do
  let names := ["document_id", "work_unit_id", "semantic_kind", "source_index"]
  require (value.isObject && !value.keys.isEmpty && value.keys.all (names.contains ·))
    (conflictError "Conflict authority policy selector is unsupported or empty." .schemaInvalid)
  let text (name : String) : Except Raised (Option String) :=
    match value.get? name with
    | none => .ok none
    | some found => some <$> checkedText (· != "")
        (conflictError "Conflict authority policy selector value is invalid." .schemaInvalid) found
  let documentId ← text "document_id"
  let semanticKind ← text "semantic_kind"
  let sourceIndex ← match value.get? "source_index" with
    | none => .ok none
    | some (.int index) => .ok (some index)
    | some _ => .error (conflictError
        "Conflict authority policy source_index selector is invalid." .schemaInvalid)
  let workUnitId ← text "work_unit_id"
  if present : documentId.isSome || workUnitId.isSome || semanticKind.isSome ||
      sourceIndex.isSome then
    return { documentId, workUnitId, semanticKind, sourceIndex, present }
  else
    throw (conflictError "Conflict authority policy selector is unsupported or empty."
      .schemaInvalid)

def ruleFromDict (value : Json) : Except Raised AuthorityRule := do
  require (value.hasKeys ["authority_config_id", "priority", "winner_selector", "loser_selector"])
    (conflictError "Conflict authority policy rules must be closed selector rules." .schemaInvalid)
  let authorityConfigId ←
    Conflict.identifier (value.field "authority_config_id") "authority_config_id"
  let priority ← match value.field "priority" with
    | .int priority => .ok priority
    | _ => .error (conflictError "Conflict authority policy priority must be an integer."
        .schemaInvalid)
  return {
    authorityConfigId
    priority
    winnerSelector := ← selectorFromDict (value.field "winner_selector")
    loserSelector := ← selectorFromDict (value.field "loser_selector") }

/-- The closed policy is bound to its run. -/
def conflictAuthorityPolicy (manifest : Json) : Except Raised AuthorityPolicy :=
  let authority := manifest.field "conflict_authority"
  if authority = .null then .ok ⟨[]⟩
  else if !authority.isObject then
    .error (conflictError "Conflict authority policy must be an object." .schemaInvalid)
  else if authority.keys.all (· == "configured_authority_ids") then .ok ⟨[]⟩
  else do
    require (authority.field "schema_version" == .str "1.0")
      (conflictError "Conflict authority policy version is unsupported." .schemaInvalid)
    require (authority.keys.all fun key =>
        ["schema_version", "rules", "configured_authority_ids"].contains key)
      (conflictError "Conflict authority policy contains unsupported fields." .schemaInvalid)
    let rules ← items ((authority.get? "rules").getD (.arr []))
      "Conflict authority policy rules must be an array."
    let policy : AuthorityPolicy := ⟨← rules.mapM ruleFromDict⟩
    match authority.field "configured_authority_ids" with
    | .null => return policy
    | listed => do
      let ids ← stringTuple listed "configured_authority_ids"
      require (ids.all (policy.configuredAuthorityIds.contains ·) &&
          policy.configuredAuthorityIds.all (ids.contains ·))
        (conflictError "Configured authority IDs must match the closed policy rules."
          .schemaInvalid)
      return policy

end AuthorityPolicy

/-- The highest of some priorities. -/
def highestPriority : List Int → Option Int
  | [] => none
  | first :: rest =>
    match highestPriority rest with
    | none => some first
    | some other => some (if first < other then other else first)

/-- The last participant with an identity stands for it. -/
def Conflict.participant (conflict : Conflict) (assertionId : String) :
    Option AssertionReference :=
  conflict.participants.findRev? (·.assertionId == assertionId)

namespace AuthorityPolicy

/-- The rules of the named authority allow a recorded supersession. -/
def allows (policy : AuthorityPolicy) (supersession : Supersession) (conflict : Conflict) : Bool :=
  match conflict.participant supersession.supersedingAssertionId,
      conflict.participant supersession.supersededAssertionId with
  | some winner, some loser =>
    let rules := policy.rules.filter fun rule =>
      some rule.authorityConfigId == supersession.authorityConfigId
    let found := rules.filter (·.directs winner loser)
    let opposite := rules.filter (·.directs loser winner)
    if found.isEmpty || !opposite.isEmpty then false
    else (highestPriority (found.map (·.priority))).any fun highest =>
      (found.filter (·.priority == highest)).length == 1
  | _, _ => false

end AuthorityPolicy

/-- A rule of the policy directs one participant against another. -/
structure ConfiguredRelationship where
  priority : Int
  configId : String
  winner : String
  loser : String
deriving DecidableEq

namespace AuthorityPolicy

/-- Every rule that currently matches a pair of participants is listed. -/
def configuredRelationships (policy : AuthorityPolicy) (conflict : Conflict) :
    List ConfiguredRelationship :=
  let participants := conflict.participants.insertionSort fun first second =>
    first.assertionId ≤ second.assertionId
  policy.rules.flatMap fun rule => participants.flatMap fun winner =>
    (participants.filter fun loser =>
      winner.assertionId != loser.assertionId && rule.directs winner loser).map fun loser =>
        ⟨rule.priority, rule.authorityConfigId, winner.assertionId, loser.assertionId⟩

variable [Sha256]

def revision (policy : AuthorityPolicy) : String := stableRevision policy.asDict

/-- The record of a configured winner binds the revision of the policy. -/
def supersessionFor (policy : AuthorityPolicy) (conflict : Conflict)
    (configId winner loser : String) : Supersession where
  supersessionId := supersessionIdFor conflict.conflictId winner loser
    (Text.Enumeration.value SupersessionAuthorityBasis.configuredAuthority) []
    (some configId) none (some policy.revision)
  conflictId := conflict.conflictId
  supersedingAssertionId := winner
  supersededAssertionId := loser
  authorityBasis := Text.Enumeration.value SupersessionAuthorityBasis.configuredAuthority
  authorityConfigId := some configId
  authorityConfigRevision := some policy.revision

/-- The policy decides only when its direction is unambiguous. -/
def configuredSupersession (policy : AuthorityPolicy) (conflict : Conflict) :
    Option Supersession :=
  let found := policy.configuredRelationships conflict
  let directions := (found.map fun item => (item.winner, item.loser)).dedup
  -- Both directions may match with different priorities.
  if directions.length ≠ 1 then none
  else do
    let priority ← highestPriority (found.map (·.priority))
    match ((found.filter (·.priority == priority)).map fun item =>
        (item.configId, item.winner, item.loser)).dedup with
    | [(configId, winner, loser)] => some (policy.supersessionFor conflict configId winner loser)
    | _ => none

end AuthorityPolicy
end KSlide
