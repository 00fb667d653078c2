import KSlide.Json.Number
import KSlide.Rollout.Records

/-
This file gives the signed transitions of a rollout and the receipts of an admission.
-/

namespace KSlide

section
variable [Sha256] [Datetime] [Authority]

/-- The target of a transition, before its checks compare it. -/
structure TransitionTarget where
  candidateBinding : RolloutCandidateBinding
  stage : RolloutStage
  admissionsEnabled : Bool
  admittedCohorts : List String
  action : RolloutAction

/-- The action of a command decides the candidate, the stage and the cohorts. -/
def transitionTarget (policy : RolloutPolicy) (current : RolloutState) (command : Json) :
    Except ControlError TransitionTarget := do
  let requested := command.field "target_candidate_binding"
  let targetStage := command.field "target_stage"
  match command.field "action" with
  | .str "DISABLE" => do
    ensure (targetStage == .null && requested == .null)
      (.rollout "disable transition has contradictory targets")
    return ⟨current.candidateBinding, .disabled, false, [], .disable⟩
  | .str "SET_STAGE" => do
    let stage := RolloutStage.stages.find? fun stage =>
      targetStage == .str (Text.Enumeration.value stage)
    match stage with
    | some stage => do
      ensure (requested == .null) (.rollout "stage transition has an invalid target")
      return ⟨current.candidateBinding, stage, true, policy.stageCohorts stage, .setStage⟩
    | none => throw (.rollout "stage transition has an invalid target")
  | .str "ROLLBACK" =>
    match policy.rollbackTargetBinding with
    | none =>
      throw (.rollout "rollback target does not match the previously authorized candidate")
    | some rollback => do
      ensure (targetStage == .null && requested == rollback.asDict)
        (.rollout "rollback target does not match the previously authorized candidate")
      ensure (current.candidateBinding == policy.candidateBinding)
        (.rollout "rollback target does not match the active authorized candidate")
      return ⟨rollback, .disabled, false, [], .rollback⟩
  | .str "RESTORE_CANDIDATE" => do
    ensure (targetStage == .null && policy.rollbackTargetBinding.isSome &&
        requested == policy.candidateBinding.asDict &&
        some current.candidateBinding == policy.rollbackTargetBinding)
      (.rollout "restore target does not match the previously authorized candidate")
    return ⟨policy.candidateBinding, .disabled, false, [], .restoreCandidate⟩
  | _ => throw (.rollout "rollout transition action is unsupported")

/-- A signed explicit mutation of the stage gives the next state and its head. -/
def applyRolloutTransition (policy : Json) (state : RolloutState) (head : RolloutHead)
    (command : Json) (now : Int) : Except ControlError (RolloutState × RolloutHead) := do
  let policy ← policyPayload policy now
  let stateIdentity ← statePayload state policy.identity head
  ensure (state.candidateBinding == policy.candidateBinding ||
      some state.candidateBinding == policy.rollbackTargetBinding)
    (.rollout "rollout state candidate is not authorized by policy")
  ensure (state.stage == .disabled || state.admittedCohorts == policy.stageCohorts state.stage)
    (.rollout "rollout stage and named cohort state contradict policy")
  let payload ← verifySigned .rollout command "rollout transition"
  ensure (payload.hasKeys ["schema_version", "policy_identity", "expected_revision", "action",
      "transition_id", "actor_ref", "target_stage", "target_candidate_binding"] &&
      payload.field "schema_version" == .str "1.0")
    (.rollout "rollout transition is malformed")
  ensure (payload.field "policy_identity" == .str policy.identity &&
      (payload.field "expected_revision").equalsInt state.revision)
    (.rollout "rollout transition is stale, unauthorized, or replayed")
  let transitionId ← controlText .rollout isName "rollout transition ID"
    (payload.field "transition_id")
  let actorRef ← controlText .rollout isName "rollout actor reference" (payload.field "actor_ref")
  let target ← transitionTarget policy state payload
  let next : RolloutState := {
    policyIdentity := policy.identity
    revision := state.revision + 1
    previousStateIdentity := some stateIdentity
    candidateBinding := target.candidateBinding
    actorRef
    transitionedAt := Datetime.isoformat now
    stage := target.stage
    admissionsEnabled := target.admissionsEnabled
    admittedCohorts := target.admittedCohorts
    rollbackRule
    transitionId
    transitionAction := target.action }
  return (next, next.head)

/-- The deployment signs a command for its rollout control. -/
def buildTransitionCommand (policyIdentity : String) (expectedRevision : Nat)
    (action : RolloutAction) (transitionId actorRef : String) (targetStage : Option RolloutStage)
    (targetCandidate : Option RolloutCandidateBinding) : Json :=
  signed (.obj [
    ("action", .str (Text.Enumeration.value action)),
    ("actor_ref", .str actorRef),
    ("expected_revision", .int expectedRevision),
    ("policy_identity", .str policyIdentity),
    ("schema_version", .str "1.0"),
    ("target_candidate_binding", (targetCandidate.map (·.asDict)).getD .null),
    ("target_stage", .ofText? (targetStage.map Text.Enumeration.value)),
    ("transition_id", .str transitionId)])

end

inductive AdmissionStatus where
  | admitted | denied | rejected
deriving DecidableEq, Repr

inductive AdmissionReason where
  | cohortAdmitted | cohortNotAdmitted | admissionsDisabled | candidateRevoked | controlInvalid
  | authorityUnavailable
deriving DecidableEq, Repr

inductive LedgerStatus where
  | clear | revoked | recovered
deriving DecidableEq, Repr

instance : Text.Enumeration LedgerStatus where
  value
    | .clear => "CLEAR"
    | .revoked => "REVOKED"
    | .recovered => "RECOVERED"
  all := [.clear, .revoked, .recovered]

/-- The receipt of an admission names the policy, the state and the ledger that decided it. -/
structure RolloutAdmission where
  status : AdmissionStatus
  reasonCode : AdmissionReason
  candidateBinding : RolloutCandidateBinding
  policyIdentity : Option String := none
  policyVersion : Option String := none
  stateRevision : Option Nat := none
  stage : Option RolloutStage := none
  cohortId : Option String := none
  rollbackRule : String := KSlide.rollbackRule
  revocationStateIdentity : Option String := none
  revocationRevision : Option Nat := none
  revocationStatus : Option LedgerStatus := none
deriving DecidableEq

/-- An admission or a denial names its policy, its state and the ledger of its candidate. -/
def validateBoundAdmission (value : RolloutAdmission) : Except ControlError Unit := do
  ensure (value.policyIdentity.isSome && value.policyVersion.isSome && value.stateRevision.isSome &&
      value.stage.isSome)
    (.rollout "rollout admission is missing its authorized policy or state identity")
  let _ ← controlText .rollout Text.isSha256 "rollout admission revocation state identity"
    (.ofText? value.revocationStateIdentity)
  ensure value.revocationRevision.isSome
    (.rollout "rollout admission revocation revision is invalid")
  ensure value.revocationStatus.isSome (.rollout "rollout admission revocation status is invalid")
  ensure ((value.reasonCode == .candidateRevoked) == (value.revocationStatus == some .revoked))
    (.rollout "rollout admission revocation result is contradictory")
  ensure (!(value.status == .admitted && value.revocationStatus == some .revoked))
    (.rollout "revoked candidate cannot be admitted")
  let _ ← controlText .rollout isName "rollout admission cohort ID" (.ofText? value.cohortId)
  ensure (!(value.status == .admitted) || value.stage.any (·.isOpen))
    (.rollout "admitted rollout result has no enabled stage")
  ensure (!(value.reasonCode == .admissionsDisabled) || value.stage == some .disabled)
    (.rollout "disabled rollout result has a contradictory stage")
  ensure (!(value.reasonCode == .cohortNotAdmitted) || value.stage != some .disabled)
    (.rollout "cohort denial has a contradictory disabled stage")

/-- The engine checks a receipt before the receipt becomes durable evidence. -/
def validateRolloutAdmission (value : RolloutAdmission) (candidate : RolloutCandidateBinding) :
    Except ControlError RolloutAdmission := do
  ensure (value.candidateBinding == candidate) (.rollout "rollout admission binding is invalid")
  ensure (!(value.status == .admitted) || value.reasonCode == .cohortAdmitted)
    (.rollout "rollout admission result is contradictory")
  ensure (!(value.status == .denied) || value.reasonCode == .cohortNotAdmitted ||
      value.reasonCode == .admissionsDisabled || value.reasonCode == .candidateRevoked)
    (.rollout "rollout denial result is contradictory")
  ensure (!(value.status == .rejected) || value.reasonCode == .controlInvalid ||
      value.reasonCode == .authorityUnavailable)
    (.rollout "rollout rejection result is contradictory")
  let _ ← controlText .rollout isName "rollout admission cohort ID" (.ofText? value.cohortId)
  ensure (value.policyIdentity.all Text.isSha256)
    (.rollout "rollout policy identity is malformed")
  ensure (value.policyVersion.all (· == "1.0"))
    (.rollout "rollout admission policy version is unsupported")
  ensure (value.stateRevision.all (1 ≤ ·))
    (.rollout "rollout admission state revision is invalid")
  ensure (value.rollbackRule == rollbackRule)
    (.rollout "rollout admission rollback rule is unsupported")
  if value.status = .rejected then return value
  validateBoundAdmission value
  return value

end KSlide
