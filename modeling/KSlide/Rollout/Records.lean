import KSlide.Digest
import KSlide.Errors
import KSlide.Json.Record
import KSlide.Text.Enumeration
import Mathlib.Data.List.Dedup
import Mathlib.Data.List.Sort
import Mathlib.Data.String.Basic

/-
This file gives the documents of the rollout control and the checks that read them.
-/

namespace KSlide

/-- The rollout control and the revocation ledger raise their own errors. -/
inductive ControlError where
  | rollout (message : String)
  | revocation (message : String)
  | other (kind : String)
deriving DecidableEq, Repr

/-- A failed check stops a control computation with its error. -/
def ensure (condition : Bool) (error : ControlError) : Except ControlError Unit :=
  if condition then .ok () else .error error

@[simp] theorem ensure_ok {condition : Bool} {error : ControlError} {value : Unit} :
    ensure condition error = .ok value ↔ condition = true := by
  cases condition <;> simp [ensure]

/-- A parsed time is malformed, has no timezone or names a moment. -/
inductive ParsedTime where
  | malformed
  | naive
  | aware (moment : Int)
deriving DecidableEq, Repr

/-- The standard library reads and writes times, and the model takes it as a parameter. -/
class Datetime where
  fromisoformat : String → ParsedTime
  isoformat : Int → String
  fromisoformat_isoformat : ∀ moment, fromisoformat (isoformat moment) = .aware moment

/-- This stand-in writes one letter for each second and serves the closed runs. -/
@[reducible] def Datetime.letters : Datetime where
  fromisoformat text :=
    match text.toList with
    | '-' :: seconds => .aware (-seconds.length)
    | seconds => .aware seconds.length
  isoformat moment :=
    if moment < 0 then String.ofList ('-' :: List.replicate moment.natAbs 's')
    else String.ofList (List.replicate moment.natAbs 's')
  fromisoformat_isoformat moment := by
    by_cases negative : moment < 0
    · rw [if_pos negative]
      simp only [String.toList_ofList, List.length_replicate]
      congr 1
      omega
    · rw [if_neg negative]
      cases count : moment.natAbs with
      | zero =>
        simp
        omega
      | succ rest =>
        simp [List.replicate_succ]
        omega

/-- The authority signs the canonical text of a document with its key. -/
class Authority where
  signature : Json → String

/-- This stand-in signs with the digest of the document and serves the closed runs. -/
@[reducible] def Authority.digest [Sha256] : Authority := ⟨stableRevision⟩

/-- Both controls name their actors, transitions and cohorts alike. -/
def isName (text : String) : Bool :=
  Text.isToken Text.isLower (fun letter => Text.isLower letter || Text.isDigit letter ||
    "_.-".toList.contains letter) 63 text

/-- The errors of one control carry the words of its own messages. -/
def controlText (error : String → ControlError) (accepts : String → Bool) (label : String) :
    Json → Except ControlError String
  | .str text => if accepts text then .ok text else .error (error (label ++ " is malformed"))
  | _ => .error (error (label ++ " is malformed"))

@[simp] theorem controlText_ok {error : String → ControlError} {accepts : String → Bool}
    {label : String} {value : Json} {text : String} :
    controlText error accepts label value = .ok text ↔
      value = .str text ∧ accepts text = true := by
  cases value with
  | str found =>
    simp only [controlText, Json.str.injEq]
    split <;> grind
  | _ => simp [controlText]

def controlTime [Datetime] (error : String → ControlError) (label : String) :
    Json → Except ControlError Int
  | .str text =>
    match Datetime.fromisoformat text with
    | .malformed => .error (error (label ++ " is malformed"))
    | .naive => .error (error (label ++ " must include a timezone"))
    | .aware moment => .ok moment
  | _ => .error (error (label ++ " is missing"))

theorem controlTime_ok [Datetime] {error : String → ControlError} {label : String} {value : Json}
    {moment : Int} : controlTime error label value = .ok moment ↔
      ∃ text, value = .str text ∧ Datetime.fromisoformat text = .aware moment := by
  cases value with
  | str text =>
    cases parsed : Datetime.fromisoformat text <;> simp [controlTime, parsed]
  | _ => simp [controlTime]

def natural (value : Json) (error : ControlError) : Except ControlError Nat :=
  match value with
  | .int number => if 0 ≤ number then .ok number.toNat else .error error
  | _ => .error error

@[simp] theorem natural_ok {value : Json} {error : ControlError} {number : Nat} :
    natural value error = .ok number ↔ value = .int number := by
  cases value with
  | int found =>
    simp only [natural, Json.int.injEq]
    split_ifs with nonnegative
    · simp only [Except.ok.injEq]
      omega
    · simp only [false_iff]
      omega
  | _ => simp [natural]

/-- A signed document holds its payload and the signature of the authority. -/
def signed [Authority] (payload : Json) : Json :=
  .obj [("payload", payload), ("signature", .str (Authority.signature payload))]

def verifySigned [Authority] (error : String → ControlError) (value : Json) (label : String) :
    Except ControlError Json := do
  ensure (value.hasKeys ["payload", "signature"] && (value.field "payload").isObject)
    (error (label ++ " is malformed"))
  ensure (value.field "signature" == .str (Authority.signature (value.field "payload")))
    (error (label ++ " is unauthorized or modified"))
  return value.field "payload"

theorem verifySigned_signed [Authority] {error : String → ControlError} {payload : Json}
    {label : String} (object : payload.isObject = true) :
    verifySigned error (signed payload) label = .ok payload := by
  have payloadField : (signed payload).field "payload" = payload := rfl
  have signatureField : (signed payload).field "signature" =
      .str (Authority.signature payload) := rfl
  have keys : (signed payload).hasKeys ["payload", "signature"] = true := by
    simp [signed, Json.hasKeys]
  simp [verifySigned, payloadField, signatureField, keys, object]

/-- A candidate is bound by its source, its deployment and its run environment. -/
structure RolloutCandidateBinding where
  subjectGitSha : String
  deploymentFingerprint : String
  runEnvironmentIdentitySha256 : String
  subject : Text.isExactly Text.isHex 40 subjectGitSha = true
  deployment : Text.isSha256 deploymentFingerprint = true
  environment : Text.isSha256 runEnvironmentIdentitySha256 = true
deriving DecidableEq

namespace RolloutCandidateBinding

def asDict (candidate : RolloutCandidateBinding) : Json := .obj [
  ("deployment_fingerprint", .str candidate.deploymentFingerprint),
  ("run_environment_identity_sha256", .str candidate.runEnvironmentIdentitySha256),
  ("subject_git_sha", .str candidate.subjectGitSha)]

def fromMapping (value : Json) : Except ControlError RolloutCandidateBinding :=
  let malformed := ControlError.rollout "candidate binding is malformed"
  if value.hasKeys ["deployment_fingerprint", "run_environment_identity_sha256",
      "subject_git_sha"] then
    match value.field "subject_git_sha", value.field "deployment_fingerprint",
        value.field "run_environment_identity_sha256" with
    | .str subjectGitSha, .str deploymentFingerprint, .str runEnvironmentIdentitySha256 =>
      if valid : Text.isExactly Text.isHex 40 subjectGitSha = true ∧
          Text.isSha256 deploymentFingerprint = true ∧
          Text.isSha256 runEnvironmentIdentitySha256 = true then
        .ok ⟨subjectGitSha, deploymentFingerprint, runEnvironmentIdentitySha256, valid.1,
          valid.2.1, valid.2.2⟩
      else .error malformed
    | _, _, _ => .error malformed
  else .error malformed

@[simp] theorem fromMapping_asDict (candidate : RolloutCandidateBinding) :
    fromMapping candidate.asDict = .ok candidate := by
  have keys : candidate.asDict.hasKeys ["deployment_fingerprint",
      "run_environment_identity_sha256", "subject_git_sha"] = true := by
    simp [asDict, Json.hasKeys]
  have first : candidate.asDict.field "subject_git_sha" = .str candidate.subjectGitSha := rfl
  have second : candidate.asDict.field "deployment_fingerprint" =
      .str candidate.deploymentFingerprint := rfl
  have third : candidate.asDict.field "run_environment_identity_sha256" =
      .str candidate.runEnvironmentIdentitySha256 := rfl
  unfold fromMapping
  rw [if_pos keys, first, second, third]
  dsimp only
  rw [dif_pos ⟨candidate.subject, candidate.deployment, candidate.environment⟩]

end RolloutCandidateBinding

/-- Admissions are disabled or open for the cohorts of one stage. -/
inductive RolloutStage where
  | disabled | namedCohort | pilot | canary | phased | full
deriving DecidableEq, Repr

instance : Text.Enumeration RolloutStage where
  value
    | .disabled => "DISABLED"
    | .namedCohort => "NAMED_COHORT"
    | .pilot => "PILOT"
    | .canary => "CANARY"
    | .phased => "PHASED"
    | .full => "FULL"
  all := [.disabled, .namedCohort, .pilot, .canary, .phased, .full]

namespace RolloutStage

/-- The stages of a policy expand from one cohort to all cohorts. -/
def stages : List RolloutStage := [.namedCohort, .pilot, .canary, .phased, .full]

def isOpen (stage : RolloutStage) : Bool := stage != .disabled

theorem mem_stages {stage : RolloutStage} : stage ∈ stages ↔ stage.isOpen = true := by
  cases stage <;> decide

end RolloutStage

inductive RolloutAction where
  | initialization | setStage | disable | rollback | restoreCandidate
deriving DecidableEq, Repr

instance : Text.Enumeration RolloutAction where
  value
    | .initialization => "INITIALIZE"
    | .setStage => "SET_STAGE"
    | .disable => "DISABLE"
    | .rollback => "ROLLBACK"
    | .restoreCandidate => "RESTORE_CANDIDATE"
  all := [.initialization, .setStage, .disable, .rollback, .restoreCandidate]

/-- The only supported rule lets bound runs complete. -/
def rollbackRule : String := "BOUND_RUNS_COMPLETE_OR_STOP_ON_IDENTITY_MISMATCH_V1"

/-- The policy of a rollout, as its reader returns it. -/
structure RolloutPolicy where
  policyVersion : String
  candidateBinding : RolloutCandidateBinding
  rollbackTargetBinding : Option RolloutCandidateBinding
  stageCohorts : RolloutStage → List String
  rollbackRule : String
  identity : String

section
variable [Sha256] [Datetime] [Authority]

def cohortNames : List Json → Except ControlError (List String)
  | [] => .ok []
  | item :: items => do
    let name ← controlText .rollout isName "rollout cohort ID" item
    return name :: (← cohortNames items)

def namedCohorts : Json → Except ControlError (List String)
  | .arr (item :: items) => cohortNames (item :: items)
  | _ => .error (.rollout "rollout stage has no named cohorts")

/-- Each stage strictly expands the stage before it. -/
def checkStages (stages : Json) : List RolloutStage → List String → Except ControlError Unit
  | [], _ => .ok ()
  | stage :: rest, previous => do
    let cohorts ← namedCohorts (stages.field (Text.Enumeration.value stage))
    ensure (decide (cohorts.Pairwise (· < ·)))
      (.rollout "rollout cohort list is duplicated or unordered")
    ensure (stage != .namedCohort || cohorts.length == 1)
      (.rollout "named-cohort stage must admit exactly one cohort")
    ensure (previous.isEmpty || (previous.all (· ∈ cohorts) && cohorts.any (· ∉ previous)))
      (.rollout "rollout stages must define deliberate strict expansion")
    checkStages stages rest cohorts

/-- The cohorts that the policy names for a stage. -/
def cohortsOf (stages : Json) (stage : RolloutStage) : List String :=
  match stages.field (Text.Enumeration.value stage) with
  | .arr items => items.filterMap fun
      | .str name => some name
      | _ => none
  | _ => []

/-- A policy need not name a rollback target. -/
def rollbackTarget : Json → Except ControlError (Option RolloutCandidateBinding)
  | .null => .ok none
  | target => some <$> RolloutCandidateBinding.fromMapping target

def policyPayload (value : Json) (now : Int) : Except ControlError RolloutPolicy := do
  let payload ← verifySigned .rollout value "rollout policy"
  ensure (payload.hasKeys ["schema_version", "policy_id", "policy_version", "policy_revision",
      "issued_at", "expires_at", "candidate_binding", "rollback_target_binding", "stage_cohorts",
      "rollback_rule"] && payload.field "schema_version" == .str "1.0")
    (.rollout "rollout policy has missing, unsupported, or contradictory fields")
  let _ ← controlText .rollout isName "rollout policy ID" (payload.field "policy_id")
  ensure (payload.field "policy_version" == .str "1.0")
    (.rollout "rollout policy version is unsupported")
  let revision ← natural (payload.field "policy_revision")
    (.rollout "rollout policy revision is malformed")
  ensure (1 ≤ revision) (.rollout "rollout policy revision is malformed")
  let issued ← controlTime .rollout "rollout policy issue time" (payload.field "issued_at")
  ensure (issued ≤ now) (.rollout "rollout policy is stale or not yet active")
  let expires ← controlTime .rollout "rollout policy expiry" (payload.field "expires_at")
  ensure (now < expires) (.rollout "rollout policy is stale or not yet active")
  let candidateBinding ← RolloutCandidateBinding.fromMapping (payload.field "candidate_binding")
  let rollbackTargetBinding ← rollbackTarget (payload.field "rollback_target_binding")
  ensure (rollbackTargetBinding != some candidateBinding)
    (.rollout "rollback target contradicts the active candidate")
  ensure (payload.field "rollback_rule" == .str rollbackRule)
    (.rollout "rollout rollback rule is unsupported")
  let stages := payload.field "stage_cohorts"
  ensure (stages.hasKeys (RolloutStage.stages.map Text.Enumeration.value))
    (.rollout "rollout stages are incomplete")
  checkStages stages RolloutStage.stages []
  return {
    policyVersion := "1.0"
    candidateBinding
    rollbackTargetBinding
    stageCohorts := cohortsOf stages
    rollbackRule
    identity := stableRevision payload }

end

/-- The signed state of a rollout names its stage, its candidate and the state before it. -/
structure RolloutState where
  policyIdentity : String
  revision : Nat
  previousStateIdentity : Option String
  candidateBinding : RolloutCandidateBinding
  actorRef : String
  transitionedAt : String
  stage : RolloutStage
  admissionsEnabled : Bool
  admittedCohorts : List String
  rollbackRule : String
  transitionId : String
  transitionAction : RolloutAction
deriving DecidableEq

namespace RolloutState

def asDict (state : RolloutState) : Json := .obj [
  ("actor_ref", .str state.actorRef),
  ("admissions_enabled", .bool state.admissionsEnabled),
  ("admitted_cohorts", .arr (state.admittedCohorts.map .str)),
  ("candidate_binding", state.candidateBinding.asDict),
  ("policy_identity", .str state.policyIdentity),
  ("previous_state_identity", .ofText? state.previousStateIdentity),
  ("revision", .int state.revision),
  ("rollback_rule", .str state.rollbackRule),
  ("schema_version", .str "1.0"),
  ("stage", .str (Text.Enumeration.value state.stage)),
  ("transition_action", .str (Text.Enumeration.value state.transitionAction)),
  ("transition_id", .str state.transitionId),
  ("transitioned_at", .str state.transitionedAt)]

def identity [Sha256] (state : RolloutState) : String := stableRevision state.asDict

end RolloutState

/-- The signed head names the latest state. -/
structure RolloutHead where
  revision : Nat
  stateIdentity : String
deriving DecidableEq

section
variable [Sha256] [Datetime]

/-- The head that belongs to a state. -/
def RolloutState.head (state : RolloutState) : RolloutHead := ⟨state.revision, state.identity⟩

def initialRolloutState (policy : RolloutPolicy) (now : Int) : RolloutState where
  policyIdentity := policy.identity
  revision := 1
  previousStateIdentity := none
  candidateBinding := policy.candidateBinding
  actorRef := "deployment_authority"
  transitionedAt := Datetime.isoformat now
  stage := .disabled
  admissionsEnabled := false
  admittedCohorts := []
  rollbackRule := policy.rollbackRule
  transitionId := "initial"
  transitionAction := .initialization

/-- Only the first state has no state before it. -/
def statePrevious (state : RolloutState) : Except ControlError Unit :=
  if state.revision = 1 then
    ensure (state.transitionAction == .initialization && state.previousStateIdentity.isNone)
      (.rollout "initial rollout state is contradictory")
  else
    ensure (state.previousStateIdentity.any Text.isSha256)
      (.rollout "rollout state transition chain is malformed")

/-- Admissions are open in every stage but the disabled one. -/
def stateAdmissions (state : RolloutState) : Except ControlError Unit :=
  if state.stage = .disabled then
    ensure (!state.admissionsEnabled && state.admittedCohorts.isEmpty)
      (.rollout "disabled rollout state is contradictory")
  else
    ensure state.admissionsEnabled
      (.rollout "rollout stage and admission control contradict each other")

/-- A stored state is read with its head, and its identity is returned. -/
def statePayload (state : RolloutState) (policyIdentity : String) (head : RolloutHead) :
    Except ControlError String := do
  ensure (state.policyIdentity == policyIdentity && state.rollbackRule == rollbackRule)
    (.rollout "rollout state policy identity or rollback rule drifted")
  ensure (1 ≤ state.revision) (.rollout "rollout state revision is malformed")
  statePrevious state
  ensure (decide (state.admittedCohorts.Pairwise (· < ·)))
    (.rollout "rollout state cohort set is malformed")
  stateAdmissions state
  let _ ← controlText .rollout isName "rollout transition ID" (.str state.transitionId)
  let _ ← controlText .rollout isName "rollout actor reference" (.str state.actorRef)
  let _ ← controlTime .rollout "rollout transition time" (.str state.transitionedAt)
  ensure (state.transitionAction != .initialization ||
      (state.revision == 1 && state.stage == .disabled))
    (.rollout "initial rollout state is contradictory")
  ensure (state.transitionAction != .initialization || state.actorRef == "deployment_authority")
    (.rollout "initial rollout authority is contradictory")
  ensure (!(state.transitionAction == .disable || state.transitionAction == .rollback ||
      state.transitionAction == .restoreCandidate) || state.stage == .disabled)
    (.rollout "closed rollout transition is contradictory")
  ensure (state.transitionAction != .setStage || state.stage.isOpen)
    (.rollout "stage rollout transition is contradictory")
  ensure (head.revision == state.revision && head.stateIdentity == state.identity)
    (.rollout "rollout state is stale or replayed")
  return state.identity

end
end KSlide
