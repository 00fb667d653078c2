import KSlide.Rollout.Transition

/-
This file gives the events of the revocation ledger and the state that they lead to.
-/

namespace KSlide

inductive RevocationReason where
  | brokenEvidenceIdentity | credentialLeakage | criticalSemanticDefect | criticalVulnerability
  | materialDataUsePolicyChange | privacyIncident | providerModelConfigDrift | securityIncident
  | tenantIsolationFailure
deriving DecidableEq, Repr

namespace RevocationReason

def value : RevocationReason → String
  | brokenEvidenceIdentity => "BROKEN_EVIDENCE_IDENTITY"
  | credentialLeakage => "CREDENTIAL_LEAKAGE"
  | criticalSemanticDefect => "CRITICAL_SEMANTIC_DEFECT"
  | criticalVulnerability => "CRITICAL_VULNERABILITY"
  | materialDataUsePolicyChange => "MATERIAL_DATA_USE_POLICY_CHANGE"
  | privacyIncident => "PRIVACY_INCIDENT"
  | providerModelConfigDrift => "PROVIDER_MODEL_CONFIG_DRIFT"
  | securityIncident => "SECURITY_INCIDENT"
  | tenantIsolationFailure => "TENANT_ISOLATION_FAILURE"

/-- The categories in the order of their values. -/
def all : List RevocationReason :=
  [brokenEvidenceIdentity, credentialLeakage, criticalSemanticDefect, criticalVulnerability,
    materialDataUsePolicyChange, privacyIncident, providerModelConfigDrift, securityIncident,
    tenantIsolationFailure]

theorem mem_all (reason : RevocationReason) : reason ∈ all := by
  cases reason <;> decide

/-- Each category has the authority that may revoke for it. -/
def authority : RevocationReason → String
  | criticalSemanticDefect => "quality_authority"
  | securityIncident | credentialLeakage | tenantIsolationFailure | criticalVulnerability =>
    "security_authority"
  | privacyIncident | materialDataUsePolicyChange => "privacy_authority"
  | providerModelConfigDrift => "deployment_authority"
  | brokenEvidenceIdentity => "release_authority"

/-- The sorted members of a set of categories. -/
def sorted (reasons : List RevocationReason) : List RevocationReason := all.filter (· ∈ reasons)

@[simp] theorem mem_sorted {reasons : List RevocationReason} {reason : RevocationReason} :
    reason ∈ sorted reasons ↔ reason ∈ reasons := by
  simp [sorted, mem_all]

/-- Sets with the same members are sorted alike. -/
theorem sorted_congr {first second : List RevocationReason}
    (same : ∀ reason, reason ∈ first ↔ reason ∈ second) : sorted first = sorted second := by
  unfold sorted
  congr 1
  funext reason
  simp [same reason]

@[simp] theorem sorted_sorted (reasons : List RevocationReason) :
    sorted (sorted reasons) = sorted reasons := sorted_congr fun _ => mem_sorted

theorem sorted_eq_nil {reasons : List RevocationReason} : sorted reasons = [] ↔ reasons = [] := by
  constructor
  · intro empty
    apply List.eq_nil_iff_forall_not_mem.mpr
    intro reason listed
    rw [← mem_sorted, empty] at listed
    cases listed
  · rintro rfl
    simp [sorted]

def parse (value : Json) : Option RevocationReason :=
  all.find? fun reason => value == .str reason.value

end RevocationReason

inductive EventAction where
  | revoke | recover
deriving DecidableEq, Repr

inductive EvidenceKind where
  | incidentRecord | securityAdvisory | policyChangeRecord | evidenceIdentityRecord
  | requalificationAttestation
deriving DecidableEq, Repr

instance : Text.Enumeration EvidenceKind where
  value
    | .incidentRecord => "INCIDENT_RECORD"
    | .securityAdvisory => "SECURITY_ADVISORY"
    | .policyChangeRecord => "POLICY_CHANGE_RECORD"
    | .evidenceIdentityRecord => "EVIDENCE_IDENTITY_RECORD"
    | .requalificationAttestation => "REQUALIFICATION_ATTESTATION"
  all := [.incidentRecord, .securityAdvisory, .policyChangeRecord, .evidenceIdentityRecord,
    .requalificationAttestation]

/-- The names and the references of an event. -/
structure CandidateEvent.Fields where
  action : EventAction
  actorRef : String
  authorityRef : String
  eventId : String
  expectedRevision : Nat
  revision : Nat
  expectedStateIdentity : String
  previousEventIdentity : Option String
deriving DecidableEq

/-- A valid event of the ledger, as its check returns it. -/
structure CandidateEvent extends CandidateEvent.Fields where
  occurredAt : String
  moment : Int
  reasonCategories : List RevocationReason
  identity : String
deriving DecidableEq

section
variable [Sha256] [Datetime]

def eventAction (value : Json) : Except ControlError EventAction :=
  match value with
  | .str "REVOKE" => .ok .revoke
  | .str "RECOVER" => .ok .recover
  | _ => .error (.revocation "candidate revocation action is unsupported")

/-- The categories are known, distinct and sorted. -/
def eventReasons (value : Json) : Except ControlError (List RevocationReason) :=
  let malformed := ControlError.revocation "candidate revocation reason categories are malformed"
  match value with
  | .arr items =>
    let reasons := items.filterMap RevocationReason.parse
    if reasons.length = items.length ∧ reasons ≠ [] ∧
        reasons = RevocationReason.sorted reasons then
      .ok reasons
    else .error malformed
  | _ => .error malformed

def validateEvidence (value : Json) (action : EventAction) : Except ControlError Unit := do
  let kind := Text.Enumeration.all.find? fun (kind : EvidenceKind) =>
    value.field "kind" == .str (Text.Enumeration.value kind)
  ensure (value.hasKeys ["kind", "identity"] && kind.isSome)
    (.revocation "candidate revocation evidence reference is malformed")
  let _ ← controlText .revocation Text.isSha256 "candidate revocation evidence identity"
    (value.field "identity")
  ensure (action == .revoke || kind == some .requalificationAttestation)
    (.revocation "candidate recovery lacks a requalification evidence reference")

/-- A revocation names one category and its authority, and a recovery is qualified. -/
def validateAuthority (action : EventAction) (authority : String)
    (reasons : List RevocationReason) : Except ControlError Unit :=
  match action with
  | .revoke => ensure (reasons.length == 1 && reasons.all (·.authority == authority))
      (.revocation "candidate revocation authority is not authorized for its reason")
  | .recover => ensure (authority == "qualification_authority")
      (.revocation "candidate recovery authority is unauthorized")

/-- The first event of a ledger has no event before it. -/
def previousEvent : Json → Except ControlError (Option String)
  | .null => .ok none
  | previous => some <$> controlText .revocation Text.isSha256
      "candidate revocation previous event identity" previous

/-- The check of an event starts with its names and its references. -/
def eventFields (payload : Json) (candidate : RolloutCandidateBinding) :
    Except ControlError CandidateEvent.Fields := do
  ensure (payload.hasKeys ["schema_version", "action", "candidate_binding", "actor_ref",
      "authority_ref", "event_id", "expected_revision", "revision", "expected_state_identity",
      "previous_event_identity", "occurred_at", "reason_categories", "evidence_reference"] &&
      payload.field "schema_version" == .str "1.0")
    (.revocation "candidate revocation event is malformed")
  let binding ← RolloutCandidateBinding.fromMapping (payload.field "candidate_binding")
  ensure (binding == candidate)
    (.revocation "candidate revocation event targets a different candidate")
  let action ← eventAction (payload.field "action")
  let actorRef ← controlText .revocation isName "candidate revocation actor"
    (payload.field "actor_ref")
  let authorityRef ← controlText .revocation isName "candidate revocation authority"
    (payload.field "authority_ref")
  let eventId ← controlText .revocation isName "candidate revocation event ID"
    (payload.field "event_id")
  ensure (eventId.length ≤ 55) (.revocation "candidate revocation event ID is too long")
  let expectedRevision ← natural (payload.field "expected_revision")
    (.revocation "candidate revocation expected revision is malformed")
  let revision ← natural (payload.field "revision")
    (.revocation "candidate revocation event revision is malformed")
  ensure (revision == expectedRevision + 1)
    (.revocation "candidate revocation event revision is malformed")
  let expectedStateIdentity ← controlText .revocation Text.isSha256
    "candidate revocation expected state identity" (payload.field "expected_state_identity")
  let previousEventIdentity ← previousEvent (payload.field "previous_event_identity")
  return {
    action := action
    actorRef
    authorityRef
    eventId
    expectedRevision
    revision
    expectedStateIdentity
    previousEventIdentity }

def textOf : Json → String
  | .str text => text
  | _ => ""

/-- The check of an event ends with its categories, its authority and its evidence. -/
def eventReasoned (payload : Json) (fields : CandidateEvent.Fields) (moment : Int) :
    Except ControlError CandidateEvent := do
  let reasonCategories ← eventReasons (payload.field "reason_categories")
  validateAuthority fields.action fields.authorityRef reasonCategories
  validateEvidence (payload.field "evidence_reference") fields.action
  return {
    toFields := fields
    occurredAt := textOf (payload.field "occurred_at")
    moment
    reasonCategories
    identity := stableRevision payload }

/-- A history is read without a limit on the times of its events. -/
def validateEvent (payload : Json) (candidate : RolloutCandidateBinding) (now : Option Int) :
    Except ControlError CandidateEvent := do
  let fields ← eventFields payload candidate
  let moment ← controlTime .revocation "candidate revocation timestamp"
    (payload.field "occurred_at")
  ensure (now.all (moment ≤ ·)) (.revocation "candidate revocation timestamp is in the future")
  eventReasoned payload fields moment

end

/-- The state of a ledger names its last event and the active categories. -/
structure LedgerState where
  candidateBinding : RolloutCandidateBinding
  revision : Nat
  previousStateIdentity : Option String
  eventIdentity : Option String
  status : LedgerStatus
  activeReasonCategories : List RevocationReason
  actorRef : String
  authorityRef : String
  updatedAt : String
  transitionId : String
deriving DecidableEq

namespace LedgerState

def asDict (state : LedgerState) : Json := .obj [
  ("active_reason_categories", .arr (state.activeReasonCategories.map fun reason =>
    .str reason.value)),
  ("actor_ref", .str state.actorRef),
  ("authority_ref", .str state.authorityRef),
  ("candidate_binding", state.candidateBinding.asDict),
  ("event_identity", .ofText? state.eventIdentity),
  ("previous_state_identity", .ofText? state.previousStateIdentity),
  ("revision", .int state.revision),
  ("schema_version", .str "1.0"),
  ("status", .str (Text.Enumeration.value state.status)),
  ("transition_id", .str state.transitionId),
  ("updated_at", .str state.updatedAt)]

def identity [Sha256] (state : LedgerState) : String := stableRevision state.asDict

end LedgerState

structure LedgerHead where
  candidateBindingIdentity : String
  revision : Nat
  stateIdentity : String
deriving DecidableEq

section
variable [Sha256] [Datetime]

/-- The ledger of a candidate is stored under the identity of the binding. -/
def RolloutCandidateBinding.identity (candidate : RolloutCandidateBinding) : String :=
  stableRevision candidate.asDict

def LedgerState.head (state : LedgerState) (candidate : RolloutCandidateBinding) : LedgerHead :=
  ⟨candidate.identity, state.revision, state.identity⟩

/-- A ledger starts without an event. -/
def initialLedgerState (candidate : RolloutCandidateBinding) (now : Int) : LedgerState where
  candidateBinding := candidate
  revision := 0
  previousStateIdentity := none
  eventIdentity := none
  status := .clear
  activeReasonCategories := []
  actorRef := "deployment_authority"
  authorityRef := "deployment_authority"
  updatedAt := Datetime.isoformat now
  transitionId := "initial"

/-- Only the first state has no event and no state before it. -/
def validateOrigin (state : LedgerState) : Except ControlError Unit :=
  if state.revision = 0 then
    ensure (state.previousStateIdentity.isNone && state.eventIdentity.isNone &&
        state.status == .clear && state.activeReasonCategories.isEmpty)
      (.revocation "candidate revocation genesis state is contradictory")
  else do
    let _ ← controlText .revocation Text.isSha256 "candidate revocation previous state identity"
      (.ofText? state.previousStateIdentity)
    let _ ← controlText .revocation Text.isSha256 "candidate revocation event identity"
      (.ofText? state.eventIdentity)

def validateState (state : LedgerState) (candidate : RolloutCandidateBinding) :
    Except ControlError Unit := do
  ensure (state.candidateBinding == candidate)
    (.revocation "candidate revocation state identity drifted")
  validateOrigin state
  ensure (decide (state.activeReasonCategories =
      RevocationReason.sorted state.activeReasonCategories))
    (.revocation "candidate revocation state categories are malformed")
  ensure ((state.status == .revoked) == !state.activeReasonCategories.isEmpty &&
      !(decide (0 < state.revision) && state.status == .clear))
    (.revocation "candidate revocation state status is contradictory")
  let _ ← controlText .revocation isName "candidate revocation state actor" (.str state.actorRef)
  let _ ← controlText .revocation isName "candidate revocation state authority"
    (.str state.authorityRef)
  let _ ← controlText .revocation isName "candidate revocation state transition ID"
    (.str state.transitionId)
  let _ ← controlTime .revocation "candidate revocation state timestamp" (.str state.updatedAt)

/-- A revocation adds its category, and a recovery removes categories that are active. -/
def changedReasons (reasons : List RevocationReason) (event : CandidateEvent) (unmatched : String) :
    Except ControlError (List RevocationReason) :=
  match event.action with
  | .revoke => .ok (event.reasonCategories.head?.toList ++ reasons)
  | .recover =>
    if event.reasonCategories.all (· ∈ reasons) then
      .ok (reasons.filter (· ∉ event.reasonCategories))
    else .error (.revocation unmatched)

/-- The state after an event. -/
def nextLedgerState (candidate : RolloutCandidateBinding) (revision : Nat) (stateIdentity : String)
    (event : CandidateEvent) (reasons : List RevocationReason) : LedgerState where
  candidateBinding := candidate
  revision
  previousStateIdentity := some stateIdentity
  eventIdentity := some event.identity
  status :=
    if reasons ≠ [] then .revoked
    else if event.action = .recover then .recovered else .clear
  activeReasonCategories := RevocationReason.sorted reasons
  actorRef := event.actorRef
  authorityRef := event.authorityRef
  updatedAt := event.occurredAt
  transitionId := event.eventId

/-- The reader of a history keeps the categories, the last event and the last state. -/
structure Replay where
  reasons : List RevocationReason
  eventIdentity : Option String
  stateIdentity : String
  last : LedgerState
deriving DecidableEq

def Replay.start (genesis : LedgerState) : Replay := ⟨[], none, genesis.identity, genesis⟩

/-- The reader checks the next event of a history against the events before it. -/
def Replay.advance (candidate : RolloutCandidateBinding) (replay : Replay) (revision : Nat)
    (payload : Json) : Except ControlError Replay := do
  let event ← validateEvent payload candidate none
  ensure (event.expectedRevision + 1 == revision && event.revision == revision &&
      event.expectedStateIdentity == replay.stateIdentity &&
      event.previousEventIdentity == replay.eventIdentity)
    (.revocation "candidate revocation history chain is stale or conflicting")
  let prior ← controlTime .revocation "candidate revocation prior timestamp"
    (.str replay.last.updatedAt)
  ensure (prior ≤ event.moment)
    (.revocation "candidate revocation history timestamp moved backwards")
  let reasons ← changedReasons replay.reasons event
    "candidate recovery history has no matching active revocation"
  let last := nextLedgerState candidate revision replay.stateIdentity event reasons
  return ⟨reasons, some event.identity, last.identity, last⟩

/-- The status that a ledger reports. -/
structure CandidateRevocationStatus where
  candidateBinding : RolloutCandidateBinding
  stateIdentity : String
  revision : Nat
  status : LedgerStatus
  activeReasonCategories : List RevocationReason
  eventIdentity : Option String
deriving DecidableEq

namespace CandidateRevocationStatus

def validate (status : CandidateRevocationStatus) (candidate : RolloutCandidateBinding) :
    Except ControlError CandidateRevocationStatus := do
  ensure (status.candidateBinding == candidate)
    (.revocation "candidate revocation binding does not match the active candidate")
  let _ ← controlText .revocation Text.isSha256 "candidate revocation state identity"
    (.str status.stateIdentity)
  ensure (!(status.revision == 0) || (status.eventIdentity.isNone && status.status == .clear &&
      status.activeReasonCategories.isEmpty))
    (.revocation "candidate revocation genesis state is contradictory")
  ensure (status.revision == 0 || status.eventIdentity.any Text.isSha256)
    (.revocation "candidate revocation event identity is malformed")
  ensure (decide (status.activeReasonCategories =
      RevocationReason.sorted status.activeReasonCategories))
    (.revocation "candidate revocation category set is malformed")
  ensure ((status.status == .revoked) == !status.activeReasonCategories.isEmpty &&
      !(decide (0 < status.revision) && status.status == .clear))
    (.revocation "candidate revocation status and categories contradict")
  return status

def revoked (status : CandidateRevocationStatus) : Bool := status.status == .revoked

end CandidateRevocationStatus

/-- The status of a stored state. -/
def LedgerState.report (state : LedgerState) (candidate : RolloutCandidateBinding) :
    CandidateRevocationStatus :=
  ⟨candidate, state.identity, state.revision, state.status, state.activeReasonCategories,
    state.eventIdentity⟩

end
end KSlide
