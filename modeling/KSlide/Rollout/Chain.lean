import KSlide.Rollout.History

/-
This file says when the state of a rollout is read and what a transition does to it.
-/

namespace KSlide
open Control List

section
variable [Sha256] [Datetime] [Authority]

omit [Sha256] [Datetime] [Authority] in
theorem cohortNames_ok {items : List Json} {names : List String}
    (read : cohortNames items = .ok names) : items = names.map .str := by
  induction items generalizing names with
  | nil =>
    cases read
    rfl
  | cons item items ih =>
    simp only [cohortNames, bind_ok, controlText_ok, pure_ok] at read
    obtain ⟨name, ⟨rfl, -⟩, rest, found, rfl⟩ := read
    rw [ih found]
    rfl

omit [Sha256] [Datetime] [Authority] in
theorem namedCohorts_ok {stages : Json} {stage : RolloutStage} {names : List String}
    (read : namedCohorts (stages.field (Text.Enumeration.value stage)) = .ok names) :
    cohortsOf stages stage = names := by
  unfold namedCohorts at read
  unfold cohortsOf
  split at read
  · rename_i item items field
    rw [field, cohortNames_ok read]
    induction names with
    | nil => rfl
    | cons name names ih => simp
  · cases read

omit [Sha256] [Datetime] [Authority] in
/-- The cohorts of each stage of a policy are sorted. -/
theorem checkStages_ok {stages : Json} {rest : List RolloutStage} {previous : List String}
    (checked : checkStages stages rest previous = .ok ()) {stage : RolloutStage}
    (listed : stage ∈ rest) : (cohortsOf stages stage).Pairwise (· < ·) := by
  induction rest generalizing previous with
  | nil => cases listed
  | cons first rest ih =>
    simp only [checkStages, bind_ok, ensure_ok, decide_eq_true_eq] at checked
    obtain ⟨names, read, _, sorted, _, -, _, -, later⟩ := checked
    rcases mem_cons.mp listed with rfl | listed
    · rw [namedCohorts_ok read]
      exact sorted
    · exact ih later listed

/-- What the check of a policy promises. -/
structure RolloutPolicy.Valid (policy : RolloutPolicy) : Prop where
  identity : Text.isSha256 policy.identity = true
  version : policy.policyVersion = "1.0"
  rule : policy.rollbackRule = KSlide.rollbackRule
  distinct : policy.rollbackTargetBinding ≠ some policy.candidateBinding
  sorted : ∀ stage, stage.isOpen = true → (policy.stageCohorts stage).Pairwise (· < ·)

theorem policyPayload_valid {value : Json} {now : Int} {policy : RolloutPolicy}
    (read : policyPayload value now = .ok policy) : policy.Valid := by
  unfold policyPayload at read
  simp only [bind_ok, ensure_ok, pure_ok, bne_iff_ne] at read
  obtain ⟨payload, -, _, -, _, -, _, -, _, -, _, -, _, -, _, -, _, -, _, -, candidate, -, target, -,
    _, distinct, _, -, _, -, _, checked, rfl⟩ := read
  exact ⟨stableRevision_shape _, rfl, rfl, distinct,
    fun stage isOpen => checkStages_ok checked (RolloutStage.mem_stages.mpr isOpen)⟩

/-- The clock decides only whether a policy is read. -/
theorem policyPayload_clock {value : Json} {now later : Int} {policy other : RolloutPolicy}
    (read : policyPayload value now = .ok policy) (again : policyPayload value later = .ok other) :
    other = policy := by
  unfold policyPayload at read again
  simp only [bind_ok, ensure_ok, pure_ok] at read again
  obtain ⟨payload, verified, _, -, _, -, _, -, _, -, _, -, _, -, _, -, _, -, _, -, candidate, mapped,
    target, targeted, _, -, _, -, _, -, _, -, rfl⟩ := read
  obtain ⟨payload', verified', _, -, _, -, _, -, _, -, _, -, _, -, _, -, _, -, _, -, candidate',
    mapped', target', targeted', _, -, _, -, _, -, _, -, rfl⟩ := again
  have samePayload : payload' = payload := Except.ok.inj (verified'.symm.trans verified)
  subst samePayload
  have sameCandidate : candidate' = candidate := Except.ok.inj (mapped'.symm.trans mapped)
  have sameTarget : target' = target := Except.ok.inj (targeted'.symm.trans targeted)
  rw [sameCandidate, sameTarget]

end

section
variable [Sha256] [Datetime] {state : RolloutState} {policyIdentity identity : String}
variable {head : RolloutHead}

/-- What the check of a state promises. -/
structure RolloutState.Valid (state : RolloutState) (policyIdentity : String) : Prop where
  policy : state.policyIdentity = policyIdentity
  rule : state.rollbackRule = KSlide.rollbackRule
  positive : 1 ≤ state.revision
  previous : statePrevious state = .ok ()
  sorted : state.admittedCohorts.Pairwise (· < ·)
  admissions : stateAdmissions state = .ok ()
  named : isName state.transitionId = true
  actor : isName state.actorRef = true
  moment : ∃ moment, Datetime.fromisoformat state.transitionedAt = .aware moment
  initial : state.transitionAction = .initialization → state.revision = 1 ∧ state.stage = .disabled
  authority : state.transitionAction = .initialization → state.actorRef = "deployment_authority"
  closed : state.transitionAction = .disable ∨ state.transitionAction = .rollback ∨
    state.transitionAction = .restoreCandidate → state.stage = .disabled
  staged : state.transitionAction = .setStage → state.stage.isOpen = true

theorem statePayload_ok : statePayload state policyIdentity head = .ok identity ↔
    state.Valid policyIdentity ∧ head = state.head ∧ identity = state.identity := by
  unfold statePayload
  simp only [bind_ok, ensure_ok, pure_ok, controlText_ok, controlTime_ok, Json.str.injEq,
    exists_eq_left', Bool.and_eq_true, beq_iff_eq, decide_eq_true_eq]
  constructor
  · rintro ⟨_, ⟨policy, rule⟩, _, positive, _, previous, _, sorted, _, admissions, _, ⟨rfl, named⟩,
      _, ⟨rfl, actor⟩, moment, parsed, _, initial, _, authority, _, closed, _, staged, _,
      ⟨revision, identity⟩, rfl⟩
    refine ⟨⟨policy, rule, positive, previous, sorted, admissions, named, actor, ⟨moment, parsed⟩,
      ?_, ?_, ?_, ?_⟩, ?_, rfl⟩
    · intro action
      simpa [action] using initial
    · intro action
      simpa [action] using authority
    · rintro (action | action | action) <;> simpa [action] using closed
    · intro action
      simpa [action] using staged
    · cases head
      exact congrArg₂ RolloutHead.mk revision identity
  · rintro ⟨valid, rfl, rfl⟩
    obtain ⟨moment, parsed⟩ := valid.moment
    refine ⟨(), ⟨valid.policy, valid.rule⟩, (), valid.positive, (), valid.previous, (), valid.sorted,
      (), valid.admissions, _, ⟨rfl, valid.named⟩, _, ⟨rfl, valid.actor⟩, moment, parsed, (), ?_,
      (), ?_, (), ?_, (), ?_, (), ⟨rfl, rfl⟩, rfl⟩
    · have initial := valid.initial
      cases action : state.transitionAction <;> simp_all
    · have authority := valid.authority
      cases action : state.transitionAction <;> simp_all
    · have closed := valid.closed
      cases action : state.transitionAction <;> simp_all
    · have staged := valid.staged
      cases action : state.transitionAction <;> simp_all

omit [Sha256] in
theorem RolloutState.Valid.enabled (valid : state.Valid policyIdentity) :
    state.admissionsEnabled = state.stage.isOpen := by
  have admissions := valid.admissions
  unfold stateAdmissions at admissions
  by_cases disabled : state.stage = .disabled
  · rw [if_pos disabled, ensure_ok] at admissions
    simp only [Bool.and_eq_true, Bool.not_eq_true'] at admissions
    rw [admissions.1, disabled]
    rfl
  · rw [if_neg disabled, ensure_ok] at admissions
    rw [admissions]
    simp [RolloutStage.isOpen, disabled]

end

section
variable [Sha256] [Datetime] [Authority] {policy : RolloutPolicy} {current next : RolloutState}
variable {command : Json} {target : TransitionTarget}

/-- What the action of a command promises of its target. -/
structure TransitionTarget.Valid (target : TransitionTarget) (policy : RolloutPolicy)
    (current : RolloutState) (command : Json) : Prop where
  action : command.field "action" = .str (Text.Enumeration.value target.action)
  later : target.action ≠ .initialization
  staged : target.action = .setStage → target.stage.isOpen = true ∧
    target.admissionsEnabled = true ∧ target.admittedCohorts = policy.stageCohorts target.stage
  closed : target.action ≠ .setStage →
    target.stage = .disabled ∧ target.admissionsEnabled = false ∧ target.admittedCohorts = []
  kept : target.action = .setStage ∨ target.action = .disable →
    target.candidateBinding = current.candidateBinding
  rolled : target.action = .rollback →
    policy.rollbackTargetBinding = some target.candidateBinding
  restored : target.action = .restoreCandidate →
    target.candidateBinding = policy.candidateBinding

omit [Sha256] [Datetime] [Authority] in
theorem transitionTarget_valid (found : transitionTarget policy current command = .ok target) :
    target.Valid policy current command := by
  unfold transitionTarget at found
  dsimp only at found
  split at found
  · rename_i action
    simp only [bind_ok, ensure_ok, pure_ok] at found
    obtain ⟨_, -, rfl⟩ := found
    constructor
    · exact action
    all_goals simp
  · rename_i action
    cases stage : RolloutStage.stages.find? fun stage =>
        command.field "target_stage" == .str (Text.Enumeration.value stage) with
    | none =>
      rw [stage] at found
      cases found
    | some stage' =>
      rw [stage] at found
      simp only [bind_ok, ensure_ok, pure_ok] at found
      obtain ⟨_, -, rfl⟩ := found
      have isOpen := RolloutStage.mem_stages.mp (mem_of_find?_eq_some stage)
      constructor
      · exact action
      all_goals simp [isOpen]
  · rename_i action
    cases rollback : policy.rollbackTargetBinding with
    | none =>
      rw [rollback] at found
      cases found
    | some rollback' =>
      rw [rollback] at found
      simp only [bind_ok, ensure_ok, pure_ok] at found
      obtain ⟨_, -, _, -, rfl⟩ := found
      constructor
      · exact action
      all_goals simp [rollback]
  · rename_i action
    simp only [bind_ok, ensure_ok, pure_ok] at found
    obtain ⟨_, -, rfl⟩ := found
    constructor
    · exact action
    all_goals simp
  · cases found

/-- The state after a command. -/
def nextRolloutState (policy : RolloutPolicy) (current : RolloutState) (now : Int)
    (transitionId actorRef : String) (target : TransitionTarget) : RolloutState where
  policyIdentity := policy.identity
  revision := current.revision + 1
  previousStateIdentity := some current.identity
  candidateBinding := target.candidateBinding
  actorRef
  transitionedAt := Datetime.isoformat now
  stage := target.stage
  admissionsEnabled := target.admissionsEnabled
  admittedCohorts := target.admittedCohorts
  rollbackRule := KSlide.rollbackRule
  transitionId
  transitionAction := target.action

/-- The checks of a command against the policy and the current state. -/
structure Applies (policyFile : Json) (policy : RolloutPolicy) (current : RolloutState)
    (command payload : Json) (now : Int) (transitionId actorRef : String)
    (target : TransitionTarget) : Prop where
  read : policyPayload policyFile now = .ok policy
  valid : current.Valid policy.identity
  authorized : current.candidateBinding = policy.candidateBinding ∨
    some current.candidateBinding = policy.rollbackTargetBinding
  cohorts : current.stage = .disabled ∨
    current.admittedCohorts = policy.stageCohorts current.stage
  signed : verifySigned .rollout command "rollout transition" = .ok payload
  shaped : (payload.hasKeys ["schema_version", "policy_identity", "expected_revision", "action",
    "transition_id", "actor_ref", "target_stage", "target_candidate_binding"] &&
    payload.field "schema_version" == .str "1.0") = true
  bound : payload.field "policy_identity" = .str policy.identity
  expected : (payload.field "expected_revision").equalsInt current.revision = true
  transition : payload.field "transition_id" = .str transitionId
  named : isName transitionId = true
  actor : payload.field "actor_ref" = .str actorRef
  acting : isName actorRef = true
  targeted : transitionTarget policy current payload = .ok target

theorem applyRolloutTransition_ok {policyFile : Json} {head nextHead : RolloutHead} {now : Int} :
    applyRolloutTransition policyFile current head command now = .ok (next, nextHead) ↔
      ∃ policy payload transitionId actorRef target,
        Applies policyFile policy current command payload now transitionId actorRef target ∧
        head = current.head ∧
        next = nextRolloutState policy current now transitionId actorRef target ∧
        nextHead = next.head := by
  unfold applyRolloutTransition
  simp only [bind_ok, ensure_ok, pure_ok, controlText_ok, statePayload_ok, Bool.or_eq_true,
    beq_iff_eq, Prod.mk.injEq]
  constructor
  · rintro ⟨policy, read, identity, ⟨valid, rfl, rfl⟩, _, authorized, _, cohorts, payload, signed, _,
      shaped, _, matched, transitionId, ⟨transition, named⟩, actorRef, ⟨actor, acting⟩, target,
      found, rfl, rfl⟩
    simp only [Bool.and_eq_true, beq_iff_eq] at matched
    exact ⟨policy, payload, transitionId, actorRef, target,
      ⟨read, valid, authorized, cohorts, signed, shaped, matched.1, matched.2, transition, named,
        actor, acting, found⟩, rfl, rfl, rfl⟩
  · rintro ⟨policy, payload, transitionId, actorRef, target, applies, rfl, rfl, rfl⟩
    refine ⟨policy, applies.read, _, ⟨applies.valid, rfl, rfl⟩, (), applies.authorized, (),
      applies.cohorts, payload, applies.signed, (), applies.shaped, (), ?_, transitionId,
      ⟨applies.transition, applies.named⟩, actorRef, ⟨applies.actor, applies.acting⟩, target,
      applies.targeted, rfl, rfl⟩
    simp [applies.bound, applies.expected]

omit [Authority] in
theorem nextRolloutState_valid {now : Int} {transitionId actorRef : String}
    (checked : policy.Valid) (valid : current.Valid policy.identity)
    (promised : target.Valid policy current command) (named : isName transitionId = true)
    (acting : isName actorRef = true) :
    (nextRolloutState policy current now transitionId actorRef target).Valid policy.identity := by
  have positive := valid.positive
  by_cases staged : target.action = .setStage
  · obtain ⟨isOpen, enabled, cohorts⟩ := promised.staged staged
    have disabled : target.stage ≠ .disabled := by
      intro same
      rw [same] at isOpen
      cases isOpen
    refine ⟨rfl, rfl, by simp [nextRolloutState], ?_, ?_, ?_, named, acting,
      ⟨now, Datetime.fromisoformat_isoformat now⟩, ?_, ?_, ?_, ?_⟩
    · have moved : current.revision ≠ 0 := by omega
      simp [statePrevious, nextRolloutState, moved, RolloutState.identity]
    · change target.admittedCohorts.Pairwise (· < ·)
      rw [cohorts]
      exact checked.sorted _ isOpen
    · simp [stateAdmissions, nextRolloutState, disabled, enabled]
    · intro initial
      exact (promised.later initial).elim
    · intro initial
      exact (promised.later initial).elim
    · intro closed
      simp [nextRolloutState, staged] at closed
    · intro _
      exact isOpen
  · obtain ⟨disabled, closed, cohorts⟩ := promised.closed staged
    refine ⟨rfl, rfl, by simp [nextRolloutState], ?_, ?_, ?_, named, acting,
      ⟨now, Datetime.fromisoformat_isoformat now⟩, ?_, ?_, ?_, ?_⟩
    · have moved : current.revision ≠ 0 := by omega
      simp [statePrevious, nextRolloutState, moved, RolloutState.identity]
    · simp [nextRolloutState, cohorts]
    · simp [stateAdmissions, nextRolloutState, disabled, closed, cohorts]
    · intro initial
      exact (promised.later initial).elim
    · intro initial
      exact (promised.later initial).elim
    · intro _
      exact disabled
    · intro set
      exact (staged set).elim

end

section
variable [Sha256] [Datetime] {policyIdentity : String} {states : List RolloutState}
variable {scan : HistoryScan} {state : RolloutState}

/-- The states of a rollout are followed in the order of their revisions. -/
def scanStates (policyIdentity : String) (states : List RolloutState) :
    Except ControlError HistoryScan :=
  (states.zipIdx 1).foldlM (fun scan entry => scan.advance policyIdentity entry.2 entry.1) {}

theorem scanStates_append : scanStates policyIdentity (states ++ [state]) =
    scanStates policyIdentity states >>= fun scan =>
      scan.advance policyIdentity (states.length + 1) state := by
  unfold scanStates
  rw [zipIdx_append, foldlM_append]
  congr 1
  funext scan
  rw [zipIdx_singleton, foldlM_cons, Nat.add_comm]
  exact bind_pure _

theorem advance_scan {revision : Nat} {next : HistoryScan} :
    scan.advance policyIdentity revision state = .ok next ↔ ∃ moment,
      state.policyIdentity = policyIdentity ∧ state.revision = revision ∧
      state.previousStateIdentity = scan.previousIdentity ∧
      Datetime.fromisoformat state.transitionedAt = .aware moment ∧
      (∀ earlier ∈ scan.previousTime, earlier ≤ moment) ∧
      next = ⟨some state.identity, some moment, some state⟩ := by
  unfold HistoryScan.advance
  simp only [bind_ok, ensure_ok, pure_ok, controlTime_ok, Json.str.injEq, exists_eq_left',
    Bool.and_eq_true, beq_iff_eq]
  have bounded : ∀ moment, scan.previousTime.all (fun earlier => decide (earlier ≤ moment)) =
      true ↔ ∀ earlier ∈ scan.previousTime, earlier ≤ moment := by
    intro moment
    cases scan.previousTime <;> simp
  simp only [bounded]
  constructor
  · rintro ⟨_, ⟨policy, number⟩, _, previous, moment, parsed, _, later, rfl⟩
    exact ⟨moment, policy, number, previous, parsed, later, rfl⟩
  · rintro ⟨moment, policy, number, previous, parsed, later, rfl⟩
    exact ⟨(), ⟨policy, number⟩, (), previous, moment, parsed, (), later, rfl⟩

/-- The reader of a history ends at its last state. -/
theorem scanStates_last (scanned : scanStates policyIdentity states = .ok scan)
    (last : scan.last = some state) :
    scan.previousIdentity = some state.identity ∧ state.revision = states.length ∧
      ∃ moment, Datetime.fromisoformat state.transitionedAt = .aware moment ∧
        scan.previousTime = some moment := by
  induction states using List.reverseRecOn with
  | nil =>
    cases scanned
    cases last
  | append_singleton states other _ =>
    rw [scanStates_append, bind_ok] at scanned
    obtain ⟨before, -, advanced⟩ := scanned
    obtain ⟨moment, -, number, -, parsed, -, rfl⟩ := advance_scan.mp advanced
    cases last
    exact ⟨rfl, by rw [number, length_append, length_singleton], moment, parsed, rfl⟩

end

/-- A rollout holds the states that its reader follows from the first on. -/
structure Rollout [Sha256] [Datetime] (policy : RolloutPolicy) where
  states : List RolloutState
  scan : HistoryScan
  last : RolloutState
  checked : policy.Valid
  scanned : scanStates policy.identity states = .ok scan
  current : scan.last = some last
  valid : last.Valid policy.identity
  authorized : last.candidateBinding = policy.candidateBinding ∨
    some last.candidateBinding = policy.rollbackTargetBinding
  cohorts : last.stage = .disabled ∨ last.admittedCohorts = policy.stageCohorts last.stage

namespace Rollout
variable [Sha256] [Datetime] [Authority] {policy : RolloutPolicy}

variable (rollout : Rollout policy)

omit [Authority] in
theorem setStage (isOpen : rollout.last.admissionsEnabled = true) :
    rollout.last.transitionAction = .setStage := by
  rw [rollout.valid.enabled] at isOpen
  have disabled : rollout.last.stage ≠ .disabled := by
    intro same
    rw [same] at isOpen
    cases isOpen
  have valid := rollout.valid
  cases action : rollout.last.transitionAction with
  | initialization => exact (disabled (valid.initial action).2).elim
  | setStage => rfl
  | disable => exact (disabled (valid.closed (Or.inl action))).elim
  | rollback => exact (disabled (valid.closed (Or.inr (Or.inl action)))).elim
  | restoreCandidate => exact (disabled (valid.closed (Or.inr (Or.inr action)))).elim

theorem extend {policyFile command payload : Json} {now moment : Int}
    {transitionId actorRef : String} {target : TransitionTarget}
    (applies : Applies policyFile policy rollout.last command payload now transitionId actorRef
      target)
    (parsed : Datetime.fromisoformat rollout.last.transitionedAt = .aware moment)
    (ordered : moment ≤ now) :
    ∃ later : Rollout policy,
      later.last = nextRolloutState policy rollout.last now transitionId actorRef target ∧
      later.states = rollout.states ++ [later.last] := by
  obtain ⟨identity, number, before, same, time⟩ :=
    scanStates_last rollout.scanned rollout.current
  rw [parsed] at same
  cases same
  have promised := transitionTarget_valid applies.targeted
  have next : (nextRolloutState policy rollout.last now transitionId actorRef target).Valid
      policy.identity :=
    nextRolloutState_valid rollout.checked applies.valid promised applies.named applies.acting
  have advanced : rollout.scan.advance policy.identity (rollout.states.length + 1)
      (nextRolloutState policy rollout.last now transitionId actorRef target) =
        .ok ⟨some (nextRolloutState policy rollout.last now transitionId actorRef target).identity,
          some now, some (nextRolloutState policy rollout.last now transitionId actorRef
          target)⟩ := by
    refine advance_scan.mpr ⟨now, rfl, ?_, identity.symm, Datetime.fromisoformat_isoformat now,
      ?_, rfl⟩
    · exact congrArg (· + 1) number
    · rw [time]
      intro earlier same
      cases same
      exact ordered
  have followed : ∃ scan, scanStates policy.identity (rollout.states ++
        [nextRolloutState policy rollout.last now transitionId actorRef target]) = .ok scan ∧
      scan.last = some (nextRolloutState policy rollout.last now transitionId actorRef target) := by
    rw [scanStates_append, rollout.scanned]
    exact ⟨_, advanced, rfl⟩
  obtain ⟨scan, scanned, last⟩ := followed
  refine ⟨⟨_, scan, _, rollout.checked, scanned, last, next, ?_, ?_⟩, rfl, rfl⟩
  · change target.candidateBinding = policy.candidateBinding ∨
      some target.candidateBinding = policy.rollbackTargetBinding
    cases action : target.action with
    | initialization => exact (promised.later action).elim
    | setStage =>
      rw [promised.kept (Or.inl action)]
      exact applies.authorized
    | disable =>
      rw [promised.kept (Or.inr action)]
      exact applies.authorized
    | rollback => exact Or.inr (promised.rolled action).symm
    | restoreCandidate => exact Or.inl (promised.restored action)
  · change target.stage = .disabled ∨ target.admittedCohorts = policy.stageCohorts target.stage
    by_cases staged : target.action = .setStage
    · exact Or.inr (promised.staged staged).2.2
    · exact Or.inl (promised.closed staged).1

omit [Authority] in
/-- No reader follows a state whose time lies before the time of the state before it. -/
theorem extend_backwards {now moment : Int} {next : RolloutState}
    (parsed : Datetime.fromisoformat rollout.last.transitionedAt = .aware moment)
    (later : Datetime.fromisoformat next.transitionedAt = .aware now) (backwards : now < moment) :
    ∀ scan, scanStates policy.identity (rollout.states ++ [next]) ≠ .ok scan := by
  intro scan followed
  obtain ⟨-, -, before, same, time⟩ := scanStates_last rollout.scanned rollout.current
  rw [parsed] at same
  cases same
  rw [scanStates_append, rollout.scanned] at followed
  obtain ⟨found, -, -, -, again, ordered, -⟩ := advance_scan.mp followed
  rw [later] at again
  cases again
  have := ordered moment time
  omega

end Rollout
end KSlide
