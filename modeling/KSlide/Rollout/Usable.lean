import KSlide.Rollout.Transitions

/-
This file shows that the transitions of a rollout leave it usable while their clocks keep order.
-/

namespace KSlide
open Interleaving Program ControlFiles List

namespace Control
variable {files middle after left : ControlFiles}

section
variable [Sha256] [Datetime] [Authority] {policyFile command : Json} {policy : RolloutPolicy}
variable {rollout : Rollout policy} {now created moment : Int} {recovery : Option Json}

theorem decideTransition_stores {decided : RolloutPolicy} {next : RolloutState}
    {nextHead : RolloutHead} (read : policyPayload policyFile created = .ok policy)
    (stores : Stores files policyFile rollout)
    (ran : (decideTransition command now recovery).run files =
      (.ok (decided, next, nextHead), after)) :
    decided = policy ∧ nextHead = next.head ∧ SameDocuments files after ∧
      ∃ payload transitionId actorRef target,
        Applies policyFile policy rollout.last command payload now transitionId actorRef target ∧
        next = nextRolloutState policy rollout.last now transitionId actorRef target := by
  have quiet := (quiet_decideTransition command now recovery).run files
  rw [ran] at quiet
  obtain ⟨storedFile, state, payload, transitionId, actorRef, target, history, storedPolicy,
    storedState, -, -, applies, rfl, rfl, -⟩ := decideTransition_value ran
  have sameFile : policyFile = storedFile :=
    Option.some.inj (stores.policy.symm.trans storedPolicy)
  subst sameFile
  have sameState : rollout.last = state := Option.some.inj (stores.state.symm.trans storedState)
  subst sameState
  have samePolicy : decided = policy := policyPayload_clock read applies.read
  subst samePolicy
  exact ⟨rfl, rfl, quiet, payload, transitionId, actorRef, target, applies, rfl⟩

omit [Authority] in
theorem stores_transitioned {later : Rollout policy} {next : RolloutState}
    (stores : Stores files policyFile rollout) (last : later.last = next)
    (states : later.states = rollout.states ++ [next]) :
    Stores (transitioned next files) policyFile later where
  policy := stores.policy
  state := congrArg some last.symm
  head := congrArg (fun state : RolloutState => some state.head) last.symm
  history := by
    obtain ⟨history, stored, numbered⟩ := stores.history
    have number : next.revision = rollout.states.length + 1 := by
      have size := (scanStates_last later.scanned later.current).2.1
      rw [last, states, length_append, length_singleton] at size
      exact size
    refine ⟨_, rfl, ?_⟩
    rw [states]
    change Numbered ((files.history.getD ∅).insert next.revision next) _
    rw [stored, number]
    exact numbered.insert next

/-- A call brings its own clock. -/
structure TransitionCall where
  command : Json
  now : Int
  recovery : Option Json

namespace TransitionCall

/-- The call runs alone on the files. -/
def run (call : TransitionCall) (files : ControlFiles) : Except ControlError Nat × ControlFiles :=
  (transition call.command call.now call.recovery).run files

/-- A call whose clock runs behind the stored state fails one of its checks. -/
def InOrder (call : TransitionCall) (files : ControlFiles) : Prop :=
  ∀ state moment, files.state = some state →
    Datetime.fromisoformat state.transitionedAt = .aware moment → call.now < moment →
    ∃ error, ((decideTransition call.command call.now call.recovery).run files).1 = .error error

end TransitionCall

theorem transition_stores (read : policyPayload policyFile created = .ok policy)
    (stores : Stores files policyFile rollout) {call : TransitionCall}
    (ordered : call.InOrder files) {result : Except ControlError Nat}
    (ran : call.run files = (result, after)) :
    ∃ later : Rollout policy, Stores after policyFile later ∧
      (later = rollout ∧ (∃ error, result = .error error) ∧ SameDocuments files after ∨
      ∃ payload transitionId actorRef target,
        Applies policyFile policy rollout.last call.command payload call.now transitionId actorRef
          target ∧
        later.last = nextRolloutState policy rollout.last call.now transitionId actorRef target ∧
        ∀ revision, result = .ok revision → revision = later.last.revision) := by
  rcases decided : (decideTransition call.command call.now call.recovery).run files with
    ⟨error | ⟨other, next, nextHead⟩, middle⟩
  · have quiet := (quiet_decideTransition call.command call.now call.recovery).run files
    unfold TransitionCall.run at ran
    rw [run_transition_undecided decided] at ran
    rw [decided] at quiet
    cases ran
    exact ⟨rollout, stores.same quiet.rollout, Or.inl ⟨rfl, ⟨error, rfl⟩, quiet⟩⟩
  · obtain ⟨rfl, rfl, quiet, payload, transitionId, actorRef, target, applies, rfl⟩ :=
      decideTransition_stores read stores decided
    obtain ⟨-, -, moment, parsed, -⟩ := scanStates_last rollout.scanned rollout.current
    have clock : moment ≤ call.now := by
      by_contra behind
      obtain ⟨error, failed⟩ := ordered rollout.last moment stores.state parsed (by omega)
      rw [decided] at failed
      cases failed
    obtain ⟨later, last, states⟩ := rollout.extend applies parsed clock
    obtain ⟨same, revision⟩ := performTransition_rollout middle call.now call.recovery other
      (nextRolloutState other rollout.last call.now transitionId actorRef target)
    unfold TransitionCall.run at ran
    rw [run_transition_decided decided] at ran
    rw [ran] at same revision
    rw [last] at states
    refine ⟨later, ?_, Or.inr ⟨payload, transitionId, actorRef, target, applies, last, ?_⟩⟩
    · exact (stores_transitioned (stores.same quiet.rollout) last states).same same
    · rw [last]
      exact revision

/-- The command of a call that returned is applied. -/
def TransitionCall.applied (call : TransitionCall) : Except ControlError Nat → List Json
  | .ok _ => [call.command]
  | .error _ => []

/-- The calls run one after the other and leave the files and the applied commands. -/
def runTransitions : List TransitionCall → ControlFiles → ControlFiles × List Json
  | [], files => (files, [])
  | call :: calls, files =>
    let later := runTransitions calls (call.run files).2
    (later.1, call.applied (call.run files).1 ++ later.2)

/-- Each call of a sequence is in order when its turn comes. -/
def AllInOrder : List TransitionCall → ControlFiles → Prop
  | [], _ => True
  | call :: calls, files => call.InOrder files ∧ AllInOrder calls (call.run files).2

/-- The command names a revision that the rollout has left. -/
def Passed (rollout : Rollout policy) (command : Json) : Prop :=
  ∀ payload, verifySigned .rollout command "rollout transition" = .ok payload →
    ∃ revision : Nat, revision < rollout.last.revision ∧
      (payload.field "expected_revision").equalsInt revision = true

theorem runTransitions_stores (read : policyPayload policyFile created = .ok policy)
    (calls : List TransitionCall) {files : ControlFiles} {rollout : Rollout policy}
    (stores : Stores files policyFile rollout) (ordered : AllInOrder calls files) :
    ∃ later : Rollout policy, Stores (runTransitions calls files).1 policyFile later ∧
      rollout.last.revision ≤ later.last.revision ∧
      ∀ command ∈ (runTransitions calls files).2, Passed later command := by
  induction calls generalizing files rollout with
  | nil => exact ⟨rollout, stores, Nat.le_refl _, by simp [runTransitions]⟩
  | cons call calls ih =>
    have ran : call.run files = ((call.run files).1, (call.run files).2) := rfl
    obtain ⟨middle, held, outcome⟩ := transition_stores read stores ordered.1 ran
    obtain ⟨later, kept, grown, passed⟩ := ih held ordered.2
    rcases outcome with ⟨rfl, ⟨error, failed⟩, -⟩ |
      ⟨payload, transitionId, actorRef, target, applies, last, -⟩
    · refine ⟨later, kept, grown, ?_⟩
      intro command listed
      have none_ : call.applied (call.run files).1 = [] := by
        rw [failed]
        rfl
      change command ∈ call.applied (call.run files).1 ++ _ at listed
      rw [none_, nil_append] at listed
      exact passed command listed
    · have moved : middle.last.revision = rollout.last.revision + 1 := by
        rw [last]
        rfl
      refine ⟨later, kept, by omega, ?_⟩
      intro command listed
      rcases mem_append.mp listed with own | other
      · have same : command = call.command := by
          cases result : (call.run files).1 with
          | error error =>
            rw [result] at own
            cases own
          | ok revision =>
            rw [result] at own
            exact mem_singleton.mp own
        subst same
        intro found signed
        have again : found = payload := Except.ok.inj (signed.symm.trans applies.signed)
        subst again
        exact ⟨rollout.last.revision, by omega, applies.expected⟩
      · exact passed command other

/-- A rollout that every later reader and writer can use. -/
structure RolloutUsable (files : ControlFiles) (applied : List Json) : Prop where
  /-- The stored documents pass the checks of the next admission and the next transition. -/
  documents : ∃ policyFile state, files.policy = some policyFile ∧ files.state = some state ∧
    files.head = some state.head ∧ ∀ clock policy, policyPayload policyFile clock = .ok policy →
      statePayload state policy.identity state.head = .ok state.identity ∧
      (verifyReferenceHistory policy.identity state state.identity).run files = (.ok (), files) ∧
      (state.candidateBinding = policy.candidateBinding ∨
        some state.candidateBinding = policy.rollbackTargetBinding)
  /-- Admissions are open only after a stage was set. -/
  enabled : ∀ state, files.state = some state → state.admissionsEnabled = true →
    state.transitionAction = .setStage
  /-- A call that returns has moved the rollout by one revision. -/
  grows : ∀ call : TransitionCall, ∀ revision after, call.run files = (.ok revision, after) →
    ∃ state next, files.state = some state ∧ after.state = some next ∧
      next.revision = state.revision + 1 ∧ revision = next.revision
  /-- An applied command is refused. -/
  replayed : ∀ command ∈ applied, ∀ now recovery, ∃ error after,
    (transition command now recovery).run files = (.error error, after) ∧
      SameDocuments files after
  /-- A call that raises before it writes the history leaves every document. -/
  unchanged : ∀ call : TransitionCall, ∀ error after, call.run files = (.error error, after) →
    (∀ revision, .write (.historyFile revision) ∉
      (transition call.command call.now call.recovery).performed files) →
    SameDocuments files after

theorem performed_historyWrite {decided : RolloutPolicy} {next : RolloutState}
    {nextHead : RolloutHead} (ran : (decideTransition command now recovery).run files =
      (.ok (decided, next, nextHead), after)) :
    .write (.historyFile next.revision) ∈ (transition command now recovery).performed files := by
  have acquired : (acquire .rollout).run files = (.ok (), files) := run_write _ _ _
  have first : .write (.historyFile next.revision) ∈
      (performTransition now recovery decided next nextHead).performed after := by
    unfold performTransition
    exact performed_bind_left mem_cons_self
  unfold transition withLock
  rw [performed_bind_ok acquired]
  apply mem_append_right
  apply performed_bind_left
  apply performed_tryCatch_left
  rw [performed_bind_ok ran]
  exact mem_append_right _ first

theorem rolloutUsable (read : policyPayload policyFile created = .ok policy)
    (stores : Stores files policyFile rollout) {applied : List Json}
    (passed : ∀ command ∈ applied, Passed rollout command) : RolloutUsable files applied where
  documents := by
    refine ⟨policyFile, rollout.last, stores.policy, stores.state, stores.head, ?_⟩
    intro clock other again
    have same : other = policy := policyPayload_clock read again
    subst same
    exact ⟨statePayload_ok.mpr ⟨rollout.valid, rfl, rfl⟩, run_verifyReferenceHistory stores,
      rollout.authorized⟩
  enabled state stored isOpen := by
    have same : rollout.last = state := Option.some.inj (stores.state.symm.trans stored)
    subst same
    exact rollout.setStage isOpen
  grows call revision after ran := by
    unfold TransitionCall.run at ran
    rcases decided : (decideTransition call.command call.now call.recovery).run files with
      ⟨error | ⟨other, next, nextHead⟩, middle⟩
    · rw [run_transition_undecided decided] at ran
      cases ran
    · obtain ⟨rfl, rfl, -, payload, transitionId, actorRef, target, -, rfl⟩ :=
        decideTransition_stores read stores decided
      obtain ⟨same, number⟩ := performTransition_rollout middle call.now call.recovery other
        (nextRolloutState other rollout.last call.now transitionId actorRef target)
      rw [run_transition_decided decided] at ran
      rw [ran] at same number
      exact ⟨rollout.last, _, stores.state, same.state, rfl, number revision rfl⟩
  replayed command listed now recovery := by
    have quiet := (quiet_decideTransition command now recovery).run files
    rcases decided : (decideTransition command now recovery).run files with
      ⟨error | ⟨other, next, nextHead⟩, middle⟩
    · rw [decided] at quiet
      exact ⟨error, middle, run_transition_undecided decided, quiet⟩
    · obtain ⟨-, -, -, payload, transitionId, actorRef, target, applies, -⟩ :=
        decideTransition_stores read stores decided
      obtain ⟨revision, left_, earlier⟩ := passed command listed payload applies.signed
      have same := Json.equalsInt_unique earlier applies.expected
      omega
  unchanged call error after ran silent := by
    have quiet := (quiet_decideTransition call.command call.now call.recovery).run files
    unfold TransitionCall.run at ran
    rcases decided : (decideTransition call.command call.now call.recovery).run files with
      ⟨failure | ⟨other, next, nextHead⟩, middle⟩
    · rw [run_transition_undecided decided] at ran
      rw [decided] at quiet
      cases ran
      exact quiet
    · exact (silent next.revision (performed_historyWrite decided)).elim

omit [Sha256] [Authority] in
/-- The first state of a rollout passes the check of a state. -/
theorem initialRolloutState_valid (valid : policy.Valid) (created : Int) :
    (initialRolloutState policy created).Valid policy.identity := by
  have authority : isName "deployment_authority" = true := by decide +kernel
  have initial : isName "initial" = true := by decide +kernel
  refine ⟨rfl, valid.rule, Nat.le_refl 1, rfl, ?_, rfl, initial, authority,
    ⟨created, Datetime.fromisoformat_isoformat created⟩, ?_, ?_, ?_, ?_⟩
  · simp [initialRolloutState]
  · intro _
    exact ⟨rfl, rfl⟩
  · intro _
    rfl
  · intro _
    rfl
  · intro impossible
    cases impossible

theorem initializeRollout_stores {blank start : ControlFiles}
    (initialized : (initializeRollout policyFile created).run blank = (.ok (), start)) :
    ∃ policy, policyPayload policyFile created = .ok policy ∧
      ∃ rollout : Rollout policy, rollout.last = initialRolloutState policy created ∧
        Stores start policyFile rollout := by
  unfold initializeRollout at initialized
  rw [run_withLock] at initialized
  simp only [run_bind_value, run_read, lift_value, run_write, Prod.mk.injEq, true_and]
    at initialized
  obtain ⟨_, _, -, policy, _, ⟨read, rfl⟩, _, _, -, _, _, rfl, _, _, rfl, _, _, rfl, _, _, rfl,
    rfl⟩ := initialized
  have valid := policyPayload_valid read
  have scanned : scanStates policy.identity [initialRolloutState policy created] =
      .ok ⟨some (initialRolloutState policy created).identity, some created,
        some (initialRolloutState policy created)⟩ := by
    have advanced : ({} : HistoryScan).advance policy.identity 1
        (initialRolloutState policy created) =
          .ok ⟨some (initialRolloutState policy created).identity, some created,
            some (initialRolloutState policy created)⟩ :=
      advance_scan.mpr ⟨created, rfl, rfl, rfl, Datetime.fromisoformat_isoformat created,
        by simp, rfl⟩
    have single := @scanStates_append _ _ policy.identity [] (initialRolloutState policy created)
    rw [nil_append] at single
    rw [single]
    exact advanced
  refine ⟨policy, read, ⟨[initialRolloutState policy created], _, _, valid, scanned, rfl,
    initialRolloutState_valid valid created, Or.inl rfl, Or.inl rfl⟩, rfl, rfl, rfl, rfl, _, rfl, ?_⟩
  exact numbered_empty.insert _

theorem transition_backwards (read : policyPayload policyFile created = .ok policy)
    (stores : Stores files policyFile rollout)
    (parsed : Datetime.fromisoformat rollout.last.transitionedAt = .aware moment)
    {call : TransitionCall} (behind : call.now < moment) {revision : Nat}
    (ran : call.run files = (.ok revision, after)) {state : RolloutState} {identity : String}
    {value : Unit} :
    (verifyReferenceHistory policy.identity state identity).run after ≠ (.ok value, left) := by
  intro verified
  unfold TransitionCall.run at ran
  rcases decided : (decideTransition call.command call.now call.recovery).run files with
    ⟨error | ⟨other, next, nextHead⟩, middle⟩
  · rw [run_transition_undecided decided] at ran
    cases ran
  · obtain ⟨rfl, rfl, quiet, payload, transitionId, actorRef, target, -, rfl⟩ :=
      decideTransition_stores read stores decided
    obtain ⟨same, -⟩ := performTransition_rollout middle call.now call.recovery other
      (nextRolloutState other rollout.last call.now transitionId actorRef target)
    rw [run_transition_decided decided] at ran
    rw [ran] at same
    obtain ⟨history, states, scan, stored, numbered, scanned, -⟩ :=
      verifyReferenceHistory_value verified
    obtain ⟨earlier, kept, counted⟩ := (stores.same quiet.rollout).history
    have grown := counted.insert
      (nextRolloutState other rollout.last call.now transitionId actorRef target)
    have shown : after.history = some (earlier.insert (rollout.last.revision + 1)
        (nextRolloutState other rollout.last call.now transitionId actorRef target)) := by
      rw [same.history]
      change some ((middle.history.getD ∅).insert _ _) = _
      rw [kept]
      rfl
    rw [(scanStates_last rollout.scanned rollout.current).2.1] at shown
    rw [shown] at stored
    cases stored
    rw [← grown.unique numbered] at scanned
    exact rollout.extend_backwards parsed (Datetime.fromisoformat_isoformat call.now) behind scan
      scanned

/-- Every sequence of calls in order leaves a usable rollout. -/
theorem transitions_usable {blank start : ControlFiles} (calls : List TransitionCall)
    (initialized : (initializeRollout policyFile created).run blank = (.ok (), start))
    (ordered : AllInOrder calls start) :
    RolloutUsable (runTransitions calls start).1 (runTransitions calls start).2 := by
  obtain ⟨policy, read, rollout, -, stores⟩ := initializeRollout_stores initialized
  obtain ⟨later, kept, -, passed⟩ := runTransitions_stores read calls stores ordered
  exact rolloutUsable read kept passed

end

end Control

section
variable [Sha256] [Datetime] [Authority]
open Control

/-- A command that closes the first state of the sample with a clock of its own. -/
def lateDisable (now : Int) : TransitionCall where
  command := buildTransitionCommand (RolloutPolicy.sample none).identity 1 .disable "late-disable"
    "operator" none none
  now := now
  recovery := none

theorem run_lateDisable {files : ControlFiles} {now : Int} {rollout : Rollout (.sample none)}
    (stores : Stores files (signed (samplePolicy none)) rollout)
    (first : rollout.last.revision = 1) (issued : 0 ≤ now) (current : now < 100) :
    ∃ next, (lateDisable now).run files = (.ok 2, transitioned next files) := by
  have read : policyPayload (signed (samplePolicy none)) now = .ok (.sample none) :=
    policyPayload_sample (by simp) issued current
  have named : isName "late-disable" = true := by decide +kernel
  have acting : isName "operator" = true := by decide +kernel
  have ran := run_disable stores read named acting
  rw [first] at ran
  exact ⟨_, ran⟩

/-- A call whose clock runs behind the first state leaves a rollout that nobody reads. -/
theorem lateDisable_unusable :
    ∃ start, (initializeRollout (signed (samplePolicy none)) 10).run {} = (.ok (), start) ∧
      ((lateDisable 5).run start).1 = .ok 2 ∧
      ¬ RolloutUsable ((lateDisable 5).run start).2 [(lateDisable 5).command] := by
  have other : (none : Option RolloutCandidateBinding) ≠ some .sample := by simp
  have early : policyPayload (signed (samplePolicy none)) 5 = .ok (.sample none) :=
    policyPayload_sample other (by decide) (by decide)
  have read : policyPayload (signed (samplePolicy none)) 10 = .ok (.sample none) :=
    policyPayload_sample other (by decide) (by decide)
  have initialized := initializeRollout_fresh read
  obtain ⟨policy, again, rollout, last, stores⟩ := initializeRollout_stores initialized
  have same : policy = .sample none := policyPayload_clock read again
  subst same
  have first : rollout.last.revision = 1 := by
    rw [last]
    rfl
  have parsed : Datetime.fromisoformat rollout.last.transitionedAt = .aware 10 := by
    rw [last]
    exact Datetime.fromisoformat_isoformat 10
  generalize ((initializeRollout (signed (samplePolicy none)) 10).run {}).2 = start at *
  obtain ⟨next, called⟩ := run_lateDisable stores first (by decide : (0 : Int) ≤ 5) (by decide)
  refine ⟨start, initialized, by rw [called], ?_⟩
  intro usable
  obtain ⟨policyFile, state, stored, -, -, checked⟩ := usable.documents
  rw [called] at stored checked
  have sameFile : signed (samplePolicy none) = policyFile :=
    Option.some.inj (stores.policy.symm.trans stored)
  subst sameFile
  obtain ⟨-, verified, -⟩ := checked 5 _ early
  have behind : (lateDisable 5).now < 10 := by
    change (5 : Int) < 10
    decide
  exact transition_backwards again stores parsed behind called verified

/-- A call whose clock follows the first state is in order. -/
theorem lateDisable_ordered {start : ControlFiles}
    (initialized : (initializeRollout (signed (samplePolicy none)) 10).run {} = (.ok (), start)) :
    AllInOrder [lateDisable 20] start := by
  obtain ⟨policy, -, rollout, last, stores⟩ := initializeRollout_stores initialized
  refine ⟨?_, trivial⟩
  intro state moment stored parsed behind
  have same : rollout.last = state := Option.some.inj (stores.state.symm.trans stored)
  rw [← same, last] at parsed
  have created : ParsedTime.aware 10 = .aware moment :=
    (Datetime.fromisoformat_isoformat 10).symm.trans parsed
  have late : (20 : Int) < moment := behind
  have moved := ParsedTime.aware.inj created
  omega

/-- The sample policy initializes an empty store. -/
theorem samplePolicy_initialized :
    (initializeRollout (signed (samplePolicy none)) 10).run {} =
      (.ok (), ((initializeRollout (signed (samplePolicy none)) 10).run {}).2) :=
  initializeRollout_fresh (policyPayload_sample (by simp) (by decide) (by decide))

end
section
attribute [local instance] Sha256.polynomial Datetime.letters Authority.digest
open Control

/-- A transition that returned with an earlier clock leaves a rollout that nobody reads. -/
theorem transition_unusable :
    ∃ start, (initializeRollout (signed (samplePolicy none)) 10).run {} = (.ok (), start) ∧
      ((lateDisable 5).run start).1 = .ok 2 ∧
      ¬ RolloutUsable ((lateDisable 5).run start).2 [(lateDisable 5).command] :=
  lateDisable_unusable

theorem transitions_usable_lateDisable :
    ∃ start, (initializeRollout (signed (samplePolicy none)) 10).run {} = (.ok (), start) ∧
      RolloutUsable (runTransitions [lateDisable 20] start).1
        (runTransitions [lateDisable 20] start).2 :=
  ⟨_, samplePolicy_initialized, transitions_usable [lateDisable 20] samplePolicy_initialized
    (lateDisable_ordered samplePolicy_initialized)⟩

end
end KSlide
