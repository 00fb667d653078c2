import KSlide.Interleaving.Frame
import KSlide.Rollout.Appends
import KSlide.Rollout.Chain

/-
This file gives the runs of a transition and the rollout that they leave.
-/

namespace KSlide
open Interleaving Program

namespace ControlFiles
variable {files middle after : ControlFiles}

theorem SameDocuments.trans (first : SameDocuments files middle)
    (second : SameDocuments middle after) : SameDocuments files after where
  policy := second.policy.trans first.policy
  state := second.state.trans first.state
  head := second.head.trans first.head
  history := second.history.trans first.history
  ledger directory := (second.ledger directory).trans (first.ledger directory)

/-- The same documents of the rollout are stored, whatever happens to the ledgers. -/
structure SameRollout (files after : ControlFiles) : Prop where
  policy : after.policy = files.policy
  state : after.state = files.state
  head : after.head = files.head
  history : after.history = files.history

theorem SameDocuments.rollout (same : SameDocuments files after) : SameRollout files after :=
  ⟨same.policy, same.state, same.head, same.history⟩

theorem sameRollout_refl (files : ControlFiles) : SameRollout files files := ⟨rfl, rfl, rfl, rfl⟩

theorem SameRollout.trans (first : SameRollout files middle) (second : SameRollout middle after) :
    SameRollout files after where
  policy := second.policy.trans first.policy
  state := second.state.trans first.state
  head := second.head.trans first.head
  history := second.history.trans first.history

end ControlFiles

namespace Control
open ControlFiles
variable {Value Other : Type} {files after left : ControlFiles}

/-- The program leaves every document as it is. -/
abbrev Quiet (program : Control Value) : Prop := program.Within SameDocuments

theorem Quiet.bind {program : Control Value} {rest : Value → Control Other}
    (first : Quiet program) (second : ∀ value, Quiet (rest value)) : Quiet (program >>= rest) :=
  within_bind (fun _ _ _ before later => before.trans later) first second

theorem quiet_still {program : Control Value} (still : program.Still) : Quiet program :=
  still.within sameDocuments_refl

theorem quiet_lift (value : Except ControlError Value) : Quiet (lift value : Control Value) :=
  quiet_still (still_lift value)

theorem quiet_pure (value : Value) : Quiet (pure value : Control Value) :=
  quiet_still (still_pure value)

section
variable [Sha256] [Datetime] [Authority]

omit [Datetime] [Authority] in
theorem sameRollout_effect (candidate : RolloutCandidateBinding) (payload : Json)
    (decision : AppendDecision) (files : ControlFiles) :
    SameRollout files (decision.effect candidate payload files) := by
  cases decision <;> exact ⟨rfl, rfl, rfl, rfl⟩

omit [Datetime] [Authority] in
theorem sameRollout_torn {candidate : RolloutCandidateBinding} {next : LedgerState}
    {payload : Json} (torn : Torn candidate next payload files left) : SameRollout files left := by
  rcases torn with rfl | rfl <;> exact ⟨rfl, rfl, rfl, rfl⟩

/-- A ledger that is only checked keeps every document. -/
theorem quiet_recordEvent (event : Json) (now : Int) : Quiet (recordEvent event now true) := by
  intro files left crashed
  by_cases received : ∃ payload other validated, Received event now payload other validated
  · obtain ⟨payload, other, validated, received⟩ := received
    have opened := sameDocuments_opened files (.ledger other.identity)
    rcases crashes_recordEvent received crashed with same | same | ⟨decision, decided, written⟩
    · rw [same]
      exact sameDocuments_refl files
    · rw [same]
      exact opened
    · obtain ⟨_, _, -, -, decides⟩ := decideAppend_value decided
      cases decides with
      | duplicate listed named text =>
        rcases written with same | ⟨_, _, impossible, -⟩
        · rw [same]
          exact opened
        · cases impossible
      | checked only fresh continues =>
        rcases written with same | ⟨_, _, impossible, -⟩
        · rw [same]
          exact opened
        · cases impossible
      | append stored fresh continues absent => cases stored
  · push Not at received
    obtain ⟨_, -, unchanged⟩ := recordEvent_unreceived files true received
    rw [unchanged left crashed]
    exact sameDocuments_refl files

/-- An append keeps the documents of the rollout. -/
theorem within_recordEvent (event : Json) (now : Int) (validateOnly : Bool) :
    (recordEvent event now validateOnly).Within SameRollout := by
  intro files left crashed
  by_cases received : ∃ payload other validated, Received event now payload other validated
  · obtain ⟨payload, other, validated, received⟩ := received
    have opened := (sameDocuments_opened files (.ledger other.identity)).rollout
    rcases crashes_recordEvent received crashed with same | same | ⟨decision, -, written⟩
    · rw [same]
      exact sameRollout_refl files
    · rw [same]
      exact opened
    · rcases written with same | ⟨state, next, -, torn⟩
      · rw [same]
        exact opened.trans (sameRollout_effect other payload decision _)
      · exact opened.trans (sameRollout_torn torn)
  · push Not at received
    obtain ⟨_, -, unchanged⟩ := recordEvent_unreceived files validateOnly received
    rw [unchanged left crashed]
    exact sameRollout_refl files

omit [Authority] in
theorem still_candidateStatus (candidate : RolloutCandidateBinding) :
    (candidateStatus candidate).Still :=
  still_bind (still_readLedger candidate) fun _ => still_lift _

omit [Sha256] [Datetime] [Authority] in
theorem still_readDocument {Value : Type} (document : ControlDocument)
    (select : ControlFiles → Option Value) (missing : ControlError) :
    (readDocument document select missing).Still := still_read _ _

omit [Authority] in
theorem still_verifyReferenceHistory (policyIdentity : String) (latest : RolloutState)
    (latestIdentity : String) :
    (verifyReferenceHistory policyIdentity latest latestIdentity).Still := by
  unfold verifyReferenceHistory
  refine still_bind (still_readDocument _ _ _) fun listing => ?_
  refine still_bind (still_lift _) fun _ => still_bind (still_foldlM ?_ _ _) fun _ => still_lift _
  intro scan revision
  exact still_bind (still_readDocument _ _ _) fun _ => still_lift _

theorem quiet_recoveredCandidate (policy : RolloutPolicy) (state : RolloutState) (command : Json)
    (target : Option RolloutCandidateBinding) (now : Int) (recovery : Option Json) :
    Quiet (recoveredCandidate policy state command target now recovery) := by
  cases recovery with
  | none => exact quiet_pure none
  | some event =>
    refine (quiet_lift _).bind fun authorized => Quiet.bind ?_ fun _ => quiet_pure _
    refine (quiet_recordEvent event now).bind fun answer => ?_
    refine (quiet_lift _).bind fun _ => (quiet_still (still_candidateStatus _)).bind fun _ => ?_
    exact quiet_lift _

omit [Authority] in
theorem still_checkProtected (recovered protected_ : Option RolloutCandidateBinding) :
    (checkProtected recovered protected_).Still := by
  cases protected_ with
  | none => exact still_pure ()
  | some candidate => exact still_bind (still_candidateStatus candidate) fun _ => still_lift _

/-- A transition decides without a write. -/
theorem quiet_decideTransition (command : Json) (now : Int) (recovery : Option Json) :
    Quiet (decideTransition command now recovery) := by
  unfold decideTransition
  refine (quiet_still (still_readDocument _ _ _)).bind fun policyFile => ?_
  refine (quiet_still (still_readDocument _ _ _)).bind fun state => ?_
  refine (quiet_still (still_readDocument _ _ _)).bind fun head => ?_
  refine (quiet_lift _).bind fun policy => (quiet_lift _).bind fun stateIdentity => ?_
  refine (quiet_still (still_verifyReferenceHistory _ _ _)).bind fun _ => ?_
  refine (quiet_lift _).bind fun payload => (quiet_lift _).bind fun target => ?_
  refine (quiet_recoveredCandidate _ _ _ _ _ _).bind fun recovered => ?_
  refine (quiet_still (still_checkProtected _ _)).bind fun _ => ?_
  refine (quiet_lift _).bind fun applied => (quiet_lift _).bind fun _ => ?_
  refine (quiet_still (still_readDocument _ _ _)).bind fun history => ?_
  exact (quiet_lift _).bind fun _ => quiet_pure _

end

section
variable [Sha256] [Datetime] [Authority] {policyFile command : Json} {policy : RolloutPolicy}
variable {rollout : Rollout policy} {now : Int} {recovery : Option Json}

/-- The documents of the rollout are the ones of a followed history. -/
structure Stores (files : ControlFiles) (policyFile : Json) (rollout : Rollout policy) : Prop where
  policy : files.policy = some policyFile
  state : files.state = some rollout.last
  head : files.head = some rollout.last.head
  history : ∃ history, files.history = some history ∧ Numbered history rollout.states

omit [Authority] in
theorem Stores.same (stores : Stores files policyFile rollout) (same : SameRollout files after) :
    Stores after policyFile rollout where
  policy := same.policy.trans stores.policy
  state := same.state.trans stores.state
  head := same.head.trans stores.head
  history := by
    obtain ⟨history, stored, numbered⟩ := stores.history
    exact ⟨history, same.history.trans stored, numbered⟩

omit [Authority] in
theorem run_scan {history : AList fun _ : Nat => RolloutState} {states : List RolloutState}
    (stored : files.history = some history) (numbered : Numbered history states)
    (policyIdentity : String) :
    ((List.range' 1 states.length).foldlM (fun (scan : HistoryScan) revision => do
        let payload ← readDocument (.historyFile revision) (·.history.bind (·.lookup revision))
          (.rollout "rollout transition history is incomplete or unsafe")
        lift (scan.advance policyIdentity revision payload)) {} : Control HistoryScan).run files =
      (scanStates policyIdentity states, files) := by
  have fetched : ∀ revision state, history.lookup revision = some state →
      (readDocument (.historyFile revision) (·.history.bind (·.lookup revision))
        (.rollout "rollout transition history is incomplete or unsafe")).run files =
          (.ok state, files) := by
    intro revision state found
    exact run_readDocument (by rw [stored]; exact found)
  exact run_numbered numbered _ (fun (scan : HistoryScan) => scan.advance policyIdentity) files
    fetched {}

omit [Authority] in
/-- The history of a followed rollout is accepted. -/
theorem run_verifyReferenceHistory (stores : Stores files policyFile rollout) :
    (verifyReferenceHistory policy.identity rollout.last rollout.last.identity).run files =
      (.ok (), files) := by
  obtain ⟨history, stored, numbered⟩ := stores.history
  obtain ⟨identity, number, -⟩ := scanStates_last rollout.scanned rollout.current
  have checked : ∀ {result : Except ControlError Unit}, result = .ok () →
      (lift result : Control Unit).run files = (.ok (), files) := by
    rintro _ rfl
    rfl
  have followed := run_scan stored numbered policy.identity
  rw [rollout.scanned] at followed
  unfold verifyReferenceHistory
  rw [number, run_bind_ok (run_readDocument stored),
    run_bind_ok (checked (ensure_ok.mpr numbered.complete)), run_bind_ok followed]
  exact checked (ensure_ok.mpr (by simp [identity, rollout.current]))

omit [Authority] in
theorem verifyReferenceHistory_value {policyIdentity latestIdentity : String}
    {latest : RolloutState} {value : Unit}
    (verified : (verifyReferenceHistory policyIdentity latest latestIdentity).run files =
      (.ok value, after)) :
    ∃ history states scan, files.history = some history ∧ Numbered history states ∧
      scanStates policyIdentity states = .ok scan ∧ scan.last = some latest := by
  unfold verifyReferenceHistory at verified
  simp only [readDocument_bind_value, lift_bind_value, ensure_ok] at verified
  obtain ⟨history, stored, _, complete, verified⟩ := verified
  rw [run_bind_value] at verified
  obtain ⟨scan, _, followed, verified⟩ := verified
  simp only [lift_value, ensure_ok, Bool.and_eq_true, beq_iff_eq] at verified
  obtain ⟨⟨-, last⟩, -⟩ := verified
  obtain ⟨states, size, numbered⟩ := complete_numbered complete
  rw [← size, run_scan stored numbered] at followed
  exact ⟨history, states, scan, stored, numbered, (Prod.mk.inj followed).1, last⟩

theorem decideTransition_value {next : RolloutState} {nextHead : RolloutHead}
    {decided : RolloutPolicy}
    (ran : (decideTransition command now recovery).run files =
      (.ok (decided, next, nextHead), after)) :
    ∃ policyFile state payload transitionId actorRef target history,
      files.policy = some policyFile ∧ files.state = some state ∧ files.head = some state.head ∧
      files.history = some history ∧
      Applies policyFile decided state command payload now transitionId actorRef target ∧
      next = nextRolloutState decided state now transitionId actorRef target ∧
      nextHead = next.head ∧ next.revision ∉ history.keys := by
  have quiet := (quiet_decideTransition command now recovery).run files
  rw [ran] at quiet
  unfold decideTransition at ran
  simp only [readDocument_bind_value, lift_bind_value, statePayload_ok] at ran
  obtain ⟨policyFile, storedPolicy, state, storedState, head, storedHead, policy, read, _,
    ⟨valid, rfl, rfl⟩, ran⟩ := ran
  rw [run_bind_value] at ran
  obtain ⟨_, _, -, ran⟩ := ran
  simp only [lift_bind_value] at ran
  obtain ⟨payload, signed, requested, -, ran⟩ := ran
  rw [run_bind_value] at ran
  obtain ⟨recovered, _, -, ran⟩ := ran
  rw [run_bind_value] at ran
  obtain ⟨_, _, -, ran⟩ := ran
  simp only [lift_bind_value, readDocument_bind_value, ensure_ok, decide_eq_true_eq] at ran
  obtain ⟨⟨next, head⟩, applied, _, -, history, storedHistory, _, absent, ended⟩ := ran
  rw [run_pure] at ended
  cases ended
  obtain ⟨other, payload, transitionId, actorRef, target, applies, -, rfl, rfl⟩ :=
    applyRolloutTransition_ok.mp applied
  have same : other = decided := policyPayload_clock read applies.read
  subst same
  exact ⟨policyFile, state, payload, transitionId, actorRef, target, history, storedPolicy,
    storedState, storedHead, quiet.history ▸ storedHistory, applies, rfl, rfl, absent⟩

/-- The writes of a transition. -/
def historyWrite (next : RolloutState) (files : ControlFiles) : ControlFiles :=
  { files with history := some ((files.history.getD ∅).insert next.revision next) }

def stateWrite (next : RolloutState) (files : ControlFiles) : ControlFiles :=
  { files with state := some next }

def headWrite (next : RolloutState) (files : ControlFiles) : ControlFiles :=
  { files with head := some next.head }

/-- The three writes of a transition. -/
def transitioned (next : RolloutState) (files : ControlFiles) : ControlFiles :=
  headWrite next (stateWrite next (historyWrite next files))

omit [Datetime] [Authority] in
@[simp] theorem ledger_transitioned (next : RolloutState) (files : ControlFiles)
    (directory : String) : (transitioned next files).ledger directory = files.ledger directory :=
  rfl

theorem run_transition_undecided {error : ControlError}
    (decided : (decideTransition command now recovery).run files = (.error error, after)) :
    (transition command now recovery).run files = (.error error, after) := by
  unfold transition
  rw [run_withLock]
  exact run_bind_error decided

theorem run_transition_decided {next : RolloutState} {nextHead : RolloutHead}
    (decided : (decideTransition command now recovery).run files =
      (.ok (policy, next, nextHead), after)) :
    (transition command now recovery).run files =
      (performTransition now recovery policy next nextHead).run after := by
  unfold transition
  rw [run_withLock]
  exact run_bind_ok decided

/-- A transition without a recovery ends with its writes. -/
theorem run_performTransition (policy : RolloutPolicy) (next : RolloutState) :
    (performTransition now none policy next next.head).run files =
      (.ok next.revision, transitioned next files) := by
  simp only [performTransition, run_bind, run_write]
  rfl

/-- A recovery reads the rollout back before its event is appended. -/
def confirmRecovery (policy : RolloutPolicy) (next : RolloutState) : Control Unit := do
  let nextIdentity ← lift (statePayload next policy.identity next.head)
  verifyReferenceHistory policy.identity next nextIdentity

omit [Authority] in
theorem still_confirmRecovery (policy : RolloutPolicy) (next : RolloutState) :
    (confirmRecovery policy next).Still :=
  still_bind (still_lift _) fun _ => still_verifyReferenceHistory _ _ _

theorem run_performRecovery (event : Json) (policy : RolloutPolicy) (next : RolloutState) :
    (performTransition now (some event) policy next next.head).run files =
      (do
        confirmRecovery policy next
        let _ ← recordEvent event now false
        return next.revision).run (transitioned next files) := by
  simp only [performTransition, confirmRecovery, run_bind, run_write, bind_assoc]
  rfl

/-- A transition that is decided leaves its writes, whatever its recovery does. -/
theorem performTransition_rollout (files : ControlFiles) (now : Int) (recovery : Option Json)
    (policy : RolloutPolicy) (next : RolloutState) :
    SameRollout (transitioned next files)
        ((performTransition now recovery policy next next.head).run files).2 ∧
      ∀ revision, ((performTransition now recovery policy next next.head).run files).1 =
        .ok revision → revision = next.revision := by
  cases recovery with
  | none =>
    rw [run_performTransition]
    refine ⟨sameRollout_refl _, ?_⟩
    intro revision same
    exact (Except.ok.inj same).symm
  | some event =>
    rw [run_performRecovery]
    have within : (do
        confirmRecovery policy next
        let _ ← recordEvent event now false
        return next.revision : Control Nat).Within SameRollout := by
      have trans : ∀ first second third : ControlFiles, SameRollout first second →
          SameRollout second third → SameRollout first third :=
        fun _ _ _ before later => before.trans later
      refine within_bind trans ((still_confirmRecovery policy next).within sameRollout_refl)
        fun _ => within_bind trans (within_recordEvent event now false) fun _ => ?_
      exact (still_pure next.revision).within sameRollout_refl
    refine ⟨within.run _, ?_⟩
    intro revision same
    rcases ran : (do
        confirmRecovery policy next
        let _ ← recordEvent event now false
        return next.revision : Control Nat).run (transitioned next files) with ⟨result, after⟩
    rw [ran] at same
    have found : result = .ok revision := same
    subst found
    simp only [run_bind_value, run_pure] at ran
    obtain ⟨_, _, -, _, _, -, ended⟩ := ran
    cases ended
    rfl

end

section
variable [Sha256] [Datetime] [Authority] {policyFile command payload : Json}
variable {policy : RolloutPolicy} {rollout : Rollout policy} {now : Int}
variable {transitionId actorRef : String} {target : TransitionTarget}
variable {action : RolloutAction} {stage : Option RolloutStage}
variable {candidate : Option RolloutCandidateBinding}

omit [Sha256] [Datetime] [Authority] in
theorem restored_disabled {policy : RolloutPolicy} {current : RolloutState}
    (promised : target.Valid policy current payload)
    (restore : payload.field "action" = .str "RESTORE_CANDIDATE") :
    target.candidateBinding = policy.candidateBinding ∧ target.stage = .disabled ∧
      target.admissionsEnabled = false ∧ target.admittedCohorts = [] := by
  have same := promised.action
  rw [restore] at same
  have action : target.action = .restoreCandidate := by
    cases found : target.action <;> rw [found] at same <;> simp_all [Text.Enumeration.value]
  have closed := promised.closed (by rw [action]; simp)
  exact ⟨promised.restored action, closed.1, closed.2.1, closed.2.2⟩

theorem run_decideTransition (stores : Stores files policyFile rollout)
    (applies : Applies policyFile policy rollout.last command payload now transitionId actorRef
      target)
    {requested : Option RolloutCandidateBinding} (targeted : commandTarget payload = .ok requested)
    (cleared : (checkProtected none (protectedCandidate rollout.last payload requested)).run files =
      (.ok (), files)) :
    (decideTransition command now none).run files =
      (.ok (policy, nextRolloutState policy rollout.last now transitionId actorRef target,
        (nextRolloutState policy rollout.last now transitionId actorRef target).head), files) := by
  obtain ⟨history, stored, numbered⟩ := stores.history
  have checked : ∀ {Value : Type} {result : Except ControlError Value} {value : Value},
      result = .ok value → (lift result : Control Value).run files = (.ok value, files) := by
    rintro Value _ value rfl
    rfl
  have passed : ∀ {condition : Bool} {error : ControlError}, condition = true →
      (lift (ensure condition error) : Control Unit).run files = (.ok (), files) := by
    rintro _ error rfl
    rfl
  have valid : statePayload rollout.last policy.identity rollout.last.head =
      .ok rollout.last.identity := statePayload_ok.mpr ⟨applies.valid, rfl, rfl⟩
  have applied := applyRolloutTransition_ok.mpr ⟨policy, payload, transitionId, actorRef, target,
    applies, rfl, rfl, rfl⟩
  have absent : (nextRolloutState policy rollout.last now transitionId actorRef target).revision ∉
      history.keys := by
    change rollout.last.revision + 1 ∉ history.keys
    rw [numbered.mem, (scanStates_last rollout.scanned rollout.current).2.1]
    omega
  have restored : ∀ next,
      next = nextRolloutState policy rollout.last now transitionId actorRef target →
      (payload.field "action" != .str "RESTORE_CANDIDATE" ||
        (next.candidateBinding == policy.candidateBinding && next.stage == .disabled &&
          !next.admissionsEnabled && next.admittedCohorts.isEmpty)) = true := by
    rintro _ rfl
    by_cases restore : payload.field "action" = .str "RESTORE_CANDIDATE"
    · obtain ⟨candidate, stage, enabled, cohorts⟩ :=
        restored_disabled (transitionTarget_valid applies.targeted) restore
      simp [nextRolloutState, candidate, stage, enabled, cohorts]
    · simp [restore]
  unfold decideTransition
  rw [run_bind_ok (run_readDocument stores.policy), run_bind_ok (run_readDocument stores.state),
    run_bind_ok (run_readDocument stores.head), run_bind_ok (checked applies.read),
    run_bind_ok (checked valid), run_bind_ok (run_verifyReferenceHistory stores),
    run_bind_ok (checked applies.signed), run_bind_ok (checked targeted)]
  change (pure none >>= _ : Control _).run files = _
  rw [pure_bind, run_bind_ok cleared, run_bind_ok (checked applied)]
  dsimp only
  rw [run_bind_ok (passed (restored _ rfl)), run_bind_ok (run_readDocument stored),
    run_bind_ok (passed (decide_eq_true absent))]
  rfl

/-- A built command passes the checks that do not concern its target. -/
theorem buildTransitionCommand_applies (read : policyPayload policyFile now = .ok policy)
    (named : isName transitionId = true) (acting : isName actorRef = true)
    (targeted : transitionTarget policy rollout.last ((buildTransitionCommand policy.identity
      rollout.last.revision action transitionId actorRef stage candidate).field "payload") =
        .ok target) :
    Applies policyFile policy rollout.last (buildTransitionCommand policy.identity
      rollout.last.revision action transitionId actorRef stage candidate)
      ((buildTransitionCommand policy.identity rollout.last.revision action transitionId actorRef
        stage candidate).field "payload") now transitionId actorRef target where
  read := read
  valid := rollout.valid
  authorized := rollout.authorized
  cohorts := rollout.cohorts
  signed := verifySigned_signed rfl
  shaped := by
    simp [buildTransitionCommand, signed, Json.hasKeys, Json.field, Json.get?, List.lookup_cons]
  bound := rfl
  expected := by
    change Json.equalsInt (.int rollout.last.revision) rollout.last.revision = true
    simp [Json.equalsInt]
  transition := rfl
  named := named
  actor := rfl
  acting := acting
  targeted := targeted

theorem run_disable (stores : Stores files policyFile rollout)
    (read : policyPayload policyFile now = .ok policy) (named : isName transitionId = true)
    (acting : isName actorRef = true) :
    (transition (buildTransitionCommand policy.identity rollout.last.revision .disable transitionId
      actorRef none none) now none).run files =
      (.ok (rollout.last.revision + 1), transitioned (nextRolloutState policy rollout.last now
        transitionId actorRef ⟨rollout.last.candidateBinding, .disabled, false, [], .disable⟩)
          files) := by
  have applies := @buildTransitionCommand_applies _ _ _ _ _ rollout now transitionId actorRef
    ⟨rollout.last.candidateBinding, .disabled, false, [], .disable⟩ .disable none none read named
    acting rfl
  have decided := @run_decideTransition _ _ _ _ _ _ _ _ _ _ _ _ _ stores applies none rfl rfl
  rw [run_transition_decided decided, run_performTransition]
  rfl
omit [Authority] in
/-- The ledgers of a policy are created in an empty store. -/
theorem initializeLedgers_fresh (policy : RolloutPolicy) (now : Int) :
    (initializeLedgers policy now).run {} =
      (.ok (), ((initializeLedgers policy now).run {}).2) := by
  unfold initializeLedgers
  cases policy.rollbackTargetBinding with
  | none => exact initializeLedger_fresh (by simp) now
  | some rollback =>
    dsimp only
    by_cases same : rollback.identity = policy.candidateBinding.identity
    · rw [if_pos same]
      exact initializeLedger_fresh (by simp) now
    · rw [if_neg same]
      have first : (initializeLedger policy.candidateBinding now).run {} =
          (.ok (), ((initializeLedger policy.candidateBinding now).run {}).2) :=
        initializeLedger_fresh (by simp) now
      rw [run_bind_ok first]
      refine initializeLedger_fresh ?_ now
      simp [initializeLedger, writeLedgerDocument, run_bind, mem_withLedger, same]

theorem initializeRollout_fresh (read : policyPayload policyFile now = .ok policy) :
    (initializeRollout policyFile now).run {} =
      (.ok (), ((initializeRollout policyFile now).run {}).2) := by
  have ledgers := initializeLedgers_fresh policy now
  unfold initializeRollout
  rw [run_withLock]
  have vacant : (Program.read (.read .policy) fun files => ensure (!files.initialized)
      (.rollout "rollout control is already initialized") : Control Unit).run
        (ControlFiles.opened .rollout {}) = (.ok (), {}) := rfl
  have checked : (Program.lift (policyPayload policyFile now) : Control RolloutPolicy).run {} =
      (.ok policy, {}) := by
    rw [read]
    rfl
  rw [run_bind_ok vacant, run_bind_ok checked, run_bind_ok ledgers]
  rfl
end

end Control

section
variable [Sha256] [Datetime] [Authority] {rollback : Option RolloutCandidateBinding}

/-- The first names of the cohorts, one more for each stage. -/
def sampleCohorts (size : Nat) : Json :=
  .arr ((["alpha", "beta", "delta", "gamma", "omega"].take size).map .str)

/-- The policy of the closed runs opens five cohorts one after the other. -/
def samplePolicy (rollback : Option RolloutCandidateBinding) : Json := .obj [
  ("candidate_binding", RolloutCandidateBinding.sample.asDict),
  ("expires_at", .str (Datetime.isoformat 100)),
  ("issued_at", .str (Datetime.isoformat 0)),
  ("policy_id", .str "policy"),
  ("policy_revision", .int 1),
  ("policy_version", .str "1.0"),
  ("rollback_rule", .str rollbackRule),
  ("rollback_target_binding", (rollback.map (·.asDict)).getD .null),
  ("schema_version", .str "1.0"),
  ("stage_cohorts", .obj [
    ("CANARY", sampleCohorts 3),
    ("FULL", sampleCohorts 5),
    ("NAMED_COHORT", sampleCohorts 1),
    ("PHASED", sampleCohorts 4),
    ("PILOT", sampleCohorts 2)])]

/-- The policy of the closed runs, as its check returns it. -/
def RolloutPolicy.sample (rollback : Option RolloutCandidateBinding) : RolloutPolicy where
  policyVersion := "1.0"
  candidateBinding := .sample
  rollbackTargetBinding := rollback
  stageCohorts := cohortsOf ((samplePolicy rollback).field "stage_cohorts")
  rollbackRule := KSlide.rollbackRule
  identity := stableRevision (samplePolicy rollback)

theorem policyPayload_sample (other : rollback ≠ some .sample) {now : Int} (issued : 0 ≤ now)
    (current : now < 100) :
    policyPayload (signed (samplePolicy rollback)) now = .ok (.sample rollback) := by
  have named : isName "policy" = true := by decide +kernel
  have stages : checkStages ((samplePolicy rollback).field "stage_cohorts")
      RolloutStage.stages [] = .ok () := by
    change checkStages (.obj [("CANARY", sampleCohorts 3), ("FULL", sampleCohorts 5),
      ("NAMED_COHORT", sampleCohorts 1), ("PHASED", sampleCohorts 4),
      ("PILOT", sampleCohorts 2)]) _ _ = _
    decide +kernel
  have binding : RolloutCandidateBinding.fromMapping
      ((samplePolicy rollback).field "candidate_binding") = .ok .sample :=
    RolloutCandidateBinding.fromMapping_asDict _
  have target : rollbackTarget ((samplePolicy rollback).field "rollback_target_binding") =
      .ok rollback := by
    change rollbackTarget ((rollback.map (·.asDict)).getD .null) = _
    cases rollback with
    | none => rfl
    | some candidate =>
      change some <$> RolloutCandidateBinding.fromMapping candidate.asDict = _
      rw [RolloutCandidateBinding.fromMapping_asDict]
      rfl
  have issueTime : controlTime .rollout "rollout policy issue time"
      ((samplePolicy rollback).field "issued_at") = .ok 0 :=
    controlTime_ok.mpr ⟨_, rfl, Datetime.fromisoformat_isoformat 0⟩
  have expiry : controlTime .rollout "rollout policy expiry"
      ((samplePolicy rollback).field "expires_at") = .ok 100 :=
    controlTime_ok.mpr ⟨_, rfl, Datetime.fromisoformat_isoformat 100⟩
  have shaped : ((samplePolicy rollback).hasKeys ["schema_version", "policy_id", "policy_version",
      "policy_revision", "issued_at", "expires_at", "candidate_binding",
      "rollback_target_binding", "stage_cohorts", "rollback_rule"] &&
      (samplePolicy rollback).field "schema_version" == .str "1.0") = true := by
    simp [samplePolicy, Json.hasKeys, Json.field, Json.get?, List.lookup_cons]
  unfold policyPayload
  simp only [bind_ok, ensure_ok, pure_ok]
  refine ⟨_, verifySigned_signed rfl, (), shaped, "policy", controlText_ok.mpr ⟨rfl, named⟩, (), rfl,
    1, natural_ok.mpr rfl, (), rfl, 0, issueTime, (), by simpa using issued, 100, expiry, (),
    by simpa using current, _, binding, rollback, target, (), by simpa using other, (), rfl, (), rfl,
    (), stages, rfl⟩

end
end KSlide
