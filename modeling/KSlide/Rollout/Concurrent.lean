import KSlide.Interleaving.Locks
import KSlide.Rollout.Usable

/-
This file shows what an admission sees of the rollout while others write it.
-/

namespace KSlide
open Interleaving Program ControlFiles List

namespace ControlFiles

/-- The stored event of a revision. -/
def event (files : ControlFiles) (directory : String) (revision : Nat) : Option Json :=
  (files.ledger directory).history.bind (·.lookup revision)

/-- The policy stays, and no stored event is lost or changed. -/
structure Grows (files after : ControlFiles) : Prop where
  policy : after.policy = files.policy
  kept : ∀ directory revision payload, files.event directory revision = some payload →
    after.event directory revision = some payload

end ControlFiles

namespace Control
variable {files after : ControlFiles} {held : Set ControlLock} {Value Other : Type}
variable {post : Except ControlError Other → Set ControlLock → ControlFiles → Prop}
variable {candidate : RolloutCandidateBinding}

/-- Nobody changes a ledger while another holds its lock. -/
def locking : Locking ControlLock ControlLabel ControlFiles where
  acquires label := match label with
    | .acquire lock => some lock
    | _ => none
  releases label := match label with
    | .release lock => some lock
    | _ => none
  protects lock files after := match lock with
    | .rollout => True
    | .ledger directory => after.ledger directory = files.ledger directory
  grows := Grows
  protects_refl lock _ := by cases lock <;> trivial
  protects_trans lock _ _ _ first second := by
    cases lock with
    | rollout => trivial
    | ledger directory => exact Eq.trans second first
  grows_refl _ := ⟨rfl, fun _ _ _ same => same⟩
  grows_trans _ _ _ first second := ⟨second.policy.trans first.policy,
    fun _ _ _ stored => second.kept _ _ _ (first.kept _ _ _ stored)⟩

theorem protects_ledgers (same : ∀ directory, after.ledger directory = files.ledger directory)
    (lock : ControlLock) : locking.protects lock files after := by
  cases lock with
  | rollout => trivial
  | ledger directory => exact same directory

theorem grows_ledgers (policy : after.policy = files.policy)
    (same : ∀ directory, after.ledger directory = files.ledger directory) : Grows files after := by
  refine ⟨policy, fun directory revision payload stored => ?_⟩
  unfold event at *
  rwa [same]

theorem calm_read (document : ControlDocument) (body : ControlFiles → Except ControlError Value) :
    (read (.read document) body : Control Value).Calm locking := by
  intro held files current _ _
  refine ⟨locking.grows_refl _, fun lock _ => locking.protects_refl lock _, ?_⟩
  dsimp only
  cases body current <;> simp [Guarded, Locking.after, locking]

/-- A write outside the ledgers is calm. -/
theorem calm_write {document : ControlDocument} {change : ControlFiles → ControlFiles}
    (policy : ∀ files, (change files).policy = files.policy)
    (ledgers : ∀ files, (change files).ledgers = files.ledgers) :
    (write (.write document) change : Control Unit).Calm locking := by
  intro held files current _ _
  have same : ∀ directory, (change current).ledger directory = current.ledger directory := by
    intro directory
    rw [ledger, ledgers, ledger]
  refine ⟨grows_ledgers (policy current) same, fun lock _ => protects_ledgers same lock, ?_⟩
  simp [Guarded, Locking.after, locking]

/-- The holder of the lock of a ledger adds to its documents. -/
theorem guarded_writeLedger {directory : String} {document : LedgerDocument}
    {change : LedgerFiles → LedgerFiles} {rest : Unit → Control Other}
    (owned : .ledger directory ∈ held)
    (grown : ∀ revision payload, files.event directory revision = some payload →
      (change (files.ledger directory)).history.bind (·.lookup revision) = some payload)
    (later : ∀ files, (rest ()).Guarded locking post held files) :
    (writeLedgerDocument directory document change >>= rest).Guarded locking post held
      files := by
  intro current kept _
  have same : current.ledger directory = files.ledger directory := kept _ owned
  refine ⟨⟨rfl, ?_⟩, ?_, ?_⟩
  · intro other revision payload stored
    unfold event at *
    by_cases own : other = directory
    · subst own
      rw [ledger_withLedger_self, same]
      exact grown revision payload (same ▸ stored)
    · rwa [ledger_withLedger_ne own]
  · intro lock free
    cases lock with
    | rollout => trivial
    | ledger other =>
      refine ledger_withLedger_ne ?_ change
      rintro rfl
      exact free owned
  · have stays : locking.after (.write (.ledger directory document)) held = held := by
      simp [Locking.after, locking]
    rw [stays]
    exact later _

theorem guarded_lift {result : Except ControlError Value} {rest : Value → Control Other}
    (failed : ∀ error, post (.error error) held files)
    (later : ∀ value, result = .ok value → (rest value).Guarded locking post held files) :
    (lift result >>= rest).Guarded locking post held files := by
  cases result with
  | error error => exact failed error
  | ok value => exact later value rfl

/-- A lock is taken, and it is returned when its body ends. -/
theorem calm_withLock {lock : ControlLock} {body : Control Value}
    (inner : ∀ held files, lock ∈ held → body.Guarded locking (fun _ after _ => after = held)
      held files) : (withLock lock body).Calm locking := by
  intro held files current _ fresh
  have free : lock ∉ held := fresh lock rfl
  have opened := sameDocuments_opened current lock
  refine ⟨grows_ledgers opened.policy opened.ledger,
    fun other _ => protects_ledgers opened.ledger other, ?_⟩
  have returned :
      locking.after (.release lock) (locking.after (.acquire lock) held) = held := by
    ext other
    simp only [Locking.after, locking, Set.mem_ofPred_eq, Option.some.injEq]
    grind
  have owned : lock ∈ locking.after (.acquire lock) held := ⟨Or.inr rfl, nofun⟩
  change Guarded locking _ ((tryCatch body fun error => do
    release lock
    throw error) >>= fun value => do
    release lock
    return value) _ _
  refine guarded_bind (guarded_tryCatch (guarded_mono (inner _ _ owned) ?_))
  rintro (error | value) _ files rfl current _ _
  all_goals
    exact ⟨locking.grows_refl _, fun other _ => locking.protects_refl other _, returned⟩

section
variable [Sha256] [Datetime]

theorem calm_readLedger (candidate : RolloutCandidateBinding) :
    (readLedger candidate).Calm locking := by
  unfold readLedger
  refine calm_bind (calm_read _ _) fun state => calm_bind (calm_read _ _) fun head => ?_
  refine calm_bind (calm_lift _) fun _ => calm_bind (calm_lift _) fun _ => ?_
  refine calm_bind (calm_read _ _) fun listing => calm_bind (calm_lift _) fun _ => ?_
  refine calm_bind (calm_read _ _) fun genesis => ?_
  refine calm_bind (calm_lift _) fun _ => calm_bind (calm_lift _) fun _ => ?_
  refine calm_bind (calm_foldlM ?_ _ _) fun replay => ?_
  · intro replay revision
    exact calm_bind (calm_read _ _) fun _ => calm_lift _
  · exact calm_bind (calm_lift _) fun _ => calm_pure _

theorem calm_candidateStatus (candidate : RolloutCandidateBinding) :
    (candidateStatus candidate).Calm locking :=
  calm_bind (calm_readLedger candidate) fun _ => calm_lift _

theorem calm_verifyReferenceHistory (policyIdentity : String) (latest : RolloutState)
    (latestIdentity : String) :
    (verifyReferenceHistory policyIdentity latest latestIdentity).Calm locking := by
  unfold verifyReferenceHistory
  refine calm_bind (calm_read _ _) fun listing => calm_bind (calm_lift _) fun _ => ?_
  refine calm_bind (calm_foldlM ?_ _ _) fun _ => calm_lift _
  intro scan revision
  exact calm_bind (calm_read _ _) fun _ => calm_lift _

/-- The writer of a ledger knows that the file of its event is absent. -/
def Absent (candidate : RolloutCandidateBinding) (files : ControlFiles) :
    Except ControlError AppendDecision → Prop
  | .ok (.append _ next) => files.event candidate.identity next.revision = none
  | _ => True

theorem guarded_decideAppend (payload : Json) (event : CandidateEvent) (validateOnly : Bool)
    (held : Set ControlLock) (files : ControlFiles) :
    (decideAppend candidate payload event validateOnly).Guarded locking
      (fun decision after files => after = held ∧ Absent candidate files decision) held files := by
  unfold decideAppend
  refine guarded_bind (guarded_mono (calm_readLedger _ held files) ?_)
  rintro (error | ⟨state, identity⟩) held files rfl
  · exact ⟨rfl, trivial⟩
  intro current _ _
  refine ⟨locking.grows_refl _, fun lock _ => locking.protects_refl lock _, ?_⟩
  have stays : locking.after (.read (.ledger candidate.identity .history)) held = held := by
    simp [Locking.after, locking]
  rw [stays]
  dsimp only
  cases listed : (current.ledger candidate.identity).history with
  | none => exact ⟨rfl, trivial⟩
  | some history =>
    have quit : ∀ error, held = held ∧ Absent candidate current (.error error) :=
      fun _ => ⟨rfl, trivial⟩
    dsimp only [Program.bind]
    split
    · exact guarded_lift quit fun _ _ => ⟨rfl, trivial⟩
    · refine guarded_lift quit fun _ _ => guarded_lift quit fun prior _ => ?_
      refine guarded_lift quit fun _ _ => guarded_lift quit fun reasons _ => ?_
      split_ifs
      · exact ⟨rfl, trivial⟩
      · refine guarded_lift quit fun _ fresh => ⟨rfl, ?_⟩
        have absent : state.revision + 1 ∉ history.keys := of_decide_eq_true (ensure_ok.mp fresh)
        change (Option.bind (ledger current candidate.identity).history _) = none
        rw [listed]
        exact AList.lookup_eq_none.mpr (mt AList.mem_keys.mp absent)

omit [Datetime] in
/-- The holder of the lock of a ledger adds an event that is absent. -/
theorem guarded_performAppend {decision : AppendDecision} (payload : Json)
    (owned : .ledger candidate.identity ∈ held) (absent : Absent candidate files (.ok decision)) :
    (performAppend candidate payload decision).Guarded locking (fun _ after _ => after = held)
      held files := by
  cases decision with
  | duplicate state => rfl
  | checked state => rfl
  | append state next =>
    have kept : ∀ (files : ControlFiles) revision payload,
        files.event candidate.identity revision = some payload →
        (files.ledger candidate.identity).history.bind (·.lookup revision) = some payload :=
      fun _ _ _ stored => stored
    refine guarded_writeLedger owned ?_ fun files => ?_
    · intro revision earlier stored
      -- the lock keeps the file absent until this write
      have other : revision ≠ next.revision := by
        rintro rfl
        cases absent.symm.trans stored
      cases listed : (files.ledger candidate.identity).history with
      | none => simp [event, listed] at stored
      | some history =>
        simp only [event, listed, Option.bind_some] at stored
        simp only [Option.getD_some, Option.bind_some]
        rw [AList.lookup_insert_ne other, stored]
    · refine guarded_writeLedger owned (kept files) fun files => ?_
      exact guarded_writeLedger owned (kept files) fun _ => rfl

variable [Authority]

theorem calm_recordEvent (event : Json) (now : Int) (validateOnly : Bool) :
    (recordEvent event now validateOnly).Calm locking := by
  unfold recordEvent
  refine calm_bind (calm_lift _) fun payload => calm_bind (calm_lift _) fun candidate => ?_
  refine calm_bind (calm_lift _) fun validated => calm_bind (calm_withLock ?_) fun _ => ?_
  · intro held files owned
    refine guarded_bind (guarded_mono (guarded_decideAppend _ _ _ held files) ?_)
    rintro (error | decision) held files ⟨rfl, absent⟩
    · rfl
    · exact guarded_performAppend payload owned absent
  · exact calm_bind (calm_lift _) fun _ => calm_pure _

theorem calm_decideTransition (command : Json) (now : Int) (recovery : Option Json) :
    (decideTransition command now recovery).Calm locking := by
  unfold decideTransition
  refine calm_bind (calm_read _ _) fun policyFile => calm_bind (calm_read _ _) fun state => ?_
  refine calm_bind (calm_read _ _) fun head => calm_bind (calm_lift _) fun policy => ?_
  refine calm_bind (calm_lift _) fun stateIdentity => ?_
  refine calm_bind (calm_verifyReferenceHistory _ _ _) fun _ => ?_
  refine calm_bind (calm_lift _) fun payload => calm_bind (calm_lift _) fun target => ?_
  refine calm_bind ?_ fun recovered => calm_bind ?_ fun _ => ?_
  · cases recovery with
    | none => exact calm_pure none
    | some event =>
      refine calm_bind (calm_lift _) fun _ => calm_bind ?_ fun _ => calm_pure _
      refine calm_bind (calm_recordEvent event now true) fun _ => calm_bind (calm_lift _) ?_
      exact fun _ => calm_bind (calm_candidateStatus _) fun _ => calm_lift _
  · cases protectedCandidate state payload target with
    | none => exact calm_pure ()
    | some candidate => exact calm_bind (calm_candidateStatus candidate) fun _ => calm_lift _
  · refine calm_bind (calm_lift _) fun applied => calm_bind (calm_lift _) fun _ => ?_
    exact calm_bind (calm_read _ _) fun history => calm_bind (calm_lift _) fun _ => calm_pure _

theorem calm_transition (command : Json) (now : Int) (recovery : Option Json) :
    (transition command now recovery).Calm locking := by
  refine calm_withLock fun held files _ => calm_bind (calm_decideTransition _ _ _) ?_ held files
  rintro ⟨policy, next, nextHead⟩
  refine calm_bind (calm_write (fun _ => rfl) fun _ => rfl) fun _ => ?_
  refine calm_bind (calm_write (fun _ => rfl) fun _ => rfl) fun _ => ?_
  refine calm_bind (calm_write (fun _ => rfl) fun _ => rfl) fun _ => ?_
  cases recovery with
  | none => exact calm_pure _
  | some event =>
    refine calm_bind (calm_lift _) fun _ => calm_bind (calm_verifyReferenceHistory _ _ _) ?_
    exact fun _ => calm_bind (calm_recordEvent event now false) fun _ => calm_pure _

/-- A party appends an event or moves the rollout. -/
inductive ControlCall where
  | record (event : Json) (now : Int)
  | transition (command : Json) (now : Int) (recovery : Option Json)

def ControlCall.program : ControlCall → Control Unit
  | .record event now => recordEvent event now false >>= fun _ => pure ()
  | .transition command now recovery => Control.transition command now recovery >>= fun _ => pure ()

theorem calm_program (call : ControlCall) : call.program.Calm locking := by
  cases call with
  | record event now => exact calm_bind (calm_recordEvent _ _ _) fun _ => calm_pure ()
  | transition command now recovery =>
    exact calm_bind (calm_transition _ _ _) fun _ => calm_pure ()

end

section
variable {during : ControlFiles → Prop} {files : ControlFiles} {result : Other}

theorem sees_read {document : ControlDocument} {select : ControlFiles → Option Value}
    {missing : ControlError} {rest : Value → Control Other}
    (sees : (readDocument document select missing >>= rest).Sees during Grows files result) :
    ∃ current value, during current ∧ Grows files current ∧ select current = some value ∧
      (rest value).Sees during Grows current result := by
  obtain ⟨current, passed, grown, sees⟩ := sees
  dsimp only at sees
  cases found : select current with
  | none =>
    rw [found] at sees
    exact sees.elim
  | some value =>
    rw [found] at sees
    exact ⟨current, value, passed, grown, found, sees⟩

theorem sees_lift {computed : Except ControlError Value} {rest : Value → Control Other}
    (sees : (lift computed >>= rest).Sees during Grows files result) :
    ∃ value, computed = .ok value ∧ (rest value).Sees during Grows files result := by
  cases computed with
  | error error => exact sees.elim
  | ok value => exact ⟨value, rfl, sees⟩

variable {cohortId : String} {now : Int}

/-- A receipt agrees with what it reports. -/
def Fits (current : RolloutState) (revocation : CandidateRevocationStatus)
    (status : AdmissionStatus) (reason : AdmissionReason) : Prop :=
  (reason = .candidateRevoked ↔ revocation.status = .revoked) ∧
    (status = .denied ∧ reason = .candidateRevoked ∨
      status = .denied ∧ reason = .admissionsDisabled ∧ current.stage = .disabled ∨
      status = .denied ∧ reason = .cohortNotAdmitted ∧ current.stage ≠ .disabled ∨
      status = .admitted ∧ reason = .cohortAdmitted ∧ current.stage.isOpen = true)

theorem receipt_valid {policy : RolloutPolicy} {current : RolloutState}
    {revocation : CandidateRevocationStatus} (named : isName cohortId = true)
    (checked : policy.Valid) (positive : 1 ≤ current.revision)
    (shape : Text.isSha256 revocation.stateIdentity = true) {status : AdmissionStatus}
    {reason : AdmissionReason} (fits : Fits current revocation status reason) :
    validateRolloutAdmission (receipt status reason candidate policy current cohortId revocation)
      candidate = .ok (receipt status reason candidate policy current cohortId revocation) := by
  obtain ⟨revoked, fits⟩ := fits
  have digest := checked.identity
  have version := checked.version
  unfold validateRolloutAdmission validateBoundAdmission receipt
  rcases fits with ⟨rfl, rfl⟩ | ⟨rfl, rfl, stage⟩ | ⟨rfl, rfl, stage⟩ | ⟨rfl, rfl, stage⟩ <;>
    simp_all [ensure, controlText, Json.ofText?]

variable [Sha256] [Datetime]

/-- The events of a listing are read back although the history may grow. -/
theorem sees_events {events : List Json} {offset : Nat} {replay next : Replay}
    {missing : ControlError} (stored : ∀ index (listed : index < events.length),
      files.event candidate.identity (offset + index) = some events[index])
    (sees : ((List.range' offset events.length).foldlM (fun (replay : Replay) revision => do
      let payload ← readLedgerDocument candidate.identity (.event revision)
        (·.history.bind (·.lookup revision)) missing
      lift (replay.advance candidate revision payload)) replay).Sees during Grows files next) :
    (events.zipIdx offset).foldlM (fun replay entry =>
      replay.advance candidate entry.2 entry.1) replay = .ok next := by
  induction events generalizing offset replay files with
  | nil => exact congrArg Except.ok sees
  | cons payload events ih =>
    rw [length_cons, range'_succ, foldlM_cons, bind_assoc] at sees
    obtain ⟨current, found, -, grown, here, sees⟩ := sees_read sees
    have same : current.event candidate.identity offset = some payload :=
      grown.kept _ _ _ (stored 0 (by simp))
    cases Option.some.inj (here.symm.trans same)
    obtain ⟨middle, advanced, sees⟩ := sees_lift sees
    rw [zipIdx_cons, foldlM_cons]
    change (replay.advance candidate offset payload >>= _) = _
    rw [advanced]
    refine ih ?_ sees
    intro index within
    have later := grown.kept _ _ _ (stored (index + 1) (by rw [length_cons]; omega))
    rw [getElem_cons_succ] at later
    rw [← later]
    congr 1
    omega

/-- A reader of a ledger meets a moment at which the history explains the status. -/
theorem sees_readLedger {state : LedgerState} {identity : String}
    (sees : (readLedger candidate).Sees during Grows files (state, identity)) :
    ∃ moment history events, during moment ∧
      (moment.ledger candidate.identity).history = some history ∧ Numbered history events ∧
      (state.status = .revoked ↔ ∃ reason, ActiveReason events reason) := by
  unfold readLedger at sees
  obtain ⟨_, state, -, -, -, sees⟩ := sees_read sees
  obtain ⟨_, head, -, -, -, sees⟩ := sees_read sees
  obtain ⟨_, -, sees⟩ := sees_lift sees
  obtain ⟨_, -, sees⟩ := sees_lift sees
  obtain ⟨moment, history, passed, -, listed, sees⟩ := sees_read sees
  obtain ⟨_, full, sees⟩ := sees_lift sees
  obtain ⟨between, genesis, -, grown, -, sees⟩ := sees_read sees
  obtain ⟨_, valid, sees⟩ := sees_lift sees
  obtain ⟨_, first, sees⟩ := sees_lift sees
  obtain ⟨replay, middle, looped, sees⟩ := sees_bind sees
  obtain ⟨_, agreed, sees⟩ := sees_lift sees
  cases sees
  simp only [ensure_ok, Bool.and_eq_true, beq_iff_eq] at full first agreed
  obtain ⟨events, size, numbered⟩ := complete_numbered full
  refine ⟨moment, history, events, passed, listed, numbered, ?_⟩
  rw [← size] at looped
  -- no event of the listing changes before it is read
  have replayed : replayEvents candidate genesis events = .ok replay := by
    refine sees_events ?_ looped
    intro index within
    rw [Nat.add_comm]
    refine grown.kept _ _ _ ?_
    change Option.bind (moment.ledger candidate.identity).history _ = _
    change (moment.ledger candidate.identity).history = _ at listed
    rw [listed]
    exact numbered.item index within
  rw [← agreed.1, replay_revoked valid first replayed]

/-- A status that was reported is explained at one moment. -/
theorem sees_candidateStatus {revocation : CandidateRevocationStatus}
    (sees : (candidateStatus candidate).Sees during Grows files revocation) :
    Text.isSha256 revocation.stateIdentity = true ∧ ∃ moment history events, during moment ∧
      (moment.ledger candidate.identity).history = some history ∧ Numbered history events ∧
      (revocation.status = .revoked ↔ ∃ reason, ActiveReason events reason) := by
  obtain ⟨⟨state, identity⟩, _, ledger, status⟩ := sees_bind sees
  dsimp only at status
  have same : revocation = state.report candidate := by
    cases checked : (state.report candidate).validate candidate with
    | error error =>
      rw [checked] at status
      exact status.elim
    | ok value =>
      rw [checked] at status
      cases status
      unfold CandidateRevocationStatus.validate at checked
      simp only [bind_ok, pure_ok] at checked
      grind
  subst same
  exact ⟨stableRevision_shape _, sees_readLedger ledger⟩

variable [Authority]

/-- The state opens a stage of the policy to the cohort. -/
def OpenTo (files : ControlFiles) (candidate : RolloutCandidateBinding) (cohortId : String)
    (now : Int) : Prop :=
  ∃ file policy current, files.policy = some file ∧ policyPayload file now = .ok policy ∧
    files.state = some current ∧ current.candidateBinding = candidate ∧
    current.stage.isOpen = true ∧ cohortId ∈ policy.stageCohorts current.stage

/-- No revocation that the ledger holds is still active. -/
def Unrevoked (files : ControlFiles) (candidate : RolloutCandidateBinding) : Prop :=
  ∃ history events, (files.ledger candidate.identity).history = some history ∧
    Numbered history events ∧ ∀ reason, ¬ActiveReason events reason

/-- An admission answers from moments that agree. -/
theorem sees_admitCandidate {answer : RolloutAdmission} (named : isName cohortId = true)
    (sees : (admitCandidate candidate cohortId now).Sees during Grows files answer) :
    (answer.status = .admitted → (∃ moment, during moment ∧ OpenTo moment candidate cohortId now) ∧
      ∃ moment, during moment ∧ Unrevoked moment candidate) ∧
    validateRolloutAdmission answer candidate = .ok answer := by
  unfold admitCandidate at sees
  obtain ⟨early, file, -, -, kept, sees⟩ := sees_read sees
  obtain ⟨moment, current, passed, grown, stored, sees⟩ := sees_read sees
  obtain ⟨_, head, -, -, -, sees⟩ := sees_read sees
  obtain ⟨policy, read, sees⟩ := sees_lift sees
  obtain ⟨_, valid, sees⟩ := sees_lift sees
  obtain ⟨_, _, -, sees⟩ := sees_bind sees
  obtain ⟨_, agreed, sees⟩ := sees_lift sees
  obtain ⟨_, -, sees⟩ := sees_lift sees
  obtain ⟨_, -, sees⟩ := sees_lift sees
  obtain ⟨_, -, sees⟩ := sees_lift sees
  obtain ⟨revocation, _, reported, sees⟩ := sees_bind sees
  obtain ⟨shape, last, history, events, met, listed, numbered, revoked⟩ := sees_candidateStatus
    (sees_tryCatch (fun error => by cases error <;> exact ⟨_, rfl⟩) reported)
  obtain ⟨valid, -, -⟩ := statePayload_ok.mp valid
  have enabled := valid.enabled
  have isOpen : current.stage.isOpen = true ↔ current.stage ≠ .disabled := by
    cases current.stage <;> decide
  have certified := @receipt_valid candidate cohortId policy current revocation named
    (policyPayload_valid read) valid.positive shape
  dsimp only at sees
  split at sees
  · rename_i active
    cases sees
    have same := beq_iff_eq.mp active
    exact ⟨nofun, certified ⟨by simp [same], Or.inl ⟨rfl, rfl⟩⟩⟩
  · rename_i active
    replace active := mt beq_iff_eq.mpr active
    split at sees
    · rename_i closed
      have off : current.stage = .disabled := by
        by_contra other
        simp [enabled, isOpen.mpr other, other] at closed
      cases sees
      exact ⟨nofun, certified ⟨by simp [active], Or.inr (Or.inl ⟨rfl, rfl, off⟩)⟩⟩
    · rename_i closed
      have off : current.stage ≠ .disabled := by
        rintro same
        exact closed (by simp [same])
      split at sees
      · cases sees
        exact ⟨nofun, certified ⟨by simp [active], Or.inr (Or.inr (Or.inl ⟨rfl, rfl, off⟩))⟩⟩
      · rename_i admitted
        cases sees
        simp only [Bool.or_eq_true, bne_iff_ne, not_or, not_not, Bool.not_eq_true,
          Bool.not_eq_false', contains_iff_mem] at admitted
        have same := beq_iff_eq.mp (ensure_ok.mp agreed)
        refine ⟨fun _ => ⟨⟨moment, passed, file, policy, current, ?_, read, stored, same.symm,
          isOpen.mpr off, admitted.1 ▸ admitted.2⟩, last, met, history, events, listed, numbered,
          ?_⟩, certified ⟨by simp [active], Or.inr (Or.inr (Or.inr ⟨rfl, rfl, isOpen.mpr off⟩))⟩⟩
        · exact grown.policy.trans kept
        · intro reason found
          exact active (revoked.mpr ⟨reason, found⟩)

theorem still_admitCandidate (candidate : RolloutCandidateBinding) (cohortId : String) (now : Int) :
    (admitCandidate candidate cohortId now).Still := by
  unfold admitCandidate
  refine still_bind (still_read _ _) fun _ => still_bind (still_read _ _) fun current => ?_
  refine still_bind (still_read _ _) fun _ => still_bind (still_lift _) fun policy => ?_
  refine still_bind (still_lift _) fun _ => ?_
  refine still_bind (still_verifyReferenceHistory _ _ _) fun _ => ?_
  refine still_bind (still_lift _) fun _ => still_bind (still_lift _) fun _ => ?_
  refine still_bind (still_lift _) fun _ => still_bind (still_lift _) fun _ => ?_
  refine still_bind (still_tryCatch (still_candidateStatus _) fun error => ?_) fun _ => ?_
  · cases error <;> trivial
  · dsimp only
    split_ifs <;> trivial

/-- An admission that finds the first state of a rollout returns. -/
theorem admitCandidate_initial {policyFile : Json} {policy : RolloutPolicy}
    {rollout : Rollout policy} {ledger : Ledger policy.candidateBinding} {created : Int}
    (stores : Stores files policyFile rollout) (read : policyPayload policyFile now = .ok policy)
    (first : rollout.last = initialRolloutState policy created)
    (holds : Holds (files.ledger policy.candidateBinding.identity) ledger) (cohortId : String) :
    ∃ answer, ((admitCandidate policy.candidateBinding cohortId now).run files).1 = .ok answer := by
  have checked : ∀ {Value : Type} {computed : Except ControlError Value} {value : Value},
      computed = .ok value → (lift computed : Control Value).run files = (.ok value, files) := by
    rintro _ _ _ rfl
    rfl
  have passed : ∀ {computed : Except ControlError Unit}, computed = .ok () →
      (lift computed : Control Unit).run files = (.ok (), files) := checked
  have bound : rollout.last.candidateBinding = policy.candidateBinding := by rw [first]; rfl
  have action : rollout.last.transitionAction = .initialization := by rw [first]; rfl
  have status : (candidateRevocationStatus policy.candidateBinding).run files =
      (.ok (ledger.replay.last.report policy.candidateBinding), files) := by
    unfold candidateRevocationStatus
    rw [run_tryCatch, run_candidateStatus holds]
  unfold admitCandidate
  rw [run_bind_ok (run_readDocument stores.policy), run_bind_ok (run_readDocument stores.state),
    run_bind_ok (run_readDocument stores.head), run_bind_ok (checked read),
    run_bind_ok (checked (statePayload_ok.mpr ⟨rollout.valid, rfl, rfl⟩)),
    run_bind_ok (run_verifyReferenceHistory stores)]
  dsimp only
  rw [run_bind_ok (passed (ensure_ok.mpr (by simp [bound]))),
    run_bind_ok (passed (ensure_ok.mpr (by simp [bound]))),
    run_bind_ok (passed (ensure_ok.mpr (by simp [action]))),
    run_bind_ok (passed (ensure_ok.mpr (by simp [action]))), run_bind_ok status]
  split_ifs <;> exact ⟨_, rfl⟩

end

end Control

section
attribute [local instance] Sha256.polynomial Datetime.letters Authority.digest
open Control

end
end KSlide
