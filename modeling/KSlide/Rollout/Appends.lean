import KSlide.Rollout.Ledger

/-
This file gives the sequences of appends and the ledger that they leave.
-/

namespace KSlide
open Interleaving Program Control List

/-- One call of the append has its own clock. -/
structure RecordCall where
  event : Json
  now : Int

section
variable [Sha256] [Datetime] [Authority] {candidate : RolloutCandidateBinding}
variable {files after left : ControlFiles} {ledger : Ledger candidate}

/-- The call adds its event to the ledger of the candidate. -/
def RecordCall.accepted (candidate : RolloutCandidateBinding) (call : RecordCall) :
    Except ControlError (CandidateRevocationStatus × Bool) → List Json
  | .ok (status, false) =>
    if status.candidateBinding = candidate then [call.event.field "payload"] else []
  | _ => []

/-- The calls run one after the other and leave the files and the accepted events. -/
def recordCalls (candidate : RolloutCandidateBinding) :
    List RecordCall → ControlFiles → ControlFiles × List Json
  | [], files => (files, [])
  | call :: calls, files =>
    let ran := (recordEvent call.event call.now false).run files
    let later := recordCalls candidate calls ran.2
    (later.1, call.accepted candidate ran.1 ++ later.2)

omit [Sha256] [Datetime] in
/-- A signed document holds the payload that its check returns. -/
theorem verifySigned_ok {error : String → ControlError} {value payload : Json} {label : String}
    (verified : verifySigned error value label = .ok payload) : value.field "payload" = payload := by
  unfold verifySigned at verified
  simp only [bind_ok, ensure_ok, pure_ok] at verified
  obtain ⟨_, -, _, -, same⟩ := verified
  exact same

omit [Authority] in
theorem readLedger_bound {other : RolloutCandidateBinding} {state : LedgerState}
    {stateIdentity : String} (holds : Holds (files.ledger candidate.identity) ledger)
    (shared : other.identity = candidate.identity)
    (read : (readLedger other).run files = (.ok (state, stateIdentity), after)) :
    other = candidate ∧ state = ledger.replay.last := by
  obtain ⟨-, -, stored, -, valid, -⟩ := readLedger_value read
  rw [shared] at stored
  have same : ledger.replay.last = state := Option.some.inj (holds.state.symm.trans stored)
  unfold validateState at valid
  simp only [bind_ok, ensure_ok, beq_iff_eq] at valid
  obtain ⟨_, bound, -⟩ := valid
  refine ⟨?_, same.symm⟩
  rw [← bound, ← same, ledger.agrees.bound]

omit [Authority] in
theorem holds_opened (holds : Holds (files.ledger candidate.identity) ledger)
    (lock : ControlLock) : Holds ((files.opened lock).ledger candidate.identity) ledger := by
  rw [ControlFiles.ledger_opened]
  exact holds

omit [Authority] in
/-- A stored ledger has its directory. -/
theorem opened_holds (holds : Holds (files.ledger candidate.identity) ledger) :
    files.opened (.ledger candidate.identity) = files := by
  apply ControlFiles.opened_stored
  rw [holds.genesis]
  exact Option.some_ne_none _

omit [Authority] in
/-- Each decision leaves the documents of a ledger. -/
theorem effect_holds {other : RolloutCandidateBinding} {payload : Json} {event : CandidateEvent}
    {validateOnly : Bool} {decision : AppendDecision}
    (holds : Holds (files.ledger candidate.identity) ledger)
    (valid : validateEvent payload other none = .ok event)
    (decided : (decideAppend other payload event validateOnly).run files = (.ok decision, after)) :
    ∃ later : Ledger candidate,
      Holds ((decision.effect other payload files).ledger candidate.identity) later ∧
      later.events = ledger.events ++
        (if other = candidate ∧ (decision.answer other).2 = false ∧ validateOnly = false then
          [payload] else []) ∧
      (other = candidate → decision.answer other = (later.replay.last.report candidate,
        (decision.answer other).2)) := by
  obtain ⟨state, history, read, stored, decides⟩ := decideAppend_value decided
  by_cases shared : other.identity = candidate.identity
  · obtain ⟨rfl, rfl⟩ := readLedger_bound holds shared read
    cases decides with
    | duplicate listed named same =>
      exact ⟨ledger, holds, by simp [AppendDecision.answer], fun _ => rfl⟩
    | checked only fresh continues =>
      exact ⟨ledger, holds, by simp [only], fun _ => rfl⟩
    | append kept fresh continues absent =>
      obtain ⟨later, events, last, held⟩ := holds_appended holds stored valid fresh continues
      rw [last] at held
      refine ⟨later, held, by simp [AppendDecision.answer, kept, events], fun _ => ?_⟩
      rw [last]
      rfl
  · have different : other ≠ candidate := fun same => shared (by rw [same])
    refine ⟨ledger, ?_, by simp [different], fun same => (different same).elim⟩
    cases decision with
    | duplicate state => exact holds
    | checked state => exact holds
    | append state next =>
      change Holds ((appended other next payload files).ledger candidate.identity) ledger
      rw [ledger_appended_ne (Ne.symm shared)]
      exact holds

theorem recordEvent_holds (holds : Holds (files.ledger candidate.identity) ledger)
    (call : RecordCall) {result : Except ControlError (CandidateRevocationStatus × Bool)}
    (ran : (recordEvent call.event call.now false).run files = (result, after)) :
    ∃ later : Ledger candidate, Holds (after.ledger candidate.identity) later ∧
      later.events = ledger.events ++ call.accepted candidate result := by
  by_cases received : ∃ payload other event, Received call.event call.now payload other event
  · obtain ⟨payload, other, event, received⟩ := received
    have opened := holds_opened holds (.ledger other.identity)
    rcases recordEvent_received files false received with
      ⟨error, -, failed⟩ | ⟨state, history, decision, -, -, decided, -, answered⟩
    · rw [failed] at ran
      cases ran
      exact ⟨ledger, opened, by simp [RecordCall.accepted]⟩
    · rw [answered] at ran
      cases ran
      obtain ⟨later, held, events, -⟩ := effect_holds opened received.valid decided
      have payloadField := verifySigned_ok received.signed
      have bound : (decision.answer other).1.candidateBinding = other := by
        cases decision <;> rfl
      refine ⟨later, held, events.trans ?_⟩
      rcases answer : decision.answer other with ⟨status, _ | _⟩
      · rw [answer] at bound
        have same : status.candidateBinding = other := bound
        simp [RecordCall.accepted, same, payloadField]
      · simp [RecordCall.accepted]
  · push Not at received
    obtain ⟨error, failed, -⟩ := recordEvent_unreceived files false received
    rw [failed] at ran
    cases ran
    exact ⟨ledger, holds, by simp [RecordCall.accepted]⟩

/-- A sequence of calls leaves the documents of a ledger with the accepted events. -/
theorem recordCalls_holds (calls : List RecordCall) {files : ControlFiles}
    {ledger : Ledger candidate} (holds : Holds (files.ledger candidate.identity) ledger) :
    ∃ later : Ledger candidate,
      Holds ((recordCalls candidate calls files).1.ledger candidate.identity) later ∧
      later.events = ledger.events ++ (recordCalls candidate calls files).2 := by
  induction calls generalizing files ledger with
  | nil => exact ⟨ledger, holds, by simp [recordCalls]⟩
  | cons call calls ih =>
    have ran : (recordEvent call.event call.now false).run files =
        (((recordEvent call.event call.now false).run files).1,
          ((recordEvent call.event call.now false).run files).2) := rfl
    obtain ⟨middle, held, events⟩ := recordEvent_holds holds call ran
    obtain ⟨later, kept, rest⟩ := ih held
    refine ⟨later, kept, ?_⟩
    rw [rest, events, append_assoc]
    rfl

omit [Authority] in
theorem run_candidateStatus (holds : Holds (files.ledger candidate.identity) ledger) :
    (candidateStatus candidate).run files =
      (.ok (ledger.replay.last.report candidate), files) := by
  unfold candidateStatus
  rw [run_bind_ok (run_readLedger holds)]
  change (lift _ : Control _).run files = _
  rw [run_lift, report_validate ledger.agrees.valid]

omit [Sha256] [Authority] in
theorem validateState_status {state : LedgerState}
    (valid : validateState state candidate = .ok ()) :
    (state.status = .revoked ↔ state.activeReasonCategories ≠ []) ∧
      (state.status = .clear ↔ state.revision = 0) := by
  unfold validateState at valid
  simp only [bind_ok, ensure_ok] at valid
  obtain ⟨_, -, _, origin, _, -, _, agreed, -⟩ := valid
  simp only [Bool.and_eq_true, beq_iff_eq, Bool.not_eq_true', Bool.and_eq_false_iff,
    decide_eq_false_iff_not, Nat.not_lt, Nat.le_zero] at agreed
  obtain ⟨revoked, clear⟩ := agreed
  constructor
  · have shown : (state.status == .revoked) = true ↔
        (!state.activeReasonCategories.isEmpty) = true := by rw [revoked]
    simpa using shown
  · constructor
    · intro found
      rcases clear with first | other
      · exact first
      · rw [found] at other
        cases other
    · intro first
      unfold validateOrigin at origin
      rw [if_pos first, ensure_ok] at origin
      simp only [Bool.and_eq_true, beq_iff_eq] at origin
      exact origin.1.2

section
variable {genesis : LedgerState} {events : List Json} {replay : Replay}
variable (valid : validateState genesis candidate = .ok ()) (first : genesis.revision = 0)
variable (replayed : replayEvents candidate genesis events = .ok replay)
include valid first replayed

omit [Authority] in
theorem replay_reported (reason : RevocationReason) :
    reason ∈ replay.last.activeReasonCategories ↔ ActiveReason events reason := by
  rw [(Ledger.replay_agrees valid first replayed).reasons, RevocationReason.mem_sorted,
    Ledger.replay_active valid first replayed]

omit [Authority] in
theorem replay_revoked :
    replay.last.status = .revoked ↔ ∃ reason, ActiveReason events reason := by
  rw [(validateState_status (Ledger.replay_agrees valid first replayed).valid).1]
  constructor
  · intro some_
    obtain ⟨reason, listed⟩ := exists_mem_of_ne_nil _ some_
    exact ⟨reason, (replay_reported valid first replayed reason).mp listed⟩
  · rintro ⟨reason, active⟩
    exact ne_nil_of_mem ((replay_reported valid first replayed reason).mpr active)

end

omit [Authority] in
theorem report_active (ledger : Ledger candidate) (reason : RevocationReason) :
    reason ∈ ledger.replay.last.activeReasonCategories ↔ ActiveReason ledger.events reason :=
  replay_reported ledger.valid ledger.first ledger.replayed reason

omit [Authority] in
theorem report_revoked (ledger : Ledger candidate) :
    ledger.replay.last.status = .revoked ↔ ∃ reason, ActiveReason ledger.events reason :=
  replay_revoked ledger.valid ledger.first ledger.replayed

omit [Authority] in
theorem report_recovered (ledger : Ledger candidate) :
    ledger.replay.last.status = .recovered ↔
      ledger.events ≠ [] ∧ ¬∃ reason, ActiveReason ledger.events reason := by
  have clear := (validateState_status ledger.agrees.valid).2
  rw [ledger.agrees.revision, length_eq_zero_iff] at clear
  rw [← report_revoked, ne_eq, ← clear]
  cases ledger.replay.last.status <;> simp

/-- An accepted event is valid without a limit on its time. -/
theorem received_known {signedEvent payload : Json} {now moment : Int}
    (signed : verifySigned .revocation signedEvent "candidate revocation event" = .ok payload)
    (listed : payload ∈ ledger.events)
    (occurred : controlTime .revocation "candidate revocation timestamp"
      (payload.field "occurred_at") = .ok moment) (past : moment ≤ now) :
    ∃ event, Received signedEvent now payload candidate event := by
  obtain ⟨index, within, rfl⟩ := getElem_of_mem listed
  obtain ⟨event, valid⟩ := (ledger.linked (getElem?_eq_getElem within)).valid
  have named := validateEvent_payload valid
  refine ⟨event, signed, named.2.2.1, valid, ?_⟩
  unfold validateEvent at valid
  simp only [bind_ok, ensure_ok] at valid
  obtain ⟨fields, -, found, parsed, _, -, reasoned⟩ := valid
  rw [(eventReasoned_ok reasoned).2.2.1]
  rw [parsed] at occurred
  cases occurred
  exact past

omit [Sha256] [Authority] in
theorem initialLedgerState_valid (candidate : RolloutCandidateBinding) (created : Int) :
    validateState (initialLedgerState candidate created) candidate = .ok () := by
  have authority : isName "deployment_authority" = true := by decide +kernel
  have initial : isName "initial" = true := by decide +kernel
  unfold validateState validateOrigin initialLedgerState
  simp [bind_ok, controlTime_ok, RevocationReason.sorted, authority, initial,
    Datetime.fromisoformat_isoformat]

omit [Authority] in
theorem initializeLedger_holds {created : Int} {start : ControlFiles}
    (initialized : (initializeLedger candidate created).run files = (.ok (), start)) :
    ∃ ledger : Ledger candidate, ledger.events = [] ∧
      ledger.replay.last = initialLedgerState candidate created ∧
      Holds (start.ledger candidate.identity) ledger := by
  refine ⟨⟨initialLedgerState candidate created, [], _, initialLedgerState_valid candidate created,
    rfl, replayEvents_nil, by simp⟩, rfl, rfl, ?_⟩
  unfold initializeLedger writeLedgerDocument at initialized
  by_cases present : candidate.identity ∈ files.ledgers
  · simp [run_bind, present] at initialized
  · simp only [run_bind, run_transact, present, if_false, run_write, Prod.mk.injEq,
      true_and] at initialized
    rw [← initialized]
    constructor
    · simp
    · simp [Replay.start]
    · simp [Replay.start]
    · exact ⟨∅, by simp, numbered_empty⟩

omit [Datetime] [Authority] in
/-- A torn append leaves the other ledgers as they are. -/
theorem ledger_torn_ne {other : RolloutCandidateBinding} {next : LedgerState} {payload : Json}
    {directory : String} (different : directory ≠ other.identity)
    (torn : Torn other next payload files left) :
    left.ledger directory = files.ledger directory := by
  rcases torn with rfl | rfl
  · exact ControlFiles.ledger_withLedger_ne different _
  · unfold stateFile appendFile
    rw [ControlFiles.ledger_withLedger_ne different, ControlFiles.ledger_withLedger_ne different]

/-- A store that a sequence of appends left. -/
structure LedgerFold (candidate : RolloutCandidateBinding) (files : ControlFiles)
    (accepted : List Json) : Prop where
  /-- The accepted events have consecutive revisions, and each names the one before it. -/
  chain : ∀ (index : Nat) payload, accepted[index]? = some payload →
    Linked candidate accepted index payload
  /-- The ledger is readable, and its status is the fold of the accepted events. -/
  status : ∃ state status, (readLedger candidate).run files = (.ok (state, state.identity), files) ∧
    (candidateStatus candidate).run files = (.ok status, files) ∧
    status.revision = accepted.length ∧
    (∀ reason, reason ∈ status.activeReasonCategories ↔ ActiveReason accepted reason) ∧
    (status.status = .revoked ↔ ∃ reason, ActiveReason accepted reason) ∧
    (status.status = .recovered ↔ accepted ≠ [] ∧ ¬∃ reason, ActiveReason accepted reason)
  /-- An accepted event is a duplicate at any clock that is not before the event. -/
  resubmitted : ∀ signedEvent payload now moment,
    verifySigned .revocation signedEvent "candidate revocation event" = .ok payload →
    payload ∈ accepted →
    controlTime .revocation "candidate revocation timestamp" (payload.field "occurred_at") =
      .ok moment →
    if moment ≤ now then
      ∃ status, (recordEvent signedEvent now false).run files = (.ok (status, true), files)
    else ∃ error, (recordEvent signedEvent now false).run files = (.error error, files)
  /-- An event ID that was accepted with a different content is rejected. -/
  reused : ∀ signedEvent payload earlier now,
    verifySigned .revocation signedEvent "candidate revocation event" = .ok payload →
    RolloutCandidateBinding.fromMapping (payload.field "candidate_binding") = .ok candidate →
    earlier ∈ accepted → earlier.field "event_id" = payload.field "event_id" →
    earlier.dumps ≠ payload.dumps →
    ∃ error, (recordEvent signedEvent now false).run files = (.error error, files)
  /-- A rejected event changes no document. -/
  rejected : ∀ signedEvent now error after,
    (recordEvent signedEvent now false).run files = (.error error, after) →
    ControlFiles.SameDocuments files after
  /-- A crash of an append leaves no third status. -/
  crashed : ∀ signedEvent now left, (recordEvent signedEvent now false).Crashes files left →
    (∃ error, ((candidateStatus candidate).run left).1 = .error error) ∨
    ((candidateStatus candidate).run left).1 = ((candidateStatus candidate).run files).1 ∨
    ((candidateStatus candidate).run left).1 = ((candidateStatus candidate).run
      ((recordEvent signedEvent now false).run files).2).1

variable {signedEvent payload earlier : Json} {now moment : Int}

/-- A known event is a duplicate when its text is the same, and otherwise it is rejected. -/
theorem recordEvent_known {event : CandidateEvent}
    (holds : Holds (files.ledger candidate.identity) ledger)
    (received : Received signedEvent now payload candidate event) (listed : earlier ∈ ledger.events)
    (named : earlier.field "event_id" = payload.field "event_id") :
    if earlier.dumps = payload.dumps then
      (recordEvent signedEvent now false).run files =
        (.ok (ledger.replay.last.report candidate, true), files)
    else ∃ error, (recordEvent signedEvent now false).run files = (.error error, files) := by
  have known := decideAppend_known event false holds listed named
  have same := opened_holds holds
  rcases recordEvent_received files false received with
    ⟨error, failed, answered⟩ | ⟨state, history, decision, -, -, decided, -, answered⟩
  · rw [same] at failed answered
    rw [failed] at known
    by_cases text : earlier.dumps = payload.dumps
    · rw [if_pos text] at known
      cases known
    · rw [if_neg text]
      exact ⟨error, answered⟩
  · rw [same] at decided answered
    rw [decided] at known
    by_cases text : earlier.dumps = payload.dumps
    · rw [if_pos text] at known ⊢
      cases known
      exact answered
    · rw [if_neg text] at known
      cases known

/-- The clock of a call rejects an event that has not occurred. -/
theorem recordEvent_early
    (signed : verifySigned .revocation signedEvent "candidate revocation event" = .ok payload)
    (occurred : controlTime .revocation "candidate revocation timestamp"
      (payload.field "occurred_at") = .ok moment) (early : ¬moment ≤ now) :
    ∃ error, (recordEvent signedEvent now false).run files = (.error error, files) := by
  have unreceived : ∀ payload candidate event,
      ¬Received signedEvent now payload candidate event := by
    rintro other candidate event received
    have same : other = payload := Except.ok.inj (received.signed.symm.trans signed)
    subst same
    have valid := received.valid
    unfold validateEvent at valid
    simp only [bind_ok, ensure_ok] at valid
    obtain ⟨fields, -, found, parsed, _, -, reasoned⟩ := valid
    have past := received.past
    rw [(eventReasoned_ok reasoned).2.2.1] at past
    rw [parsed] at occurred
    cases occurred
    exact early past
  obtain ⟨error, failed, -⟩ := recordEvent_unreceived files false unreceived
  exact ⟨error, failed⟩

/-- A call that raises leaves every document as it was. -/
theorem recordEvent_rejected {validateOnly : Bool} {error : ControlError}
    (failed : (recordEvent signedEvent now validateOnly).run files = (.error error, after)) :
    ControlFiles.SameDocuments files after := by
  by_cases received : ∃ payload other event, Received signedEvent now payload other event
  · obtain ⟨payload, other, event, received⟩ := received
    rcases recordEvent_received files validateOnly received with
      ⟨_, -, answered⟩ | ⟨_, _, _, -, -, -, -, answered⟩
    · rw [answered] at failed
      cases failed
      exact ControlFiles.sameDocuments_opened files _
    · rw [answered] at failed
      cases failed
  · push Not at received
    obtain ⟨_, answered, -⟩ := recordEvent_unreceived files validateOnly received
    rw [answered] at failed
    cases failed
    exact ControlFiles.sameDocuments_refl files

omit [Authority] in
theorem candidateStatus_unread
    (unread : ∀ state stateIdentity after,
      (readLedger candidate).run left ≠ (.ok (state, stateIdentity), after)) :
    ∃ error, ((candidateStatus candidate).run left).1 = .error error := by
  unfold candidateStatus
  rcases read : (readLedger candidate).run left with ⟨error | ⟨state, stateIdentity⟩, after⟩
  · rw [run_bind_error read]
    exact ⟨error, rfl⟩
  · exact (unread state stateIdentity after read).elim

/-- A crash leaves the ledger before the call, the ledger after the call or no ledger. -/
theorem recordEvent_crashed (holds : Holds (files.ledger candidate.identity) ledger)
    (crashed : (recordEvent signedEvent now false).Crashes files left) :
    (∃ error, ((candidateStatus candidate).run left).1 = .error error) ∨
      Holds (left.ledger candidate.identity) ledger ∨
      left = ((recordEvent signedEvent now false).run files).2 := by
  by_cases received : ∃ payload other event, Received signedEvent now payload other event
  · obtain ⟨payload, other, event, received⟩ := received
    have opened := holds_opened holds (.ledger other.identity)
    rcases crashes_recordEvent received crashed with same | same | ⟨decision, decided, written⟩
    · rw [same]
      exact Or.inr (Or.inl holds)
    · rw [same]
      exact Or.inr (Or.inl opened)
    · rcases recordEvent_received files false received with
        ⟨_, failed, -⟩ | ⟨_, _, _, -, -, again, -, answered⟩
      · rw [decided] at failed
        cases failed
      · rw [decided] at again
        cases again
        rcases written with same | ⟨state, next, rfl, torn⟩
        · rw [answered]
          exact Or.inr (Or.inr same)
        · obtain ⟨_, history, read, stored, decides⟩ := decideAppend_value decided
          by_cases shared : other.identity = candidate.identity
          · obtain ⟨rfl, rfl⟩ := readLedger_bound opened shared read
            cases decides with
            | append kept fresh continues absent =>
              exact Or.inl (candidateStatus_unread fun _ _ _ => readLedger_torn opened rfl torn)
          · rw [ledger_torn_ne (Ne.symm shared) torn]
            exact Or.inr (Or.inl opened)
  · push Not at received
    obtain ⟨_, -, unchanged⟩ := recordEvent_unreceived files false received
    rw [unchanged left crashed]
    exact Or.inr (Or.inl holds)

theorem ledgerFold (holds : Holds (files.ledger candidate.identity) ledger) :
    LedgerFold candidate files ledger.events where
  chain index payload listed := ledger.linked listed
  status := ⟨ledger.replay.last, ledger.replay.last.report candidate, run_readLedger holds,
    run_candidateStatus holds, ledger.agrees.revision, report_active ledger, report_revoked ledger,
    report_recovered ledger⟩
  resubmitted signedEvent payload now moment signed listed occurred := by
    by_cases past : moment ≤ now
    · rw [if_pos past]
      obtain ⟨event, received⟩ := received_known signed listed occurred past
      have known := recordEvent_known holds received listed rfl
      rw [if_pos rfl] at known
      exact ⟨_, known⟩
    · rw [if_neg past]
      exact recordEvent_early signed occurred past
  reused signedEvent payload earlier now signed bound listed named different := by
    by_cases received : ∃ other event, Received signedEvent now payload other event
    · obtain ⟨other, event, received⟩ := received
      have same : other = candidate := Except.ok.inj (received.bound.symm.trans bound)
      subst same
      have known := recordEvent_known holds received listed named
      rwa [if_neg different] at known
    · have unreceived : ∀ found other event,
          ¬Received signedEvent now found other event := by
        intro found other event candidateReceived
        have same : found = payload := Except.ok.inj (candidateReceived.signed.symm.trans signed)
        subst same
        exact received ⟨other, event, candidateReceived⟩
      obtain ⟨error, failed, -⟩ := recordEvent_unreceived files false unreceived
      exact ⟨error, failed⟩
  rejected signedEvent now error after failed := recordEvent_rejected failed
  crashed signedEvent now left crashed := by
    rcases recordEvent_crashed holds crashed with failed | kept | same
    · exact Or.inl failed
    · rw [run_candidateStatus kept, run_candidateStatus holds]
      exact Or.inr (Or.inl rfl)
    · rw [same]
      exact Or.inr (Or.inr rfl)

/-- A ledger is exactly the fold of the events that its writer accepted. -/
theorem recordCalls_fold {created : Int} {blank start : ControlFiles} (calls : List RecordCall)
    (initialized : (initializeLedger candidate created).run blank = (.ok (), start)) :
    LedgerFold candidate (recordCalls candidate calls start).1
      (recordCalls candidate calls start).2 := by
  obtain ⟨ledger, empty, -, holds⟩ := initializeLedger_holds initialized
  obtain ⟨later, held, events⟩ := recordCalls_holds calls holds
  rw [empty, nil_append] at events
  rw [← events]
  exact ledgerFold held

end

/-- A candidate of the closed runs. -/
def RolloutCandidateBinding.sample : RolloutCandidateBinding where
  subjectGitSha := "0123456789abcdef0123456789abcdef01234567"
  deploymentFingerprint := "0123456789abcdef0123456789abcdef0123456789abcdef0123456789abcdef"
  runEnvironmentIdentitySha256 := "fedcba9876543210fedcba9876543210fedcba9876543210fedcba9876543210"
  subject := by decide +kernel
  deployment := by decide +kernel
  environment := by decide +kernel

section
variable [Sha256] [Datetime]

/-- A security incident revokes the candidate after the state. -/
def incident (candidate : RolloutCandidateBinding) (state : LedgerState) (eventId : String)
    (occurred : Int) : Json := .obj [
  ("action", .str "REVOKE"),
  ("actor_ref", .str "operator"),
  ("authority_ref", .str "security_authority"),
  ("candidate_binding", candidate.asDict),
  ("event_id", .str eventId),
  ("evidence_reference", .obj [
    ("identity", .str state.identity),
    ("kind", .str "INCIDENT_RECORD")]),
  ("expected_revision", .int state.revision),
  ("expected_state_identity", .str state.identity),
  ("occurred_at", .str (Datetime.isoformat occurred)),
  ("previous_event_identity", .ofText? state.eventIdentity),
  ("reason_categories", .arr [.str "SECURITY_INCIDENT"]),
  ("revision", .int (state.revision + 1)),
  ("schema_version", .str "1.0")]

/-- The event of an incident, as its check returns it. -/
def incidentEvent (candidate : RolloutCandidateBinding) (state : LedgerState) (eventId : String)
    (occurred : Int) : CandidateEvent where
  action := .revoke
  actorRef := "operator"
  authorityRef := "security_authority"
  eventId
  expectedRevision := state.revision
  revision := state.revision + 1
  expectedStateIdentity := state.identity
  previousEventIdentity := state.eventIdentity
  occurredAt := Datetime.isoformat occurred
  moment := occurred
  reasonCategories := [.securityIncident]
  identity := stableRevision (incident candidate state eventId occurred)

theorem incident_valid {candidate : RolloutCandidateBinding} {state : LedgerState}
    {eventId : String} (occurred : Int) (named : isName eventId = true)
    (short : eventId.length ≤ 55) (chained : ∀ identity ∈ state.eventIdentity,
      Text.isSha256 identity = true) :
    validateEvent (incident candidate state eventId occurred) candidate none =
      .ok (incidentEvent candidate state eventId occurred) := by
  have actor : isName "operator" = true := by decide +kernel
  have authority : isName "security_authority" = true := by decide +kernel
  have hashed : Text.isSha256 state.identity = true := stableRevision_shape _
  have previous : previousEvent (.ofText? state.eventIdentity) = .ok state.eventIdentity := by
    cases found : state.eventIdentity with
    | none => rfl
    | some identity =>
      have shaped := chained identity found
      simp [Json.ofText?, previousEvent, controlText, shaped]
  have fields : eventFields (incident candidate state eventId occurred) candidate =
      .ok (incidentEvent candidate state eventId occurred).toFields := by
    have mapped : RolloutCandidateBinding.fromMapping ((incident candidate state eventId
        occurred).field "candidate_binding") = .ok candidate :=
      RolloutCandidateBinding.fromMapping_asDict candidate
    have before : previousEvent ((incident candidate state eventId occurred).field
        "previous_event_identity") = .ok state.eventIdentity := previous
    have positive : (0 : Int) ≤ state.revision + 1 := by omega
    unfold eventFields
    rw [mapped, before]
    simp [incident, incidentEvent, Json.hasKeys, Json.field, Json.get?, lookup_cons,
      eventAction, actor, authority, named, short, hashed]
  have reasons : eventReasons ((incident candidate state eventId occurred).field
      "reason_categories") = .ok [.securityIncident] := by
    change eventReasons (.arr [.str "SECURITY_INCIDENT"]) = _
    decide +kernel
  have moment : controlTime .revocation "candidate revocation timestamp"
      ((incident candidate state eventId occurred).field "occurred_at") = .ok occurred :=
    controlTime_ok.mpr ⟨_, rfl, Datetime.fromisoformat_isoformat occurred⟩
  have evidence : validateEvidence ((incident candidate state eventId occurred).field
      "evidence_reference") .revoke = .ok () := by
    change validateEvidence (.obj [("identity", .str state.identity),
      ("kind", .str "INCIDENT_RECORD")]) .revoke = .ok ()
    unfold validateEvidence
    simp [Json.hasKeys, Json.field, Json.get?, lookup_cons, hashed]
    exact ⟨.incidentRecord, Text.Enumeration.complete _, rfl⟩
  have authorized : validateAuthority .revoke "security_authority" [.securityIncident] = .ok () := by
    decide +kernel
  unfold validateEvent eventReasoned
  rw [fields, moment, reasons]
  simp only [bind_ok, pure_ok, ensure_ok]
  exact ⟨_, rfl, _, rfl, (), rfl, _, rfl, (), authorized, (), evidence, rfl⟩

variable [Authority] {candidate : RolloutCandidateBinding} {ledger : Ledger candidate}
variable {files : ControlFiles} {eventId : String} {occurred prior now : Int}

omit [Authority] in
theorem agrees_event (ledger : Ledger candidate) :
    ∀ identity ∈ ledger.replay.last.eventIdentity, Text.isSha256 identity = true := by
  intro identity found
  have valid := ledger.agrees.valid
  unfold validateState at valid
  simp only [bind_ok] at valid
  obtain ⟨_, -, _, origin, -⟩ := valid
  unfold validateOrigin at origin
  rw [Option.mem_def.mp found] at origin
  by_cases first : ledger.replay.last.revision = 0
  · simp [first] at origin
  · rw [if_neg first] at origin
    simp only [bind_ok, controlText_ok, pure_ok] at origin
    obtain ⟨_, -, text, ⟨same, shaped⟩, -⟩ := origin
    cases same
    exact shaped

theorem incident_appended (holds : Holds (files.ledger candidate.identity) ledger)
    (named : isName eventId = true) (short : eventId.length ≤ 55)
    (fresh : ∀ earlier ∈ ledger.events, earlier.field "event_id" ≠ .str eventId)
    (parsed : Datetime.fromisoformat ledger.replay.last.updatedAt = .aware prior)
    (ordered : prior ≤ occurred) (past : occurred ≤ now) :
    ∃ later : Ledger candidate,
      (recordEvent (signed (incident candidate ledger.replay.last eventId occurred)) now false).run
        files = (.ok (later.replay.last.report candidate, false),
          appended candidate later.replay.last
            (incident candidate ledger.replay.last eventId occurred) files) ∧
      later.events = ledger.events ++ [incident candidate ledger.replay.last eventId occurred] ∧
      later.replay.last = nextLedgerState candidate (ledger.replay.last.revision + 1)
        ledger.replay.last.identity (incidentEvent candidate ledger.replay.last eventId occurred)
        (.securityIncident :: ledger.replay.last.activeReasonCategories) ∧
      Holds ((appended candidate later.replay.last
        (incident candidate ledger.replay.last eventId occurred) files).ledger
          candidate.identity) later := by
  have valid : validateEvent (incident candidate ledger.replay.last eventId occurred) candidate
      none = .ok (incidentEvent candidate ledger.replay.last eventId occurred) :=
    incident_valid occurred named short (agrees_event ledger)
  have received : Received (signed (incident candidate ledger.replay.last eventId occurred)) now
      (incident candidate ledger.replay.last eventId occurred) candidate
      (incidentEvent candidate ledger.replay.last eventId occurred) :=
    ⟨verifySigned_signed rfl, RolloutCandidateBinding.fromMapping_asDict candidate, valid, past⟩
  have continues : Continues ledger.replay.last
      (incidentEvent candidate ledger.replay.last eventId occurred) prior
      (.securityIncident :: ledger.replay.last.activeReasonCategories) :=
    ⟨rfl, rfl, rfl, rfl, parsed, ordered, rfl⟩
  obtain ⟨history, stored, numbered⟩ := holds.history
  have unseen : Fresh history (incident candidate ledger.replay.last eventId occurred) := by
    intro entry listed
    exact fresh entry.2 (numbered.entry listed)
  obtain ⟨later, events, last, held⟩ := holds_appended holds stored valid unseen continues
  have decided : (decideAppend candidate (incident candidate ledger.replay.last eventId occurred)
      (incidentEvent candidate ledger.replay.last eventId occurred) false).run files =
      (.ok (.append ledger.replay.last _), files) := decideAppend_fresh holds fresh continues
  have same := opened_holds holds
  refine ⟨later, ?_, events, last, held⟩
  rcases recordEvent_received files false received with
    ⟨error, failed, -⟩ | ⟨state, _, decision, -, -, again, -, answered⟩
  · rw [same, decided] at failed
    cases failed
  · rw [same, decided] at again
    cases again
    rw [answered, same, last]
    rfl

omit [Authority] in
theorem initializeLedger_fresh (absent : candidate.identity ∉ files.ledgers) (created : Int) :
    (initializeLedger candidate created).run files =
      (.ok (), ((initializeLedger candidate created).run files).2) := by
  unfold initializeLedger writeLedgerDocument
  simp [run_bind, absent]

/-- The first incident is a duplicate from its own time on and an error before that time. -/
theorem incident_refused {created earlier : Int} {start : ControlFiles}
    (initialized : (initializeLedger candidate created).run files = (.ok (), start))
    (ordered : created ≤ occurred) (named : isName eventId = true)
    (short : eventId.length ≤ 55) (early : earlier < occurred) :
    let event := signed (incident candidate (initialLedgerState candidate created) eventId occurred)
    let after := recordCalls candidate [⟨event, occurred⟩] start
    after.2 = [event.field "payload"] ∧
      ∃ error, (recordEvent event earlier false).run after.1 = (.error error, after.1) := by
  intro event after
  obtain ⟨ledger, empty, last, holds⟩ := initializeLedger_holds initialized
  have parsed : Datetime.fromisoformat ledger.replay.last.updatedAt = .aware created := by
    rw [last]
    exact Datetime.fromisoformat_isoformat created
  have fresh : ∀ earlier ∈ ledger.events, earlier.field "event_id" ≠ .str eventId := by
    rw [empty]
    simp
  obtain ⟨later, ran, -⟩ := incident_appended holds named short fresh parsed ordered
    (Int.le_refl occurred)
  rw [last] at ran
  constructor
  · change RecordCall.accepted candidate ⟨event, occurred⟩
      ((recordEvent event occurred false).run start).1 ++ [] = _
    rw [ran, append_nil]
    exact if_pos rfl
  · have signed : verifySigned .revocation event "candidate revocation event" =
        .ok (incident candidate (initialLedgerState candidate created) eventId occurred) :=
      verifySigned_signed rfl
    have moment : controlTime .revocation "candidate revocation timestamp"
        ((incident candidate (initialLedgerState candidate created) eventId occurred).field
          "occurred_at") = .ok occurred :=
      controlTime_ok.mpr ⟨_, rfl, Datetime.fromisoformat_isoformat occurred⟩
    exact recordEvent_early signed moment (by omega)

end

section
attribute [local instance] Sha256.polynomial Datetime.letters Authority.digest

/-- The store after the first ledger is created. -/
def ControlFiles.sample : ControlFiles := ((initializeLedger .sample 0).run {}).2

/-- The first event of the sample. -/
def Json.firstIncident : Json :=
  signed (incident .sample (initialLedgerState .sample 0) "incident-1" 20)

theorem sample_initialized :
    (initializeLedger .sample 0).run {} = (.ok (), ControlFiles.sample) :=
  initializeLedger_fresh (by simp) 0

/-- An accepted event is refused when its clock is set back. -/
theorem resubmission_refused :
    (recordCalls .sample [⟨Json.firstIncident, 20⟩] .sample).2 =
      [Json.firstIncident.field "payload"] ∧
    ∃ error, (recordEvent Json.firstIncident 10 false).run
      (recordCalls .sample [⟨Json.firstIncident, 20⟩] .sample).1 =
        (.error error, (recordCalls .sample [⟨Json.firstIncident, 20⟩] .sample).1) :=
  incident_refused sample_initialized (by decide) (by decide +kernel) (by decide +kernel) (by decide)

theorem recordCalls_fold_first : LedgerFold .sample
    (recordCalls .sample [⟨Json.firstIncident, 20⟩] .sample).1
    (recordCalls .sample [⟨Json.firstIncident, 20⟩] .sample).2 :=
  recordCalls_fold [⟨Json.firstIncident, 20⟩] sample_initialized

end
end KSlide
