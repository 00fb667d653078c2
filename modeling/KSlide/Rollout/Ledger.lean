import KSlide.Rollout.History
import KSlide.Rollout.Replay

/-
This file gives the runs of the reader of a ledger and of the append of an event.
-/

namespace KSlide
open Interleaving Program List

namespace ControlFiles
variable {files after : ControlFiles} {lock : ControlLock} {directory other : String}

@[simp] theorem ledger_withLedger_self (change : LedgerFiles → LedgerFiles) :
    (files.withLedger directory change).ledger directory = change (files.ledger directory) := by
  simp [ledger, withLedger]

theorem ledger_withLedger_ne (different : other ≠ directory) (change : LedgerFiles → LedgerFiles) :
    (files.withLedger directory change).ledger other = files.ledger other := by
  simp [ledger, withLedger, AList.lookup_insert_ne different]

theorem mem_withLedger {change : LedgerFiles → LedgerFiles} :
    other ∈ (files.withLedger directory change).ledgers ↔
      other = directory ∨ other ∈ files.ledgers := AList.mem_insert _

/-- An empty directory holds no document. -/
@[simp] theorem ledger_opened : (files.opened lock).ledger directory = files.ledger directory := by
  unfold opened
  cases lock with
  | rollout => rfl
  | ledger opening =>
    dsimp only
    split_ifs
    · rfl
    · by_cases same : directory = opening
      · rw [same, ledger_withLedger_self, id]
      · exact ledger_withLedger_ne same id

/-- The same documents are stored, whether or not their directories exist. -/
structure SameDocuments (files after : ControlFiles) : Prop where
  policy : after.policy = files.policy
  state : after.state = files.state
  head : after.head = files.head
  history : after.history = files.history
  ledger : ∀ directory, after.ledger directory = files.ledger directory

theorem sameDocuments_refl (files : ControlFiles) : SameDocuments files files :=
  ⟨rfl, rfl, rfl, rfl, fun _ => rfl⟩

theorem sameDocuments_opened (files : ControlFiles) (lock : ControlLock) :
    SameDocuments files (files.opened lock) := by
  have ledger : ∀ directory, (files.opened lock).ledger directory = files.ledger directory :=
    fun _ => ledger_opened
  cases lock with
  | rollout => exact sameDocuments_refl files
  | ledger opening =>
    refine ⟨?_, ?_, ?_, ?_, ledger⟩ <;>
    · unfold opened
      dsimp only
      split_ifs <;> rfl

theorem opened_stored (stored : (files.ledger directory).genesis ≠ none) :
    files.opened (.ledger directory) = files := by
  have present : directory ∈ files.ledgers := by
    by_contra missing
    apply stored
    rw [ledger, AList.lookup_eq_none.mpr missing]
    rfl
  exact if_pos present

end ControlFiles

namespace Control
variable {Value : Type} {files after left : ControlFiles} {directory : String}

theorem run_withLock (lock : ControlLock) (body : Control Value) (files : ControlFiles) :
    (withLock lock body).run files = body.run (files.opened lock) := by
  have acquired : (acquire lock).run files = (.ok (), files.opened lock) := run_write _ _ _
  unfold withLock
  rw [run_bind_ok acquired, run_bind, run_tryCatch]
  rcases body.run (files.opened lock) with ⟨error | value, after⟩ <;> rfl

/-- The lock itself leaves no trace in the documents. -/
theorem crashes_withLock {lock : ControlLock} {body : Control Value}
    (crashed : (withLock lock body).Crashes files left) :
    left = files ∨ body.Crashes (files.opened lock) left := by
  have ended : ∀ {result after}, body.run (files.opened lock) = (result, after) →
      body.Crashes (files.opened lock) after := by
    intro result after ran
    have last := crashes_run body (files.opened lock)
    rwa [ran] at last
  unfold withLock acquire release at crashed
  simp only [crashes_bind, crashes_write, crashes_tryCatch, crashes_throw, crashes_pure,
    run_write, id_eq, or_self, Prod.mk.injEq] at crashed
  rcases crashed with (same | same) | ⟨_, _, ⟨-, rfl⟩, crashed⟩
  · exact Or.inl same
  · rw [same]
    exact Or.inr (crashes_start _ _)
  · rcases crashed with (inside | ⟨error, after, raised, same | ⟨_, _, ⟨-, rfl⟩, same⟩⟩) | later
    · exact Or.inr inside
    · rw [same]
      exact Or.inr (ended raised)
    · rw [same]
      exact Or.inr (ended raised)
    · obtain ⟨value, after, ran, same | ⟨_, _, ⟨-, rfl⟩, same⟩⟩ := later
      all_goals
        rw [same]
        rw [run_tryCatch] at ran
        rcases inner : body.run (files.opened lock) with ⟨error | result, between⟩
        · rw [inner] at ran
          cases ran
        · rw [inner] at ran
          cases ran
          exact Or.inr (ended inner)

variable {document : ControlDocument} {select : ControlFiles → Option Value}
  {missing : ControlError} {value : Value}

theorem run_readDocument (found : select files = some value) :
    (readDocument document select missing).run files = (.ok value, files) := by
  simp [readDocument, found]

theorem run_readLedgerDocument {document : LedgerDocument} {select : LedgerFiles → Option Value}
    {missing : ControlError} {value : Value} (found : select (files.ledger directory) = some value) :
    (readLedgerDocument directory document select missing).run files = (.ok value, files) :=
  run_readDocument found

theorem readDocument_value : (readDocument document select missing).run files = (.ok value, after) ↔
      select files = some value ∧ after = files := by
  unfold readDocument
  rw [run_read, Prod.mk.injEq]
  cases stored : select files with
  | none => simp
  | some found => simp [eq_comm]

theorem lift_value {result : Except ControlError Value} {value : Value} :
    (lift result : Control Value).run files = (.ok value, after) ↔
      result = .ok value ∧ after = files := by
  rw [run_lift, Prod.mk.injEq, eq_comm (a := files)]

section
variable {Other : Type} {last : Other}

theorem readDocument_bind_value {document : ControlDocument}
    {select : ControlFiles → Option Value} {missing : ControlError}
    {rest : Value → Control Other} :
    (readDocument document select missing >>= rest).run files = (.ok last, after) ↔
      ∃ value, select files = some value ∧ (rest value).run files = (.ok last, after) := by
  simp only [run_bind_value, readDocument_value]
  constructor
  · rintro ⟨value, _, ⟨found, rfl⟩, later⟩
    exact ⟨value, found, later⟩
  · rintro ⟨value, found, later⟩
    exact ⟨value, files, ⟨found, rfl⟩, later⟩

theorem readLedgerDocument_bind_value {document : LedgerDocument}
    {select : LedgerFiles → Option Value} {missing : ControlError}
    {rest : Value → Control Other} :
    (readLedgerDocument directory document select missing >>= rest).run files =
        (.ok last, after) ↔
      ∃ value, select (files.ledger directory) = some value ∧
        (rest value).run files = (.ok last, after) :=
  readDocument_bind_value

theorem lift_bind_value {result : Except ControlError Value} {rest : Value → Control Other} :
    (lift result >>= rest).run files = (.ok last, after) ↔
      ∃ value, result = .ok value ∧ (rest value).run files = (.ok last, after) := by
  cases result with
  | error error => simp [run_bind]
  | ok value => simp [run_bind]

end

section
variable [Sha256] [Datetime] {candidate : RolloutCandidateBinding}

omit [Sha256] [Datetime] in
theorem still_readLedgerDocument (document : LedgerDocument)
    (select : LedgerFiles → Option Value) (missing : ControlError) :
    (readLedgerDocument directory document select missing).Still := still_read _ _

theorem still_readLedger (candidate : RolloutCandidateBinding) : (readLedger candidate).Still := by
  unfold readLedger
  refine still_bind (still_readLedgerDocument _ _ _) fun state => ?_
  refine still_bind (still_readLedgerDocument _ _ _) fun head => ?_
  refine still_bind (still_lift _) fun _ => still_bind (still_lift _) fun _ => ?_
  refine still_bind (still_readLedgerDocument _ _ _) fun listing => ?_
  refine still_bind (still_lift _) fun _ => ?_
  refine still_bind (still_readLedgerDocument _ _ _) fun genesis => ?_
  refine still_bind (still_lift _) fun _ => still_bind (still_lift _) fun _ => ?_
  refine still_bind (still_foldlM ?_ _ _) fun replay => ?_
  · intro replay revision
    exact still_bind (still_readLedgerDocument _ _ _) fun _ => still_lift _
  · exact still_bind (still_lift _) fun _ => still_pure _

/-- The documents of a directory are the ones of a ledger. -/
structure Holds (files : LedgerFiles) (ledger : Ledger candidate) : Prop where
  genesis : files.genesis = some ledger.genesis
  state : files.state = some ledger.replay.last
  head : files.head = some (ledger.replay.last.head candidate)
  history : ∃ history, files.history = some history ∧ Numbered history ledger.events

theorem run_readLedger {ledger : Ledger candidate}
    (holds : Holds (files.ledger candidate.identity) ledger) : (readLedger candidate).run files =
      (.ok (ledger.replay.last, ledger.replay.last.identity), files) := by
  obtain ⟨history, stored, numbered⟩ := holds.history
  have agrees := ledger.agrees
  have checked : ∀ {result : Except ControlError Unit}, result = .ok () →
      (lift result : Control Unit).run files = (.ok (), files) := by
    rintro _ rfl
    rfl
  have size : ledger.replay.last.revision = ledger.events.length := agrees.revision
  unfold readLedger
  rw [run_bind_ok (run_readLedgerDocument holds.state),
    run_bind_ok (run_readLedgerDocument holds.head), run_bind_ok (checked agrees.valid),
    run_bind_ok (checked (ensure_ok.mpr (by simp))),
    run_bind_ok (run_readLedgerDocument stored),
    run_bind_ok (checked (ensure_ok.mpr (by rw [size]; exact numbered.complete))),
    run_bind_ok (run_readLedgerDocument holds.genesis), run_bind_ok (checked ledger.valid),
    run_bind_ok (checked (ensure_ok.mpr (by simp [ledger.first])))]
  have replayed : ((List.range' 1 ledger.events.length).foldlM
      (fun (replay : Replay) revision => do
        let payload ← readLedgerDocument candidate.identity (.event revision)
          (·.history.bind (·.lookup revision)) (.other "KSlideError")
        lift (replay.advance candidate revision payload))
      (Replay.start ledger.genesis)).run files = (.ok ledger.replay, files) := by
    rw [run_numbered numbered _ (fun replay revision payload =>
      Replay.advance candidate replay revision payload) files
      (fun revision value found => run_readLedgerDocument (by rw [stored]; exact found))]
    exact congrArg (·, files) ledger.replayed
  rw [size, run_bind_ok replayed, run_bind_ok (checked (ensure_ok.mpr (by
    simp [agrees.stateIdentity])))]
  rfl

theorem readLedger_value {state : LedgerState} {stateIdentity : String}
    (read : (readLedger candidate).run files = (.ok (state, stateIdentity), after)) :
    after = files ∧ stateIdentity = state.identity ∧
      (files.ledger candidate.identity).state = some state ∧
      (files.ledger candidate.identity).head = some (state.head candidate) ∧
      validateState state candidate = .ok () ∧
      ∃ history, (files.ledger candidate.identity).history = some history ∧
        complete state.revision history = true := by
  have unchanged : after = files := by
    have still := (still_readLedger candidate).run files
    rwa [read] at still
  unfold readLedger at read
  simp only [readLedgerDocument_bind_value, lift_bind_value, ensure_ok] at read
  obtain ⟨found, stored, head, storedHead, _, valid, _, sameHead, history, storedHistory, _, full,
    genesis, -, _, -, _, -, read⟩ := read
  rw [run_bind_value] at read
  obtain ⟨replay, _, -, read⟩ := read
  rw [lift_bind_value] at read
  obtain ⟨_, -, ended⟩ := read
  rw [run_pure] at ended
  cases ended
  exact ⟨unchanged, rfl, stored, by rw [storedHead, beq_iff_eq.mp sameHead], valid, history,
    storedHistory, full⟩

end

section
variable [Sha256] [Datetime] {candidate : RolloutCandidateBinding} {payload : Json}
variable {event : CandidateEvent} {validateOnly : Bool} {decision : AppendDecision}
variable {state : LedgerState} {history : AList fun _ : Nat => Json}

/-- No event of the history has the identity of the payload. -/
def Fresh (history : AList fun _ : Nat => Json) (payload : Json) : Prop :=
  ∀ entry ∈ history.entries, entry.2.field "event_id" ≠ payload.field "event_id"

/-- A new event continues the chain of a state. -/
structure Continues (state : LedgerState) (event : CandidateEvent) (prior : Int)
    (reasons : List RevocationReason) : Prop where
  expected : event.expectedRevision = state.revision
  number : event.revision = state.revision + 1
  follows : event.expectedStateIdentity = state.identity
  previous : event.previousEventIdentity = state.eventIdentity
  parsed : Datetime.fromisoformat state.updatedAt = .aware prior
  later : prior ≤ event.moment
  changed : changedReasons state.activeReasonCategories event
    "candidate recovery lacks a current matching revocation" = .ok reasons

/-- A decision names the checks that led to it. -/
inductive Decides (candidate : RolloutCandidateBinding) (payload : Json) (event : CandidateEvent)
    (validateOnly : Bool) (state : LedgerState) (history : AList fun _ : Nat => Json) :
    AppendDecision → Prop
  | duplicate {entry : Sigma fun _ : Nat => Json} (listed : entry ∈ history.entries)
      (named : entry.2.field "event_id" = payload.field "event_id")
      (same : entry.2.dumps = payload.dumps) :
      Decides candidate payload event validateOnly state history (.duplicate state)
  | checked {prior : Int} {reasons : List RevocationReason} (only : validateOnly = true)
      (fresh : Fresh history payload) (continues : Continues state event prior reasons) :
      Decides candidate payload event validateOnly state history (.checked state)
  | append {prior : Int} {reasons : List RevocationReason} (stored : validateOnly = false)
      (fresh : Fresh history payload) (continues : Continues state event prior reasons)
      (absent : state.revision + 1 ∉ history.keys) :
      Decides candidate payload event validateOnly state history (.append state
        (nextLedgerState candidate (state.revision + 1) state.identity event reasons))

theorem still_decideAppend (candidate : RolloutCandidateBinding) (payload : Json)
    (event : CandidateEvent) (validateOnly : Bool) :
    (decideAppend candidate payload event validateOnly).Still := by
  unfold decideAppend
  refine still_bind (still_readLedger candidate) fun read => ?_
  refine still_bind (still_readLedgerDocument _ _ _) fun history => ?_
  dsimp only
  split
  · exact still_bind (still_lift _) fun _ => still_pure _
  · refine still_bind (still_lift _) fun _ => still_bind (still_lift _) fun prior => ?_
    refine still_bind (still_lift _) fun _ => still_bind (still_lift _) fun reasons => ?_
    split_ifs
    · exact still_pure _
    · exact still_bind (still_lift _) fun _ => still_pure _

theorem decideAppend_value
    (ran : (decideAppend candidate payload event validateOnly).run files = (.ok decision, after)) :
    ∃ state history, (readLedger candidate).run files = (.ok (state, state.identity), files) ∧
      (files.ledger candidate.identity).history = some history ∧
      Decides candidate payload event validateOnly state history decision := by
  unfold decideAppend at ran
  rw [run_bind_value] at ran
  obtain ⟨⟨state, stateIdentity⟩, _, read, ran⟩ := ran
  obtain ⟨rfl, rfl, -⟩ := readLedger_value read
  dsimp only at ran
  rw [readLedgerDocument_bind_value] at ran
  obtain ⟨history, stored, ran⟩ := ran
  refine ⟨state, history, read, stored, ?_⟩
  cases found : history.entries.find? fun entry =>
      entry.2.field "event_id" == payload.field "event_id" with
  | some existing =>
    simp only [found, lift_bind_value, ensure_ok, run_pure, beq_iff_eq] at ran
    obtain ⟨_, same, ended⟩ := ran
    cases ended
    have named := find?_some found
    exact .duplicate (mem_of_find?_eq_some found) (beq_iff_eq.mp named) same
  | none =>
    simp only [found, lift_bind_value, ensure_ok, Bool.and_eq_true, beq_iff_eq,
      controlTime_ok, Json.str.injEq, exists_eq_left', decide_eq_true_eq] at ran
    obtain ⟨_, ⟨⟨⟨expected, number⟩, same⟩, previous⟩, prior, parsed, _, later, reasons, changed,
      ran⟩ := ran
    have fresh : Fresh history payload := by
      intro entry listed named
      have absent := find?_eq_none.mp found entry listed
      simp [named] at absent
    have continues : Continues state event prior reasons :=
      ⟨expected, number, same, previous, parsed, later, changed⟩
    cases validateOnly with
    | true =>
      rw [if_pos rfl, run_pure] at ran
      cases ran
      exact .checked rfl fresh continues
    | false =>
      rw [if_neg Bool.false_ne_true] at ran
      simp only [lift_bind_value, ensure_ok, run_pure, decide_eq_true_eq] at ran
      obtain ⟨_, absent, ended⟩ := ran
      cases ended
      exact .append rfl fresh continues absent

theorem decideAppend_known {ledger : Ledger candidate} {earlier : Json} (event : CandidateEvent)
    (validateOnly : Bool)
    (holds : Holds (files.ledger candidate.identity) ledger) (listed : earlier ∈ ledger.events)
    (named : earlier.field "event_id" = payload.field "event_id") :
    (decideAppend candidate payload event validateOnly).run files =
      (if earlier.dumps = payload.dumps then .ok (.duplicate ledger.replay.last)
        else .error (.revocation
          "candidate revocation event ID conflicts with an earlier event"), files) := by
  obtain ⟨history, stored, numbered⟩ := holds.history
  have found : ∃ entry, history.entries.find? (fun entry =>
      entry.2.field "event_id" == payload.field "event_id") = some entry ∧ entry.2 = earlier := by
    obtain ⟨entry, member, rfl⟩ := numbered.listed listed
    cases found : history.entries.find? fun entry =>
        entry.2.field "event_id" == payload.field "event_id" with
    | none =>
      have absent := find?_eq_none.mp found entry member
      simp [named] at absent
    | some first =>
      have firstNamed := find?_some found
      have firstListed := numbered.entry (mem_of_find?_eq_some found)
      exact ⟨first, rfl, inj_on_of_nodup_map ledger.distinct firstListed listed
        ((beq_iff_eq.mp firstNamed).trans named.symm)⟩
  obtain ⟨entry, found, rfl⟩ := found
  unfold decideAppend
  rw [run_bind_ok (run_readLedger holds)]
  dsimp only
  rw [run_bind_ok (run_readLedgerDocument stored)]
  simp only [found]
  by_cases same : entry.2.dumps = payload.dumps
  · rw [if_pos same, same]
    simp [ensure, lift]
    rfl
  · rw [if_neg same]
    simp [ensure, lift, same]
    rfl

theorem decideAppend_fresh {ledger : Ledger candidate} {prior : Int}
    {reasons : List RevocationReason} (holds : Holds (files.ledger candidate.identity) ledger)
    (fresh : ∀ earlier ∈ ledger.events, earlier.field "event_id" ≠ payload.field "event_id")
    (continues : Continues ledger.replay.last event prior reasons) :
    (decideAppend candidate payload event validateOnly).run files =
      (.ok (if validateOnly then .checked ledger.replay.last
        else .append ledger.replay.last (nextLedgerState candidate
          (ledger.replay.last.revision + 1) ledger.replay.last.identity event reasons)), files) := by
  obtain ⟨history, stored, numbered⟩ := holds.history
  have unknown : history.entries.find? (fun entry =>
      entry.2.field "event_id" == payload.field "event_id") = none := by
    apply find?_eq_none.mpr
    intro entry listed
    simpa using fresh entry.2 (numbered.entry listed)
  have absent : ledger.replay.last.revision + 1 ∉ history.keys := by
    rw [numbered.mem, ledger.agrees.revision]
    omega
  have checked : ∀ {Value : Type} {result : Except ControlError Value} {value : Value},
      result = .ok value → (lift result : Control Value).run files = (.ok value, files) := by
    rintro Value _ value rfl
    rfl
  have linked : ensure (event.expectedRevision == ledger.replay.last.revision &&
      event.revision == ledger.replay.last.revision + 1 &&
      event.expectedStateIdentity == ledger.replay.last.identity &&
      event.previousEventIdentity == ledger.replay.last.eventIdentity)
      (.revocation
        "candidate revocation event has a stale revision or conflicting state identity") =
        .ok () := by
    rw [ensure_ok]
    simp [continues.expected, continues.number, continues.follows, continues.previous]
  have parsed : controlTime .revocation "candidate revocation prior timestamp"
      (.str ledger.replay.last.updatedAt) = .ok prior :=
    controlTime_ok.mpr ⟨_, rfl, continues.parsed⟩
  have later : ensure (decide (prior ≤ event.moment))
      (.revocation "candidate revocation event timestamp is stale") = .ok () := by
    rw [ensure_ok]
    exact decide_eq_true continues.later
  unfold decideAppend
  rw [run_bind_ok (run_readLedger holds)]
  dsimp only
  rw [run_bind_ok (run_readLedgerDocument stored)]
  simp only [unknown]
  rw [run_bind_ok (checked linked), run_bind_ok (checked parsed), run_bind_ok (checked later),
    run_bind_ok (checked continues.changed)]
  cases validateOnly with
  | true => rfl
  | false =>
    have unused : ensure (decide (ledger.replay.last.revision + 1 ∉ history.keys))
        (.revocation "candidate revocation history revision already exists") = .ok () := by
      rw [ensure_ok]
      exact decide_eq_true absent
    rw [if_neg Bool.false_ne_true, run_bind_ok (checked unused)]
    rfl

/-- The writes of a decision. -/
def appendFile (directory : String) (next : LedgerState) (payload : Json) :
    ControlFiles → ControlFiles :=
  ControlFiles.withLedger directory fun files =>
    { files with history := some ((files.history.getD ∅).insert next.revision payload) }

def stateFile (directory : String) (next : LedgerState) : ControlFiles → ControlFiles :=
  ControlFiles.withLedger directory fun files => { files with state := some next }

def headFile (candidate : RolloutCandidateBinding) (next : LedgerState) :
    ControlFiles → ControlFiles :=
  ControlFiles.withLedger candidate.identity fun files =>
    { files with head := some (next.head candidate) }

/-- The three writes of an append. -/
def appended (candidate : RolloutCandidateBinding) (next : LedgerState) (payload : Json)
    (files : ControlFiles) : ControlFiles :=
  headFile candidate next
    (stateFile candidate.identity next (appendFile candidate.identity next payload files))

/-- The answer of a decision. -/
def AppendDecision.answer (candidate : RolloutCandidateBinding) :
    AppendDecision → CandidateRevocationStatus × Bool
  | .duplicate state => (state.report candidate, true)
  | .checked state => (state.report candidate, false)
  | .append _ next => (next.report candidate, false)

/-- Only an append changes the files. -/
def AppendDecision.effect (candidate : RolloutCandidateBinding) (payload : Json)
    (decision : AppendDecision) (files : ControlFiles) : ControlFiles :=
  match decision with
  | .append _ next => appended candidate next payload files
  | _ => files

omit [Datetime] in
theorem run_performAppend (decision : AppendDecision) :
    (performAppend candidate payload decision).run files =
      (.ok (decision.answer candidate), decision.effect candidate payload files) := by
  cases decision with
  | duplicate state => rfl
  | checked state => rfl
  | append state next =>
    simp only [performAppend, writeLedgerDocument, run_bind, run_write]
    rfl

/-- The files after the first or the second write of an append. -/
def Torn (candidate : RolloutCandidateBinding) (next : LedgerState) (payload : Json)
    (files left : ControlFiles) : Prop :=
  left = appendFile candidate.identity next payload files ∨
    left = stateFile candidate.identity next (appendFile candidate.identity next payload files)

omit [Datetime] in
theorem crashes_performAppend
    (crashed : (performAppend candidate payload decision).Crashes files left) :
    left = files ∨ left = decision.effect candidate payload files ∨
      ∃ state next, decision = .append state next ∧ Torn candidate next payload files left := by
  cases decision with
  | duplicate state => exact Or.inl crashed
  | checked state => exact Or.inl crashed
  | append state next =>
    simp only [performAppend, writeLedgerDocument, crashes_bind, crashes_write, run_write,
      Prod.mk.injEq, crashes_pure] at crashed
    rcases crashed with (same | same) | ⟨_, _, ⟨-, rfl⟩, (same | same) | ⟨_, _, ⟨-, rfl⟩,
      (same | same) | ⟨_, _, ⟨-, rfl⟩, same⟩⟩⟩
    · exact Or.inl same
    · exact Or.inr (Or.inr ⟨state, next, rfl, Or.inl same⟩)
    · exact Or.inr (Or.inr ⟨state, next, rfl, Or.inl same⟩)
    · exact Or.inr (Or.inr ⟨state, next, rfl, Or.inr same⟩)
    · exact Or.inr (Or.inr ⟨state, next, rfl, Or.inr same⟩)
    · exact Or.inr (Or.inl same)
    · exact Or.inr (Or.inl same)

end

section
variable [Sha256] [Datetime] {candidate : RolloutCandidateBinding} {payload : Json}
variable {event : CandidateEvent} {state : LedgerState} {history : AList fun _ : Nat => Json}
variable {ledger : Ledger candidate} {prior : Int} {reasons : List RevocationReason}

omit [Datetime] in
theorem ledger_appended_ne {directory : String} (other : directory ≠ candidate.identity)
    (next : LedgerState) : (appended candidate next payload files).ledger directory =
      files.ledger directory := by
  unfold appended headFile stateFile appendFile
  rw [ControlFiles.ledger_withLedger_ne other, ControlFiles.ledger_withLedger_ne other,
    ControlFiles.ledger_withLedger_ne other]

/-- The check of a state is the check of its report. -/
theorem report_validate (valid : validateState state candidate = .ok ()) :
    (state.report candidate).validate candidate = .ok (state.report candidate) := by
  unfold validateState at valid
  simp only [bind_ok, ensure_ok] at valid
  obtain ⟨_, -, _, origin, _, sorted, _, contradicted, -⟩ := valid
  unfold CandidateRevocationStatus.validate LedgerState.report
  unfold validateOrigin at origin
  simp only [bind_ok, ensure_ok, controlText_ok, pure_ok, beq_self_eq_true]
  refine ⟨(), trivial, _, ⟨rfl, stableRevision_shape _⟩, (), ?_, (), ?_, (), sorted, (),
    contradicted, trivial⟩
  · by_cases first : state.revision = 0
    · rw [if_pos first, ensure_ok] at origin
      simp only [Bool.and_eq_true] at origin
      simp [first, origin]
    · simp [first]
  · by_cases first : state.revision = 0
    · simp [first]
    · rw [if_neg first] at origin
      simp only [bind_ok, controlText_ok, pure_ok] at origin
      obtain ⟨_, -, identity, ⟨same, shaped⟩, -⟩ := origin
      cases found : state.eventIdentity with
      | none =>
        rw [found] at same
        cases same
      | some text =>
        rw [found] at same
        cases same
        simp [shaped]

/-- The writer and the reader of a ledger make the same change. -/
theorem continues_advances (valid : validateEvent payload candidate none = .ok event)
    (continues : Continues ledger.replay.last event prior reasons) :
    ∃ later, ledger.replay.Advances candidate (ledger.events.length + 1) payload event prior later ∧
      ∀ reason, reason ∈ reasons ↔ reason ∈ later := by
  have agrees := ledger.agrees
  have members : ∀ reason, reason ∈ ledger.replay.last.activeReasonCategories ↔
      reason ∈ ledger.replay.reasons := by
    intro reason
    rw [agrees.reasons, RevocationReason.mem_sorted]
  obtain ⟨later, changed, same⟩ := changedReasons_congr
    "candidate recovery history has no matching active revocation" members continues.changed
  refine ⟨later, ⟨valid, ?_, ?_, ?_, ?_, continues.parsed, continues.later, changed⟩, same⟩
  · rw [continues.expected, agrees.revision]
  · rw [continues.number, agrees.revision]
  · rw [continues.follows, agrees.stateIdentity]
  · rw [continues.previous, agrees.eventIdentity]

/-- The documents after an append are the ones of the ledger with the event. -/
theorem holds_appended (holds : Holds (files.ledger candidate.identity) ledger)
    (stored : (files.ledger candidate.identity).history = some history)
    (valid : validateEvent payload candidate none = .ok event) (fresh : Fresh history payload)
    (continues : Continues ledger.replay.last event prior reasons) :
    ∃ later : Ledger candidate, later.events = ledger.events ++ [payload] ∧
      later.replay.last = nextLedgerState candidate (ledger.replay.last.revision + 1)
        ledger.replay.last.identity event reasons ∧
      Holds ((appended candidate later.replay.last payload files).ledger candidate.identity)
        later := by
  have agrees := ledger.agrees
  obtain ⟨_, kept, numbered⟩ := holds.history
  rw [stored] at kept
  cases kept
  obtain ⟨later, checks, same⟩ := continues_advances valid continues
  have advanced : ledger.replay.advance candidate (ledger.events.length + 1) payload =
      .ok (ledger.replay.after candidate (ledger.events.length + 1) event later) :=
    advance_ok.mpr ⟨event, prior, later, checks, rfl⟩
  have unused : ∀ earlier ∈ ledger.events,
      earlier.field "event_id" ≠ payload.field "event_id" := by
    intro earlier listed
    obtain ⟨entry, member, rfl⟩ := numbered.listed listed
    exact fresh entry member
  have next : (ledger.replay.after candidate (ledger.events.length + 1) event later).last =
      nextLedgerState candidate (ledger.replay.last.revision + 1) ledger.replay.last.identity event
        reasons := by
    rw [agrees.revision, ← agrees.stateIdentity]
    exact (nextLedgerState_congr same).symm
  refine ⟨ledger.append payload _ advanced unused, rfl, next, ?_⟩
  unfold appended headFile stateFile appendFile
  rw [ControlFiles.ledger_withLedger_self, ControlFiles.ledger_withLedger_self,
    ControlFiles.ledger_withLedger_self]
  refine ⟨holds.genesis, rfl, rfl, _, rfl, ?_⟩
  rw [stored]
  exact numbered.insert payload

/-- A crash between the writes of an append leaves a ledger that no reader accepts. -/
theorem readLedger_torn {next state : LedgerState} {stateIdentity : String}
    (holds : Holds (files.ledger candidate.identity) ledger)
    (number : next.revision = ledger.replay.last.revision + 1)
    (torn : Torn candidate next payload files left) :
    (readLedger candidate).run left ≠ (.ok (state, stateIdentity), after) := by
  intro read
  obtain ⟨-, -, stored, head, -, history, listing, full⟩ := readLedger_value read
  obtain ⟨earlier, kept, numbered⟩ := holds.history
  have agrees := ledger.agrees
  rcases torn with rfl | rfl
  · unfold appendFile at stored listing
    rw [ControlFiles.ledger_withLedger_self] at stored listing
    have same : ledger.replay.last = state := Option.some.inj (holds.state.symm.trans stored)
    rw [kept] at listing
    have grown := numbered.insert payload
    rw [← agrees.revision, ← number] at grown
    cases listing
    have size := grown.complete_iff.mp full
    rw [← same, agrees.revision] at size
    simp at size
  · unfold stateFile appendFile at stored head
    rw [ControlFiles.ledger_withLedger_self, ControlFiles.ledger_withLedger_self] at stored head
    have same : next = state := Option.some.inj stored
    have shown := Option.some.inj (holds.head.symm.trans head)
    have moved := congrArg LedgerHead.revision shown
    rw [← same] at moved
    change ledger.replay.last.revision = next.revision at moved
    omega

variable [Authority] {signedEvent : Json} {now : Int} {validateOnly : Bool}

/-- The event of a call is signed, targets a candidate and is valid at the clock of the call. -/
structure Received (signedEvent : Json) (now : Int) (payload : Json)
    (candidate : RolloutCandidateBinding) (event : CandidateEvent) : Prop where
  signed : verifySigned .revocation signedEvent "candidate revocation event" = .ok payload
  bound : RolloutCandidateBinding.fromMapping (payload.field "candidate_binding") = .ok candidate
  valid : validateEvent payload candidate none = .ok event
  past : event.moment ≤ now

theorem run_recordEvent (received : Received signedEvent now payload candidate event) :
    (recordEvent signedEvent now validateOnly).run files =
      (do
        let (status, duplicate) ← (do
          performAppend candidate payload
            (← decideAppend candidate payload event validateOnly))
        return (← lift (status.validate candidate), duplicate)).run
          (files.opened (.ledger candidate.identity)) := by
  have valid : validateEvent payload candidate (some now) = .ok event :=
    validateEvent_limit.mpr ⟨received.valid, received.past⟩
  unfold recordEvent
  rw [received.signed]
  change ((lift (RolloutCandidateBinding.fromMapping (payload.field "candidate_binding")) :
    Control _) >>= _).run files = _
  rw [received.bound]
  change ((lift (validateEvent payload candidate (some now)) : Control _) >>= _).run files = _
  rw [valid]
  change (withLock _ _ >>= _).run files = _
  rw [run_bind, run_withLock]
  exact (run_bind _ _ _).symm

/-- A call whose event was not received changes nothing. -/
theorem recordEvent_unreceived (files : ControlFiles) (validateOnly : Bool)
    (unreceived : ∀ payload candidate event, ¬Received signedEvent now payload candidate event) :
    ∃ error, (recordEvent signedEvent now validateOnly).run files = (.error error, files) ∧
      ∀ left, (recordEvent signedEvent now validateOnly).Crashes files left → left = files := by
  unfold recordEvent
  cases signed : verifySigned .revocation signedEvent "candidate revocation event" with
  | error error => exact ⟨error, rfl, fun left crashed => crashed⟩
  | ok payload =>
    cases bound : RolloutCandidateBinding.fromMapping (payload.field "candidate_binding") with
    | error error =>
      refine ⟨error, ?_, ?_⟩
      · rw [run_bind_ok (run_lift _ _)]
        simp [bound, run_bind]
      · intro left crashed
        simpa [crashes_bind, bound] using crashed
    | ok candidate =>
      cases valid : validateEvent payload candidate (some now) with
      | error error =>
        refine ⟨error, ?_, ?_⟩
        · rw [run_bind_ok (run_lift _ _)]
          simp [bound, valid, run_bind]
        · intro left crashed
          simpa [crashes_bind, bound, valid] using crashed
      | ok event =>
        obtain ⟨unlimited, past⟩ := validateEvent_limit.mp valid
        exact (unreceived payload candidate event ⟨signed, bound, unlimited, past⟩).elim

omit [Authority] in
theorem answer_validate {decision : AppendDecision} (valid : event.Valid)
    (checked : validateState state candidate = .ok ())
    (decides : Decides candidate payload event validateOnly state history decision) :
    (decision.answer candidate).1.validate candidate = .ok (decision.answer candidate).1 := by
  cases decides with
  | duplicate => exact report_validate checked
  | checked => exact report_validate checked
  | append stored fresh continues absent =>
    exact report_validate (nextLedgerState_valid valid (Nat.succ_pos _) (stableRevision_shape _)
      (changed_revoked valid continues.changed))

theorem recordEvent_received (files : ControlFiles) (validateOnly : Bool)
    (received : Received signedEvent now payload candidate event) :
    (∃ error, (decideAppend candidate payload event validateOnly).run
        (files.opened (.ledger candidate.identity)) =
          (.error error, files.opened (.ledger candidate.identity)) ∧
      (recordEvent signedEvent now validateOnly).run files =
        (.error error, files.opened (.ledger candidate.identity))) ∨
    ∃ state history decision,
      (readLedger candidate).run (files.opened (.ledger candidate.identity)) =
        (.ok (state, state.identity), files.opened (.ledger candidate.identity)) ∧
      (files.ledger candidate.identity).history = some history ∧
      (decideAppend candidate payload event validateOnly).run
        (files.opened (.ledger candidate.identity)) =
          (.ok decision, files.opened (.ledger candidate.identity)) ∧
      Decides candidate payload event validateOnly state history decision ∧
      (recordEvent signedEvent now validateOnly).run files =
        (.ok (decision.answer candidate),
          decision.effect candidate payload (files.opened (.ledger candidate.identity))) := by
  have unchanged := (still_decideAppend candidate payload event validateOnly).run
    (files.opened (.ledger candidate.identity))
  rw [run_recordEvent received]
  rcases decided : (decideAppend candidate payload event validateOnly).run
    (files.opened (.ledger candidate.identity)) with ⟨error | decision, after⟩
  · rw [decided] at unchanged
    have same : after = files.opened (.ledger candidate.identity) := unchanged
    subst same
    refine Or.inl ⟨error, rfl, ?_⟩
    rw [run_bind_error (run_bind_error decided)]
  · rw [decided] at unchanged
    have same : after = files.opened (.ledger candidate.identity) := unchanged
    subst same
    obtain ⟨state, history, read, stored, decides⟩ := decideAppend_value decided
    rw [ControlFiles.ledger_opened] at stored
    refine Or.inr ⟨state, history, decision, read, stored, rfl, decides, ?_⟩
    have checked := (readLedger_value read).2.2.2.2.1
    have answered := answer_validate (validateEvent_valid received.valid) checked decides
    have performed : ((decideAppend candidate payload event validateOnly >>=
        performAppend candidate payload : Control _)).run
          (files.opened (.ledger candidate.identity)) =
        (.ok (decision.answer candidate),
          decision.effect candidate payload (files.opened (.ledger candidate.identity))) := by
      rw [run_bind_ok decided, run_performAppend]
    rw [run_bind_ok performed]
    change ((lift ((decision.answer candidate).1.validate candidate) : Control _) >>= _).run _ = _
    rw [answered]
    rfl

theorem crashes_recordEvent (received : Received signedEvent now payload candidate event)
    (crashed : (recordEvent signedEvent now validateOnly).Crashes files left) :
    left = files ∨ left = files.opened (.ledger candidate.identity) ∨
      ∃ decision, (decideAppend candidate payload event validateOnly).run
          (files.opened (.ledger candidate.identity)) =
            (.ok decision, files.opened (.ledger candidate.identity)) ∧
        (left = decision.effect candidate payload (files.opened (.ledger candidate.identity)) ∨
          ∃ state next, decision = .append state next ∧
            Torn candidate next payload (files.opened (.ledger candidate.identity)) left) := by
  have valid : validateEvent payload candidate (some now) = .ok event :=
    validateEvent_limit.mpr ⟨received.valid, received.past⟩
  have still := still_decideAppend candidate payload event validateOnly
  unfold recordEvent at crashed
  rw [received.signed] at crashed
  change ((lift (RolloutCandidateBinding.fromMapping (payload.field "candidate_binding")) :
    Control _) >>= _).Crashes files left at crashed
  rw [received.bound] at crashed
  change ((lift (validateEvent payload candidate (some now)) : Control _) >>= _).Crashes files left
    at crashed
  rw [valid] at crashed
  change (withLock _ _ >>= _).Crashes files left at crashed
  rw [crashes_bind] at crashed
  have inside : left = files ∨
      (decideAppend candidate payload event validateOnly >>=
        performAppend candidate payload).Crashes
          (files.opened (.ledger candidate.identity)) left := by
    rcases crashed with locked | ⟨⟨status, duplicate⟩, after, ran, ended⟩
    · exact crashes_withLock locked
    · have same : left = after := by
        simp only [crashes_bind, crashes_lift, crashes_pure, run_lift, Prod.mk.injEq] at ended
        rcases ended with same | ⟨_, _, ⟨-, rfl⟩, same⟩
        · exact same
        · exact same
      rw [run_withLock] at ran
      have last := crashes_run (decideAppend candidate payload event validateOnly >>=
        performAppend candidate payload) (files.opened (.ledger candidate.identity))
      rw [ran] at last
      rw [same]
      exact Or.inr last
  rcases inside with same | crashed
  · exact Or.inl same
  · rw [crashes_bind] at crashed
    rcases crashed with reading | ⟨decision, after, decided, writing⟩
    · exact Or.inr (Or.inl (still.crashes reading))
    · have unchanged := still.run (files.opened (.ledger candidate.identity))
      rw [decided] at unchanged
      have same : after = files.opened (.ledger candidate.identity) := unchanged
      subst same
      rcases crashes_performAppend writing with same | same | torn
      · exact Or.inr (Or.inl same)
      · exact Or.inr (Or.inr ⟨decision, decided, Or.inl same⟩)
      · exact Or.inr (Or.inr ⟨decision, decided, Or.inr torn⟩)

end

end Control
end KSlide
