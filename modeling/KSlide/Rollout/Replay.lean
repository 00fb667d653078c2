import KSlide.Interleaving.Reads
import KSlide.Rollout.Control

/-
This file says when a ledger is read and what its next event does to the reader.
-/

namespace KSlide
open Interleaving Program List

section
variable [Sha256] [Datetime] {payload : Json} {candidate : RolloutCandidateBinding}
variable {event : CandidateEvent}

/-- What a valid event promises to the state after it. -/
structure CandidateEvent.Valid (event : CandidateEvent) : Prop where
  actor : isName event.actorRef = true
  authority : isName event.authorityRef = true
  named : isName event.eventId = true
  short : event.eventId.length ≤ 55
  next : event.revision = event.expectedRevision + 1
  moment : Datetime.fromisoformat event.occurredAt = .aware event.moment
  reasons : event.reasonCategories ≠ []
  sorted : event.reasonCategories = RevocationReason.sorted event.reasonCategories
  single : event.action = .revoke → ∃ reason, event.reasonCategories = [reason]
  identity : Text.isSha256 event.identity = true

variable {fields : CandidateEvent.Fields} {value : Json} {reasons : List RevocationReason}

omit [Sha256] [Datetime] in
theorem eventReasons_ok (read : eventReasons value = .ok reasons) :
    reasons ≠ [] ∧ reasons = RevocationReason.sorted reasons := by
  cases value with
  | arr items =>
    simp only [eventReasons] at read
    split_ifs at read with valid
    have same := Except.ok.inj read
    rw [← same]
    exact valid.2
  | _ => cases read

omit [Sha256] [Datetime] in
theorem parse_some {reason : RevocationReason} :
    RevocationReason.parse value = some reason ↔ value = .str reason.value := by
  unfold RevocationReason.parse
  constructor
  · intro found
    simpa using find?_some found
  · rintro rfl
    cases reason <;> decide

/-- The event names the category. -/
def NamesReason (payload : Json) (reason : RevocationReason) : Prop :=
  ∃ items, payload.field "reason_categories" = .arr items ∧ .str reason.value ∈ items

omit [Sha256] [Datetime] in
theorem eventReasons_names (read : eventReasons (payload.field "reason_categories") = .ok reasons)
    (reason : RevocationReason) : reason ∈ reasons ↔ NamesReason payload reason := by
  unfold NamesReason
  cases field : payload.field "reason_categories" with
  | arr items =>
    rw [field] at read
    simp only [eventReasons] at read
    split_ifs at read
    rw [← Except.ok.inj read, mem_filterMap]
    simp only [parse_some, exists_eq_right, Json.arr.injEq, exists_eq_left']
  | _ =>
    rw [field] at read
    cases read

omit [Sha256] [Datetime] in
theorem eventFields_ok (read : eventFields payload candidate = .ok fields) :
    isName fields.actorRef = true ∧ isName fields.authorityRef = true ∧
      isName fields.eventId = true ∧ fields.eventId.length ≤ 55 ∧
      fields.revision = fields.expectedRevision + 1 ∧
      payload.field "event_id" = .str fields.eventId ∧
      RolloutCandidateBinding.fromMapping (payload.field "candidate_binding") = .ok candidate ∧
      eventAction (payload.field "action") = .ok fields.action := by
  unfold eventFields at read
  simp only [bind_ok, pure_ok, ensure_ok, controlText_ok, decide_eq_true_eq, beq_iff_eq] at read
  obtain ⟨_, -, binding, mapped, _, same, action, acted, actor, ⟨-, actorName⟩, authority,
    ⟨-, authorityName⟩, eventId, ⟨eventField, eventName⟩, _, short, expected, -, revision, -, _,
    next, -, -, -, -, rfl⟩ := read
  exact ⟨actorName, authorityName, eventName, short, next, eventField, same ▸ mapped, acted⟩

omit [Sha256] [Datetime] in
theorem previousEvent_ok {previous : Option String}
    (read : previousEvent value = .ok previous) : value = .ofText? previous := by
  unfold previousEvent at read
  split at read
  · cases read
    rfl
  · simp only [map_ok, controlText_ok] at read
    obtain ⟨text, ⟨rfl, -⟩, rfl⟩ := read
    rfl

omit [Sha256] [Datetime] in
theorem eventFields_numbers (read : eventFields payload candidate = .ok fields) :
    payload.field "expected_revision" = .int fields.expectedRevision ∧
      payload.field "revision" = .int fields.revision ∧
      payload.field "previous_event_identity" = .ofText? fields.previousEventIdentity := by
  unfold eventFields at read
  simp only [bind_ok, pure_ok, ensure_ok, controlText_ok, natural_ok, beq_iff_eq] at read
  obtain ⟨_, -, binding, -, _, -, action, -, actor, -, authority, -, eventId, -, _, -, expected,
    expectedField, revision, revisionField, _, -, state, -, previous, previousField, rfl⟩ := read
  exact ⟨expectedField, revisionField, previousEvent_ok previousField⟩

omit [Datetime] in
theorem eventReasoned_ok {moment : Int} (read : eventReasoned payload fields moment = .ok event) :
    event.toFields = fields ∧ event.occurredAt = textOf (payload.field "occurred_at") ∧
      event.moment = moment ∧ event.identity = stableRevision payload ∧
      eventReasons (payload.field "reason_categories") = .ok event.reasonCategories ∧
      validateAuthority fields.action fields.authorityRef event.reasonCategories = .ok () := by
  unfold eventReasoned at read
  simp only [bind_ok, pure_ok] at read
  obtain ⟨reasons, found, _, authorized, _, -, rfl⟩ := read
  exact ⟨rfl, rfl, rfl, rfl, found, authorized⟩

/-- Only the limit on its time separates a new event from an event of a history. -/
theorem validateEvent_limit {now : Int} : validateEvent payload candidate (some now) = .ok event ↔
    validateEvent payload candidate none = .ok event ∧ event.moment ≤ now := by
  unfold validateEvent
  simp only [bind_ok, ensure_ok, Option.all_some, Option.all_none, decide_eq_true_eq]
  constructor
  · rintro ⟨fields, named, moment, parsed, _, early, reasoned⟩
    have same : event.moment = moment := (eventReasoned_ok reasoned).2.2.1
    exact ⟨⟨fields, named, moment, parsed, (), trivial, reasoned⟩, same ▸ early⟩
  · rintro ⟨⟨fields, named, moment, parsed, _, -, reasoned⟩, early⟩
    have same : event.moment = moment := (eventReasoned_ok reasoned).2.2.1
    exact ⟨fields, named, moment, parsed, (), same ▸ early, reasoned⟩

theorem validateEvent_valid (valid : validateEvent payload candidate none = .ok event) :
    event.Valid := by
  unfold validateEvent at valid
  simp only [bind_ok, ensure_ok] at valid
  obtain ⟨fields, named, moment, parsed, _, -, reasoned⟩ := valid
  obtain ⟨actor, authority, eventId, short, next, -⟩ := eventFields_ok named
  obtain ⟨rfl, occurred, sameMoment, identity, reasons, authorized⟩ := eventReasoned_ok reasoned
  obtain ⟨text, field, time⟩ := controlTime_ok.mp parsed
  obtain ⟨some_, sorted⟩ := eventReasons_ok reasons
  have single : event.action = .revoke → ∃ reason, event.reasonCategories = [reason] := by
    intro revoke
    rw [revoke] at authorized
    simp only [validateAuthority, ensure_ok, Bool.and_eq_true, beq_iff_eq] at authorized
    exact length_eq_one_iff.mp authorized.1
  exact {
    actor
    authority
    named := eventId
    short
    next
    moment := by rw [occurred, field, sameMoment]; exact time
    reasons := some_
    sorted
    single
    identity := by rw [identity]; exact stableRevision_shape payload }

theorem validateEvent_payload (valid : validateEvent payload candidate none = .ok event) :
    event.identity = stableRevision payload ∧ payload.field "event_id" = .str event.eventId ∧
      RolloutCandidateBinding.fromMapping (payload.field "candidate_binding") = .ok candidate ∧
      eventAction (payload.field "action") = .ok event.action := by
  unfold validateEvent at valid
  simp only [bind_ok, ensure_ok] at valid
  obtain ⟨fields, named, moment, -, _, -, reasoned⟩ := valid
  obtain ⟨-, -, -, -, -, eventId, mapped, acted⟩ := eventFields_ok named
  obtain ⟨rfl, -, -, identity, -⟩ := eventReasoned_ok reasoned
  exact ⟨identity, eventId, mapped, acted⟩

theorem validateEvent_numbers (valid : validateEvent payload candidate none = .ok event) :
    payload.field "expected_revision" = .int event.expectedRevision ∧
      payload.field "revision" = .int event.revision ∧
      payload.field "previous_event_identity" = .ofText? event.previousEventIdentity := by
  unfold validateEvent at valid
  simp only [bind_ok, ensure_ok] at valid
  obtain ⟨fields, named, moment, -, _, -, reasoned⟩ := valid
  obtain ⟨rfl, -⟩ := eventReasoned_ok reasoned
  exact eventFields_numbers named

theorem validateEvent_names (valid : validateEvent payload candidate none = .ok event)
    (reason : RevocationReason) :
    reason ∈ event.reasonCategories ↔ NamesReason payload reason := by
  unfold validateEvent at valid
  simp only [bind_ok, ensure_ok] at valid
  obtain ⟨fields, -, moment, -, _, -, reasoned⟩ := valid
  exact eventReasons_names (eventReasoned_ok reasoned).2.2.2.2.1 reason

end

section
variable {reasons other : List RevocationReason} {event : CandidateEvent} {unmatched : String}

theorem changedReasons_ok {after : List RevocationReason} :
    changedReasons reasons event unmatched = .ok after ↔
      (event.action = .revoke ∧ after = event.reasonCategories.head?.toList ++ reasons) ∨
      (event.action = .recover ∧ (∀ reason ∈ event.reasonCategories, reason ∈ reasons) ∧
        after = reasons.filter (· ∉ event.reasonCategories)) := by
  unfold changedReasons
  cases acted : event.action with
  | revoke => simp [eq_comm]
  | recover =>
    by_cases matched : event.reasonCategories.all (· ∈ reasons) = true
    · rw [if_pos matched]
      have listed : ∀ reason ∈ event.reasonCategories, reason ∈ reasons := by
        simpa using matched
      simp only [reduceCtorEq, false_and, true_and, false_or, Except.ok.injEq, eq_comm]
      exact (and_iff_right listed).symm
    · rw [if_neg matched]
      have missing : ¬∀ reason ∈ event.reasonCategories, reason ∈ reasons := by
        simpa using matched
      simp [missing]

/-- The members of a set decide its change. -/
theorem changedReasons_congr {after : List RevocationReason} (message : String)
    (same : ∀ reason, reason ∈ reasons ↔ reason ∈ other)
    (changed : changedReasons reasons event unmatched = .ok after) :
    ∃ later, changedReasons other event message = .ok later ∧
      ∀ reason, reason ∈ after ↔ reason ∈ later := by
  rcases changedReasons_ok.mp changed with ⟨acted, rfl⟩ | ⟨acted, matched, rfl⟩
  · refine ⟨_, changedReasons_ok.mpr (Or.inl ⟨acted, rfl⟩), ?_⟩
    intro reason
    simp [same reason]
  · refine ⟨_, changedReasons_ok.mpr (Or.inr ⟨acted, ?_, rfl⟩), ?_⟩
    · intro reason named
      exact (same reason).mp (matched reason named)
    · intro reason
      simp [same reason]

end

section
variable {candidate : RolloutCandidateBinding} {event : CandidateEvent}
variable {reasons other : List RevocationReason} {stateIdentity : String} {revision : Nat}

/-- The order in which a set is kept does not show in the state. -/
theorem nextLedgerState_congr (same : ∀ reason, reason ∈ reasons ↔ reason ∈ other) :
    nextLedgerState candidate revision stateIdentity event reasons =
      nextLedgerState candidate revision stateIdentity event other := by
  have empty : reasons = [] ↔ other = [] := by
    rw [eq_nil_iff_forall_not_mem, eq_nil_iff_forall_not_mem]
    exact forall_congr' fun reason => not_congr (same reason)
  unfold nextLedgerState
  rw [RevocationReason.sorted_congr same]
  simp only [ne_eq, empty]

/-- A ledger is revoked exactly while a category is active. -/
theorem nextLedgerState_status (revoked : event.action = .revoke → reasons ≠ []) :
    (nextLedgerState candidate revision stateIdentity event reasons).status =
      if reasons ≠ [] then .revoked else .recovered := by
  unfold nextLedgerState
  by_cases active : reasons ≠ []
  · simp [active]
  · have recovered : event.action = .recover := by
      cases acted : event.action with
      | revoke => exact (active (revoked acted)).elim
      | recover => rfl
    simp [active, recovered]

variable [Sha256] [Datetime]

omit [Sha256] in
theorem nextLedgerState_valid (valid : event.Valid) (positive : 0 < revision)
    (hashed : Text.isSha256 stateIdentity = true)
    (revoked : event.action = .revoke → reasons ≠ []) :
    validateState (nextLedgerState candidate revision stateIdentity event reasons) candidate =
      .ok () := by
  have moved : revision ≠ 0 := by omega
  have origin : validateOrigin
      (nextLedgerState candidate revision stateIdentity event reasons) = .ok () := by
    unfold validateOrigin
    rw [if_neg (show (nextLedgerState candidate revision stateIdentity event reasons).revision ≠ 0
      from moved)]
    simp [nextLedgerState, hashed, valid.identity]
  have status : (nextLedgerState candidate revision stateIdentity event reasons).status =
      if reasons ≠ [] then .revoked else .recovered := nextLedgerState_status revoked
  have agreed : ((nextLedgerState candidate revision stateIdentity event reasons).status ==
        .revoked) = !(RevocationReason.sorted reasons).isEmpty ∧
      (nextLedgerState candidate revision stateIdentity event reasons).status ≠ .clear := by
    rw [status]
    by_cases active : reasons = []
    · rw [active]
      decide
    · simp [active, RevocationReason.sorted_eq_nil]
  have sorted : (nextLedgerState candidate revision stateIdentity event
      reasons).activeReasonCategories = RevocationReason.sorted reasons := rfl
  have bound : (nextLedgerState candidate revision stateIdentity event reasons).candidateBinding =
      candidate := rfl
  unfold validateState
  rw [origin]
  simp only [bind_ok, ensure_ok, controlText_ok, pure_ok, bound, sorted, beq_self_eq_true,
    RevocationReason.sorted_sorted, decide_true, agreed.1, Bool.true_and]
  refine ⟨(), trivial, (), trivial, (), trivial, (), ?_, _, ⟨rfl, valid.actor⟩, _,
    ⟨rfl, valid.authority⟩, _, ⟨rfl, valid.named⟩, _, controlTime_ok.mpr ⟨_, rfl, valid.moment⟩,
    trivial⟩
  simp [agreed.2]

end

section
variable [Sha256] [Datetime] {candidate : RolloutCandidateBinding} {genesis : LedgerState}
variable {events : List Json} {payload : Json} {replay next : Replay} {revision : Nat}

/-- The events of a ledger are replayed in the order of their revisions. -/
def replayEvents (candidate : RolloutCandidateBinding) (genesis : LedgerState)
    (events : List Json) : Except ControlError Replay :=
  (events.zipIdx 1).foldlM (fun replay entry => replay.advance candidate entry.2 entry.1)
    (Replay.start genesis)

theorem replayEvents_nil : replayEvents candidate genesis [] = .ok (Replay.start genesis) := rfl

theorem replayEvents_append : replayEvents candidate genesis (events ++ [payload]) =
    replayEvents candidate genesis events >>= fun replay =>
      replay.advance candidate (events.length + 1) payload := by
  unfold replayEvents
  rw [zipIdx_append, foldlM_append]
  congr 1
  funext replay
  rw [zipIdx_singleton, foldlM_cons, Nat.add_comm]
  exact bind_pure _

/-- The checks that the reader makes of its next event. -/
structure Replay.Advances (replay : Replay) (candidate : RolloutCandidateBinding) (revision : Nat)
    (payload : Json) (event : CandidateEvent) (prior : Int) (reasons : List RevocationReason) :
    Prop where
  valid : validateEvent payload candidate none = .ok event
  expected : event.expectedRevision + 1 = revision
  number : event.revision = revision
  state : event.expectedStateIdentity = replay.stateIdentity
  previous : event.previousEventIdentity = replay.eventIdentity
  parsed : Datetime.fromisoformat replay.last.updatedAt = .aware prior
  later : prior ≤ event.moment
  changed : changedReasons replay.reasons event
    "candidate recovery history has no matching active revocation" = .ok reasons

/-- The replay after an event. -/
def Replay.after (replay : Replay) (candidate : RolloutCandidateBinding) (revision : Nat)
    (event : CandidateEvent) (reasons : List RevocationReason) : Replay :=
  let last := nextLedgerState candidate revision replay.stateIdentity event reasons
  ⟨reasons, some event.identity, last.identity, last⟩

theorem advance_ok : replay.advance candidate revision payload = .ok next ↔
    ∃ event prior reasons, replay.Advances candidate revision payload event prior reasons ∧
      next = replay.after candidate revision event reasons := by
  unfold Replay.advance
  simp only [bind_ok, ensure_ok, pure_ok, Bool.and_eq_true, beq_iff_eq, decide_eq_true_eq,
    controlTime_ok, Json.str.injEq, exists_eq_left']
  constructor
  · rintro ⟨event, valid, _, ⟨⟨⟨expected, number⟩, state⟩, previous⟩, prior, parsed, _, later,
      reasons, changed, rfl⟩
    exact ⟨event, prior, reasons,
      ⟨valid, expected, number, state, previous, parsed, later, changed⟩, rfl⟩
  · rintro ⟨event, prior, reasons, checks, rfl⟩
    exact ⟨event, checks.valid, (),
      ⟨⟨⟨checks.expected, checks.number⟩, checks.state⟩, checks.previous⟩, prior,
      checks.parsed, (), checks.later, reasons, checks.changed, rfl⟩

/-- The replay of a history agrees with the last state of the history. -/
structure Replay.Agrees (replay : Replay) (candidate : RolloutCandidateBinding)
    (revision : Nat) : Prop where
  stateIdentity : replay.stateIdentity = replay.last.identity
  eventIdentity : replay.eventIdentity = replay.last.eventIdentity
  reasons : replay.last.activeReasonCategories = RevocationReason.sorted replay.reasons
  revision : replay.last.revision = revision
  bound : replay.last.candidateBinding = candidate
  valid : validateState replay.last candidate = .ok ()

theorem start_agrees (valid : validateState genesis candidate = .ok ())
    (first : genesis.revision = 0) : (Replay.start genesis).Agrees candidate 0 := by
  have checked := valid
  unfold validateState at checked
  simp only [bind_ok, ensure_ok, beq_iff_eq] at checked
  obtain ⟨_, bound, _, origin, -⟩ := checked
  unfold validateOrigin at origin
  rw [if_pos first] at origin
  simp only [ensure_ok, Bool.and_eq_true, Option.isNone_iff_eq_none, List.isEmpty_iff] at origin
  obtain ⟨⟨⟨-, noEvent⟩, -⟩, none_⟩ := origin
  refine ⟨rfl, noEvent.symm, ?_, first, bound, valid⟩
  rw [show (Replay.start genesis).last = genesis from rfl, none_]
  rfl

omit [Sha256] in
theorem changed_revoked {event : CandidateEvent} {reasons after : List RevocationReason}
    {message : String} (valid : event.Valid)
    (changed : changedReasons reasons event message = .ok after) :
    event.action = .revoke → after ≠ [] := by
  intro revoke
  rcases changedReasons_ok.mp changed with ⟨-, rfl⟩ | ⟨recover, -⟩
  · obtain ⟨reason, single⟩ := valid.single revoke
    rw [single]
    simp
  · rw [revoke] at recover
    cases recover

theorem after_agrees {event : CandidateEvent} {reasons : List RevocationReason}
    (agrees : replay.Agrees candidate revision) (valid : event.Valid)
    (revoked : event.action = .revoke → reasons ≠ []) :
    (replay.after candidate (revision + 1) event reasons).Agrees candidate (revision + 1) := by
  have hashed : Text.isSha256 replay.stateIdentity = true := by
    rw [agrees.stateIdentity]
    exact stableRevision_shape _
  exact ⟨rfl, rfl, rfl, rfl, rfl,
    nextLedgerState_valid valid (Nat.succ_pos _) hashed revoked⟩

theorem advance_agrees (agrees : replay.Agrees candidate revision)
    (advanced : replay.advance candidate (revision + 1) payload = .ok next) :
    next.Agrees candidate (revision + 1) := by
  obtain ⟨event, prior, reasons, checks, rfl⟩ := advance_ok.mp advanced
  have valid : event.Valid := validateEvent_valid checks.valid
  exact after_agrees agrees valid (changed_revoked valid checks.changed)

/-- A ledger holds the events that its reader replays from its genesis. -/
structure Ledger (candidate : RolloutCandidateBinding) where
  genesis : LedgerState
  events : List Json
  replay : Replay
  valid : validateState genesis candidate = .ok ()
  first : genesis.revision = 0
  replayed : replayEvents candidate genesis events = .ok replay
  distinct : (events.map (·.field "event_id")).Nodup

/-- A category is active from its last revocation to the next recovery that names it. -/
def ActiveReason (events : List Json) (reason : RevocationReason) : Prop :=
  ∃ before payload after, events = before ++ payload :: after ∧
    payload.field "action" = .str "REVOKE" ∧ NamesReason payload reason ∧
    ∀ later ∈ after, later.field "action" = .str "RECOVER" → ¬NamesReason later reason

omit [Sha256] [Datetime] in
theorem activeReason_append {reason : RevocationReason} :
    ActiveReason (events ++ [payload]) reason ↔
      (payload.field "action" = .str "REVOKE" ∧ NamesReason payload reason) ∨
      (ActiveReason events reason ∧
        ¬(payload.field "action" = .str "RECOVER" ∧ NamesReason payload reason)) := by
  constructor
  · rintro ⟨before, revoked, after, split, action, named, kept⟩
    rcases eq_nil_or_concat after with rfl | ⟨after, last, rfl⟩
    · cases (append_inj' split rfl).2
      exact Or.inl ⟨action, named⟩
    · rw [concat_eq_append] at split kept
      rw [← cons_append, ← append_assoc] at split
      obtain ⟨rfl, same⟩ := append_inj' split rfl
      cases same
      refine Or.inr ⟨⟨before, revoked, after, rfl, action, named, ?_⟩, ?_⟩
      · intro later listed
        exact kept later (mem_append_left _ listed)
      · rintro ⟨recover, listed⟩
        exact kept payload (by simp) recover listed
  · rintro (⟨action, named⟩ | ⟨⟨before, revoked, after, rfl, action, named, kept⟩, passed⟩)
    · exact ⟨events, payload, [], rfl, action, named, by simp⟩
    · refine ⟨before, revoked, after ++ [payload], by simp, action, named, ?_⟩
      intro later listed recover
      rcases mem_append.mp listed with earlier | last
      · exact kept later earlier recover
      · rw [mem_singleton.mp last] at recover ⊢
        exact fun listed => passed ⟨recover, listed⟩

omit [Sha256] [Datetime] in
/-- The action of an event is one of two words. -/
theorem eventAction_ok {value : Json} {action : EventAction}
    (acted : eventAction value = .ok action) :
    value = .str (if action = .revoke then "REVOKE" else "RECOVER") := by
  unfold eventAction at acted
  split at acted <;> cases acted <;> rfl

/-- The event at a place of a history is valid, has its revision and names the event before. -/
structure Linked (candidate : RolloutCandidateBinding) (events : List Json) (index : Nat)
    (payload : Json) : Prop where
  valid : ∃ event, validateEvent payload candidate none = .ok event
  expected : payload.field "expected_revision" = .int index
  number : payload.field "revision" = .int (index + 1)
  previous : payload.field "previous_event_identity" = .ofText?
    (if index = 0 then none else (events[index - 1]?).map stableRevision)

namespace Ledger

theorem replay_induct (valid : validateState genesis candidate = .ok ())
    (first : genesis.revision = 0) {motive : List Json → Replay → Prop}
    (start : motive [] (Replay.start genesis))
    (step : ∀ events replay payload next, replay.Agrees candidate events.length →
      motive events replay → replay.advance candidate (events.length + 1) payload = .ok next →
      motive (events ++ [payload]) next) (events : List Json) :
    ∀ replay, replayEvents candidate genesis events = .ok replay →
      replay.Agrees candidate events.length ∧ motive events replay := by
  induction events using List.reverseRecOn with
  | nil =>
    intro replay replayed
    rw [replayEvents_nil] at replayed
    cases replayed
    exact ⟨start_agrees valid first, start⟩
  | append_singleton events payload ih =>
    intro next replayed
    rw [replayEvents_append, bind_ok] at replayed
    obtain ⟨replay, before, advanced⟩ := replayed
    obtain ⟨agrees, holds⟩ := ih replay before
    rw [length_append, length_singleton]
    exact ⟨advance_agrees agrees advanced, step events replay payload next agrees holds advanced⟩

/-- The categories of a replay are the active ones. -/
theorem replay_active (valid : validateState genesis candidate = .ok ())
    (first : genesis.revision = 0) (replayed : replayEvents candidate genesis events = .ok replay)
    (reason : RevocationReason) : reason ∈ replay.reasons ↔ ActiveReason events reason := by
  refine (replay_induct valid first
    (motive := fun events replay => reason ∈ replay.reasons ↔ ActiveReason events reason)
    ?_ ?_ events replay replayed).2
  · constructor
    · intro listed
      cases listed
    · rintro ⟨before, payload, after, split, -⟩
      simp at split
  · intro events replay payload next agrees same advanced
    obtain ⟨event, prior, reasons, checks, rfl⟩ := advance_ok.mp advanced
    have valid : event.Valid := validateEvent_valid checks.valid
    have acted := eventAction_ok (validateEvent_payload checks.valid).2.2.2
    have named := validateEvent_names checks.valid reason
    rw [activeReason_append, ← same, ← named, acted]
    change reason ∈ reasons ↔ _
    rcases changedReasons_ok.mp checks.changed with ⟨revoke, rfl⟩ | ⟨recover, -, rfl⟩
    · obtain ⟨only, single⟩ := valid.single revoke
      simp [revoke, single]
    · simp [recover]

theorem replay_agrees (valid : validateState genesis candidate = .ok ())
    (first : genesis.revision = 0) (replayed : replayEvents candidate genesis events = .ok replay) :
    replay.Agrees candidate events.length :=
  (replay_induct valid first (motive := fun _ _ => True) trivial (fun _ _ _ _ _ _ _ => trivial)
    events replay replayed).1

variable (ledger : Ledger candidate)

theorem agrees : ledger.replay.Agrees candidate ledger.events.length :=
  replay_agrees ledger.valid ledger.first ledger.replayed

/-- Each event of a ledger has the next revision and names the event before it. -/
theorem linked {index : Nat} {payload : Json} (listed : ledger.events[index]? = some payload) :
    Linked candidate ledger.events index payload := by
  have all := (replay_induct ledger.valid ledger.first
    (motive := fun events replay =>
      replay.eventIdentity = events.getLast?.map stableRevision ∧
      ∀ (index : Nat) payload, events[index]? = some payload →
        Linked candidate events index payload)
    ⟨rfl, by simp⟩ ?_ ledger.events ledger.replay ledger.replayed).2.2
  · exact all index payload listed
  · rintro events replay payload next agrees ⟨last, earlier⟩ advanced
    obtain ⟨event, prior, reasons, checks, rfl⟩ := advance_ok.mp advanced
    have identity : event.identity = stableRevision payload :=
      (validateEvent_payload checks.valid).1
    obtain ⟨expected, number, previous⟩ := validateEvent_numbers checks.valid
    refine ⟨by simp [Replay.after, identity], ?_⟩
    intro index other found
    rcases Nat.lt_trichotomy index events.length with within | rfl | beyond
    · rw [getElem?_append_left within] at found
      obtain ⟨valid, expected, number, previous⟩ := earlier index other found
      refine ⟨valid, expected, number, ?_⟩
      rw [getElem?_append_left (by omega)]
      exact previous
    · rw [getElem?_concat_length] at found
      cases found
      refine ⟨⟨event, checks.valid⟩, ?_, ?_, ?_⟩
      · rw [expected]
        have := checks.expected
        congr 1
        omega
      · rw [number, checks.number]
        rfl
      · rw [previous, checks.previous, last]
        by_cases empty : events.length = 0
        · rw [if_pos empty, length_eq_zero_iff.mp empty]
          rfl
        · rw [if_neg empty, getElem?_append_left (by omega), List.getLast?_eq_getElem?]
    · rw [getElem?_eq_none (by simp; omega)] at found
      cases found

/-- The reader accepts the event and goes on to the next replay. -/
def append (ledger : Ledger candidate) (payload : Json) (next : Replay)
    (advanced : ledger.replay.advance candidate (ledger.events.length + 1) payload = .ok next)
    (fresh : ∀ earlier ∈ ledger.events, earlier.field "event_id" ≠ payload.field "event_id") :
    Ledger candidate where
  genesis := ledger.genesis
  events := ledger.events ++ [payload]
  replay := next
  valid := ledger.valid
  first := ledger.first
  replayed := by
    rw [replayEvents_append, ledger.replayed]
    exact advanced
  distinct := by
    rw [map_append, nodup_append]
    refine ⟨ledger.distinct, nodup_singleton _, ?_⟩
    rintro _ listed _ same rfl
    obtain ⟨earlier, member, rfl⟩ := mem_map.mp listed
    exact fresh earlier member (by simpa using same)

end Ledger
end
end KSlide
