import KSlide.Telemetry.Stream
import Mathlib.Data.List.Forall2

/-
This file shows that the stream stays a journal of distinct events in every run.
-/

namespace KSlide
open Text List

namespace TelemetryEvent

/-- The calendar parser reads the time of the event. -/
def Timed (event : TelemetryEvent) : Prop := (fromIsoformat event.occurredAt.1).isSome = true

instance (event : TelemetryEvent) : Decidable event.Timed := inferInstanceAs (Decidable (_ = _))

/-- A written line reads back as its event. -/
theorem decode_dumps (event : TelemetryEvent) :
    decode (Json.dumpsChars event.asDict) = .ok event := by
  have storable := storable_asDict event
  simp only [decode, Json.loads_dumps storable.plain storable.canonical, fromMapping_asDict]

theorem sameReport_iff {first second : TelemetryEvent} :
    first.sameReport second = true ↔ first.retimed second.occurredAt = second := by
  simp only [sameReport, beq_iff_eq, without_occurredAt]

theorem dumps_occupied (event : TelemetryEvent) :
    (!(Json.dumpsChars event.asDict).isEmpty) = true := by
  rfl

end TelemetryEvent

/-- The text of a journal has one line for each event. -/
def encodeAll (events : List TelemetryEvent) : List Char := events.flatMap TelemetryEvent.encode

theorem encodeAll_eq (events : List TelemetryEvent) :
    encodeAll events = (events.map TelemetryEvent.asDict).flatMap Json.encodeLine := by
  rw [flatMap_map]
  rfl

theorem byteCount_filter (events : List TelemetryEvent) (keep : TelemetryEvent → Bool) :
    byteCount (encodeAll (events.filter keep)) ≤ byteCount (encodeAll events) := by
  induction events with
  | nil => exact Nat.le_refl _
  | cons event events ih =>
    simp only [encodeAll, flatMap_cons, byteCount_append] at ih ⊢
    by_cases kept : keep event = true
    · simp only [filter_cons_of_pos kept, flatMap_cons, byteCount_append]
      omega
    · rw [filter_cons_of_neg kept]
      omega

/-- The stream holds distinct events in the bounds. -/
structure Journal (stream : TelemetryStream) (events : List TelemetryEvent) : Prop where
  text : stream.getD [] = encodeAll events
  distinct : (events.map fun event => event.eventId).Nodup
  records : events.length ≤ maxTelemetryRecords
  bytes : byteCount (encodeAll events) ≤ maxTelemetryStreamBytes

namespace Journal
variable {stream : TelemetryStream} {events : List TelemetryEvent}

theorem absent : Journal none [] where
  text := rfl
  distinct := nodup_nil
  records := Nat.zero_le _
  bytes := Nat.zero_le _

theorem none_events (journal : Journal none events) : events = [] := by
  cases events with
  | nil => rfl
  | cons event events =>
    have text := journal.text
    simp [encodeAll, TelemetryEvent.encode, Json.encodeLine] at text

theorem filter (journal : Journal stream events) (keep : TelemetryEvent → Bool) :
    Journal (some (encodeAll (events.filter keep))) (events.filter keep) where
  text := rfl
  distinct := journal.distinct.sublist (filter_sublist.map _)
  records := Nat.le_trans (length_filter_le _ _) journal.records
  bytes := Nat.le_trans (byteCount_filter events keep) journal.bytes

theorem readText (journal : Journal stream events) : stream.readText = encodeAll events := by
  have single : ∀ value ∈ events.map TelemetryEvent.asDict, value.SingleLine := by
    intro value listed
    obtain ⟨event, _, rfl⟩ := mem_map.mp listed
    exact (storable_asDict event).single
  rw [TelemetryStream.readText, journal.text, encodeAll_eq]
  exact Json.universalNewlines_encodeLine single

theorem lines (journal : Journal stream events) :
    stream.lines = events.map fun event => Json.dumpsChars event.asDict := by
  have single : ∀ value ∈ events.map TelemetryEvent.asDict, value.SingleLine := by
    intro value listed
    obtain ⟨event, _, rfl⟩ := mem_map.mp listed
    exact (storable_asDict event).single
  rw [TelemetryStream.lines, journal.readText, encodeAll_eq, Json.splitLines_encodeLine single,
    map_map]
  rfl

theorem occupied (journal : Journal stream events) :
    (stream.lines.filter fun line => !line.isEmpty) =
      events.map fun event => Json.dumpsChars event.asDict := by
  rw [journal.lines, filter_eq_self]
  intro line listed
  obtain ⟨event, _, rfl⟩ := mem_map.mp listed
  exact event.dumps_occupied

theorem size (journal : Journal stream events) : ¬ maxTelemetryStreamBytes < stream.size := by
  rw [TelemetryStream.size, journal.text]
  exact Nat.not_lt.mpr journal.bytes

end Journal

namespace TelemetryWriter

theorem mapM_decode (events : List TelemetryEvent) :
    (events.map fun event => Json.dumpsChars event.asDict).mapM TelemetryEvent.decode =
      .ok events := by
  induction events with
  | nil => rfl
  | cons event events ih =>
    simp only [map_cons, mapM_cons, event.decode_dumps, ih, Bind.bind, Except.bind,
      Pure.pure, Except.pure]

/-- The reader returns the events of the journal. -/
theorem records_journal {stream : TelemetryStream} {events : List TelemetryEvent}
    (journal : Journal stream events) : records stream = .ok events := by
  have short : ¬ maxTelemetryRecords < stream.lines.length := by
    rw [journal.lines, length_map]
    exact Nat.not_lt.mpr journal.records
  rw [records, if_neg journal.size, if_neg short, journal.occupied, mapM_decode]

theorem findLine_journal (eventId : TelemetryReference .event) (runRef : TelemetryReference .run)
    (events : List TelemetryEvent) :
    findLine eventId runRef (events.map fun event => Json.dumpsChars event.asDict) =
      .ok (events.find? (reported eventId runRef)) := by
  induction events with
  | nil => rfl
  | cons event events ih =>
    have occupied : (Json.dumpsChars event.asDict).isEmpty = false := rfl
    simp only [map_cons, findLine, occupied, Bool.false_eq_true, if_false, event.decode_dumps,
      Bind.bind, Except.bind, find?_cons]
    cases reported eventId runRef event with
    | true => rfl
    | false => exact ih

theorem find_journal {stream : TelemetryStream} {events : List TelemetryEvent}
    (journal : Journal stream events) (eventId : TelemetryReference .event)
    (runRef : TelemetryReference .run) :
    find stream eventId runRef = .ok (events.find? (reported eventId runRef)) := by
  have short : stream.lines.length ≤ maxTelemetryRecords := by
    rw [journal.lines, length_map]
    exact journal.records
  have small : stream.size ≤ maxTelemetryStreamBytes := Nat.not_lt.mp journal.size
  unfold find
  cases stream with
  | none =>
    simp [journal.none_events]
  | some text =>
    simp only [Option.isNone_some, Bool.false_eq_true, if_false, require, small, short,
      decide_true, if_true, Bind.bind, Except.bind]
    rw [journal.lines, findLine_journal]

/-- The writer meets the event with the same identity or counts all events. -/
theorem scan_journal (checked : TelemetryEvent) (events : List TelemetryEvent) (count : Nat) :
    scan checked (events.map fun event => Json.dumpsChars event.asDict) count =
      (events.find? (·.eventId = checked.eventId)).elim (.inr (count + events.length)) fun prior =>
        .inl (if prior.sameReport checked then .idempotent else .conflict) := by
  induction events generalizing count with
  | nil => rfl
  | cons event events ih =>
    have occupied : (Json.dumpsChars event.asDict).isEmpty = false := rfl
    simp only [map_cons, scan, occupied, Bool.false_eq_true, if_false, event.decode_dumps,
      find?_cons, length_cons]
    by_cases same : event.eventId = checked.eventId
    · simp [same]
    · have next : count + 1 + events.length = count + (events.length + 1) := by omega
      simp only [same, if_false, decide_false, ih, next]

/-- The stream has room for one more event. -/
def Room (events : List TelemetryEvent) (event : TelemetryEvent) : Prop :=
  events.length < maxTelemetryRecords ∧
    byteCount (encodeAll events) + byteCount event.encode ≤ maxTelemetryStreamBytes

section
variable {stream : TelemetryStream} {events : List TelemetryEvent} (journal : Journal stream events)
include journal

variable {checked : TelemetryEvent}

/-- The writer answers from the event with the same identity or from the room that is left. -/
theorem recordChecked_journal (fits : checked.Fits) : recordChecked true stream checked =
      (events.find? (·.eventId = checked.eventId)).elim
        (if maxTelemetryRecords ≤ events.length ∨ maxTelemetryStreamBytes <
            byteCount (encodeAll events) + byteCount checked.encode then (.capacityLimit, stream)
          else (.recorded, some (encodeAll events ++ checked.encode)))
        fun prior => (if prior.sameReport checked then .idempotent else .conflict, stream) := by
  have short : ¬ maxTelemetryEventBytes < byteCount checked.encode := Nat.not_lt.mpr fits
  have small : ¬ maxTelemetryStreamBytes < byteCount (encodeAll events) :=
    Nat.not_lt.mpr journal.bytes
  have lines := journal.lines
  rw [TelemetryStream.lines, journal.readText] at lines
  simp only [recordChecked, short, if_false, Bool.not_true, Bool.false_eq_true, journal.size,
    journal.readText, small, lines, scan_journal, Nat.zero_add]
  cases events.find? (·.eventId = checked.eventId) with
  | some prior => rfl
  | none => rfl

theorem recordChecked_listed {prior checked : TelemetryEvent} (listed : prior ∈ events)
    (same : prior.eventId = checked.eventId) (fits : checked.Fits) :
    recordChecked true stream checked =
      (if prior.retimed checked.occurredAt = checked then .idempotent else .conflict, stream) := by
  have found : events.find? (·.eventId = checked.eventId) = some prior := by
    have present : (events.find? (·.eventId = checked.eventId)).isSome := by
      rw [find?_isSome]
      exact ⟨prior, listed, decide_eq_true same⟩
    obtain ⟨other, found⟩ := Option.isSome_iff_exists.mp present
    have equal : other.eventId = checked.eventId := of_decide_eq_true (find?_some found :)
    have only : other = prior := inj_on_of_nodup_map journal.distinct
      (mem_of_find?_eq_some found) listed (equal.trans same.symm)
    rw [found, only]
  rw [recordChecked_journal journal fits, found]
  by_cases report : prior.sameReport checked = true
  · simp [report, TelemetryEvent.sameReport_iff.mp report]
  · have other : ¬ prior.retimed checked.occurredAt = checked :=
      fun equal => report (TelemetryEvent.sameReport_iff.mpr equal)
    simp [report, other]

theorem recordChecked_fresh
    (fresh : ∀ event ∈ events, event.eventId ≠ checked.eventId) (fits : checked.Fits)
    (room : Room events checked) :
    recordChecked true stream checked =
      (.recorded, some (encodeAll events ++ checked.encode)) := by
  have missed : events.find? (·.eventId = checked.eventId) = none := by
    rw [find?_eq_none]
    intro event listed
    simpa using fresh event listed
  have open' : ¬ (maxTelemetryRecords ≤ events.length ∨ maxTelemetryStreamBytes <
      byteCount (encodeAll events) + byteCount checked.encode) := by
    have bounds := room
    unfold Room at bounds
    omega
  rw [recordChecked_journal journal fits, missed]
  simp only [Option.elim_none, open', if_false]

/-- A recorded event is new, short and within the bounds of the stream. -/
theorem recordChecked_recorded {available : Bool} {checked : TelemetryEvent}
    (answer : (recordChecked available stream checked).1 = .recorded) :
    available = true ∧ checked.Fits ∧ (∀ event ∈ events, event.eventId ≠ checked.eventId) ∧
      Room events checked := by
  by_cases fits : checked.Fits
  · cases available with
    | false =>
      have short : ¬ maxTelemetryEventBytes < byteCount checked.encode := Nat.not_lt.mpr fits
      simp [recordChecked, short] at answer
    | true =>
      rw [recordChecked_journal journal fits] at answer
      cases found : events.find? (·.eventId = checked.eventId) with
      | some prior =>
        rw [found] at answer
        simp only [Option.elim_some] at answer
        split_ifs at answer
      | none =>
        rw [found] at answer
        simp only [Option.elim_none] at answer
        split_ifs at answer with full
        have room : Room events checked := by
          unfold Room
          omega
        have fresh : ∀ event ∈ events, event.eventId ≠ checked.eventId := by
          intro event listed
          simpa using find?_eq_none.mp found event listed
        exact ⟨rfl, fits, fresh, room⟩
  · have long : maxTelemetryEventBytes < byteCount checked.encode := Nat.not_le.mp fits
    simp [recordChecked, long] at answer

theorem append_journal
    (fresh : ∀ event ∈ events, event.eventId ≠ checked.eventId) (room : Room events checked) :
    Journal (some (encodeAll events ++ checked.encode)) (events ++ [checked]) := by
  have text : encodeAll (events ++ [checked]) = encodeAll events ++ checked.encode := by
    simp [encodeAll]
  constructor
  · rw [text]
    rfl
  · rw [map_append, map_singleton, ← concat_eq_append]
    apply List.Nodup.concat _ journal.distinct
    intro listed
    obtain ⟨event, present, same⟩ := mem_map.mp listed
    exact fresh event present same
  · rw [length_append]
    exact room.1
  · rw [text, byteCount_append]
    exact room.2

end

/-- The writer changes the stream only when it records the event. -/
theorem recordChecked_unchanged (available : Bool) (stream : TelemetryStream)
    (checked : TelemetryEvent) : (recordChecked available stream checked).1 = .recorded ∨
      (recordChecked available stream checked).2 = stream := by
  unfold recordChecked
  dsimp only
  cases scan checked (splitLines stream.readText) 0 with
  | inl status => split_ifs <;> exact Or.inr rfl
  | inr count =>
    dsimp only
    split_ifs <;> first | exact Or.inr rfl | exact Or.inl rfl

end TelemetryWriter

namespace TelemetryCleanup

/-- A cleanup removes an event that is old and whose hold is released. -/
def expires (cleanup : TelemetryCleanup) (event : TelemetryEvent) : Bool :=
  (fromIsoformat event.occurredAt.1).any (· < cleanup.cutoff) &&
    (cleanup.hold event).toOption.any fun hold => hold.status == .release

/-- The provider answers the request for each old event. -/
def Answers (cleanup : TelemetryCleanup) (event : TelemetryEvent) : Prop :=
  (fromIsoformat event.occurredAt.1).any (· < cleanup.cutoff) = true →
    (cleanup.hold event).isOk = true

variable {cleanup : TelemetryCleanup} {events : List TelemetryEvent} {event : TelemetryEvent}

theorem keeps_answered (timed : event.Timed)
    (answers : cleanup.Answers event) : cleanup.keeps event = .ok (!cleanup.expires event) := by
  obtain ⟨occurred, read⟩ := Option.isSome_iff_exists.mp timed
  simp only [Answers, read, Option.any_some, decide_eq_true_eq] at answers
  simp only [keeps, expires, read, Option.any_some]
  by_cases old : occurred < cleanup.cutoff
  · cases found : cleanup.hold event with
    | error error =>
      have answered := answers old
      rw [found] at answered
      cases answered
    | ok hold => simp [old, Bind.bind, Except.bind, Except.toOption, bne]
  · simp [old]

theorem safeHold_error {answer : Except Raised LegalHoldDecision} {scopeRef runRef : String}
    {error : Raised} (failed : safeHold answer scopeRef runRef = .error error) :
    error.code? = some .legalHoldUnknown := by
  unfold safeHold at failed
  rcases answer with (known | kind) | decision
  · dsimp only at failed
    split_ifs at failed with unknown
    · rw [← Except.error.inj failed]
      exact congrArg some unknown
    · rw [← Except.error.inj failed]
      rfl
  · rw [← Except.error.inj failed]
    rfl
  · dsimp only at failed
    split_ifs at failed
    rw [← Except.error.inj failed]
    rfl

theorem keeps_error (timed : event.Timed)
    {error : Raised} (failed : cleanup.keeps event = .error error) :
    error.code? = some .legalHoldUnknown := by
  obtain ⟨occurred, read⟩ := Option.isSome_iff_exists.mp timed
  simp only [keeps, read] at failed
  split_ifs at failed with old
  cases found : cleanup.hold event with
  | error raised =>
    rw [found] at failed
    rw [← Except.error.inj failed]
    exact safeHold_error found
  | ok hold =>
    rw [found] at failed
    cases failed

theorem judge_dumps (cleanup : TelemetryCleanup) (event : TelemetryEvent) :
    cleanup.judge (Json.dumpsChars event.asDict) = (event, ·) <$> cleanup.keeps event := by
  simp only [judge, event.decode_dumps]
  rfl

theorem mapM_judge
    (timed : ∀ event ∈ events, event.Timed) (answers : ∀ event ∈ events, cleanup.Answers event) :
    (events.map fun event => Json.dumpsChars event.asDict).mapM cleanup.judge =
      .ok (events.map fun event => (event, !cleanup.expires event)) := by
  induction events with
  | nil => rfl
  | cons event events ih =>
    obtain ⟨time, times⟩ := forall_mem_cons.mp timed
    obtain ⟨answer, later⟩ := forall_mem_cons.mp answers
    simp only [map_cons, mapM_cons, judge_dumps, keeps_answered time answer,
      ih times later, Functor.map, Except.map, Bind.bind, Except.bind, Pure.pure, Except.pure]

theorem mapM_judge_error (timed : ∀ event ∈ events, event.Timed) {error : Raised}
    (failed : (events.map fun event => Json.dumpsChars event.asDict).mapM cleanup.judge =
      .error error) : error.code? = some .legalHoldUnknown := by
  induction events with
  | nil => cases failed
  | cons event events ih =>
    obtain ⟨time, times⟩ := forall_mem_cons.mp timed
    rw [map_cons, mapM_cons, judge_dumps] at failed
    cases kept : cleanup.keeps event with
    | error raised =>
      rw [kept] at failed
      rw [← Except.error.inj failed]
      exact keeps_error time kept
    | ok keep =>
      rw [kept] at failed
      cases later : (events.map fun event => Json.dumpsChars event.asDict).mapM
          cleanup.judge with
      | error raised =>
        rw [later] at failed
        have same : raised = error := Except.error.inj failed
        subst same
        exact ih times later
      | ok judged =>
        rw [later] at failed
        cases failed

theorem keeps_ok {kept : Bool}
    (answered : cleanup.keeps event = .ok kept) : cleanup.Answers event := by
  intro old
  cases read : fromIsoformat event.occurredAt.1 with
  | none =>
    rw [read] at old
    cases old
  | some occurred =>
    have young : occurred < cleanup.cutoff := by simpa [read] using old
    simp only [keeps, read, young, if_true] at answered
    cases found : cleanup.hold event with
    | error error =>
      rw [found] at answered
      cases answered
    | ok hold => rfl

theorem mapM_judge_ok {judged : List (TelemetryEvent × Bool)}
    (answered : (events.map fun event => Json.dumpsChars event.asDict).mapM cleanup.judge =
      .ok judged) : ∀ event ∈ events, cleanup.Answers event := by
  induction events generalizing judged with
  | nil => exact fun _ listed => absurd listed not_mem_nil
  | cons first events ih =>
    rw [map_cons, mapM_cons, judge_dumps] at answered
    cases kept : cleanup.keeps first with
    | error raised =>
      rw [kept] at answered
      cases answered
    | ok keep =>
      rw [kept] at answered
      cases later : (events.map fun event => Json.dumpsChars event.asDict).mapM
          cleanup.judge with
      | error raised =>
        rw [later] at answered
        cases answered
      | ok rest => exact forall_mem_cons.mpr ⟨keeps_ok kept, ih later⟩

def remaining (cleanup : TelemetryCleanup) (events : List TelemetryEvent) :
    List TelemetryEvent :=
  if cleanup.dryRun then events else events.filter fun event => !cleanup.expires event

def removed (cleanup : TelemetryCleanup) (events : List TelemetryEvent) : List TelemetryEvent :=
  events.filter cleanup.expires

/-- The report names the removed events and the kept events. -/
def report (cleanup : TelemetryCleanup) (events : List TelemetryEvent) :
    List String × List String :=
  ((cleanup.removed events).map fun event => event.eventId.canonical,
    (events.filter fun event => !cleanup.expires event).map fun event => event.eventId.canonical)

section
variable {stream : TelemetryStream} {events : List TelemetryEvent}
  (journal : Journal stream events) (cleanup : TelemetryCleanup)
include journal

/-- An answered cleanup removes the old and released events and keeps the others. -/
theorem apply_answered (timed : ∀ event ∈ events, event.Timed)
    (answers : ∀ event ∈ events, cleanup.Answers event) :
    (cleanup.apply stream).1 = .ok (cleanup.report events) ∧
      Journal (cleanup.apply stream).2 (cleanup.remaining events) := by
  cases stream with
  | none =>
    have empty := journal.none_events
    subst empty
    have rest : cleanup.remaining [] = [] := by
      unfold remaining
      split_ifs <;> rfl
    rw [rest]
    exact ⟨rfl, Journal.absent⟩
  | some text =>
    have kept : ((events.map fun event => (event, !cleanup.expires event)).filter
        fun entry => entry.2).map Prod.fst = events.filter fun event => !cleanup.expires event := by
      simp [filter_map, Function.comp_def]
    have expired : ((events.map fun event => (event, !cleanup.expires event)).filter
        fun entry => !entry.2).map Prod.fst = cleanup.removed events := by
      simp [filter_map, Function.comp_def, removed]
    have judged := mapM_judge timed answers
    have written (left : List TelemetryEvent) :
        joinLines (left.map fun event => Json.dumpsChars event.asDict) = encodeAll left := by
      rw [encodeAll_eq, ← Json.joinLines_dumps, map_map]
      rfl
    simp only [apply, Option.isNone_some, Bool.false_eq_true, if_false, journal.size,
      journal.occupied, judged, kept, expired, written]
    have left : cleanup.remaining events = if cleanup.dryRun then events else
        events.filter fun event => !cleanup.expires event := rfl
    split_ifs with changed
    · simp only [Bool.and_eq_true, Bool.not_eq_true'] at changed
      rw [left, if_neg (by simp [changed.2])]
      exact ⟨rfl, journal.filter _⟩
    · have same : cleanup.remaining events = events := by
        rw [left]
        split_ifs with dry
        · rfl
        · have none : cleanup.removed events = [] := by simpa [dry] using changed
          rw [filter_eq_self]
          intro event listed
          simpa using filter_eq_nil_iff.mp none event listed
      rw [same]
      exact ⟨rfl, journal⟩

/-- A cleanup fails only on an unknown hold, and then it changes nothing. -/
theorem apply_error (timed : ∀ event ∈ events, event.Timed) {error : Raised}
    (failed : (cleanup.apply stream).1 = .error error) :
    error.code? = some .legalHoldUnknown ∧ (cleanup.apply stream).2 = stream := by
  cases stream with
  | none => cases failed
  | some text =>
    simp only [apply, Option.isNone_some, Bool.false_eq_true, if_false, journal.size,
      journal.occupied] at failed ⊢
    cases judged : (events.map fun event => Json.dumpsChars event.asDict).mapM cleanup.judge with
    | error raised =>
      simp only [judged] at failed ⊢
      have same : raised = error := Except.error.inj failed
      subst same
      exact ⟨mapM_judge_error timed judged, trivial⟩
    | ok marked =>
      simp only [judged] at failed
      split_ifs at failed

/-- A cleanup that returns had an answer for each old event. -/
theorem apply_ok {report : List String × List String}
    (done : (cleanup.apply stream).1 = .ok report) : ∀ event ∈ events, cleanup.Answers event := by
  cases stream with
  | none =>
    rw [journal.none_events]
    exact fun _ listed => absurd listed not_mem_nil
  | some text =>
    simp only [apply, Option.isNone_some, Bool.false_eq_true, if_false, journal.size,
      journal.occupied] at done
    cases judged : (events.map fun event => Json.dumpsChars event.asDict).mapM cleanup.judge with
    | error raised =>
      simp only [judged] at done
      cases done
    | ok marked => exact mapM_judge_ok judged

/-- One event without a calendar time stops every cleanup that reaches it. -/
theorem apply_untimed (answers : ∀ event ∈ events, cleanup.Answers event)
    {event : TelemetryEvent} (listed : event ∈ events) (untimed : ¬ event.Timed) : cleanup.apply stream = (.error malformed, stream) := by
  have failed : (events.map fun event => Json.dumpsChars event.asDict).mapM cleanup.judge =
      .error malformed := by
    clear journal
    induction events with
    | nil => exact absurd listed not_mem_nil
    | cons first events ih =>
      obtain ⟨answer, later⟩ := forall_mem_cons.mp answers
      rw [map_cons, mapM_cons, judge_dumps]
      by_cases timed : first.Timed
      · have rest : event ∈ events := by
          apply (mem_cons.mp listed).resolve_left
          rintro rfl
          exact untimed timed
        simp only [keeps_answered timed answer, ih later rest, Functor.map, Except.map,
          Bind.bind, Except.bind]
      · have unread : fromIsoformat first.occurredAt.1 = none := by
          simpa [TelemetryEvent.Timed] using timed
        simp only [keeps, unread, Functor.map, Except.map, Bind.bind, Except.bind]
  cases stream with
  | none =>
    rw [journal.none_events] at listed
    cases listed
  | some text =>
    simp only [apply, Option.isNone_some, Bool.false_eq_true, if_false, journal.size,
      journal.occupied, failed]

end
end TelemetryCleanup
end KSlide
