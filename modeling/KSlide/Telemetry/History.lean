import KSlide.Telemetry.Journal

/-
This file gives the runs of the telemetry service and shows what its stream holds in each of them.
-/

namespace KSlide
open Text List

inductive TelemetryCall where
  | record (available : Bool) (input : TelemetryInput)
  | records
  | find (eventId : TelemetryReference .event) (runRef : TelemetryReference .run)
  | cleanup (pass : TelemetryCleanup)

inductive TelemetryAnswer where
  | recorded (status : Except Raised TelemetryWriteStatus)
  | listed (events : Except Raised (List TelemetryEvent))
  | found (event : Except Raised (Option TelemetryEvent))
  | cleaned (report : Except Raised (List String × List String))

def TelemetryCall.perform (call : TelemetryCall) (stream : TelemetryStream) :
    TelemetryAnswer × TelemetryStream :=
  match call with
  | .record available input =>
    let (status, written) := TelemetryWriter.record available stream input
    (.recorded status, written)
  | .records => (.listed (TelemetryWriter.records stream), stream)
  | .find eventId runRef => (.found (TelemetryWriter.find stream eventId runRef), stream)
  | .cleanup pass =>
    let (report, cleaned) := pass.apply stream
    (.cleaned report, cleaned)

/-- The log of a run has the stream file and every call with its answer. -/
structure TelemetryLog where
  stream : TelemetryStream
  history : List (TelemetryCall × TelemetryAnswer)

namespace TelemetryLog

def step (log : TelemetryLog) (call : TelemetryCall) : TelemetryLog :=
  let (answer, stream) := call.perform log.stream
  ⟨stream, log.history ++ [(call, answer)]⟩

/-- A run begins before the first event. -/
def run (calls : List TelemetryCall) : TelemetryLog := calls.foldl step ⟨none, []⟩

@[simp] theorem run_nil : run [] = ⟨none, []⟩ := rfl

@[simp] theorem run_append (calls : List TelemetryCall) (call : TelemetryCall) :
    run (calls ++ [call]) = (run calls).step call := by
  simp [run]

/-- A recorded event is live until a cleanup removes it. -/
def afterAnswer (events : List TelemetryEvent) :
    TelemetryCall × TelemetryAnswer → List TelemetryEvent
  | (.record _ input, .recorded (.ok .recorded)) => events ++ input.check.toOption.toList
  | (.cleanup pass, .cleaned (.ok _)) => pass.remaining events
  | _ => events

def live (log : TelemetryLog) : List TelemetryEvent := log.history.foldl afterAnswer []

theorem live_step (log : TelemetryLog) (call : TelemetryCall) :
    (log.step call).live = afterAnswer log.live (call, (call.perform log.stream).1) := by
  simp [live, step]

end TelemetryLog

/-- The writer can record the event and can read it for ever. -/
def TelemetryEvent.Sound (events : List TelemetryEvent) (event : TelemetryEvent) : Prop :=
  ((∃ prior ∈ events, prior.eventId = event.eventId) → event.Fits) ∧
    ((∀ prior ∈ events, prior.eventId ≠ event.eventId) → event.Fits →
      TelemetryWriter.Room events event → event.Timed)

/-- A call of the writer is sound when each event that it can store is sound. -/
def TelemetryCall.Sound (log : TelemetryLog) : TelemetryCall → Prop
  | .record true input => ∀ event, input.check = .ok event → event.Sound log.live
  | _ => True

/-- Each call of the run is sound where it is made. -/
def SoundRun (calls : List TelemetryCall) : Prop :=
  ∀ before call after, calls = before ++ call :: after → call.Sound (TelemetryLog.run before)

theorem SoundRun.init {calls : List TelemetryCall} {call : TelemetryCall}
    (sound : SoundRun (calls ++ [call])) : SoundRun calls ∧ call.Sound (TelemetryLog.run calls) := by
  constructor
  · intro before made after split
    apply sound before made (after ++ [call])
    rw [split, append_assoc, cons_append]
  · exact sound calls call [] rfl

variable {log : TelemetryLog}

/-- A record call stores a sound event or leaves the stream and the live events alone. -/
theorem record_step (journal : Journal log.stream log.live)
    (available : Bool) (input : TelemetryInput) :
    ((log.step (.record available input)).stream = log.stream ∧
      (log.step (.record available input)).live = log.live) ∨
    ∃ event, available = true ∧ input.check = .ok event ∧ event.Fits ∧
      (∀ prior ∈ log.live, prior.eventId ≠ event.eventId) ∧
      TelemetryWriter.Room log.live event ∧
      (log.step (.record available input)).stream = some (encodeAll log.live ++ event.encode) ∧
      (log.step (.record available input)).live = log.live ++ [event] := by
  rw [TelemetryLog.live_step]
  simp only [TelemetryLog.step, TelemetryCall.perform, TelemetryWriter.record]
  cases read : input.check with
  | error error => exact Or.inl ⟨rfl, rfl⟩
  | ok event =>
    by_cases recorded : (TelemetryWriter.recordChecked available log.stream event).1 = .recorded
    · obtain ⟨rfl, fits, fresh, room⟩ :=
        TelemetryWriter.recordChecked_recorded journal recorded
      have written := TelemetryWriter.recordChecked_fresh journal fresh fits room
      right
      refine ⟨event, rfl, rfl, fits, fresh, room, ?_, ?_⟩
      · simp [written]
      · simp [written, TelemetryLog.afterAnswer, read, Except.toOption]
    · have same := (TelemetryWriter.recordChecked_unchanged available log.stream event).resolve_left
        recorded
      left
      constructor
      · exact same
      · dsimp only
        generalize (TelemetryWriter.recordChecked available log.stream event).1 = status at recorded
        cases status <;> first | rfl | exact absurd rfl recorded

/-- The live events of a sound run have calendar times. -/
structure Timely (log : TelemetryLog) : Prop where
  journal : Journal log.stream log.live
  timed : ∀ event ∈ log.live, event.Timed

/-- A cleanup leaves the events that it keeps. -/
theorem cleanup_step (timely : Timely log) (pass : TelemetryCleanup) :
    Timely (log.step (.cleanup pass)) := by
  have live := TelemetryLog.live_step log (.cleanup pass)
  cases outcome : (pass.apply log.stream).1 with
  | error error =>
    have same := (pass.apply_error timely.journal timely.timed outcome).2
    have stream : (log.step (.cleanup pass)).stream = log.stream := same
    have kept : (log.step (.cleanup pass)).live = log.live := by
      rw [live]
      simp only [TelemetryCall.perform, outcome, TelemetryLog.afterAnswer]
    constructor
    · rw [stream, kept]
      exact timely.journal
    · rw [kept]
      exact timely.timed
  | ok report =>
    have answers := pass.apply_ok timely.journal outcome
    have applied := (pass.apply_answered timely.journal timely.timed answers).2
    have kept : (log.step (.cleanup pass)).live = pass.remaining log.live := by
      rw [live]
      simp only [TelemetryCall.perform, outcome, TelemetryLog.afterAnswer]
    constructor
    · rw [kept]
      exact applied
    · rw [kept]
      intro event listed
      unfold TelemetryCleanup.remaining at listed
      split_ifs at listed
      · exact timely.timed event listed
      · exact timely.timed event (mem_of_mem_filter listed)

/-- One sound call keeps the stream a journal of timed events. -/
theorem timely_step (timely : Timely log) {call : TelemetryCall}
    (sound : call.Sound log) : Timely (log.step call) := by
  cases call with
  | record available input =>
    rcases record_step timely.journal available input with ⟨stream, live⟩ |
      ⟨event, rfl, read, fits, fresh, room, stream, live⟩
    · constructor
      · rw [stream, live]
        exact timely.journal
      · rw [live]
        exact timely.timed
    · have time : event.Timed := (sound event read).2 fresh fits room
      constructor
      · rw [stream, live]
        exact TelemetryWriter.append_journal timely.journal fresh room
      · rw [live]
        intro other listed
        rcases mem_append.mp listed with listed | listed
        · exact timely.timed other listed
        · rw [mem_singleton.mp listed]
          exact time
  | records =>
    have live : (log.step .records).live = log.live := TelemetryLog.live_step log .records
    constructor
    · rw [live]
      exact timely.journal
    · rw [live]
      exact timely.timed
  | find eventId runRef =>
    have live : (log.step (.find eventId runRef)).live = log.live :=
      TelemetryLog.live_step log (.find eventId runRef)
    constructor
    · rw [live]
      exact timely.journal
    · rw [live]
      exact timely.timed
  | cleanup pass => exact cleanup_step timely pass

/-- The stream of a sound run is a journal of its live events. -/
theorem timely_run (calls : List TelemetryCall) (sound : SoundRun calls) :
    Timely (TelemetryLog.run calls) := by
  induction calls using List.reverseRecOn with
  | nil => exact ⟨Journal.absent, fun _ listed => absurd listed not_mem_nil⟩
  | append_singleton calls call ih =>
    obtain ⟨before, last⟩ := sound.init
    rw [TelemetryLog.run_append]
    exact timely_step (ih before) last

/-- Every reader accepts the stream, and every cleanup can finish on it. -/
structure Processable (log : TelemetryLog) : Prop where
  distinct : (log.live.map fun event => event.eventId).Nodup
  bounded : log.live.length ≤ maxTelemetryRecords ∧ log.stream.size ≤ maxTelemetryStreamBytes
  read : TelemetryWriter.records log.stream = .ok log.live
  found : ∀ event ∈ log.live, ∀ runRef, event.runRef = some runRef →
    event.eventType = .issueReport →
      TelemetryWriter.find log.stream event.eventId runRef = .ok (some event)
  cleaned : ∀ pass : TelemetryCleanup, (∀ event ∈ log.live, pass.Answers event) →
    (pass.apply log.stream).1 = .ok (pass.report log.live) ∧
      TelemetryWriter.records (pass.apply log.stream).2 = .ok (pass.remaining log.live)
  uncorrupted : ∀ (pass : TelemetryCleanup) (error : Raised),
    (pass.apply log.stream).1 = .error error →
      error.code? = some .legalHoldUnknown ∧ (pass.apply log.stream).2 = log.stream

/-- A repeated event changes nothing, and the answer tells whether it is the same event. -/
def TelemetryCall.Served (log : TelemetryLog) : TelemetryCall → Prop
  | .record true input => ∀ event, input.check = .ok event → ∀ prior ∈ log.live,
      prior.eventId = event.eventId →
        TelemetryWriter.record true log.stream input =
          (.ok (if prior.retimed event.occurredAt = event then .idempotent else .conflict),
            log.stream)
  | _ => True

theorem processable (timely : Timely log) : Processable log where
  distinct := timely.journal.distinct
  bounded := ⟨timely.journal.records, Nat.not_lt.mp timely.journal.size⟩
  read := TelemetryWriter.records_journal timely.journal
  found := by
    intro event listed runRef run report
    rw [TelemetryWriter.find_journal timely.journal]
    have present : (log.live.find? (TelemetryWriter.reported event.eventId runRef)).isSome := by
      rw [find?_isSome]
      exact ⟨event, listed, by simp [TelemetryWriter.reported, run, report]⟩
    obtain ⟨other, met⟩ := Option.isSome_iff_exists.mp present
    have matched : TelemetryWriter.reported event.eventId runRef other = true := find?_some met
    simp only [TelemetryWriter.reported, Bool.and_eq_true, decide_eq_true_eq] at matched
    have only : other = event := inj_on_of_nodup_map timely.journal.distinct
      (mem_of_find?_eq_some met) listed matched.1.1
    rw [met, only]
  cleaned := by
    intro pass answers
    obtain ⟨report, journal⟩ := pass.apply_answered timely.journal timely.timed answers
    exact ⟨report, TelemetryWriter.records_journal journal⟩
  uncorrupted := fun pass _ failed => pass.apply_error timely.journal timely.timed failed

theorem served (timely : Timely log) {call : TelemetryCall}
    (sound : call.Sound log) : call.Served log := by
  cases call with
  | record available input =>
    cases available with
    | false => trivial
    | true =>
      intro event read prior listed same
      have fits : event.Fits := (sound event read).1 ⟨prior, listed, same⟩
      simp only [TelemetryWriter.record, read]
      rw [TelemetryWriter.recordChecked_listed timely.journal listed same fits]
  | _ => trivial

/-- An unsound call is answered wrongly or leaves a stream that no cleanup can finish. -/
theorem unsound (timely : Timely log) {call : TelemetryCall}
    (served : call.Served log) (next : Processable (log.step call)) : call.Sound log := by
  cases call with
  | record available input =>
    cases available with
    | false => trivial
    | true =>
      intro event read
      constructor
      · rintro ⟨prior, listed, same⟩
        by_contra long
        have answer := served event read prior listed same
        have beyond : maxTelemetryEventBytes < byteCount event.encode := Nat.not_le.mp long
        simp only [TelemetryWriter.record, read, TelemetryWriter.recordChecked, beyond,
          if_true] at answer
        split_ifs at answer <;> cases answer
      · intro fresh fits room
        by_contra untimed
        have written := TelemetryWriter.recordChecked_fresh timely.journal fresh fits room
        have stream : (log.step (.record true input)).stream =
            some (encodeAll log.live ++ event.encode) := by
          simp [TelemetryLog.step, TelemetryCall.perform, TelemetryWriter.record, read, written]
        have journal := TelemetryWriter.append_journal timely.journal fresh room
        rw [← stream] at journal
        let pass : TelemetryCleanup := ⟨"workspace", 0, fun _ => .error (.other "lookup"), true⟩
        have last : event ∈ log.live ++ [event] :=
          mem_append_right _ mem_cons_self
        have answers : ∀ other ∈ log.live ++ [event], pass.Answers other := by
          intro other _ early
          cases read : fromIsoformat other.occurredAt.1 <;> simp [read, pass] at early
        have stopped := pass.apply_untimed journal answers last untimed
        have code := (next.uncorrupted pass _ (congrArg Prod.fst stopped)).1
        cases code
  | _ => trivial

/-- In every sound run the stream is processable, and one more call keeps it so exactly when
the call is sound. -/
theorem stream_processable (calls : List TelemetryCall) (sound : SoundRun calls) :
    Processable (TelemetryLog.run calls) ∧
      ∀ call : TelemetryCall, call.Sound (TelemetryLog.run calls) ↔
        call.Served (TelemetryLog.run calls) ∧
          Processable (TelemetryLog.run (calls ++ [call])) := by
  have timely := timely_run calls sound
  constructor
  · exact processable timely
  · intro call
    rw [TelemetryLog.run_append]
    constructor
    · intro next
      exact ⟨served timely next, processable (timely_step timely next)⟩
    · rintro ⟨answered, kept⟩
      exact unsound timely answered kept

/-- A time that matches the pattern and names no day of the calendar. -/
def leapless : TelemetryTime := ⟨"2026-02-30T00:00:00Z", by decide⟩

/-- A plain event with one reference, which is its own. -/
def sampleEvent (time : TelemetryTime) : TelemetryEvent where
  eventType := .lifecycle
  eventId := ⟨"0000000000000000000000000000000000000000000000000000000000000000", by decide⟩
  occurredAt := time
  deploymentRef := none
  runtimeRef := none
  modelRef := none
  runRef := none
  workerRef := none
  lifecycle := none
  errorCode := none
  stage := none
  scopeRef := none
  candidateRef := none
  host := none
  artifactClass := none
  semanticOutcome := none
  reviewCategory := none
  issueCategory := none
  issueReportStatus := none
  consistent := rfl
  durationMs := none
  count := none
  resourceUnits := none
  retryAttempt := none

def sampleDay : TelemetryTime := ⟨"2026-02-28T00:00:00Z", by decide⟩

def sampleCalls : List TelemetryCall := [.record true (.event (sampleEvent sampleDay)), .records]

theorem sampleCalls_sound : SoundRun sampleCalls := by
  have timed : (sampleEvent sampleDay).Timed := by decide +kernel
  intro before call after split
  cases before with
  | nil =>
    obtain ⟨rfl, _⟩ := List.cons.inj split
    intro event read
    cases read
    constructor
    · rintro ⟨prior, listed, _⟩
      cases listed
    · intro _ _ _
      exact timed
  | cons first before =>
    obtain ⟨_, rest⟩ := List.cons.inj split
    cases before with
    | nil =>
      obtain ⟨rfl, _⟩ := List.cons.inj rest
      trivial
    | cons second before => simp at rest

theorem stream_processable_sample : SoundRun sampleCalls ∧ Processable (TelemetryLog.run sampleCalls) :=
  ⟨sampleCalls_sound, (stream_processable sampleCalls sampleCalls_sound).1⟩

/-- The writer records the event without a calendar day, and then no cleanup can finish. -/
theorem leapless_stops_cleanup :
    let calls := [TelemetryCall.record true (.event (sampleEvent leapless))]
    (TelemetryLog.run calls).live = [sampleEvent leapless] ∧
      ∀ pass : TelemetryCleanup, pass.apply (TelemetryLog.run calls).stream =
        (.error (.corrupt
          "Central telemetry record is malformed or has an invalid timestamp."),
          (TelemetryLog.run calls).stream) := by
  have fits : (sampleEvent leapless).Fits := by decide +kernel
  have untimed : ¬ (sampleEvent leapless).Timed := by decide +kernel
  have fresh : ∀ event ∈ ([] : List TelemetryEvent), event.eventId ≠ (sampleEvent leapless).eventId :=
    fun _ listed => absurd listed not_mem_nil
  have room : TelemetryWriter.Room [] (sampleEvent leapless) := by
    have small : byteCount (sampleEvent leapless).encode ≤ maxTelemetryEventBytes := fits
    have bound : maxTelemetryEventBytes ≤ maxTelemetryStreamBytes := by decide
    constructor
    · decide
    · have empty : byteCount (encodeAll []) = 0 := rfl
      rw [empty, Nat.zero_add]
      exact Nat.le_trans small bound
  have written := TelemetryWriter.recordChecked_fresh Journal.absent fresh fits room
  have journal := TelemetryWriter.append_journal Journal.absent fresh room
  intro calls
  have stream : (TelemetryLog.run calls).stream = some ([] ++ (sampleEvent leapless).encode) := by
    simp [calls, TelemetryLog.run, TelemetryLog.step, TelemetryCall.perform,
      TelemetryWriter.record, TelemetryInput.check, written, encodeAll]
  have live : (TelemetryLog.run calls).live = [sampleEvent leapless] := by
    simp [calls, TelemetryLog.run, TelemetryLog.live, TelemetryLog.step, TelemetryCall.perform,
      TelemetryLog.afterAnswer, TelemetryWriter.record, TelemetryInput.check, written,
      Except.toOption]
  constructor
  · exact live
  · intro pass
    rw [stream]
    have answers : ∀ event ∈ [sampleEvent leapless], pass.Answers event := by
      intro event listed old
      rw [mem_singleton.mp listed] at old
      have unread : fromIsoformat (sampleEvent leapless).occurredAt.1 = none := by
        simpa [TelemetryEvent.Timed] using untimed
      rw [unread] at old
      cases old
    exact pass.apply_untimed journal answers mem_cons_self untimed

end KSlide
