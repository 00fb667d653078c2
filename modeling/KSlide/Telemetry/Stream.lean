import KSlide.Deletion.Records
import KSlide.Telemetry.Mapping
import KSlide.Text.Calendar

/-
This file gives the central telemetry stream with its writer, its readers and its cleanup.
-/

namespace KSlide
open Text

def maxTelemetryEventBytes : Nat := 4096

def maxTelemetryStreamBytes : Nat := 64 * 1024 * 1024

def maxTelemetryRecords : Nat := 100000

inductive TelemetryWriteStatus where
  | recorded | idempotent | conflict | capacityLimit | corrupt | unavailable
deriving DecidableEq, Repr

/-- The stream file is absent or holds a text. -/
abbrev TelemetryStream := Option (List Char)

/-- The size that the filesystem reports. -/
def TelemetryStream.size (stream : TelemetryStream) : Nat := byteCount (stream.getD [])

def TelemetryStream.readText (stream : TelemetryStream) : List Char :=
  universalNewlines (stream.getD [])

/-- Empty lines are skipped by every reader. -/
def TelemetryStream.lines (stream : TelemetryStream) : List (List Char) :=
  splitLines stream.readText

namespace TelemetryEvent

def encode (event : TelemetryEvent) : List Char := Json.encodeLine event.asDict

def decode (line : List Char) : Except Raised TelemetryEvent :=
  match Json.loads line with
  | none => .error (.other "JSONDecodeError")
  | some value => fromMapping value

/-- The event fits in the byte bound of one line. -/
def Fits (event : TelemetryEvent) : Prop := byteCount event.encode ≤ maxTelemetryEventBytes

instance (event : TelemetryEvent) : Decidable event.Fits := inferInstanceAs (Decidable (_ ≤ _))

/-- The comparison of two events under one identity leaves their times out. -/
def sameReport (first second : TelemetryEvent) : Bool :=
  first.asDict.without "occurred_at" == second.asDict.without "occurred_at"

end TelemetryEvent

namespace TelemetryWriter

/-- The writer stops at the first line that answers the request or counts the lines. -/
def scan (checked : TelemetryEvent) : List (List Char) → Nat → TelemetryWriteStatus ⊕ Nat
  | [], count => .inr count
  | line :: lines, count =>
    if line.isEmpty then scan checked lines count
    else
      match TelemetryEvent.decode line with
      | .error _ => .inl .corrupt
      | .ok current =>
        if current.eventId = checked.eventId then
          .inl (if current.sameReport checked then .idempotent else .conflict)
        else scan checked lines (count + 1)

/-- A storage that does not answer loses the event and nothing else. -/
def recordChecked (available : Bool) (stream : TelemetryStream) (checked : TelemetryEvent) :
    TelemetryWriteStatus × TelemetryStream :=
  let line := checked.encode
  if maxTelemetryEventBytes < byteCount line then (.capacityLimit, stream)
  else if !available then (.unavailable, stream)
  else if maxTelemetryStreamBytes < stream.size then (.capacityLimit, stream)
  else
    let existing := stream.readText
    if maxTelemetryStreamBytes < byteCount existing then (.capacityLimit, stream)
    else
      match scan checked (splitLines existing) 0 with
      | .inl status => (status, stream)
      | .inr count =>
        if maxTelemetryRecords ≤ count ∨
            maxTelemetryStreamBytes < byteCount existing + byteCount line then
          (.capacityLimit, stream)
        else (.recorded, some (existing ++ line))

end TelemetryWriter

/-- The writer takes an event or a mapping that describes one. -/
inductive TelemetryInput where
  | event (event : TelemetryEvent)
  | mapping (value : Json)

def TelemetryInput.check : TelemetryInput → Except Raised TelemetryEvent
  | .event given => .ok given
  | .mapping value => TelemetryEvent.fromMapping value

namespace TelemetryWriter

def record (available : Bool) (stream : TelemetryStream) (input : TelemetryInput) :
    Except Raised TelemetryWriteStatus × TelemetryStream :=
  match input.check with
  | .error error => (.error error, stream)
  | .ok checked =>
    let (status, written) := recordChecked available stream checked
    (.ok status, written)

/-- A stream beyond its bounds reads as no records. -/
def records (stream : TelemetryStream) : Except Raised (List TelemetryEvent) :=
  if maxTelemetryStreamBytes < stream.size then .ok []
  else if maxTelemetryRecords < stream.lines.length then .ok []
  else (stream.lines.filter fun line => !line.isEmpty).mapM TelemetryEvent.decode

def reported (eventId : TelemetryReference .event) (runRef : TelemetryReference .run)
    (event : TelemetryEvent) : Bool :=
  event.eventId = eventId && event.runRef = some runRef && event.eventType = .issueReport

def findLine (eventId : TelemetryReference .event) (runRef : TelemetryReference .run) :
    List (List Char) → Except Raised (Option TelemetryEvent)
  | [] => .ok none
  | line :: lines =>
    if line.isEmpty then findLine eventId runRef lines
    else do
      let event ← TelemetryEvent.decode line
      if reported eventId runRef event then .ok (some event) else findLine eventId runRef lines

/-- The lookup finds an issue report of one run. -/
def find (stream : TelemetryStream) (eventId : TelemetryReference .event)
    (runRef : TelemetryReference .run) : Except Raised (Option TelemetryEvent) := do
  if stream.isNone then .ok none
  else
    require (stream.size ≤ maxTelemetryStreamBytes)
      (.corrupt "Central telemetry stream exceeds its byte bound.")
    require (stream.lines.length ≤ maxTelemetryRecords)
      (.corrupt "Central telemetry stream exceeds its record bound.")
    findLine eventId runRef stream.lines

end TelemetryWriter

/-- One cleanup has a cutoff and the answers that the hold provider gives for each event. -/
structure TelemetryCleanup where
  scopeRef : String
  cutoff : Nat
  lookup : TelemetryEvent → Except Raised LegalHoldDecision
  dryRun : Bool

namespace TelemetryCleanup

def hold (cleanup : TelemetryCleanup) (event : TelemetryEvent) :
    Except Raised LegalHoldDecision :=
  let heldScope := (event.scopeRef.map TelemetryReference.canonical).getD cleanup.scopeRef
  let heldRun := (event.runRef.map TelemetryReference.canonical).getD event.eventId.canonical
  safeHold (cleanup.lookup event) heldScope heldRun

def malformed : Raised :=
  .corrupt "Central telemetry record is malformed or has an invalid timestamp."

/-- A line is kept when it is young or when its hold is not released. -/
def keeps (cleanup : TelemetryCleanup) (event : TelemetryEvent) : Except Raised Bool :=
  match fromIsoformat event.occurredAt.1 with
  | none => .error malformed
  | some occurred =>
    if occurred < cleanup.cutoff then do
      let hold ← cleanup.hold event
      .ok (hold.status != .release)
    else .ok true

def judge (cleanup : TelemetryCleanup) (line : List Char) :
    Except Raised (TelemetryEvent × Bool) :=
  match TelemetryEvent.decode line with
  | .error _ => .error malformed
  | .ok event => do
    let kept ← cleanup.keeps event
    .ok (event, kept)

/-- The cleanup reports the removed and the kept identities and replaces the stream once. -/
def apply (cleanup : TelemetryCleanup) (stream : TelemetryStream) :
    Except Raised (List String × List String) × TelemetryStream :=
  if stream.isNone then (.ok ([], []), stream)
  else if maxTelemetryStreamBytes < stream.size then
    (.error (.corrupt "Central telemetry stream exceeds its byte bound."), stream)
  else
    match (stream.lines.filter fun line => !line.isEmpty).mapM cleanup.judge with
    | .error error => (.error error, stream)
    | .ok judged =>
      let kept := (judged.filter fun entry => entry.2).map Prod.fst
      let expired := (judged.filter fun entry => !entry.2).map Prod.fst
      let report := (expired.map fun event => event.eventId.canonical,
        kept.map fun event => event.eventId.canonical)
      if !expired.isEmpty && !cleanup.dryRun then
        (.ok report, some (joinLines (kept.map fun event => Json.dumpsChars event.asDict)))
      else (.ok report, stream)

end TelemetryCleanup
end KSlide
