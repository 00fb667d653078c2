import KSlide.Telemetry.Event

/-
This file reads events from mappings and shows that a stored event reads back unchanged.
-/

namespace KSlide
open Text List

/-- A field name counts by its lower-case letters and digits. -/
def loweredLetter (letter : Char) : List Char :=
  if isUpper letter then [letter.toLower]
  else if isLower letter || isDigit letter then [letter]
  -- These two letters become basic letters in lower case.
  else if letter.toNat = 304 then ['i']
  else if letter.toNat = 8490 then ['k']
  else []

def normalizedName (name : String) : String := String.ofList (name.toList.flatMap loweredLetter)

def normalizedAllowedFields : List String := allowedFields.map normalizedName

mutual
/-- Content-shaped values are refused before any of them is read. -/
def rejectContentTree : Json → Except Raised Unit
  | .obj fields => rejectContentFields fields
  | .arr _ => .error (.invalid "Telemetry does not accept arbitrary nested collections.")
  | _ => .ok ()

def rejectContentFields : List (String × Json) → Except Raised Unit
  | [] => .ok ()
  | (key, value) :: rest => do
    require (normalizedName key ∈ normalizedAllowedFields)
      (.invalid "Telemetry contains an unknown or content-shaped field.")
    rejectContentTree value
    rejectContentFields rest
end

/-- An absent value stays absent. -/
def optionally {Value : Type} (read : Json → Except Raised Value) :
    Json → Except Raised (Option Value)
  | .null => .ok none
  | value => some <$> read value

def readReference (label : String) (kind : TelemetryReferenceKind) (value : Json) :
    Except Raised (TelemetryReference kind) :=
  let error := Raised.invalid ("Telemetry " ++ label ++ " must be a canonical opaque identity.")
  match value with
  | .str text => (TelemetryReference.fromCanonical kind text).elim (.error error) .ok
  | _ => .error error

def readMember (Member : Type) [Enumeration Member] (error : Raised) (value : Json) :
    Except Raised Member :=
  match value with
  | .str text => (Enumeration.parse Member text).elim (.error error) .ok
  | _ => .error error

def readCode (Member : Type) [Enumeration Member] (label : String) (value : Json) :
    Except Raised Member :=
  readMember Member (.invalid ("Telemetry " ++ label ++ " is not an allowed bounded code.")) value

def readErrorCode (value : Json) : Except Raised TelemetryErrorCode :=
  let error := Raised.invalid "Telemetry error code is not an allowed K-Slide error code."
  match value with
  | .str text =>
    if known : text ∈ ErrorCode.all.map ErrorCode.value then .ok ⟨text, known⟩ else .error error
  | _ => .error error

def readTime (value : Json) : Except Raised TelemetryTime :=
  let error := Raised.invalid "Telemetry timestamp is invalid."
  match value with
  | .str text => if shaped : isTimestamp text = true then .ok ⟨text, shaped⟩ else .error error
  | _ => .error error

/-- Truth values are integers of the source language and are refused here. -/
def boundedInt (label : String) (value : Json) : Except Raised TelemetryCount :=
  let error := Raised.invalid ("Telemetry " ++ label ++ " is outside the bounded range.")
  match value with
  | .int (.ofNat number) =>
    if bounded : number ≤ maximumCount then .ok ⟨number, bounded⟩ else .error error
  | _ => .error error

def readStatus (value : Json) : Except Raised TelemetryIssueReportStatus :=
  readMember TelemetryIssueReportStatus
    (.invalid "Employee issue reports must remain unadjudicated allegations.") value

/-- The constructor keeps the proof that the fields fit together. -/
def TelemetryFields.checked (fields : TelemetryFields) :
    Except Raised {fields : TelemetryFields // fields.check = .ok ()} :=
  match consistent : fields.check with
  | .ok () => .ok ⟨fields, consistent⟩
  | .error error => .error error

namespace TelemetryEvent

/-- The constructor checks the given values in the order of the source. -/
def construct (value : Json) : Except Raised TelemetryEvent := do
  let given := fun field : TelemetryField => value.field field.value
  require ((value.get? "schema_version").getD (.str "1.0") == .str "1.0")
    (.unsupported "Unsupported telemetry schema version.")
  let eventType ← readMember TelemetryEventType
    (.invalid "Telemetry event type is unsupported.") (given .eventType)
  let eventId ← readReference "event ID" .event (given .eventId)
  let occurredAt ← readTime (given .occurredAt)
  let deploymentRef ← optionally (readReference "deployment reference" .deployment)
    (given .deploymentRef)
  let runtimeRef ← optionally (readReference "runtime reference" .runtime) (given .runtimeRef)
  let modelRef ← optionally (readReference "model reference" .model) (given .modelRef)
  let runRef ← optionally (readReference "run reference" .run) (given .runRef)
  let workerRef ← optionally (readReference "worker reference" .worker) (given .workerRef)
  let scopeRef ← optionally (readReference "scope reference" .scope) (given .scopeRef)
  let candidateRef ← optionally (readReference "candidate reference" .candidate)
    (given .candidateRef)
  let lifecycle ← optionally (readCode TelemetryLifecycle "lifecycle") (given .lifecycle)
  let stage ← optionally (readCode TelemetryStage "stage") (given .stage)
  let errorCode ← optionally readErrorCode (given .errorCode)
  let host ← optionally (readCode TelemetryHost "host") (given .host)
  let artifactClass ← optionally (readCode TelemetryArtifactClass "artifact class")
    (given .artifactClass)
  let semanticOutcome ← optionally (readCode TelemetrySemanticOutcome "semantic outcome")
    (given .semanticOutcome)
  let reviewCategory ← optionally (readCode TelemetryReviewCategory "review category")
    (given .reviewCategory)
  let issueCategory ← optionally (readCode TelemetryIssueCategory "issue category")
    (given .issueCategory)
  let issueReportStatus ← optionally readStatus (given .issueReportStatus)
  let fields ← TelemetryFields.checked
    { eventType, eventId, occurredAt, deploymentRef, runtimeRef, modelRef, runRef, workerRef,
      lifecycle, errorCode, stage, scopeRef, candidateRef, host, artifactClass, semanticOutcome,
      reviewCategory, issueCategory, issueReportStatus }
  let durationMs ← optionally (boundedInt "duration") (given .durationMs)
  let count ← optionally (boundedInt "count") (given .count)
  let resourceUnits ← optionally (boundedInt "resource use") (given .resourceUnits)
  let retryAttempt ← optionally (boundedInt "retry attempt") (given .retryAttempt)
  pure { fields.1 with consistent := fields.2, durationMs, count, resourceUnits, retryAttempt }

/-- A mapping becomes an event only when it has no unknown field and no content. -/
def fromMapping (value : Json) : Except Raised TelemetryEvent := do
  require value.isObject (.invalid "Telemetry event must be an explicit event object.")
  rejectContentTree value
  require (value.keys.all (· ∈ allowedFields))
    (.invalid "Telemetry event contains unsupported fields.")
  require (["event_type", "event_id", "occurred_at"].all fun name => (value.get? name).isSome)
    (.invalid "Telemetry event has an invalid shape.")
  construct value

end TelemetryEvent

@[simp] theorem optionally_null {Value : Type} (read : Json → Except Raised Value) :
    optionally read .null = .ok none := rfl

@[simp] theorem readReference_identity (label : String) {kind : TelemetryReferenceKind}
    (reference : TelemetryReference kind) :
    readReference label kind (TelemetryEvent.identity reference) = .ok reference := by
  simp [readReference, TelemetryEvent.identity]

@[simp] theorem readMember_code {Member : Type} [Enumeration Member] (error : Raised)
    (member : Member) : readMember Member error (TelemetryEvent.code member) = .ok member := by
  simp [readMember, TelemetryEvent.code]

@[simp] theorem readErrorCode_str (code : TelemetryErrorCode) :
    readErrorCode (.str code.1) = .ok code := by
  simp only [readErrorCode, code.2, dite_true]

@[simp] theorem readTime_str (time : TelemetryTime) : readTime (.str time.1) = .ok time := by
  simp only [readTime, time.2, dite_true]

@[simp] theorem boundedInt_amount (label : String) (count : TelemetryCount) :
    boundedInt label (TelemetryEvent.amount count) = .ok count := by
  have bounded : count.1 ≤ maximumCount := count.2
  simp only [boundedInt, TelemetryEvent.amount, bounded, dite_true]

theorem optionally_map {Value : Type} {read : Json → Except Raised Value} {write : Value → Json}
    (reads : ∀ value, read (write value) = .ok value) (present : ∀ value, write value ≠ .null)
    (value : Option Value) : optionally read ((value.map write).getD .null) = .ok value := by
  cases value with
  | none => rfl
  | some value =>
    have found := reads value
    have other := present value
    simp only [Option.map_some, Option.getD_some]
    unfold optionally
    split
    · contradiction
    · rw [found]
      rfl

theorem checked_consistent {fields : TelemetryFields} (consistent : fields.check = .ok ()) :
    fields.checked = .ok ⟨fields, consistent⟩ := by
  unfold TelemetryFields.checked
  split
  · rfl
  · rename_i error found
    rw [consistent] at found
    cases found

namespace TelemetryEvent

variable (event : TelemetryEvent)

@[simp] theorem field_asDict (field : TelemetryField) :
    event.asDict.field field.value = (event.value field).getD .null := by
  have found : event.asDict.get? field.value = event.value field := Json.get?_ofFields event.value field
  rw [Json.field, found]

theorem construct_asDict : construct event.asDict = .ok event := by
  have version : event.asDict.get? "schema_version" = some (.str "1.0") :=
    Json.get?_ofFields event.value .schemaVersion
  have reference (label : String) {kind : TelemetryReferenceKind}
      (value : Option (TelemetryReference kind)) :
      optionally (readReference label kind) ((value.map identity).getD .null) = .ok value :=
    optionally_map (readReference_identity label) (by simp [identity]) value
  have coded (Member : Type) [Enumeration Member] (label : String) (value : Option Member) :
      optionally (readCode Member label) ((value.map code).getD .null) = .ok value :=
    optionally_map (readMember_code _) (by simp [code]) value
  have status (value : Option TelemetryIssueReportStatus) :
      optionally readStatus ((value.map code).getD .null) = .ok value :=
    optionally_map (readMember_code _) (by simp [code]) value
  have failed (value : Option TelemetryErrorCode) :
      optionally readErrorCode ((value.map fun code => .str code.1).getD .null) = .ok value :=
    optionally_map readErrorCode_str (by simp) value
  have bounded (label : String) (value : Option TelemetryCount) :
      optionally (boundedInt label) ((value.map amount).getD .null) = .ok value :=
    optionally_map (boundedInt_amount label) (by simp [amount]) value
  unfold construct
  simp only [version, field_asDict, value, Option.getD_some, beq_self_eq_true, readMember_code,
    readReference_identity, readTime_str, reference, coded, status, failed, bounded, require,
    if_true, Bind.bind, Except.bind]
  rw [checked_consistent event.consistent]
  rfl

theorem value_scalar {event : TelemetryEvent} {field : TelemetryField} {found : Json}
    (stored : event.value field = some found) :
    (∃ text, found = .str text) ∨ ∃ number, found = .int number := by
  cases field <;> simp only [value, Option.map_eq_some_iff, Option.some.injEq] at stored <;>
    grind [code, identity, amount]

theorem rejectContentTree_asDict : rejectContentTree event.asDict = .ok () := by
  have each (fields : List (String × Json)) (known : ∀ entry ∈ fields, entry.1 ∈ allowedFields ∧
      ((∃ text, entry.2 = .str text) ∨ ∃ number, entry.2 = .int number)) :
      rejectContentFields fields = .ok () := by
    induction fields with
    | nil => rfl
    | cons entry fields ih =>
      obtain ⟨key, found⟩ := entry
      have later := ih fun entry listed => known entry (mem_cons_of_mem _ listed)
      obtain ⟨allowed, scalar⟩ := known _ mem_cons_self
      have named : normalizedName key ∈ normalizedAllowedFields := mem_map_of_mem allowed
      rcases scalar with ⟨text, rfl⟩ | ⟨number, rfl⟩
      · simp [rejectContentFields, rejectContentTree, named, later]
      · simp [rejectContentFields, rejectContentTree, named, later]
  apply each
  intro entry listed
  obtain ⟨field, _, found, stored, rfl⟩ := Json.mem_presentFields.mp listed
  exact ⟨mem_map_of_mem (TelemetryField.mem_all field), value_scalar stored⟩

theorem keys_asDict : event.asDict.keys.all (· ∈ allowedFields) = true := by
  rw [all_eq_true]
  intro key listed
  have present := (Json.keys_presentFields event.value TelemetryField.all).subset listed
  exact decide_eq_true present

/-- A stored event reads back unchanged. -/
@[simp] theorem fromMapping_asDict : fromMapping event.asDict = .ok event := by
  have shape : (["event_type", "event_id", "occurred_at"].all
      fun name => (event.asDict.get? name).isSome) = true := by
    have type : event.asDict.get? "event_type" = event.value .eventType :=
      Json.get?_ofFields event.value TelemetryField.eventType
    have id : event.asDict.get? "event_id" = event.value .eventId :=
      Json.get?_ofFields event.value TelemetryField.eventId
    have time : event.asDict.get? "occurred_at" = event.value .occurredAt :=
      Json.get?_ofFields event.value TelemetryField.occurredAt
    simp [type, id, time, value]
  unfold fromMapping
  simp only [rejectContentTree_asDict, keys_asDict, shape, construct_asDict, require, if_true,
    Bind.bind, Except.bind]
  rfl

theorem asDict_injective : Function.Injective asDict := by
  intro first second same
  have read := fromMapping_asDict first
  rw [same, fromMapping_asDict] at read
  exact (Except.ok.inj read).symm

/-- The same observation at another time. -/
def retimed (event : TelemetryEvent) (time : TelemetryTime) : TelemetryEvent :=
  { event with occurredAt := time, consistent := event.consistent }

theorem value_retimed (time : TelemetryTime) {field : TelemetryField}
    (other : field ≠ .occurredAt) : (event.retimed time).value field = event.value field := by
  cases field <;> first | rfl | exact absurd rfl other

/-- The comparison leaves the time of the observation out. -/
theorem without_occurredAt {first second : TelemetryEvent} :
    first.asDict.without "occurred_at" = second.asDict.without "occurred_at" ↔
      first.retimed second.occurredAt = second := by
  have left : first.asDict.without "occurred_at" =
      .ofFields (Function.update first.value .occurredAt none) :=
    Json.without_ofFields first.value TelemetryField.occurredAt
  have right : second.asDict.without "occurred_at" =
      .ofFields (Function.update second.value .occurredAt none) :=
    Json.without_ofFields second.value TelemetryField.occurredAt
  rw [left, right, Json.ofFields_inj]
  constructor
  · intro same
    apply asDict_injective
    apply Json.ofFields_inj.mpr
    ext1 field
    by_cases time : field = .occurredAt
    · subst time
      rfl
    · rw [value_retimed first _ time]
      have equal := congrFun same field
      rwa [Function.update_of_ne time, Function.update_of_ne time] at equal
  · intro same
    ext1 field
    by_cases time : field = .occurredAt
    · subst time
      rw [Function.update_self, Function.update_self]
    · rw [Function.update_of_ne time, Function.update_of_ne time, ← same, value_retimed _ _ time]

end TelemetryEvent

theorem storable_str {text : String} (single : Json.OneLine text) : Json.Storable (.str text) where
  plain := trivial
  canonical := trivial
  single := single

theorem storable_int (number : Int) : Json.Storable (.int number) where
  plain := trivial
  canonical := trivial
  single := trivial

theorem oneLine_reference {kind : TelemetryReferenceKind} (reference : TelemetryReference kind) :
    Json.OneLine reference.canonical := by
  apply Json.oneLine_ofList
  have opening : (TelemetryReference.opening kind).all
      (fun letter => 32 ≤ letter.toNat && letter.toNat ≤ 126) = true := by
    cases kind <;> decide +kernel
  have digest := reference.canonicalDigest
  simp only [isSha256, isExactly, Bool.and_eq_true, all_eq_true] at digest
  intro letter listed
  rcases mem_append.mp listed with first | later
  · simpa using all_eq_true.mp opening letter first
  · have hex := digest.1 letter later
    simp only [isHex, isDigit, Bool.or_eq_true, Bool.and_eq_true, decide_eq_true_eq, Char.le_def,
      UInt32.le_iff_toNat_le] at hex
    change (48 ≤ letter.toNat ∧ letter.toNat ≤ 57) ∨ (97 ≤ letter.toNat ∧ letter.toNat ≤ 102) at hex
    omega

theorem isDecimal_unbroken {letter : Char} (decimal : isDecimal letter = true) :
    isBreak letter = false := by
  have zeros : ∀ start ∈ decimalZeros, 48 ≤ start ∧ (start + 10 ≤ 133 ∨ 133 < start) ∧
      (start + 10 ≤ 8232 ∨ 8233 < start) := by
    decide
  simp only [isDecimal, any_eq_true, Bool.and_eq_true, decide_eq_true_eq] at decimal
  obtain ⟨start, listed, low, high⟩ := decimal
  have away := zeros start listed
  simp only [isBreak, Bool.or_eq_false_iff, Bool.and_eq_false_iff, decide_eq_false_iff_not,
    beq_eq_false_iff_ne]
  omega

theorem isFractionZ_unbroken {letters : List Char} (shaped : isFractionZ letters = true) :
    ∀ letter ∈ letters, isBreak letter = false := by
  unfold isFractionZ at shaped
  split at shaped
  · exact unbroken_of_all (by decide)
  · rename_i letters
    simp only [Bool.and_eq_true, beq_iff_eq, decimals, all_eq_true] at shaped
    obtain ⟨last, _, digits⟩ := shaped
    intro letter listed
    rcases mem_cons.mp listed with rfl | listed
    · rfl
    · rw [← List.dropLast_append_getLast? 'Z' last, mem_append, mem_singleton] at listed
      rcases listed with listed | rfl
      · exact isDecimal_unbroken (digits letter listed)
      · rfl
  · cases shaped

theorem oneLine_time (time : TelemetryTime) : Json.OneLine time.1 := by
  have shaped := time.2
  unfold isTimestamp at shaped
  split at shaped
  · rename_i letters
    simp only [Bool.and_eq_true, all_cons, all_nil] at shaped
    obtain ⟨⟨a, b, c, d, e, f, g, h, i, j, k, l, m, n, _⟩, rest⟩ := shaped
    have digit {letter : Char} := @isDecimal_unbroken letter
    have unbroken : ∀ letter ∈ time.1.toList, isBreak letter = false := by
      rw [letters]
      simp only [forall_mem_cons]
      exact ⟨digit a, digit b, digit c, digit d, rfl, digit e, digit f, rfl, digit g, digit h, rfl,
        digit i, digit j, rfl, digit k, digit l, rfl, digit m, digit n, isFractionZ_unbroken rest⟩
    intro letter listed _
    exact unbroken letter listed
  · cases shaped

/-- The texts of an enumeration are printable. -/
theorem oneLine_codes :
    (∀ member : TelemetryEventType, Json.OneLine (Enumeration.value member)) ∧
    (∀ member : TelemetryHost, Json.OneLine (Enumeration.value member)) ∧
    (∀ member : TelemetryArtifactClass, Json.OneLine (Enumeration.value member)) ∧
    (∀ member : TelemetrySemanticOutcome, Json.OneLine (Enumeration.value member)) ∧
    (∀ member : TelemetryReviewCategory, Json.OneLine (Enumeration.value member)) ∧
    (∀ member : TelemetryIssueCategory, Json.OneLine (Enumeration.value member)) ∧
    (∀ member : TelemetryIssueReportStatus, Json.OneLine (Enumeration.value member)) ∧
    (∀ member : TelemetryLifecycle, Json.OneLine (Enumeration.value member)) ∧
    (∀ member : TelemetryStage, Json.OneLine (Enumeration.value member)) ∧
    (∀ member : TelemetryField, Json.OneLine (Enumeration.value member)) := by
  refine ⟨?_, ?_, ?_, ?_, ?_, ?_, ?_, ?_, ?_, ?_⟩ <;> intro member <;> cases member <;>
    exact Json.oneLine_printable (by decide +kernel)

theorem oneLine_errorCode (code : TelemetryErrorCode) : Json.OneLine code.1 := by
  obtain ⟨member, _, same⟩ := mem_map.mp code.2
  rw [← same]
  cases member <;> exact Json.oneLine_printable (by decide +kernel)

theorem storable_value {event : TelemetryEvent} {field : TelemetryField} {found : Json}
    (stored : event.value field = some found) : Json.Storable found := by
  have coded {Member : Type} [Enumeration Member] (value : Option Member)
      (codes : ∀ member : Member, Json.OneLine (Enumeration.value member))
      (present : value.map TelemetryEvent.code = some found) : Json.Storable found := by
    obtain ⟨member, _, same⟩ := Option.map_eq_some_iff.mp present
    rw [← same]
    exact storable_str (codes member)
  have referenced {kind : TelemetryReferenceKind} (value : Option (TelemetryReference kind))
      (present : value.map TelemetryEvent.identity = some found) : Json.Storable found := by
    obtain ⟨reference, _, same⟩ := Option.map_eq_some_iff.mp present
    rw [← same]
    exact storable_str (oneLine_reference reference)
  have counted (value : Option TelemetryCount)
      (present : value.map TelemetryEvent.amount = some found) : Json.Storable found := by
    obtain ⟨count, _, same⟩ := Option.map_eq_some_iff.mp present
    rw [← same]
    exact storable_int _
  obtain ⟨types, hosts, classes, outcomes, reviews, issues, statuses, lifecycles, stages, _⟩ :=
    oneLine_codes
  cases field with
  | artifactClass => exact coded _ classes stored
  | candidateRef => exact referenced _ stored
  | count => exact counted _ stored
  | deploymentRef => exact referenced _ stored
  | durationMs => exact counted _ stored
  | errorCode =>
    obtain ⟨code, _, same⟩ := Option.map_eq_some_iff.mp stored
    rw [← same]
    exact storable_str (oneLine_errorCode code)
  | eventId => exact referenced (some event.eventId) stored
  | eventType => exact coded (some event.eventType) types stored
  | host => exact coded _ hosts stored
  | issueCategory => exact coded _ issues stored
  | issueReportStatus => exact coded _ statuses stored
  | lifecycle => exact coded _ lifecycles stored
  | modelRef => exact referenced _ stored
  | occurredAt =>
    rw [← Option.some.inj stored]
    exact storable_str (oneLine_time event.occurredAt)
  | resourceUnits => exact counted _ stored
  | retryAttempt => exact counted _ stored
  | reviewCategory => exact coded _ reviews stored
  | runRef => exact referenced _ stored
  | runtimeRef => exact referenced _ stored
  | schemaVersion =>
    rw [← Option.some.inj stored]
    exact storable_str (Json.oneLine_printable (by decide +kernel))
  | scopeRef => exact referenced _ stored
  | semanticOutcome => exact coded _ outcomes stored
  | stage => exact coded _ stages stored
  | workerRef => exact referenced _ stored

/-- Every event can be stored in a line of its own. -/
theorem storable_asDict (event : TelemetryEvent) : Json.Storable event.asDict := by
  obtain ⟨_, _, _, _, _, _, _, _, _, names⟩ := oneLine_codes
  apply Json.storable_ofFields TelemetryField.all_sorted names
  intro field found stored
  exact storable_value stored

end KSlide
