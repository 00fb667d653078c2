import KSlide.Errors
import KSlide.Text.Enumeration
import KSlide.Text.Patterns
import Mathlib.Data.List.Sort
import Mathlib.Data.String.Basic

namespace KSlide

/-- The constructors accept any integer type of the source language. -/
class PythonInt (N : Type) where
  toInt : N → Int
  toJson : N → Json
  ofJson? : Json → Option N
  ofJson?_eq_some : ∀ value number, ofJson? value = some number ↔ value = toJson number

variable (number : Int) {N : Type} {accepts : String → Bool} {error : Raised} {value : Json}
  {label : String} {items : List (String × String)} {found : Option String}

theorem toJson_injective [PythonInt N] : Function.Injective (PythonInt.toJson : N → Json) := by
  intro first second same
  have found := (PythonInt.ofJson?_eq_some (PythonInt.toJson first) second).mpr same
  rw [(PythonInt.ofJson?_eq_some _ first).mpr rfl] at found
  exact Option.some.inj found

/-- The running service computes with plain integers. -/
instance : PythonInt Int where
  toInt number := number
  toJson := .int
  ofJson?
    | .int number => some number
    | _ => none
  ofJson?_eq_some value number := by cases value <;> simp

@[simp] theorem toInt_int : PythonInt.toInt number = number := rfl
@[simp] theorem toJson_int : PythonInt.toJson number = .int number := rfl

/-- A decoded integer is a number or a truth value, because truth values are integers. -/
inductive JsonInt where
  | number (value : Int)
  | truth (value : Bool)
deriving DecidableEq, Repr

instance : PythonInt JsonInt where
  toInt
    | .number value => value
    | .truth value => if value then 1 else 0
  toJson
    | .number value => .int value
    | .truth value => .bool value
  ofJson?
    | .int value => some (.number value)
    | .bool value => some (.truth value)
    | _ => none
  ofJson?_eq_some value number := by cases value <;> cases number <;> simp

inductive ExecutionProfile where
  | workspaceLocal | durable
deriving DecidableEq, Repr

instance : Text.Enumeration ExecutionProfile where
  value
    | .workspaceLocal => "workspace_local"
    | .durable => "durable"
  all := [.workspaceLocal, .durable]

inductive OperationalLifecycle where
  | queued | running | retrying | completed | canceled | processingFailed
deriving DecidableEq, Repr

instance : Text.Enumeration OperationalLifecycle where
  value
    | .queued => "QUEUED"
    | .running => "RUNNING"
    | .retrying => "RETRYING"
    | .completed => "COMPLETED"
    | .canceled => "CANCELED"
    | .processingFailed => "PROCESSING_FAILED"
  all := [.queued, .running, .retrying, .completed, .canceled, .processingFailed]

/-- Admission treats these lifecycles as finished. -/
def OperationalLifecycle.terminal : OperationalLifecycle → Bool
  | .canceled | .processingFailed | .completed => true
  | .queued | .running | .retrying => false

inductive TerminalOutcome where
  | none | done | needsReview | canceled | processingFailed
deriving DecidableEq, Repr

instance : Text.Enumeration TerminalOutcome where
  value
    | .none => "NONE"
    | .done => "DONE"
    | .needsReview => "NEEDS_REVIEW"
    | .canceled => "CANCELED"
    | .processingFailed => "PROCESSING_FAILED"
  all := [.none, .done, .needsReview, .canceled, .processingFailed]

inductive ResumeEligibility where
  | eligible | notEligible
deriving DecidableEq, Repr

instance : Text.Enumeration ResumeEligibility where
  value
    | .eligible => "ELIGIBLE"
    | .notEligible => "NOT_ELIGIBLE"
  all := [.eligible, .notEligible]

inductive RetryDisposition where
  | none | retryable | notRetryable | exhausted
deriving DecidableEq, Repr

instance : Text.Enumeration RetryDisposition where
  value
    | .none => "NONE"
    | .retryable => "RETRYABLE"
    | .notRetryable => "NOT_RETRYABLE"
    | .exhausted => "EXHAUSTED"
  all := [.none, .retryable, .notRetryable, .exhausted]

inductive FailureClass where
  | retryable | notRetryable | semanticRepair
deriving DecidableEq, Repr

inductive StoreWriteStatus where
  | accepted | idempotent | stale | conflict
deriving DecidableEq, Repr

def maxResultMarkers : Nat := 256
def maxMetadata : Nat := 8

def forbiddenMetadataWords : List String :=
  ["access", "secret", "token", "password", "credential", "source", "content", "prompt",
   "translation", "text", "image", "path", "ocr"]

def forbiddenErrorWords : List String :=
  ["access", "secret", "token", "password", "credential", "source", "content", "prompt",
   "translation", "text", "image", "path"]

def isMark (letter : Char) : Bool := "_.:-".toList.elem letter

def isIdentifier : String → Bool :=
  Text.isToken Text.isAlnum (fun letter => Text.isAlnum letter || isMark letter) 127

def isPhase : String → Bool :=
  Text.isToken Text.isUpper
    (fun letter => Text.isUpper letter || Text.isDigit letter || isMark letter) 63

def isErrorCode (text : String) : Bool := isPhase text && !Text.mentions forbiddenErrorWords text

def isMetadataKey (text : String) : Bool :=
  Text.isToken Text.isLower
    (fun letter => Text.isLower letter || Text.isDigit letter || isMark letter) 63 text &&
    !Text.mentions forbiddenMetadataWords text

def isMetadataValue (text : String) : Bool :=
  isIdentifier text && !Text.mentions forbiddenMetadataWords text

/-- An empty text stands for a time that is not recorded. -/
def isMoment (text : String) : Bool := text == "" || Text.isTimestamp text

/-- The clock of the service gives well-formed times. -/
structure Timestamp where
  text : String
  valid : Text.isTimestamp text = true
deriving DecidableEq

def Timestamp.newYear : Timestamp := ⟨"2026-01-01T00:00:00Z", by decide⟩

/-- A check of an optional value lets null pass. -/
def optionalText (accepts : String → Bool) (error : Raised) : Json → Except Raised (Option String)
  | .null => .ok none
  | value => some <$> checkedText accepts error value

@[simp] theorem optionalText_ok : optionalText accepts error value = .ok found ↔
      value = .ofText? found ∧ ∀ text ∈ found, accepts text = true := by
  cases value with
  | null => cases found <;> simp [optionalText]
  | str text =>
    cases found with
    | none => simp [optionalText, checkedText]
    | some other =>
      simp only [optionalText, checkedText, Json.ofText?_some, Json.str.injEq]
      split <;> simp <;> grind
  | _ => cases found <;> simp [optionalText, checkedText]

def identifier (value : Json) (label : String) : Except Raised String :=
  checkedText isIdentifier (.invalid s!"Execution contract has an invalid {label}.") value

def phase (value : Json) (label : String) : Except Raised String :=
  checkedText isPhase (.invalid s!"Execution contract has an invalid {label}.") value

def errorCode (value : Json) : Except Raised String :=
  checkedText isErrorCode (.invalid "Execution retry error code is invalid.") value

def timestamp (value : Json) (label : String) : Except Raised (Option String) :=
  optionalText isMoment (.invalid s!"Execution {label} timestamp is invalid.") value

@[simp] theorem identifier_ok {label text : String} :
    identifier value label = .ok text ↔ value = .str text ∧ isIdentifier text = true :=
  checkedText_ok

@[simp] theorem phase_ok {label text : String} :
    phase value label = .ok text ↔ value = .str text ∧ isPhase text = true :=
  checkedText_ok

@[simp] theorem errorCode_ok {text : String} :
    errorCode value = .ok text ↔ value = .str text ∧ isErrorCode text = true :=
  checkedText_ok

@[simp] theorem timestamp_ok : timestamp value label = .ok found ↔
      value = .ofText? found ∧ ∀ text ∈ found, isMoment text = true :=
  optionalText_ok

def integer (N : Type) [PythonInt N] (value : Json) (error : Raised) : Except Raised N :=
  match PythonInt.ofJson? value with
  | some number => .ok number
  | none => .error error

@[simp] theorem integer_ok [PythonInt N] {value : Json} {error : Raised} {number : N} :
    integer N value error = .ok number ↔ value = PythonInt.toJson number := by
  rw [← PythonInt.ofJson?_eq_some]
  unfold integer
  cases PythonInt.ofJson? (N := N) value <;> simp

def boolean (value : Json) (error : Raised) : Except Raised Bool :=
  match value with
  | .bool truth => .ok truth
  | _ => .error error

@[simp] theorem boolean_ok {error : Raised} {truth : Bool} :
    boolean value error = .ok truth ↔ value = .bool truth := by
  cases value <;> simp [boolean]

/-- A pattern match on a value that is not a text raises a type error. -/
def matchedText (accepts : String → Bool) (error : Raised) : Json → Except Raised String
  | .str text => if accepts text then .ok text else .error error
  | _ => .error (.other "TypeError")

@[simp] theorem matchedText_ok {text : String} :
    matchedText accepts error value = .ok text ↔ value = .str text ∧ accepts text = true := by
  cases value with
  | str found =>
    simp only [matchedText, Json.str.injEq]
    split <;> grind
  | _ => simp [matchedText]

/-- A pattern check lets every false value pass. -/
def matchedIfTruthy (accepts : String → Bool) (error : Raised) (value : Json) :
    Except Raised Json :=
  if value.truthy then .str <$> matchedText accepts error value else .ok value

@[simp] theorem matchedIfTruthy_ok {value found : Json} :
    matchedIfTruthy accepts error value = .ok found ↔
      value = found ∧ (value.truthy = true → ∃ text, value = .str text ∧ accepts text = true) := by
  unfold matchedIfTruthy
  split
  · simp only [map_ok, matchedText_ok]
    grind
  · simp_all

/-- Each item of the metadata is checked in order. -/
def metadataItems (label : String) :
    List (String × Json) → Except Raised (List (String × String))
  | [] => .ok []
  | (key, item) :: rest => do
    require (isMetadataKey key)
      (.invalid s!"Execution {label} metadata contains an unsafe key.")
    let text ← checkedText isMetadataValue
      (.invalid s!"Execution {label} metadata contains an unsafe value.") item
    let others ← metadataItems label rest
    return (key, text) :: others

def metadata (value : Json) (label : String) : Except Raised (List (String × String)) :=
  match value with
  | .obj fields => do
    require (fields.length ≤ maxMetadata) (.invalid s!"Execution {label} metadata is not bounded.")
    metadataItems label fields
  | _ => .error (.invalid s!"Execution {label} metadata is not bounded.")

def metadataJson (items : List (String × String)) : Json :=
  .obj (items.map fun item => (item.1, .str item.2))

theorem metadataJson_injective : Function.Injective metadataJson := by
  intro first second same
  refine List.map_injective_iff.mpr ?_ (Json.obj.inj same)
  rintro ⟨_, _⟩ ⟨_, _⟩ item
  simpa using item

/-- Metadata is encoded in the order of its keys. -/
def byKey (first second : String × String) : Prop := first.1 ≤ second.1

instance : DecidableRel byKey := fun first second => inferInstanceAs (Decidable (first.1 ≤ second.1))
instance : Std.Total byKey := ⟨fun first second => le_total first.1 second.1⟩
instance : IsTrans (String × String) byKey := ⟨fun _ _ _ before after => le_trans before after⟩

/-- Encoded metadata is an object even when it is empty. -/
@[simp] theorem metadataJson_orEmpty (items : List (String × String)) :
    (metadataJson items).orEmpty = metadataJson items := Json.orEmpty_object rfl

theorem insertionSort_canonical
    (canonical : (metadataJson items).Canonical) : items.insertionSort byKey = items := by
  simp only [metadataJson, Json.Canonical, List.map_map, Function.comp_def, List.pairwise_map]
    at canonical
  exact (canonical.1.imp fun {_ _} before => le_of_lt before).insertionSort_eq

/-- The metadata of a record is small and free of forbidden words. -/
def MetadataValid (items : List (String × String)) : Prop :=
  items.length ≤ maxMetadata ∧
    ∀ item ∈ items, isMetadataKey item.1 = true ∧ isMetadataValue item.2 = true

theorem metadataItems_ok {fields : List (String × Json)} {items : List (String × String)} :
    metadataItems label fields = .ok items ↔
      fields = items.map (fun item => (item.1, Json.str item.2)) ∧
        ∀ item ∈ items, isMetadataKey item.1 = true ∧ isMetadataValue item.2 = true := by
  induction fields generalizing items with
  | nil => cases items <;> simp [metadataItems]
  | cons field fields ih =>
    obtain ⟨key, value⟩ := field
    simp only [metadataItems, bind_ok, require_ok, checkedText_ok, ih, pure_ok]
    cases items with
    | nil => simp
    | cons item items =>
      obtain ⟨name, text⟩ := item
      simp only [List.map_cons, List.cons.injEq, Prod.mk.injEq, List.forall_mem_cons]
      grind

@[simp] theorem metadata_ok :
    metadata value label = .ok items ↔ value = metadataJson items ∧ MetadataValid items := by
  cases value with
  | obj fields =>
    simp only [metadata, bind_ok, require_ok, metadataItems_ok, metadataJson, Json.obj.injEq,
      MetadataValid, decide_eq_true_eq]
    grind
  | _ => simp [metadata, metadataJson]

end KSlide
