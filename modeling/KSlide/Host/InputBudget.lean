import KSlide.Errors
import KSlide.Numeric.Double
import KSlide.Text.Unicode
import Mathlib.Data.List.Dedup
import Mathlib.Data.List.Sort
import Mathlib.Data.String.Basic

/-
This file gives the attachment budgets of the plugin and of the engine and compares them.
-/

namespace KSlide.InputBudget

/-- A number is kept as its text writes it. -/
structure Literal where
  negative : Bool
  whole : Nat
  fraction : List (Fin 10)
  exponent : Option Int
deriving DecidableEq

namespace Literal

/-- The engine reads a number without a point and without an exponent as an integer. -/
def isInteger (literal : Literal) : Bool := literal.fraction.isEmpty && literal.exponent.isNone

def int (literal : Literal) : Int := if literal.negative then -literal.whole else literal.whole

def size (literal : Literal) : ℚ :=
  (literal.whole + literal.fraction.foldr (fun digit later => ((digit : Nat) + later) / 10) 0) *
    10 ^ literal.exponent.getD 0

/-- The plugin reads every number as a double. -/
def toNumber (literal : Literal) : ℚ :=
  if literal.negative then -Double.ofSize literal.size else Double.ofSize literal.size

end Literal

/-- A document keeps the fields of its objects as they are written, with those that repeat. -/
inductive Node where
  | null
  | bool (value : Bool)
  | number (literal : Literal)
  /-- The words for infinite and undefined numbers are read by the engine alone. -/
  | word (name : String)
  | str (text : String)
  | arr (items : List Node)
  | obj (fields : List (String × Node))

/-- The last of the fields with one key counts. -/
def get : List (String × Node) → String → Option Node
  | [], _ => none
  | (key, node) :: rest, name =>
    match get rest name with
    | some found => some found
    | none => if key = name then some node else none

def keys (fields : List (String × Node)) : List String := (fields.map Prod.fst).dedup

def maxIntDigits : Nat := 4300

namespace Node

def isNull : Node → Bool
  | .null => true
  | _ => false

def isText (text : String) : Node → Bool
  | .str other => other == text
  | _ => false

mutual
/-- The plugin's reader has no words for numbers. -/
def standard : Node → Bool
  | .word _ => false
  | .arr items => standardItems items
  | .obj fields => standardFields fields
  | _ => true

def standardItems : List Node → Bool
  | [] => true
  | node :: rest => standard node && standardItems rest

def standardFields : List (String × Node) → Bool
  | [] => true
  | (_, node) :: rest => standard node && standardFields rest
end

mutual
/-- The engine's reader refuses a repeated key and an integer with too many digits. -/
def strict : Node → Bool
  | .number literal =>
    !literal.isInteger || (Nat.toDigits 10 literal.whole).length ≤ maxIntDigits
  | .arr items => strictItems items
  | .obj fields => decide (fields.map Prod.fst).Nodup && strictFields fields
  | _ => true

def strictItems : List Node → Bool
  | [] => true
  | node :: rest => strict node && strictItems rest

def strictFields : List (String × Node) → Bool
  | [] => true
  | (_, node) :: rest => strict node && strictFields rest
end

/-- The engine takes no number with a point or an exponent for an integer. -/
def integer? : Node → Option Int
  | .number literal => if literal.isInteger then some literal.int else none
  | _ => none

/-- A safe integer is a whole double that stands for no other whole number. -/
def safeInteger? : Node → Option Int
  | .number literal =>
    let value := literal.toNumber
    if value.den = 1 ∧ value.num.natAbs ≤ Double.maxSafe then some value.num else none
  | _ => none

/-- The conversion to a text gives a list of one value the text of the value; a number and a list
with commas have no text of letters. -/
def spelled : Node → Option String
  | .str text => some text
  | .null => some "null"
  | .bool value => some (if value then "true" else "false")
  | .arr [] => some ""
  | .arr [.null] => some ""
  | .arr [node] => spelled node
  | .arr (_ :: _ :: _) => none
  | .obj _ => some "[object Object]"
  | .number _ => none
  | .word _ => none

end Node

/-- The profile file holds bytes that the plugin decodes with replacements. -/
inductive ProfileFile where
  | missing
  /-- The path leads to a directory or to another file that is not regular. -/
  | irregular
  | unreadable
  | malformed
  /-- The bytes are valid in the encoding or were replaced, and the letters are a document. -/
  | document (size : Nat) (encoded : Bool) (value : Node)

/-- A candidate source gives the fields that its reader finds. -/
inductive CandidateSource where
  | missing
  | unusual
  | malformed
  | candidate (fields : List (String × Node))

def technicalCeilings : List (String × Nat) :=
  [("max_file_bytes", 512 * 1024 * 1024),
    ("max_total_file_bytes_per_run", 2000000000),
    ("max_documents_per_run", 32),
    ("max_pdf_pages_per_document", 200),
    ("max_pptx_slides_per_deck", 200),
    ("max_work_units_per_run", 500),
    ("max_pixels_per_image", 120000000),
    ("max_total_decoded_pixels_per_run", 500000000),
    ("max_normalized_bytes_per_run", 2000000000),
    ("max_image_dimension", 20000),
    ("max_media_items_per_work_unit", 256),
    ("model_media_token_reserve_per_item", 1024),
    ("max_model_input_tokens_per_work_unit", 2000000),
    ("max_model_output_tokens_per_work_unit", 2000000),
    ("max_model_tokens_per_run", 100000000),
    ("max_concurrent_runs_per_scope", 1),
    ("max_queued_runs_per_scope", 100000),
    ("max_concurrent_work_units_per_run", 1)]

def durationField : String := "max_media_duration_seconds"

def budgetFields : List String := technicalCeilings.map Prod.fst ++ [durationField]

inductive BudgetEnvironment where
  | production | referenceNonProduction
deriving DecidableEq, Repr

def BudgetEnvironment.parse : Node → Option BudgetEnvironment
  | .str "production" => some .production
  | .str "reference_non_production" => some .referenceNonProduction
  | _ => none

/-- A limit is a positive number up to its ceiling. -/
def InRange (entry : String × Nat) (limit : String × Int) : Prop :=
  limit.1 = entry.1 ∧ 1 ≤ limit.2 ∧ limit.2 ≤ entry.2

/-- A budget has every limit, each in its range, and no duration. -/
structure BudgetContract where
  limits : List (String × Int)
  environment : BudgetEnvironment
  ranged : List.Forall₂ InRange technicalCeilings limits

def BudgetContract.limit (budget : BudgetContract) (name : String) : Option Int :=
  budget.limits.lookup name

def invalid (message : String) : Raised := .kslide ⟨.resourceBudgetInvalid, message, []⟩

def unavailable : Raised :=
  .kslide ⟨.resourceBudgetUnavailable, "Production resource budget is missing.", []⟩

def sameSet (first second : List String) : Bool :=
  first.all (second.elem ·) && second.all (first.elem ·)

def checkRange (limits : List (String × Node)) (entry : String × Nat) :
    Except Raised { limit : String × Int // InRange entry limit } :=
  match (get limits entry.1).bind Node.integer? with
  | some value =>
    if ranged : 1 ≤ value ∧ value ≤ entry.2 then .ok ⟨(entry.1, value), rfl, ranged⟩
    else .error (invalid s!"Resource budget {entry.1} is outside the supported range.")
  | none => .error (invalid s!"Resource budget {entry.1} is outside the supported range.")

/-- The first limit outside its range is named. -/
def checkRanges (limits : List (String × Node)) : (entries : List (String × Nat)) →
    Except Raised { found : List (String × Int) // List.Forall₂ InRange entries found }
  | [] => .ok ⟨[], .nil⟩
  | entry :: entries =>
    match checkRange limits entry with
    | .error raised => .error raised
    | .ok limit =>
      match checkRanges limits entries with
      | .error raised => .error raised
      | .ok found => .ok ⟨limit.1 :: found.1, .cons limit.2 found.2⟩

/-- Every ceiling on runs and work units at one time is one, so the ranges settle these limits. -/
def postInit (limits : List (String × Node)) (environment : Node) :
    Except Raised BudgetContract := do
  let environment ← match BudgetEnvironment.parse environment with
    | some known => .ok known
    | none => .error (invalid "Resource budget environment is unsupported.")
  let found ← checkRanges limits technicalCeilings
  if !(get limits durationField).any Node.isNull then
    .error (invalid ("Duration-bearing media is unsupported by the current static-image and " ++
      "slide pipeline."))
  else .ok ⟨found.1, environment, found.2⟩

def fromMapping (value : Node) (environment : Node) : Except Raised BudgetContract :=
  match value with
  | .obj limits =>
    if !sameSet (keys limits) budgetFields then
      .error (invalid "Resource budget must contain exactly the versioned limit fields.")
    else postInit limits environment
  | _ => .error (invalid "Resource budget must contain exactly the versioned limit fields.")

def persistedFields : List String := ["schema_version", "environment", "limits"]

def fromDict (value : Node) : Except Raised BudgetContract :=
  match value with
  | .obj fields =>
    if !sameSet (keys fields) persistedFields then
      .error (.corrupt "Persisted resource budget is malformed.")
    else do
      let result ← fromMapping ((get fields "limits").getD .null)
        ((get fields "environment").getD .null)
      if !(get fields "schema_version").any (Node.isText "1.0") then
        .error (.corrupt "Persisted resource budget schema version is unsupported.")
      else .ok result
  | _ => .error (.corrupt "Persisted resource budget is malformed.")

/-- The reference values are the ceilings but for the queue. -/
def referenceValues : List (String × Int) :=
  technicalCeilings.map fun entry =>
    (entry.1, if entry.1 = "max_queued_runs_per_scope" then 16 else entry.2)

theorem referenceValues_ranged : List.Forall₂ InRange technicalCeilings referenceValues := by
  have positive : technicalCeilings.all (fun entry => 16 ≤ entry.2 || entry.1 !=
      "max_queued_runs_per_scope") = true ∧ technicalCeilings.all (1 ≤ ·.2) = true := by
    decide +kernel
  rw [referenceValues, List.forall₂_map_right_iff, List.forall₂_same]
  intro entry listed
  have queue := List.all_eq_true.mp positive.1 entry listed
  have least := List.all_eq_true.mp positive.2 entry listed
  rw [decide_eq_true_eq] at least
  rw [Bool.or_eq_true, decide_eq_true_eq, bne_iff_ne] at queue
  refine ⟨rfl, ?_⟩
  dsimp only
  split_ifs with named
  · have bound := queue.resolve_right fun other => other named
    omega
  · omega

def reference : BudgetContract := ⟨referenceValues, .referenceNonProduction, referenceValues_ranged⟩

/-- The engine reads a regular file strictly. -/
def ProfileFile.read : ProfileFile → Option (Option Node)
  | .missing | .irregular => none
  | .unreadable | .malformed => some none
  | .document _ encoded value => some (if encoded && value.strict then some value else none)

def productionRequiredForWorkspace (file : ProfileFile) : Bool :=
  match file.read with
  | none => false
  | some (some (.obj fields)) =>
    match get fields "release_state" with
    | some (.str state) => state != "DEVELOPMENT"
    | _ => false
  | some _ => true

def loadForWorkspace (file : ProfileFile) (productionRequired : Bool) :
    Except Raised BudgetContract :=
  match file.read with
  | none => if productionRequired then .error unavailable else .ok reference
  | some none => .error (invalid "Production resource budget is unreadable or malformed.")
  | some (some (.obj fields)) =>
    if (get fields "resource_budget").all Node.isNull then
      if productionRequired then .error unavailable else .ok reference
    else do
      let result ← fromDict ((get fields "resource_budget").getD .null)
      if result.environment != .production && productionRequired then
        .error (invalid "Production requires an explicitly production-classified resource budget.")
      else .ok result
  | some (some _) =>
    .error (invalid "Production profile is malformed while resolving its resource budget.")

def maxInputBytes : Int := 512 * 1024 * 1024

def maxProfileBytes : Nat := 2 * 1024 * 1024

def resourceBudgetCeilings : List (String × Nat) :=
  [("max_file_bytes", 512 * 1024 * 1024),
    ("max_total_file_bytes_per_run", 2000000000),
    ("max_documents_per_run", 32),
    ("max_pdf_pages_per_document", 200),
    ("max_pptx_slides_per_deck", 200),
    ("max_work_units_per_run", 500),
    ("max_pixels_per_image", 120000000),
    ("max_total_decoded_pixels_per_run", 500000000),
    ("max_normalized_bytes_per_run", 2000000000),
    ("max_image_dimension", 20000),
    ("max_media_items_per_work_unit", 256),
    ("model_media_token_reserve_per_item", 1024),
    ("max_model_input_tokens_per_work_unit", 2000000),
    ("max_model_output_tokens_per_work_unit", 2000000),
    ("max_model_tokens_per_run", 100000000),
    ("max_concurrent_runs_per_scope", 1),
    ("max_queued_runs_per_scope", 100000),
    ("max_concurrent_work_units_per_run", 1)]

def resourceBudgetFields : List String :=
  resourceBudgetCeilings.map Prod.fst ++ ["max_media_duration_seconds"]

/-- The keys are sorted and joined with newlines before they are compared; for the names of the
contract the order of letters is the order of code units. -/
def joined (names : List String) : List Char :=
  List.intercalate ['\n'] ((names.insertionSort fun first second => first ≤ second).map String.toList)

def withinCeiling (limits : List (String × Node)) (entry : String × Nat) : Bool :=
  match (get limits entry.1).bind Node.safeInteger? with
  | some value => 1 ≤ value && value ≤ entry.2
  | none => false

def budgetEnvironments : List String := ["production", "reference_non_production"]

def validateResourceBudget (raw : Node) : Except ErrorCode Int :=
  match raw with
  | .obj fields =>
    if joined (keys fields) != joined ["environment", "limits", "schema_version"] then
      .error .resourceBudgetInvalid
    else
      match get fields "limits" with
      | some (.obj limits) =>
        if !(get fields "schema_version").any (Node.isText "1.0") ||
            !((get fields "environment").bind Node.spelled).any (budgetEnvironments.elem ·) then
          .error .resourceBudgetInvalid
        else if joined (keys limits) != joined resourceBudgetFields ||
            !(get limits "max_media_duration_seconds").any Node.isNull then
          .error .resourceBudgetInvalid
        else if !resourceBudgetCeilings.all (withinCeiling limits) then
          .error .resourceBudgetInvalid
        else .ok (((get limits "max_file_bytes").bind Node.safeInteger?).getD 0)
      | _ => .error .resourceBudgetInvalid
  | _ => .error .resourceBudgetInvalid

def bindingFields : List String :=
  ["requested_model", "effective_model", "provider", "opencode_version", "network_egress",
    "inference_route_identity", "inference_endpoint_identity", "egress_policy_version",
    "egress_policy_hash", "egress_policy_identity"]

def unresolved : Option Node → Bool
  | none | some .null => true
  | some (.str text) => text == "" ||
      ["UNSET", "NOT_YET_CONFIGURED"].elem (String.ofList (Text.upper text.toList))
  | _ => false

/-- A candidate binds a route when no field of the binding is unresolved. -/
def candidateRouteBinding (fields : List (String × Node)) : Option (List (String × Node)) :=
  if bindingFields.any fun name => unresolved (get fields name) then none
  else some ((["candidate_spec_version", "schema_version"] ++ bindingFields).filterMap fun name =>
    (get fields name).map (name, ·))

def CandidateSource.managed : CandidateSource → Bool
  | .missing => false
  | .unusual | .malformed => true
  | .candidate fields => (candidateRouteBinding fields).isSome

def managedCandidateExists (sources : List CandidateSource) : Bool :=
  sources.any CandidateSource.managed

def withoutBudget (sources : List CandidateSource) : Except ErrorCode Int :=
  if managedCandidateExists sources then .error .resourceBudgetUnavailable else .ok maxInputBytes

def configuredInputBudget (file : ProfileFile) (sources : List CandidateSource) :
    Except ErrorCode Int :=
  match file with
  | .missing => withoutBudget sources
  | .irregular | .unreadable | .malformed => .error .resourceBudgetInvalid
  | .document size _ value =>
    if maxProfileBytes < size || !value.standard then .error .resourceBudgetInvalid
    else
      match value with
      | .obj fields =>
        if (get fields "resource_budget").all Node.isNull then
          if (get fields "release_state").any (Node.isText "PRODUCTION_CERTIFIED") then
            .error .resourceBudgetUnavailable
          else withoutBudget sources
        else validateResourceBudget ((get fields "resource_budget").getD .null)
      | _ => .error .resourceBudgetInvalid

end KSlide.InputBudget
