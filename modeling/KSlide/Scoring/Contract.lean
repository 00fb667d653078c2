import KSlide.Json.Conversions
import KSlide.Json.Edits
import KSlide.Scoring.Assertions

/-
This file gives the contract of the gold of a governed case.
-/

namespace KSlide
namespace Scoring

namespace GoldContract

def categoryPolicy : List String := [
  "financial_table", "modality_decision_state", "chart", "process_diagram", "visual_degradation",
  "prompt_injection", "cross_slide_consistency", "state_resume", "simple_mixed_text"]

/-- A frozen case of high risk has one of these categories. -/
def protectedCategories : List String :=
  ["financial_table", "modality_decision_state", "chart", "process_diagram", "state_resume"]

def caseError (message : String) : Raised := .other ("GovernedCaseError: " ++ message)

/-- A truth value is not a whole number. -/
def isAtLeast (lower : Int) : Json → Bool
  | .int value => decide (lower ≤ value)
  | _ => false

def isText : Json → Bool
  | .str _ => true
  | _ => false

def isFilledText : Json → Bool
  | .str text => text != ""
  | _ => false

def isListOf (accepts : Json → Bool) : Json → Bool
  | .arr items => items.all accepts
  | _ => false

def isFilledList : Json → Bool
  | .arr items => !items.isEmpty
  | _ => false

/-- A missing value is accepted. -/
def isOptional (accepts : Json → Bool) (value : Json) : Bool := value == .null || accepts value

def isExpectedClaim (item : Json) : Bool :=
  item.isObject && isText (item.field "kind") &&
    isListOf isFilledText (Python.get item "acceptable_phrases" (.arr []))

def checkCoverage (gold : Json) : Except Raised Unit := do
  require (["visible_items", "expected_region_min", "visual_elements"].all fun name =>
      (gold.get? name).isSome)
    (caseError "governed case gold contract lacks semantic coverage metadata")
  require (isAtLeast 1 (gold.field "visible_items"))
    (caseError "governed case visible_items must be a positive integer")
  require (isAtLeast 1 (gold.field "expected_region_min"))
    (caseError "governed case expected_region_min must be a positive integer")
  require (isFilledList (gold.field "visual_elements") &&
      isListOf isFilledText (gold.field "visual_elements"))
    (caseError "governed case visual_elements must be a non-empty string list")

/-- The validated assertions replace the assertions of the gold. -/
def withAssertions [Unicode] [Compatibility] (gold : Json) : Except Raised Json :=
  match validateAssertions (Python.get gold "noncritical_semantic_assertions" (.arr [])) with
  | .ok assertions =>
    .ok (gold.put "noncritical_semantic_assertions" (.arr (assertions.map Assertion.asDict)))
  | .error _ =>
    .error (caseError "governed case non-critical semantic contract is malformed")

def checkOptional (gold : Json) : Except Raised Unit := do
  forM ["numeric_facts", "required_terms"] fun field =>
    require (isOptional (isListOf isFilledText) (gold.field field))
      (caseError ("governed case " ++ field ++ " must be a string list"))
  require ((gold.get? "allowed_unresolved").all fun value =>
      value == .bool true || value == .bool false)
    (caseError "governed case allowed_unresolved must be boolean")
  require (isOptional (isAtLeast 0) (gold.field "expected_unresolved_max"))
    (caseError "governed case expected_unresolved_max must be a non-negative integer")
  require (isOptional (fun value => (Python.text? value).any (!Text.isBlank ·))
      (gold.field "locked_term"))
    (caseError "governed case locked_term must be a non-empty string")
  require (isOptional (isListOf isExpectedClaim) (gold.field "executive_claims"))
    (caseError "governed case executive_claims contract is malformed")

def checkModality (gold : Json) : Except Raised Unit :=
  require ((gold.field "modality").isObject && ["source_text", "commitment", "speech_act"].all
      fun key => isFilledText ((gold.field "modality").field key))
    (caseError "governed modality gold contract is incomplete")

/-- A header role also names its acceptable terms. -/
def checkTableItem (field : String) (item : Json) : Except Raised Unit := do
  require (item.isObject && isAtLeast 0 (item.field "row") && isAtLeast 0 (item.field "column"))
    (caseError "governed table cell coordinates are malformed")
  require (field != "header_roles" || isListOf isFilledText (item.field "acceptable"))
    (caseError "governed table semantic roles are malformed")
  require ((item.get? "source").all isText)
    (caseError "governed table source binding is malformed")

def itemsOf : Json → List Json
  | .arr items => items
  | _ => []

def checkTable (gold : Json) : Except Raised Unit := do
  let table := gold.field "table"
  require (table.isObject && isFilledList (table.field "required_cells") &&
      isListOf (fun _ => true) (table.field "header_roles"))
    (caseError "governed table gold contract is incomplete")
  forM ["row_count", "column_count"] fun field =>
    require (isOptional (isAtLeast 1) (table.field field))
      (caseError "governed table dimensions must be positive integers")
  forM ["required_cells", "header_roles"] fun field =>
    forM (itemsOf (table.field field)) (checkTableItem field)

def checkChart (gold : Json) : Except Raised Unit :=
  require ((gold.field "chart").isObject && isFilledText ((gold.field "chart").field "trend"))
    (caseError "governed chart gold contract is incomplete")

/-- The second name counts when the first one is missing. -/
def isProcessNode (node : Json) : Bool :=
  node.isObject && isFilledText (Python.get node "id" (node.field "role")) &&
    isFilledText (Python.get node "source_text" (node.field "label"))

def isProcessRelation (relation : Json) : Bool :=
  relation.isObject && ["from", "to", "type"].all fun key => isFilledText (relation.field key)

def checkProcess (gold : Json) : Except Raised Unit := do
  let process := gold.field "process"
  require (process.isObject && isListOf (fun _ => true) (process.field "nodes") &&
      isListOf (fun _ => true) (process.field "relations"))
    (caseError "governed process gold contract is incomplete")
  require (isFilledList (process.field "nodes") && isListOf isProcessNode (process.field "nodes") &&
      isListOf isProcessRelation (process.field "relations"))
    (caseError "governed process semantic contract is malformed")

/-- The category of the case decides which of its items must be complete. -/
def checkCategory (category : String) (gold : Json) : Except Raised Unit :=
  match category with
  | "modality_decision_state" => checkModality gold
  | "financial_table" => checkTable gold
  | "chart" => checkChart gold
  | "process_diagram" | "state_resume" => checkProcess gold
  | "cross_slide_consistency" => require (isText (gold.field "locked_term"))
      (caseError "governed consistency gold contract is incomplete")
  | "prompt_injection" => require (gold.field "prompt_injection_is_data" == .bool true)
      (caseError "governed prompt-injection data policy is missing")
  | _ => .ok ()

def checkRole (category role : String) : Except Raised Unit :=
  require (role != "frozen_high_risk" || protectedCategories.elem category)
    (caseError "governed high-risk case is outside the protected-category policy")

end GoldContract

open GoldContract in
def validateGoldContract [Unicode] [Compatibility] (category : String) (gold : Json)
    (role : String) : Except Raised Json := do
  require gold.isObject (caseError "governed case gold contract must be an object")
  checkCoverage gold
  let gold ← withAssertions gold
  checkOptional gold
  require (categoryPolicy.elem category)
    (caseError "governed case category is outside the closed semantic policy")
  checkCategory category gold
  checkRole category role
  return gold

end Scoring
end KSlide
