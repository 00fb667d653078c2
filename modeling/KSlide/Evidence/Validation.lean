import KSlide.Evidence.Chart
import KSlide.Evidence.Contract

/-
This file gives the checks of the whole evidence of a work unit.
-/

namespace KSlide.EvidenceIR
open Python

def tableCellStates : List String :=
  ["nonblank", "blank", "merge_origin", "merge_continuation", "unknown"]

/-- A truth value follows from a check that may fail. -/
def requireM (check : Except Raised Bool) (error : Raised) : Except Raised Unit := do
  require (← check) error

def duplicate (message : String) : Raised := .kslide ⟨.duplicateSourceId, message, []⟩

/-- The objects with a value at the key have identifiers, and no two are the same. -/
def statedIds [Printing] (items : List Json) (key : String) : List String :=
  (items.filter fun item => item.isObject && (item.field key).truthy).map fun item =>
    str (item.field key)

/-- The identifiers that the checks of the regions and the tables refer to. -/
structure Known where
  regionIds : List String
  tableIds : List String
  numericIds : List String
  visualIds : List String
  languagePolicyBound : Bool

/-- The parts of a literal that its spans do not name. -/
def missingSpans (literal : Json) (spans : List Json) : Except Raised (List Json) :=
  spans.filterM fun span => do
    return !(← Python.contains literal ((text? span).getD ""))

/-- A region and a cell have a language, a literal and English spans. -/
structure Literal where
  owner : String × Json
  language : Json
  literal : Json
  spans : List Json
  unsupported : String
  mismatch : String
  emptySpan : String
  unexpectedSpans : String
  absentSpans : String

/-- The language follows from the script, and only mixed texts have English spans. -/
def Literal.validate (literal : Literal) (languagePolicyBound : Bool) : Except Raised Unit := do
  if literal.language ≠ .null then
    requireM (literal.language.memberOf languageValues)
      (schemaInvalid literal.unsupported [literal.owner, ("language", literal.language)])
  if languagePolicyBound ∧ literal.language ≠ .null ∧ literal.literal ≠ .null then
    let expected := classifySourceLanguage literal.literal
    require (literal.language == .str expected) (schemaInvalid literal.mismatch
      [literal.owner, ("expected", .str expected), ("actual", literal.language)])
  require (literal.spans.all fun span => (text? span).any (· != ""))
    (schemaInvalid literal.emptySpan [literal.owner])
  require (!(languagePolicyBound && literal.language != .str "mixed" && !literal.spans.isEmpty))
    (schemaInvalid literal.unexpectedSpans [literal.owner])
  if literal.language = .str "mixed" ∧ literal.literal ≠ .null then
    let missing ← missingSpans literal.literal literal.spans
    require missing.isEmpty
      (schemaInvalid literal.absentSpans [literal.owner, ("spans", .arr missing)])

def Region.literal (region : Region) : Literal where
  owner := ("region_id", region.fields.regionId)
  language := region.fields.language
  literal := region.fields.selectedLiteralCandidate
  spans := region.fields.sourceEnglishSpans
  unsupported := "Evidence region has an unsupported source language."
  mismatch := "Evidence region source language does not match deterministic script classification."
  emptySpan := "Evidence region source-English spans must be non-empty strings."
  unexpectedSpans := "Source-English spans are only valid for mixed-language evidence."
  absentSpans := "Evidence region source-English spans are not present in its literal source."

def TableCell.literal (cell : TableCell) : Literal where
  owner := ("cell_id", cell.cellId)
  language := cell.sourceLanguage
  literal := cell.sourceText
  spans := cell.sourceEnglishSpans
  unsupported := "Evidence table cell has an unsupported source language."
  mismatch :=
    "Evidence table cell source language does not match deterministic script classification."
  emptySpan := "Evidence table source-English spans must be non-empty strings."
  unexpectedSpans := "Source-English spans are only valid for mixed-language table cells."
  absentSpans := "Evidence table source-English spans are not present in its literal source."

section
variable [Unicode] [Fractions] [Printing] (evidence : EvidenceIR)

def shapeTypeOf (native : Json) : String :=
  String.ofList (Unicode.casefold (str (Python.get native "shape_type" (.str ""))).toList)

/-- The engine object that stands for a native object without text. -/
def represented (regionId : String) (native visual : Json) : Bool :=
  let shapeType := shapeTypeOf native
  let kind := visual.field "kind"
  if shapeType = "group" then
    let children := evidence.nativeEvidence.filter fun item => item.isObject &&
      (regionId ++ "-").toList.isPrefixOf (str (Python.get item "source_id" (.str ""))).toList
    kind == .str "shape" && !children.isEmpty && children.all fun child =>
      evidence.visualElements.any fun element => element.isObject &&
        (element.field "element_id").equal (child.field "source_id")
  else if shapeType = "line" ∨ shapeType = "connector" then
    kind == .str "connector" && (visual.field "connector").isObject
  else if shapeType = "chart" then
    kind == .str "chart" && (visual.field "chart").isObject &&
      (visual.field "chart").equal (native.field "chart")
  else if shapeType = "table" then
    kind == .str "shape" &&
      evidence.tables.any fun table => table.tableId == .str (regionId ++ "-table")
  else false

/-- A disposition without a text keeps its native object and its visual. -/
def validateDisposition (regionId : String) : Except Raised Unit := do
  require (evidence.requiredSourceIds.elem (.str regionId)) (schemaInvalid
    "Native visual-preservation disposition must remain accounted for in required source coverage."
    [("region_id", .str regionId)])
  let native := evidence.nativeEvidence.find? fun item =>
    item.isObject && item.field "source_id" == .str regionId
  let matching := evidence.visualElements.filter fun item => item.isObject &&
    (item.field "element_id" == .str regionId || item.field "source_id" == .str regionId)
  let charted := native.any fun native => shapeTypeOf native == "chart"
  let visual := if charted then matching.find? fun item => item.field "kind" == .str "chart"
    else matching.head?
  match native, visual with
  | some native, some visual =>
    let text := if (native.field "text").truthy then native.field "text" else .str ""
    require (Text.isBlank (str text)) (schemaInvalid
      "Not-applicable text disposition lacks an exact native non-text visual source."
      [("region_id", .str regionId)])
    require (evidence.represented regionId native visual) (schemaInvalid
      "Not-applicable text disposition is not fully preserved by a matching engine visual/table object."
      [("region_id", .str regionId), ("shape_type", .str (shapeTypeOf native))])
  | _, _ => throw (schemaInvalid
      "Not-applicable text disposition lacks an exact native non-text visual source."
      [("region_id", .str regionId)])

def validateRegion (known : Known) (region : Region) : Except Raised Unit := do
  region.validateRecoveryContract
  region.literal.validate known.languagePolicyBound
  forM region.fields.numericFactIds fun factId =>
    requireM (factId.memberOf known.numericIds)
      (schemaInvalid "Evidence region references an unknown numeric fact." [("fact_id", factId)])
  require (!region.fields.tableId.truthy ||
      (text? region.fields.tableId).any (known.tableIds.elem ·))
    (schemaInvalid "Evidence region references an unknown table."
      [("table_id", region.fields.tableId)])
  if region.fields.translationDisposition = "NOT_APPLICABLE_NATIVE_VISUAL" then
    evidence.validateDisposition ((text? region.fields.regionId).getD "")

end

def validateCell (known : Known) (table : Table) (cell : TableCell) : Except Raised Unit := do
  let cellId : List (String × Json) := [("cell_id", cell.cellId)]
  require (decide (0 ≤ cell.row ∧ 0 ≤ cell.column ∧ cell.row < table.rowCount ∧
      cell.column < table.columnCount))
    (schemaInvalid "Evidence table cell is out of range." cellId)
  require (decide (1 ≤ cell.rowspan ∧ 1 ≤ cell.colspan ∧
      cell.row + cell.rowspan ≤ table.rowCount ∧ cell.column + cell.colspan ≤ table.columnCount))
    (schemaInvalid "Evidence table cell span exceeds table dimensions." cellId)
  require (tableCellStates.elem cell.cellState)
    (schemaInvalid "Evidence table cell has an unsupported structural state."
      [("cell_id", cell.cellId), ("cell_state", .str cell.cellState)])
  require (cell.isBlank != .bool true || cell.sourceText == .null || cell.sourceText == .str "")
    (schemaInvalid "A blank EvidenceIR cell cannot contain source text." cellId)
  cell.literal.validate known.languagePolicyBound
  forM cell.numericFactIds fun factId =>
    requireM (factId.memberOf known.numericIds)
      (schemaInvalid "Evidence cell references an unknown numeric fact." [("fact_id", factId)])
  forM cell.evidenceRegionIds fun regionId =>
    require ((text? regionId).any (known.regionIds.elem ·))
      (schemaInvalid "Evidence cell references an unknown region." [("region_id", regionId)])

def validateTable (known : Known) (table : Table) : Except Raised Unit := do
  let tableId : List (String × Json) := [("table_id", table.tableId)]
  let cellIds ← table.cells.mapM fun cell => identifier "cell_id" cell.cellId
  require (decide cellIds.Nodup)
    (schemaInvalid "Evidence table contains duplicate cell IDs." tableId)
  require (decide (1 ≤ table.rowCount ∧ 1 ≤ table.columnCount))
    (schemaInvalid "Evidence table dimensions must be positive." tableId)
  require (table.headerRows.all (fun row => 0 ≤ row && row < table.rowCount) &&
      table.headerColumns.all fun column => 0 ≤ column && column < table.columnCount)
    (schemaInvalid "Evidence table header coordinates are out of range." tableId)
  require (table.sourceNotes.all isVisibleText)
    (schemaInvalid "Evidence table source notes must be non-empty strings." tableId)
  forM table.cells (validateCell known table)

section
variable [Fractions]

def directions : List String :=
  ["start_to_end", "end_to_start", "bidirectional", "undirected", "ambiguous"]

/-- Both ends of a connector are visual elements. -/
def validateConnector (visualIds : List String) (elementId connector : Json) :
    Except Raised Unit := do
  let details : List (String × Json) := [("element_id", elementId)]
  let endpoints := schemaInvalid
    "Evidence connector endpoints must cite current visual elements." details
  require connector.isObject endpoints
  requireM ((connector.field "from_element_id").memberOf visualIds) endpoints
  requireM ((connector.field "to_element_id").memberOf visualIds) endpoints
  if connector.field "direction_evidence" ≠ .null then
    requireM ((connector.field "direction_evidence").memberOf directions)
      (schemaInvalid "Evidence connector direction evidence is not a closed value." details)
  forM ["start_arrow_type", "end_arrow_type"] fun key =>
    require ((connector.get? key).all fun arrow => (text? arrow).isSome)
      (schemaInvalid "Evidence connector arrowhead properties must be strings." details)

/-- A geometry has four values. -/
def isGeometry : Json → Bool
  | .null => true
  | .arr bounds => bounds.length == 4
  | _ => false

def validateElement (visualIds : List String) (element : Json) : Except Raised Unit := do
  require (element.isObject && (element.field "element_id").truthy)
    (schemaInvalid "Evidence visual elements require stable engine IDs." [])
  let elementId := element.field "element_id"
  let details : List (String × Json) := [("element_id", elementId)]
  require ((text? (element.field "kind")).any (· != ""))
    (schemaInvalid "Evidence visual element requires a non-empty kind." details)
  require (isGeometry (element.field "bbox_px"))
    (schemaInvalid "Evidence visual element geometry must be a four-value bbox." details)
  if element.field "kind" = .str "connector" then
    validateConnector visualIds elementId (element.field "connector")
  if element.field "kind" = .str "chart" then checkChart elementId (element.field "chart")

end

section
variable [Printing] (evidence : EvidenceIR)

def cells : List TableCell := evidence.tables.flatMap (·.cells)

/-- A reference to a false value is no reference, and of equal identifiers the last one counts. -/
def referenced {Item : Type} (items : List Item) (id : Item → Json) (reference : Json) :
    Option Item :=
  if reference.truthy then items.reverse.find? fun item => id item == .str (str reference)
  else none

/-- A fact comes from a literal that is there and is not risky. -/
def validateFact (fact : Json) : Except Raised Unit :=
  let region := referenced evidence.regions (·.fields.regionId) (fact.field "source_region_id")
  let cell := referenced evidence.cells (·.cellId) (fact.field "source_cell_id")
  require (!fact.isObject ||
      (region.all (!·.risky) && cell.all fun cell => (text? cell.sourceText).isSome))
    (schemaInvalid "Numeric facts cannot be derived from unresolved or absent literal evidence."
      [("fact_id", fact.field "fact_id")])

end

variable [Unicode] [Fractions] [Printing] (evidence : EvidenceIR)

/-- These checks read everything but the revision. -/
def validateContent : Except Raised Unit := do
  let _ ← identifier "document_id" evidence.documentId
  let _ ← identifier "work_unit_id" evidence.workUnitId
  let regionIds ← evidence.regions.mapM fun region => identifier "region_id" region.fields.regionId
  require (decide regionIds.Nodup)
    (schemaInvalid "EvidenceIR contains duplicate region IDs." [])
  let tableIds ← evidence.tables.mapM fun table => identifier "table_id" table.tableId
  require (decide tableIds.Nodup) (schemaInvalid "EvidenceIR contains duplicate table IDs." [])
  let numericIds := statedIds evidence.numericFacts "fact_id"
  require (decide numericIds.Nodup) (duplicate "EvidenceIR contains duplicate numeric fact IDs.")
  let visualIds := statedIds evidence.visualElements "element_id"
  require (decide visualIds.Nodup) (duplicate "EvidenceIR contains duplicate visual element IDs.")
  let known : Known := {
    regionIds, tableIds, numericIds, visualIds
    languagePolicyBound :=
      evidence.source.get? "source_language_policy" == some (.str "unicode-script-v1") }
  let requiredIds ← evidence.requiredSourceIds.mapM (identifier "required_source_id")
  forM evidence.regions (evidence.validateRegion known)
  forM evidence.tables (validateTable known)
  forM evidence.visualElements (validateElement visualIds)
  let cellIds := evidence.cells.filterMap fun cell => text? cell.cellId
  require (requiredIds.all fun id =>
      (regionIds ++ tableIds ++ numericIds ++ visualIds ++ cellIds).elem id)
    (schemaInvalid "EvidenceIR required source IDs contain unknown objects." [])
  forM evidence.numericFacts evidence.validateFact

/-- A stated revision is the revision of the content. -/
def validate [Sha256] : Except Raised Unit := do
  evidence.validateContent
  let expected ← evidence.computedRevision
  require (evidence.evidenceRevision == "" || evidence.evidenceRevision == expected)
    (.kslide ⟨.staleEvidence, "EvidenceIR revision does not match its immutable content.",
      [("expected", .str expected), ("actual", .str evidence.evidenceRevision)]⟩)

end KSlide.EvidenceIR
