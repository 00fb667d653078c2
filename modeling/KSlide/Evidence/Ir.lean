import KSlide.Digest
import KSlide.Json.Conversions
import KSlide.Json.Record

/-
This file gives the evidence of a work unit as the engine builds, stores and numbers it.
-/

namespace KSlide

namespace EvidenceIR
open Python

def riskyLiteralStates : List String := ["DISAGREEMENT", "LOW_CONFIDENCE", "NO_LITERAL_EVIDENCE"]

def literalEvidenceStates : List String :=
  ["HIGH_AGREEMENT", "MEDIUM_AGREEMENT", "NATIVE_ONLY", "OCR_ONLY", "DISAGREEMENT",
   "LOW_CONFIDENCE", "NO_LITERAL_EVIDENCE", "HIGH_CONFIDENCE"]

/-- The arguments of a region, where the decoder converts some and passes the others as they are. -/
structure RegionFields where
  regionId : Json
  bboxPx : List Json := [.int 0, .int 0, .int 0, .int 0]
  bboxNormalized : List Json := [.real "0.0", .real "0.0", .real "0.0", .real "0.0"]
  readingOrder : Int := 0
  regionType : String := "UNKNOWN"
  nativeTextCandidates : List Json := []
  ocrCandidates : List Json := []
  selectedLiteralCandidate : Json := .null
  literalConfidence : Json := .null
  evidenceState : Option String := none
  language : Json := .null
  sourceEnglishSpans : List Json := []
  cropOriginalPath : Json := .null
  cropModelPath : Json := .null
  numericFactIds : List Json := []
  tableId : Json := .null
  visualElementIds : List Json := []
  requiredForTranslation : Bool := true
  translationDisposition : String := "REQUIRED"
  dispositionPolicy : Json := .null
  dispositionEvidenceIds : List Json := []
  recoveryStatus : Json := .null
  recoveryAttempts : Json := .int 0
  recoveryReason : Json := .null
deriving DecidableEq

namespace RegionFields
variable (fields : RegionFields)

/-- A region without a state trusts the literal that the engine selected. -/
def settledState : String :=
  match fields.evidenceState with
  | some state => state
  | none =>
    if fields.selectedLiteralCandidate.truthy && fields.nativeTextCandidates.isEmpty &&
        fields.ocrCandidates.isEmpty then "NATIVE_ONLY"
    else if !fields.selectedLiteralCandidate.truthy then "NO_LITERAL_EVIDENCE"
    else "NATIVE_ONLY"

def risky : Bool := riskyLiteralStates.contains fields.settledState

/-- The constructor settles the state of the literal and then the state of its recovery. -/
def postInit : RegionFields :=
  let settled := { fields with evidenceState := some fields.settledState }
  if fields.recoveryStatus ≠ .null then settled
  else if fields.risky then
    { settled with
      recoveryStatus := .str "NEEDS_REVIEW"
      recoveryReason := if fields.recoveryReason.truthy then fields.recoveryReason
        else .str "No trustworthy literal evidence is available after bounded engine recovery." }
  else { settled with recoveryStatus := .str "NOT_REQUIRED" }

theorem postInit_known {settled : RegionFields} {state : String}
    (known : settled.evidenceState = some state) (status : settled.recoveryStatus ≠ .null) :
    settled.postInit = settled := by
  have same : settled.settledState = state := by
    unfold settledState
    rw [known]
  unfold postInit
  dsimp only
  rw [if_pos status, same, ← known]

theorem postInit_state : fields.postInit.evidenceState = some fields.settledState := by
  unfold postInit
  dsimp only
  split
  · rfl
  · split <;> rfl

theorem postInit_status : fields.postInit.recoveryStatus ≠ .null := by
  unfold postInit
  dsimp only
  split
  · assumption
  · split
    · intro missing
      cases missing
    · intro missing
      cases missing

theorem postInit_postInit : fields.postInit.postInit = fields.postInit :=
  postInit_known fields.postInit_state fields.postInit_status

end RegionFields

/-- A region of the evidence has been through its constructor. -/
structure Region where
  fields : RegionFields
  settled : fields.postInit = fields
deriving DecidableEq

namespace Region

def make (fields : RegionFields) : Region := ⟨fields.postInit, fields.postInit_postInit⟩

theorem make_fields (region : Region) : make region.fields = region := by
  obtain ⟨fields, settled⟩ := region
  unfold make
  congr 1

def risky (region : Region) : Bool := region.fields.risky

def fieldNames : List String :=
  ["bbox_normalized", "bbox_px", "crop_model_path", "crop_original_path",
   "disposition_evidence_ids", "disposition_policy", "evidence_state", "language",
   "literal_confidence", "native_text_candidates", "numeric_fact_ids", "ocr_candidates",
   "reading_order", "recovery_attempts", "recovery_reason", "recovery_status", "region_id",
   "region_type", "required_for_translation", "selected_literal_candidate",
   "source_english_spans", "table_id", "translation_disposition", "visual_element_ids"]

def field (region : Region) : String → Json
  | "bbox_normalized" => .arr region.fields.bboxNormalized
  | "bbox_px" => .arr region.fields.bboxPx
  | "crop_model_path" => region.fields.cropModelPath
  | "crop_original_path" => region.fields.cropOriginalPath
  | "disposition_evidence_ids" => .arr region.fields.dispositionEvidenceIds
  | "disposition_policy" => region.fields.dispositionPolicy
  | "evidence_state" => .str region.fields.settledState
  | "language" => region.fields.language
  | "literal_confidence" => region.fields.literalConfidence
  | "native_text_candidates" => .arr region.fields.nativeTextCandidates
  | "numeric_fact_ids" => .arr region.fields.numericFactIds
  | "ocr_candidates" => .arr region.fields.ocrCandidates
  | "reading_order" => .int region.fields.readingOrder
  | "recovery_attempts" => region.fields.recoveryAttempts
  | "recovery_reason" => region.fields.recoveryReason
  | "recovery_status" => region.fields.recoveryStatus
  | "region_id" => region.fields.regionId
  | "region_type" => .str region.fields.regionType
  | "required_for_translation" => .bool region.fields.requiredForTranslation
  | "selected_literal_candidate" => region.fields.selectedLiteralCandidate
  | "source_english_spans" => .arr region.fields.sourceEnglishSpans
  | "table_id" => region.fields.tableId
  | "translation_disposition" => .str region.fields.translationDisposition
  | "visual_element_ids" => .arr region.fields.visualElementIds
  | _ => .null

def asDict (region : Region) : Json := .record fieldNames region.field

end Region

structure TableCell where
  cellId : Json
  row : Int
  column : Int
  rowspan : Int := 1
  colspan : Int := 1
  sourceText : Json := .null
  sourceLanguage : Json := .null
  sourceEnglishSpans : List Json := []
  cellState : String := "unknown"
  isMergeOrigin : Json := .null
  isSpanned : Json := .null
  isBlank : Json := .null
  isHeader : Json := .null
  evidenceRegionIds : List Json := []
  numericFactIds : List Json := []
  requiredForTranslation : Bool := true
deriving DecidableEq

namespace TableCell

def fieldNames : List String :=
  ["cell_id", "cell_state", "colspan", "column", "evidence_region_ids", "is_blank", "is_header",
   "is_merge_origin", "is_spanned", "numeric_fact_ids", "required_for_translation", "row",
   "rowspan", "source_english_spans", "source_language", "source_text"]

def field (cell : TableCell) : String → Json
  | "cell_id" => cell.cellId
  | "cell_state" => .str cell.cellState
  | "colspan" => .int cell.colspan
  | "column" => .int cell.column
  | "evidence_region_ids" => .arr cell.evidenceRegionIds
  | "is_blank" => cell.isBlank
  | "is_header" => cell.isHeader
  | "is_merge_origin" => cell.isMergeOrigin
  | "is_spanned" => cell.isSpanned
  | "numeric_fact_ids" => .arr cell.numericFactIds
  | "required_for_translation" => .bool cell.requiredForTranslation
  | "row" => .int cell.row
  | "rowspan" => .int cell.rowspan
  | "source_english_spans" => .arr cell.sourceEnglishSpans
  | "source_language" => cell.sourceLanguage
  | "source_text" => cell.sourceText
  | _ => .null

def asDict (cell : TableCell) : Json := .record fieldNames cell.field

end TableCell

structure Table where
  tableId : Json
  bboxPx : List Json := [.int 0, .int 0, .int 0, .int 0]
  rowCount : Int := 0
  columnCount : Int := 0
  headers : List Json := []
  headerRows : List Int := []
  headerColumns : List Int := []
  unit : Json := .null
  sourceNotes : List Json := []
  cells : List TableCell := []
  requiredForTranslation : Bool := true
deriving DecidableEq

namespace Table

def fieldNames : List String :=
  ["bbox_px", "cells", "column_count", "header_columns", "header_rows", "headers",
   "required_for_translation", "row_count", "source_notes", "table_id", "unit"]

def field (table : Table) : String → Json
  | "bbox_px" => .arr table.bboxPx
  | "cells" => .arr (table.cells.map (·.asDict))
  | "column_count" => .int table.columnCount
  | "header_columns" => .arr (table.headerColumns.map .int)
  | "header_rows" => .arr (table.headerRows.map .int)
  | "headers" => .arr table.headers
  | "required_for_translation" => .bool table.requiredForTranslation
  | "row_count" => .int table.rowCount
  | "source_notes" => .arr table.sourceNotes
  | "table_id" => table.tableId
  | "unit" => table.unit
  | _ => .null

def asDict (table : Table) : Json := .record fieldNames table.field

end Table

def schemaVersion : String := "1.0"

end EvidenceIR

/-- The source evidence of one work unit. -/
structure EvidenceIR where
  documentId : Json
  workUnitId : Json
  source : Python.Dict
  regions : List EvidenceIR.Region := []
  tables : List EvidenceIR.Table := []
  numericFacts : List Json := []
  visualElements : List Json := []
  nativeEvidence : List Json := []
  requiredSourceIds : List Json := []
  evidenceRevision : String := ""
deriving DecidableEq

namespace EvidenceIR
variable [Fractions] (evidence : EvidenceIR)

def fieldNames : List String :=
  ["document_id", "native_evidence", "numeric_facts", "regions", "required_source_ids",
   "schema_version", "source", "tables", "visual_elements", "work_unit_id"]

/-- The value of each name, where the source has its written form. -/
def field (source : Json) : String → Json
  | "document_id" => evidence.documentId
  | "native_evidence" => .arr evidence.nativeEvidence
  | "numeric_facts" => .arr evidence.numericFacts
  | "regions" => .arr (evidence.regions.map (·.asDict))
  | "required_source_ids" => .arr evidence.requiredSourceIds
  | "schema_version" => .str schemaVersion
  | "source" => source
  | "tables" => .arr (evidence.tables.map (·.asDict))
  | "visual_elements" => .arr evidence.visualElements
  | "work_unit_id" => evidence.workUnitId
  | _ => .null

def payload (source : Json) : Json := .record fieldNames (evidence.field source)

/-- This is the JSON form, and some sources have none. -/
def withoutRevision : Except Raised Json := return evidence.payload (← evidence.source.written)

variable [Sha256]

def computedRevision : Except Raised String := return stableRevision (← evidence.withoutRevision)

def storedNames : List String :=
  ["document_id", "evidence_revision", "native_evidence", "numeric_facts", "regions",
   "required_source_ids", "schema_version", "source", "tables", "visual_elements",
   "work_unit_id"]

def stored (source : Json) (revision : String) : Json :=
  .record storedNames (Function.update (evidence.field source) "evidence_revision" (.str revision))

/-- A revision that is still missing is computed. -/
def storedRevision : Except Raised String :=
  if evidence.evidenceRevision ≠ "" then .ok evidence.evidenceRevision
  else evidence.computedRevision

/-- The stored form also has the revision. -/
def asDict : Except Raised Json := do
  let source ← evidence.source.written
  return evidence.stored source (← evidence.storedRevision)

end EvidenceIR
end KSlide
