import KSlide.Digest
import KSlide.Translation.Fields

/-
This file gives the translation patch and its stored form.
-/

namespace KSlide
open Translation

/-- A region and a cell translate their text in the same way. -/
structure TranslatedText where
  english : String
  commitmentStatus : Option String
  speechAct : Option String
  unresolved : Bool
  unresolvedReason : Option String
  hangulRetention : Option HangulRetention
  provenance : Option ProvenanceState
  evidenceIds : Option (List String)
deriving DecidableEq

def Translation.texts (items : List String) : Json := .arr (items.map .str)

/-- An absent optional has no field. -/
def TranslatedText.field (text : TranslatedText) : String → Option Json
  | "english" => some (.str text.english)
  | "commitment_status" => text.commitmentStatus.map .str
  | "speech_act" => text.speechAct.map .str
  | "unresolved" => some (.bool text.unresolved)
  | "unresolved_reason" => text.unresolvedReason.map .str
  | "hangul_retention" => text.hangulRetention.map (·.value)
  | "provenance" => text.provenance.map fun state => .str (Text.Enumeration.value state)
  | "evidence_ids" => text.evidenceIds.map texts
  | _ => none

structure TranslationRegionPatch extends TranslatedText where
  regionId : PatchId
  termIds : List String
deriving DecidableEq

namespace TranslationRegionPatch

def fieldNames : List String := ["commitment_status", "english", "evidence_ids",
  "hangul_retention", "provenance", "region_id", "speech_act", "term_ids", "unresolved",
  "unresolved_reason"]

def field (region : TranslationRegionPatch) : String → Option Json
  | "region_id" => some (.str region.regionId.text)
  | "term_ids" => some (texts region.termIds)
  | name => region.toTranslatedText.field name

def asDict (region : TranslationRegionPatch) : Json := .optionalRecord fieldNames region.field

def parse (item : Json) : Except Raised TranslationRegionPatch := do
  require item.isObject (schemaError "TranslationPatch region must be an object.")
  requireFields item ["region_id", "english", "term_ids", "unresolved"] "region"
  onlyFields item fieldNames "region"
  let english ← checkedText (fun _ => true) (schemaError "region english must be a string.")
    (item.field "english")
  let regionId ← PatchId.ofJson (item.field "region_id") "region_id"
  let commitmentStatus ← optionalPresent item "commitment_status" "commitment_status"
  let speechAct ← optionalPresent item "speech_act" "speech_act"
  let termIds ← stringList (item.field "term_ids") "term_ids"
  let unresolved ← Translation.boolean (item.field "unresolved") "unresolved"
  let unresolvedReason ← optionalPresent item "unresolved_reason" "unresolved_reason"
  let hangulRetention ← hangulRetention (item.field "hangul_retention") "region hangul_retention"
  let provenance ← Translation.provenance (item.field "provenance") "region provenance"
  let evidenceIds ← presentList item "evidence_ids" "region evidence_ids"
  return ⟨⟨english, commitmentStatus, speechAct, unresolved, unresolvedReason, hangulRetention,
    provenance, evidenceIds⟩, regionId, termIds⟩

end TranslationRegionPatch

structure TranslationCellPatch extends TranslatedText where
  cellId : PatchId
deriving DecidableEq

namespace TranslationCellPatch

def fieldNames : List String := ["cell_id", "commitment_status", "english", "evidence_ids",
  "hangul_retention", "provenance", "speech_act", "unresolved", "unresolved_reason"]

def field (cell : TranslationCellPatch) : String → Option Json
  | "cell_id" => some (.str cell.cellId.text)
  | name => cell.toTranslatedText.field name

def asDict (cell : TranslationCellPatch) : Json := .optionalRecord fieldNames cell.field

def parse (item : Json) : Except Raised TranslationCellPatch := do
  require item.isObject (schemaError "TranslationPatch cell must be an object.")
  requireFields item ["cell_id", "english", "unresolved"] "table cell"
  onlyFields item fieldNames "table cell"
  let english ← checkedText (fun _ => true) (schemaError "table cell english must be a string.")
    (item.field "english")
  let cellId ← PatchId.ofJson (item.field "cell_id") "cell_id"
  let commitmentStatus ← optionalPresent item "commitment_status" "table-cell commitment_status"
  let speechAct ← optionalPresent item "speech_act" "table-cell speech_act"
  let unresolved ← Translation.boolean (item.field "unresolved") "unresolved"
  let unresolvedReason ← optionalPresent item "unresolved_reason" "unresolved_reason"
  let hangulRetention ← hangulRetention (item.field "hangul_retention") "table cell hangul_retention"
  let provenance ← Translation.provenance (item.field "provenance") "table cell provenance"
  let evidenceIds ← presentList item "evidence_ids" "table cell evidence_ids"
  return ⟨⟨english, commitmentStatus, speechAct, unresolved, unresolvedReason, hangulRetention,
    provenance, evidenceIds⟩, cellId⟩

end TranslationCellPatch

structure TranslationTablePatch where
  tableId : PatchId
  cells : List TranslationCellPatch
deriving DecidableEq

namespace TranslationTablePatch

def asDict (table : TranslationTablePatch) : Json := .obj [
  ("cells", .arr (table.cells.map (·.asDict))), ("table_id", .str table.tableId.text)]

/-- Missing cells are none. -/
def parse (item : Json) : Except Raised TranslationTablePatch := do
  require item.isObject (schemaError "TranslationPatch table must be an object.")
  onlyFields item ["table_id", "cells"] "table"
  let items ← arrayOf ((item.get? "cells").getD (.arr []))
    "TranslationPatch table cells must be an array."
  let cells ← items.mapM TranslationCellPatch.parse
  let tableId ← PatchId.ofJson (item.field "table_id") "table_id"
  return ⟨tableId, cells⟩

end TranslationTablePatch

/-- The checks of a visual interpretation return nothing. -/
def checkVisualInterpretation (relation : Json) : Except Raised Unit := do
  requireFields relation ["relation_id", "interpretation", "evidence_ids"] "visual interpretation"
  onlyFields relation ["source_element_ids", "relation_type", "direction", "chart_claim",
    "hangul_retention", "provenance", "unresolved_reason", "relation_id", "interpretation",
    "evidence_ids"] "visual interpretation"
  let _ ← PatchId.ofJson (relation.field "relation_id") "relation_id"
  let _ ← checkedText (fun _ => true) (schemaError "visual interpretation must be a string.")
    (relation.field "interpretation")
  let _ ← stringList (relation.field "evidence_ids") "visual interpretation evidence_ids"
  let _ ← stringList ((relation.get? "source_element_ids").getD (.arr []))
    "visual interpretation source_element_ids"
  let _ ← Translation.provenance (relation.field "provenance") "visual interpretation provenance"
  let _ ← optionalPresent relation "unresolved_reason" "visual interpretation unresolved_reason"
  let _ ← optionalEnum RelationType (relation.field "relation_type") "relation_type"
  let _ ← optionalEnum RelationDirection (relation.field "direction") "direction"
  require (relation.field "chart_claim" == .null || (relation.field "chart_claim").isObject)
    (schemaError "visual interpretation chart_claim must be an object.")
  let _ ← hangulRetention (relation.field "hangul_retention")
    "visual interpretation hangul_retention"

def checkExecutiveClaim (claim : Json) : Except Raised Unit := do
  requireFields claim ["claim_id", "kind", "text", "evidence_ids", "uncertainty"]
    "executive claim"
  onlyFields claim ["hangul_retention", "provenance", "unresolved_reason", "claim_id", "kind",
    "text", "evidence_ids", "uncertainty"] "executive claim"
  let _ ← hangulRetention (claim.field "hangul_retention") "executive claim hangul_retention"
  let _ ← Translation.provenance (claim.field "provenance") "executive claim provenance"
  let _ ← optionalPresent claim "unresolved_reason" "executive claim unresolved_reason"

/-- A checked object is stored as it is. -/
structure CheckedObject (check : Json → Except Raised Unit) where
  value : Json
  object : value.isObject = true
  checked : check value = .ok ()
deriving DecidableEq

structure TranslationPatch where
  workUnitId : PatchId
  evidenceRevision : String
  regions : List TranslationRegionPatch
  tables : List TranslationTablePatch
  visualInterpretations : List (CheckedObject checkVisualInterpretation)
  executiveClaims : List (CheckedObject checkExecutiveClaim)
  repairRevision : Option String
  schemaVersion : String
deriving DecidableEq

namespace TranslationPatch

def fieldNames : List String := ["evidence_revision", "executive_claims", "regions",
  "repair_revision", "schema_version", "tables", "visual_interpretations", "work_unit_id"]

def field (patch : TranslationPatch) : String → Option Json
  | "schema_version" => some (.str patch.schemaVersion)
  | "work_unit_id" => some (.str patch.workUnitId.text)
  | "evidence_revision" => some (.str patch.evidenceRevision)
  | "regions" => some (.arr (patch.regions.map (·.asDict)))
  | "tables" => some (.arr (patch.tables.map (·.asDict)))
  | "visual_interpretations" => some (.arr (patch.visualInterpretations.map (·.value)))
  | "executive_claims" => some (.arr (patch.executiveClaims.map (·.value)))
  | "repair_revision" => patch.repairRevision.map .str
  | _ => none

def asDict (patch : TranslationPatch) : Json := .optionalRecord fieldNames patch.field

/-- The revision leaves the repaired revision out. -/
def payload (patch : TranslationPatch) : Json := patch.asDict.without "repair_revision"

def revision [Sha256] (patch : TranslationPatch) : String := stableRevision patch.payload

end TranslationPatch

def CheckedObject.ofJson (check : Json → Except Raised Unit) (item : Json) :
    Except Raised (CheckedObject check) :=
  if object : item.isObject = true then
    match checked : check item with
    | .ok _ => .ok ⟨item, object, checked⟩
    | .error raised => .error raised
  -- the array is refused before an item that is no object is checked
  else .error (.other "AttributeError")

/-- All items of the array are objects before the first of them is checked. -/
def checkedObjects (check : Json → Except Raised Unit) (value : Json) (message : String) :
    Except Raised (List (CheckedObject check)) := do
  let items ← arrayOf value message
  require (items.all (·.isObject)) (schemaError message)
  items.mapM (CheckedObject.ofJson check)

def parseTranslationPatch (value : Json) : Except Raised TranslationPatch := do
  require value.isObject (schemaError "TranslationPatch must be an object.")
  onlyFields value TranslationPatch.fieldNames "payload"
  requireFields value ["schema_version", "work_unit_id", "evidence_revision", "regions", "tables",
    "visual_interpretations", "executive_claims"] "payload"
  let regionItems ← arrayOf (value.field "regions")
    "TranslationPatch regions and tables must be arrays."
  let tableItems ← arrayOf (value.field "tables")
    "TranslationPatch regions and tables must be arrays."
  let regions ← regionItems.mapM TranslationRegionPatch.parse
  let tables ← tableItems.mapM TranslationTablePatch.parse
  let visualInterpretations ← checkedObjects checkVisualInterpretation
    (value.field "visual_interpretations") "visual_interpretations must be an array of objects."
  let executiveClaims ← checkedObjects checkExecutiveClaim
    (value.field "executive_claims") "executive_claims must be an array of objects."
  let evidenceRevision ← checkedText (fun _ => true)
    (schemaError "evidence_revision must be a string.") (value.field "evidence_revision")
  let schemaVersion ← checkedText (fun _ => true)
    (schemaError "schema_version must be a string.") (value.field "schema_version")
  let workUnitId ← PatchId.ofJson (value.field "work_unit_id") "work_unit_id"
  let repairRevision ← optionalPresent value "repair_revision" "repair_revision"
  return ⟨workUnitId, evidenceRevision, regions, tables, visualInterpretations, executiveClaims,
    repairRevision, schemaVersion⟩

end KSlide
