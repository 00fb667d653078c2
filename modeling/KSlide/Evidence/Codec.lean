import KSlide.Evidence.Validation

/-
This file proves what the stored form of the evidence keeps of it.
-/

namespace KSlide.EvidenceIR
open Python

section
variable [Fractions] [Printing]

/-- A missing list of the stored form is empty. -/
def listOf (value : Json) (key : String) : Except Raised (List Json) :=
  tuple (Python.get value key (.arr []))

def Region.fromDict (value : Json) : Except Raised Region := do
  let get := Python.get value
  return make {
    regionId := ← item value "region_id"
    bboxPx := ← tuple (get "bbox_px" (.arr [.int 0, .int 0, .int 0, .int 0]))
    bboxNormalized := ← tuple
      (get "bbox_normalized" (.arr [.real "0.0", .real "0.0", .real "0.0", .real "0.0"]))
    readingOrder := ← int (get "reading_order" (.int 0))
    regionType := str (get "region_type" (.str "UNKNOWN"))
    nativeTextCandidates := ← listOf value "native_text_candidates"
    ocrCandidates := ← listOf value "ocr_candidates"
    selectedLiteralCandidate := value.field "selected_literal_candidate"
    literalConfidence := value.field "literal_confidence"
    evidenceState := some (str (get "evidence_state" (.str "NO_LITERAL_EVIDENCE")))
    language := value.field "language"
    sourceEnglishSpans := ← listOf value "source_english_spans"
    cropOriginalPath := value.field "crop_original_path"
    cropModelPath := value.field "crop_model_path"
    numericFactIds := ← listOf value "numeric_fact_ids"
    tableId := value.field "table_id"
    visualElementIds := ← listOf value "visual_element_ids"
    requiredForTranslation := (get "required_for_translation" (.bool true)).truthy
    translationDisposition := str (get "translation_disposition" (.str "REQUIRED"))
    dispositionPolicy := value.field "disposition_policy"
    dispositionEvidenceIds := ← listOf value "disposition_evidence_ids"
    recoveryStatus := value.field "recovery_status"
    recoveryAttempts := get "recovery_attempts" (.int 0)
    recoveryReason := value.field "recovery_reason" }

def TableCell.fromDict (value : Json) : Except Raised TableCell := do
  let get := Python.get value
  return {
    cellId := ← item value "cell_id"
    row := ← int (← item value "row")
    column := ← int (← item value "column")
    rowspan := ← int (get "rowspan" (.int 1))
    colspan := ← int (get "colspan" (.int 1))
    sourceText := value.field "source_text"
    sourceLanguage := value.field "source_language"
    sourceEnglishSpans := ← listOf value "source_english_spans"
    cellState := str (get "cell_state" (.str "unknown"))
    isMergeOrigin := value.field "is_merge_origin"
    isSpanned := value.field "is_spanned"
    isBlank := value.field "is_blank"
    isHeader := value.field "is_header"
    evidenceRegionIds := ← listOf value "evidence_region_ids"
    numericFactIds := ← listOf value "numeric_fact_ids"
    requiredForTranslation := (get "required_for_translation" (.bool true)).truthy }

def Table.fromDict (value : Json) : Except Raised Table := do
  let get := Python.get value
  return {
    tableId := ← item value "table_id"
    bboxPx := ← tuple (get "bbox_px" (.arr [.int 0, .int 0, .int 0, .int 0]))
    rowCount := ← int (get "row_count" (.int 0))
    columnCount := ← int (get "column_count" (.int 0))
    headers := ← listOf value "headers"
    headerRows := ← (← listOf value "header_rows").mapM int
    headerColumns := ← (← listOf value "header_columns").mapM int
    unit := value.field "unit"
    sourceNotes := ← listOf value "source_notes"
    cells := ← (← listOf value "cells").mapM TableCell.fromDict
    requiredForTranslation := (get "required_for_translation" (.bool true)).truthy }

/-- The decoded evidence before its checks. -/
def decode (value : Json) : Except Raised EvidenceIR := do
  require (value.field "schema_version" == .str schemaVersion)
    (schemaInvalid "Unsupported EvidenceIR schema version." [])
  let regions ← (← listOf value "regions").mapM Region.fromDict
  let tables ← (← listOf value "tables").mapM Table.fromDict
  return {
    documentId := ← item value "document_id"
    workUnitId := ← item value "work_unit_id"
    source := ← Dict.ofJson (Python.get value "source" (.obj []))
    regions
    tables
    numericFacts := ← listOf value "numeric_facts"
    visualElements := ← listOf value "visual_elements"
    nativeEvidence := ← listOf value "native_evidence"
    requiredSourceIds := ← listOf value "required_source_ids"
    evidenceRevision := str (Python.get value "evidence_revision" (.str "")) }

def fromDict [Unicode] [Sha256] (value : Json) : Except Raised EvidenceIR := do
  let result ← decode value
  result.validate
  return result

end
section
variable {names : List String} {value : String → Json} {name : String} {default : Json}

theorem get_record (listed : name ∈ names) :
    Python.get (.record names value) name default = value name := by
  unfold Python.get
  rw [Json.get?_record listed]
  rfl

theorem field_record (listed : name ∈ names) : (Json.record names value).field name = value name :=
  get_record listed

theorem item_record (listed : name ∈ names) :
    item (.record names value) name = .ok (value name) := by
  unfold item
  rw [Json.get?_record listed]
  rfl

theorem listOf_record (listed : name ∈ names) :
    listOf (.record names value) name = tuple (value name) := by
  unfold listOf
  rw [get_record listed]

end

/-- A region has its state since it was built. -/
theorem Region.state_settled (region : Region) :
    some region.fields.settledState = region.fields.evidenceState := by
  rw [← region.fields.postInit_state, region.settled]

section
variable [Fractions] [Printing]

/-- A stored region is read back. -/
theorem Region.fromDict_asDict (region : Region) : fromDict region.asDict = .ok region := by
  unfold fromDict asDict
  simp (disch := decide) only [item_record, get_record, listOf_record, field_record]
  show Except.ok (make { region.fields with evidenceState := some region.fields.settledState }) = _
  rw [region.state_settled, region.make_fields]

/-- A stored cell is read back. -/
theorem TableCell.fromDict_asDict (cell : TableCell) : fromDict cell.asDict = .ok cell := by
  unfold fromDict asDict
  simp (disch := decide) only [item_record, get_record, listOf_record, field_record]
  rfl

/-- A stored table is read back. -/
theorem Table.fromDict_asDict (table : Table) : fromDict table.asDict = .ok table := by
  have rows : (table.headerRows.map Json.int).mapM int = .ok table.headerRows := mapM_int _
  have columns : (table.headerColumns.map Json.int).mapM int = .ok table.headerColumns :=
    mapM_int _
  have cells : (table.cells.map (·.asDict)).mapM TableCell.fromDict = .ok table.cells :=
    mapM_written fun cell _ => cell.fromDict_asDict
  unfold fromDict asDict
  simp (disch := decide) only [item_record, get_record, listOf_record, field_record, field,
    tuple_arr]
  simp only [bind, Except.bind, rows, columns, cells]
  rfl

variable {evidence : EvidenceIR}

theorem decode_stored {source : Json} {dict : Dict} {revision : String}
    (read : Dict.ofJson source = .ok dict) : decode (evidence.stored source revision) =
      .ok { evidence with source := dict, evidenceRevision := revision } := by
  have regions : (evidence.regions.map (·.asDict)).mapM Region.fromDict = .ok evidence.regions :=
    mapM_written fun region _ => region.fromDict_asDict
  have tables : (evidence.tables.map (·.asDict)).mapM Table.fromDict = .ok evidence.tables :=
    mapM_written fun table _ => table.fromDict_asDict
  unfold decode stored
  simp (disch := decide) only [item_record, get_record, listOf_record, field_record,
    Function.update_of_ne, Function.update_self, field, tuple_arr]
  simp only [bind, Except.bind, regions, tables, read]
  rfl

/-- An object with texts as its keys is read back as it is. -/
theorem decode_named {fields : List (String × Json)} {revision : String}
    (named : evidence.source = .named fields) :
    decode (evidence.stored (.obj fields) revision) =
      .ok { evidence with evidenceRevision := revision } := by
  have read : Dict.ofJson (.obj fields) = .ok evidence.source := congrArg Except.ok named.symm
  exact decode_stored read

theorem decode_revision {value : Json} {revision : String}
    (decoded : decode value = .ok evidence)
    (stated : value.get? "evidence_revision" = some (.str revision)) :
    evidence.evidenceRevision = revision := by
  unfold decode at decoded
  simp only [bind_ok, pure_ok] at decoded
  obtain ⟨_, _, _, _, _, _, _, _, _, _, _, _, _, _, _, _, _, _, _, _, _, _, _, _, same⟩ := decoded
  rw [← same]
  show str (Python.get value "evidence_revision" (.str "")) = revision
  unfold Python.get
  rw [stated]
  rfl

/-- The payload tells everything but the revision. -/
theorem payload_inj {first second : EvidenceIR} {fields others : List (String × Json)}
    (named : first.source = .named fields) (alsoNamed : second.source = .named others)
    (same : first.payload (.obj fields) = second.payload (.obj others)) (revision : String) :
    { first with evidenceRevision := revision } = { second with evidenceRevision := revision } := by
  have values := Json.record_congr.mp same
  have stored : first.stored (.obj fields) revision = second.stored (.obj others) revision := by
    unfold stored
    rw [Json.record_congr]
    intro name listed
    by_cases here : name = "evidence_revision"
    · rw [here, Function.update_self, Function.update_self]
    · rw [Function.update_of_ne here, Function.update_of_ne here]
      apply values
      revert name
      decide
  have decoded : decode (first.stored (.obj fields) revision) = _ := decode_named named
  rw [stored, decode_named alsoNamed] at decoded
  exact (Except.ok.inj decoded).symm

end

section
variable [Fractions] {evidence : EvidenceIR}

theorem withoutRevision_named {fields : List (String × Json)}
    (named : evidence.source = .named fields) :
    evidence.withoutRevision = .ok (evidence.payload (.obj fields)) := by
  unfold withoutRevision
  rw [named]
  rfl

variable [Sha256]

theorem computedRevision_ok {revision : String} : evidence.computedRevision = .ok revision ↔
    ∃ source, evidence.source.written = .ok source ∧
      stableRevision (evidence.payload source) = revision := by
  unfold computedRevision withoutRevision
  simp only [bind_ok, pure_ok]
  constructor
  · intro parts
    obtain ⟨_, ⟨source, written, same⟩, computed⟩ := parts
    use source
    use written
    rw [same]
    exact computed
  · intro parts
    obtain ⟨source, written, computed⟩ := parts
    use evidence.payload source
    exact ⟨⟨source, written, rfl⟩, computed⟩

variable [Unicode] [Printing]

/-- The evidence passes its checks with a written source and the revision of its content. -/
structure Accepted (evidence : EvidenceIR) (source : Json) : Prop where
  content : evidence.validateContent = .ok ()
  written : evidence.source.written = .ok source
  revision : evidence.evidenceRevision = "" ∨
    evidence.evidenceRevision = stableRevision (evidence.payload source)

theorem validate_ok : evidence.validate = .ok () ↔ ∃ source, Accepted evidence source := by
  unfold validate
  simp only [bind_ok, require_ok, Bool.or_eq_true, beq_iff_eq, computedRevision_ok]
  constructor
  · intro parts
    obtain ⟨_, content, _, ⟨source, written, computed⟩, revision⟩ := parts
    rw [← computed] at revision
    exact ⟨source, content, written, revision⟩
  · intro parts
    obtain ⟨source, accepted⟩ := parts
    exact ⟨(), accepted.content, _, ⟨source, accepted.written, rfl⟩, accepted.revision⟩

theorem Accepted.asDict {source : Json} (accepted : Accepted evidence source) :
    evidence.asDict =
      .ok (evidence.stored source (stableRevision (evidence.payload source))) := by
  have computed : evidence.storedRevision = .ok (stableRevision (evidence.payload source)) := by
    unfold storedRevision
    rcases accepted.revision with missing | stated
    · rw [missing]
      exact computedRevision_ok.mpr ⟨source, accepted.written, rfl⟩
    · rw [stated]
      exact if_pos (stableRevision_ne_empty _)
  unfold EvidenceIR.asDict
  rw [accepted.written, computed]
  rfl

/-- Evidence with its computed revision passes the same checks. -/
theorem Accepted.revised {source : Json} (accepted : Accepted evidence source) :
    Accepted { evidence with evidenceRevision := stableRevision (evidence.payload source) }
      source where
  content := accepted.content
  written := accepted.written
  revision := Or.inr rfl

theorem fromDict_ok {value : Json} : fromDict value = .ok evidence ↔
    decode value = .ok evidence ∧ ∃ source, Accepted evidence source := by
  unfold fromDict
  simp only [bind_ok, pure_ok]
  constructor
  · intro parts
    obtain ⟨result, decoded, _, valid, same⟩ := parts
    rw [same] at decoded valid
    exact ⟨decoded, validate_ok.mp valid⟩
  · intro parts
    obtain ⟨decoded, accepted⟩ := parts
    exact ⟨evidence, decoded, (), validate_ok.mpr accepted, rfl⟩

theorem Accepted.fromDict_asDict {source : Json} (accepted : Accepted evidence source)
    (named : evidence.source.isNamed = true) : evidence.asDict >>= fromDict =
      .ok { evidence with evidenceRevision := stableRevision (evidence.payload source) } := by
  obtain ⟨fields, shape⟩ := Dict.isNamed_iff.mp named
  have written := accepted.written
  rw [shape] at written
  have same : .obj fields = source := Except.ok.inj written
  have decoded : decode (evidence.stored source (stableRevision (evidence.payload source))) =
      .ok { evidence with evidenceRevision := stableRevision (evidence.payload source) } := by
    rw [← same]
    exact decode_named shape
  rw [accepted.asDict]
  exact fromDict_ok.mpr ⟨decoded, source, accepted.revised⟩

theorem stated_revision {value source : Json} {revision : String}
    (decoded : decode value = .ok evidence) (accepted : Accepted evidence source)
    (stated : value.get? "evidence_revision" = some (.str revision)) (present : revision ≠ "") :
    evidence.evidenceRevision = revision ∧ stableRevision (evidence.payload source) = revision := by
  have same := decode_revision decoded stated
  constructor
  · exact same
  · rcases accepted.revision with missing | computed
    · rw [same] at missing
      exact absurd missing present
    · rw [← computed, same]

end
section
attribute [local instance] Unicode.basic Sha256.polynomial

/-- The samples have no fractions and print no lists. -/
@[reducible] def sampleFractions : Fractions where
  exact _ := 0
  read _ := none

@[reducible] def samplePrinting : Printing where
  text _ := ""

attribute [local instance] sampleFractions samplePrinting

def sampleRegion : Region := .make {
  regionId := .str "unit-1-region-1"
  selectedLiteralCandidate := .str "매출"
  language := .str "ko" }

def sampleTable : Table where
  tableId := .str "table-1"
  rowCount := 1
  columnCount := 1
  headerRows := [0]
  cells := [{
    cellId := .str "cell-1"
    row := 0
    column := 0
    sourceText := .str "Q4"
    evidenceRegionIds := [.str "unit-1-region-1"] }]

def sampleEvidence (source : Dict) (evidenceRevision : String) : EvidenceIR where
  documentId := .str "document-1"
  workUnitId := .str "unit-1"
  source
  regions := [sampleRegion]
  tables := [sampleTable]
  requiredSourceIds := [.str "unit-1-region-1"]
  evidenceRevision

def sampleSource : List (String × Json) := [("1", .int 2)]

def sampleRevision : String :=
  stableRevision ((sampleEvidence (.named sampleSource) "").payload (.obj sampleSource))

def sampleValue (source : Json) : Json :=
  (sampleEvidence (.named sampleSource) "").stored source sampleRevision

theorem sampleValue_read {source : Json} {dict : Dict} (read : Dict.ofJson source = .ok dict)
    (written : dict.written = .ok (.obj sampleSource))
    (checked : (sampleEvidence dict "").validateContent = .ok ()) :
    fromDict (sampleValue source) = .ok (sampleEvidence dict sampleRevision) := by
  have accepted : Accepted (sampleEvidence dict "") (.obj sampleSource) :=
    ⟨checked, written, Or.inl rfl⟩
  rw [fromDict_ok]
  exact ⟨decode_stored read, _, accepted.revised⟩

theorem sampleValue_stated (source : Json) :
    (sampleValue source).get? "evidence_revision" = some (.str sampleRevision) := rfl

theorem sampleRevision_present : sampleRevision ≠ "" := stableRevision_ne_empty _

end
end KSlide.EvidenceIR
