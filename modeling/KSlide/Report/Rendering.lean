import KSlide.Conflict.Structure
import KSlide.Evidence.Ir
import KSlide.Evidence.Recovery
import KSlide.Run.Queue

/-
This file gives the canonical slide of a work unit and the reports of a run.
-/

namespace KSlide

inductive TableCellState where
  | nonblank | blank | mergeOrigin | mergeContinuation | unknown
deriving DecidableEq, Repr

instance : Text.Enumeration TableCellState where
  value
    | .nonblank => "nonblank"
    | .blank => "blank"
    | .mergeOrigin => "merge_origin"
    | .mergeContinuation => "merge_continuation"
    | .unknown => "unknown"
  all := [.nonblank, .blank, .mergeOrigin, .mergeContinuation, .unknown]

namespace SlideIR

structure TextRegion where
  readingOrder : Int
  translation : Option String
  provenance : String
  termMatches : List String
  unresolvedReason : Option String

structure TableCell where
  row : Nat
  column : Nat
  sourceText : Option String
  translation : Option String
  rowspan : Nat
  colspan : Nat
  cellState : TableCellState
  isHeader : Option Bool
  unresolved : Bool
  unresolvedReason : Option String
  provenance : String

structure TableIR where
  tableId : String
  rowCount : Nat
  columnCount : Nat
  headerRows : List Nat
  headerColumns : List Nat
  unit : Option String
  sourceNotes : List String
  cells : List TableCell

structure VisualRelation where
  relationId : String
  sourceElementIds : List String
  direction : Option String
  interpretation : Option String
  provenance : String
  unresolvedReason : Option String

structure ExecutiveClaim where
  kind : String
  text : Option String
  provenance : String
  unresolvedReason : Option String
  uncertainty : String
  evidenceIds : List String

/-- An unresolved item names the semantic object that it belongs to. -/
structure UnresolvedItem where
  regionId : Option String
  cellId : Option String
  relationId : Option String
  claimId : Option String
  reason : Option String
  unresolvedReason : Option String
  evidenceIds : List String

structure CoverageEntry where
  sourceId : String
  status : String
  note : Option String

end SlideIR

/-- The report reads these parts of a canonical slide. -/
structure SlideIR where
  regions : List SlideIR.TextRegion
  tables : List SlideIR.TableIR
  visualRelations : List SlideIR.VisualRelation
  executiveClaims : List SlideIR.ExecutiveClaim
  unresolved : List SlideIR.UnresolvedItem
  coverage : List SlideIR.CoverageEntry

namespace Report
open SlideIR Python

/-- An absent or empty text stands for the other text. -/
def orText (text : Option String) (other : String) : String :=
  match text with
  | some text => if text = "" then other else text
  | none => other

def provenanceLabel (state : String) : String :=
  if state = "source_fact" then "SOURCE FACT"
  else if state = "supported_interpretation" then "SUPPORTED INTERPRETATION"
  else "UNRESOLVED"

def semanticText (text : Option String) (state : String) (reason : Option String) : String :=
  if state = "unresolved" then
    "[" ++ provenanceLabel state ++ ": " ++ orText reason "Evidence is unresolved." ++ "]"
  else "[" ++ provenanceLabel state ++ "] " ++ orText text "[unreadable]"

def joined (texts : List String) : String := ", ".intercalate texts

def coordinates (values : List Nat) : String :=
  orText (some (joined (values.map fun value => toString (value + 1)))) "none"

def headerLine (table : TableIR) : String :=
  if table.headerRows.isEmpty && table.headerColumns.isEmpty then
    "Header semantics: not proven by native source structure."
  else "Header coordinates: rows `" ++ coordinates table.headerRows ++ "`; columns `" ++
    coordinates table.headerColumns ++ "`"

def unitLines (table : TableIR) : List String :=
  match table.unit with
  | some unit => if unit = "" then [] else ["Unit: `" ++ unit ++ "`"]
  | none => []

def noteLines (table : TableIR) : List String :=
  if table.sourceNotes.isEmpty then []
  else "Source notes / footnotes:" :: table.sourceNotes.map ("- " ++ ·)

def header : Option Bool → String
  | some true => "yes"
  | some false => "no"
  | none => "unknown"

def english (cell : TableCell) : String :=
  semanticText cell.translation cell.provenance cell.unresolvedReason

def cellLine (cell : TableCell) : String :=
  "| " ++ toString (cell.row + 1) ++ " | " ++ toString (cell.column + 1) ++ " | " ++
    toString cell.rowspan ++ "×" ++ toString cell.colspan ++ " | " ++ header cell.isHeader ++
    " | " ++ Text.Enumeration.value cell.cellState ++ " | " ++ cell.sourceText.getD "" ++ " | " ++
    english cell ++ " | " ++ provenanceLabel cell.provenance ++ " | " ++
    (if cell.unresolved then "unresolved" else "translated") ++ " |"

/-- The cells of a table stand in the order of their coordinates. -/
def sortedCells (table : TableIR) : List TableCell :=
  table.cells.insertionSort fun first second =>
    toLex (first.row, first.column) ≤ toLex (second.row, second.column)

def tableOpening (table : TableIR) : List String :=
  ["#### Table `" ++ table.tableId ++ "`", "",
    "Dimensions: `" ++ toString table.rowCount ++ " × " ++ toString table.columnCount ++ "`",
    headerLine table] ++ unitLines table ++ noteLines table ++ [""]

def tableMarkdown (table : TableIR) : List String :=
  if table.cells.isEmpty then tableOpening table ++ ["_No source cells were extracted._", ""]
  else tableOpening table ++ [
    "| Row | Column | Span | Header | Cell state | Source | English | Provenance | Status |",
    "| ---: | ---: | ---: | --- | --- | --- | --- | --- | --- |"] ++
    (sortedCells table).map cellLine ++ [""]

section

def regionLine (region : TextRegion) : String :=
  "- " ++ semanticText region.translation region.provenance region.unresolvedReason

def relationLine (relation : VisualRelation) : String :=
  "- `" ++ relation.relationId ++ "` (" ++
    orText (some (joined relation.sourceElementIds)) "no explicit elements" ++ "; direction: " ++
    orText relation.direction "unknown" ++ "): " ++
    semanticText relation.interpretation relation.provenance relation.unresolvedReason

def claimLine (claim : ExecutiveClaim) : String :=
  "- **" ++ provenanceLabel claim.provenance ++ " · " ++ claim.kind ++ "**: " ++
    semanticText claim.text claim.provenance claim.unresolvedReason ++ " _(uncertainty: " ++
    claim.uncertainty ++ "; evidence: " ++ joined claim.evidenceIds ++ ")_"

/-- The name of the item is the first one present. -/
def itemName (item : UnresolvedItem) : String :=
  (item.regionId <|> item.cellId <|> item.relationId <|> item.claimId).getD "unknown"

def unresolvedLine (item : UnresolvedItem) : String :=
  "- `" ++ itemName item ++ "`: **UNRESOLVED** — " ++
    (item.reason <|> item.unresolvedReason).getD "Unresolved source evidence." ++
    " _(evidence: " ++ joined item.evidenceIds ++ ")_"

def coverageLine (coverage : CoverageEntry) : String :=
  "| `" ++ coverage.sourceId ++ "` | " ++ coverage.status ++ " | " ++ coverage.note.getD "" ++ " |"

variable [Printing]

def itemsOf : Json → List Json
  | .arr items => items
  | _ => []

def orEmptyText (value : Json) : String := if value.truthy then str value else ""

/-- The values of a series stand for its points. -/
def seriesLine (series : Json) : String :=
  "  - Series `" ++ str (get series "name" (.str "")) ++ "`: " ++
    str (if series.isObject then get series "points" (get series "values" (.arr []))
      else .arr [])

def axisLines (chart : Json) : List String :=
  if (chart.field "axis_labels").truthy || (chart.field "unit_labels").truthy then
    ["  - Axes/units: " ++ str (get chart "axis_labels" (.obj [])) ++ "; " ++
      str (get chart "unit_labels" (.obj []))]
  else []

def chartLines (element : Json) : List String :=
  let chart := element.field "chart"
  ("- `" ++ str (element.field "element_id") ++ "`: type `" ++
      str (get chart "chart_type" (.str "unknown")) ++ "`, title `" ++
      orEmptyText (chart.field "title") ++ "`, categories `" ++
      joined ((itemsOf (get chart "categories" (.arr []))).map str) ++ "`.") ::
    (axisLines chart ++ (itemsOf (get chart "series" (.arr []))).map seriesLine)

def charts (evidence : EvidenceIR) : List Json :=
  evidence.visualElements.filter fun element =>
    element.field "kind" == .str "chart" && (element.field "chart").isObject

def contextLine (evidence : EvidenceIR) : String :=
  match evidence.visualElements.find? fun element => element.field "kind" == .str "context_image" with
  | some context =>
    "- Whole-work-unit visual context is preserved at `" ++ str (context.field "path") ++ "`."
  | none => "- No structured visual relationship was extracted."

/-- A review item asks for the repair of one unresolved item. -/
structure ReviewItem where
  workUnitId : String
  sourceId : Option String
  reason : Option String
  evidenceIds : List String
  severity : String
  cropPath : Json
  recommendedAction : String

/-- The first name that is not empty names the source. -/
def sourceId (item : UnresolvedItem) : Option String :=
  match [item.regionId, item.cellId, item.relationId].find? fun name => name.any (· != "") with
  | some name => name
  | none => item.claimId

def reviewItem (workUnitId : String) (evidence : EvidenceIR) (item : UnresolvedItem) : ReviewItem where
  workUnitId
  sourceId := sourceId item
  reason := match item.reason with
    | some reason => if reason = "" then item.unresolvedReason else some reason
    | none => item.unresolvedReason
  evidenceIds := item.evidenceIds
  severity := "MAJOR"
  cropPath := match evidence.regions.find? fun region =>
      region.fields.regionId == Json.ofText? (sourceId item) with
    | some region => region.fields.cropOriginalPath
    | none => .null
  recommendedAction := "Review the source crop and submit a targeted repair."

/-- A translated unit has its evidence and its canonical slide. -/
structure TranslatedUnit where
  evidence : EvidenceIR
  slide : SlideIR

def sortedRegions (slide : SlideIR) : List TextRegion :=
  slide.regions.insertionSort fun first second => first.readingOrder ≤ second.readingOrder

def termMatches (slide : SlideIR) : List String := slide.regions.flatMap (·.termMatches)

def noRegions : String := "_No text regions were extracted._"
def noTables : String := "_No tables were extracted._"
def noTerms : String := "_No termbase matches recorded._"
def noClaims : String := "_No evidence-backed executive claims recorded._"
def noUnresolved : String := "None."

def whenEmpty {Item : Type} (items : List Item) (note : String) : List String :=
  if items.isEmpty then [note] else []

def visualLines (unit : TranslatedUnit) : List String :=
  if unit.slide.visualRelations.isEmpty then [contextLine unit.evidence]
  else unit.slide.visualRelations.map relationLine

def chartSection (evidence : EvidenceIR) : List String :=
  if (charts evidence).isEmpty then []
  else ["", "### Source Chart Facts", ""] ++ (charts evidence).flatMap chartLines

def title (unit : WorkUnit) : String := "## " ++ unit.documentId ++ " — " ++ unit.workUnitId

def openingSection (unit : WorkUnit) (sourceName : String) : List String :=
  [title unit, "", "Source document: `" ++ sourceName ++ "`",
    "Source index: `" ++ toString (unit.sourceIndex + 1) ++ "`", "",
    "### English Reconstruction", ""]

def regionSection (slide : SlideIR) : List String :=
  (sortedRegions slide).map regionLine ++ whenEmpty slide.regions noRegions

def tableSection (slide : SlideIR) : List String :=
  ["", "### Tables", ""] ++ slide.tables.flatMap tableMarkdown ++
    whenEmpty slide.tables (noTables ++ "\n")

def visualSection (translated : TranslatedUnit) : List String :=
  ["### Visual / Process Meaning", ""] ++ visualLines translated ++
    chartSection translated.evidence

def termLine (term : String) : String := "- `" ++ term ++ "`"

/-- Extending a list returns nothing, so the note always follows the terms. -/
def termSection (slide : SlideIR) : List String :=
  ["", "### Important Korean Business Terms", ""] ++
    (sortedSet (termMatches slide)).map termLine ++ [noTerms]

def claimSection (slide : SlideIR) : List String :=
  ["", "### Executive Context", ""] ++ slide.executiveClaims.map claimLine ++
    whenEmpty slide.executiveClaims noClaims

def unresolvedSection (slide : SlideIR) : List String :=
  ["", "### Unresolved / Unreadable", ""] ++ slide.unresolved.map unresolvedLine ++
    whenEmpty slide.unresolved noUnresolved

def coverageSection (slide : SlideIR) : List String :=
  ["", "### Coverage", "", "| Source ID | Status | Note |", "| --- | --- | --- |"] ++
    slide.coverage.map coverageLine ++ [""]

def translatedSections (unit : WorkUnit) (sourceName : String) (translated : TranslatedUnit) :
    List String :=
  openingSection unit sourceName ++ regionSection translated.slide ++
    tableSection translated.slide ++ visualSection translated ++ termSection translated.slide ++
    claimSection translated.slide ++ unresolvedSection translated.slide ++
    coverageSection translated.slide

def unitSections (unit : WorkUnit) (sourceName : String) (translated : Option TranslatedUnit) :
    List String × List ExecutiveClaim × List ReviewItem :=
  match translated with
  | none => ([title unit, "", "_Translation not submitted yet._", ""], [], [])
  | some translated =>
    (translatedSections unit sourceName translated, translated.slide.executiveClaims,
      translated.slide.unresolved.map (reviewItem unit.workUnitId translated.evidence))

end

section
variable [Printing]

/-- A run has no registry, an unreadable one or one that was read. -/
inductive ConflictReading where
  | absent (status : Option ConflictAssessmentState)
  | unreadable
  | missing
  | present (registry : ConflictRegistry)

def conflictState (conflict : Conflict) : String :=
  if conflict.resolutionState = Text.Enumeration.value ConflictResolutionState.unresolved then
    "UNRESOLVED"
  else "RESOLVED BY AUTHORITATIVE SUPERSESSION"

def locationText (participant : AssertionReference) : String :=
  let location := participant.location
  "/".intercalate (["document=" ++ participant.documentId, "work-unit=" ++ participant.workUnitId,
    "slide=" ++ str (get location "slide_id" (.str participant.workUnitId)),
    "source=" ++ participant.semanticKind ++ ":" ++ participant.semanticId] ++
    (if location.field "table_id" = .null then []
      else ["table=" ++ str (location.field "table_id") ++ " row=" ++ str (location.field "row") ++
        " column=" ++ str (location.field "column")]))

def languageText (context : Json) : String :=
  if (context.field "language").truthy then str (context.field "language") else "unknown"

def participantLines (participant : AssertionReference) : List String :=
  ["- Assertion `" ++ participant.assertionId ++ "` — " ++ locationText participant,
    "  - Provenance: **" ++ provenanceLabel participant.provenance ++ "**; evidence: `" ++
      joined participant.provenanceEvidenceIds ++ "`",
    "  - Source (" ++ languageText participant.sourceContext ++ "): `" ++
      str (get participant.sourceContext "text" (.str "")) ++ "`",
    "  - Rendered English: `" ++ str (get participant.renderedContext "text" (.str "")) ++ "`",
    "  - Canonical: `" ++ str (participant.canonicalRef.field "path") ++ "#" ++
      str (participant.canonicalRef.field "json_pointer") ++ "`; SHA-256 `" ++
      str (participant.canonicalRef.field "canonical_sha256") ++ "`",
    "  - Evidence: `" ++ str (participant.evidenceRef.field "path") ++ "` revision `" ++
      str (participant.evidenceRef.field "evidence_revision") ++ "`"]

def basisText (supersession : Supersession) : String :=
  if supersession.authorityBasis =
      Text.Enumeration.value SupersessionAuthorityBasis.configuredAuthority then
    "configured authority `" ++ supersession.authorityConfigId.getD "None" ++ "`"
  else "explicit evidence `" ++
    "; ".intercalate (supersession.authorityEvidence.map fun reference =>
      joined reference.evidenceIds) ++ "`"

def supersessionLine (supersession : Supersession) : String :=
  "- `" ++ supersession.supersedingAssertionId ++ "` supersedes `" ++
    supersession.supersededAssertionId ++ "` — **" ++ supersession.state ++ "**, basis: " ++
    basisText supersession ++ "."

def conflictLines (registry : ConflictRegistry) (conflict : Conflict) : List String :=
  let participants := conflict.participants.insertionSort fun first second =>
    first.assertionId ≤ second.assertionId
  let supersessions := registry.supersessions.filter fun supersession =>
    supersession.conflictId == conflict.conflictId
  let sorted := supersessions.insertionSort fun first second =>
    first.supersessionId ≤ second.supersessionId
  ["### Conflict `" ++ conflict.conflictId ++ "` — **" ++ conflictState conflict ++ "**", "",
    "Every competing assertion is retained:", ""] ++ participants.flatMap participantLines ++
    ["", "Authoritative supersession (metadata only; no competing assertion is deleted or rewritten):",
      ""] ++
    (if supersessions.isEmpty then
      ["- None recorded; authority remains unknown and the conflict remains unresolved."]
    else sorted.map supersessionLine) ++ [""]

/-- The report keeps every competing assertion apart from the authority over it. -/
def conflictSections (reading : ConflictReading) : List String × List String :=
  match reading with
  | .absent (some .notAssessed) =>
    (["## Conflict Registry", "",
      "Conflict assessment: **NOT_ASSESSED**. A KSA-23 run must complete the typed engine assessment before verification or finalization.",
      ""], [])
  | .absent _ =>
    (["## Conflict Registry", "",
      "Conflict registry: **not present**. Legacy artifacts remain readable; conflict coverage is not assessed and absence is not evidence that no conflicts exist.",
      ""], [])
  | .unreadable =>
    (["## Conflict Registry", "",
      "Conflict registry: **present but unreadable**. Deterministic verification must repair or review `CONFLICT_REGISTRY.json`.",
      ""], ["Conflict registry present but unreadable."])
  | .missing =>
    (["## Conflict Registry", "",
      "Conflict registry: **not present**; conflict coverage is not assessed.", ""], [])
  | .present registry =>
    let opening := ["## Conflict Registry", "", "Conflict registry: **present**",
      "Registry revision: `" ++ registry.registryRevision ++ "`", ""]
    if registry.conflicts.isEmpty then
      (opening ++ ["Registry is present and contains no recorded conflicts.", ""], [])
    else
      let sorted := registry.conflicts.insertionSort fun first second =>
        first.conflictId ≤ second.conflictId
      (opening ++ sorted.flatMap (conflictLines registry),
        sorted.map fun conflict => conflict.conflictId ++ ": " ++ conflictState conflict)

end

section
variable [Printing]

/-- The report of a run is written from these stored values. -/
structure Run where
  queue : WorkQueue
  manifest : Option Json
  translated : String → Option TranslatedUnit
  conflicts : ConflictReading

def sourceInputId (index : Nat) : String := "source-" ++ PageReading.padded 3 index

/-- An input that is no object has no name. -/
def manifestNames (manifest : Option Json) : List (String × String) :=
  let inputs := itemsOf (get (manifest.getD .null) "inputs" (.arr []))
  (inputs.zipIdx 1).filterMap fun entry =>
    let inputId := sourceInputId entry.2
    if entry.1.isObject then some (inputId, str (get entry.1 "source_name" (.str inputId)))
    else none

def isDone (status : WorkUnitStatus) : Bool := status == .translated || status == .verified

def status (queue : WorkQueue) : String :=
  let statuses := queue.workUnits.map (·.status)
  if statuses.elem .needsReview then "NEEDS REVIEW"
  else if statuses.all isDone && !statuses.isEmpty then "VERIFIED CANDIDATE"
  else "IN PROGRESS"

variable (run : Run)

def sortedUnits : List WorkUnit :=
  run.queue.workUnits.insertionSort fun first second =>
    toLex (first.documentId, toLex (first.sourceIndex, first.workUnitId)) ≤
      toLex (second.documentId, toLex (second.sourceIndex, second.workUnitId))

def sourceName (unit : WorkUnit) : String :=
  ((manifestNames run.manifest).lookup unit.sourceInputId).getD unit.sourceInputId

def sections (unit : WorkUnit) : List String × List ExecutiveClaim × List ReviewItem :=
  unitSections unit (sourceName run unit) (run.translated unit.workUnitId)

def reviewItems : List ReviewItem := (sortedUnits run).flatMap fun unit => (sections run unit).2.2

def finalOpening : List String :=
  ["# K-Slide English Reconstruction", "", "Status: **" ++ status run.queue ++ "**",
    "Run: `" ++ run.queue.runId ++ "`",
    "Work units: `" ++ toString run.queue.workUnits.length ++ "`", ""]

def finalClosing : List String :=
  (conflictSections run.conflicts).1 ++ ["## Coverage Summary", "",
    "Translated/processed work units: `" ++
      toString (run.queue.workUnits.countP fun unit => isDone unit.status) ++ "` / `" ++
      toString run.queue.workUnits.length ++ "`",
    "Review items: `" ++ toString (reviewItems run).length ++ "`", ""]

def finalLines : List String :=
  finalOpening run ++ ((sortedUnits run).flatMap fun unit => (sections run unit).1) ++
    finalClosing run

def briefClaimLine (workUnitId : String) (claim : ExecutiveClaim) : String :=
  "- **" ++ provenanceLabel claim.provenance ++ " · " ++ claim.kind ++ "** (" ++ workUnitId ++
    "): " ++ semanticText claim.text claim.provenance claim.unresolvedReason ++ " _(evidence: " ++
    joined claim.evidenceIds ++ ")_"

def briefLines : List String :=
  let claims := (sortedUnits run).flatMap fun unit =>
    (sections run unit).2.1.map (briefClaimLine unit.workUnitId)
  let summary := (conflictSections run.conflicts).2
  ["# K-Slide Executive Brief", "", "Status: **" ++ status run.queue ++ "**", ""] ++ claims ++
    whenEmpty claims "No evidence-backed executive claims are available yet." ++
    ["", "## Conflicts and authoritative supersession", ""] ++
    (if !summary.isEmpty then summary.map ("- " ++ ·)
    else match run.conflicts with
      | .absent _ =>
        ["Conflict registry is not present; conflict coverage is not assessed and absence is not evidence that no conflicts exist."]
      | _ => ["Conflict registry is present and contains no recorded conflicts."])

def entryHeading (item : ReviewItem) : String :=
  "## " ++ item.workUnitId ++ " — `" ++ item.sourceId.getD "None" ++ "`"

def entryLines (item : ReviewItem) : List String :=
  [entryHeading item, "", "- Provenance: **UNRESOLVED**",
    "- Evidence: " ++ orText (some (joined item.evidenceIds)) "[missing]",
    "- Severity: " ++ item.severity, "- Reason: " ++ item.reason.getD "None",
    "- Crop: `" ++ (if item.cropPath.truthy then str item.cropPath else "[not available]") ++ "`",
    "- Recommended action: " ++ item.recommendedAction, ""]

def unresolvedLines : List String :=
  ["# K-Slide Unresolved Items", ""] ++ whenEmpty (reviewItems run) "No unresolved items." ++
    (reviewItems run).flatMap entryLines

structure Reports where
  finalReport : String
  executiveBrief : String
  unresolved : String

/-- A text of lines ends with a newline. -/
def written (entries : List String) : String := "\n".intercalate entries ++ "\n"

def renderRun : Reports where
  finalReport := written (finalLines run)
  executiveBrief := written (briefLines run)
  unresolved := written (unresolvedLines run)

end
end Report
end KSlide
