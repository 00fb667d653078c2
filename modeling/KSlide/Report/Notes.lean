import KSlide.Report.Rows

/-
This file shows when the notes of a report say what its units lack.
-/

namespace KSlide.Report
open SlideIR Text Python List

/-- Each note says that a unit has no item of one kind. -/
def notes : List String := [noRegions, noTables, noTerms, noClaims, noUnresolved]

section
variable {note part : String} {text rest : List Char}

/-- The notes have no other letters. -/
def isNoteLetter (letter : Char) : Bool :=
  Text.isUpper letter || Text.isLower letter || [' ', '_', '-', '.'].elem letter

theorem notes_letters (known : note ∈ notes) : note.toList.all isNoteLetter = true := by
  have all : notes.all (fun note => note.toList.all isNoteLetter) = true := by decide
  exact all_eq_true.mp all note known

theorem notes_head (known : note ∈ notes) :
    note.toList.head? = some '_' ∨ note.toList.head? = some 'N' := by
  have all : notes.all (fun note => note.toList.head? == some '_' || note.toList.head? == some 'N') =
      true := by decide
  simpa using all_eq_true.mp all note known

/-- No note has all letters of the part, so the part keeps the texts beside it apart. -/
def separates (part : List Char) : Bool :=
  part.all (!endsLine ·) && part.any (!isNoteLetter ·)

/-- No note begins with the part. -/
def opens (part : List Char) : Bool :=
  part.all (!endsLine ·) && part.head?.any fun letter => letter != '_' && letter != 'N'

theorem later_part (known : note ∈ notes) (apart : separates part.toList = true) :
    note.toList ∈ laterLines (text ++ (part.toList ++ rest)) ↔
      note.toList ∈ innerLines text ∨ note.toList ∈ laterLines rest := by
  rw [separates, Bool.and_eq_true, any_eq_true] at apart
  obtain ⟨letter, listed, other⟩ := apart.2
  apply mem_laterLines_append (unbroken_iff_all.mpr apart.1)
  intro inside
  rw [all_eq_true.mp (notes_letters known) letter (inside.subset listed)] at other
  cases other

theorem later_last (known : note ∈ notes) (apart : separates part.toList = true) :
    note.toList ∈ laterLines (text ++ part.toList) ↔ note.toList ∈ innerLines text := by
  have whole : note.toList ∈ laterLines (text ++ (part.toList ++ [])) ↔
      note.toList ∈ innerLines text ∨ note.toList ∈ laterLines [] := later_part known apart
  rw [append_nil] at whole
  rw [whole]
  exact or_iff_left not_mem_nil

theorem mem_opened (known : note ∈ notes) (opening : opens part.toList = true) :
    note.toList ∈ lines (part.toList ++ rest) ↔ note.toList ∈ laterLines rest := by
  rw [opens, Bool.and_eq_true] at opening
  obtain ⟨first, later, split⟩ := exists_cons_of_ne_nil (lines_ne_nil rest)
  rw [lines_unbroken_append (unbroken_iff_all.mpr opening.1), laterLines, split, modifyHead_cons,
    mem_cons, tail_cons]
  apply or_iff_right
  intro same
  cases begins : part.toList with
  | nil =>
    rw [begins] at opening
    cases opening.2
  | cons letter letters =>
    rw [begins] at opening same
    have head := notes_head known
    rw [same] at head
    have other := opening.2
    rcases head with first | first
    · cases first
      cases other
    · cases first
      cases other

/-- Fixed lines are no notes. -/
def fixed (entries : List String) : Bool :=
  entries.all fun entry => entry.toList.isEmpty || opens entry.toList

theorem not_mem_fixed (entries : List String) (known : note ∈ notes) (plain : fixed entries = true) :
    note.toList ∉ linesOf entries := by
  intro found
  obtain ⟨entry, listed, inside⟩ := mem_flatMap.mp found
  have first := all_eq_true.mp plain entry listed
  rw [Bool.or_eq_true] at first
  rcases first with empty | opening
  · rw [isEmpty_iff.mp empty] at inside
    have same : note.toList = [] := by simpa [lines] using inside
    have head := notes_head known
    rw [same] at head
    rcases head with absent | absent <;> cases absent
  · have later : note.toList ∈ lines (entry.toList ++ []) ↔ note.toList ∈ laterLines [] :=
      mem_opened known opening
    rw [append_nil] at later
    cases later.mp inside

theorem mem_whole {entry : String} (unbroken : Unbroken entry.toList) :
    note.toList ∈ lines entry.toList ↔ note = entry := by
  rw [lines_of_unbroken unbroken, mem_singleton, String.toList_inj]

theorem mem_linesOf_cons {entry : String} {entries : List String} {line : List Char} :
    line ∈ linesOf (entry :: entries) ↔ line ∈ lines entry.toList ∨ line ∈ linesOf entries :=
  mem_append

theorem mem_linesOf_flatMap {Item : Type} {items : List Item} {entries : Item → List String}
    {held : Item → List (List Char)} {line : List Char}
    (each : ∀ item, line ∈ linesOf (entries item) ↔ line ∈ held item) :
    line ∈ linesOf (items.flatMap entries) ↔ line ∈ items.flatMap held := by
  rw [linesOf, flatMap_assoc, mem_flatMap, mem_flatMap]
  exact exists_congr fun item => and_congr_right fun _ => each item

theorem mem_linesOf_map {Item : Type} {items : List Item} {entry : Item → String}
    {held : Item → List (List Char)} {line : List Char}
    (each : ∀ item, line ∈ lines (entry item).toList ↔ line ∈ held item) :
    line ∈ linesOf (items.map entry) ↔ line ∈ items.flatMap held := by
  rw [linesOf, flatMap_map, mem_flatMap, mem_flatMap]
  exact exists_congr fun item => and_congr_right fun _ => each item

end

section

/- The lines that the texts of an item hold by themselves. -/

def regionHeld (region : TextRegion) : List (List Char) :=
  laterLines (semanticText region.translation region.provenance region.unresolvedReason).toList

def cellHeld (cell : TableCell) : List (List Char) :=
  innerLines (cell.sourceText.getD "").toList ++ innerLines (english cell).toList

def tableHeld (table : TableIR) : List (List Char) :=
  openingHeld table ++ table.cells.flatMap cellHeld

def relationHeld (relation : VisualRelation) : List (List Char) :=
  innerLines relation.relationId.toList ++
    innerLines (orText (some (joined relation.sourceElementIds)) "no explicit elements").toList ++
    innerLines (orText relation.direction "unknown").toList ++
    laterLines (semanticText relation.interpretation relation.provenance
      relation.unresolvedReason).toList

def claimHeld (claim : ExecutiveClaim) : List (List Char) :=
  innerLines claim.kind.toList ++
    innerLines (semanticText claim.text claim.provenance claim.unresolvedReason).toList ++
    innerLines claim.uncertainty.toList ++ innerLines (joined claim.evidenceIds).toList

def unresolvedHeld (item : UnresolvedItem) : List (List Char) :=
  innerLines (itemName item).toList ++
    innerLines ((item.reason <|> item.unresolvedReason).getD "Unresolved source evidence.").toList ++
    innerLines (joined item.evidenceIds).toList

def coverageHeld (coverage : CoverageEntry) : List (List Char) :=
  innerLines coverage.sourceId.toList ++ innerLines coverage.status.toList ++
    innerLines (coverage.note.getD "").toList

variable [Printing]

def seriesHeld (series : Json) : List (List Char) :=
  innerLines (str (get series "name" (.str ""))).toList ++
    laterLines (str (if series.isObject then get series "points" (get series "values" (.arr []))
      else .arr [])).toList

def axisHeld (chart : Json) : List (List Char) :=
  if (chart.field "axis_labels").truthy || (chart.field "unit_labels").truthy then
    innerLines (str (get chart "axis_labels" (.obj []))).toList ++
      laterLines (str (get chart "unit_labels" (.obj []))).toList
  else []

def chartHeld (element : Json) : List (List Char) :=
  let chart := element.field "chart"
  innerLines (str (element.field "element_id")).toList ++
    innerLines (str (get chart "chart_type" (.str "unknown"))).toList ++
    innerLines (orEmptyText (chart.field "title")).toList ++
    innerLines (joined ((itemsOf (get chart "categories" (.arr []))).map str)).toList ++
    axisHeld chart ++ (itemsOf (get chart "series" (.arr []))).flatMap seriesHeld

def contextHeld (evidence : EvidenceIR) : List (List Char) :=
  match evidence.visualElements.find? fun element => element.field "kind" == .str "context_image" with
  | some context => innerLines (str (context.field "path")).toList
  | none => []

def visualHeld (unit : TranslatedUnit) : List (List Char) :=
  if unit.slide.visualRelations.isEmpty then contextHeld unit.evidence
  else unit.slide.visualRelations.flatMap relationHeld

/-- The texts of a unit hold these lines between their breaks. -/
def heldLines (unit : WorkUnit) (sourceName : String) (translated : TranslatedUnit) :
    List (List Char) :=
  let slide := translated.slide
  innerLines unit.documentId.toList ++ laterLines unit.workUnitId.toList ++
    innerLines sourceName.toList ++ slide.regions.flatMap regionHeld ++
    slide.tables.flatMap tableHeld ++ visualHeld translated ++
    (charts translated.evidence).flatMap chartHeld ++
    (termMatches slide).flatMap (fun term => innerLines term.toList) ++
    slide.executiveClaims.flatMap claimHeld ++ slide.unresolved.flatMap unresolvedHeld ++
    slide.coverage.flatMap coverageHeld

end

section
variable {note : String} (known : note ∈ notes)
include known

theorem mem_regionLine (region : TextRegion) :
    note.toList ∈ lines (regionLine region).toList ↔ note.toList ∈ regionHeld region := by
  unfold regionLine regionHeld
  rw [String.toList_append, mem_opened known (by decide)]

theorem mem_cellLine (cell : TableCell) :
    note.toList ∈ lines (cellLine cell).toList ↔ note.toList ∈ cellHeld cell := by
  have number (value : Nat) : innerLines (toString value).toList = [] :=
    innerLines_of_unbroken (tidy_number value).1
  have head := innerLines_of_unbroken (tidy_header cell.isHeader).1
  have state := innerLines_of_unbroken (tidy_state cell.cellState).1
  have label := innerLines_of_unbroken (tidy_label cell.provenance).1
  have status := innerLines_of_unbroken (tidy_status cell.unresolved).1
  have between : separates " | ".toList = true := by decide
  unfold cellLine cellHeld
  simp only [String.toList_append, append_assoc, mem_append]
  rw [mem_opened known (by decide), later_part known between, later_part known between,
    later_part known (by decide), later_part known between, later_part known between,
    later_part known between, later_part known between, later_part known between,
    later_part known between, later_last known (by decide)]
  simp only [number, head, state, label, status, not_mem_nil, false_or, or_false]

theorem mem_relationLine (relation : VisualRelation) :
    note.toList ∈ lines (relationLine relation).toList ↔ note.toList ∈ relationHeld relation := by
  unfold relationLine relationHeld
  simp only [String.toList_append, append_assoc, mem_append]
  rw [mem_opened known (by decide), later_part known (by decide),
    later_part known (by decide), later_part known (by decide)]

theorem mem_claimLine (claim : ExecutiveClaim) :
    note.toList ∈ lines (claimLine claim).toList ↔ note.toList ∈ claimHeld claim := by
  unfold claimLine claimHeld
  simp only [String.toList_append, append_assoc, mem_append]
  rw [mem_opened known (by decide), later_part known (by decide),
    later_part known (by decide), later_part known (by decide),
    later_part known (by decide), later_last known (by decide),
    innerLines_of_unbroken (tidy_label claim.provenance).1]
  simp only [not_mem_nil, false_or]

theorem mem_unresolvedLine (item : UnresolvedItem) :
    note.toList ∈ lines (unresolvedLine item).toList ↔ note.toList ∈ unresolvedHeld item := by
  unfold unresolvedLine unresolvedHeld
  simp only [String.toList_append, append_assoc, mem_append]
  rw [mem_opened known (by decide), later_part known (by decide),
    later_part known (by decide), later_last known (by decide)]

theorem mem_coverageLine (coverage : CoverageEntry) :
    note.toList ∈ lines (coverageLine coverage).toList ↔ note.toList ∈ coverageHeld coverage := by
  unfold coverageLine coverageHeld
  simp only [String.toList_append, append_assoc, mem_append]
  rw [mem_opened known (by decide), later_part known (by decide),
    later_part known (by decide), later_last known (by decide)]

theorem mem_opening (table : TableIR) :
    note.toList ∈ linesOf (tableOpening table) ↔ note.toList ∈ openingHeld table := by
  have title : note.toList ∈ lines ("#### Table `" ++ table.tableId ++ "`").toList ↔
      note.toList ∈ innerLines table.tableId.toList := by
    simp only [String.toList_append, append_assoc]
    rw [mem_opened known (by decide), later_last known (by decide)]
  have empty : note.toList ∉ lines "".toList := by
    have absent := not_mem_fixed [""] known (by decide)
    simpa [linesOf] using absent
  have number (value : Nat) : innerLines (toString value).toList = [] :=
    innerLines_of_unbroken (tidy_number value).1
  have size : note.toList ∉ lines ("Dimensions: `" ++ toString table.rowCount ++ " × " ++
      toString table.columnCount ++ "`").toList := by
    simp only [String.toList_append, append_assoc]
    rw [mem_opened known (by decide), later_part known (by decide),
      later_last known (by decide), number, number]
    simp
  have head : note.toList ∉ lines (headerLine table).toList := by
    unfold headerLine
    split
    · have absent := not_mem_fixed ["Header semantics: not proven by native source structure."] known
        (by decide)
      simpa [linesOf] using absent
    · simp only [String.toList_append, append_assoc]
      rw [mem_opened known (by decide), later_part known (by decide),
        later_last known (by decide), innerLines_of_unbroken (unbroken_coordinates _),
        innerLines_of_unbroken (unbroken_coordinates _)]
      simp
  have unit : note.toList ∈ linesOf (unitLines table) ↔
      note.toList ∈ innerLines (table.unit.getD "").toList := by
    unfold unitLines
    cases table.unit with
    | none => simp [linesOf, innerLines, lines]
    | some unit =>
      dsimp only [Option.getD_some]
      split
      · rename_i same
        rw [same]
        simp [linesOf, innerLines, lines]
      · simp only [linesOf, flatMap_cons, flatMap_nil, append_nil,
          String.toList_append, append_assoc]
        rw [mem_opened known (by decide), later_last known (by decide)]
  have noteTexts : note.toList ∈ linesOf (noteLines table) ↔
      note.toList ∈ table.sourceNotes.flatMap fun text => laterLines text.toList := by
    have each : note.toList ∈ linesOf (table.sourceNotes.map ("- " ++ ·)) ↔
        note.toList ∈ table.sourceNotes.flatMap fun text => laterLines text.toList := by
      apply mem_linesOf_map
      intro text
      rw [String.toList_append, mem_opened known (by decide)]
    unfold noteLines
    split
    · rename_i none
      rw [isEmpty_iff.mp none]
      rfl
    · have absent := not_mem_fixed ["Source notes / footnotes:"] known (by decide)
      rw [← each, ← singleton_append, linesOf_append, mem_append]
      exact or_iff_right absent
  unfold tableOpening openingHeld
  simp only [linesOf_append, mem_append]
  rw [unit, noteTexts]
  simp only [linesOf, flatMap_cons, flatMap_nil, mem_append, title, empty, size, head,
    append_nil, or_false]

theorem mem_table (table : TableIR) :
    note.toList ∈ linesOf (tableMarkdown table) ↔ note.toList ∈ tableHeld table := by
  have cells : note.toList ∈ linesOf ((sortedCells table).map cellLine) ↔
      note.toList ∈ table.cells.flatMap cellHeld := by
    rw [mem_linesOf_map fun cell => mem_cellLine known cell]
    exact ((perm_sortedCells table).flatMap_right cellHeld).mem_iff
  unfold tableMarkdown tableHeld
  split
  · rename_i none
    have cellless : notes.all (fun note => note != "_No source cells were extracted._") = true := by
      decide +kernel
    have other := all_eq_true.mp cellless note known
    have absent := not_mem_fixed [""] known (by decide)
    have unbroken : Unbroken "_No source cells were extracted._".toList := by decide
    rw [isEmpty_iff.mp none, linesOf_append, mem_append, mem_opening known, mem_linesOf_cons,
      mem_whole unbroken, flatMap_nil, append_nil]
    exact or_iff_left fun found => found.elim (bne_iff_ne.mp other) absent
  · have header := not_mem_fixed [
      "| Row | Column | Span | Header | Cell state | Source | English | Provenance | Status |",
      "| ---: | ---: | ---: | --- | --- | --- | --- | --- | --- |"] known (by decide)
    have closing := not_mem_fixed [""] known (by decide)
    simp only [linesOf_append, mem_append, mem_opening known, cells, header, closing, or_false]

variable [Printing]

theorem mem_seriesLine (series : Json) :
    note.toList ∈ lines (seriesLine series).toList ↔ note.toList ∈ seriesHeld series := by
  unfold seriesLine seriesHeld
  simp only [String.toList_append, append_assoc, mem_append]
  rw [mem_opened known (by decide), later_part known (by decide)]

theorem mem_axisLines (chart : Json) :
    note.toList ∈ linesOf (axisLines chart) ↔ note.toList ∈ axisHeld chart := by
  unfold axisLines axisHeld
  split
  · simp only [linesOf, flatMap_cons, flatMap_nil, append_nil, String.toList_append,
      append_assoc, mem_append]
    rw [mem_opened known (by decide), later_part known (by decide)]
  · rfl

theorem mem_chartLines (element : Json) :
    note.toList ∈ linesOf (chartLines element) ↔ note.toList ∈ chartHeld element := by
  unfold chartLines chartHeld
  dsimp only
  rw [mem_linesOf_cons, linesOf_append, mem_append, mem_axisLines known,
    mem_linesOf_map fun series => mem_seriesLine known series]
  simp only [String.toList_append, append_assoc, mem_append]
  rw [mem_opened known (by decide), later_part known (by decide),
    later_part known (by decide), later_part known (by decide),
    later_last known (by decide)]
  tauto

theorem mem_contextLine (evidence : EvidenceIR) :
    note.toList ∈ linesOf [contextLine evidence] ↔ note.toList ∈ contextHeld evidence := by
  unfold contextLine contextHeld
  cases evidence.visualElements.find? fun element => element.field "kind" == .str "context_image" with
  | none =>
    have absent := not_mem_fixed ["- No structured visual relationship was extracted."] known
      (by decide)
    exact iff_of_false absent not_mem_nil
  | some context =>
    simp only [linesOf, flatMap_cons, flatMap_nil, append_nil, String.toList_append,
      append_assoc]
    rw [mem_opened known (by decide), later_last known (by decide)]

theorem mem_visualLines (unit : TranslatedUnit) :
    note.toList ∈ linesOf (visualLines unit) ↔ note.toList ∈ visualHeld unit := by
  unfold visualLines visualHeld
  split
  · exact mem_contextLine known unit.evidence
  · exact mem_linesOf_map fun relation => mem_relationLine known relation

theorem mem_chartSection (evidence : EvidenceIR) : note.toList ∈ linesOf (chartSection evidence) ↔
    note.toList ∈ (charts evidence).flatMap chartHeld := by
  unfold chartSection
  split
  · rename_i none
    rw [isEmpty_iff.mp none]
    rfl
  · have absent := not_mem_fixed ["", "### Source Chart Facts", ""] known (by decide)
    rw [linesOf_append, mem_append, mem_linesOf_flatMap fun element => mem_chartLines known element]
    exact or_iff_right absent

omit [Printing] in
theorem mem_termLine (term : String) :
    note.toList ∈ lines (termLine term).toList ↔ note.toList ∈ innerLines term.toList := by
  unfold termLine
  simp only [String.toList_append, append_assoc]
  rw [mem_opened known (by decide), later_last known (by decide)]

omit known [Printing] in
theorem mem_whenEmpty {Item : Type} (items : List Item) {entry other : String}
    (whole : note.toList ∈ lines entry.toList ↔ note = other) :
    note.toList ∈ linesOf (whenEmpty items entry) ↔ note ∈ whenEmpty items other := by
  unfold whenEmpty
  split
  · rw [mem_linesOf_cons, whole, mem_singleton]
    exact or_iff_left not_mem_nil
  · exact iff_of_false not_mem_nil not_mem_nil

end

section
variable {note : String} (known : note ∈ notes)

/-- A unit with no item of a kind has the note of the kind, and every unit has the terms' note. -/
def unitNotes (slide : SlideIR) : List String :=
  whenEmpty slide.regions noRegions ++ whenEmpty slide.tables noTables ++ [noTerms] ++
    whenEmpty slide.executiveClaims noClaims ++ whenEmpty slide.unresolved noUnresolved

theorem mem_noted {other : String} (plain : other.toList.all (!endsLine ·) = true) :
    note.toList ∈ lines other.toList ↔ note = other := mem_whole (unbroken_iff_all.mpr plain)

include known

theorem mem_openingSection (unit : WorkUnit) (sourceName : String) :
    note.toList ∈ linesOf (openingSection unit sourceName) ↔
      (note.toList ∈ innerLines unit.documentId.toList ∨
        note.toList ∈ laterLines unit.workUnitId.toList) ∨
          note.toList ∈ innerLines sourceName.toList := by
  have first : note.toList ∈ lines (title unit).toList ↔
      note.toList ∈ innerLines unit.documentId.toList ∨
        note.toList ∈ laterLines unit.workUnitId.toList := by
    unfold title
    simp only [String.toList_append, append_assoc]
    rw [mem_opened known (by decide), later_part known (by decide)]
  have document : note.toList ∈ lines ("Source document: `" ++ sourceName ++ "`").toList ↔
      note.toList ∈ innerLines sourceName.toList := by
    simp only [String.toList_append, append_assoc]
    rw [mem_opened known (by decide), later_last known (by decide)]
  have index : note.toList ∉
      lines ("Source index: `" ++ toString (unit.sourceIndex + 1) ++ "`").toList := by
    simp only [String.toList_append, append_assoc]
    rw [mem_opened known (by decide), later_last known (by decide),
      innerLines_of_unbroken (tidy_number _).1]
    exact not_mem_nil
  have empty := not_mem_fixed [""] known (by decide)
  have closing := not_mem_fixed ["", "### English Reconstruction", ""] known (by decide)
  rw [mem_linesOf_cons, not_or] at empty
  unfold openingSection
  rw [mem_linesOf_cons, mem_linesOf_cons, mem_linesOf_cons, mem_linesOf_cons, first, document,
    or_iff_right empty.1, or_iff_left (not_or.mpr ⟨index, closing⟩)]

variable (slide : SlideIR)

theorem mem_regionSection : note.toList ∈ linesOf (regionSection slide) ↔
    note.toList ∈ slide.regions.flatMap regionHeld ∨ note ∈ whenEmpty slide.regions noRegions := by
  have sorted : (sortedRegions slide).Perm slide.regions := perm_insertionSort _ _
  unfold regionSection
  rw [linesOf_append, mem_append, mem_linesOf_map fun region => mem_regionLine known region,
    (sorted.flatMap_right regionHeld).mem_iff, mem_whenEmpty _ (mem_noted (by decide))]

theorem mem_tableSection : note.toList ∈ linesOf (tableSection slide) ↔
    note.toList ∈ slide.tables.flatMap tableHeld ∨ note ∈ whenEmpty slide.tables noTables := by
  have tables : note.toList ∈ lines (noTables ++ "\n").toList ↔ note = noTables := by
    have split : lines (noTables ++ "\n").toList = [noTables.toList, []] := by decide
    have head := notes_head known
    rw [split, mem_cons, mem_singleton, String.toList_inj]
    apply or_iff_left
    intro same
    rw [same] at head
    rcases head with absent | absent <;> cases absent
  have opening := not_mem_fixed ["", "### Tables", ""] known (by decide)
  unfold tableSection
  rw [linesOf_append, linesOf_append, mem_append, mem_append, or_iff_right opening,
    mem_linesOf_flatMap fun table => mem_table known table, mem_whenEmpty _ tables]

theorem mem_claimSection : note.toList ∈ linesOf (claimSection slide) ↔
    note.toList ∈ slide.executiveClaims.flatMap claimHeld ∨
      note ∈ whenEmpty slide.executiveClaims noClaims := by
  have opening := not_mem_fixed ["", "### Executive Context", ""] known (by decide)
  unfold claimSection
  rw [linesOf_append, linesOf_append, mem_append, mem_append, or_iff_right opening,
    mem_linesOf_map fun claim => mem_claimLine known claim,
    mem_whenEmpty _ (mem_noted (by decide))]

theorem mem_unresolvedSection : note.toList ∈ linesOf (unresolvedSection slide) ↔
    note.toList ∈ slide.unresolved.flatMap unresolvedHeld ∨
      note ∈ whenEmpty slide.unresolved noUnresolved := by
  have opening := not_mem_fixed ["", "### Unresolved / Unreadable", ""] known (by decide)
  unfold unresolvedSection
  rw [linesOf_append, linesOf_append, mem_append, mem_append, or_iff_right opening,
    mem_linesOf_map fun item => mem_unresolvedLine known item,
    mem_whenEmpty _ (mem_noted (by decide))]

theorem mem_coverageSection : note.toList ∈ linesOf (coverageSection slide) ↔
    note.toList ∈ slide.coverage.flatMap coverageHeld := by
  have opening := not_mem_fixed ["", "### Coverage", "", "| Source ID | Status | Note |",
    "| --- | --- | --- |"] known (by decide)
  have closing := not_mem_fixed [""] known (by decide)
  unfold coverageSection
  rw [linesOf_append, linesOf_append, mem_append, mem_append, or_iff_right opening,
    or_iff_left closing, mem_linesOf_map fun coverage => mem_coverageLine known coverage]

theorem mem_termSection : note.toList ∈ linesOf (termSection slide) ↔
    note.toList ∈ (termMatches slide).flatMap (fun term => innerLines term.toList) ∨
      note ∈ [noTerms] := by
  have opening := not_mem_fixed ["", "### Important Korean Business Terms", ""] known
    (by decide)
  have terms : note.toList ∈ linesOf [noTerms] ↔ note ∈ [noTerms] := by
    rw [mem_linesOf_cons, mem_noted (by decide), mem_singleton]
    exact or_iff_left not_mem_nil
  unfold termSection
  rw [linesOf_append, linesOf_append, mem_append, mem_append, or_iff_right opening, terms,
    mem_linesOf_map fun term => mem_termLine known term]
  simp only [mem_flatMap, mem_sortedSet]

variable [Printing]

theorem mem_visualSection (translated : TranslatedUnit) :
    note.toList ∈ linesOf (visualSection translated) ↔
      note.toList ∈ visualHeld translated ∨
        note.toList ∈ (charts translated.evidence).flatMap chartHeld := by
  have opening := not_mem_fixed ["### Visual / Process Meaning", ""] known (by decide)
  unfold visualSection
  rw [linesOf_append, linesOf_append, mem_append, mem_append, or_iff_right opening,
    mem_visualLines known, mem_chartSection known]

omit known [Printing] in
/-- The sections of a unit hold texts and notes in turn. -/
theorem gathered {opening regions tables visual charts terms claims unresolved coverage noRegions
    noTables noTerms noClaims noUnresolved : Prop} :
    (((((((opening ∨ regions ∨ noRegions) ∨ tables ∨ noTables) ∨ visual ∨ charts) ∨
      terms ∨ noTerms) ∨ claims ∨ noClaims) ∨ unresolved ∨ noUnresolved) ∨ coverage) ↔
        ((((((((opening ∨ regions) ∨ tables) ∨ visual) ∨ charts) ∨ terms) ∨ claims) ∨
          unresolved) ∨ coverage) ∨
            (((noRegions ∨ noTables) ∨ noTerms) ∨ noClaims) ∨ noUnresolved := by
  simp only [or_left_comm, or_comm]

theorem mem_unit (unit : WorkUnit) (sourceName : String) (translated : TranslatedUnit) :
    note.toList ∈ linesOf (translatedSections unit sourceName translated) ↔
      note.toList ∈ heldLines unit sourceName translated ∨ note ∈ unitNotes translated.slide := by
  unfold translatedSections heldLines unitNotes
  dsimp only
  simp only [linesOf_append, mem_append, mem_openingSection known, mem_regionSection known,
    mem_tableSection known, mem_visualSection known, mem_termSection known, mem_claimSection known,
    mem_unresolvedSection known, mem_coverageSection known]
  exact gathered

end
end KSlide.Report
