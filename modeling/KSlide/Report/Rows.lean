import KSlide.Report.Rendering
import KSlide.Json.Text
import KSlide.Text.Layout

/-
This file shows which tables and coverage entries of a slide keep one line for each row.
-/

namespace KSlide.Report
open SlideIR Text List

/-- The lines of the texts that are written one after the other. -/
def linesOf (entries : List String) : List (List Char) := entries.flatMap fun entry => lines entry.toList

/-- A line of a table carries these fields of a cell. -/
structure CellReading where
  row : List Char
  column : List Char
  source : List Char
  english : List Char
deriving DecidableEq

def isCoordinate (field : List Char) : Bool :=
  field.any Text.isDigit && field.all fun letter => letter == ' ' || Text.isDigit letter

/-- A line of a cell has exactly nine fields and begins with two coordinates. -/
def cellReading (line : List Char) : Option CellReading :=
  match rowFields line with
  | some [row, column, _, _, _, source, english, _, _] =>
    if isCoordinate row && isCoordinate column then some ⟨row, column, source, english⟩ else none
  | _ => none

/-- The line of an entry has exactly three fields. -/
def coverageReading (line : List Char) : Option (List (List Char)) :=
  match rowFields line with
  | some [source, status, note] => some [source, status, note]
  | _ => none

def carried (cell : TableCell) : CellReading :=
  ⟨spaced (toString (cell.row + 1)).toList, spaced (toString (cell.column + 1)).toList,
    spaced (cell.sourceText.getD "").toList, spaced (english cell).toList⟩

/-- The table has one line for each of its cells. -/
def FaithfulTable (table : TableIR) : Prop :=
  (linesOf (tableMarkdown table)).filterMap cellReading = (sortedCells table).map carried

def FaithfulCoverage (coverage : CoverageEntry) : Prop :=
  (lines (coverageLine coverage).toList).filterMap coverageReading =
    [[spaced ("`" ++ coverage.sourceId ++ "`").toList, spaced coverage.status.toList,
      spaced (coverage.note.getD "").toList]]

/-- A tidy text has no break and no letter that ends a field. -/
def Tidy (text : List Char) : Prop := Unbroken text ∧ unbarred false text = true

def TidyCell (cell : TableCell) : Prop :=
  Tidy (cell.sourceText.getD "").toList ∧ Tidy (english cell).toList

def TidyCoverage (coverage : CoverageEntry) : Prop :=
  Tidy coverage.sourceId.toList ∧ Tidy coverage.status.toList ∧
    Tidy (coverage.note.getD "").toList

/-- A text of the opening of a table holds these lines by itself. -/
def openingHeld (table : TableIR) : List (List Char) :=
  innerLines table.tableId.toList ++ innerLines (table.unit.getD "").toList ++
    table.sourceNotes.flatMap fun note => laterLines note.toList

/-- The cells are tidy, and no text before them holds a line of a cell. -/
def TidyTable (table : TableIR) : Prop :=
  (∀ cell ∈ table.cells, TidyCell cell) ∧ ∀ line ∈ openingHeld table, cellReading line = none

section

def isPlainLetter (letter : Char) : Bool := !endsLine letter && letter != '|'

variable {text line : List Char}

theorem tidy_of_all (plain : text.all isPlainLetter = true) : Tidy text := by
  rw [all_eq_true] at plain
  constructor
  · intro letter listed
    have parts := plain letter listed
    rw [isPlainLetter, Bool.and_eq_true, Bool.not_eq_true'] at parts
    exact parts.1
  · have each (escaped : Bool) : unbarred escaped text = true := by
      induction text generalizing escaped with
      | nil => cases escaped <;> rfl
      | cons letter text ih =>
        have later := ih fun other listed => plain other (mem_cons_of_mem _ listed)
        have parts := plain letter mem_cons_self
        rw [isPlainLetter, Bool.and_eq_true] at parts
        cases escaped with
        | true => exact later false
        | false =>
          rw [unbarred, Bool.and_eq_true]
          exact ⟨parts.2, later _⟩
    exact each false

theorem tidy_spaced : Tidy (spaced text) ↔ Tidy text := by
  unfold Tidy
  rw [unbroken_spaced, unbarred_spaced]

theorem isDigit_number {number : Nat} {letter : Char} (listed : letter ∈ (toString number).toList) :
    Text.isDigit letter = true := by
  have digits : letter ∈ Nat.toDigits 10 number := by simpa using listed
  exact Json.isDigit_toDigits digits

theorem plain_number (number : Nat) : (toString number).toList.all isPlainLetter = true := by
  rw [all_eq_true]
  intro letter listed
  have digit := isDigit_number listed
  have other (control : Char) (differs : Text.isDigit control = false) : letter ≠ control := by
    intro same
    rw [same, differs] at digit
    cases digit
  have newline := other '\n' rfl
  have carriage := other '\r' rfl
  have bar := other '|' rfl
  simp [isPlainLetter, endsLine, newline, carriage, bar]

theorem tidy_number (number : Nat) : Tidy (toString number).toList := tidy_of_all (plain_number number)

theorem tidy_of_field {fields : List (List Char)} (unbroken : Unbroken line)
    (read : rowFields line = some fields) : ∀ field ∈ fields, Tidy field := by
  intro field listed
  have spec := rowFields_spec read field listed
  exact ⟨fun letter present => unbroken letter (spec.2 letter present), spec.1⟩

end

section
variable {line : List Char} {reading : CellReading}

theorem cellReading_some (read : cellReading line = some reading) : ∃ span header state label status,
    rowFields line = some [reading.row, reading.column, span, header, state, reading.source,
      reading.english, label, status] := by
  unfold cellReading at read
  split at read
  · rename_i row column span header state source english label status found
    split at read
    · cases read
      exact ⟨span, header, state, label, status, found⟩
    · cases read
  · cases read

theorem tidy_of_reading (unbroken : Unbroken line) (read : cellReading line = some reading) :
    Tidy reading.source ∧ Tidy reading.english := by
  obtain ⟨span, header, state, label, status, found⟩ := cellReading_some read
  have tidy := tidy_of_field unbroken found
  exact ⟨tidy _ (by simp), tidy _ (by simp)⟩

/-- The fields of the line of a cell. -/
def cellFields (cell : TableCell) : List (List Char) :=
  [(toString (cell.row + 1)).toList, (toString (cell.column + 1)).toList,
    (toString cell.rowspan ++ "×" ++ toString cell.colspan).toList, (header cell.isHeader).toList,
    (Text.Enumeration.value cell.cellState).toList, (cell.sourceText.getD "").toList,
    (english cell).toList, (provenanceLabel cell.provenance).toList,
    (if cell.unresolved then "unresolved" else "translated").toList]

theorem cellLine_eq (cell : TableCell) : (cellLine cell).toList = rowText (cellFields cell) := by
  have opening : "| ".toList = ['|', ' '] := by decide
  have between : " | ".toList = [' ', '|', ' '] := by decide
  have closing : " |".toList = [' ', '|'] := by decide
  unfold cellLine rowText cellFields spaced
  simp only [String.toList_append, opening, between, closing, flatMap_cons, flatMap_nil,
    append_assoc, cons_append, nil_append]

theorem isCoordinate_spaced (number : Nat) : isCoordinate (spaced (toString number).toList) = true := by
  have digits : ∀ letter ∈ (toString number).toList, Text.isDigit letter = true :=
    fun letter listed => isDigit_number listed
  obtain ⟨first, later, split⟩ : ∃ first later, (toString number).toList = first :: later := by
    apply exists_cons_of_ne_nil
    simp [Nat.toDigits_ne_nil]
  have begins := digits first (by rw [split]; exact mem_cons_self)
  rw [isCoordinate, Bool.and_eq_true]
  constructor
  · rw [any_eq_true]
    use first
    constructor
    · rw [split]
      simp [spaced]
    · exact begins
  · rw [all_eq_true]
    intro letter listed
    rw [spaced, mem_cons, mem_append, mem_singleton] at listed
    rcases listed with same | listed | same
    · rw [same]
      rfl
    · rw [digits letter listed, Bool.or_true]
    · rw [same]
      rfl

theorem tidy_label (state : String) : Tidy (provenanceLabel state).toList := by
  unfold provenanceLabel
  split_ifs <;> exact tidy_of_all (by decide)

theorem tidy_header (known : Option Bool) : Tidy (header known).toList := by
  rcases known with _ | truth
  · exact tidy_of_all (by decide)
  · cases truth <;> exact tidy_of_all (by decide)

theorem tidy_state (state : TableCellState) : Tidy (Text.Enumeration.value state).toList := by
  cases state <;> exact tidy_of_all (by decide)

theorem tidy_status (unresolved : Bool) :
    Tidy (if unresolved then "unresolved" else "translated").toList := by
  split_ifs <;> exact tidy_of_all (by decide)

theorem tidy_cellFields {cell : TableCell} (tidy : TidyCell cell) :
    ∀ field ∈ cellFields cell, Tidy field := by
  have span : Tidy (toString cell.rowspan ++ "×" ++ toString cell.colspan).toList := by
    apply tidy_of_all
    rw [String.toList_append, String.toList_append, all_append, all_append, plain_number,
      plain_number]
    decide
  unfold cellFields
  simp only [forall_mem_cons, not_mem_nil, false_implies, implies_true, and_true]
  exact ⟨tidy_number _, tidy_number _, span, tidy_header _, tidy_state _, tidy.1, tidy.2, tidy_label _,
    tidy_status _⟩

theorem readings_cell {cell : TableCell} (tidy : TidyCell cell) :
    (lines (cellLine cell).toList).filterMap cellReading = [carried cell] := by
  have fields := tidy_cellFields tidy
  have whole : Unbroken (rowText (cellFields cell)) :=
    unbroken_row.mpr fun field listed => (fields field listed).1
  have read := rowFields_row fun field listed => (fields field listed).2
  have reads : cellReading (rowText (cellFields cell)) = some (carried cell) := by
    rw [cellReading, read]
    show (if isCoordinate (spaced _) && isCoordinate (spaced _) then _ else _) = _
    rw [isCoordinate_spaced, isCoordinate_spaced]
    rfl
  rw [cellLine_eq, lines_of_unbroken whole, filterMap_cons, reads, filterMap_nil]

theorem noCell_of_rowFields {line : List Char} (other : rowFields line = none) :
    cellReading line = none := by
  rw [cellReading, other]

end

section
variable {table : TableIR}

theorem linesOf_append (first second : List String) :
    linesOf (first ++ second) = linesOf first ++ linesOf second := flatMap_append

theorem perm_sortedCells (table : TableIR) : (sortedCells table).Perm table.cells :=
  perm_insertionSort _ _

theorem unbroken_joined {texts : List String} (unbroken : ∀ text ∈ texts, Unbroken text.toList) :
    Unbroken (joined texts).toList := by
  unfold joined
  rw [String.toList_intercalate]
  induction texts with
  | nil => exact fun _ absent => absurd absent not_mem_nil
  | cons text texts ih =>
    rw [forall_mem_cons] at unbroken
    have later := ih unbroken.2
    cases texts with
    | nil =>
      rw [map_singleton, intercalate_singleton]
      exact unbroken.1
    | cons next others =>
      rw [map_cons, map_cons, intercalate_cons_cons, unbroken_append,
        unbroken_append]
      exact ⟨⟨unbroken.1, by decide⟩, later⟩

theorem unbroken_coordinates (values : List Nat) : Unbroken (coordinates values).toList := by
  unfold coordinates orText
  dsimp only
  split
  · decide
  · apply unbroken_joined
    intro text listed
    obtain ⟨value, _, same⟩ := mem_map.mp listed
    rw [← same]
    exact (tidy_number _).1

/-- A line that does not begin as a row is no line of a cell. -/
theorem cellReading_of_head {letter : Char} {line : List Char} (other : letter ≠ '|') :
    cellReading (letter :: line) = none := by
  apply noCell_of_rowFields
  obtain ⟨first, later, split⟩ :=
    exists_cons_of_ne_nil (splitFields_ne_nil (letter == '\\') line)
  rw [rowFields, splitFields, if_neg other, split]
  rfl

theorem cellReading_of_last {letter : Char} {line : List Char} (other : letter ≠ '|') :
    cellReading (line ++ [letter]) = none := by
  apply noCell_of_rowFields
  by_contra found
  obtain ⟨fields, read⟩ := Option.ne_none_iff_exists'.mp found
  have last := getLast_of_rowFields read
  rw [getLast?_concat] at last
  exact other (Option.some.inj last)

/-- The lines of cells in a marked text begin after its first line. -/
theorem readings_opened (letter : Char) (opening : List Char) {text : List Char} (other : letter ≠ '|')
    (unbroken : Unbroken (letter :: opening)) :
    (lines (letter :: opening ++ text)).filterMap cellReading =
      (laterLines text).filterMap cellReading := by
  obtain ⟨first, later, split⟩ := exists_cons_of_ne_nil (lines_ne_nil text)
  rw [lines_unbroken_append unbroken, laterLines, split, modifyHead_cons, cons_append,
    filterMap_cons, cellReading_of_head other, tail_cons]

theorem readings_closed {letter : Char} {text : List Char} (other : letter ≠ '|')
    (plain : endsLine letter = false) :
    (laterLines (text ++ [letter])).filterMap cellReading =
      (innerLines text).filterMap cellReading := by
  obtain ⟨first, later, split⟩ := exists_cons_of_ne_nil (lines_ne_nil text)
  have single : lines [letter] = [[letter]] := lines_of_unbroken (by simpa [Unbroken] using plain)
  have whole := lines_append text [letter]
  simp only [split, single, modifyHead_cons] at whole
  simp only [laterLines, innerLines, whole, split]
  cases later with
  | nil => rfl
  | cons second later =>
    rw [dropLast_cons_cons, cons_append, tail_cons, tail_cons,
      filterMap_append, filterMap_cons, cellReading_of_last other]
    simp

theorem readings_plain (letter : Char) (opening : List Char) {text : List Char} (other : letter ≠ '|')
    (unbroken : Unbroken (letter :: opening)) (plain : Unbroken text) :
    (lines (letter :: opening ++ text)).filterMap cellReading = [] := by
  rw [readings_opened letter opening other unbroken, laterLines_of_unbroken plain]
  rfl

theorem readings_headerLine (table : TableIR) :
    (lines (headerLine table).toList).filterMap cellReading = [] := by
  unfold headerLine
  split
  · decide +kernel
  · simp only [String.toList_append, append_assoc]
    apply readings_plain 'H' "eader coordinates: rows `".toList (by decide) (by decide)
    simp only [unbroken_append]
    exact ⟨unbroken_coordinates _, by decide, unbroken_coordinates _, by decide⟩

theorem readings_size (table : TableIR) : (lines ("Dimensions: `" ++ toString table.rowCount ++
    " × " ++ toString table.columnCount ++ "`").toList).filterMap cellReading = [] := by
  simp only [String.toList_append, append_assoc]
  apply readings_plain 'D' "imensions: `".toList (by decide) (by decide)
  simp only [unbroken_append]
  exact ⟨(tidy_number _).1, by decide, (tidy_number _).1, by decide⟩

theorem readings_unit (table : TableIR) : (linesOf (unitLines table)).filterMap cellReading =
    (innerLines (table.unit.getD "").toList).filterMap cellReading := by
  unfold unitLines
  cases table.unit with
  | none => rfl
  | some unit =>
    dsimp only [Option.getD_some]
    split
    · rename_i empty
      rw [empty]
      rfl
    · simp only [linesOf, flatMap_cons, flatMap_nil, append_nil,
        String.toList_append, append_assoc]
      exact (readings_opened 'U' "nit: `".toList (by decide)
        (by decide)).trans (readings_closed (by decide) rfl)

theorem readings_notes (table : TableIR) : (linesOf (noteLines table)).filterMap cellReading =
    (table.sourceNotes.flatMap fun note => laterLines note.toList).filterMap cellReading := by
  have each (notes : List String) : (linesOf (notes.map ("- " ++ ·))).filterMap cellReading =
      (notes.flatMap fun note => laterLines note.toList).filterMap cellReading := by
    induction notes with
    | nil => rfl
    | cons note notes ih =>
      rw [map_cons, linesOf, flatMap_cons, flatMap_cons, filterMap_append,
        filterMap_append, ← ih, String.toList_append]
      congr 1
      exact readings_opened '-' [' '] (by decide) (by decide)
  unfold noteLines
  split
  · rename_i empty
    rw [isEmpty_iff.mp empty]
    rfl
  · have first : (lines "Source notes / footnotes:".toList).filterMap cellReading = [] := by
      decide +kernel
    rw [← each, linesOf, flatMap_cons, filterMap_append, first]
    rfl

/-- Only the texts of the opening can hold lines of cells before the header. -/
theorem readings_opening (table : TableIR) : (linesOf (tableOpening table)).filterMap cellReading =
    (openingHeld table).filterMap cellReading := by
  have title : (lines ("#### Table `" ++ table.tableId ++ "`").toList).filterMap cellReading =
      (innerLines table.tableId.toList).filterMap cellReading := by
    rw [String.toList_append, String.toList_append, append_assoc]
    exact (readings_opened '#' "### Table `".toList (by decide)
      (by decide)).trans (readings_closed (by decide) rfl)
  have empty : (lines "".toList).filterMap cellReading = [] := by decide
  unfold tableOpening openingHeld
  simp only [linesOf_append, filterMap_append]
  rw [readings_unit, readings_notes]
  simp only [linesOf, flatMap_cons, flatMap_nil, filterMap_append, title, empty,
    readings_size, readings_headerLine, append_nil]

theorem readings_table (table : TableIR) : (linesOf (tableMarkdown table)).filterMap cellReading =
    (openingHeld table).filterMap cellReading ++
      (sortedCells table).flatMap fun cell => (lines (cellLine cell).toList).filterMap cellReading := by
  unfold tableMarkdown
  split
  · rename_i empty
    have none : sortedCells table = [] := by
      rw [sortedCells, isEmpty_iff.mp empty]
      rfl
    have closing : (linesOf ["_No source cells were extracted._", ""]).filterMap cellReading = [] := by
      decide +kernel
    rw [linesOf_append, filterMap_append, readings_opening, closing, none]
    rfl
  · have header : (linesOf
        ["| Row | Column | Span | Header | Cell state | Source | English | Provenance | Status |",
          "| ---: | ---: | ---: | --- | --- | --- | --- | --- | --- |"]).filterMap cellReading = [] := by
      decide +kernel
    have closing : (linesOf [""]).filterMap cellReading = [] := by decide
    have cells (listed : List TableCell) : (linesOf (listed.map cellLine)).filterMap cellReading =
        listed.flatMap fun cell => (lines (cellLine cell).toList).filterMap cellReading := by
      induction listed with
      | nil => rfl
      | cons cell listed ih =>
        rw [map_cons, linesOf, flatMap_cons, filterMap_append, flatMap_cons, ← ih]
        rfl
    simp only [linesOf_append, filterMap_append, readings_opening, header, closing, cells,
      append_nil]

theorem faithfulTable_iff : FaithfulTable table ↔ TidyTable table := by
  have rows (tidy : ∀ cell ∈ table.cells, TidyCell cell) :
      ((sortedCells table).flatMap fun cell =>
        (lines (cellLine cell).toList).filterMap cellReading) = (sortedCells table).map carried := by
    rw [map_eq_flatMap]
    apply flatMap_congr
    intro cell listed
    exact readings_cell (tidy cell ((perm_sortedCells table).mem_iff.mp listed))
  unfold FaithfulTable TidyTable
  rw [readings_table, ← filterMap_eq_nil_iff]
  constructor
  · intro faithful
    have tidy : ∀ cell ∈ table.cells, TidyCell cell := by
      intro cell listed
      have sorted : carried cell ∈ (sortedCells table).map carried :=
        mem_map_of_mem ((perm_sortedCells table).mem_iff.mpr listed)
      rw [← faithful, ← readings_table, mem_filterMap] at sorted
      obtain ⟨line, stands, read⟩ := sorted
      obtain ⟨entry, _, inside⟩ := mem_flatMap.mp stands
      have tidy := tidy_of_reading (unbroken_of_mem_lines _ line inside) read
      exact ⟨tidy_spaced.mp tidy.1, tidy_spaced.mp tidy.2⟩
    rw [rows tidy] at faithful
    exact ⟨tidy, append_left_eq_self.mp faithful⟩
  · intro tidy
    rw [rows tidy.1, tidy.2, nil_append]

end

section
variable {coverage : CoverageEntry}

theorem coverageLine_eq (coverage : CoverageEntry) : (coverageLine coverage).toList =
    rowText [("`" ++ coverage.sourceId ++ "`").toList, coverage.status.toList,
      (coverage.note.getD "").toList] := by
  have opening : "| `".toList = ['|', ' ', '`'] := by decide
  have after : "` | ".toList = ['`', ' ', '|', ' '] := by decide
  have between : " | ".toList = [' ', '|', ' '] := by decide
  have closing : " |".toList = [' ', '|'] := by decide
  have mark : "`".toList = ['`'] := by decide
  unfold coverageLine rowText spaced
  simp only [String.toList_append, opening, after, between, closing, mark, flatMap_cons,
    flatMap_nil, append_assoc, cons_append, nil_append]

theorem tidy_marked {text : String} : Tidy ("`" ++ text ++ "`").toList ↔ Tidy text.toList := by
  have mark : "`".toList = ['`'] := by decide
  simp only [String.toList_append, mark, cons_append, nil_append]
  unfold Tidy
  rw [Unbroken, Unbroken, forall_mem_cons, forall_mem_append, forall_mem_singleton,
    unbarred, unbarred_append]
  have last : unbarred (leavesEscape false text.toList) ['`'] = true := by
    cases leavesEscape false text.toList <;> rfl
  have plain : ('`' == '\\') = false := by decide
  have other : ('`' != '|') = true := by decide
  rw [plain, other, last, Bool.and_true, Bool.true_and]
  constructor
  · intro parts
    exact ⟨parts.1.2.1, parts.2⟩
  · intro parts
    exact ⟨⟨rfl, parts.1, rfl⟩, parts.2⟩

theorem coverageReading_some {line : List Char} {fields : List (List Char)}
    (read : coverageReading line = some fields) : rowFields line = some fields := by
  unfold coverageReading at read
  split at read
  · rename_i source status note found
    cases read
    exact found
  · cases read

/-- A coverage entry is faithful exactly when its texts are tidy. -/
theorem faithfulCoverage_iff : FaithfulCoverage coverage ↔ TidyCoverage coverage := by
  unfold FaithfulCoverage
  rw [coverageLine_eq]
  constructor
  · intro faithful
    have stands := mem_singleton_self [spaced ("`" ++ coverage.sourceId ++ "`").toList,
      spaced coverage.status.toList, spaced (coverage.note.getD "").toList]
    rw [← faithful, mem_filterMap] at stands
    obtain ⟨line, inside, read⟩ := stands
    have tidy := tidy_of_field (unbroken_of_mem_lines _ line inside) (coverageReading_some read)
    rw [forall_mem_cons, forall_mem_cons, forall_mem_singleton] at tidy
    exact ⟨tidy_marked.mp (tidy_spaced.mp tidy.1), tidy_spaced.mp tidy.2.1,
      tidy_spaced.mp tidy.2.2⟩
  · intro tidy
    have fields : ∀ field ∈ [("`" ++ coverage.sourceId ++ "`").toList, coverage.status.toList,
        (coverage.note.getD "").toList], Tidy field := by
      rw [forall_mem_cons, forall_mem_cons, forall_mem_singleton]
      exact ⟨tidy_marked.mpr tidy.1, tidy.2.1, tidy.2.2⟩
    have read := rowFields_row fun field listed => (fields field listed).2
    rw [lines_of_unbroken (unbroken_row.mpr fun field listed => (fields field listed).1),
      filterMap_cons, coverageReading, read]
    rfl

end
end KSlide.Report
