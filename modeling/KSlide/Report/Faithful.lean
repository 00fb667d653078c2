import KSlide.Report.Notes

/-
This file shows which runs have reports that are faithful to their canonical slides.
-/

namespace KSlide.Report
open SlideIR Text Python List

/-- A list that grows by the other parts has no other parts when its length is kept. -/
theorem forall_nil_of_flatMap {Item Part : Type} {items : List Item} {first : Item → Part}
    {others : Item → List Part}
    (same : (items.flatMap fun item => first item :: others item) = items.map first) :
    ∀ item ∈ items, others item = [] := by
  have least (listed : List Item) :
      listed.length ≤ (listed.flatMap fun item => first item :: others item).length := by
    induction listed with
    | nil => exact Nat.zero_le _
    | cons item listed ih =>
      rw [flatMap_cons, length_append, length_cons, length_cons]
      omega
  have count : (items.flatMap fun item => first item :: others item).length = items.length := by
    rw [same, length_map]
  clear same
  induction items with
  | nil => exact fun _ absent => absurd absent not_mem_nil
  | cons item items ih =>
    have rest := least items
    rw [flatMap_cons, length_append, length_cons, length_cons] at count
    have none : (others item).length = 0 := by omega
    rw [forall_mem_cons]
    exact ⟨length_eq_zero_iff.mp none, ih (by omega)⟩

theorem infix_flatMap {Item Part : Type} {items : List Item} {item : Item} (listed : item ∈ items)
    (parts : Item → List Part) : parts item <:+: items.flatMap parts := by
  obtain ⟨before, after, split⟩ := append_of_mem listed
  rw [split, flatMap_append, flatMap_cons]
  exact ⟨before.flatMap parts, after.flatMap parts, by simp⟩

theorem infix_linesOf {part whole : List String} (stands : part <:+: whole) :
    linesOf part <:+: linesOf whole := by
  obtain ⟨before, after, same⟩ := stands
  rw [← same, linesOf_append, linesOf_append]
  exact ⟨linesOf before, linesOf after, rfl⟩

theorem lines_written {entries : List String} (occupied : entries ≠ []) :
    lines (written entries).toList = linesOf entries ++ [[]] := by
  have newline : "\n".toList = ['\n'] := by decide
  have others : entries.map String.toList ≠ [] := by simpa using occupied
  unfold written
  rw [String.toList_append, String.toList_intercalate, newline, lines_newline,
    lines_intercalate others, flatMap_map]
  rfl

section

/-- Each note stands in the block of a unit exactly when the unit has no item of its kind. -/
structure FaithfulNotes (block : List (List Char)) (slide : SlideIR) : Prop where
  regions : noRegions.toList ∈ block ↔ slide.regions = []
  tables : noTables.toList ∈ block ↔ slide.tables = []
  terms : noTerms.toList ∈ block ↔ termMatches slide = []
  claims : noClaims.toList ∈ block ↔ slide.executiveClaims = []
  unresolved : noUnresolved.toList ∈ block ↔ slide.unresolved = []

/-- The unit has no term, and no text of the unit holds the note of a kind that the unit has. -/
structure PlainNotes (held : List (List Char)) (slide : SlideIR) : Prop where
  regions : slide.regions ≠ [] → noRegions.toList ∉ held
  tables : slide.tables ≠ [] → noTables.toList ∉ held
  terms : termMatches slide = []
  claims : slide.executiveClaims ≠ [] → noClaims.toList ∉ held
  unresolved : slide.unresolved ≠ [] → noUnresolved.toList ∉ held

theorem mem_whenEmpty_iff {Item : Type} {items : List Item} {note other : String} :
    note ∈ whenEmpty items other ↔ note = other ∧ items = [] := by
  unfold whenEmpty
  split
  · rename_i none
    rw [mem_singleton, and_iff_left (isEmpty_iff.mp none)]
  · rename_i some
    exact iff_of_false not_mem_nil fun none => some (isEmpty_iff.mpr none.2)

/-- Only the items of its kind decide whether a unit has a note. -/
theorem mem_unitNotes (slide : SlideIR) :
    (noRegions ∈ unitNotes slide ↔ slide.regions = []) ∧
      (noTables ∈ unitNotes slide ↔ slide.tables = []) ∧ noTerms ∈ unitNotes slide ∧
        (noClaims ∈ unitNotes slide ↔ slide.executiveClaims = []) ∧
          (noUnresolved ∈ unitNotes slide ↔ slide.unresolved = []) := by
  simp [unitNotes, mem_whenEmpty_iff, noRegions, noTables, noTerms, noClaims, noUnresolved]

variable [Printing]

theorem faithfulNotes_iff (unit : WorkUnit) (sourceName : String) (translated : TranslatedUnit) :
    FaithfulNotes (linesOf (translatedSections unit sourceName translated)) translated.slide ↔
      PlainNotes (heldLines unit sourceName translated) translated.slide := by
  have known : ∀ note ∈ notes, note.toList ∈ linesOf (translatedSections unit sourceName translated) ↔
      note.toList ∈ heldLines unit sourceName translated ∨ note ∈ unitNotes translated.slide :=
    fun _ listed => mem_unit listed unit sourceName translated
  simp only [notes, forall_mem_cons, not_mem_nil, false_implies, implies_true,
    and_true] at known
  obtain ⟨regions, tables, terms, claims, unresolved⟩ := known
  obtain ⟨noted, tabled, termed, claimed, settled⟩ := mem_unitNotes translated.slide
  rw [noted] at regions
  rw [tabled] at tables
  rw [claimed] at claims
  rw [settled] at unresolved
  constructor
  · intro faithful
    exact {
      regions := fun some held => some (faithful.regions.mp (regions.mpr (.inl held)))
      tables := fun some held => some (faithful.tables.mp (tables.mpr (.inl held)))
      terms := faithful.terms.mp (terms.mpr (.inr termed))
      claims := fun some held => some (faithful.claims.mp (claims.mpr (.inl held)))
      unresolved := fun some held => some (faithful.unresolved.mp (unresolved.mpr (.inl held))) }
  · intro plain
    exact {
      regions := regions.trans (or_iff_right_of_imp fun held =>
        by_contra fun some => plain.regions some held)
      tables := tables.trans (or_iff_right_of_imp fun held =>
        by_contra fun some => plain.tables some held)
      terms := iff_of_true (terms.mpr (.inr termed)) plain.terms
      claims := claims.trans (or_iff_right_of_imp fun held =>
        by_contra fun some => plain.claims some held)
      unresolved := unresolved.trans (or_iff_right_of_imp fun held =>
        by_contra fun some => plain.unresolved some held) }

end

section

def isHeading (line : List Char) : Bool := "## ".toList.isPrefixOf line

/-- Each entry of the file begins with a heading. -/
def headings (text : List Char) : List (List Char) := (lines text).filter isHeading

theorem headings_opened (part : String) {rest : List Char}
    (plain : part.toList.all (!endsLine ·) = true) (other : part.toList.head?.any (· != '#') = true) :
    (lines (part.toList ++ rest)).filter isHeading = (laterLines rest).filter isHeading := by
  obtain ⟨first, later, split⟩ := exists_cons_of_ne_nil (lines_ne_nil rest)
  rw [lines_unbroken_append (unbroken_iff_all.mpr plain), laterLines, split, modifyHead_cons,
    tail_cons]
  apply filter_cons_of_neg
  cases begins : part.toList with
  | nil =>
    rw [begins] at other
    cases other
  | cons letter letters =>
    rw [begins, head?_cons, Option.any_some, bne_iff_ne] at other
    intro heading
    have first := List.isPrefixOf_iff_prefix.mp heading
    exact other (cons_prefix_cons.mp first).1.symm

theorem heading_title {item : ReviewItem} (unbroken : Unbroken (entryHeading item).toList) :
    (lines (entryHeading item).toList).filter isHeading = [(entryHeading item).toList] := by
  have begins : isHeading (entryHeading item).toList = true := by
    unfold isHeading entryHeading
    rw [List.isPrefixOf_iff_prefix]
    simp only [String.toList_append, append_assoc]
    exact prefix_append _ _
  rw [lines_of_unbroken unbroken, filter_cons_of_pos begins]
  rfl

variable [Printing]

/-- The texts of an entry hold these lines by themselves. -/
def entryHeld (item : ReviewItem) : List (List Char) :=
  laterLines (orText (some (joined item.evidenceIds)) "[missing]").toList ++
    laterLines (item.reason.getD "None").toList ++
    laterLines ((if item.cropPath.truthy then str item.cropPath else "[not available]") ++
      "`").toList

/-- An entry has one heading, and its texts hold no other. -/
def TidyEntry (item : ReviewItem) : Prop :=
  Unbroken (entryHeading item).toList ∧ ∀ line ∈ entryHeld item, isHeading line = false

theorem headings_entry (workUnitId : String) (evidence : EvidenceIR) (item : UnresolvedItem) :
    (linesOf (entryLines (reviewItem workUnitId evidence item))).filter isHeading =
      (lines (entryHeading (reviewItem workUnitId evidence item)).toList).filter isHeading ++
        (entryHeld (reviewItem workUnitId evidence item)).filter isHeading := by
  have empty : (lines "".toList).filter isHeading = [] := by decide
  have provenance : (lines "- Provenance: **UNRESOLVED**".toList).filter isHeading = [] := by decide
  have severity : (lines ("- Severity: " ++
      (reviewItem workUnitId evidence item).severity).toList).filter isHeading = [] := by
    show (lines ("- Severity: " ++ "MAJOR").toList).filter isHeading = []
    decide
  have action : (lines ("- Recommended action: " ++
      (reviewItem workUnitId evidence item).recommendedAction).toList).filter isHeading = [] := by
    show (lines ("- Recommended action: " ++
      "Review the source crop and submit a targeted repair.").toList).filter isHeading = []
    decide
  have evidenced (text : String) : (lines ("- Evidence: " ++ text).toList).filter isHeading =
      (laterLines text.toList).filter isHeading := by
    rw [String.toList_append]
    exact headings_opened "- Evidence: " (by decide) (by decide)
  have reasoned (text : String) : (lines ("- Reason: " ++ text).toList).filter isHeading =
      (laterLines text.toList).filter isHeading := by
    rw [String.toList_append]
    exact headings_opened "- Reason: " (by decide) (by decide)
  have cropped (text : String) : (lines ("- Crop: `" ++ text ++ "`").toList).filter isHeading =
      (laterLines (text ++ "`").toList).filter isHeading := by
    rw [String.toList_append, String.toList_append, append_assoc, String.toList_append]
    exact headings_opened "- Crop: `" (by decide) (by decide)
  unfold entryLines entryHeld
  simp only [linesOf, flatMap_cons, flatMap_nil, filter_append, append_nil, empty,
    provenance, severity, action, evidenced, reasoned, cropped, nil_append, append_assoc]

variable (run : Run)

def unresolvedOf (unit : WorkUnit) : List UnresolvedItem :=
  match run.translated unit.workUnitId with
  | some translated => translated.slide.unresolved
  | none => []

def entryTitle (unit : WorkUnit) (item : UnresolvedItem) : String :=
  "## " ++ unit.workUnitId ++ " — `" ++ (sourceId item).getD "None" ++ "`"

/-- The file has one entry for each unresolved item, and the entries stand in the order of units. -/
def FaithfulEntries : Prop := headings (renderRun run).unresolved.toList =
  (sortedUnits run).flatMap fun unit =>
    (unresolvedOf run unit).map fun item => (entryTitle unit item).toList

theorem entryTitles : ((reviewItems run).map fun item => (entryHeading item).toList) =
    (sortedUnits run).flatMap fun unit =>
      (unresolvedOf run unit).map fun item => (entryTitle unit item).toList := by
  unfold reviewItems
  rw [map_flatMap]
  congr 1
  funext unit
  unfold sections unresolvedOf
  cases run.translated unit.workUnitId with
  | none => rfl
  | some translated =>
    show ((translated.slide.unresolved.map (reviewItem unit.workUnitId translated.evidence)).map
      fun item => (entryHeading item).toList) = _
    rw [map_map]
    rfl

theorem mem_reviewItems {run : Run} {item : ReviewItem} (listed : item ∈ reviewItems run) :
    ∃ workUnitId evidence unresolved, item = reviewItem workUnitId evidence unresolved := by
  obtain ⟨unit, _, inside⟩ := mem_flatMap.mp listed
  unfold sections at inside
  cases found : run.translated unit.workUnitId with
  | none =>
    rw [found] at inside
    exact absurd inside not_mem_nil
  | some translated =>
    rw [found] at inside
    obtain ⟨unresolved, _, same⟩ := mem_map.mp inside
    exact ⟨unit.workUnitId, translated.evidence, unresolved, same.symm⟩

theorem headings_unresolved : headings (renderRun run).unresolved.toList =
    (reviewItems run).flatMap fun item => (lines (entryHeading item).toList).filter isHeading ++
      (entryHeld item).filter isHeading := by
  have opening : (linesOf ["# K-Slide Unresolved Items", ""]).filter isHeading = [] := by decide
  have none : (linesOf (whenEmpty (reviewItems run) "No unresolved items.")).filter isHeading = [] := by
    unfold whenEmpty
    split
    · decide
    · rfl
  have entries : (linesOf ((reviewItems run).flatMap entryLines)).filter isHeading =
      (reviewItems run).flatMap fun item => (linesOf (entryLines item)).filter isHeading := by
    rw [linesOf, flatMap_assoc, filter_flatMap]
    rfl
  have last : ([[]] : List (List Char)).filter isHeading = [] := by decide
  show (lines (written (unresolvedLines run)).toList).filter isHeading = _
  rw [lines_written (by simp [unresolvedLines])]
  unfold unresolvedLines
  rw [linesOf_append, linesOf_append, filter_append, filter_append, filter_append,
    opening, none, entries, last, append_nil, nil_append, nil_append]
  apply flatMap_congr
  intro item listed
  obtain ⟨workUnitId, evidence, unresolved, same⟩ := mem_reviewItems listed
  rw [same]
  exact headings_entry workUnitId evidence unresolved

theorem faithfulEntries_iff :
    FaithfulEntries run ↔ ∀ item ∈ reviewItems run, TidyEntry item := by
  unfold FaithfulEntries
  rw [← entryTitles, headings_unresolved]
  have titled (unbroken : ∀ item ∈ reviewItems run, Unbroken (entryHeading item).toList) :
      ((reviewItems run).flatMap fun item => (lines (entryHeading item).toList).filter isHeading ++
        (entryHeld item).filter isHeading) = (reviewItems run).flatMap fun item =>
          (entryHeading item).toList :: (entryHeld item).filter isHeading := by
    apply flatMap_congr
    intro item listed
    rw [heading_title (unbroken item listed)]
    rfl
  constructor
  · intro faithful
    have unbroken : ∀ item ∈ reviewItems run, Unbroken (entryHeading item).toList := by
      intro item listed
      have stands : (entryHeading item).toList ∈
          (reviewItems run).map fun item => (entryHeading item).toList :=
        mem_map.mpr ⟨item, listed, rfl⟩
      rw [← faithful, ← headings_unresolved] at stands
      exact unbroken_of_mem_lines _ _ (mem_filter.mp stands).1
    rw [titled unbroken] at faithful
    intro item listed
    refine ⟨unbroken item listed, ?_⟩
    have none := forall_nil_of_flatMap faithful item listed
    simpa using filter_eq_nil_iff.mp none
  · intro tidy
    rw [titled fun item listed => (tidy item listed).1, map_eq_flatMap]
    apply flatMap_congr
    intro item listed
    have none : (entryHeld item).filter isHeading = [] := by
      rw [filter_eq_nil_iff]
      simpa using (tidy item listed).2
    rw [none]

end

section
variable [Printing]

/-- The report carries a translated unit as its canonical slide has it. -/
structure FaithfulUnit (report : List (List Char)) (unit : WorkUnit) (sourceName : String)
    (translated : TranslatedUnit) : Prop where
  stands : linesOf (translatedSections unit sourceName translated) <:+: report
  tables : ∀ table ∈ translated.slide.tables, FaithfulTable table ∧
    linesOf (tableMarkdown table) <:+: linesOf (translatedSections unit sourceName translated)
  coverage : ∀ entry ∈ translated.slide.coverage, FaithfulCoverage entry ∧
    lines (coverageLine entry).toList <:+: linesOf (translatedSections unit sourceName translated)
  notes : FaithfulNotes (linesOf (translatedSections unit sourceName translated)) translated.slide

/-- The texts of the unit leave the lines of its block as they are. -/
structure TidyUnit (unit : WorkUnit) (sourceName : String) (translated : TranslatedUnit) : Prop where
  tables : ∀ table ∈ translated.slide.tables, TidyTable table
  coverage : ∀ entry ∈ translated.slide.coverage, TidyCoverage entry
  notes : PlainNotes (heldLines unit sourceName translated) translated.slide

theorem unit_stands {run : Run} {unit : WorkUnit} (listed : unit ∈ run.queue.workUnits)
    {translated : TranslatedUnit} (found : run.translated unit.workUnitId = some translated) :
    linesOf (translatedSections unit (sourceName run unit) translated) <:+:
      lines (renderRun run).finalReport.toList := by
  have sorted : unit ∈ sortedUnits run := (perm_insertionSort _ _).mem_iff.mpr listed
  have block : (sections run unit).1 = translatedSections unit (sourceName run unit) translated := by
    unfold sections
    rw [found]
    rfl
  have inside := infix_flatMap sorted fun unit => (sections run unit).1
  rw [block] at inside
  have occupied : finalLines run ≠ [] := by simp [finalLines, finalOpening]
  show _ <:+: lines (written (finalLines run)).toList
  rw [lines_written occupied]
  have whole := infix_linesOf (inside.trans ⟨finalOpening run, finalClosing run, rfl⟩)
  exact whole.trans ⟨[], [[]], rfl⟩

theorem faithfulUnit_iff {run : Run} {unit : WorkUnit} (listed : unit ∈ run.queue.workUnits)
    {translated : TranslatedUnit} (found : run.translated unit.workUnitId = some translated) :
    FaithfulUnit (lines (renderRun run).finalReport.toList) unit (sourceName run unit) translated ↔
      TidyUnit unit (sourceName run unit) translated := by
  have tabled (table : TableIR) (present : table ∈ translated.slide.tables) :
      linesOf (tableMarkdown table) <:+:
        linesOf (translatedSections unit (sourceName run unit) translated) := by
    apply infix_linesOf
    apply (infix_flatMap present tableMarkdown).trans
    unfold translatedSections tableSection
    simp only [append_assoc]
    exact infix_append_of_infix_right (infix_append_of_infix_right
      (infix_append_of_infix_right (prefix_append _ _).isInfix))
  have covered (entry : CoverageEntry) (present : entry ∈ translated.slide.coverage) :
      lines (coverageLine entry).toList <:+:
        linesOf (translatedSections unit (sourceName run unit) translated) := by
    obtain ⟨before, after, split⟩ :=
      append_of_mem (mem_map.mpr ⟨entry, present, rfl⟩)
    have single : [coverageLine entry] <:+: translated.slide.coverage.map coverageLine :=
      ⟨before, after, by rw [split, append_assoc, singleton_append]⟩
    have alone : linesOf [coverageLine entry] = lines (coverageLine entry).toList := append_nil _
    rw [← alone]
    apply infix_linesOf
    apply single.trans
    unfold translatedSections coverageSection
    simp only [← append_assoc]
    exact (suffix_append _ _).isInfix.trans (prefix_append _ _).isInfix
  constructor
  · intro faithful
    exact {
      tables := fun table present => faithfulTable_iff.mp (faithful.tables table present).1
      coverage := fun entry present => faithfulCoverage_iff.mp (faithful.coverage entry present).1
      notes := (faithfulNotes_iff unit (sourceName run unit) translated).mp faithful.notes }
  · intro tidy
    exact {
      stands := unit_stands listed found
      tables := fun table present =>
        ⟨faithfulTable_iff.mpr (tidy.tables table present), tabled table present⟩
      coverage := fun entry present =>
        ⟨faithfulCoverage_iff.mpr (tidy.coverage entry present), covered entry present⟩
      notes := (faithfulNotes_iff unit (sourceName run unit) translated).mpr tidy.notes }

/-- The final report and the unresolved items of a run are faithful to its canonical slides. -/
def Faithful (run : Run) : Prop :=
  (∀ unit ∈ run.queue.workUnits, ∀ translated, run.translated unit.workUnitId = some translated →
    FaithfulUnit (lines (renderRun run).finalReport.toList) unit (sourceName run unit) translated) ∧
  FaithfulEntries run

/-- The reports are faithful exactly when no unit has a term and every text is tidy. -/
theorem reports_faithful (run : Run) : Faithful run ↔
    (∀ unit ∈ run.queue.workUnits, ∀ translated, run.translated unit.workUnitId = some translated →
      TidyUnit unit (sourceName run unit) translated) ∧
    ∀ item ∈ reviewItems run, TidyEntry item := by
  unfold Faithful
  rw [faithfulEntries_iff]
  apply and_congr_left'
  constructor
  · intro faithful unit listed translated found
    exact (faithfulUnit_iff listed found).mp (faithful unit listed translated found)
  · intro tidy unit listed translated found
    exact (faithfulUnit_iff listed found).mpr (tidy unit listed translated found)

end

section

/-- The report of this run prints no list and no object. -/
@[reducible] def plainPrinting : Printing where
  text _ := ""

attribute [local instance] plainPrinting

def termUnit : WorkUnit where
  workUnitId := "doc-001-slide-0001"
  documentId := "doc-001"
  sourceInputId := "source-001"
  sourceIndex := 0
  kind := "slide"
  status := .translated
  evidenceRevision := none
  translationRevision := none
  canonicalIrSha256 := none
  translationAttempts := 1
  repairAttempts := 0
  verificationStatus := "NOT_RUN"
  revision := 1
  createdAt := ""
  updatedAt := ""

def termTranslated : TranslatedUnit where
  evidence := {
    documentId := .str "doc-001"
    workUnitId := .str "doc-001-slide-0001"
    source := .named [] }
  slide := {
    regions := [{
      readingOrder := 0
      translation := some "Revenue grew."
      provenance := "supported_interpretation"
      termMatches := ["매출"]
      unresolvedReason := none }]
    tables := []
    visualRelations := []
    executiveClaims := []
    unresolved := []
    coverage := [] }

theorem termRun_named : "run-1" ≠ "" := by decide

/-- One unit of this run has a recorded term. -/
def termRun : Run where
  queue := ⟨"run-1", [termUnit], termRun_named, by decide⟩
  manifest := none
  translated := fun _ => some termTranslated
  conflicts := .absent none

/-- The report says that no term was recorded. -/
theorem term_unfaithful : ¬ Faithful termRun := by
  intro faithful
  have listed : termUnit ∈ termRun.queue.workUnits := mem_singleton.mpr rfl
  have stands := faithful.1 termUnit listed termTranslated rfl
  have tidy := (faithfulNotes_iff _ _ _).mp stands.notes
  exact absurd tidy.terms (by decide)

end
end KSlide.Report
