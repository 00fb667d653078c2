import KSlide.Errors
import KSlide.Json.Rows

/-
This file gives the writer and the reader of evaluation result rows.
-/

open Json

namespace KSlide.ResultRows
open Text List

/-- Each row is written in the default text, and a newline ends it. -/
def writeResults (results : List Json) : List Char :=
  results.flatMap fun result => spacedChars result ++ ['\n']

/-- The text of a refusal names the file and the number of the line. -/
def refuseLine (reason name : String) (index : Nat) : Raised :=
  .other ("AdapterError: " ++ reason ++ " at " ++ name ++ ":" ++ toString index)

def readLine (name : String) (index : Nat) (line : List Char) : Except Raised Json :=
  match loads line with
  | none => .error (refuseLine "malformed JSONL" name index)
  | some (.obj fields) => .ok (.obj fields)
  | some _ => .error (refuseLine "JSONL row is not an object" name index)

/-- Blank lines are counted and skipped. -/
def readLines (name : String) : Nat → List (List Char) → Except Raised (List Json)
  | _, [] => .ok []
  | index, line :: lines =>
    if line.all isSpace then readLines name (index + 1) lines
    else do
      let value ← readLine name index line
      let values ← readLines name (index + 1) lines
      return value :: values

/-- The reader splits the text at every letter that ends a line. -/
def readJsonl (name : String) (text : List Char) : Except Raised (List Json) := do
  let rows ← readLines name 1 (splitLines (universalNewlines text))
  if rows.isEmpty then .error (.other ("AdapterError: source result is empty: " ++ name))
  else return rows

/-- A result row is an object with finite numbers; its sorted form stands for the dict itself. -/
structure ResultRow (row : Json) : Prop where
  object : ∃ fields, row = .obj fields
  finite : row.Finite

namespace ResultRow
variable {row : Json}

theorem braces (result : ResultRow row) :
    ∃ letters, spacedChars row = '\x7b' :: (letters ++ ['\x7d']) := by
  obtain ⟨fields, rfl⟩ := result.object
  exact ⟨spacedFields fields, rfl⟩

theorem written (result : ResultRow row) : Written (spacedChars row) row.SingleLine :=
  written_spaced row result.finite

/-- A carriage return in a text is written as an escape. -/
theorem absent (result : ResultRow row) : '\r' ∉ spacedChars row := by
  intro listed
  have printable := result.written.printable _ listed
  exact absurd printable (by decide)

theorem filled (result : ResultRow row) : (spacedChars row).all isSpace = false := by
  obtain ⟨letters, shape⟩ := result.braces
  rw [shape]
  rfl

theorem lines_pos (result : ResultRow row) : 0 < (filledLines (spacedChars row)).length := by
  obtain ⟨letters, shape⟩ := result.braces
  have listed : '\x7b' ∈ spacedChars row := by
    rw [shape]
    exact mem_cons_self
  exact filledLines_pos listed rfl

theorem single_of_lines (result : ResultRow row)
    (one : (filledLines (spacedChars row)).length ≤ 1) : row.SingleLine := by
  rw [← result.written.unbroken]
  intro letter listed
  by_contra broken
  have cut : isBreak letter = true := by simpa using broken
  obtain ⟨letters, shape⟩ := result.braces
  have absent := result.absent
  rw [shape] at absent listed one
  have clear : '\r' ∉ letters := fun inner => absent (by simp [inner])
  have inner : letter ∈ letters := by
    rcases mem_cons.mp listed with rfl | listed
    · cases cut
    · rcases mem_append.mp listed with listed | last
      · exact listed
      · rw [mem_singleton.mp last] at cut
        cases cut
  have more : 1 < (filledLines ('\x7b' :: (letters ++ ['\x7d']))).length :=
    filledLines_break clear rfl rfl inner cut
  omega

theorem read (result : ResultRow row) (name : String) (index : Nat) :
    readLine name index (spacedChars row) = .ok row.sorted := by
  have loaded := loads_spaced result.finite
  obtain ⟨fields, rfl⟩ := result.object
  rw [readLine, loaded]
  rfl

end ResultRow

section
variable {name : String} {rows : List Json}

/-- An accepted file gives one value for each filled line. -/
theorem readLines_length {index : Nat} {lines : List (List Char)} {values : List Json}
    (accepted : readLines name index lines = .ok values) :
    values.length = (lines.filter fun line => !line.all isSpace).length := by
  induction lines generalizing index values with
  | nil =>
    cases accepted
    rfl
  | cons line lines ih =>
    rw [readLines] at accepted
    split at accepted
    · rename_i blank
      rw [filter_cons_of_neg (by simpa using blank)]
      exact ih accepted
    · rename_i filled
      rw [filter_cons_of_pos (by simpa using filled), length_cons]
      cases first : readLine name index line with
      | error _ =>
        rw [first] at accepted
        cases accepted
      | ok value =>
        cases later : readLines name (index + 1) lines with
        | error _ =>
          rw [first, later] at accepted
          cases accepted
        | ok others =>
          rw [first, later] at accepted
          cases accepted
          rw [length_cons, ih later]

theorem readLines_rows (results : ∀ row ∈ rows, ResultRow row) (index : Nat) :
    readLines name index (rows.map spacedChars) = .ok (rows.map sorted) := by
  induction rows generalizing index with
  | nil => rfl
  | cons row rows ih =>
    have result := results row mem_cons_self
    have first := result.read name index
    have later := ih (fun row listed => results row (mem_cons_of_mem _ listed)) (index + 1)
    rw [map_cons, readLines, if_neg (by simp [result.filled]), first, later]
    rfl

/-- The text reader leaves the written rows as they are. -/
theorem universalNewlines_write (results : ∀ row ∈ rows, ResultRow row) :
    universalNewlines (writeResults rows) = writeResults rows := by
  apply universalNewlines_of_not_mem
  intro listed
  obtain ⟨row, stored, written⟩ := mem_flatMap.mp listed
  rcases mem_append.mp written with written | newline
  · exact (results row stored).absent written
  · cases mem_singleton.mp newline

theorem filledLines_write (results : ∀ row ∈ rows, ResultRow row) :
    filledLines (writeResults rows) = rows.flatMap fun row => filledLines (spacedChars row) := by
  apply filledLines_flatMap fun row listed => (results row listed).absent
  intro row listed
  obtain ⟨letters, shape⟩ := (results row listed).braces
  exact ⟨'\x7b' :: letters, '\x7d', shape, rfl⟩

theorem lines_le_one (results : ∀ row ∈ rows, ResultRow row)
    (count : (rows.flatMap fun row => filledLines (spacedChars row)).length ≤ rows.length) :
    ∀ row ∈ rows, (filledLines (spacedChars row)).length ≤ 1 := by
  have least (others : List Json) (kept : ∀ row ∈ others, ResultRow row) :
      others.length ≤ (others.flatMap fun row => filledLines (spacedChars row)).length := by
    induction others with
    | nil => exact Nat.zero_le _
    | cons row others ih =>
      have first := (kept row mem_cons_self).lines_pos
      have later := ih fun row listed => kept row (mem_cons_of_mem _ listed)
      rw [flatMap_cons, length_append, length_cons]
      omega
  induction rows with
  | nil => exact fun _ listed => absurd listed not_mem_nil
  | cons row rows ih =>
    have kept : ∀ row ∈ rows, ResultRow row := fun row listed =>
      results row (mem_cons_of_mem _ listed)
    have first := (results row mem_cons_self).lines_pos
    have later := least rows kept
    rw [flatMap_cons, length_append, length_cons] at count
    rw [forall_mem_cons]
    exact ⟨by omega, ih kept (by omega)⟩

/-- The rows of a file are read back exactly when no text of a row holds a line separator. -/
theorem rows_survive (name : String) (rows : List Json) (occupied : rows ≠ [])
    (results : ∀ row ∈ rows, ResultRow row) :
    readJsonl name (writeResults rows) = .ok (rows.map sorted) ↔ ∀ row ∈ rows, row.SingleLine := by
  constructor
  · intro accepted row listed
    rw [readJsonl, universalNewlines_write results] at accepted
    cases read : readLines name 1 (splitLines (writeResults rows)) with
    | error _ =>
      rw [read] at accepted
      cases accepted
    | ok values =>
      have count := readLines_length read
      have same : values = rows.map sorted := by
        rw [read] at accepted
        change (if values.isEmpty = true then _ else _) = _ at accepted
        split_ifs at accepted
        exact Except.ok.inj accepted
      have filled := filledLines_write results
      rw [same, length_map] at count
      change rows.length = (filledLines (writeResults rows)).length at count
      rw [filled] at count
      have result := results row listed
      exact result.single_of_lines (lines_le_one results (by omega) row listed)
  · intro single
    have unbroken : ∀ row ∈ rows, ∀ letter ∈ spacedChars row, isBreak letter = false :=
      fun row listed => (results row listed).written.unbroken.mpr (single row listed)
    have lines : splitLines (writeResults rows) = rows.map spacedChars :=
      splitLines_flatMap unbroken
    rw [readJsonl, universalNewlines_write results, lines, readLines_rows results]
    show (if (rows.map sorted).isEmpty = true then _ else _) = _
    rw [if_neg (by simpa using occupied)]
    rfl

/-- A text with a line separator makes its file malformed. -/
theorem separator_malformed :
    ResultRow (.obj [("detail", .str (String.ofList [Char.ofNat 8232]))]) ∧
      readJsonl "results.jsonl"
        (writeResults [.obj [("detail", .str (String.ofList [Char.ofNat 8232]))]]) =
          .error (refuseLine "malformed JSONL" "results.jsonl" 1) := by
  refine ⟨⟨⟨_, rfl⟩, trivial, trivial⟩, ?_⟩
  decide +kernel

/-- Rows with Korean text are read back. -/
theorem hangul_survives :
    readJsonl "results.jsonl" (writeResults
      [.obj [("detail", .str "매출 12"), ("rate", .real "0.5")], .obj [("case", .int 7)]]) =
        .ok ([.obj [("detail", .str "매출 12"), ("rate", .real "0.5")], .obj [("case", .int 7)]].map
          sorted) := by
  have digit (letter : Char) (holds : Text.isDigit letter = true) :
      ∀ other ∈ [letter], Text.isDigit other = true := by
    rwa [forall_mem_singleton]
  have real : RealShape "0.5".toList :=
    ⟨[], ['0'], ['.', '5'], [], rfl, .inl rfl, ⟨by simp, digit '0' rfl⟩, fun _ => rfl,
      .inr ⟨['5'], rfl, by simp, digit '5' rfl⟩, .inl rfl, by simp⟩
  have first : ResultRow (.obj [("detail", .str "매출 12"), ("rate", .real "0.5")]) :=
    ⟨⟨_, rfl⟩, trivial, real, trivial⟩
  have second : ResultRow (.obj [("case", .int 7)]) := ⟨⟨_, rfl⟩, trivial, trivial⟩
  have number : SingleLine (.real "0.5") :=
    ⟨oneLine_of_all (by decide +kernel), fun letter listed => (realShape_basic real letter listed).1⟩
  have rows (holds : Json → Prop) (left : holds (.obj [("detail", .str "매출 12"),
      ("rate", .real "0.5")])) (right : holds (.obj [("case", .int 7)])) :
      ∀ row ∈ [Json.obj [("detail", .str "매출 12"), ("rate", .real "0.5")],
        .obj [("case", .int 7)]], holds row := by
    rw [forall_mem_cons, forall_mem_singleton]
    exact ⟨left, right⟩
  apply (rows_survive "results.jsonl" _ (by simp) (rows ResultRow first second)).mpr
  apply rows SingleLine
  · exact ⟨oneLine_of_all (by decide +kernel), oneLine_of_all (by decide +kernel),
      oneLine_of_all (by decide +kernel), number, trivial⟩
  · exact ⟨oneLine_of_all (by decide +kernel), trivial, trivial⟩

end
end KSlide.ResultRows
