import KSlide.Json.Text

/-
This file gives streams with one JSON value in each line.
-/

namespace Text
open List

/-- The letters that end a line. -/
def isBreak (letter : Char) : Bool :=
  let point := letter.toNat
  (10 ≤ point && point ≤ 13) || (28 ≤ point && point ≤ 30) || point == 133 || point == 8232 ||
    point == 8233

theorem unbroken_of_all {letters : List Char} (all : letters.all (!isBreak ·) = true) :
    ∀ letter ∈ letters, isBreak letter = false := by
  simpa using all

/-- A carriage return and the newline after it end one line. -/
def splitLines : List Char → List (List Char)
  | [] => []
  | '\r' :: '\n' :: rest => [] :: splitLines rest
  | letter :: rest =>
    if isBreak letter then [] :: splitLines rest
    else
      match splitLines rest with
      | [] => [[letter]]
      | line :: lines => (letter :: line) :: lines

theorem splitLines_newline (rest : List Char) : splitLines ('\n' :: rest) = [] :: splitLines rest := by
  rw [splitLines]
  · rfl
  · intro _ same
    exact absurd same (by decide)

theorem splitLines_cons {letter : Char} (unbroken : isBreak letter = false) (rest : List Char) :
    splitLines (letter :: rest) =
      match splitLines rest with
      | [] => [[letter]]
      | line :: lines => (letter :: line) :: lines := by
  rw [splitLines]
  · rw [if_neg (by simp [unbroken])]
  · intro _ same
    rw [same] at unbroken
    cases unbroken

theorem splitLines_unbroken (letters : List Char) :
    ∀ line ∈ splitLines letters, ∀ letter ∈ line, isBreak letter = false := by
  fun_induction splitLines letters with
  | case1 => simp
  | case2 rest ih => simpa using ih
  | case3 letter rest _ broken ih => simpa using ih
  | case4 letter rest _ unbroken empty ih => simpa using unbroken
  | case5 letter rest _ unbroken line lines split ih =>
    rw [split, forall_mem_cons] at ih
    rw [forall_mem_cons, forall_mem_cons]
    exact ⟨⟨Bool.not_eq_true _ ▸ unbroken, ih.1⟩, ih.2⟩

/-- A line without a break is cut off at its newline. -/
theorem splitLines_append {line : List Char} (unbroken : ∀ letter ∈ line, isBreak letter = false)
    (rest : List Char) : splitLines (line ++ '\n' :: rest) = line :: splitLines rest := by
  induction line with
  | nil => exact splitLines_newline rest
  | cons letter line ih =>
    have later := ih fun letter listed => unbroken letter (mem_cons_of_mem _ listed)
    rw [cons_append, splitLines_cons (unbroken letter mem_cons_self), later]

/-- The lines of a stream are the lines that were written to it. -/
theorem splitLines_flatMap {Line : Type} {encode : Line → List Char} {items : List Line}
    (unbroken : ∀ item ∈ items, ∀ letter ∈ encode item, isBreak letter = false) :
    splitLines (items.flatMap fun item => encode item ++ ['\n']) = items.map encode := by
  induction items with
  | nil => rfl
  | cons item items ih =>
    have later := ih fun item listed => unbroken item (mem_cons_of_mem _ listed)
    rw [flatMap_cons, append_assoc, singleton_append,
      splitLines_append (unbroken item mem_cons_self), later, map_cons]

/-- The text reader turns every kind of line end into a newline. -/
def universalNewlines : List Char → List Char
  | [] => []
  | '\r' :: '\n' :: rest => '\n' :: universalNewlines rest
  | letter :: rest => (if letter = '\r' then '\n' else letter) :: universalNewlines rest

theorem universalNewlines_of_not_mem {letters : List Char} (absent : '\r' ∉ letters) :
    universalNewlines letters = letters := by
  induction letters with
  | nil => rfl
  | cons letter letters ih =>
    have later := ih fun listed => absent (mem_cons_of_mem _ listed)
    have other : letter ≠ '\r' := fun same => absent (same ▸ mem_cons_self)
    rw [universalNewlines, if_neg other, later]
    intro _ same
    exact absurd same other

/-- The lines are joined with newlines, and the last line ends with one too. -/
def joinLines (lines : List (List Char)) : List Char :=
  List.intercalate ['\n'] lines ++ if lines.isEmpty then [] else ['\n']

theorem joinLines_eq (lines : List (List Char)) : joinLines lines = lines.flatMap (· ++ ['\n']) := by
  induction lines with
  | nil => rfl
  | cons line lines ih =>
    cases lines with
    | nil => simp [joinLines, List.intercalate]
    | cons next lines =>
      have later : joinLines (line :: next :: lines) = line ++ ['\n'] ++ joinLines (next :: lines) := by
        simp [joinLines, List.intercalate, List.intersperse]
      simp only [later, ih, flatMap_cons]

/-- The encoded size of a text. -/
def byteCount (letters : List Char) : Nat :=
  letters.foldr (fun letter count => letter.utf8Size + count) 0

@[simp] theorem byteCount_nil : byteCount [] = 0 := rfl

@[simp] theorem byteCount_append (first second : List Char) :
    byteCount (first ++ second) = byteCount first + byteCount second := by
  induction first with
  | nil => simp
  | cons letter rest ih =>
    simp only [byteCount, cons_append, foldr_cons] at ih ⊢
    omega

end Text

namespace Json
open Text List

/-- A text without a break beyond the control letters is written in one line. -/
def OneLine (text : String) : Prop :=
  ∀ letter ∈ text.toList, 32 ≤ letter.toNat → isBreak letter = false

mutual
/-- Every key and every text of the value is written in one line. -/
def SingleLine : Json → Prop
  | .real text => OneLine text ∧ ∀ letter ∈ text.toList, 32 ≤ letter.toNat
  | .str text => OneLine text
  | .arr items => SingleLineItems items
  | .obj fields => SingleLineFields fields
  | _ => True

def SingleLineItems : List Json → Prop
  | [] => True
  | value :: rest => SingleLine value ∧ SingleLineItems rest

def SingleLineFields : List (String × Json) → Prop
  | [] => True
  | (key, value) :: rest => OneLine key ∧ SingleLine value ∧ SingleLineFields rest
end

theorem oneLine_ofList {letters : List Char}
    (printable : ∀ letter ∈ letters, 32 ≤ letter.toNat ∧ letter.toNat ≤ 126) :
    OneLine (String.ofList letters) := by
  intro letter listed _
  rw [String.toList_ofList] at listed
  have range := printable letter listed
  simp only [isBreak]
  grind

/-- A text of printable basic letters needs one line. -/
theorem oneLine_printable {letters : List Char}
    (printable : letters.all (fun letter => 32 ≤ letter.toNat && letter.toNat ≤ 126) = true) :
    OneLine (String.ofList letters) := by
  apply oneLine_ofList
  simpa using printable

theorem escape_unbroken {letter : Char} (unbroken : 32 ≤ letter.toNat → isBreak letter = false) :
    ∀ written ∈ escape letter, isBreak written = false := by
  have plain : ∀ value < 16, isBreak (hexDigit value) = false := by decide
  intro written listed
  unfold escape at listed
  split_ifs at listed with quote slash newline carriage tab back form control
  · simp only [mem_cons, not_mem_nil, or_false] at listed
    rcases listed with rfl | rfl <;> rfl
  · simp only [mem_cons, not_mem_nil, or_false] at listed
    rcases listed with rfl | rfl <;> rfl
  · simp only [mem_cons, not_mem_nil, or_false] at listed
    rcases listed with rfl | rfl <;> rfl
  · simp only [mem_cons, not_mem_nil, or_false] at listed
    rcases listed with rfl | rfl <;> rfl
  · simp only [mem_cons, not_mem_nil, or_false] at listed
    rcases listed with rfl | rfl <;> rfl
  · simp only [mem_cons, not_mem_nil, or_false] at listed
    rcases listed with rfl | rfl <;> rfl
  · simp only [mem_cons, not_mem_nil, or_false] at listed
    rcases listed with rfl | rfl <;> rfl
  · simp only [mem_cons, not_mem_nil, or_false] at listed
    rcases listed with rfl | rfl | rfl | rfl | rfl | rfl
    · rfl
    · rfl
    · rfl
    · rfl
    · exact plain _ (by omega)
    · exact plain _ (by omega)
  · rw [mem_singleton] at listed
    rw [listed]
    exact unbroken (by omega)

theorem dumpsText_unbroken {text : String} (single : OneLine text) :
    ∀ letter ∈ dumpsText text, isBreak letter = false := by
  intro letter listed
  simp only [dumpsText, mem_cons, mem_append, mem_flatMap, not_mem_nil,
    or_false] at listed
  rcases listed with rfl | ⟨source, present, written⟩ | rfl
  · rfl
  · exact escape_unbroken (single source present) letter written
  · rfl

theorem dumps_int_unbroken (value : Int) : ∀ letter ∈ dumpsChars (.int value), isBreak letter = false := by
  have digits (magnitude : Nat) : ∀ letter ∈ Nat.toDigits 10 magnitude, isBreak letter = false := by
    intro letter listed
    have digit := isDigit_toDigits listed
    by_contra broken
    simp only [isBreak, Text.isDigit, Bool.not_eq_false, Bool.or_eq_true, Bool.and_eq_true,
      decide_eq_true_eq, beq_iff_eq, Char.le_def, UInt32.le_iff_toNat_le] at broken digit
    change _ ∧ letter.toNat ≤ _ at digit
    have low : 48 ≤ letter.toNat := digit.1
    have high : letter.toNat ≤ 57 := digit.2
    omega
  rw [dumpsChars_int]
  split_ifs
  · exact digits _
  · intro letter listed
    rcases mem_cons.mp listed with rfl | listed
    · rfl
    · exact digits _ letter listed

mutual
theorem dumps_unbroken (value : Json) (single : value.SingleLine) :
    ∀ letter ∈ dumpsChars value, isBreak letter = false := by
  cases value with
  | null => exact Text.unbroken_of_all (by decide)
  | bool value => cases value <;> exact Text.unbroken_of_all (by decide)
  | int value => exact dumps_int_unbroken value
  | real text =>
    intro letter listed
    exact single.1 letter listed (single.2 letter listed)
  | str text => exact dumpsText_unbroken single
  | arr items =>
    intro letter listed
    simp only [dumpsChars, mem_cons, mem_append, not_mem_nil, or_false] at listed
    rcases listed with rfl | listed | rfl
    · rfl
    · exact dumpsItems_unbroken items single letter listed
    · rfl
  | obj fields =>
    intro letter listed
    simp only [dumpsChars, mem_cons, mem_append, not_mem_nil, or_false] at listed
    rcases listed with rfl | listed | rfl
    · rfl
    · exact dumpsFields_unbroken fields single letter listed
    · rfl

theorem dumpsItems_unbroken (items : List Json) (single : SingleLineItems items) :
    ∀ letter ∈ dumpsItems items, isBreak letter = false := by
  cases items with
  | nil => exact fun _ listed => absurd listed not_mem_nil
  | cons value rest =>
    have first := dumps_unbroken value single.1
    have later := dumpsItems_unbroken rest single.2
    cases rest with
    | nil => exact first
    | cons next rest =>
      intro letter listed
      rw [dumpsItems_cons, mem_append, mem_cons] at listed
      rcases listed with listed | rfl | listed
      · exact first letter listed
      · rfl
      · exact later letter listed

theorem dumpsFields_unbroken (fields : List (String × Json)) (single : SingleLineFields fields) :
    ∀ letter ∈ dumpsFields fields, isBreak letter = false := by
  cases fields with
  | nil => exact fun _ listed => absurd listed not_mem_nil
  | cons field rest =>
    obtain ⟨key, value⟩ := field
    have name := dumpsText_unbroken single.1
    have first := dumps_unbroken value single.2.1
    have later := dumpsFields_unbroken rest single.2.2
    intro letter listed
    cases rest with
    | nil =>
      rw [dumpsFields, mem_append, mem_cons] at listed
      rcases listed with listed | rfl | listed
      · exact name letter listed
      · rfl
      · exact first letter listed
    | cons next rest =>
      rw [dumpsFields_cons, mem_append, mem_cons, mem_append,
        mem_cons] at listed
      rcases listed with listed | rfl | listed | rfl | listed
      · exact name letter listed
      · rfl
      · exact first letter listed
      · rfl
      · exact later letter listed
end

/-- A line holds one value, and a newline ends it. -/
def encodeLine (value : Json) : List Char := dumpsChars value ++ ['\n']

/-- A value can be stored in a line and read again. -/
structure Storable (value : Json) : Prop where
  plain : value.Plain
  canonical : value.Canonical
  single : value.SingleLine

/-- The lines of a stream read back as the values that were written to it. -/
theorem splitLines_encodeLine {values : List Json} (single : ∀ value ∈ values, value.SingleLine) :
    splitLines (values.flatMap encodeLine) = values.map dumpsChars :=
  splitLines_flatMap fun value listed => dumps_unbroken value (single value listed)

/-- The text reader leaves a stream of lines as it was written. -/
theorem universalNewlines_encodeLine {values : List Json}
    (single : ∀ value ∈ values, value.SingleLine) :
    universalNewlines (values.flatMap encodeLine) = values.flatMap encodeLine := by
  apply universalNewlines_of_not_mem
  intro listed
  obtain ⟨value, stored, written⟩ := mem_flatMap.mp listed
  rcases mem_append.mp written with written | newline
  · have unbroken := dumps_unbroken value (single value stored) _ written
    cases unbroken
  · cases mem_singleton.mp newline

theorem joinLines_dumps (values : List Json) :
    joinLines (values.map dumpsChars) = values.flatMap encodeLine := by
  rw [joinLines_eq, flatMap_map]
  rfl

end Json
