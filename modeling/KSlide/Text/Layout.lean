import Mathlib.Data.List.Infix

/-
This file gives the lines of a text and the fields of a line of a table.
-/

namespace Text
open List

/-- A reader of the text ends a line at either of these letters. -/
def endsLine (letter : Char) : Bool := letter == '\n' || letter == '\r'

def lines (text : List Char) : List (List Char) := text.splitOnP endsLine

/-- A text without a break stands in one line. -/
def Unbroken (text : List Char) : Prop := ∀ letter ∈ text, endsLine letter = false

/-- These lines begin inside the text. -/
def laterLines (text : List Char) : List (List Char) := (lines text).tail

/-- These lines begin and end inside the text. -/
def innerLines (text : List Char) : List (List Char) := (lines text).tail.dropLast

theorem unbroken_iff_all {text : List Char} : Unbroken text ↔ text.all (!endsLine ·) = true := by
  simp [Unbroken]

instance (text : List Char) : Decidable (Unbroken text) := decidable_of_iff' _ unbroken_iff_all

section
variable {text part rest line : List Char}

theorem lines_ne_nil (text : List Char) : lines text ≠ [] := splitOnP_ne_nil endsLine text

theorem lines_cons (letter : Char) (text : List Char) : lines (letter :: text) =
    if endsLine letter then [] :: lines text else (lines text).modifyHead (letter :: ·) :=
  splitOnP_cons_eq_if_modifyHead letter text

theorem lines_of_unbroken (unbroken : Unbroken text) : lines text = [text] :=
  splitOnP_eq_singleton unbroken

theorem unbroken_append : Unbroken (text ++ rest) ↔ Unbroken text ∧ Unbroken rest :=
  forall_mem_append

theorem lines_newline (text rest : List Char) :
    lines (text ++ '\n' :: rest) = lines text ++ lines rest :=
  splitOnP_append_cons text rest rfl

/-- Joined texts keep their own lines. -/
theorem lines_intercalate {texts : List (List Char)} (occupied : texts ≠ []) :
    lines (['\n'].intercalate texts) = texts.flatMap lines := by
  induction texts with
  | nil => exact absurd rfl occupied
  | cons text texts ih =>
    cases texts with
    | nil => simp
    | cons next others =>
      have later := ih (cons_ne_nil next others)
      rw [intercalate_cons_cons, append_assoc, singleton_append, lines_newline,
        later]
      rfl

theorem unbroken_of_mem_lines (text : List Char) : ∀ line ∈ lines text, Unbroken line := by
  induction text with
  | nil =>
    intro line listed
    have empty : line = [] := by simpa [lines] using listed
    rw [empty]
    exact fun _ absent => absurd absent not_mem_nil
  | cons letter text ih =>
    obtain ⟨first, later, split⟩ := exists_cons_of_ne_nil (lines_ne_nil text)
    rw [split, forall_mem_cons] at ih
    rw [lines_cons, split]
    cases ends : endsLine letter with
    | true =>
      rw [if_pos rfl, forall_mem_cons, forall_mem_cons]
      exact ⟨fun _ absent => absurd absent not_mem_nil, ih⟩
    | false =>
      rw [if_neg (by simp), modifyHead_cons, forall_mem_cons]
      constructor
      · intro other listed
        rcases mem_cons.mp listed with same | listed
        · rw [same]
          exact ends
        · exact ih.1 other listed
      · exact ih.2

theorem lines_unbroken_append (unbroken : Unbroken part) :
    lines (part ++ rest) = (lines rest).modifyHead (part ++ ·) := by
  induction part with
  | nil =>
    obtain ⟨first, later, split⟩ := exists_cons_of_ne_nil (lines_ne_nil rest)
    rw [nil_append, split]
    rfl
  | cons letter part ih =>
    have tail := ih fun other listed => unbroken other (mem_cons_of_mem _ listed)
    have plain := unbroken letter mem_cons_self
    obtain ⟨first, later, split⟩ := exists_cons_of_ne_nil (lines_ne_nil rest)
    rw [cons_append, lines_cons, plain, tail, split]
    rfl

theorem laterLines_of_unbroken (unbroken : Unbroken text) : laterLines text = [] := by
  rw [laterLines, lines_of_unbroken unbroken]
  rfl

theorem innerLines_of_unbroken (unbroken : Unbroken text) : innerLines text = [] := by
  rw [innerLines, lines_of_unbroken unbroken]
  rfl

theorem lines_append (text rest : List Char) : lines (text ++ rest) = (lines text).dropLast ++
    (lines rest).modifyHead ((lines text).getLast (lines_ne_nil text) ++ ·) := by
  induction text with
  | nil =>
    obtain ⟨first, later, split⟩ := exists_cons_of_ne_nil (lines_ne_nil rest)
    rw [nil_append, split]
    rfl
  | cons letter text ih =>
    obtain ⟨first, later, split⟩ := exists_cons_of_ne_nil (lines_ne_nil text)
    obtain ⟨next, others, cut⟩ := exists_cons_of_ne_nil (lines_ne_nil rest)
    have joined := lines_cons letter (text ++ rest)
    have alone := lines_cons letter text
    simp only [split, cut] at ih alone ⊢
    cases ends : endsLine letter with
    | true =>
      rw [ends, if_pos rfl] at joined alone
      simp only [cons_append, joined, alone, ih, dropLast_cons_cons,
        getLast_cons_cons]
    | false =>
      rw [ends, if_neg (by simp)] at joined alone
      simp only [cons_append, joined, alone, ih, modifyHead_cons]
      cases later <;> rfl

/-- A line that lacks the part begins and ends before it or begins after it. -/
theorem mem_laterLines_append (unbroken : Unbroken part) (lacks : ¬ part <:+: line) :
    line ∈ laterLines (text ++ (part ++ rest)) ↔ line ∈ innerLines text ∨ line ∈ laterLines rest := by
  obtain ⟨first, later, split⟩ := exists_cons_of_ne_nil (lines_ne_nil text)
  obtain ⟨next, others, cut⟩ := exists_cons_of_ne_nil (lines_ne_nil rest)
  have whole := lines_append text (part ++ rest)
  rw [lines_unbroken_append unbroken] at whole
  simp only [split, cut, modifyHead_cons] at whole
  simp only [laterLines, innerLines, whole, split, cut]
  cases later with
  | nil => simp
  | cons second later =>
    have other : line ≠ (second :: later).getLast (cons_ne_nil _ _) ++ (part ++ next) := by
      intro same
      exact lacks ⟨_, next, by rw [same, append_assoc]⟩
    simp [other]

end

section

/-- A backslash keeps the letter after it from ending a field. -/
def splitFields : Bool → List Char → List (List Char)
  | _, [] => [[]]
  | true, letter :: rest => (splitFields false rest).modifyHead (letter :: ·)
  | false, letter :: rest =>
    if letter = '|' then [] :: splitFields false rest
    else (splitFields (letter == '\\') rest).modifyHead (letter :: ·)

/-- No letter of the text ends a field. -/
def unbarred : Bool → List Char → Bool
  | _, [] => true
  | true, _ :: rest => unbarred false rest
  | false, letter :: rest => letter != '|' && unbarred (letter == '\\') rest

/-- The text leaves the letter after it escaped. -/
def leavesEscape : Bool → List Char → Bool
  | escaped, [] => escaped
  | true, _ :: rest => leavesEscape false rest
  | false, letter :: rest => leavesEscape (letter == '\\') rest

/-- A row begins and ends with the letter between its fields. -/
def rowFields (line : List Char) : Option (List (List Char)) :=
  match splitFields false line with
  | [] :: rest => if rest.getLast? = some [] then some rest.dropLast else none
  | _ => none

/-- A field stands between two spaces. -/
def spaced (text : List Char) : List Char := ' ' :: (text ++ [' '])

def rowText (fields : List (List Char)) : List Char :=
  '|' :: fields.flatMap fun field => spaced field ++ ['|']

variable {escaped : Bool} {text rest line field : List Char} {fields : List (List Char)}

theorem splitFields_ne_nil (escaped : Bool) (text : List Char) : splitFields escaped text ≠ [] := by
  fun_induction splitFields escaped text with
  | case1 => exact cons_ne_nil _ _
  | case2 letter rest ih => simpa using ih
  | case3 rest ih => exact cons_ne_nil _ _
  | case4 letter rest other ih => simpa using ih

theorem unbarred_append : unbarred escaped (text ++ rest) =
    (unbarred escaped text && unbarred (leavesEscape escaped text) rest) := by
  fun_induction unbarred escaped text with
  | case1 => rfl
  | case2 letter text ih => exact ih
  | case3 letter text ih =>
    rw [cons_append, unbarred, ih, leavesEscape, Bool.and_assoc]

theorem leavesEscape_append :
    leavesEscape escaped (text ++ rest) = leavesEscape (leavesEscape escaped text) rest := by
  fun_induction leavesEscape escaped text with
  | case1 => rfl
  | case2 letter text ih => exact ih
  | case3 letter text ih => exact ih

theorem splitFields_append (plain : unbarred escaped text = true) :
    splitFields escaped (text ++ rest) =
      (splitFields (leavesEscape escaped text) rest).modifyHead (text ++ ·) := by
  fun_induction unbarred escaped text with
  | case1 escaped =>
    obtain ⟨first, later, split⟩ := exists_cons_of_ne_nil (splitFields_ne_nil escaped rest)
    rw [nil_append, leavesEscape, split]
    rfl
  | case2 letter text ih =>
    rw [cons_append, splitFields, ih plain, leavesEscape, modifyHead_modifyHead]
    rfl
  | case3 letter text ih =>
    rw [Bool.and_eq_true, bne_iff_ne] at plain
    rw [cons_append, splitFields, if_neg plain.1, ih plain.2, leavesEscape,
      modifyHead_modifyHead]
    rfl

/-- The first field goes on from the text before it, and the others begin anew. -/
theorem unbarred_splitFields (escaped : Bool) (text : List Char) :
    ∃ first later, splitFields escaped text = first :: later ∧ unbarred escaped first = true ∧
      ∀ field ∈ later, unbarred false field = true := by
  fun_induction splitFields escaped text with
  | case1 escaped => exact ⟨[], [], rfl, by cases escaped <;> rfl, by simp⟩
  | case2 letter rest ih =>
    obtain ⟨first, later, split, plain, others⟩ := ih
    exact ⟨letter :: first, later, by rw [split]; rfl, plain, others⟩
  | case3 rest ih =>
    obtain ⟨first, later, split, plain, others⟩ := ih
    exact ⟨[], first :: later, by rw [split], rfl, forall_mem_cons.mpr ⟨plain, others⟩⟩
  | case4 letter rest other ih =>
    obtain ⟨first, later, split, plain, others⟩ := ih
    refine ⟨letter :: first, later, by rw [split]; rfl, ?_, others⟩
    rw [unbarred, Bool.and_eq_true, bne_iff_ne]
    exact ⟨other, plain⟩

theorem mem_of_mem_splitFields {letter : Char} (listed : field ∈ splitFields escaped text)
    (present : letter ∈ field) : letter ∈ text := by
  fun_induction splitFields escaped text generalizing field with
  | case1 =>
    rw [mem_singleton.mp listed] at present
    exact absurd present not_mem_nil
  | case2 other rest ih =>
    obtain ⟨first, later, split⟩ := exists_cons_of_ne_nil (splitFields_ne_nil false rest)
    rw [split] at listed ih
    rcases mem_cons.mp listed with same | listed
    · rw [same] at present
      exact mem_cons.mpr ((mem_cons.mp present).imp_right (ih mem_cons_self))
    · exact mem_cons_of_mem _ (ih (mem_cons_of_mem _ listed) present)
  | case3 rest ih =>
    rcases mem_cons.mp listed with same | listed
    · rw [same] at present
      exact absurd present not_mem_nil
    · exact mem_cons_of_mem _ (ih listed present)
  | case4 other rest _ ih =>
    obtain ⟨first, later, split⟩ :=
      exists_cons_of_ne_nil (splitFields_ne_nil (other == '\\') rest)
    rw [split] at listed ih
    rcases mem_cons.mp listed with same | listed
    · rw [same] at present
      exact mem_cons.mpr ((mem_cons.mp present).imp_right (ih mem_cons_self))
    · exact mem_cons_of_mem _ (ih (mem_cons_of_mem _ listed) present)

theorem unbarred_spaced : unbarred false (spaced text) = unbarred false text := by
  show unbarred false (text ++ [' ']) = unbarred false text
  rw [unbarred_append]
  cases leavesEscape false text <;> simp [unbarred]

theorem leavesEscape_spaced : leavesEscape false (spaced text) = false := by
  show leavesEscape false (text ++ [' ']) = false
  rw [leavesEscape_append]
  cases leavesEscape false text <;> rfl

/-- The fields of a row are cut where the row was put together. -/
theorem splitFields_row (plain : ∀ field ∈ fields, unbarred false field = true) :
    splitFields false (fields.flatMap fun field => spaced field ++ ['|']) =
      fields.map spaced ++ [[]] := by
  induction fields with
  | nil => rfl
  | cons field fields ih =>
    have later := ih fun other listed => plain other (mem_cons_of_mem _ listed)
    have first : unbarred false (spaced field) = true :=
      unbarred_spaced.trans (plain field mem_cons_self)
    rw [flatMap_cons, append_assoc, splitFields_append first, leavesEscape_spaced,
      singleton_append, splitFields, if_pos rfl, later, modifyHead_cons,
      append_nil, map_cons, cons_append]

theorem rowFields_row (plain : ∀ field ∈ fields, unbarred false field = true) :
    rowFields (rowText fields) = some (fields.map spaced) := by
  have cut : splitFields false (rowText fields) = [] :: (fields.map spaced ++ [[]]) := by
    rw [rowText, splitFields, if_pos rfl, splitFields_row plain]
  rw [rowFields, cut]
  simp

theorem rowFields_spec (read : rowFields line = some fields) :
    ∀ field ∈ fields, unbarred false field = true ∧ ∀ letter ∈ field, letter ∈ line := by
  intro field listed
  obtain ⟨first, later, split, plain, others⟩ := unbarred_splitFields false line
  unfold rowFields at read
  rw [split] at read
  cases first with
  | cons letter first => cases read
  | nil =>
    dsimp only at read
    split at read
    · cases read
      have kept := mem_of_mem_dropLast listed
      exact ⟨others field kept, fun letter present =>
        mem_of_mem_splitFields (split ▸ mem_cons_of_mem _ kept) present⟩
    · cases read

theorem getLast_of_splitFields (ends : (splitFields escaped text).getLast? = some []) :
    text = [] ∨ text.getLast? = some '|' := by
  have grown {letter : Char} {rest : List Char} {state : Bool}
      (ih : (splitFields state rest).getLast? = some [] → rest = [] ∨ rest.getLast? = some '|')
      (ends : ((splitFields state rest).modifyHead (letter :: ·)).getLast? = some []) :
      (letter :: rest).getLast? = some '|' := by
    obtain ⟨first, later, split⟩ := exists_cons_of_ne_nil (splitFields_ne_nil state rest)
    rw [split] at ends ih
    cases later with
    | nil => cases ends
    | cons second later =>
      rw [modifyHead_cons, getLast?_cons_cons] at ends
      rw [getLast?_cons_cons] at ih
      rcases ih ends with empty | last
      · rw [empty] at split
        cases state <;> cases split
      · rw [getLast?_cons, last]
        rfl
  fun_induction splitFields escaped text with
  | case1 => exact .inl rfl
  | case2 letter rest ih => exact .inr (grown ih ends)
  | case3 rest ih =>
    obtain ⟨first, later, split⟩ := exists_cons_of_ne_nil (splitFields_ne_nil false rest)
    rw [split, getLast?_cons_cons, ← split] at ends
    right
    rcases ih ends with empty | last
    · rw [empty]
      rfl
    · rw [getLast?_cons, last]
      rfl
  | case4 letter rest _ ih => exact .inr (grown ih ends)

/-- A row ends with the letter between its fields. -/
theorem getLast_of_rowFields (read : rowFields line = some fields) : line.getLast? = some '|' := by
  unfold rowFields at read
  split at read
  · rename_i rest split
    split at read
    · rename_i last
      have ends : (splitFields false line).getLast? = some [] := by
        rw [split, getLast?_cons, last]
        rfl
      rcases getLast_of_splitFields ends with empty | found
      · rw [empty] at split
        cases split
        cases last
      · exact found
    · cases read
  · cases read

theorem unbroken_spaced : Unbroken (spaced text) ↔ Unbroken text := by
  unfold Unbroken spaced
  rw [forall_mem_cons, forall_mem_append, forall_mem_singleton]
  exact ⟨fun parts => parts.2.1, fun unbroken => ⟨rfl, unbroken, rfl⟩⟩

theorem unbroken_row : Unbroken (rowText fields) ↔ ∀ field ∈ fields, Unbroken field := by
  unfold rowText
  induction fields with
  | nil => simp [Unbroken, endsLine]
  | cons field fields ih =>
    have inner : Unbroken (spaced field) ↔ Unbroken field := unbroken_spaced
    rw [forall_mem_cons, ← ih, ← inner]
    simp only [Unbroken, flatMap_cons, forall_mem_cons, forall_mem_append,
      mem_singleton, forall_eq]
    tauto

end
end Text
