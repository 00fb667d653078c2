import Mathlib.Data.List.Infix

/-
This file replaces the matches of a text and splits the text between its matches.
-/

namespace Rewriting
open List
variable {Letter : Type}

/-- The pieces of a text stand between its matches, which the scan finds by their lengths. -/
def pieces (found : List Letter → Nat) : Nat → List Letter → List (List Letter)
  | _, [] => [[]]
  | skipped + 1, _ :: rest => pieces found skipped rest
  | 0, letter :: rest =>
    match found (letter :: rest) with
    | 0 => (pieces found 0 rest).modifyHead (letter :: ·)
    | length + 1 => [] :: pieces found length rest

/-- Every match is replaced by the marker. -/
def sub (found : List Letter → Nat) (marker text : List Letter) : List Letter :=
  marker.intercalate (pieces found 0 text)

section
variable {found : List Letter → Nat} {core : List Letter}

theorem pieces_ne_nil (skipped : Nat) (text : List Letter) : pieces found skipped text ≠ [] := by
  induction text generalizing skipped with
  | nil => simp [pieces]
  | cons letter rest ih =>
    cases skipped with
    | zero =>
      rw [pieces]
      split
      · intro empty
        exact ih 0 (modifyHead_eq_nil_iff.mp empty)
      · exact cons_ne_nil _ _
    | succ skipped => exact ih skipped

theorem pieces_skip (skipped text : List Letter) :
    pieces found skipped.length (skipped ++ text) = pieces found 0 text := by
  induction skipped with
  | nil => rfl
  | cons letter skipped ih => exact ih

/-- The text starts with its first piece. -/
theorem head_pieces (text : List Letter) {piece : List Letter} {later : List (List Letter)}
    (split : pieces found 0 text = piece :: later) : piece <+: text := by
  induction text generalizing piece later with
  | nil =>
    rw [pieces] at split
    rw [← (List.cons.inj split).1]
  | cons letter rest ih =>
    rw [pieces] at split
    cases here : found (letter :: rest) with
    | zero =>
      rw [here] at split
      cases tail : pieces found 0 rest with
      | nil => exact absurd tail (pieces_ne_nil 0 rest)
      | cons first others =>
        rw [tail] at split
        rw [← (List.cons.inj split).1]
        exact prefix_cons_inj letter |>.mpr (ih tail)
    | succ length =>
      rw [here] at split
      rw [← (List.cons.inj split).1]
      exact nil_prefix

/-- A word that the scan finds is in no piece. -/
theorem pieces_free (occupied : core ≠ []) (finds : ∀ text, core <+: text → found text ≠ 0) {skipped : Nat}
    {text : List Letter} : ∀ piece ∈ pieces found skipped text, ¬ core <:+: piece := by
  induction text generalizing skipped with
  | nil =>
    intro piece listed inside
    rw [pieces, mem_singleton] at listed
    rw [listed] at inside
    exact occupied (infix_nil.mp inside)
  | cons letter rest ih =>
    cases skipped with
    | succ skipped => exact ih
    | zero =>
      rw [pieces]
      cases here : found (letter :: rest) with
      | succ length =>
        intro piece listed inside
        rcases mem_cons.mp listed with first | later
        · rw [first] at inside
          exact occupied (infix_nil.mp inside)
        · exact ih piece later inside
      | zero =>
        cases tail : pieces found 0 rest with
        | nil => exact absurd tail (pieces_ne_nil 0 rest)
        | cons first others =>
          intro piece listed inside
          rcases mem_cons.mp listed with head | later
          · rw [head] at inside
            rcases infix_cons_iff.mp inside with start | within
            · have whole : core <+: letter :: rest :=
                start.trans ((prefix_cons_inj letter).mpr (head_pieces rest tail))
              exact finds _ whole here
            · exact ih first (by rw [tail]; exact mem_cons_self) within
          · exact ih piece (by rw [tail]; exact mem_cons_of_mem _ later) inside

end

variable {word core : List Letter}

/-- A word whose overlaps with itself hold the core. -/
structure Marks (word core : List Letter) : Prop where
  occupied : core ≠ []
  inside : core <:+: word
  overlaps : ∀ shift ∈ List.range word.length, shift ≠ 0 → word.drop shift <+: word →
    core <:+: word.take shift

/-- A marker cannot start in a piece without its core. -/
theorem Marks.not_prefix (marks : Marks word core) {piece : List Letter} (some : piece ≠ [])
    (free : ¬ core <:+: piece) {text : List Letter}
    (next : text = [] ∨ word <+: text) : ¬ word <+: piece ++ text := by
  intro start
  have split : word.length ≤ piece.length ∨ piece.length < word.length := by omega
  rcases split with short | long
  · have within : word <+: piece :=
      prefix_of_prefix_length_le start (prefix_append piece text) short
    exact free (marks.inside.trans within.isInfix)
  · obtain ⟨rest, whole⟩ := start
    have taken : word.take piece.length = piece := by
      have cut := congrArg (List.take piece.length) whole
      rw [take_append_of_le_length (by omega), take_left] at cut
      exact cut
    have dropped : word.drop piece.length ++ rest = text := by
      have cut := congrArg (List.drop piece.length) whole
      rw [drop_append_of_le_length (by omega), drop_left] at cut
      exact cut
    rcases next with empty | follows
    · rw [empty] at dropped
      have none := (append_eq_nil_iff.mp dropped).1
      rw [drop_eq_nil_iff] at none
      omega
    · have overlap : word.drop piece.length <+: word := by
        apply prefix_of_prefix_length_le _ follows
        · rw [length_drop]
          omega
        · rw [← dropped]
          exact prefix_append _ _
      have held := marks.overlaps piece.length (mem_range.mpr long)
        (fun none => some (length_eq_zero_iff.mp none)) overlap
      rw [taken] at held
      exact free held

variable [DecidableEq Letter]

/-- A word is found where the text starts with it. -/
def wordLength (word text : List Letter) : Nat := if word <+: text then word.length else 0

def replace (word marker text : List Letter) : List Letter := sub (wordLength word) marker text

/-- The scan for a marker passes over a piece without its core. -/
theorem Marks.pieces_append (marks : Marks word core) {piece : List Letter}
    (free : ¬ core <:+: piece) {text : List Letter} (next : text = [] ∨ word <+: text) :
    pieces (wordLength word) 0 (piece ++ text) =
      (pieces (wordLength word) 0 text).modifyHead (piece ++ ·) := by
  induction piece with
  | nil =>
    rw [nil_append]
    cases pieces (wordLength word) 0 text <;> rfl
  | cons letter piece ih =>
    have absent : wordLength word (letter :: piece ++ text) = 0 := by
      unfold wordLength
      rw [if_neg (marks.not_prefix (cons_ne_nil _ _) free next)]
    have later := ih fun inside => free (inside.trans (suffix_cons letter piece).isInfix)
    rw [cons_append] at absent ⊢
    rw [pieces, absent]
    dsimp only
    rw [later]
    cases pieces (wordLength word) 0 text <;> rfl

theorem Marks.pieces_marker (marks : Marks word core) (text : List Letter) :
    pieces (wordLength word) 0 (word ++ text) = [] :: pieces (wordLength word) 0 text := by
  cases shape : word with
  | nil =>
    have inside := marks.inside
    rw [shape] at inside
    exact absurd (infix_nil.mp inside) marks.occupied
  | cons letter rest =>
    have found : wordLength (letter :: rest) (letter :: (rest ++ text)) = rest.length + 1 := by
      have start : letter :: rest <+: letter :: (rest ++ text) :=
        prefix_append (letter :: rest) text
      unfold wordLength
      rw [if_pos start]
      rfl
    rw [cons_append, pieces, found]
    dsimp only
    rw [pieces_skip]

/-- The pieces between inserted markers are found again. -/
theorem Marks.pieces_intercalate (marks : Marks word core) {parts : List (List Letter)}
    (some : parts ≠ []) (free : ∀ piece ∈ parts, ¬ core <:+: piece) :
    pieces (wordLength word) 0 (word.intercalate parts) = parts := by
  induction parts with
  | nil => exact absurd rfl some
  | cons piece parts ih =>
    have own := free piece mem_cons_self
    cases parts with
    | nil =>
      have alone : pieces (wordLength word) 0 (piece ++ []) = _ :=
        marks.pieces_append own (Or.inl rfl)
      rw [append_nil] at alone
      rw [intercalate_singleton, alone]
      simp [pieces]
    | cons next parts =>
      have later := ih (cons_ne_nil _ _) fun other listed =>
        free other (mem_cons_of_mem _ listed)
      rw [intercalate_cons_cons, append_assoc, marks.pieces_append own
        (Or.inr (prefix_append _ _)), marks.pieces_marker, later]
      simp

/-- An inserted marker is replaced by another one. -/
theorem Marks.replace_sub (marks : Marks word core) {found : List Letter → Nat}
    (finds : ∀ text, core <+: text → found text ≠ 0) (marker text : List Letter) :
    replace word marker (sub found word text) = sub found marker text := by
  unfold replace sub
  rw [marks.pieces_intercalate (pieces_ne_nil 0 text) (pieces_free marks.occupied finds)]

/-- A text without the word stays as it is. -/
theorem replace_absent {word text : List Letter} (absent : ¬ word <:+: text)
    (marker : List Letter) : replace word marker text = text := by
  have whole : pieces (wordLength word) 0 text = [text] := by
    induction text with
    | nil => rfl
    | cons letter rest ih =>
      have missed : wordLength word (letter :: rest) = 0 :=
        if_neg fun start => absent start.isInfix
      have later := ih fun inside => absent (inside.trans (suffix_cons letter rest).isInfix)
      rw [pieces, missed, later]
      rfl
  rw [replace, sub, whole, intercalate_singleton]

omit [DecidableEq Letter] in
/-- The empty marker leaves the pieces only. -/
theorem sub_nil (found : List Letter → Nat) (text : List Letter) :
    sub found [] text = (pieces found 0 text).flatten := by
  unfold sub
  induction pieces found 0 text with
  | nil => rfl
  | cons piece parts ih =>
    cases parts with
    | nil => simp
    | cons next parts =>
      rw [intercalate_cons_cons, ih, append_nil]
      rfl

section
variable {Letter : Type} {found : List Letter → Nat}

/-- A letter that starts no match stays. -/
theorem sub_keep {letter : Letter} {rest : List Letter} (missed : found (letter :: rest) = 0) :
    sub found [] (letter :: rest) = letter :: sub found [] rest := by
  rw [sub_nil, sub_nil, pieces, missed]
  cases split : pieces found 0 rest with
  | nil => exact absurd split (pieces_ne_nil 0 rest)
  | cons piece parts => rfl

/-- A match is erased. -/
theorem sub_drop {letter : Letter} {skipped rest : List Letter}
    (matched : found (letter :: (skipped ++ rest)) = skipped.length + 1) :
    sub found [] (letter :: (skipped ++ rest)) = sub found [] rest := by
  rw [sub_nil, sub_nil, pieces, matched]
  show ([] ++ (pieces found skipped.length (skipped ++ rest)).flatten) = _
  rw [nil_append, pieces_skip]

theorem length_pieces_le (skipped : Nat) (text : List Letter) :
    (pieces found skipped text).flatten.length ≤ text.length := by
  induction text generalizing skipped with
  | nil => exact Nat.le_refl _
  | cons letter rest ih =>
    cases skipped with
    | succ skipped => exact (ih skipped).trans (Nat.le_succ _)
    | zero =>
      rw [pieces]
      split
      · cases split : pieces found 0 rest with
        | nil => exact absurd split (pieces_ne_nil 0 rest)
        | cons piece parts =>
          have later := ih 0
          rw [split] at later
          exact Nat.succ_le_succ later
      · exact (ih _).trans (Nat.le_succ _)

/-- A text that erasing keeps has no match. -/
theorem sub_self {text : List Letter} (kept : sub found [] text = text) {before rest : List Letter}
    {letter : Letter} (split : text = before ++ letter :: rest) : found (letter :: rest) = 0 := by
  have first {head : Letter} {tail : List Letter}
      (same : sub found [] (head :: tail) = head :: tail) : found (head :: tail) = 0 := by
    by_contra matched
    obtain ⟨length, known⟩ := Nat.exists_eq_succ_of_ne_zero matched
    rw [sub_nil, pieces, known] at same
    have bound : (pieces found length tail).flatten.length ≤ tail.length :=
      length_pieces_le length tail
    have lengths := congrArg List.length same
    simp only [flatten_cons, nil_append, length_cons] at lengths
    omega
  induction before generalizing text with
  | nil =>
    rw [split, nil_append] at kept
    exact first kept
  | cons head before ih =>
    rw [split, cons_append] at kept
    rw [sub_keep (first kept)] at kept
    exact ih (List.cons.inj kept).2 rfl

end

end Rewriting
