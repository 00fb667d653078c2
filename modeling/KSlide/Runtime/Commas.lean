import KSlide.Runtime.Config

/-
This file follows the pass that erases the trailing commas of a configuration.
-/

open Json

namespace KSlide
open List
namespace Runtime
open Rewriting

theorem isSpace_closer {mark : Char} (closes : isCloser mark = true) :
    Text.isSpace mark = false := by
  simp only [isCloser, Bool.or_eq_true, decide_eq_true_eq] at closes
  rcases closes with rfl | rfl <;> rfl

theorem closesNext_space {letter : Char} (space : Text.isSpace letter = true) (rest : List Char) :
    closesNext (letter :: rest) = closesNext rest := by
  rw [closesNext, dropWhile_cons_of_pos space, closesNext]

theorem closesNext_other {letter : Char} (filled : Text.isSpace letter = false)
    (rest : List Char) : closesNext (letter :: rest) = isCloser letter := by
  rw [closesNext, dropWhile_cons_of_neg (by simp [filled])]

theorem closesNext_spaces {spaces : List Char}
    (white : ∀ letter ∈ spaces, Text.isSpace letter = true) (rest : List Char) :
    closesNext (spaces ++ rest) = closesNext rest := by
  induction spaces with
  | nil => rfl
  | cons letter spaces ih =>
    rw [cons_append, closesNext_space (white letter mem_cons_self)]
    exact ih fun other listed => white other (mem_cons_of_mem _ listed)

theorem trailingLength_other {letter : Char} (other : letter ≠ ',') (rest : List Char) :
    trailingLength (letter :: rest) = 0 := by
  unfold trailingLength
  split
  · rename_i same
    exact absurd (List.cons.inj same).1 other
  · rfl

theorem trailingLength_missed {rest : List Char} (missed : closesNext rest = false) :
    trailingLength (',' :: rest) = 0 := by
  rw [trailingLength, missed]
  rfl

/-- The match is the comma with the white space in front of the bracket. -/
theorem trailingLength_closes {spaces rest : List Char} {mark : Char}
    (white : ∀ letter ∈ spaces, Text.isSpace letter = true) (closes : isCloser mark = true) :
    trailingLength (',' :: (spaces ++ mark :: rest)) = spaces.length + 1 := by
  have filled := isSpace_closer closes
  have next : closesNext (spaces ++ mark :: rest) = true := by
    rw [closesNext_spaces white, closesNext_other filled, closes]
  have taken : (spaces ++ mark :: rest).takeWhile Text.isSpace = spaces := by
    rw [takeWhile_append_of_pos white, takeWhile_cons_of_neg (by simp [filled]),
      append_nil]
  rw [trailingLength, next, taken]
  rfl

/-- A match is a comma, white space and a bracket. -/
structure Trailing (letter : Char) (rest spaces : List Char) (mark : Char) (tail : List Char) :
    Prop where
  comma : letter = ','
  split : rest = spaces ++ mark :: tail
  white : ∀ letter ∈ spaces, Text.isSpace letter = true
  closes : isCloser mark = true

theorem trailing_cases (letter : Char) (rest : List Char) :
    trailingLength (letter :: rest) = 0 ∨
      ∃ spaces mark tail, Trailing letter rest spaces mark tail := by
  by_cases comma : letter = ','
  · rw [comma]
    cases next : closesNext rest with
    | false => exact Or.inl (trailingLength_missed next)
    | true =>
      have split := takeWhile_append_dropWhile (p := Text.isSpace) (l := rest)
      rw [closesNext] at next
      cases behind : rest.dropWhile Text.isSpace with
      | nil =>
        rw [behind] at next
        cases next
      | cons mark tail =>
        rw [behind] at next split
        exact Or.inr ⟨_, mark, tail, rfl, split.symm,
          fun other listed => mem_takeWhile_imp listed, next⟩
  · exact Or.inl (trailingLength_other comma rest)

theorem Trailing.sub {letter mark : Char} {rest spaces tail : List Char}
    (trailing : Trailing letter rest spaces mark tail) :
    sub trailingLength [] (letter :: rest) = sub trailingLength [] (mark :: tail) := by
  rw [trailing.comma, trailing.split]
  exact sub_drop (trailingLength_closes trailing.white trailing.closes)

theorem sub_closer {mark : Char} (closes : isCloser mark = true) (rest : List Char) :
    sub trailingLength [] (mark :: rest) = mark :: sub trailingLength [] rest := by
  apply sub_keep
  apply trailingLength_other
  rintro rfl
  cases closes

theorem trailingLength_quote {letter : Char} {raw : List Char} (rest : List Char)
    (missed : trailingLength (letter :: raw) = 0) :
    trailingLength (letter :: (raw ++ '"' :: rest)) = 0 := by
  by_cases comma : letter = ','
  · rw [comma] at missed ⊢
    apply trailingLength_missed
    rw [trailingLength] at missed
    split_ifs at missed with next
    have split := takeWhile_append_dropWhile (p := Text.isSpace) (l := raw)
    have white : ∀ letter ∈ raw.takeWhile Text.isSpace, Text.isSpace letter = true :=
      fun letter listed => mem_takeWhile_imp listed
    rw [← split, append_assoc, closesNext_spaces white]
    rw [closesNext] at next
    cases behind : raw.dropWhile Text.isSpace with
    | nil => rfl
    | cons mark tail =>
      have filled : Text.isSpace mark = false := by
        have head := head_dropWhile_not (p := Text.isSpace) (l := raw) (by simp [behind])
        simpa [behind] using head
      rw [behind] at next
      rw [cons_append, closesNext_other filled]
      simpa using next
  · exact trailingLength_other comma _

/-- The pass works inside of a literal and goes on behind its quote. -/
theorem sub_quote (raw rest : List Char) : sub trailingLength [] (raw ++ '"' :: rest) =
    sub trailingLength [] raw ++ '"' :: sub trailingLength [] rest := by
  cases raw with
  | nil => exact sub_keep (trailingLength_other (by decide) rest)
  | cons letter raw =>
    rcases trailing_cases letter raw with missed | ⟨spaces, mark, tail, trailing⟩
    · rw [cons_append, sub_keep (trailingLength_quote rest missed), sub_keep missed,
        sub_quote raw rest]
      rfl
    · have longer : Trailing letter (raw ++ '"' :: rest) spaces mark (tail ++ '"' :: rest) :=
        { trailing with split := by rw [trailing.split, append_assoc]; rfl }
      have shorter : tail.length < raw.length := by
        rw [trailing.split]
        simp only [length_cons, length_append]
        omega
      rw [cons_append, longer.sub, trailing.sub, ← cons_append,
        sub_quote (mark :: tail) rest]
termination_by raw.length

section

def Piece.uncommented : Piece → List Char
  | .note _ => []
  | piece => piece.written

/-- The pass also works inside of the literals. -/
def Piece.trimmed : Piece → List Char
  | .literal body => quoted (sub trailingLength [] body.raw)
  | piece => piece.source

def uncommented (pieces : List Piece) : List Char := pieces.flatMap Piece.uncommented

def trimmed (pieces : List Piece) : List Char := pieces.flatMap Piece.trimmed

theorem isSpace_isGap {letter : Char} (gap : isGap letter = true) :
    Text.isSpace letter = true := by
  simp only [isGap, Bool.or_eq_true, decide_eq_true_eq] at gap
  rcases gap with ((rfl | rfl) | rfl) | rfl <;> rfl

variable {behind flag : Bool} {pieces : List Piece} {texts : List (List Char)}

/-- No bracket stands behind a comma of the serialization. -/
theorem closesNext_woven
    (woven : Woven behind pieces) (plain : behind = false) (open_ : flag = true)
    (tokens : Tokens flag (source pieces) texts) : closesNext (uncommented pieces) = false := by
  induction woven generalizing flag texts with
  | done => rfl
  | @letter mark rest unquoted later ih =>
    obtain ⟨next, behind, follows⟩ := tokens_letter unquoted tokens
    show closesNext (mark :: uncommented rest) = false
    rcases follows.kept open_ with ⟨gap, stays⟩ | ⟨filled, unclosed⟩
    · rw [closesNext_space (isSpace_isGap gap)]
      exact ih rfl stays behind
    · rw [closesNext_other filled, unclosed]
  | closer closes later ih => cases plain
  | literal body later ih => rfl
  | note line ended later ih => exact ih plain open_ tokens
  | trailing later ih => rfl
  | blank gap later ih => cases plain

/-- White space may stand in front of what the pass keeps. -/
structure Erased (behind : Bool) (pieces : List Piece) (spaces core : List Char) : Prop where
  split : uncommented pieces = spaces ++ core
  white : ∀ letter ∈ spaces, Text.isSpace letter = true
  closed : behind = true → ∃ mark tail, core = mark :: tail ∧ isCloser mark = true
  plain : behind = false → spaces = []
  kept : sub trailingLength [] core = trimmed pieces

theorem Erased.whole {behind : Bool} {pieces : List Piece} {spaces core : List Char}
    (erased : Erased behind pieces spaces core) (plain : behind = false) :
    uncommented pieces = core := by
  rw [erased.split, erased.plain plain, nil_append]

theorem erased_woven (woven : Woven behind pieces) (tokens : Tokens flag (source pieces) texts) :
    ∃ spaces core, Erased behind pieces spaces core := by
  have none {letter : Char} : letter ∈ ([] : List Char) → Text.isSpace letter = true :=
    fun listed => absurd listed not_mem_nil
  have never {claim : Prop} (open_ : false = true) : claim := absurd open_ Bool.false_ne_true
  induction woven generalizing flag texts with
  | done => exact ⟨[], [], rfl, fun _ => none, never, fun _ => rfl, rfl⟩
  | @letter mark rest unquoted later ih =>
    obtain ⟨next, behind, follows⟩ := tokens_letter unquoted tokens
    obtain ⟨spaces, core, erased⟩ := ih behind
    have whole := erased.whole rfl
    refine ⟨[], mark :: core, by rw [← whole]; rfl, fun _ => none, never,
      fun _ => rfl, ?_⟩
    have missed : trailingLength (mark :: core) = 0 := by
      by_cases comma : mark = ','
      · rw [comma]
        apply trailingLength_missed
        rw [← whole]
        exact closesNext_woven later rfl (follows.comma comma) behind
      · exact trailingLength_other comma core
    rw [sub_keep missed, erased.kept]
    rfl
  | @closer mark rest closes later ih =>
    have unquoted : mark ≠ '"' := by
      rintro rfl
      cases closes
    obtain ⟨next, behind, follows⟩ := tokens_letter unquoted tokens
    obtain ⟨spaces, core, erased⟩ := ih behind
    have whole := erased.whole rfl
    refine ⟨[], mark :: core, by rw [← whole]; rfl, fun _ => none,
      fun _ => ⟨mark, core, rfl, closes⟩, fun _ => rfl, ?_⟩
    rw [sub_closer closes, erased.kept]
    rfl
  | @literal rest body later ih =>
    obtain ⟨others, _, behind⟩ := tokens_literal body.spelled tokens
    obtain ⟨spaces, core, erased⟩ := ih behind
    have whole := erased.whole rfl
    refine ⟨[], quoted body.raw ++ core, by rw [← whole]; rfl, fun _ => none,
      never, fun _ => rfl, ?_⟩
    have shape (raw rest : List Char) : quoted raw ++ rest = '"' :: (raw ++ '"' :: rest) := by
      simp [quoted]
    rw [shape, sub_keep (trailingLength_other (by decide) _), sub_quote, erased.kept, ← shape]
    rfl
  | note line ended later ih =>
    obtain ⟨spaces, core, erased⟩ := ih tokens
    exact ⟨spaces, core, erased.split, erased.white, erased.closed, erased.plain, erased.kept⟩
  | @trailing rest later ih =>
    obtain ⟨spaces, core, erased⟩ := ih tokens
    obtain ⟨mark, tail, shape, closes⟩ := erased.closed rfl
    refine ⟨[], ',' :: (spaces ++ core), by rw [← erased.split]; rfl, fun _ => none,
      never, fun _ => rfl, ?_⟩
    rw [shape, sub_drop (trailingLength_closes erased.white closes), ← shape, erased.kept]
    rfl
  | @blank mark rest gap later ih =>
    obtain ⟨spaces, core, erased⟩ := ih tokens
    refine ⟨mark :: spaces, core, by rw [cons_append, ← erased.split]; rfl, ?_,
      erased.closed, fun open_ => never open_.symm, erased.kept⟩
    intro letter listed
    rcases mem_cons.mp listed with here | there
    · exact here ▸ isSpace_isGap gap
    · exact erased.white letter there

/-- The pass leaves the serialization with its literals trimmed. -/
theorem sub_uncommented {flag : Bool} {pieces : List Piece} {texts : List (List Char)}
    (woven : Woven false pieces) (tokens : Tokens flag (source pieces) texts) :
    sub trailingLength [] (uncommented pieces) = trimmed pieces := by
  obtain ⟨spaces, core, erased⟩ := erased_woven woven tokens
  rw [erased.whole rfl, erased.kept]

end
end Runtime
end KSlide
