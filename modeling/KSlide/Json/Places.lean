import KSlide.Json.Tokens

/-
This file follows the places of the letters in a document: outside of the texts, inside a text
and behind a backslash.
-/

namespace Json
open List

inductive Place where
  | outside | inside | escaped
deriving DecidableEq, Repr

namespace Place

def step : Place → Char → Option Place
  | .outside, letter =>
    if letter = '"' then some .inside else if isPlain letter then some .outside else none
  | .inside, letter =>
    if letter = '"' then some .outside else if letter = '\\' then some .escaped
    else if 32 ≤ letter.toNat then some .inside else none
  | .escaped, letter => if letter = 'u' ∨ (unescape letter).isSome then some .inside else none

def scan : Place → List Char → Option Place
  | place, [] => some place
  | place, letter :: rest => (place.step letter).bind fun next => scan next rest

theorem scan_append (place : Place) (first second : List Char) :
    place.scan (first ++ second) = (place.scan first).bind fun next => next.scan second := by
  induction first generalizing place with
  | nil => rfl
  | cons letter first ih =>
    rw [cons_append, scan, scan]
    cases place.step letter with
    | none => rfl
    | some next => exact ih next

variable {letter : Char}

theorem step_plain (plain : isPlain letter = true) : outside.step letter = some outside := by
  have unquoted : letter ≠ '"' := by
    rintro rfl
    cases plain
  rw [step, if_neg unquoted, if_pos plain]

theorem scan_plain {raw : List Char} (plain : ∀ letter ∈ raw, isPlain letter = true)
    (rest : List Char) : outside.scan (raw ++ rest) = outside.scan rest := by
  induction raw with
  | nil => rfl
  | cons letter raw ih =>
    rw [cons_append, scan, step_plain (plain letter mem_cons_self)]
    exact ih fun other listed => plain other (mem_cons_of_mem _ listed)

theorem scan_inside (unquoted : letter ≠ '"') (unescaped : letter ≠ '\\')
    (printed : 32 ≤ letter.toNat) (rest : List Char) :
    inside.scan (letter :: rest) = inside.scan rest := by
  rw [scan, step, if_neg unquoted, if_neg unescaped, if_pos printed]
  rfl

theorem scan_hex {raw : List Char} (hex : ∀ mark ∈ raw, (hexValue mark).isSome)
    (rest : List Char) : inside.scan (raw ++ rest) = inside.scan rest := by
  induction raw with
  | nil => rfl
  | cons mark raw ih =>
    obtain ⟨value, known⟩ := Option.isSome_iff_exists.mp (hex mark mem_cons_self)
    rw [cons_append, scan_inside _ _ (Nat.le_of_succ_le (hexValue_bounds known).1)]
    · exact ih fun other listed => hex other (mem_cons_of_mem _ listed)
    · rintro rfl
      cases known
    · rintro rfl
      cases known

theorem scan_coded {taken : List Char} (coded : Coded taken) (rest : List Char) :
    inside.scan (taken ++ rest) = inside.scan rest := by
  obtain ⟨first, hex, rfl | ⟨second, later, rfl⟩⟩ := coded
  · exact scan_hex hex rest
  · rw [append_assoc, scan_hex hex]
    exact scan_hex later rest

end Place

section
open Place

theorem scan_text {text letters rest : List Char} (spells : SpellsText text letters rest) :
    inside.scan letters = outside.scan rest := by
  induction spells with
  | done => rfl
  | plain printed unescaped unquoted later ih => rw [scan_inside unquoted unescaped printed, ih]
  | @short mark letter text letters rest known later ih =>
    have marked : escaped.step mark = some inside := by
      rw [step, if_pos (Or.inr (by rw [known]; rfl))]
    rw [← ih]
    show (escaped.step mark).bind _ = _
    rw [marked]
    rfl
  | @coded letter text digits letters rest known later ih =>
    obtain ⟨taken, rfl, coded, -⟩ := readEscaped_split known
    exact (scan_coded coded letters).trans ih

/-- A document begins and ends outside of the texts. -/
theorem scan_document {strict : Prop} {value : Json} {letters : List Char}
    (spells : SpellsDocument strict value letters) : outside.scan letters = some outside := by
  obtain ⟨texts, tokens, -⟩ := tokens_document spells
  apply tokens.walk (motive := fun letters _ => outside.scan letters = some outside)
  · rfl
  · intro letter letters texts plain ih
    rw [scan, step_plain plain]
    exact ih
  · intro text letters rest texts body ih
    show inside.scan letters = _
    rw [scan_text body, ih]

end
end Json
