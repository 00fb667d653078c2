import KSlide.Json.Tokens

/-
This file relates the letters in the texts of a value to the letters of its spellings.
-/

namespace Json
open List

mutual
/-- The letter stands in a text or in a key of the value. -/
def mentions (letter : Char) : Json → Bool
  | .str text => text.toList.elem letter
  | .arr items => mentionsItems letter items
  | .obj fields => mentionsFields letter fields
  | _ => false

def mentionsItems (letter : Char) : List Json → Bool
  | [] => false
  | value :: rest => mentions letter value || mentionsItems letter rest

def mentionsFields (letter : Char) : List (String × Json) → Bool
  | [] => false
  | (key, value) :: rest =>
    key.toList.elem letter || mentions letter value || mentionsFields letter rest
end

section
variable (letter : Char)

/-- A text with the letter weighs one. -/
def holds (text : List Char) : Nat := if letter ∈ text then 1 else 0

mutual
theorem mentions_weigh : (value : Json) → (value.mentions letter = true ↔ weigh (holds letter) value ≠ 0)
  | .null | .bool _ | .int _ | .real _ => by simp [mentions, weigh]
  | .str text => by simp [mentions, weigh, holds]
  | .arr items => mentionsItems_weigh items
  | .obj fields => mentionsFields_weigh fields

theorem mentionsItems_weigh : (items : List Json) →
    (mentionsItems letter items = true ↔ weighItems (holds letter) items ≠ 0)
  | [] => by simp [mentionsItems, weighItems]
  | value :: rest => by
    rw [mentionsItems, Bool.or_eq_true, mentions_weigh value, mentionsItems_weigh rest, weighItems]
    omega

theorem mentionsFields_weigh : (fields : List (String × Json)) →
    (mentionsFields letter fields = true ↔ weighFields (holds letter) fields ≠ 0)
  | [] => by simp [mentionsFields, weighFields]
  | (key, value) :: rest => by
    have named : key.toList.elem letter = true ↔ holds letter key.toList ≠ 0 := by simp [holds]
    rw [mentionsFields, Bool.or_eq_true, Bool.or_eq_true, named, mentions_weigh value,
      mentionsFields_weigh rest, weighFields]
    omega
end

variable {letter : Char} {strict : Prop} {value : Json} {letters : List Char}

theorem sum_holds {texts : List (List Char)} :
    (texts.map (holds letter)).sum ≠ 0 ↔ ∃ text ∈ texts, letter ∈ text := by
  induction texts with
  | nil => simp
  | cons text texts ih =>
    have first : holds letter text ≠ 0 ↔ letter ∈ text := by simp [holds]
    rw [map_cons, sum_cons, exists_mem_cons_iff, ← ih, ← first]
    omega

theorem unescape_basic {mark : Char} (known : unescape mark = some letter) :
    mark.toNat < 128 := by
  unfold unescape at known
  split at known <;> first | decide | cases known

theorem wide_of_mem {first : Char} {rest : List Char} (listed : letter ∈ first :: rest)
    (wide : 128 ≤ letter.toNat) (basic : first.toNat < 128) : letter ∈ rest := by
  rcases mem_cons.mp listed with here | later
  · rw [here] at wide
    omega
  · exact later

theorem wide_text {text letters rest : List Char} (spells : SpellsText text letters rest)
    (wide : 128 ≤ letter.toNat) (listed : letter ∈ letters) : letter ∈ text ∨ letter ∈ rest := by
  induction spells with
  | done => exact Or.inr (wide_of_mem listed wide (by decide))
  | plain printed unescaped unquoted later ih =>
    rcases mem_cons.mp listed with here | behind
    · exact Or.inl (here ▸ mem_cons_self)
    · exact (ih behind).imp_left (mem_cons_of_mem _)
  | short known later ih =>
    have mark := wide_of_mem listed wide (by decide)
    exact (ih (wide_of_mem mark wide (unescape_basic known))).imp_left (mem_cons_of_mem _)
  | coded known later ih =>
    obtain ⟨taken, split, coded, -⟩ := readEscaped_split known
    have mark := wide_of_mem (wide_of_mem listed wide (by decide)) wide (by decide)
    rw [split] at mark
    rcases mem_append.mp mark with here | behind
    · have basic := (isCode_bounds (coded.codes letter here)).2
      omega
    · exact (ih behind).imp_left (mem_cons_of_mem _)

/-- A strict document keeps its letters outside of the basic ones in the texts. -/
theorem wide_document (spells : SpellsDocument True value letters) (wide : 128 ≤ letter.toNat)
    (listed : letter ∈ letters) : value.mentions letter = true := by
  obtain ⟨texts, tokens, weighs⟩ := tokens_document spells
  have kept : letter ∈ letters → ∃ text ∈ texts, letter ∈ text := by
    apply tokens.walk (motive := fun letters texts =>
      letter ∈ letters → ∃ text ∈ texts, letter ∈ text)
    · intro none
      cases none
    · intro other letters texts plain ih listed
      exact ih (wide_of_mem listed wide (isPlain_basic plain))
    · intro text letters rest texts body ih listed
      rcases wide_text body wide (wide_of_mem listed wide (by decide)) with here | behind
      · exact ⟨text, mem_cons_self, here⟩
      · obtain ⟨other, later, held⟩ := ih behind
        exact ⟨other, mem_cons_of_mem _ later, held⟩
  rw [mentions_weigh, ← weighs.exact trivial, sum_holds]
  exact kept listed

/-- Without a backslash a text has letters of its spelling only. -/
theorem copies_text {text letters rest : List Char} (spells : SpellsText text letters rest)
    (free : '\\' ∉ letters) (inside : letter ∈ text) : letter ∈ letters := by
  induction spells with
  | done => cases inside
  | plain printed unescaped unquoted later ih =>
    rcases mem_cons.mp inside with here | behind
    · exact here ▸ mem_cons_self
    · exact mem_cons_of_mem _
        (ih (fun listed => free (mem_cons_of_mem _ listed)) behind)
  | short known later ih => exact absurd mem_cons_self free
  | coded known later ih => exact absurd mem_cons_self free

theorem copies_document (spells : SpellsDocument strict value letters) (free : '\\' ∉ letters)
    (held : value.mentions letter = true) : letter ∈ letters := by
  obtain ⟨texts, tokens, weighs⟩ := tokens_document spells
  have least := weighs.atLeast (holds letter)
  have inside : ∃ text ∈ texts, letter ∈ text := by
    rw [mentions_weigh] at held
    rw [← sum_holds]
    omega
  have copied : '\\' ∉ letters → (∃ text ∈ texts, letter ∈ text) → letter ∈ letters := by
    apply tokens.walk (motive := fun letters texts =>
      '\\' ∉ letters → (∃ text ∈ texts, letter ∈ text) → letter ∈ letters)
    · rintro - ⟨text, none, -⟩
      cases none
    · intro other letters texts plain ih free inside
      exact mem_cons_of_mem _ (ih (fun listed => free (mem_cons_of_mem _ listed)) inside)
    · intro text letters rest texts body ih free inside
      rw [mem_cons, not_or] at free
      rcases (exists_mem_cons_iff _ _ _).mp inside with here | later
      · exact mem_cons_of_mem _ (copies_text body free.2 here)
      · obtain ⟨raw, split, -⟩ := spellsText_split body
        have behind {other : Char} (listed : other ∈ rest) : other ∈ letters := by
          simp [split, listed]
        exact mem_cons_of_mem _ (behind (ih (fun listed => free.2 (behind listed)) later))
  exact copied free inside

end
end Json
