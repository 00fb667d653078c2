import KSlide.Json.Text

/-
This file gives the spellings of JSON values and proves that the reader accepts nothing else.
-/

namespace Json
open List

/-- These letters stand outside of the texts of a document. -/
def isPlain (letter : Char) : Bool :=
  isGap letter || Text.isAlnum letter ||
    ['[', ']', '\x7b', '\x7d', ':', ',', '+', '-', '.'].elem letter

/-- These letters stand in the numbers and in the words. -/
def isBare (letter : Char) : Bool := Text.isAlnum letter || ['+', '-', '.'].elem letter

theorem isPlain_bare {letter : Char} (bare : isBare letter = true) : isPlain letter = true := by
  simp only [isBare, Bool.or_eq_true, elem_eq_mem, decide_eq_true_eq] at bare
  rcases bare with named | sign
  · simp [isPlain, named]
  · have marks : letter ∈ ['[', ']', '\x7b', '\x7d', ':', ',', '+', '-', '.'] := by
      simp only [mem_cons] at sign ⊢
      tauto
    simp [isPlain, marks]

/-- The letters spell a text up to its closing quote and leave the rest. -/
inductive SpellsText : List Char → List Char → List Char → Prop
  | done {rest : List Char} : SpellsText [] ('"' :: rest) rest
  | plain {letter : Char} {text letters rest : List Char} (printed : 32 ≤ letter.toNat)
      (unescaped : letter ≠ '\\') (unquoted : letter ≠ '"') (later : SpellsText text letters rest) :
      SpellsText (letter :: text) (letter :: letters) rest
  | short {mark letter : Char} {text letters rest : List Char} (known : unescape mark = some letter)
      (later : SpellsText text letters rest) :
      SpellsText (letter :: text) ('\\' :: mark :: letters) rest
  | coded {letter : Char} {text digits letters rest : List Char}
      (known : readEscaped digits = some (letter, letters)) (later : SpellsText text letters rest) :
      SpellsText (letter :: text) ('\\' :: 'u' :: digits) rest

def isScalar : Json → Bool
  | .null | .bool _ | .int _ | .real _ => true
  | _ => false

mutual
/-- The letters spell a value and leave the rest. A strict spelling repeats no key. -/
inductive Spells (strict : Prop) : Json → List Char → List Char → Prop
  | scalar {value : Json} {raw rest : List Char} (kind : value.isScalar = true)
      (occupied : raw ≠ []) (bare : ∀ letter ∈ raw, isBare letter = true) :
      Spells strict value (raw ++ rest) rest
  | text {text letters rest : List Char} (inside : SpellsText text letters rest) :
      Spells strict (.str (String.ofList text)) ('"' :: letters) rest
  | noItems {letters rest : List Char} (closed : skipGaps letters = ']' :: rest) :
      Spells strict (.arr []) ('[' :: letters) rest
  | items {items : List Json} {letters rest : List Char}
      (inside : SpellsItems strict items (skipGaps letters) rest) :
      Spells strict (.arr items) ('[' :: letters) rest
  | noFields {letters rest : List Char} (closed : skipGaps letters = '\x7d' :: rest) :
      Spells strict (.obj []) ('\x7b' :: letters) rest
  | fields {fields : List (String × Json)} {letters rest : List Char}
      (inside : SpellsFields strict fields (skipGaps letters) rest)
      (distinct : strict → (fields.map Prod.fst).Nodup) :
      Spells strict (collect fields) ('\x7b' :: letters) rest

inductive SpellsItems (strict : Prop) : List Json → List Char → List Char → Prop
  | last {value : Json} {letters after rest : List Char} (first : Spells strict value letters after)
      (closed : skipGaps after = ']' :: rest) : SpellsItems strict [value] letters rest
  | more {value : Json} {items : List Json} {letters after next rest : List Char}
      (first : Spells strict value letters after) (continued : skipGaps after = ',' :: next)
      (later : SpellsItems strict items (skipGaps next) rest) :
      SpellsItems strict (value :: items) letters rest

inductive SpellsFields (strict : Prop) : List (String × Json) → List Char → List Char → Prop
  | last {value : Json} {key letters named next after rest : List Char}
      (name : SpellsText key letters named) (colon : skipGaps named = ':' :: next)
      (first : Spells strict value (skipGaps next) after)
      (closed : skipGaps after = '\x7d' :: rest) :
      SpellsFields strict [(String.ofList key, value)] ('"' :: letters) rest
  | more {value : Json} {fields : List (String × Json)}
      {key letters named next after other rest : List Char}
      (name : SpellsText key letters named) (colon : skipGaps named = ':' :: next)
      (first : Spells strict value (skipGaps next) after)
      (continued : skipGaps after = ',' :: other)
      (later : SpellsFields strict fields (skipGaps other) rest) :
      SpellsFields strict ((String.ofList key, value) :: fields) ('"' :: letters) rest
end

/-- A document is one value between gaps. -/
def SpellsDocument (strict : Prop) (value : Json) (letters : List Char) : Prop :=
  ∃ rest, Spells strict value (skipGaps letters) rest ∧ skipGaps rest = []

section

/-- The letters that a number reader takes stand in numbers. -/
structure Takes (letters taken rest : List Char) : Prop where
  split : letters = taken ++ rest
  bare : ∀ letter ∈ taken, isBare letter = true

variable {letter : Char} (letters : List Char)

theorem Takes.none : Takes letters [] letters := ⟨rfl, by simp⟩

theorem Takes.cons {letters taken rest : List Char}
    (first : isBare letter = true) (takes : Takes letters taken rest) :
    Takes (letter :: letters) (letter :: taken) rest := by
  constructor
  · rw [takes.split, cons_append]
  · intro other listed
    rcases mem_cons.mp listed with same | later
    · rw [same]
      exact first
    · exact takes.bare other later

theorem Takes.append {letters first middle second rest : List Char}
    (one : Takes letters first middle) (other : Takes middle second rest) :
    Takes letters (first ++ second) rest := by
  constructor
  · rw [one.split, other.split, append_assoc]
  · intro letter listed
    rcases mem_append.mp listed with here | there
    · exact one.bare letter here
    · exact other.bare letter there

theorem isBare_digit (digit : Text.isDigit letter = true) : isBare letter = true := by
  simp [isBare, Text.isAlnum, digit]

theorem takeDigits_takes :
    Takes letters (Text.takeDigits letters).1 (Text.takeDigits letters).2 := by
  induction letters with
  | nil => exact Takes.none []
  | cons letter letters ih =>
    rw [Text.takeDigits]
    split
    · rename_i digit
      exact Takes.cons (isBare_digit digit) ih
    · exact Takes.none _

theorem readFraction_takes : Takes letters (readFraction letters).1 (readFraction letters).2 := by
  unfold readFraction
  split
  · rename_i rest
    have digits := takeDigits_takes rest
    dsimp only
    split
    · exact Takes.none _
    · exact Takes.cons rfl digits
  · exact Takes.none _

theorem readExponent_takes : Takes letters (readExponent letters).1 (readExponent letters).2 := by
  unfold readExponent
  split
  · rename_i mark sign rest
    split
    · rename_i marked
      have first : isBare mark = true := by rcases marked with rfl | rfl <;> rfl
      split
      · rename_i signed
        have second : isBare sign = true := by rcases signed with rfl | rfl <;> rfl
        have digits := takeDigits_takes rest
        dsimp only
        split
        · exact Takes.none _
        · exact Takes.cons first (Takes.cons second digits)
      · have digits := takeDigits_takes (sign :: rest)
        dsimp only
        split
        · exact Takes.none _
        · exact Takes.cons first digits
    · exact Takes.none _
  · exact Takes.none _

theorem readMagnitude_takes {negative : Bool} {letters rest : List Char} {value : Json}
    (read : readMagnitude negative letters = some (value, rest)) :
    value.isScalar = true ∧ ∃ taken, taken ≠ [] ∧ Takes letters taken rest := by
  have digits := takeDigits_takes letters
  have fraction := readFraction_takes (Text.takeDigits letters).2
  have exponent := readExponent_takes (readFraction (Text.takeDigits letters).2).2
  unfold readMagnitude at read
  dsimp only at read
  split at read
  · cases read
  · rename_i number
    rw [not_or] at number
    split at read
    all_goals
      obtain ⟨same, rests⟩ := Prod.mk.inj (Option.some.inj read)
      rw [← same, ← rests]
      exact ⟨rfl, _, append_ne_nil_of_left_ne_nil number.1 _,
        digits.append (fraction.append exponent)⟩

theorem readScalar_takes {letters rest : List Char} {value : Json}
    (read : readScalar letters = some (value, rest)) :
    value.isScalar = true ∧ ∃ taken, taken ≠ [] ∧ Takes letters taken rest := by
  unfold readScalar at read
  split at read
  · rename_i word found
    obtain ⟨same, rests⟩ := Prod.mk.inj (Option.some.inj read)
    have listed := mem_of_find?_eq_some found
    have start := find?_some found
    rw [List.isPrefixOf_iff_prefix] at start
    obtain ⟨tail, whole⟩ := start
    have known : words.all (fun word => word.2.isScalar && !word.1.isEmpty &&
        word.1.all isBare) = true := by
      decide
    have each := all_eq_true.mp known word listed
    rw [Bool.and_eq_true, Bool.and_eq_true] at each
    rw [← same, ← rests, ← whole, drop_left]
    exact ⟨each.1.1, word.1, by simpa using each.1.2, rfl, all_eq_true.mp each.2⟩
  · unfold readNumber at read
    split at read
    · obtain ⟨kind, taken, _, takes⟩ := readMagnitude_takes read
      exact ⟨kind, _, cons_ne_nil _ _, Takes.cons rfl takes⟩
    · exact readMagnitude_takes read

end

section

theorem spellsText_letter {letter : Char} {text letters after rest : List Char}
    (read : readLetter letters = some (letter, after)) (unquoted : ∀ tail, letters ≠ '"' :: tail)
    (later : SpellsText text after rest) : SpellsText (letter :: text) letters rest := by
  unfold readLetter at read
  split at read
  · cases read
  · exact .coded read later
  · rename_i mark tail other
    obtain ⟨found, known, same⟩ := Option.map_eq_some_iff.mp read
    rw [← (Prod.mk.inj same).1]
    rw [← (Prod.mk.inj same).2] at later
    exact .short known later
  · rename_i first tail _ _
    split at read
    · cases read
    · rename_i printed
      rw [not_or] at printed
      obtain ⟨same, rests⟩ := Prod.mk.inj (Option.some.inj read)
      rw [← same]
      rw [← rests] at later
      have other : first ≠ '"' := fun quote => unquoted tail (by rw [quote])
      exact .plain (Nat.le_of_not_lt printed.1) printed.2 other later

theorem spellsText_readText {fuel : Nat} {letters text rest : List Char}
    (read : readText fuel letters = some (text, rest)) : SpellsText text letters rest := by
  induction fuel generalizing letters text with
  | zero => cases read
  | succ fuel ih =>
    by_cases quoted : ∃ tail, letters = '"' :: tail
    · obtain ⟨tail, shape⟩ := quoted
      rw [shape, readText] at read
      obtain ⟨same, rests⟩ := Prod.mk.inj (Option.some.inj read)
      rw [shape, ← same, ← rests]
      exact .done
    · have unquoted : ∀ tail, letters ≠ '"' :: tail := not_exists.mp quoted
      rw [readText] at read
      · simp only [Option.bind_eq_bind, Option.bind_eq_some_iff, pure, Option.some.injEq,
          Prod.exists, Prod.mk.injEq] at read
        obtain ⟨letter, after, first, inner, last, later, texts, rests⟩ := read
        rw [← texts]
        rw [rests] at later
        exact spellsText_letter first unquoted (ih later)
      · exact unquoted

variable {strict : Prop}

theorem spells_readScalar {letters rest : List Char} {value : Json}
    (read : readScalar letters = some (value, rest)) : Spells strict value letters rest := by
  obtain ⟨kind, taken, occupied, split, bare⟩ := readScalar_takes read
  rw [split]
  exact .scalar kind occupied bare

/-- The reader finds a spelling of its value, of its items and of its fields. -/
structure Finds (fuel : Nat) : Prop where
  value : ∀ {letters rest : List Char} {value : Json},
    readValue fuel letters = some (value, rest) → Spells False value letters rest
  items : ∀ {letters rest : List Char} {items : List Json},
    readItems fuel letters = some (items, rest) → SpellsItems False items letters rest
  fields : ∀ {letters rest : List Char} {fields : List (String × Json)},
    readFields fuel letters = some (fields, rest) → SpellsFields False fields letters rest

theorem Finds.zero : Finds 0 where
  value read := by cases read
  items read := by cases read
  fields read := by cases read

theorem Finds.readValue {fuel : Nat} (finds : Finds fuel) {letters rest : List Char} {value : Json}
    (read : Json.readValue (fuel + 1) letters = some (value, rest)) :
    Spells False value letters rest := by
  unfold Json.readValue at read
  split at read
  · cases read
  · simp only [Option.bind_eq_bind, Option.bind_eq_some_iff, pure, Option.some.injEq, Prod.exists,
      Prod.mk.injEq] at read
    obtain ⟨text, after, inside, same, rests⟩ := read
    rw [← same, ← rests]
    exact .text (spellsText_readText inside)
  · rename_i shared
    cases shared
    split at read
    · rename_i closed
      obtain ⟨same, rests⟩ := Prod.mk.inj (Option.some.inj read)
      rw [← same, ← rests]
      exact .noItems closed
    · simp only [Option.bind_eq_bind, Option.bind_eq_some_iff, pure, Option.some.injEq,
        Prod.exists, Prod.mk.injEq] at read
      obtain ⟨items, after, inside, same, rests⟩ := read
      rw [← same, ← rests]
      exact .items (finds.items inside)
  · rename_i shared
    cases shared
    split at read
    · rename_i closed
      obtain ⟨same, rests⟩ := Prod.mk.inj (Option.some.inj read)
      rw [← same, ← rests]
      exact .noFields closed
    · simp only [Option.bind_eq_bind, Option.bind_eq_some_iff, pure, Option.some.injEq,
        Prod.exists, Prod.mk.injEq] at read
      obtain ⟨fields, after, inside, same, rests⟩ := read
      rw [← same, ← rests]
      exact .fields (finds.fields inside) False.elim
  · exact spells_readScalar read

theorem Finds.readItems {fuel : Nat} (finds : Finds fuel) {letters rest : List Char}
    {items : List Json} (read : Json.readItems (fuel + 1) letters = some (items, rest)) :
    SpellsItems False items letters rest := by
  unfold Json.readItems at read
  simp only [Option.bind_eq_bind, Option.bind_eq_some_iff, Prod.exists] at read
  obtain ⟨value, after, first, read⟩ := read
  split at read
  · rename_i continued
    simp only [Option.bind_eq_some_iff, pure, Option.some.injEq, Prod.exists,
      Prod.mk.injEq] at read
    obtain ⟨others, last, later, same, rests⟩ := read
    rw [← same, ← rests]
    exact .more (finds.value first) continued (finds.items later)
  · rename_i closed
    obtain ⟨same, rests⟩ := Prod.mk.inj (Option.some.inj read)
    rw [← same, ← rests]
    exact .last (finds.value first) closed
  · cases read

theorem Finds.readFields {fuel : Nat} (finds : Finds fuel) {letters rest : List Char}
    {fields : List (String × Json)}
    (read : Json.readFields (fuel + 1) letters = some (fields, rest)) :
    SpellsFields False fields letters rest := by
  unfold Json.readFields at read
  split at read
  · rename_i quoted same
    cases Nat.succ.inj same
    simp only [Option.bind_eq_bind, Option.bind_eq_some_iff, Prod.exists] at read
    obtain ⟨key, named, name, read⟩ := read
    split at read
    · rename_i colon
      simp only [Option.bind_eq_some_iff, Prod.exists] at read
      obtain ⟨value, after, first, read⟩ := read
      split at read
      · rename_i continued
        simp only [Option.bind_eq_some_iff, pure, Option.some.injEq, Prod.exists,
          Prod.mk.injEq] at read
        obtain ⟨others, last, later, fields, rests⟩ := read
        rw [← fields, ← rests]
        exact .more (spellsText_readText name) colon (finds.value first) continued
          (finds.fields later)
      · rename_i closed
        obtain ⟨fields, rests⟩ := Prod.mk.inj (Option.some.inj read)
        rw [← fields, ← rests]
        exact .last (spellsText_readText name) colon (finds.value first) closed
      · cases read
    · cases read
  · cases read

theorem finds (fuel : Nat) : Finds fuel := by
  induction fuel with
  | zero => exact Finds.zero
  | succ fuel ih => exact ⟨ih.readValue, ih.readItems, ih.readFields⟩

/-- The reader accepts spellings only. -/
theorem spells_loads {letters : List Char} {value : Json} (read : loads letters = some value) :
    SpellsDocument False value letters := by
  unfold loads at read
  split at read
  · rename_i found rest first
    split at read
    · rename_i closed
      rw [← Option.some.inj read]
      exact ⟨rest, (finds _).value first, closed⟩
    · cases read
  · cases read

end
end Json
