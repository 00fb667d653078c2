import KSlide.Json.Spelling
import Mathlib.Algebra.Ring.Nat

/-
This file reads a spelling as a row of tokens and weighs the texts that stand in it.
-/

namespace Json
open List

section
variable {letter : Char} {letters rest : List Char} {value : Nat}

theorem isPlain_bounds (plain : isPlain letter = true) :
    isGap letter = true ∨ (33 ≤ letter.toNat ∧ letter.toNat < 128) := by
  have range {low high : Char} (large : 33 ≤ low.toNat) (small : high.toNat < 128)
      (inside : low ≤ letter ∧ letter ≤ high) : 33 ≤ letter.toNat ∧ letter.toNat < 128 := by
    have least : low.toNat ≤ letter.toNat := UInt32.le_iff_toNat_le.mp inside.1
    have most : letter.toNat ≤ high.toNat := UInt32.le_iff_toNat_le.mp inside.2
    omega
  simp only [isPlain, Text.isAlnum, Text.isUpper, Text.isLower, Text.isDigit, Bool.or_eq_true,
    Bool.and_eq_true, decide_eq_true_eq, elem_eq_mem] at plain
  rcases plain with (gap | ((upper | lower) | digit)) | mark
  · exact Or.inl gap
  · exact Or.inr (range (by decide) (by decide) upper)
  · exact Or.inr (range (by decide) (by decide) lower)
  · exact Or.inr (range (by decide) (by decide) digit)
  · have marks : ∀ other ∈ ['[', ']', '\x7b', '\x7d', ':', ',', '+', '-', '.'],
        33 ≤ other.toNat ∧ other.toNat < 128 := by simp
    exact Or.inr (marks letter mark)

theorem isGap_cases (gap : isGap letter = true) :
    letter = ' ' ∨ letter = '\t' ∨ letter = '\n' ∨ letter = '\r' := by
  simpa [isGap, or_assoc] using gap

theorem isPlain_basic (plain : isPlain letter = true) : letter.toNat < 128 := by
  rcases isPlain_bounds plain with gap | printed
  · rcases isGap_cases gap with rfl | rfl | rfl | rfl <;> decide
  · exact printed.2

theorem hexValue_bounds (known : hexValue letter = some value) :
    33 ≤ letter.toNat ∧ letter.toNat < 128 := by
  unfold hexValue at known
  simp only [Char.le_def, UInt32.le_iff_toNat_le] at known
  split_ifs at known with digit lower upper
  · exact ⟨Nat.le_trans (by decide) digit.1, Nat.lt_of_le_of_lt digit.2 (by decide)⟩
  · exact ⟨Nat.le_trans (by decide) lower.1, Nat.lt_of_le_of_lt lower.2 (by decide)⟩
  · exact ⟨Nat.le_trans (by decide) upper.1, Nat.lt_of_le_of_lt upper.2 (by decide)⟩

theorem mem_insertField {key : String} {value : Json} {fields : List (String × Json)}
    {field : String × Json} (listed : field ∈ insertField key value fields) :
    field = (key, value) ∨ field ∈ fields := by
  induction fields with
  | nil => exact Or.inl (mem_singleton.mp listed)
  | cons first fields ih =>
    obtain ⟨other, found⟩ := first
    rw [insertField] at listed
    split_ifs at listed with before same
    · exact mem_cons.mp listed
    · rcases mem_cons.mp listed with here | later
      · exact Or.inl here
      · exact Or.inr (mem_cons_of_mem _ later)
    · rcases mem_cons.mp listed with here | later
      · exact Or.inr (here ▸ mem_cons_self)
      · rcases ih later with here | later
        · exact Or.inl here
        · exact Or.inr (mem_cons_of_mem _ later)

theorem readUnit_split
    (read : readUnit letters = some (value, rest)) :
    ∃ taken, letters = taken ++ rest ∧ (∀ mark ∈ taken, (hexValue mark).isSome) ∧
      ∀ other, readUnit (taken ++ other) = some (value, other) := by
  unfold readUnit at read
  split at read
  · rename_i a b c d tail
    simp only [Option.bind_eq_bind, Option.bind_eq_some_iff, pure, Option.some.injEq,
      Prod.mk.injEq] at read
    obtain ⟨first, one, second, two, third, three, fourth, four, same, rests⟩ := read
    refine ⟨[a, b, c, d], by rw [rests]; rfl, ?_, ?_⟩
    · simp [one, two, three, four]
    · intro other
      simp [readUnit, one, two, three, four, same]
  · cases read

/-- The letters of an escape. -/
def isCode (mark : Char) : Bool := (hexValue mark).isSome || mark = '\\' || mark = 'u'

/-- An escape has the digits of one code unit or of two. -/
def Coded (taken : List Char) : Prop :=
  ∃ first, (∀ mark ∈ first, (hexValue mark).isSome) ∧ (taken = first ∨
    ∃ second, (∀ mark ∈ second, (hexValue mark).isSome) ∧ taken = first ++ '\\' :: 'u' :: second)

theorem Coded.codes {taken : List Char} (coded : Coded taken) :
    ∀ mark ∈ taken, isCode mark = true := by
  intro mark listed
  obtain ⟨first, hex, rfl | ⟨second, later, rfl⟩⟩ := coded
  · simp [isCode, hex mark listed]
  · simp only [mem_append, mem_cons] at listed
    rcases listed with here | rfl | rfl | there
    · simp [isCode, hex mark here]
    · rfl
    · rfl
    · simp [isCode, later mark there]

theorem readEscaped_split {digits : List Char}
    (read : readEscaped digits = some (letter, letters)) : ∃ taken, digits = taken ++ letters ∧
      Coded taken ∧ ∀ other, readEscaped (taken ++ other) = some (letter, other) := by
  unfold readEscaped at read
  simp only [Option.bind_eq_bind, Option.bind_eq_some_iff, Prod.exists] at read
  obtain ⟨unit, rest, first, read⟩ := read
  obtain ⟨taken, split, coded, reads⟩ := readUnit_split first
  split at read
  · rename_i high
    split at read
    · rename_i tail
      simp only [Option.bind_eq_some_iff, Prod.exists] at read
      obtain ⟨low, last, second, read⟩ := read
      obtain ⟨others, behind, later, again⟩ := readUnit_split second
      split at read
      · rename_i paired
        obtain ⟨same, rests⟩ := Prod.mk.inj (Option.some.inj read)
        refine ⟨taken ++ '\\' :: 'u' :: others, ?_, ⟨taken, coded, Or.inr ⟨others, later, rfl⟩⟩, ?_⟩
        · rw [split, behind, rests]
          simp
        · intro other
          have shape : taken ++ '\\' :: 'u' :: others ++ other =
              taken ++ '\\' :: 'u' :: (others ++ other) := by simp
          simp [readEscaped, shape, reads, high, again, paired, same]
      · cases read
    · cases read
  · rename_i single
    split at read
    · cases read
    · rename_i unpaired
      obtain ⟨same, rests⟩ := Prod.mk.inj (Option.some.inj read)
      refine ⟨taken, by rw [split, rests], ⟨taken, coded, Or.inl rfl⟩, fun other => ?_⟩
      simp [readEscaped, reads, single, unpaired, same]

end

section
variable (weight : List Char → Nat)

mutual
/-- The weight of a value is the sum of the weights of its texts and keys. -/
def weigh (weight : List Char → Nat) : Json → Nat
  | .str text => weight text.toList
  | .arr items => weighItems weight items
  | .obj fields => weighFields weight fields
  | _ => 0

def weighItems (weight : List Char → Nat) : List Json → Nat
  | [] => 0
  | value :: rest => weigh weight value + weighItems weight rest

def weighFields (weight : List Char → Nat) : List (String × Json) → Nat
  | [] => 0
  | (key, value) :: rest => weight key.toList + weigh weight value + weighFields weight rest
end

theorem weigh_insertField_le (key : String) (value : Json) (fields : List (String × Json)) :
    weighFields weight (insertField key value fields) ≤
      weight key.toList + weigh weight value + weighFields weight fields := by
  induction fields with
  | nil => exact Nat.le_refl _
  | cons first fields ih =>
    obtain ⟨other, found⟩ := first
    rw [insertField]
    split_ifs
    · exact Nat.le_refl _
    · simp only [weighFields]
      omega
    · simp only [weighFields]
      omega

theorem weigh_insertField {key : String} (value : Json) {fields : List (String × Json)}
    (fresh : key ∉ fields.map Prod.fst) : weighFields weight (insertField key value fields) =
      weight key.toList + weigh weight value + weighFields weight fields := by
  induction fields with
  | nil => rfl
  | cons first fields ih =>
    obtain ⟨other, found⟩ := first
    rw [map_cons, mem_cons, not_or] at fresh
    rw [insertField, if_neg fresh.1]
    split_ifs
    · rfl
    · simp only [weighFields, ih fresh.2]
      omega

theorem weigh_foldl_le (done fields : List (String × Json)) :
    weighFields weight
        (fields.foldl (fun fields field => insertField field.1 field.2 fields) done) ≤
      weighFields weight done + weighFields weight fields := by
  induction fields generalizing done with
  | nil => exact Nat.le_refl _
  | cons first fields ih =>
    have inserted := weigh_insertField_le weight first.1 first.2 done
    have later := ih (insertField first.1 first.2 done)
    simp only [foldl_cons, weighFields]
    omega

theorem weigh_foldl {done fields : List (String × Json)} (distinct : (fields.map Prod.fst).Nodup)
    (fresh : ∀ key ∈ fields.map Prod.fst, key ∉ done.map Prod.fst) :
    weighFields weight
        (fields.foldl (fun fields field => insertField field.1 field.2 fields) done) =
      weighFields weight done + weighFields weight fields := by
  induction fields generalizing done with
  | nil => rfl
  | cons first fields ih =>
    rw [map_cons, nodup_cons] at distinct
    have inserted := weigh_insertField weight first.2 (fresh first.1 (by simp))
    have behind : ∀ key ∈ fields.map Prod.fst,
        key ∉ (insertField first.1 first.2 done).map Prod.fst := by
      intro key listed known
      obtain ⟨field, present, same⟩ := mem_map.mp known
      rcases mem_insertField present with here | before
      · rw [here] at same
        exact distinct.1 (same ▸ listed)
      · exact fresh key (mem_cons_of_mem _ listed) (same ▸ mem_map_of_mem before)
    have later := ih distinct.2 behind
    simp only [foldl_cons, weighFields]
    omega

theorem weigh_collect_le (fields : List (String × Json)) :
    weigh weight (collect fields) ≤ weighFields weight fields := by
  have total := weigh_foldl_le weight [] fields
  rw [weighFields, Nat.zero_add] at total
  exact total

theorem weigh_collect {fields : List (String × Json)} (distinct : (fields.map Prod.fst).Nodup) :
    weigh weight (collect fields) = weighFields weight fields := by
  have fresh : ∀ key ∈ fields.map Prod.fst, key ∉ ([] : List (String × Json)).map Prod.fst :=
    fun _ _ => not_mem_nil
  have total := weigh_foldl weight distinct fresh
  rw [weighFields, Nat.zero_add] at total
  exact total

end

section

/-- A document is a row of tokens with these texts. Behind a comma no bracket closes. -/
inductive Tokens : Bool → List Char → List (List Char) → Prop
  | done : Tokens false [] []
  | gap {behind : Bool} {letter : Char} {letters : List Char} {texts : List (List Char)}
      (blank : isGap letter = true) (later : Tokens behind letters texts) :
      Tokens behind (letter :: letters) texts
  | text {behind : Bool} {text letters rest : List Char} {texts : List (List Char)}
      (body : SpellsText text letters rest) (later : Tokens false rest texts) :
      Tokens behind ('"' :: letters) (text :: texts)
  | bare {behind : Bool} {letter : Char} {letters : List Char} {texts : List (List Char)}
      (known : isBare letter = true) (later : Tokens false letters texts) :
      Tokens behind (letter :: letters) texts
  | opening {behind : Bool} {letter : Char} {letters : List Char} {texts : List (List Char)}
      (known : letter = '[' ∨ letter = '\x7b' ∨ letter = ':') (later : Tokens false letters texts) :
      Tokens behind (letter :: letters) texts
  | closing {letter : Char} {letters : List Char} {texts : List (List Char)}
      (known : letter = ']' ∨ letter = '\x7d') (later : Tokens false letters texts) :
      Tokens false (letter :: letters) texts
  | comma {letters : List Char} {texts : List (List Char)} (later : Tokens true letters texts) :
      Tokens false (',' :: letters) texts

theorem Tokens.walk {motive : List Char → List (List Char) → Prop} (done : motive [] [])
    (plain : ∀ {letter letters texts}, isPlain letter = true → motive letters texts →
      motive (letter :: letters) texts)
    (text : ∀ {text letters rest texts}, SpellsText text letters rest → motive rest texts →
      motive ('"' :: letters) (text :: texts))
    {behind : Bool} {letters : List Char} {texts : List (List Char)}
    (tokens : Tokens behind letters texts) : motive letters texts := by
  induction tokens with
  | done => exact done
  | gap blank later ih => exact plain (by simp [isPlain, blank]) ih
  | text body later ih => exact text body ih
  | bare known later ih => exact plain (isPlain_bare known) ih
  | opening known later ih =>
    apply plain _ ih
    rcases known with rfl | rfl | rfl <;> rfl
  | closing known later ih =>
    apply plain _ ih
    rcases known with rfl | rfl <;> rfl
  | comma later ih => exact plain rfl ih

/-- The texts of a row weigh at least as much as the value, and a strict row as much. -/
structure Weighs (strict : Prop) (texts : List (List Char)) (total : (List Char → Nat) → Nat) :
    Prop where
  atLeast : ∀ weight, total weight ≤ (texts.map weight).sum
  exact : strict → ∀ weight, (texts.map weight).sum = total weight

variable {strict : Prop}

theorem Weighs.append {first second : List (List Char)} {one other : (List Char → Nat) → Nat}
    (left : Weighs strict first one) (right : Weighs strict second other) :
    Weighs strict (first ++ second) fun weight => one weight + other weight := by
  constructor
  · intro weight
    have least := left.atLeast weight
    have most := right.atLeast weight
    rw [map_append, sum_append]
    omega
  · intro holds weight
    rw [map_append, sum_append, left.exact holds, right.exact holds]

theorem Weighs.single (text : List Char) : Weighs strict [text] fun weight => weight text :=
  ⟨fun weight => by simp, fun _ weight => by simp⟩

theorem Weighs.none : Weighs strict [] fun _ => 0 := ⟨fun _ => Nat.le_refl _, fun _ _ => rfl⟩

theorem tokens_skipGaps {behind : Bool} {letters : List Char} {texts : List (List Char)}
    (tokens : Tokens behind (skipGaps letters) texts) : Tokens behind letters texts := by
  induction letters with
  | nil => exact tokens
  | cons letter letters ih =>
    rw [skipGaps, dropWhile_cons] at tokens
    split_ifs at tokens with blank
    · exact .gap blank (ih tokens)
    · exact tokens

theorem tokens_bare {behind : Bool} {raw rest : List Char} {texts : List (List Char)}
    (occupied : raw ≠ []) (bare : ∀ letter ∈ raw, isBare letter = true)
    (later : Tokens false rest texts) : Tokens behind (raw ++ rest) texts := by
  induction raw generalizing behind with
  | nil => exact absurd rfl occupied
  | cons letter raw ih =>
    have known := bare letter mem_cons_self
    cases raw with
    | nil => exact .bare known later
    | cons next raw =>
      exact .bare known (ih (cons_ne_nil _ _) fun other listed =>
        bare other (mem_cons_of_mem _ listed))

/-- The letters begin with tokens whose texts weigh this total. -/
def Begins (strict : Prop) (behind : Bool) (letters rest : List Char)
    (total : (List Char → Nat) → Nat) : Prop :=
  ∀ texts, Tokens false rest texts →
    ∃ own, Tokens behind letters (own ++ texts) ∧ Weighs strict own total

variable {behind : Bool} {letters rest after : List Char} {total other : (List Char → Nat) → Nat}

theorem Begins.opening {letter : Char} (known : letter = '[' ∨ letter = '\x7b' ∨ letter = ':')
    (begins : Begins strict false (skipGaps letters) rest total) :
    Begins strict behind (letter :: letters) rest total := by
  intro texts tokens
  obtain ⟨own, row, weighs⟩ := begins texts tokens
  exact ⟨own, .opening known (tokens_skipGaps row), weighs⟩

theorem Begins.closing {letter : Char} (known : letter = ']' ∨ letter = '\x7d')
    (begins : Begins strict behind letters after total) (closed : skipGaps after = letter :: rest) :
    Begins strict behind letters rest total := by
  intro texts tokens
  apply begins texts
  apply tokens_skipGaps
  rw [closed]
  exact .closing known tokens

theorem Begins.comma {next : List Char} (first : Begins strict behind letters after total)
    (continued : skipGaps after = ',' :: next)
    (later : Begins strict true (skipGaps next) rest other) :
    Begins strict behind letters rest fun weight => total weight + other weight := by
  intro texts tokens
  obtain ⟨own, row, weighs⟩ := later texts tokens
  have reached : Tokens false after (own ++ texts) := by
    apply tokens_skipGaps
    rw [continued]
    exact .comma (tokens_skipGaps row)
  obtain ⟨before, whole, heavy⟩ := first _ reached
  exact ⟨before ++ own, by rw [append_assoc]; exact whole, heavy.append weighs⟩

theorem Begins.text {text : List Char} (body : SpellsText text letters rest) :
    Begins strict behind ('"' :: letters) rest fun weight => weight text :=
  fun _ tokens => ⟨[text], .text body tokens, Weighs.single text⟩

theorem Begins.field {key named next : List Char} (name : SpellsText key letters named)
    (colon : skipGaps named = ':' :: next)
    (first : Begins strict false (skipGaps next) rest total) :
    Begins strict behind ('"' :: letters) rest fun weight => weight key + total weight := by
  intro texts tokens
  obtain ⟨own, row, weighs⟩ := first.opening (Or.inr (Or.inr rfl)) texts tokens
  have reached : Tokens false named (own ++ texts) := by
    apply tokens_skipGaps
    rw [colon]
    exact row
  have text : Begins strict behind ('"' :: letters) named fun weight => weight key := .text name
  obtain ⟨before, whole, heavy⟩ := text _ reached
  exact ⟨before ++ own, by rw [append_assoc]; exact whole, heavy.append weighs⟩

theorem Begins.bound (begins : Begins strict behind letters rest total)
    (least : ∀ weight, other weight ≤ total weight)
    (exact : strict → ∀ weight, total weight = other weight) :
    Begins strict behind letters rest other := by
  intro texts tokens
  obtain ⟨own, row, weighs⟩ := begins texts tokens
  use own, row
  constructor
  · intro weight
    exact (least weight).trans (weighs.atLeast weight)
  · intro holds weight
    rw [weighs.exact holds, exact holds]

theorem Begins.same (begins : Begins strict behind letters rest total)
    (same : ∀ weight, total weight = other weight) : Begins strict behind letters rest other :=
  begins.bound (fun weight => (same weight).ge) fun _ => same

theorem Begins.empty {mark : Char} (known : mark = ']' ∨ mark = '\x7d')
    (closed : skipGaps letters = mark :: rest) : Begins strict false letters rest fun _ => 0 := by
  intro texts tokens
  use []
  refine ⟨tokens_skipGaps ?_, Weighs.none⟩
  rw [closed]
  exact .closing known tokens

mutual
theorem tokens_spells {value : Json} {behind : Bool} {letters rest : List Char} :
    Spells strict value letters rest → Begins strict behind letters rest (weigh · value)
  | .scalar kind occupied bare => by
    intro texts tokens
    have light : ∀ weight, weigh weight value = 0 := by
      intro weight
      cases value <;> first | rfl | cases kind
    use [], tokens_bare occupied bare tokens
    simp only [light]
    exact Weighs.none
  | .text body => (Begins.text body).same fun weight => by rw [weigh, String.toList_ofList]
  | .noItems closed => by
    intro texts tokens
    have none : Begins strict false _ _ fun _ => 0 := .empty (Or.inl rfl) closed
    obtain ⟨own, row, weighs⟩ := none texts tokens
    exact ⟨own, .opening (Or.inl rfl) row, weighs⟩
  | .items body => (tokens_items body).opening (Or.inl rfl)
  | .noFields closed => by
    intro texts tokens
    have none : Begins strict false _ _ fun _ => 0 := .empty (Or.inr rfl) closed
    obtain ⟨own, row, weighs⟩ := none texts tokens
    exact ⟨own, .opening (Or.inr (Or.inl rfl)) row, weighs⟩
  | .fields body distinct =>
    ((tokens_fields body).opening (Or.inr (Or.inl rfl))).bound
      (fun weight => weigh_collect_le weight _)
      fun holds weight => (weigh_collect weight (distinct holds)).symm

theorem tokens_items {items : List Json} {behind : Bool} {letters rest : List Char} :
    SpellsItems strict items letters rest →
      Begins strict behind letters rest (weighItems · items)
  | .last first closed => ((tokens_spells first).closing (Or.inl rfl) closed).same fun _ => rfl
  | .more first continued later =>
    ((tokens_spells first).comma continued (tokens_items later)).same fun _ => rfl

theorem tokens_fields {fields : List (String × Json)} {behind : Bool} {letters rest : List Char} :
    SpellsFields strict fields letters rest →
      Begins strict behind letters rest (weighFields · fields)
  | .last name colon first closed =>
    ((Begins.field name colon (tokens_spells first)).closing (Or.inr rfl) closed).same
      fun weight => by simp [weighFields]
  | .more name colon first continued later =>
    ((Begins.field name colon (tokens_spells first)).comma continued (tokens_fields later)).same
      fun weight => by simp [weighFields]
end

theorem tokens_document {value : Json} {letters : List Char}
    (spells : SpellsDocument strict value letters) :
    ∃ texts, Tokens false letters texts ∧ Weighs strict texts (weigh · value) := by
  obtain ⟨rest, first, closed⟩ := spells
  have ending : Tokens false rest [] := by
    apply tokens_skipGaps
    rw [closed]
    exact .done
  obtain ⟨own, row, weighs⟩ := tokens_spells first [] ending
  rw [append_nil] at row
  exact ⟨own, tokens_skipGaps row, weighs⟩

end

/-- The number of quotes that no backslash escapes. -/
def quotesFrom : Bool → List Char → Nat
  | _, [] => 0
  | true, _ :: rest => quotesFrom false rest
  | false, letter :: rest =>
    if letter = '\\' then quotesFrom true rest
    else if letter = '"' then quotesFrom false rest + 1
    else quotesFrom false rest

theorem quotesFrom_other {letter : Char} (unescaped : letter ≠ '\\') (unquoted : letter ≠ '"')
    (rest : List Char) : quotesFrom false (letter :: rest) = quotesFrom false rest := by
  rw [quotesFrom, if_neg unescaped, if_neg unquoted]

theorem quotesFrom_hex {raw : List Char} (hex : ∀ mark ∈ raw, (hexValue mark).isSome)
    (rest : List Char) : quotesFrom false (raw ++ rest) = quotesFrom false rest := by
  induction raw with
  | nil => rfl
  | cons mark raw ih =>
    have known := hex mark mem_cons_self
    have unescaped : mark ≠ '\\' := by
      rintro rfl
      cases known
    have unquoted : mark ≠ '"' := by
      rintro rfl
      cases known
    rw [cons_append, quotesFrom_other unescaped unquoted]
    exact ih fun other listed => hex other (mem_cons_of_mem _ listed)

theorem quotesFrom_coded {taken : List Char} (coded : Coded taken) (rest : List Char) :
    quotesFrom false (taken ++ rest) = quotesFrom false rest := by
  obtain ⟨first, hex, rfl | ⟨second, later, rfl⟩⟩ := coded
  · exact quotesFrom_hex hex rest
  · rw [append_assoc, quotesFrom_hex hex]
    exact quotesFrom_hex later rest

/-- The letters between the quotes of a text. -/
structure Quoted (text raw : List Char) : Prop where
  spells : ∀ rest, SpellsText text (raw ++ '"' :: rest) rest
  printed : ∀ mark ∈ raw, 32 ≤ mark.toNat
  unquoted : quotesFrom false raw = 0

theorem isCode_bounds {mark : Char} (code : isCode mark = true) :
    33 ≤ mark.toNat ∧ mark.toNat < 128 := by
  simp only [isCode, Bool.or_eq_true, decide_eq_true_eq] at code
  rcases code with (hex | rfl) | rfl
  · obtain ⟨value, known⟩ := Option.isSome_iff_exists.mp hex
    exact hexValue_bounds known
  · decide
  · decide

theorem spellsText_split {text letters rest : List Char} (spells : SpellsText text letters rest) :
    ∃ raw, letters = raw ++ '"' :: rest ∧ Quoted text raw := by
  induction spells with
  | done => exact ⟨[], rfl, fun other => .done, by simp, rfl⟩
  | @plain letter text letters rest printed unescaped unquoted later ih =>
    obtain ⟨raw, split, body⟩ := ih
    refine ⟨letter :: raw, by rw [split]; rfl,
      fun other => .plain printed unescaped unquoted (body.spells other), ?_, ?_⟩
    · rw [forall_mem_cons]
      exact ⟨printed, body.printed⟩
    · rw [quotesFrom_other unescaped unquoted, body.unquoted]
  | @short mark letter text letters rest known later ih =>
    obtain ⟨raw, split, body⟩ := ih
    refine ⟨'\\' :: mark :: raw, by rw [split]; rfl,
      fun other => .short known (body.spells other), ?_, body.unquoted⟩
    have printed : 32 ≤ mark.toNat := by
      unfold unescape at known
      split at known <;> first | decide | cases known
    rw [forall_mem_cons, forall_mem_cons]
    exact ⟨by decide, printed, body.printed⟩
  | @coded letter text digits letters rest known later ih =>
    obtain ⟨raw, split, body⟩ := ih
    obtain ⟨taken, before, coded, reads⟩ := readEscaped_split known
    refine ⟨'\\' :: 'u' :: (taken ++ raw), by rw [before, split]; simp, fun other => ?_, ?_, ?_⟩
    · have again := reads (raw ++ '"' :: other)
      rw [← append_assoc] at again
      exact .coded again (body.spells other)
    · rw [forall_mem_cons, forall_mem_cons]
      refine ⟨by decide, by decide, fun mark listed => ?_⟩
      rcases mem_append.mp listed with here | there
      · exact Nat.le_of_succ_le (isCode_bounds (coded.codes mark here)).1
      · exact body.printed mark there
    · exact (quotesFrom_coded coded raw).trans body.unquoted

theorem spellsText_unique {text other letters rest behind : List Char}
    (spells : SpellsText text letters rest) (again : SpellsText other letters behind) :
    text = other ∧ rest = behind := by
  induction spells generalizing other with
  | done =>
    cases again with
    | done => exact ⟨rfl, rfl⟩
    | plain _ _ unquoted _ => exact absurd rfl unquoted
  | plain printed unescaped unquoted later ih =>
    cases again with
    | done => exact absurd rfl unquoted
    | plain _ _ _ later => exact (ih later).imp_left fun same => by rw [same]
    | short _ _ => exact absurd rfl unescaped
    | coded _ _ => exact absurd rfl unescaped
  | short known later ih =>
    cases again with
    | plain _ unescaped _ _ => exact absurd rfl unescaped
    | short found later =>
      rw [known] at found
      rw [Option.some.inj found]
      exact (ih later).imp_left fun same => by rw [same]
    | coded _ _ => cases known
  | coded known later ih =>
    cases again with
    | plain _ unescaped _ _ => exact absurd rfl unescaped
    | short found _ => cases found
    | coded found later =>
      rw [known] at found
      obtain ⟨same, rests⟩ := Prod.mk.inj (Option.some.inj found)
      rw [same]
      rw [← rests] at later
      exact (ih later).imp_left fun same => by rw [same]

theorem quotesFrom_text {text letters rest : List Char} (spells : SpellsText text letters rest) :
    quotesFrom false letters = quotesFrom false rest + 1 := by
  induction spells with
  | done => rfl
  | plain printed unescaped unquoted later ih => rw [quotesFrom_other unescaped unquoted, ih]
  | short known later ih => exact ih
  | @coded letter text digits letters rest known later ih =>
    obtain ⟨taken, rfl, coded, -⟩ := readEscaped_split known
    exact (quotesFrom_coded coded letters).trans ih

/-- A row has two plain quotes for each of its texts. -/
theorem quotesFrom_tokens {behind : Bool} {letters : List Char} {texts : List (List Char)}
    (tokens : Tokens behind letters texts) : quotesFrom false letters = 2 * texts.length := by
  apply tokens.walk (motive := fun letters texts => quotesFrom false letters = 2 * texts.length)
  · rfl
  · intro letter letters texts plain ih
    rw [quotesFrom_other _ _ letters, ih]
    · rintro rfl
      cases plain
    · rintro rfl
      cases plain
  · intro text letters rest texts body ih
    have quote : quotesFrom false ('"' :: letters) = quotesFrom false letters + 1 := rfl
    rw [quote, quotesFrom_text body, ih, length_cons]
    omega

end Json
