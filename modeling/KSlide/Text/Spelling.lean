import KSlide.Text.Unicode
import Mathlib.Data.List.Forall2

/-
This file gives the spelling of canonical names and the first separator of a text.
-/

namespace Text

/-- White space, digits and the basic signs have no case. -/
def isPlain (letter : Char) : Bool :=
  isSpace letter || (decide (letter.toNat < 128) && !isUpper letter && !isLower letter)

/-- A plain letter stays, and another letter becomes letters that are not plain. -/
def Lowered (letter : Char) (image : List Char) : Prop :=
  if isPlain letter = true then image = [letter]
  else image ≠ [] ∧ ∀ found ∈ image, isPlain found = false

end Text

/-- The lower case of a text is the lower case of its letters, and it is final. -/
class Casing [Unicode] : Prop where
  lowered : ∀ text, ∃ images, Unicode.lower text = images.flatten ∧
    List.Forall₂ Text.Lowered text images
  lower_lower : ∀ text, Unicode.lower (Unicode.lower text) = Unicode.lower text

namespace Text
open List

section
variable {text : List Char} {images : List (List Char)} {letter : Char}

theorem count_lowered (related : List.Forall₂ Lowered text images)
    (plain : isPlain letter = true) : images.flatten.count letter = text.count letter := by
  induction related with
  | nil => rfl
  | @cons first image rest others head tail ih =>
    rw [flatten_cons, count_append, ih, count_cons]
    unfold Lowered at head
    split at head
    · rw [head, count_singleton, Nat.add_comm]
    · rename_i cased
      have different : (first == letter) = false := by
        rw [beq_eq_false_iff_ne]
        intro same
        exact cased (same ▸ plain)
      have absent : letter ∉ image := by
        intro listed
        rw [head.2 letter listed] at plain
        cases plain
      rw [count_eq_zero.mpr absent, different]
      simp

theorem head_lowered (related : List.Forall₂ Lowered text images)
    (first : images.flatten.head? = some letter) (plain : isPlain letter = true) :
    text.head? = some letter := by
  cases related with
  | nil => cases first
  | @cons known image rest others head tail =>
    unfold Lowered at head
    split at head
    · rw [head] at first
      exact first
    · cases image with
      | nil => exact absurd rfl head.1
      | cons top more =>
        have same : top = letter := Option.some.inj first
        rw [← same, head.2 top mem_cons_self] at plain
        cases plain

theorem last_lowered (related : List.Forall₂ Lowered text images)
    (final : images.flatten.getLast? = some letter) (plain : isPlain letter = true) :
    text.getLast? = some letter := by
  have reversed : List.Forall₂ Lowered text.reverse (images.map List.reverse).reverse := by
    rw [forall₂_reverse_iff, forall₂_map_right_iff]
    apply related.imp
    intro known image head
    unfold Lowered at head ⊢
    split at head
    · rename_i own
      rw [if_pos own, head]
      rfl
    · rename_i cased
      rw [if_neg cased]
      exact ⟨by simpa using head.1, fun found listed => head.2 found (mem_reverse.mp listed)⟩
  have turned : (images.map List.reverse).reverse.flatten = images.flatten.reverse :=
    reverse_flatten.symm
  have first := head_lowered reversed (by rw [turned, head?_reverse, final]) plain
  rwa [head?_reverse] at first

end

section
variable {text : List Char}

/-- A text has no white space around it. -/
def Stripped (text : List Char) : Prop :=
  (∀ letter, text.head? = some letter → isSpace letter = false) ∧
    ∀ letter, text.getLast? = some letter → isSpace letter = false

theorem dropWhile_of_head {known : Char → Bool}
    (stops : ∀ letter, text.head? = some letter → known letter = false) :
    text.dropWhile known = text := by
  cases text with
  | nil => rfl
  | cons letter rest => rw [dropWhile_cons, stops letter rfl, if_neg (by decide)]

theorem strip_of_stripped (stripped : Stripped text) : strip text = text := by
  unfold strip
  rw [dropWhile_of_head stripped.1, dropWhile_of_head, reverse_reverse]
  intro letter first
  rw [head?_reverse] at first
  exact stripped.2 letter first

theorem stripped_strip (text : List Char) : Stripped (strip text) := by
  have begins (letters : List Char) {letter : Char}
      (first : (letters.dropWhile isSpace).head? = some letter) : isSpace letter = false := by
    have stops := head?_dropWhile_not isSpace letters
    rw [first] at stops
    simpa using stops
  constructor
  · intro letter first
    obtain ⟨rest, joined⟩ : strip text <+: text.dropWhile isSpace := List.rdropWhile_prefix _ _
    apply begins text
    rw [← joined, head?_append, first]
    rfl
  · intro letter final
    unfold strip at final
    rw [getLast?_reverse] at final
    exact begins _ final

/-- A stripped text lies in the text. -/
theorem strip_within (text : List Char) : strip text <:+: text :=
  (List.rdropWhile_prefix isSpace _).isInfix.trans (dropWhile_suffix isSpace).isInfix

end

section

def isSeparator (letter : Char) : Bool := letter == '-' || letter == '_' || letter == '.'

theorem isPlain_of_isSeparator {letter : Char} (separator : isSeparator letter = true) :
    isPlain letter = true := by
  simp only [isSeparator, Bool.or_eq_true, beq_iff_eq] at separator
  rcases separator with (same | same) | same <;> rw [same] <;> decide

/-- A run of separators becomes one hyphen. -/
def hyphenate : List Char → List Char
  | [] => []
  | letter :: rest =>
    if isSeparator letter then
      if rest.head?.any isSeparator then hyphenate rest else '-' :: hyphenate rest
    else letter :: hyphenate rest

/-- Single hyphens are the only separators of the text. -/
def Hyphenated : List Char → Prop
  | [] => True
  | letter :: rest =>
    (isSeparator letter = true → letter = '-' ∧ rest.head?.any isSeparator = false) ∧
      Hyphenated rest

variable {text : List Char}

theorem hyphenate_of_hyphenated (spelled : Hyphenated text) : hyphenate text = text := by
  induction text with
  | nil => rfl
  | cons letter rest ih =>
    rw [hyphenate, ih spelled.2]
    split
    · rename_i separator
      obtain ⟨hyphen, alone⟩ := spelled.1 separator
      rw [alone, if_neg (by decide), hyphen]
    · rfl

theorem head_hyphenate (text : List Char) : (hyphenate text).head? =
    text.head?.map fun letter => if isSeparator letter then '-' else letter := by
  induction text with
  | nil => rfl
  | cons letter rest ih =>
    rw [hyphenate]
    split
    · rename_i separator
      split
      · rename_i more
        cases rest with
        | nil => cases more
        | cons next others =>
          rw [ih]
          have second : isSeparator next = true := more
          simp [separator, second]
      · simp [separator]
    · rename_i other
      simp [other]

theorem count_hyphenate {letter : Char} (other : isSeparator letter = false) :
    (hyphenate text).count letter = text.count letter := by
  have different {known : Char} (separator : isSeparator known = true) : known ≠ letter := by
    intro same
    rw [same, other] at separator
    cases separator
  induction text with
  | nil => rfl
  | cons known rest ih =>
    rw [hyphenate]
    split
    · rename_i separator
      rw [count_cons_of_ne (different separator)]
      split
      · exact ih
      · rw [count_cons_of_ne (different rfl), ih]
    · rw [count_cons, count_cons, ih]

theorem hyphenated_hyphenate (text : List Char) : Hyphenated (hyphenate text) := by
  induction text with
  | nil => exact trivial
  | cons letter rest ih =>
    rw [hyphenate]
    split
    · split
      · exact ih
      · rename_i alone
        refine ⟨fun _ => ⟨rfl, ?_⟩, ih⟩
        rw [head_hyphenate]
        cases rest with
        | nil => rfl
        | cons next others =>
          have other : isSeparator next = false := by simpa using alone
          simp [other]
    · rename_i other
      exact ⟨fun separator => absurd separator other, ih⟩

theorem last_hyphenate (text : List Char) : (hyphenate text).getLast? =
    text.getLast?.map fun letter => if isSeparator letter then '-' else letter := by
  induction text with
  | nil => rfl
  | cons letter rest ih =>
    cases rest with
    | nil =>
      by_cases separator : isSeparator letter <;> simp [hyphenate, separator]
    | cons next others =>
      obtain ⟨known, final⟩ : ∃ known, (next :: others).getLast? = some known :=
        ⟨_, getLast?_cons⟩
      rw [final] at ih
      rw [getLast?_cons_cons, final, hyphenate]
      split
      · split
        · exact ih
        · rw [getLast?_cons, ih]
          rfl
      · rw [getLast?_cons, ih]
        rfl

theorem stripped_hyphenate (stripped : Stripped text) : Stripped (hyphenate text) := by
  have spaceless {letter : Char} (plain : isSpace letter = false) :
      isSpace (if isSeparator letter then '-' else letter) = false := by
    split
    · decide
    · exact plain
  constructor
  · intro letter first
    rw [head_hyphenate, Option.map_eq_some_iff] at first
    obtain ⟨known, start, same⟩ := first
    exact same ▸ spaceless (stripped.1 known start)
  · intro letter final
    rw [last_hyphenate, Option.map_eq_some_iff] at final
    obtain ⟨known, stop, same⟩ := final
    exact same ▸ spaceless (stripped.2 known stop)

variable {images : List (List Char)}

theorem hyphenated_append {image rest : List Char}
    (cased : ∀ letter ∈ image, isPlain letter = false) (spelled : Hyphenated rest) :
    Hyphenated (image ++ rest) := by
  induction image with
  | nil => exact spelled
  | cons letter image ih =>
    have later := ih fun other listed => cased other (mem_cons_of_mem _ listed)
    refine ⟨fun separator => ?_, later⟩
    have plain := isPlain_of_isSeparator separator
    rw [cased letter mem_cons_self] at plain
    cases plain

theorem hyphenated_lowered (related : List.Forall₂ Lowered text images)
    (spelled : Hyphenated text) : Hyphenated images.flatten := by
  induction related with
  | nil => exact trivial
  | @cons letter image rest others head tail ih =>
    rw [flatten_cons]
    unfold Lowered at head
    split at head
    · rw [head]
      refine ⟨fun separator => ?_, ih spelled.2⟩
      obtain ⟨hyphen, alone⟩ := spelled.1 separator
      refine ⟨hyphen, ?_⟩
      show others.flatten.head?.any isSeparator = false
      cases first : others.flatten.head? with
      | none => rfl
      | some next =>
        by_contra more
        have separator : isSeparator next = true := by
          simpa only [Option.any_some, Bool.not_eq_false] using more
        have known := head_lowered tail first (isPlain_of_isSeparator separator)
        rw [known] at alone
        simp [separator] at alone
    · exact hyphenated_append head.2 (ih spelled.2)

theorem stripped_lowered (related : List.Forall₂ Lowered text images)
    (stripped : Stripped text) : Stripped images.flatten := by
  have plain {letter : Char} (space : isSpace letter = true) : isPlain letter = true := by
    rw [isPlain, space, Bool.true_or]
  constructor
  · intro letter first
    by_contra space
    rw [Bool.not_eq_false] at space
    have known := stripped.1 letter (head_lowered related first (plain space))
    rw [space] at known
    cases known
  · intro letter final
    by_contra space
    rw [Bool.not_eq_false] at space
    have known := stripped.2 letter (last_lowered related final (plain space))
    rw [space] at known
    cases known

end

section
variable [Unicode]

/-- A canonical name is stripped, has single hyphens and is written in lower case. -/
def canonicalName (text : List Char) : List Char := Unicode.lower (hyphenate (strip text))

variable [Casing] (text : List Char)

theorem lowered_canonicalName : ∃ images, canonicalName text = images.flatten ∧
    List.Forall₂ Lowered (hyphenate (strip text)) images := Casing.lowered _

theorem stripped_canonicalName : Stripped (canonicalName text) := by
  obtain ⟨images, same, related⟩ := lowered_canonicalName text
  rw [same]
  exact stripped_lowered related (stripped_hyphenate (stripped_strip text))

theorem canonicalName_canonicalName :
    canonicalName (canonicalName text) = canonicalName text := by
  obtain ⟨images, same, related⟩ := lowered_canonicalName text
  have spelled : Hyphenated (canonicalName text) := by
    rw [same]
    exact hyphenated_lowered related (hyphenated_hyphenate _)
  rw [canonicalName, strip_of_stripped (stripped_canonicalName text),
    hyphenate_of_hyphenated spelled]
  exact Casing.lower_lower _

variable {text}

theorem count_canonicalName {letter : Char} (plain : isPlain letter = true)
    (other : isSeparator letter = false) :
    (canonicalName text).count letter ≤ text.count letter := by
  obtain ⟨images, same, related⟩ := lowered_canonicalName text
  rw [same, count_lowered related plain, count_hyphenate other]
  exact (strip_within text).sublist.count_le letter

end

/-- The table of the basic letters has no other letters in lower case. -/
theorem casing_basic : @Casing Unicode.basic := by
  have small : ∀ point ∈ List.range 128,
      (isPlain (Char.ofNat point) = true → (Char.ofNat point).toLower = Char.ofNat point) ∧
        (isPlain (Char.ofNat point) = false → isPlain (Char.ofNat point).toLower = false) ∧
          (Char.ofNat point).toLower.toLower = (Char.ofNat point).toLower := by
    decide +kernel
  have each (letter : Char) : Lowered letter [letter.toLower] ∧
      letter.toLower.toLower = letter.toLower := by
    by_cases basic : letter.toNat < 128
    · have known := small letter.toNat (mem_range.mpr basic)
      rw [Char.ofNat_toNat] at known
      refine ⟨?_, known.2.2⟩
      unfold Lowered
      split
      · rename_i plain
        rw [known.1 plain]
      · rename_i cased
        simpa using known.2.1 (Bool.eq_false_iff.mpr cased)
    · have same : letter.toLower = letter := by
        unfold Char.toLower
        rw [dif_neg]
        rintro ⟨-, upper⟩
        have below : letter.toNat ≤ 90 := upper
        omega
      rw [same, same]
      refine ⟨?_, rfl⟩
      unfold Lowered
      split
      · rfl
      · rename_i cased
        simpa using cased
  let table := Unicode.basic
  constructor
  · intro text
    refine ⟨text.map fun letter => [letter.toLower], ?_, ?_⟩
    · show text.map Char.toLower = _
      induction text with
      | nil => rfl
      | cons letter rest ih => rw [map_cons, ih, map_cons, flatten_cons]; rfl
    · rw [forall₂_map_right_iff, forall₂_same]
      exact fun letter _ => (each letter).1
  · intro text
    show (text.map Char.toLower).map Char.toLower = text.map Char.toLower
    rw [map_map]
    exact map_congr_left fun letter _ => (each letter).2

section
variable {separator text name rest : List Char}

/-- The first separator of a text divides it. -/
def partition (separator : List Char) : List Char → Option (List Char × List Char)
  | [] => none
  | letter :: rest =>
    if separator.isPrefixOf (letter :: rest) then
      some ([], (letter :: rest).drop separator.length)
    else (partition separator rest).map fun parts => (letter :: parts.1, parts.2)

/-- The separator starts nowhere in the name. -/
def First (separator name rest : List Char) : Prop :=
  ∀ part, part ≠ [] → part <:+ name → ¬ separator <+: part ++ (separator ++ rest)

theorem first_cons {letter : Char} : First separator (letter :: name) rest ↔
    ¬ separator <+: letter :: (name ++ (separator ++ rest)) ∧ First separator name rest := by
  constructor
  · intro first
    refine ⟨first (letter :: name) (cons_ne_nil _ _) (suffix_refl _), ?_⟩
    intro part occupied ends
    exact first part occupied (ends.trans (suffix_cons letter name))
  · rintro ⟨here, later⟩ part occupied ends
    rcases suffix_cons_iff.mp ends with same | inner
    · rw [same]
      exact here
    · exact later part occupied inner

theorem partition_iff (occupied : separator ≠ []) : partition separator text = some (name, rest) ↔
    text = name ++ (separator ++ rest) ∧ First separator name rest := by
  induction text generalizing name rest with
  | nil =>
    constructor
    · intro found
      cases found
    · rintro ⟨joined, -⟩
      have empty := append_eq_nil_iff.mp (append_eq_nil_iff.mp joined.symm).2
      exact absurd empty.1 occupied
  | cons letter tail ih =>
    rw [partition]
    split
    · rename_i starts
      obtain ⟨more, joined⟩ := List.isPrefixOf_iff_prefix.mp starts
      rw [← joined, drop_left, Option.some.injEq, Prod.mk.injEq]
      constructor
      · rintro ⟨same, same'⟩
        rw [← same, ← same']
        exact ⟨rfl, fun part some ends => absurd (suffix_nil.mp ends) some⟩
      · rintro ⟨shape, first⟩
        cases name with
        | nil => exact ⟨rfl, append_cancel_left shape⟩
        | cons known name =>
          have here := (first_cons.mp first).1
          rw [cons_append] at shape
          rw [← shape] at here
          exact absurd (prefix_append separator more) here
    · rename_i other
      have other' : ¬ separator <+: letter :: tail := fun starts =>
        other (List.isPrefixOf_iff_prefix.mpr starts)
      rw [Option.map_eq_some_iff]
      constructor
      · rintro ⟨⟨inner, final⟩, found, same⟩
        obtain ⟨named, ended⟩ := Prod.mk.inj same
        obtain ⟨shape, first⟩ := ih.mp found
        rw [← named, ← ended, cons_append, ← shape, first_cons, ← shape]
        exact ⟨rfl, other', first⟩
      · rintro ⟨shape, first⟩
        cases name with
        | nil => exact absurd (shape ▸ prefix_append separator rest) other'
        | cons known name =>
          obtain ⟨same, shape⟩ := List.cons.inj shape
          exact ⟨(name, rest), ih.mpr ⟨shape, (first_cons.mp first).2⟩, by rw [same]⟩

theorem partition_some (occupied : separator ≠ []) (name rest : List Char) :
    ∃ found more, partition separator (name ++ (separator ++ rest)) = some (found, more) ∧
      found <+: name := by
  induction name with
  | nil =>
    refine ⟨[], rest, (partition_iff occupied).mpr ⟨rfl, ?_⟩, prefix_refl _⟩
    intro part some ends
    exact absurd (suffix_nil.mp ends) some
  | cons letter name ih =>
    obtain ⟨found, more, parts, begins⟩ := ih
    rw [cons_append, partition]
    split
    · exact ⟨[], _, rfl, nil_prefix⟩
    · exact ⟨letter :: found, more, by rw [parts]; rfl, cons_prefix_cons.mpr ⟨rfl, begins⟩⟩

end

end Text
