import KSlide.Events.Normalize
import KSlide.Json.Mentions
import KSlide.Json.Places
import KSlide.Json.Rows

/-
This file shows which streams of written events are collected without a loss.
-/

open Json Json.Place

namespace KSlide
open List
namespace Events

/-- The letters that end a line and may stand in a JSON text. -/
def wideBreaks : List Char := [Char.ofNat 133, Char.ofNat 8232, Char.ofNat 8233]

theorem isBreak_wide {letter : Char} (listed : letter ∈ wideBreaks) :
    Text.isBreak letter = true ∧ 128 ≤ letter.toNat := by
  have all : wideBreaks.all (fun letter => Text.isBreak letter && decide (128 ≤ letter.toNat)) =
      true := by decide
  simpa using all_eq_true.mp all letter listed

section

variable {letter : Char} {next : Place}

theorem unquoted_of_isSpace (space : Text.isSpace letter = true) :
    letter ≠ '"' ∧ letter ≠ '\\' := by
  constructor
  · rintro rfl
    cases space
  · rintro rfl
    cases space

theorem step_outside (unquoted : letter ≠ '"')
    (stepped : outside.step letter = some next) : next = outside ∧ isPlain letter = true := by
  rw [step, if_neg unquoted] at stepped
  split at stepped
  · rename_i plain
    exact ⟨(Option.some.inj stepped).symm, plain⟩
  · cases stepped

theorem step_inside (unquoted : letter ≠ '"')
    (unescaped : letter ≠ '\\') (stepped : inside.step letter = some next) : next = inside := by
  rw [step, if_neg unquoted, if_neg unescaped] at stepped
  split at stepped
  · exact (Option.some.inj stepped).symm
  · cases stepped

/-- White space keeps the place where it may stand. -/
theorem scan_spaces {place after : Place} {spaces : List Char} (unmarked : place ≠ escaped)
    (white : ∀ letter ∈ spaces, Text.isSpace letter = true)
    (scanned : place.scan spaces = some after) : after = place := by
  induction spaces with
  | nil => exact (Option.some.inj scanned).symm
  | cons letter spaces ih =>
    obtain ⟨unquoted, unescaped⟩ := unquoted_of_isSpace (white letter mem_cons_self)
    rw [scan, Option.bind_eq_some_iff] at scanned
    obtain ⟨next, first, later⟩ := scanned
    have same : next = place := by
      cases place with
      | outside => exact (step_outside unquoted first).1
      | inside => exact step_inside unquoted unescaped first
      | escaped => exact absurd rfl unmarked
    rw [same] at later
    exact ih (fun other listed => white other (mem_cons_of_mem _ listed)) later

/-- Letters that are read from the outside and from the inside hold no backslash. -/
theorem unescaped_of_scans {letters : List Char} {first second third fourth : Place}
    (apart : (first = outside ∧ second = inside) ∨ (first = inside ∧ second = outside))
    (one : first.scan letters = some third) (other : second.scan letters = some fourth) :
    '\\' ∉ letters := by
  induction letters generalizing first second with
  | nil => exact not_mem_nil
  | cons letter letters ih =>
    rw [scan, Option.bind_eq_some_iff] at one other
    obtain ⟨next, stepped, later⟩ := one
    obtain ⟨after, moved, behind⟩ := other
    have plain : letter ≠ '\\' := by
      rintro rfl
      rcases apart with ⟨rfl, rfl⟩ | ⟨rfl, rfl⟩
      · cases stepped
      · cases moved
    have kept : (next = outside ∧ after = inside) ∨ (next = inside ∧ after = outside) := by
      by_cases quote : letter = '"'
      · rw [quote] at stepped moved
        rcases apart with ⟨rfl, rfl⟩ | ⟨rfl, rfl⟩
        · exact Or.inr ⟨(Option.some.inj stepped).symm, (Option.some.inj moved).symm⟩
        · exact Or.inl ⟨(Option.some.inj stepped).symm, (Option.some.inj moved).symm⟩
      · rcases apart with ⟨rfl, rfl⟩ | ⟨rfl, rfl⟩
        · exact Or.inl ⟨(step_outside quote stepped).1, step_inside quote plain moved⟩
        · exact Or.inr ⟨step_inside quote plain stepped, (step_outside quote moved).1⟩
    rw [mem_cons, not_or]
    exact ⟨plain.symm, ih kept later behind⟩

theorem isPlain_break (broken : Text.isBreak letter = true)
    (other : letter ≠ '\n' ∧ letter ≠ '\r') : isPlain letter = false := by
  apply eq_false_of_ne_true
  intro plain
  rcases isPlain_bounds plain with gap | printed
  · rcases isGap_cases gap with rfl | rfl | rfl | rfl
    · cases broken
    · cases broken
    · exact other.1 rfl
    · exact other.2 rfl
  · simp only [Text.isBreak, Bool.or_eq_true, Bool.and_eq_true, decide_eq_true_eq,
      beq_iff_eq] at broken
    omega

theorem unescape_break (broken : Text.isBreak letter = true) :
    ¬ (letter = 'u' ∨ (unescape letter).isSome) := by
  rintro (rfl | known)
  · cases broken
  · unfold unescape at known
    split at known <;> first | cases broken | cases known

theorem scan_break {before after : List Char} {letter : Char} {first last : Place}
    (broken : Text.isBreak letter = true) (other : letter ≠ '\n' ∧ letter ≠ '\r')
    (scanned : first.scan (before ++ letter :: after) = some last) :
    32 ≤ letter.toNat ∧ first.scan before = some inside ∧ inside.scan after = some last := by
  have unquoted : letter ≠ '"' := by
    rintro rfl
    cases broken
  have unescaped : letter ≠ '\\' := by
    rintro rfl
    cases broken
  rw [scan_append, Option.bind_eq_some_iff] at scanned
  obtain ⟨place, reached, behind⟩ := scanned
  rw [scan, Option.bind_eq_some_iff] at behind
  obtain ⟨next, stepped, later⟩ := behind
  cases place with
  | outside =>
    have plain := (step_outside unquoted stepped).2
    rw [isPlain_break broken other] at plain
    cases plain
  | inside =>
    have kept := step_inside unquoted unescaped stepped
    rw [step, if_neg unquoted, if_neg unescaped] at stepped
    split at stepped
    · rename_i printed
      rw [kept] at later
      exact ⟨printed, reached, later⟩
    · cases stepped
  | escaped =>
    rw [step, if_neg (unescape_break broken)] at stepped
    cases stepped

end

/-- The first line starts the text, and every other line stands behind a break. -/
theorem splitLines_places {letters : List Char} (whole : '\r' ∉ letters) {line : List Char}
    {lines : List (List Char)} (split : Text.splitLines letters = line :: lines) :
    (∃ after, letters = line ++ after ∧
      (after = [] ∨ ∃ mark back, after = mark :: back ∧ Text.isBreak mark = true)) ∧
      ∀ fragment ∈ lines, ∃ front mark after,
        letters = front ++ mark :: (fragment ++ after) ∧ Text.isBreak mark = true := by
  induction letters generalizing line lines with
  | nil => cases split
  | cons letter rest ih =>
    have other : letter ≠ '\r' := fun same => whole (same ▸ mem_cons_self)
    have later := fun {line} {lines} => @ih (fun listed => whole (mem_cons_of_mem _ listed))
      line lines
    cases broken : Text.isBreak letter with
    | true =>
      have cut : Text.splitLines (letter :: rest) = [] :: Text.splitLines rest :=
        Text.splitLines_break (fun _ listed => absurd listed not_mem_nil) broken other rest
      rw [cut] at split
      obtain ⟨head, tail⟩ := List.cons.inj split
      rw [← head, ← tail]
      refine ⟨⟨letter :: rest, rfl, Or.inr ⟨letter, rest, rfl, broken⟩⟩, ?_⟩
      intro fragment listed
      cases found : Text.splitLines rest with
      | nil =>
        rw [found] at listed
        cases listed
      | cons next others =>
        obtain ⟨⟨after, start, _⟩, behind⟩ := later found
        rw [found] at listed
        rcases mem_cons.mp listed with same | deep
        · exact ⟨[], letter, after, by rw [same, ← start]; rfl, broken⟩
        · obtain ⟨front, mark, after, place, cut⟩ := behind fragment deep
          exact ⟨letter :: front, mark, after, by rw [place]; rfl, cut⟩
    | false =>
      rw [Text.splitLines_cons broken] at split
      cases found : Text.splitLines rest with
      | nil =>
        have empty : rest = [] := by
          by_contra occupied
          exact Text.splitLines_ne_nil occupied found
        rw [found] at split
        obtain ⟨head, tail⟩ := List.cons.inj split
        rw [← head, ← tail, empty]
        exact ⟨⟨[], rfl, Or.inl rfl⟩, fun _ listed => absurd listed not_mem_nil⟩
      | cons next others =>
        obtain ⟨⟨after, start, ends⟩, behind⟩ := later found
        rw [found] at split
        obtain ⟨head, tail⟩ := List.cons.inj split
        rw [← head, ← tail]
        refine ⟨⟨after, by rw [start]; rfl, ends⟩, ?_⟩
        intro fragment listed
        obtain ⟨front, mark, after, place, cut⟩ := behind fragment listed
        exact ⟨letter :: front, mark, after, by rw [place]; rfl, cut⟩

/-- White space stands around a stripped text. -/
theorem strip_split (letters : List Char) : ∃ before after,
    letters = before ++ Text.strip letters ++ after ∧
      (∀ letter ∈ before, Text.isSpace letter = true) ∧
        ∀ letter ∈ after, Text.isSpace letter = true := by
  let inner := letters.dropWhile Text.isSpace
  have front := takeWhile_append_dropWhile (p := Text.isSpace) (l := letters)
  have back := takeWhile_append_dropWhile (p := Text.isSpace) (l := inner.reverse)
  use letters.takeWhile Text.isSpace, (inner.reverse.takeWhile Text.isSpace).reverse
  refine ⟨?_, fun letter listed => mem_takeWhile_imp listed,
    fun letter listed => mem_takeWhile_imp (mem_reverse.mp listed)⟩
  have joined : Text.strip letters ++ (inner.reverse.takeWhile Text.isSpace).reverse = inner := by
    rw [Text.strip, ← reverse_append, back, reverse_reverse]
  rw [append_assoc, joined, front]

theorem readEvent_loads {fragment : List Char} {value : Json}
    (read : readEvent fragment = some value) :
    loads (Text.strip fragment) = some value ∧ value.isObject = true := by
  rw [readEvent] at read
  split at read
  · rw [Option.filter_eq_some_iff] at read
    exact read
  · cases read

/-- A fragment that ends inside of a text is no object. -/
theorem readEvent_open {fragment : List Char} (scanned : outside.scan fragment = some inside) :
    readEvent fragment = none := by
  cases read : readEvent fragment with
  | none => rfl
  | some value =>
    obtain ⟨before, after, shape, white, blank⟩ := strip_split fragment
    rw [shape, append_assoc, scan_append, Option.bind_eq_some_iff] at scanned
    obtain ⟨place, started, scanned⟩ := scanned
    rw [scan_spaces (by decide) white started, scan_append,
      scan_document (spells_loads (readEvent_loads read).1)] at scanned
    cases scan_spaces (by decide) blank scanned

/-- A fragment that starts inside of a text copies its letters. -/
theorem mentions_inside {fragment : List Char} {last : Place}
    (scanned : inside.scan fragment = some last) {value : Json}
    (read : readEvent fragment = some value) {letter : Char}
    (held : value.mentions letter = true) : letter ∈ fragment := by
  obtain ⟨before, after, shape, white, blank⟩ := strip_split fragment
  rw [shape, append_assoc, scan_append, Option.bind_eq_some_iff] at scanned
  obtain ⟨place, started, scanned⟩ := scanned
  rw [scan_spaces (by decide) white started, scan_append, Option.bind_eq_some_iff] at scanned
  obtain ⟨middle, core, _⟩ := scanned
  have spells := spells_loads (readEvent_loads read).1
  have free := unescaped_of_scans (Or.inr ⟨rfl, rfl⟩) core (scan_document spells)
  rw [shape]
  exact mem_append_left _ (mem_append_right _ (copies_document spells free held))

theorem fragment_free {line fragment : List Char} {value : Json} {last : Place}
    (scanned : outside.scan line = some last) (whole : '\n' ∉ line ∧ '\r' ∉ line)
    (broken : ∃ mark ∈ line, Text.isBreak mark = true)
    (listed : fragment ∈ Text.splitLines line) (read : readEvent fragment = some value)
    {letter : Char} (cut : Text.isBreak letter = true) : value.mentions letter = false := by
  have other {mark : Char} (known : mark ∈ line) : mark ≠ '\n' ∧ mark ≠ '\r' :=
    ⟨fun same => whole.1 (same ▸ known), fun same => whole.2 (same ▸ known)⟩
  have unbroken := Text.splitLines_unbroken line fragment listed
  cases found : Text.splitLines line with
  | nil =>
    rw [found] at listed
    cases listed
  | cons first lines =>
    obtain ⟨⟨behind, start, ends⟩, others⟩ := splitLines_places whole.2 found
    rw [found] at listed
    rcases mem_cons.mp listed with same | later
    · rcases ends with none | ⟨mark, back, shape, ends⟩
      · obtain ⟨mark, known, ends⟩ := broken
        rw [start, none, append_nil, ← same] at known
        rw [unbroken mark known] at ends
        cases ends
      · have known : mark ∈ line := by
          rw [start, shape]
          exact mem_append_right _ mem_cons_self
        rw [start, shape, ← same] at scanned
        have opened := (scan_break ends (other known) scanned).2.1
        rw [readEvent_open opened] at read
        cases read
    · obtain ⟨front, mark, after, place, ends⟩ := others fragment later
      have known : mark ∈ line := by
        rw [place]
        exact mem_append_right _ mem_cons_self
      rw [place] at scanned
      have opened := (scan_break ends (other known) scanned).2.2
      rw [scan_append, Option.bind_eq_some_iff] at opened
      obtain ⟨middle, opened, _⟩ := opened
      apply eq_false_of_ne_true
      intro held
      rw [unbroken letter (mentions_inside opened read held)] at cut
      cases cut

section

def Gaps (letters : List Char) : Prop := ∀ letter ∈ letters, isGap letter = true

/-- A text is one serialized object, and no key of an object in it stands twice. -/
structure Serialized (core : List Char) (value : Json) : Prop where
  starts : core.head? = some '\x7b'
  ends : core.getLast? = some '\x7d'
  reads : loads core = some value
  strict : SpellsDocument True value core

/-- An object is written as one line, between gaps. -/
structure WrittenLine (line : List Char) (value : Json) : Prop where
  object : value.isObject = true
  whole : '\n' ∉ line ∧ '\r' ∉ line
  core : ∃ before core after, Gaps before ∧ Gaps after ∧ line = before ++ core ++ after ∧
    Serialized core value

theorem isSpace_gap {letter : Char} (gap : isGap letter = true) : Text.isSpace letter = true := by
  simp only [isGap, Bool.or_eq_true, decide_eq_true_eq] at gap
  rcases gap with ((rfl | rfl) | rfl) | rfl <;> rfl

theorem dropWhile_around {spaces core : List Char} {first : Char}
    (white : ∀ letter ∈ spaces, Text.isSpace letter = true) (starts : core.head? = some first)
    (filled : Text.isSpace first = false) :
    (spaces ++ core).dropWhile Text.isSpace = core := by
  rw [dropWhile_append_of_pos white]
  cases core with
  | nil => cases starts
  | cons letter core =>
    rw [Option.some.inj starts]
    rw [dropWhile_cons_of_neg (by simp [filled])]

theorem strip_around {before core after : List Char} (left : Gaps before) (right : Gaps after)
    {first last : Char} (starts : core.head? = some first) (ends : core.getLast? = some last)
    (filled : Text.isSpace first = false ∧ Text.isSpace last = false) :
    Text.strip (before ++ core ++ after) = core := by
  have white : ∀ letter ∈ before, Text.isSpace letter = true :=
    fun letter listed => isSpace_gap (left letter listed)
  have blank : ∀ letter ∈ after.reverse, Text.isSpace letter = true :=
    fun letter listed => isSpace_gap (right letter (mem_reverse.mp listed))
  have joined : (core ++ after).head? = some first := by
    rw [head?_append, starts]
    rfl
  have turned : core.reverse.head? = some last := by rw [head?_reverse, ends]
  rw [Text.strip, append_assoc, dropWhile_around white joined filled.1, reverse_append,
    dropWhile_around blank turned filled.2, reverse_reverse]

variable {lines : List (List Char)} {objects : List Json} {line : List Char} {value : Json}

theorem scan_written (written : WrittenLine line value) : outside.scan line = some outside := by
  obtain ⟨before, core, after, left, right, shape, serialized⟩ := written.core
  have plain {letters : List Char} (gaps : Gaps letters) :
      ∀ letter ∈ letters, isPlain letter = true := by
    intro letter listed
    simp [isPlain, gaps letter listed]
  have closing := scan_plain (plain right) []
  rw [append_nil] at closing
  rw [shape, append_assoc, scan_plain (plain left), scan_append,
    scan_document serialized.strict]
  exact closing

theorem wideBreaks_written (written : WrittenLine line value)
    {letter : Char} (listed : letter ∈ line) (broken : Text.isBreak letter = true) :
    letter ∈ wideBreaks := by
  obtain ⟨before, after, place⟩ := append_of_mem listed
  have other : letter ≠ '\n' ∧ letter ≠ '\r' :=
    ⟨fun same => written.whole.1 (same ▸ listed), fun same => written.whole.2 (same ▸ listed)⟩
  have scanned := scan_written written
  rw [place] at scanned
  have printed := (scan_break broken other scanned).1
  simp only [Text.isBreak, Bool.or_eq_true, Bool.and_eq_true, decide_eq_true_eq,
    beq_iff_eq] at broken
  have point : letter.toNat = 133 ∨ letter.toNat = 8232 ∨ letter.toNat = 8233 := by omega
  rw [← Char.ofNat_toNat letter]
  rcases point with same | same | same <;> rw [same] <;> simp [wideBreaks]

theorem splitLines_single (occupied : line ≠ [])
    (unbroken : ∀ letter ∈ line, Text.isBreak letter = false) :
    Text.splitLines line = [line] := by
  induction line with
  | nil => exact absurd rfl occupied
  | cons letter rest ih =>
    rw [Text.splitLines_cons (unbroken letter mem_cons_self)]
    cases rest with
    | nil => rfl
    | cons next rest =>
      rw [ih (cons_ne_nil _ _) fun other listed =>
        unbroken other (mem_cons_of_mem _ listed)]

/-- A written line without a break gives its object. -/
theorem parse_clean (written : WrittenLine line value)
    (clean : ∀ letter ∈ line, letter ∉ wideBreaks) : parseJsonEvents line = [value] := by
  have unbroken : ∀ letter ∈ line, Text.isBreak letter = false := by
    intro letter listed
    apply eq_false_of_ne_true
    intro broken
    exact clean letter listed (wideBreaks_written written listed broken)
  obtain ⟨before, core, after, left, right, shape, serialized⟩ := written.core
  have occupied : line ≠ [] := by
    rw [shape]
    intro empty
    have none := (append_eq_nil_iff.mp (append_eq_nil_iff.mp empty).1).2
    have starts := serialized.starts
    rw [none] at starts
    cases starts
  have lines : Text.splitLines line = [line] := splitLines_single occupied unbroken
  have stripped : Text.strip line = core := by
    rw [shape]
    exact strip_around left right serialized.starts serialized.ends (by decide)
  have read : readEvent line = some value := by
    rw [readEvent, stripped, if_pos serialized.starts, serialized.reads]
    exact Option.filter_some_pos written.object
  rw [parseJsonEvents, lines, filterMap_cons, read, filterMap_nil]

/-- A break of a written line stands in a text of its object. -/
theorem mentions_break (written : WrittenLine line value)
    {letter : Char} (listed : letter ∈ line) (broken : letter ∈ wideBreaks) :
    value.mentions letter = true := by
  obtain ⟨before, core, after, left, right, shape, serialized⟩ := written.core
  have wide := (isBreak_wide broken).2
  have narrow {letters : List Char} (gaps : Gaps letters) : letter ∉ letters := by
    intro inside
    have plain : isPlain letter = true := by simp [isPlain, gaps letter inside]
    have basic := isPlain_basic plain
    omega
  have inside : letter ∈ core := by
    rw [shape] at listed
    rcases mem_append.mp listed with start | ending
    · exact (mem_append.mp start).resolve_left (narrow left)
    · exact absurd ending (narrow right)
  exact wide_document serialized.strict wide inside

/-- The object has a break in one of its texts. -/
def holdsBreak (value : Json) : Bool := wideBreaks.any (value.mentions ·)

def lineBroken (line : List Char) : Bool := line.any fun letter => wideBreaks.elem letter

theorem count_written (written : WrittenLine line value) :
    (parseJsonEvents line).countP holdsBreak + [line].countP lineBroken =
      [value].countP holdsBreak := by
  cases broken : lineBroken line with
  | false =>
    have clean : ∀ letter ∈ line, letter ∉ wideBreaks := by
      intro letter listed inside
      have all := any_eq_false.mp broken letter listed
      exact all (by simpa using inside)
    rw [parse_clean written clean]
    simp [broken]
  | true =>
    obtain ⟨letter, listed, inside⟩ := any_eq_true.mp broken
    have wide : letter ∈ wideBreaks := by simpa using inside
    have held : holdsBreak value = true :=
      any_eq_true.mpr ⟨letter, wide, mentions_break written listed wide⟩
    have none : (parseJsonEvents line).countP holdsBreak = 0 := by
      rw [countP_eq_zero]
      intro other known
      obtain ⟨fragment, part, read⟩ := mem_filterMap.mp known
      rw [holdsBreak, any_eq_true]
      rintro ⟨mark, ends, mentioned⟩
      rw [fragment_free (scan_written written) written.whole
        ⟨letter, listed, (isBreak_wide wide).1⟩ part read (isBreak_wide ends).1] at mentioned
      cases mentioned
    simp [none, broken, held]

/-- The event stream joins the lines with line feeds. -/
def joinedLines (lines : List (List Char)) : List Char := ['\n'].intercalate lines

theorem written_last (written : WrittenLine line value) :
    ∃ start last, line = start ++ [last] ∧ Text.isBreak last = false := by
  obtain ⟨before, core, after, left, right, shape, serialized⟩ := written.core
  cases ends : after.getLast? with
  | none =>
    have empty := getLast?_eq_none_iff.mp ends
    obtain ⟨start, split⟩ := getLast?_eq_some_iff.mp serialized.ends
    refine ⟨before ++ start, '\x7d', ?_, by decide⟩
    rw [shape, empty, split, append_nil, append_assoc]
  | some last =>
    obtain ⟨start, split⟩ := getLast?_eq_some_iff.mp ends
    have known : last ∈ after := by simp [split]
    have listed : last ∈ line := shape ▸ mem_append_right _ known
    refine ⟨before ++ core ++ start, last, by rw [shape, split]; simp, ?_⟩
    have gap := right last known
    simp only [isGap, Bool.or_eq_true, decide_eq_true_eq] at gap
    rcases gap with ((space | tab) | feed) | back
    · rw [space]
      decide
    · rw [tab]
      decide
    · exact absurd (feed ▸ listed) written.whole.1
    · exact absurd (back ▸ listed) written.whole.2

theorem joinedLines_cons (line next : List Char) (lines : List (List Char)) :
    joinedLines (line :: next :: lines) = line ++ '\n' :: joinedLines (next :: lines) := by
  rw [joinedLines, joinedLines, intercalate_cons_cons]
  simp

/-- The lines are read apart. -/
theorem parse_joined (written : List.Forall₂ WrittenLine lines objects) :
    parseJsonEvents (joinedLines lines) = lines.flatMap parseJsonEvents := by
  induction written with
  | nil => rfl
  | @cons line value lines objects first others ih =>
    cases lines with
    | nil =>
      rw [flatMap_singleton, joinedLines, intercalate_singleton]
    | cons next lines =>
      obtain ⟨start, last, shape, ends⟩ := written_last first
      have whole : '\r' ∉ start := fun listed =>
        first.whole.2 (shape ▸ mem_append_left _ listed)
      have split := Text.splitLines_lines whole last ends (joinedLines (next :: lines))
      rw [joinedLines_cons, flatMap_cons, ← ih, parseJsonEvents, parseJsonEvents,
        parseJsonEvents, ← filterMap_append, shape, append_assoc, ← split]
      rfl

theorem count_lines (written : List.Forall₂ WrittenLine lines objects) :
    (lines.flatMap parseJsonEvents).countP holdsBreak + lines.countP lineBroken =
      objects.countP holdsBreak := by
  induction written with
  | nil => rfl
  | @cons line value lines objects first others ih =>
    have here := count_written first
    have parts : (line :: lines).countP lineBroken =
        [line].countP lineBroken + lines.countP lineBroken := by
      rw [← countP_append]
      rfl
    have values : (value :: objects).countP holdsBreak =
        [value].countP holdsBreak + objects.countP holdsBreak := by
      rw [← countP_append]
      rfl
    rw [flatMap_cons, countP_append]
    omega

theorem parse_iff (written : List.Forall₂ WrittenLine lines objects) :
    parseJsonEvents (joinedLines lines) = objects ↔
      ∀ line ∈ lines, ∀ letter ∈ line, letter ∉ wideBreaks := by
  rw [parse_joined written]
  constructor
  · intro same line listed letter inside broken
    have count := count_lines written
    rw [same] at count
    have none : lines.countP lineBroken = 0 := by omega
    have clean := countP_eq_zero.mp none line listed
    exact clean (any_eq_true.mpr ⟨letter, inside, by simpa using broken⟩)
  · intro clean
    induction written with
    | nil => rfl
    | @cons line value lines objects first others ih =>
      have here := parse_clean first (clean line mem_cons_self)
      have later := ih fun line listed => clean line (mem_cons_of_mem _ listed)
      rw [flatMap_cons, here, later, singleton_append]

end

section
variable [Python.Printing] [Unicode]

/-- The positions of a wrapper that may name a tool. -/
def namesOf (part : Json) : List String :=
  (textOf? (part.field "tool")).toList ++ (textOf? (part.field "tool_name")).toList ++
    (functionName part).toList

/-- The tools that an event names in any of its recognised wrappers. -/
def namings (value : Json) : List String :=
  ((candidateParts value).filter (isToolPart (eventType value))).flatMap namesOf

omit [Python.Printing] [Unicode] in
theorem toolNameOf_head (part : Json) : toolNameOf part = (namesOf part).head? := by
  unfold toolNameOf namesOf
  cases part.field "tool" with
  | str name => rfl
  | _ =>
    cases part.field "tool_name" with
    | str name => rfl
    | _ => cases functionName part <;> rfl

omit [Python.Printing] [Unicode] in
/-- The first part with a name gives the first of all names. -/
theorem find_names (ok : Json → Bool) (parts : List Json) :
    (parts.find? fun part => ok part && (toolNameOf part).isSome).bind toolNameOf =
      ((parts.filter ok).flatMap namesOf).head? := by
  induction parts with
  | nil => rfl
  | cons part parts ih =>
    rw [find?_cons, filter_cons]
    cases known : ok part with
    | false => exact ih
    | true =>
      rw [if_pos rfl, flatMap_cons, head?_append, ← toolNameOf_head]
      cases named : toolNameOf part with
      | none => exact ih
      | some name => exact named

/-- The normal form of an event has the first tool that it names. -/
theorem toolName_head (value : Json) :
    (normalizeEvent value).toolName = (namings value).head? :=
  find_names (isToolPart (eventType value)) (candidateParts value)

theorem mem_forbidden {events : List Json} {name : String} :
    name ∈ forbiddenToolAttempts (normalizeEvents events) ↔
      isForbidden name = true ∧ ∃ value ∈ events, (namings value).head? = some name := by
  rw [forbiddenToolAttempts, mem_sortedSet, mem_filter, mem_filterMap, and_comm,
    normalizeEvents]
  constructor
  · rintro ⟨forbidden, event, listed, named⟩
    obtain ⟨value, known, same⟩ := mem_map.mp listed
    rw [← same, toolName_head] at named
    exact ⟨forbidden, value, known, named⟩
  · rintro ⟨forbidden, value, known, named⟩
    exact ⟨forbidden, _, mem_map_of_mem known, by rw [toolName_head, named]⟩

/-- The stream gives exactly its objects, and every forbidden tool that an event names is
reported. -/
structure Collected (lines : List (List Char)) (objects : List Json) : Prop where
  parsed : parseJsonEvents (joinedLines lines) = objects
  reported : ∀ value ∈ objects, ∀ name ∈ namings value, isForbidden name = true →
    name ∈ forbiddenToolAttempts (normalizeEvents (parseJsonEvents (joinedLines lines)))

/-- No line has a wide break, and no event hides a forbidden tool behind another name. -/
structure Exposed (lines : List (List Char)) (objects : List Json) : Prop where
  unbroken : ∀ line ∈ lines, ∀ letter ∈ line, letter ∉ wideBreaks
  first : ∀ value ∈ objects, ∀ name ∈ namings value, isForbidden name = true →
    ∃ other ∈ objects, (namings other).head? = some name

end

section

@[reducible] def unprinted : Python.Printing := ⟨fun _ => ""⟩

attribute [local instance] Unicode.basic unprinted

/-- This event names a forbidden tool and has one more letter in a text. -/
def toolFields (mark : Char) : List (String × Json) :=
  [("tool", .str "bash"), ("type", .str "tool"), ("x", .str (String.ofList [mark]))]

def toolLine (mark : Char) : List Char :=
  "\x7b\"tool\":\"bash\",\"type\":\"tool\",\"x\":\"".toList ++ mark :: "\"\x7d".toList

theorem toolFields_spells {mark : Char} (printed : 32 ≤ mark.toNat) (unescaped : mark ≠ '\\')
    (unquoted : mark ≠ '"') :
    SpellsFields True (toolFields mark) ((toolLine mark).drop 1) [] := by
  have word (fuel : Nat) {letters text rest : List Char}
      (read : readText fuel letters = some (text, rest)) := spellsText_readText read
  have bash : Spells True (.str (String.ofList "bash".toList)) ("\"bash\"".toList ++
      (toolLine mark).drop 14) ((toolLine mark).drop 14) := .text (word 5 rfl)
  have tool : Spells True (.str (String.ofList "tool".toList)) ("\"tool\"".toList ++
      (toolLine mark).drop 28) ((toolLine mark).drop 28) := .text (word 5 rfl)
  have text : SpellsText [mark] (mark :: ['"', '\x7d']) ['\x7d'] :=
    .plain printed unescaped unquoted .done
  have last : SpellsFields True [(String.ofList "x".toList, .str (String.ofList [mark]))]
      ((toolLine mark).drop 29) [] := .last (word 2 rfl) rfl (.text text) rfl
  have later : SpellsFields True [(String.ofList "type".toList, .str (String.ofList "tool".toList)),
      (String.ofList "x".toList, .str (String.ofList [mark]))] ((toolLine mark).drop 15) [] :=
    .more (word 5 rfl) rfl tool rfl last
  exact .more (word 5 rfl) rfl bash rfl later

theorem toolLine_written {mark : Char} (printed : 32 ≤ mark.toNat) (unescaped : mark ≠ '\\')
    (unquoted : mark ≠ '"') (reads : loads (toolLine mark) = some (collect (toolFields mark))) :
    WrittenLine (toolLine mark) (collect (toolFields mark)) := by
  have distinct : ["tool", "type", "x"].Nodup := by decide
  have core : Serialized (toolLine mark) (collect (toolFields mark)) :=
    { starts := rfl
      ends := rfl
      reads
      strict :=
        ⟨[], .fields (toolFields_spells printed unescaped unquoted) fun _ => distinct, rfl⟩ }
  have low {letter : Char} (small : letter.toNat < 32) : letter ∉ toolLine mark := by
    intro listed
    have letters : toolLine mark = "\x7b\"tool\":\"bash\",\"type\":\"tool\",\"x\":\"".toList ++
      mark :: "\"\x7d".toList := rfl
    rw [letters, mem_append, mem_cons] at listed
    have known :
        ("\x7b\"tool\":\"bash\",\"type\":\"tool\",\"x\":\"".toList.all (32 ≤ ·.toNat) &&
          "\"\x7d".toList.all (32 ≤ ·.toNat)) = true := by
      decide
    rw [Bool.and_eq_true, all_eq_true, all_eq_true] at known
    have large : 32 ≤ letter.toNat := by
      rcases listed with front | same | back
      · simpa using known.1 letter front
      · rw [same]
        exact printed
      · simpa using known.2 letter back
    omega
  exact ⟨rfl, ⟨low (by decide), low (by decide)⟩, [], toolLine mark, [],
    fun _ listed => absurd listed not_mem_nil, fun _ listed => absurd listed not_mem_nil,
    by rw [append_nil, nil_append], core⟩

end
end Events
end KSlide
