import KSlide.Runtime.Commas

/-
This file shows which configurations the host reads without a loss.
-/

open Json

namespace KSlide
open List
namespace Runtime
open Rewriting

section

variable {letter : Char} {raw : List Char}

theorem commentLength_other (other : letter ≠ '/') (rest : List Char) :
    commentLength (letter :: rest) = 0 := by
  unfold commentLength
  split
  · rename_i same
    exact absurd (List.cons.inj same).1 other
  · rfl

/-- A comment is erased up to the line end. -/
theorem sub_comment (rest : List Char) : sub commentLength [] ('/' :: '/' :: rest) =
    sub commentLength [] (rest.dropWhile (· ≠ '\n')) := by
  have split := takeWhile_append_dropWhile (p := (· ≠ '\n')) (l := rest)
  have matched : commentLength ('/' :: (('/' :: rest.takeWhile (· ≠ '\n')) ++
      rest.dropWhile (· ≠ '\n'))) = ('/' :: rest.takeWhile (· ≠ '\n')).length + 1 := by
    rw [cons_append, split]
    rfl
  have erased := sub_drop matched
  rw [cons_append, split] at erased
  exact erased

/-- No comment seems to start in the letters. -/
def Slashless (raw : List Char) : Prop := ¬ ['/', '/'] <:+: raw

theorem Slashless.tail (free : Slashless (letter :: raw)) :
    Slashless raw := fun inside => free (inside.trans (suffix_cons letter raw).isInfix)

/-- Letters of a literal that do not start with two slashes start no comment. -/
theorem commentLength_missed (apart : ¬ ['/', '/'] <+: letter :: raw) (rest : List Char) :
    commentLength (letter :: (raw ++ '"' :: rest)) = 0 := by
  unfold commentLength
  split
  · rename_i behind same
    obtain ⟨here, next⟩ := List.cons.inj same
    cases raw with
    | nil => cases next
    | cons mark raw =>
      rw [here, (List.cons.inj next).1] at apart
      exact absurd (prefix_append ['/', '/'] raw) apart
  · rfl

theorem Slashless.sub (free : Slashless raw) (rest : List Char) :
    sub commentLength [] (raw ++ '"' :: rest) = raw ++ '"' :: sub commentLength [] rest := by
  induction raw with
  | nil => exact sub_keep (commentLength_other (by decide) rest)
  | cons letter raw ih =>
    have apart : ¬ ['/', '/'] <+: letter :: raw := fun start => free start.isInfix
    rw [cons_append, sub_keep (commentLength_missed apart rest), ih free.tail]
    rfl

/-- A literal with two slashes loses its end and the rest of the line. -/
theorem sub_broken (broken : ¬ Slashless raw) (line : '\n' ∉ raw)
    (rest : List Char) : ∃ front, front <+: raw ∧ sub commentLength [] (raw ++ '"' :: rest) =
      front ++ sub commentLength [] (rest.dropWhile (· ≠ '\n')) := by
  rw [Slashless, not_not] at broken
  induction raw with
  | nil =>
    have empty := infix_nil.mp broken
    cases empty
  | cons letter raw ih =>
    have behind : '\n' ∉ raw := fun listed => line (mem_cons_of_mem _ listed)
    by_cases start : ['/', '/'] <+: letter :: raw
    · obtain ⟨tail, shape⟩ := start
      obtain ⟨here, next⟩ := List.cons.inj shape
      have whole : raw = '/' :: tail := next.symm
      have kept : (tail ++ '"' :: rest).dropWhile (· ≠ '\n') = rest.dropWhile (· ≠ '\n') := by
        rw [dropWhile_append_of_pos]
        · rfl
        · intro mark listed
          have other : mark ≠ '\n' := by
            rintro rfl
            exact behind (whole ▸ mem_cons_of_mem _ listed)
          simp [other]
      refine ⟨[], nil_prefix, ?_⟩
      rw [← here, whole, cons_append, cons_append, sub_comment, kept, nil_append]
    · have inside := (infix_cons_iff.mp broken).resolve_left start
      obtain ⟨front, begins, same⟩ := ih inside behind
      refine ⟨letter :: front, (prefix_cons_inj letter).mpr begins, ?_⟩
      rw [cons_append, sub_keep (commentLength_missed start rest), same]
      rfl

end

section
variable {behind flag : Bool} {pieces : List Piece} {texts : List (List Char)}

def Piece.literal? : Piece → Option Literal
  | .literal body => some body
  | _ => none

def literals (pieces : List Piece) : List Literal := pieces.filterMap Piece.literal?

/-- The letters outside of the literals stand in JSON texts. -/
def PlainLetters (pieces : List Piece) : Prop :=
  ∀ mark, Piece.letter mark ∈ pieces → isPlain mark = true

theorem PlainLetters.tail {piece : Piece} {rest : List Piece}
    (plain : PlainLetters (piece :: rest)) : PlainLetters rest :=
  fun mark listed => plain mark (mem_cons_of_mem _ listed)

theorem tokens_woven (woven : Woven behind pieces) (tokens : Tokens flag (source pieces) texts) :
    texts = (literals pieces).map Literal.text ∧ PlainLetters pieces := by
  have letter {mark : Char} {rest : List Piece} (plain : isPlain mark = true)
      (others : PlainLetters rest) : PlainLetters (.letter mark :: rest) := by
    intro other listed
    rcases mem_cons.mp listed with here | there
    · cases here
      exact plain
    · exact others other there
  induction woven generalizing flag texts with
  | done =>
    cases tokens
    exact ⟨rfl, fun mark listed => absurd listed not_mem_nil⟩
  | letter unquoted later ih =>
    obtain ⟨next, after, follows⟩ := tokens_letter unquoted tokens
    exact ⟨(ih after).1, letter follows.plain (ih after).2⟩
  | @closer mark rest closes later ih =>
    have unquoted : mark ≠ '"' := by
      rintro rfl
      cases closes
    obtain ⟨next, after, follows⟩ := tokens_letter unquoted tokens
    exact ⟨(ih after).1, letter follows.plain (ih after).2⟩
  | literal body later ih =>
    obtain ⟨others, same, after⟩ := tokens_literal body.spelled tokens
    obtain ⟨known, plain⟩ := ih after
    refine ⟨by rw [same, known]; rfl, fun mark listed => plain mark ?_⟩
    exact (mem_cons.mp listed).resolve_left nofun
  | note line ended later ih =>
    obtain ⟨known, plain⟩ := ih tokens
    exact ⟨known, fun mark listed => plain mark ((mem_cons.mp listed).resolve_left nofun)⟩
  | trailing later ih =>
    obtain ⟨known, plain⟩ := ih tokens
    exact ⟨known, fun mark listed => plain mark ((mem_cons.mp listed).resolve_left nofun)⟩
  | blank gap later ih =>
    obtain ⟨known, plain⟩ := ih tokens
    exact ⟨known, fun mark listed => plain mark ((mem_cons.mp listed).resolve_left nofun)⟩

variable (body : Literal) {mark : Char}

theorem plain_slash (plain : isPlain mark = true) : mark ≠ '/' := by
  rintro rfl
  cases plain

theorem quoted_spells {text raw : List Char} (spells : SpellsText text (raw ++ ['"']) []) :
    Json.Quoted text raw := by
  obtain ⟨whole, split, known⟩ := spellsText_split spells
  rw [append_cancel_right split]
  exact known

theorem Literal.quoted : Json.Quoted body.text body.raw :=
  quoted_spells (body.spelled [])

theorem Literal.line : '\n' ∉ body.raw := by
  intro listed
  have printed := body.quoted.printed _ listed
  exact absurd printed (by decide)

theorem isGap_plain (gap : isGap mark = true) : isPlain mark = true := by
  simp [isPlain, gap]

theorem written_literal (rest : List Piece) :
    written (.literal body :: rest) = '"' :: (body.raw ++ '"' :: written rest) := by
  simp [written, Piece.written, Runtime.quoted]

theorem isPlain_closer (closes : isCloser mark = true) : isPlain mark = true := by
  simp only [isCloser, Bool.or_eq_true, decide_eq_true_eq] at closes
  rcases closes with rfl | rfl <;> rfl

/-- The text goes on at the line end behind a comment. -/
theorem dropWhile_note {text : List Char} {rest : List Piece} (line : '\n' ∉ text)
    (ended : EndsLine rest) : (text ++ written rest).dropWhile (· ≠ '\n') = written rest := by
  rw [dropWhile_append_of_pos]
  · unfold EndsLine at ended
    split at ended
    · rfl
    · rw [ended]
      rfl
    · rw [ended]
      rfl
    · cases ended
  · intro mark listed
    have other : mark ≠ '\n' := by
      rintro rfl
      exact line listed
    simp [other]

/-- Without two slashes in a literal the pass erases the comments only. -/
theorem sub_written (woven : Woven behind pieces) (plain : PlainLetters pieces)
    (free : ∀ body ∈ literals pieces, Slashless body.raw) :
    sub commentLength [] (written pieces) = uncommented pieces := by
  have single {mark : Char} (other : mark ≠ '/') (rest : List Char) :=
    sub_keep (commentLength_other other rest)
  induction woven with
  | done => rfl
  | @letter mark rest unquoted later ih =>
    have other := plain_slash (plain mark mem_cons_self)
    exact (single other (written rest)).trans (congrArg _ (ih plain.tail free))
  | @closer mark rest closes later ih =>
    have other := plain_slash (plain mark mem_cons_self)
    exact (single other (written rest)).trans (congrArg _ (ih plain.tail free))
  | @literal rest body later ih =>
    have here := free body mem_cons_self
    have others := ih plain.tail fun other listed => free other (mem_cons_of_mem _ listed)
    rw [written_literal, single (by decide), here.sub, others]
    simp [uncommented, Piece.uncommented, Piece.written, Runtime.quoted]
  | @note behind text rest line ended later ih =>
    have shape : written (.note text :: rest) = '/' :: '/' :: (text ++ written rest) := rfl
    rw [shape, sub_comment, dropWhile_note line ended, ih plain.tail free]
    rfl
  | @trailing rest later ih =>
    exact (single (by decide) (written rest)).trans (congrArg _ (ih plain.tail free))
  | @blank mark rest gap later ih =>
    have other := plain_slash (isGap_plain gap)
    exact (single other (written rest)).trans (congrArg _ (ih plain.tail free))

end

section

/-- Letters without a plain quote only change the state of the count. -/
theorem quotesFrom_front {start : Bool} {front behind : List Char}
    (none : quotesFrom start (front ++ behind) = 0) :
    ∃ state, ∀ rest, quotesFrom start (front ++ rest) = quotesFrom state rest := by
  induction front generalizing start with
  | nil => exact ⟨start, fun _ => rfl⟩
  | cons letter front ih =>
    cases start with
    | true => exact ih none
    | false =>
      rw [cons_append, quotesFrom] at none
      split_ifs at none with escape quote
      · obtain ⟨state, same⟩ := ih none
        refine ⟨state, fun rest => ?_⟩
        rw [cons_append, quotesFrom, if_pos escape]
        exact same rest
      · obtain ⟨state, same⟩ := ih none
        refine ⟨state, fun rest => ?_⟩
        rw [cons_append, quotesFrom_other escape quote]
        exact same rest

/-- A line starts behind the letters of a cut literal. -/
theorem quotesFrom_cut {text raw front : List Char} (body : Json.Quoted text raw)
    (begins : front <+: raw) {rest : List Char} (line : rest = [] ∨ rest.head? = some '\n') :
    quotesFrom false (front ++ rest) = quotesFrom false rest := by
  obtain ⟨behind, split⟩ := begins
  have none := body.unquoted
  rw [← split] at none
  obtain ⟨state, same⟩ := quotesFrom_front none
  rw [same]
  rcases line with empty | started
  · rw [empty, quotesFrom, quotesFrom]
  · obtain ⟨tail, shape⟩ := head?_eq_some_iff.mp started
    rw [shape]
    cases state with
    | false => rfl
    | true => rfl

/-- The pass over the commas keeps the quotes. -/
theorem quotesFrom_sub (letters : List Char) :
    ∀ start, quotesFrom start (sub trailingLength [] letters) = quotesFrom start letters := by
  induction length : letters.length using Nat.strong_induction_on generalizing letters with
  | _ count ih =>
    intro start
    cases letters with
    | nil => rfl
    | cons letter rest =>
      rw [length_cons] at length
      rcases trailing_cases letter rest with missed | ⟨spaces, mark, tail, trailing⟩
      · have later := ih rest.length (by omega) rest rfl
        rw [sub_keep missed]
        cases start with
        | true => exact later false
        | false =>
          rw [quotesFrom, quotesFrom, later, later]
      · have shorter : tail.length < count := by
          have lengths := congrArg List.length trailing.split
          rw [length_append, length_cons] at lengths
          omega
        have later := ih tail.length shorter tail rfl
        have plain {other : Char} (unescaped : other ≠ '\\') (unquoted : other ≠ '"')
            (start : Bool) (rest : List Char) :
            quotesFrom start (other :: rest) = quotesFrom false rest := by
          cases start with
          | true => rfl
          | false => exact quotesFrom_other unescaped unquoted rest
        have closer (start : Bool) (rest : List Char) :
            quotesFrom start (mark :: rest) = quotesFrom false rest := by
          apply plain
          · rintro rfl
            cases trailing.closes
          · rintro rfl
            cases trailing.closes
        have skipped : quotesFrom false (spaces ++ mark :: tail) = quotesFrom false tail := by
          have white := trailing.white
          clear trailing
          induction spaces with
          | nil => exact closer false tail
          | cons space spaces ih =>
            have filled := white space mem_cons_self
            rw [cons_append, quotesFrom_other]
            · exact ih fun other listed => white other (mem_cons_of_mem _ listed)
            · rintro rfl
              cases filled
            · rintro rfl
              cases filled
        rw [trailing.sub, sub_closer trailing.closes, closer, later, trailing.comma,
          plain (by decide) (by decide), trailing.split, skipped]

variable {behind : Bool} {pieces : List Piece}

/-- The pieces from the next line on. -/
theorem dropWhile_written (woven : Woven behind pieces) :
    ∃ flag later, Woven flag later ∧ later <:+ pieces ∧
      (written pieces).dropWhile (· ≠ '\n') = written later := by
  have passed {letters : List Char} (line : '\n' ∉ letters) (rest : List Char) :
      (letters ++ rest).dropWhile (· ≠ '\n') = rest.dropWhile (· ≠ '\n') := by
    apply dropWhile_append_of_pos
    intro mark listed
    have other : mark ≠ '\n' := by
      rintro rfl
      exact line listed
    simp [other]
  have stopped (rest : List Char) : ('\n' :: rest).dropWhile (· ≠ '\n') = '\n' :: rest := rfl
  induction woven with
  | done => exact ⟨false, [], .done, suffix_rfl, rfl⟩
  | @letter mark rest unquoted woven ih =>
    obtain ⟨flag, later, known, part, same⟩ := ih
    by_cases line : mark = '\n'
    · exact ⟨false, _, .letter unquoted woven, suffix_rfl, by rw [line]; exact stopped _⟩
    · have single : '\n' ∉ [mark] := by simpa using Ne.symm line
      exact ⟨flag, later, known, part.trans (suffix_cons _ _),
        (passed single (written rest)).trans same⟩
  | @closer mark rest closes woven ih =>
    obtain ⟨flag, later, known, part, same⟩ := ih
    have single : '\n' ∉ [mark] := by
      rw [mem_singleton]
      rintro rfl
      cases closes
    exact ⟨flag, later, known, part.trans (suffix_cons _ _),
      (passed single (written rest)).trans same⟩
  | @literal rest body woven ih =>
    obtain ⟨flag, later, known, part, same⟩ := ih
    have letters : '\n' ∉ Runtime.quoted body.raw := by simp [Runtime.quoted, body.line]
    exact ⟨flag, later, known, part.trans (suffix_cons _ _),
      (passed letters (written rest)).trans same⟩
  | @note behind text rest line ended woven ih =>
    obtain ⟨flag, later, known, part, same⟩ := ih
    have letters : '\n' ∉ '/' :: '/' :: text := by simp [line]
    exact ⟨flag, later, known, part.trans (suffix_cons _ _),
      (passed letters (written rest)).trans same⟩
  | @trailing rest woven ih =>
    obtain ⟨flag, later, known, part, same⟩ := ih
    have single : '\n' ∉ [','] := by decide
    exact ⟨flag, later, known, part.trans (suffix_cons _ _),
      (passed single (written rest)).trans same⟩
  | @blank mark rest gap woven ih =>
    obtain ⟨flag, later, known, part, same⟩ := ih
    by_cases line : mark = '\n'
    · exact ⟨true, _, .blank gap woven, suffix_rfl, by rw [line]; exact stopped _⟩
    · have single : '\n' ∉ [mark] := by simpa using Ne.symm line
      exact ⟨flag, later, known, part.trans (suffix_cons _ _),
        (passed single (written rest)).trans same⟩

theorem quotesFrom_plain {mark : Char} (plain : isPlain mark = true) (rest : List Char) :
    quotesFrom false (mark :: rest) = quotesFrom false rest := by
  apply quotesFrom_other
  · rintro rfl
    cases plain
  · rintro rfl
    cases plain

/-- Some literal holds two slashes. -/
def Broken (pieces : List Piece) : Prop := ∃ body ∈ literals pieces, ¬ Slashless body.raw

/-- The pass over the comments leaves two quotes a literal at most, and fewer behind a cut. -/
structure Counted (pieces : List Piece) : Prop where
  atMost : quotesFrom false (sub commentLength [] (written pieces)) ≤ 2 * (literals pieces).length
  fewer : Broken pieces →
    quotesFrom false (sub commentLength [] (written pieces)) < 2 * (literals pieces).length

theorem Counted.same {pieces rest : List Piece} (counted : Counted rest)
    (shared : literals pieces = literals rest)
    (kept : quotesFrom false (sub commentLength [] (written pieces)) =
      quotesFrom false (sub commentLength [] (written rest))) : Counted pieces := by
  constructor
  · rw [kept, shared]
    exact counted.atMost
  · rintro ⟨body, listed, broken⟩
    rw [kept, shared]
    exact counted.fewer ⟨body, shared ▸ listed, broken⟩

theorem Counted.plain {mark : Char} {piece : Piece} {rest : List Piece} (counted : Counted rest)
    (shape : written (piece :: rest) = mark :: written rest)
    (shared : literals (piece :: rest) = literals rest) (plain : isPlain mark = true) :
    Counted (piece :: rest) := by
  apply counted.same shared
  rw [shape, sub_keep (commentLength_other (plain_slash plain) _), quotesFrom_plain plain]

theorem Counted.literal {body : Literal} {rest later : List Piece} (counted : Counted rest)
    (below : Counted later) (part : later <:+ rest)
    (dropped : (written rest).dropWhile (· ≠ '\n') = written later) :
    Counted (.literal body :: rest) := by
  have lengths : (literals (.literal body :: rest)).length = (literals rest).length + 1 := rfl
  have quote (letters : List Char) :
      quotesFrom false ('"' :: letters) = quotesFrom false letters + 1 := rfl
  have start (letters : List Char) := sub_keep (commentLength_other (by decide : '"' ≠ '/') letters)
  by_cases free : Slashless body.raw
  · have count : quotesFrom false (sub commentLength [] (written (.literal body :: rest))) =
        quotesFrom false (sub commentLength [] (written rest)) + 2 := by
      rw [written_literal, start, free.sub, quote, quotesFrom_text (body.spelled _)]
    have atMost := counted.atMost
    refine ⟨by omega, ?_⟩
    rintro ⟨other, listed, broken⟩
    rcases mem_cons.mp listed with here | there
    · rw [here] at broken
      exact absurd free broken
    · have fewer := counted.fewer ⟨other, there, broken⟩
      omega
  · obtain ⟨front, begins, same⟩ := sub_broken free body.line (written rest)
    have line : sub commentLength [] (written later) = [] ∨
        (sub commentLength [] (written later)).head? = some '\n' := by
      rw [← dropped]
      cases behind : (written rest).dropWhile (· ≠ '\n') with
      | nil => exact Or.inl rfl
      | cons mark tail =>
        have occupied : (written rest).dropWhile (· ≠ '\n') ≠ [] := by
          rw [behind]
          exact cons_ne_nil mark tail
        have stopped := head_dropWhile_not _ occupied
        simp only [behind, head_cons] at stopped
        have feed : mark = '\n' := by simpa using stopped
        rw [feed, sub_keep (commentLength_other (by decide) tail)]
        exact Or.inr rfl
    have count : quotesFrom false (sub commentLength [] (written (.literal body :: rest))) =
        quotesFrom false (sub commentLength [] (written later)) + 1 := by
      rw [written_literal, start, same, dropped, quote, quotesFrom_cut body.quoted begins line]
    have atMost := below.atMost
    have fewer : (literals later).length ≤ (literals rest).length :=
      (part.sublist.filterMap _).length_le
    exact ⟨by omega, fun _ => by omega⟩

theorem counted_woven (woven : Woven behind pieces) (plain : PlainLetters pieces) :
    Counted pieces := by
  induction length : pieces.length using Nat.strong_induction_on generalizing behind pieces with
  | _ count ih =>
    have tail {piece : Piece} {flag : Bool} {rest : List Piece} (shape : pieces = piece :: rest)
        (later : Woven flag rest) : Counted rest := by
      rw [shape] at plain length
      exact ih rest.length (by rw [← length, length_cons]; omega) later plain.tail rfl
    cases woven with
    | done => exact ⟨Nat.zero_le _, fun ⟨_, listed, _⟩ => absurd listed not_mem_nil⟩
    | letter unquoted later =>
      exact (tail rfl later).plain rfl rfl (plain _ mem_cons_self)
    | closer closes later => exact (tail rfl later).plain rfl rfl (isPlain_closer closes)
    | @literal rest body later =>
      obtain ⟨flag, below, known, part, dropped⟩ := dropWhile_written later
      have shorter : below.length < count := by
        have bound := part.length_le
        rw [length_cons] at length
        omega
      have others : PlainLetters below := fun mark listed =>
        plain mark (mem_cons_of_mem _ (part.subset listed))
      exact (tail rfl later).literal (ih below.length shorter known others rfl) part dropped
    | @note _ text rest line ended later =>
      have shape : written (.note text :: rest) = '/' :: '/' :: (text ++ written rest) := rfl
      have kept : sub commentLength [] (written (.note text :: rest)) =
          sub commentLength [] (written rest) := by
        rw [shape, sub_comment, dropWhile_note line ended]
      have shared : literals (.note text :: rest) = literals rest := rfl
      exact (tail rfl later).same shared (congrArg _ kept)
    | trailing later =>
      have comma : isPlain ',' = true := rfl
      exact (tail rfl later).plain rfl rfl comma
    | blank gap later => exact (tail rfl later).plain rfl rfl (isGap_plain gap)

end

theorem isCode_other {mark : Char} (code : isCode mark = true) :
    mark ≠ ',' ∧ Text.isSpace mark = false := by
  constructor
  · rintro rfl
    exact absurd code (by decide)
  · exact isSpace_printed (isCode_bounds code).1 (isCode_bounds code).2

theorem sub_codes {taken : List Char} (codes : ∀ mark ∈ taken, isCode mark = true)
    (rest : List Char) :
    sub trailingLength [] (taken ++ rest) = taken ++ sub trailingLength [] rest := by
  induction taken with
  | nil => rfl
  | cons mark taken ih =>
    have other := (isCode_other (codes mark mem_cons_self)).1
    rw [cons_append, sub_keep (trailingLength_other other _),
      ih fun mark listed => codes mark (mem_cons_of_mem _ listed)]
    rfl

/-- A trimmed literal has a shorter text, or it is the same. -/
def Shortened (text raw kept : List Char) : Prop :=
  ∃ inside, (∀ rest, SpellsText inside (kept ++ '"' :: rest) rest) ∧
    inside.length ≤ text.length ∧ (inside.length = text.length → kept = raw)

theorem Shortened.spelled {text raw kept : List Char} (shortened : Shortened text raw kept)
    (letter : Char) (front : List Char) (spells : ∀ {inside letters rest : List Char},
      SpellsText inside letters rest → SpellsText (letter :: inside) (front ++ letters) rest) :
    Shortened (letter :: text) (front ++ raw) (front ++ kept) := by
  obtain ⟨inside, known, bound, same⟩ := shortened
  refine ⟨letter :: inside, fun rest => ?_, Nat.succ_le_succ bound, fun lengths => ?_⟩
  · rw [append_assoc]
    exact spells (known rest)
  · rw [same (Nat.succ.inj lengths)]

theorem spells_plain {letter : Char} {text letters rest : List Char} (unescaped : letter ≠ '\\')
    (unquoted : letter ≠ '"') (spells : SpellsText text (letter :: letters) rest) :
    ∃ inside, text = letter :: inside ∧ SpellsText inside letters rest := by
  cases spells with
  | done => exact absurd rfl unquoted
  | plain _ _ _ later => exact ⟨_, rfl, later⟩
  | short _ _ => exact absurd rfl unescaped
  | coded _ _ => exact absurd rfl unescaped

theorem spells_spaces {spaces text letters rest : List Char}
    (white : ∀ letter ∈ spaces, Text.isSpace letter = true)
    (spells : SpellsText text (spaces ++ letters) rest) :
    ∃ inside, text = spaces ++ inside ∧ SpellsText inside letters rest := by
  induction spaces generalizing text with
  | nil => exact ⟨text, rfl, spells⟩
  | cons space spaces ih =>
    have filled := white space mem_cons_self
    have unescaped : space ≠ '\\' := by
      rintro rfl
      cases filled
    have unquoted : space ≠ '"' := by
      rintro rfl
      cases filled
    obtain ⟨inside, same, later⟩ := spells_plain unescaped unquoted spells
    obtain ⟨deep, shape, behind⟩ :=
      ih (fun other listed => white other (mem_cons_of_mem _ listed)) later
    exact ⟨deep, by rw [same, shape]; rfl, behind⟩

/-- The pass makes the text of a literal shorter, or it keeps the literal. -/
theorem shortened_sub {text raw : List Char} (spells : SpellsText text (raw ++ ['"']) []) :
    Shortened text raw (sub trailingLength [] raw) := by
  induction length : raw.length using Nat.strong_induction_on generalizing text raw with
  | _ count ih =>
    cases raw with
    | nil =>
      have quote : SpellsText text ['"'] [] := spells
      cases quote with
      | done => exact ⟨[], fun rest => .done, Nat.le_refl _, fun _ => rfl⟩
      | plain _ _ unquoted _ => exact absurd rfl unquoted
    | cons letter raw =>
      rw [length_cons] at length
      rcases trailing_cases letter raw with missed | ⟨spaces, mark, tail, trailing⟩
      · rw [sub_keep missed]
        rw [cons_append] at spells
        generalize whole : raw ++ ['"'] = letters at spells
        cases spells with
        | done =>
          have lengths := congrArg List.length whole
          simp at lengths
        | plain printed unescaped unquoted later =>
          rw [← whole] at later
          have kept := ih raw.length (by omega) later rfl
          exact kept.spelled letter [letter] fun known =>
            .plain printed unescaped unquoted known
        | @short mark found inside behind _ known later =>
          cases raw with
          | nil =>
            rw [← (List.cons.inj whole).2] at later
            cases later
          | cons next raw =>
            obtain ⟨here, rests⟩ := List.cons.inj whole
            rw [length_cons] at length
            rw [← rests] at later
            rw [← here] at known
            have kept := ih raw.length (by omega) later rfl
            have other : next ≠ ',' := by
              rintro rfl
              cases known
            rw [sub_keep (trailingLength_other other raw)]
            exact kept.spelled found ['\\', next] fun body => .short known body
        | @coded found inside digits behind _ known later =>
          cases raw with
          | nil =>
            obtain ⟨same, _⟩ := List.cons.inj whole
            cases same
          | cons next raw =>
            obtain ⟨here, rests⟩ := List.cons.inj whole
            rw [length_cons] at length
            obtain ⟨taken, split, coded, reads⟩ := readEscaped_split known
            obtain ⟨core, shape, _⟩ := spellsText_split later
            have joined : raw ++ ['"'] = (taken ++ core) ++ ['"'] := by
              rw [append_assoc, ← shape, ← split]
              exact rests
            have same := append_cancel_right joined
            have shorter : core.length < count := by
              have lengths := congrArg List.length same
              rw [length_append] at lengths
              omega
            rw [shape] at later
            have kept := ih core.length shorter later rfl
            rw [here, same, sub_keep (trailingLength_other (by decide) _), sub_codes coded.codes]
            exact kept.spelled found ('\\' :: 'u' :: taken) fun body =>
              .coded (reads _) body
      · obtain ⟨inside, same, later⟩ := spells_plain (by rw [trailing.comma]; decide)
          (by rw [trailing.comma]; decide) spells
        have joined : SpellsText inside (spaces ++ ((mark :: tail) ++ ['"'])) [] := by
          rw [← append_assoc, ← trailing.split]
          exact later
        obtain ⟨deep, shape, behind⟩ := spells_spaces trailing.white joined
        have shorter : (mark :: tail).length < count := by
          have lengths := congrArg List.length trailing.split
          rw [length_append] at lengths
          omega
        obtain ⟨found, spelled, bound, _⟩ := ih (mark :: tail).length shorter behind rfl
        have less : deep.length < text.length := by
          rw [same, shape, length_cons, length_append]
          omega
        rw [trailing.sub]
        exact ⟨found, spelled, by omega, fun lengths => by omega⟩

section
variable {flag : Bool} {behind : Bool} {pieces : List Piece} {texts kept : List (List Char)}

/-- The trimmed literals have less text, or the pass over the commas keeps them. -/
theorem tokens_trimmed (woven : Woven behind pieces)
    (tokens : Tokens flag (trimmed pieces) kept) :
    (kept.map List.length).sum ≤ ((literals pieces).map fun body => body.text.length).sum ∧
      ((kept.map List.length).sum = ((literals pieces).map fun body => body.text.length).sum →
        ∀ body ∈ literals pieces, sub trailingLength [] body.raw = body.raw) := by
  induction woven generalizing flag kept with
  | done =>
    cases tokens
    exact ⟨Nat.le_refl _, fun _ body listed => absurd listed not_mem_nil⟩
  | letter unquoted later ih =>
    obtain ⟨next, after, _⟩ := tokens_letter unquoted tokens
    exact ih after
  | @closer mark rest closes later ih =>
    have unquoted : mark ≠ '"' := by
      rintro rfl
      cases closes
    obtain ⟨next, after, _⟩ := tokens_letter unquoted tokens
    exact ih after
  | @literal rest body later ih =>
    obtain ⟨inside, spells, bound, same⟩ := shortened_sub (body.spelled [])
    have shape : Tokens _ (Runtime.quoted (sub trailingLength [] body.raw) ++ trimmed rest) _ :=
      tokens
    obtain ⟨others, whole, after⟩ := tokens_literal spells shape
    obtain ⟨atMost, equal⟩ := ih after
    have total : ((literals (.literal body :: rest)).map fun body => body.text.length).sum =
        body.text.length + ((literals rest).map fun body => body.text.length).sum := rfl
    rw [total, whole, map_cons, sum_cons]
    refine ⟨by omega, fun lengths other listed => ?_⟩
    rcases mem_cons.mp listed with here | there
    · rw [here]
      exact same (by omega)
    · exact equal (by omega) other there
  | note line ended later ih => exact ih tokens
  | trailing later ih => exact ih tokens
  | blank gap later ih => exact ih tokens

/-- A file with this content has a serialization of the object behind comments and trailing
commas. -/
structure Obtained (content : List Char) (pieces : List Piece) (value : Json) : Prop where
  lines : Text.universalNewlines content = written pieces
  woven : Woven false pieces
  object : value.isObject = true
  reads : loads (source pieces) = some value
  strict : SpellsDocument True value (source pieces)

/-- A literal without two slashes and without a comma before a bracket. -/
structure Literal.Untouched (body : Literal) : Prop where
  slashes : Slashless body.raw
  commas : ∀ spaces mark, (∀ letter ∈ spaces, Text.isSpace letter = true) →
    isCloser mark = true → ¬ (',' :: (spaces ++ [mark])) <:+: body.raw

theorem Literal.Untouched.sub {body : Literal} (untouched : body.Untouched) :
    Rewriting.sub trailingLength [] body.raw = body.raw := by
  have commas := untouched.commas
  generalize body.raw = raw at commas
  induction raw with
  | nil => rfl
  | cons letter raw ih =>
    rcases trailing_cases letter raw with missed | ⟨spaces, mark, tail, trailing⟩
    · rw [sub_keep missed]
      refine congrArg _ (ih fun spaces mark white closes inside => ?_)
      exact commas spaces mark white closes
        (inside.trans (suffix_cons letter raw).isInfix)
    · refine absurd ?_ (commas spaces mark trailing.white trailing.closes)
      rw [trailing.comma, trailing.split]
      exact ⟨[], tail, by simp⟩

theorem Literal.untouched_iff (body : Literal) : body.Untouched ↔
    Slashless body.raw ∧ Rewriting.sub trailingLength [] body.raw = body.raw := by
  constructor
  · intro untouched
    exact ⟨untouched.slashes, untouched.sub⟩
  · rintro ⟨slashes, same⟩
    use slashes
    rintro spaces mark white closes ⟨front, back, split⟩
    have shape : body.raw = front ++ ',' :: (spaces ++ mark :: back) := by
      rw [← split]
      simp
    have matched : trailingLength (',' :: (spaces ++ mark :: back)) = spaces.length + 1 :=
      trailingLength_closes white closes
    rw [sub_self same shape] at matched
    cases matched

/-- The host reads the object and takes its identity. -/
structure Faithful (content : List Char) (value : Json) : Prop where
  config : readConfig (some content) = value
  identity : ∀ environment effective,
    discoverIdentity environment effective (readConfig (some content)) =
      discoverIdentity environment effective value

variable {content : List Char} {value : Json}

theorem readConfig_eq (obtained : Obtained content pieces value) : readConfig (some content) =
      ((loads (sub trailingLength [] (sub commentLength [] (written pieces)))).filter
        isObject).getD (.obj []) := by
  rw [readConfig, obtained.lines]

theorem readConfig_untouched (obtained : Obtained content pieces value)
    (untouched : ∀ body ∈ literals pieces, body.Untouched) :
    readConfig (some content) = value := by
  obtain ⟨texts, tokens, _⟩ := tokens_document obtained.strict
  obtain ⟨_, plain⟩ := tokens_woven obtained.woven tokens
  have first := sub_written obtained.woven plain fun body listed => (untouched body listed).slashes
  have second := sub_uncommented obtained.woven tokens
  have whole : trimmed pieces = source pieces := by
    have each : ∀ piece ∈ pieces, piece.trimmed = piece.source := by
      intro piece listed
      cases piece with
      | literal body =>
        have known : body ∈ literals pieces := mem_filterMap.mpr ⟨_, listed, rfl⟩
        rw [Piece.trimmed, (untouched body known).sub, Piece.source]
      | _ => rfl
    rw [trimmed, source, flatMap_def, flatMap_def, map_congr_left each]
  rw [readConfig_eq obtained, first, second, whole, obtained.reads,
    Option.filter_some_pos obtained.object, Option.getD_some]

theorem untouched_readConfig
    (obtained : Obtained content pieces value) (read : readConfig (some content) = value) :
    ∀ body ∈ literals pieces, body.Untouched := by
  obtain ⟨texts, tokens, weighs⟩ := tokens_document obtained.strict
  obtain ⟨same, plain⟩ := tokens_woven obtained.woven tokens
  have counts := weighs.exact trivial fun _ => 1
  have lengths := weighs.exact trivial List.length
  have number : weigh (fun _ => 1) value = (literals pieces).length := by
    rw [← counts, same, map_map]
    simp [Function.comp_def]
  intro body listed
  have occupied : value ≠ .obj [] := by
    rintro rfl
    have none : (literals pieces).length = 0 := number.symm
    rw [length_eq_zero_iff.mp none] at listed
    cases listed
  rw [readConfig_eq obtained] at read
  have loaded : loads (sub trailingLength [] (sub commentLength [] (written pieces))) =
      some value := by
    cases found : (loads (sub trailingLength [] (sub commentLength [] (written pieces)))).filter
        isObject with
    | none =>
      rw [found] at read
      exact absurd read.symm occupied
    | some other =>
      rw [found, Option.getD_some] at read
      rw [read] at found
      exact (Option.filter_eq_some_iff.mp found).1
  obtain ⟨kept, row, heavy⟩ := tokens_document (spells_loads loaded)
  have quotes := quotesFrom_tokens row
  rw [quotesFrom_sub] at quotes
  have counted := counted_woven obtained.woven plain
  have least := heavy.atLeast fun _ => 1
  have size : (kept.map fun _ => 1).sum = kept.length := by simp
  have free : ∀ other ∈ literals pieces, Slashless other.raw := by
    intro other known
    by_contra broken
    have fewer := counted.fewer ⟨other, known, broken⟩
    omega
  rw [sub_written obtained.woven plain free, sub_uncommented obtained.woven tokens] at row
  obtain ⟨atMost, equal⟩ := tokens_trimmed obtained.woven row
  have long := heavy.atLeast List.length
  have total : (texts.map List.length).sum =
      ((literals pieces).map fun body => body.text.length).sum := by
    rw [same, map_map]
    rfl
  exact body.untouched_iff.mpr ⟨free body listed, equal (by omega) body listed⟩

/-- The host reads a configuration exactly when the passes touch none of its literals. -/
theorem faithful_iff {content : List Char} {value : Json}
    (obtained : Obtained content pieces value) :
    Faithful content value ↔ ∀ body ∈ literals pieces, body.Untouched := by
  constructor
  · intro faithful
    exact untouched_readConfig obtained faithful.config
  · intro untouched
    have read := readConfig_untouched obtained untouched
    exact ⟨read, fun environment effective => by rw [read]⟩

end

/-- A literal without escapes. -/
def plainLiteral (raw : List Char)
    (plain : ∀ letter ∈ raw, 32 ≤ letter.toNat ∧ letter ≠ '\\' ∧ letter ≠ '"') : Literal where
  raw := raw
  text := raw
  spelled rest := by
    induction raw with
    | nil => exact .done
    | cons letter raw ih =>
      obtain ⟨printed, unescaped, unquoted⟩ := plain letter mem_cons_self
      exact .plain printed unescaped unquoted
        (ih fun other listed => plain other (mem_cons_of_mem _ listed))

def baseUrl : Literal := plainLiteral "baseURL".toList (by simp)

/-- The configuration names its address. -/
def addressPieces (address : Literal) : List Piece :=
  [.letter '\x7b', .literal baseUrl, .letter ':', .literal address, .letter '\x7d']

def addressConfig (address : Literal) : Json :=
  .obj [("baseURL", .str (String.ofList address.text))]

theorem address_obtained {address : Literal} {content : List Char} {pieces : List Piece}
    (lines : Text.universalNewlines content = written pieces) (woven : Woven false pieces)
    (shared : source pieces = source (addressPieces address))
    (reads : loads (source pieces) = some (addressConfig address)) :
    Obtained content pieces (addressConfig address) := by
  have letters : source (addressPieces address) = '\x7b' :: '"' :: (baseUrl.raw ++ '"' :: ':' ::
      '"' :: (address.raw ++ ['"', '\x7d'])) := by
    simp [source, addressPieces, Piece.source, quoted]
  have value : Spells True (.str (String.ofList address.text))
      ('"' :: (address.raw ++ ['"', '\x7d'])) ['\x7d'] := .text (address.spelled ['\x7d'])
  have fields : SpellsFields True [("baseURL", .str (String.ofList address.text))]
      ('"' :: (baseUrl.raw ++ '"' :: ':' :: '"' :: (address.raw ++ ['"', '\x7d']))) [] :=
    .last (baseUrl.spelled _) rfl value rfl
  have distinct : [("baseURL", Json.str (String.ofList address.text))].map Prod.fst |>.Nodup :=
    nodup_singleton _
  have whole : Spells True (addressConfig address) ('\x7b' :: '"' :: (baseUrl.raw ++ '"' :: ':' ::
      '"' :: (address.raw ++ ['"', '\x7d']))) [] := .fields fields fun _ => distinct
  refine ⟨lines, woven, rfl, reads, [], ?_, rfl⟩
  rw [shared, letters]
  exact whole

def schemeAddress : Literal := plainLiteral "https://host".toList (by simp)

/-- An address with a scheme empties the configuration. -/
theorem address_emptied :
    Obtained (source (addressPieces schemeAddress)) (addressPieces schemeAddress)
      (addressConfig schemeAddress) ∧
      readConfig (some (source (addressPieces schemeAddress))) = .obj [] ∧
        ¬ Faithful (source (addressPieces schemeAddress)) (addressConfig schemeAddress) := by
  have lost : readConfig (some (source (addressPieces schemeAddress))) = .obj [] := by
    decide +kernel
  refine ⟨address_obtained (by decide +kernel) (.letter (by decide) (.literal _ (.letter (by decide)
    (.literal _ (.letter (by decide) .done))))) rfl (by decide +kernel), lost, ?_⟩
  intro faithful
  have read := faithful.config
  rw [lost] at read
  cases read

/-- A comment and a trailing comma stand behind this address. -/
def notedPieces : List Piece :=
  [.letter '\x7b', .literal baseUrl, .letter ':',
    .literal (plainLiteral "host".toList (by simp)), .trailing, .letter '\x7d',
    .note "local".toList]

theorem noted_faithful : Faithful (written notedPieces)
      (addressConfig (plainLiteral "host".toList (by simp))) ↔
    ∀ body ∈ literals notedPieces, body.Untouched :=
  faithful_iff (address_obtained (by decide +kernel) (.letter (by decide) (.literal _
    (.letter (by decide) (.literal _ (.trailing (.closer rfl (.note (by decide) trivial
      .done))))))) rfl (by decide +kernel))

end Runtime
end KSlide
