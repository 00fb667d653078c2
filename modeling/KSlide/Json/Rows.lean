import KSlide.Json.Spaced

/-
This file gives the lines of a stream of rows when a row can hold letters that end a line.
-/

namespace Text
open List

/-- A letter that ends a line is cut out with what stands before it. -/
theorem splitLines_break {line : List Char} (unbroken : ∀ letter ∈ line, isBreak letter = false)
    {letter : Char} (broken : isBreak letter = true) (other : letter ≠ '\r') (rest : List Char) :
    splitLines (line ++ letter :: rest) = line :: splitLines rest := by
  induction line with
  | nil =>
    rw [nil_append, splitLines, if_pos broken]
    intro _ same
    exact absurd same other
  | cons first line ih =>
    have later := ih fun letter listed => unbroken letter (mem_cons_of_mem _ listed)
    rw [cons_append, splitLines_cons (unbroken first mem_cons_self), later]

variable {letters : List Char} {letter : Char}

theorem splitLines_ne_nil (occupied : letters ≠ []) : splitLines letters ≠ [] := by
  fun_cases splitLines letters with
  | case1 => exact absurd rfl occupied
  | case2 rest => simp
  | case3 letter rest _ broken => simp
  | case4 letter rest _ unbroken empty => simp
  | case5 letter rest _ unbroken line lines split => simp

/-- The lines of a text that does not end with a break are kept before a newline. -/
theorem splitLines_lines (absent : '\r' ∉ letters) (last : Char)
    (unbroken : isBreak last = false) (rest : List Char) :
    splitLines (letters ++ last :: '\n' :: rest) =
      splitLines (letters ++ [last]) ++ splitLines rest := by
  induction letters with
  | nil =>
    have ends : splitLines [last] = [[last]] := by
      rw [splitLines_cons unbroken]
      rfl
    rw [nil_append, nil_append, ends, splitLines_cons unbroken, splitLines_newline]
    rfl
  | cons letter letters ih =>
    have later := ih fun listed => absent (mem_cons_of_mem _ listed)
    have other : letter ≠ '\r' := fun same => absent (same ▸ mem_cons_self)
    rw [cons_append, cons_append]
    cases broken : isBreak letter with
    | true =>
      have cut (rest : List Char) : splitLines (letter :: rest) = [] :: splitLines rest :=
        splitLines_break (fun _ listed => absurd listed not_mem_nil) broken other rest
      rw [cut, cut, later, cons_append]
    | false =>
      rw [splitLines_cons broken, splitLines_cons broken, later]
      have occupied : splitLines (letters ++ [last]) ≠ [] := splitLines_ne_nil (by simp)
      obtain ⟨line, lines, split⟩ := exists_cons_of_ne_nil occupied
      rw [split]
      rfl

theorem mem_splitLines (listed : letter ∈ letters)
    (unbroken : isBreak letter = false) : ∃ line ∈ splitLines letters, letter ∈ line := by
  fun_induction splitLines letters with
  | case1 => cases listed
  | case2 rest ih =>
    have other (control : Char) (broken : isBreak control = true) : letter ≠ control := by
      rintro rfl
      rw [broken] at unbroken
      cases unbroken
    rw [mem_cons, mem_cons] at listed
    rcases listed with same | same | listed
    · exact absurd same (other _ rfl)
    · exact absurd same (other _ rfl)
    · obtain ⟨line, kept, present⟩ := ih listed
      exact ⟨line, mem_cons_of_mem _ kept, present⟩
  | case3 first rest _ broken ih =>
    rcases mem_cons.mp listed with rfl | listed
    · rw [broken] at unbroken
      cases unbroken
    · obtain ⟨line, kept, present⟩ := ih listed
      exact ⟨line, mem_cons_of_mem _ kept, present⟩
  | case4 first rest _ _ empty ih =>
    rcases mem_cons.mp listed with rfl | listed
    · exact ⟨_, mem_cons_self, mem_cons_self⟩
    · obtain ⟨line, kept, _⟩ := ih listed
      rw [empty] at kept
      cases kept
  | case5 first rest _ _ line lines split ih =>
    rcases mem_cons.mp listed with rfl | listed
    · exact ⟨_, mem_cons_self, mem_cons_self⟩
    · obtain ⟨other, kept, present⟩ := ih listed
      rw [split] at kept
      rcases mem_cons.mp kept with rfl | kept
      · exact ⟨_, mem_cons_self, mem_cons_of_mem _ present⟩
      · exact ⟨other, mem_cons_of_mem _ kept, present⟩

/-- A reader that skips blank lines takes the filled ones. -/
def filledLines (letters : List Char) : List (List Char) :=
  (splitLines letters).filter fun line => !line.all isSpace

theorem isSpace_of_isBreak (broken : isBreak letter = true) : isSpace letter = true := by
  simp only [isBreak, isSpace, Bool.or_eq_true, Bool.and_eq_true, decide_eq_true_eq,
    beq_iff_eq] at broken ⊢
  omega

theorem isBreak_of_isSpace (filled : isSpace letter = false) : isBreak letter = false := by
  cases broken : isBreak letter with
  | true => rw [isSpace_of_isBreak broken] at filled; cases filled
  | false => rfl

theorem filledLines_pos (listed : letter ∈ letters)
    (filled : isSpace letter = false) : 0 < (filledLines letters).length := by
  obtain ⟨line, kept, present⟩ := mem_splitLines listed (isBreak_of_isSpace filled)
  apply length_pos_of_mem (a := line)
  rw [filledLines, mem_filter]
  refine ⟨kept, ?_⟩
  rw [Bool.not_eq_true', all_eq_false]
  exact ⟨letter, present, by simp [filled]⟩

/-- The first break of a text stands after letters that end no line. -/
theorem exists_first_break {broken : Char} (listed : broken ∈ letters)
    (cut : isBreak broken = true) : ∃ before found after, letters = before ++ found :: after ∧
      isBreak found = true ∧ ∀ letter ∈ before, isBreak letter = false := by
  have some := find?_isSome.mpr ⟨broken, listed, cut⟩
  obtain ⟨found, first⟩ := Option.isSome_iff_exists.mp some
  obtain ⟨ends, before, after, split, clear⟩ := find?_eq_some_iff_append.mp first
  exact ⟨before, found, after, split, ends, fun letter kept => by simpa using clear letter kept⟩

/-- A break between two letters that are no space gives a second filled line. -/
theorem filledLines_break {first last : Char}
    (absent : '\r' ∉ letters) (begins : isSpace first = false) (ends : isSpace last = false)
    {broken : Char} (listed : broken ∈ letters) (cut : isBreak broken = true) :
    1 < (filledLines (first :: (letters ++ [last]))).length := by
  obtain ⟨before, found, after, rfl, found_cut, clear⟩ := exists_first_break listed cut
  have other : found ≠ '\r' := fun same => absent (by simp [same])
  have unbroken : ∀ letter ∈ first :: before, isBreak letter = false :=
    forall_mem_cons.mpr ⟨isBreak_of_isSpace begins, clear⟩
  have later : 0 < (filledLines (after ++ [last])).length := filledLines_pos (by simp) ends
  have shape : first :: (before ++ found :: after ++ [last]) =
      first :: before ++ found :: (after ++ [last]) := by simp
  rw [shape, filledLines, splitLines_break unbroken found_cut other, filter_cons,
    if_pos (by simp [begins]), length_cons]
  exact Nat.succ_lt_succ later

theorem filledLines_flatMap {Row : Type} {encode : Row → List Char} {rows : List Row}
    (absent : ∀ row ∈ rows, '\r' ∉ encode row)
    (ends : ∀ row ∈ rows, ∃ letters last, encode row = letters ++ [last] ∧ isBreak last = false) :
    filledLines (rows.flatMap fun row => encode row ++ ['\n']) =
      rows.flatMap fun row => filledLines (encode row) := by
  induction rows with
  | nil => rfl
  | cons row rows ih =>
    have later := ih (fun row listed => absent row (mem_cons_of_mem _ listed))
      fun row listed => ends row (mem_cons_of_mem _ listed)
    obtain ⟨letters, last, shape, unbroken⟩ := ends row mem_cons_self
    have clear : '\r' ∉ letters := fun listed =>
      absent row mem_cons_self (by rw [shape]; exact mem_append_left _ listed)
    rw [flatMap_cons, flatMap_cons, ← later, shape]
    simp only [filledLines, append_assoc, cons_append, nil_append]
    rw [splitLines_lines clear last unbroken, filter_append]

end Text

namespace Json
open Text List

/-- The letters are no control letters and stand in one line exactly when a source does. -/
structure Written (letters : List Char) (single : Prop) : Prop where
  printable : ∀ letter ∈ letters, 32 ≤ letter.toNat
  unbroken : (∀ letter ∈ letters, isBreak letter = false) ↔ single

namespace Written

theorem nil : Written [] True where
  printable := fun _ listed => absurd listed not_mem_nil
  unbroken := ⟨fun _ => trivial, fun _ _ listed => absurd listed not_mem_nil⟩

theorem append {first later : List Char} {firstSingle laterSingle : Prop}
    (left : Written first firstSingle) (right : Written later laterSingle) :
    Written (first ++ later) (firstSingle ∧ laterSingle) where
  printable := forall_mem_append.mpr ⟨left.printable, right.printable⟩
  unbroken := by rw [forall_mem_append, left.unbroken, right.unbroken]

variable {letter : Char} {letters : List Char} {single : Prop}

theorem cons (basic : 32 ≤ letter.toNat ∧ letter.toNat ≤ 126) (written : Written letters single) :
    Written (letter :: letters) single where
  printable := forall_mem_cons.mpr ⟨basic.1, written.printable⟩
  unbroken := by
    have unbroken : isBreak letter = false := by
      simp only [isBreak]
      grind
    rw [forall_mem_cons, written.unbroken]
    exact ⟨fun both => both.2, fun single => ⟨unbroken, single⟩⟩

theorem of_basic (basic : ∀ letter ∈ letters, 32 ≤ letter.toNat ∧ letter.toNat ≤ 126) :
    Written letters True := by
  induction letters with
  | nil => exact nil
  | cons letter letters ih =>
    obtain ⟨first, later⟩ := forall_mem_cons.mp basic
    exact cons first (ih later)

theorem close (written : Written letters single) (basic : 32 ≤ letter.toNat ∧ letter.toNat ≤ 126) :
    Written (letters ++ [letter]) single := by
  have last : Written [letter] True := cons basic nil
  have both := written.append last
  rwa [and_true] at both

/-- A gap follows each separator. -/
theorem after (written : Written letters single) (basic : 32 ≤ letter.toNat ∧ letter.toNat ≤ 126) :
    Written (letter :: ' ' :: letters) single :=
  cons basic (cons (by decide) written)

theorem of_check
    (basic : letters.all (fun letter => 32 ≤ letter.toNat && letter.toNat ≤ 126) = true) :
    Written letters True := by
  apply of_basic
  simpa using basic

theorem congr {single other : Prop} (written : Written letters single)
    (same : single ↔ other) : Written letters other where
  printable := written.printable
  unbroken := written.unbroken.trans same

end Written

theorem oneLine_of_all {text : String} (all : text.toList.all (!isBreak ·) = true) :
    OneLine text :=
  fun letter listed _ => unbroken_of_all all letter listed

/-- Only a letter that the writer leaves as it is can end a line. -/
theorem written_escape (letter : Char) :
    Written (escape letter) (32 ≤ letter.toNat → isBreak letter = false) := by
  have basic : ∀ value < 16, 32 ≤ (hexDigit value).toNat ∧ (hexDigit value).toNat ≤ 126 := by
    decide
  have plain {letters : List Char}
      (printed : letters.all (fun letter => 32 ≤ letter.toNat && letter.toNat ≤ 126) = true)
      (kept : 32 ≤ letter.toNat → isBreak letter = false) :
      Written letters (32 ≤ letter.toNat → isBreak letter = false) :=
    (Written.of_check printed).congr ⟨fun _ => kept, fun _ => trivial⟩
  unfold escape
  split_ifs with quote slash newline carriage tab back form control
  · exact plain (by decide) fun _ => by rw [quote]; rfl
  · exact plain (by decide) fun _ => by rw [slash]; rfl
  · exact plain (by decide) fun large => absurd large (by rw [newline]; decide)
  · exact plain (by decide) fun large => absurd large (by rw [carriage]; decide)
  · exact plain (by decide) fun large => absurd large (by rw [tab]; decide)
  · exact plain (by decide) fun large => by omega
  · exact plain (by decide) fun large => by omega
  · have high := basic (letter.toNat / 16) (by omega)
    have low := basic (letter.toNat % 16) (by omega)
    refine plain ?_ fun large => by omega
    simpa using ⟨high, low⟩
  · constructor
    · rw [forall_mem_singleton]
      omega
    · rw [forall_mem_singleton]
      exact ⟨fun kept _ => kept, fun kept => kept (by omega)⟩

theorem written_dumpsText (text : String) : Written (dumpsText text) (OneLine text) := by
  have letters (source : List Char) : Written (source.flatMap escape)
      (∀ letter ∈ source, 32 ≤ letter.toNat → isBreak letter = false) := by
    induction source with
    | nil => exact Written.nil.congr (by simp)
    | cons letter source ih =>
      rw [flatMap_cons]
      have both := (written_escape letter).append ih
      exact both.congr (by rw [forall_mem_cons])
  exact Written.cons (by decide) ((letters text.toList).close (by decide))

theorem isDigit_basic {letter : Char} (digit : Text.isDigit letter = true) :
    32 ≤ letter.toNat ∧ letter.toNat ≤ 126 := by
  simp only [Text.isDigit, Bool.and_eq_true, decide_eq_true_eq, Char.le_def,
    UInt32.le_iff_toNat_le] at digit
  have low : 48 ≤ letter.toNat := digit.1
  have high : letter.toNat ≤ 57 := digit.2
  omega

theorem written_int (value : Int) : Written (dumpsChars (.int value)) True := by
  have digits (magnitude : Nat) : Written (Nat.toDigits 10 magnitude) True :=
    Written.of_basic fun _ listed => isDigit_basic (isDigit_toDigits listed)
  rw [dumpsChars_int]
  split_ifs
  · exact digits _
  · exact Written.cons (by decide) (digits _)

theorem realShape_basic {text : List Char} (real : RealShape text) :
    ∀ letter ∈ text, 32 ≤ letter.toNat ∧ letter.toNat ≤ 126 := by
  obtain ⟨sign, digits, fraction, exponent, rfl, signed, ⟨_, all⟩, _, point, power, _⟩ := real.shape
  rw [forall_mem_append, forall_mem_append, forall_mem_append]
  refine ⟨?_, fun letter listed => isDigit_basic (all letter listed), ?_, ?_⟩
  · rcases signed with rfl | rfl
    · exact fun _ listed => absurd listed not_mem_nil
    · rw [forall_mem_singleton]
      decide
  · rcases point with rfl | ⟨later, rfl, _, later_digits⟩
    · exact fun _ listed => absurd listed not_mem_nil
    · rw [forall_mem_cons]
      exact ⟨by decide, fun letter listed => isDigit_basic (later_digits letter listed)⟩
  · rcases power with rfl | ⟨mark, later, rfl, marked, _, later_digits⟩
    · exact fun _ listed => absurd listed not_mem_nil
    · rw [forall_mem_cons, forall_mem_cons]
      refine ⟨by decide, ?_, fun letter listed => isDigit_basic (later_digits letter listed)⟩
      rcases marked with rfl | rfl <;> decide

mutual
/-- The default text of a finite value has a break exactly when a text of the value has one. -/
theorem written_spaced (value : Json) (finite : value.Finite) :
    Written (spacedChars value) value.SingleLine := by
  cases value with
  | null => exact Written.of_check (by decide)
  | bool value => cases value <;> exact Written.of_check (by decide)
  | int value => exact written_int value
  | real text =>
    have basic := realShape_basic finite
    have written := Written.of_basic basic
    have single : SingleLine (.real text) :=
      ⟨fun letter listed _ => written.unbroken.mpr trivial letter listed,
        fun letter listed => (basic letter listed).1⟩
    exact written.congr ⟨fun _ => single, fun _ => trivial⟩
  | str text => exact written_dumpsText text
  | arr items =>
    exact Written.cons (by decide) ((written_spacedItems items finite).close (by decide))
  | obj fields =>
    exact Written.cons (by decide) ((written_spacedFields fields finite).close (by decide))

theorem written_spacedItems (items : List Json) (finite : FiniteItems items) :
    Written (spacedItems items) (SingleLineItems items) := by
  have comma : 32 ≤ ','.toNat ∧ ','.toNat ≤ 126 := by decide
  cases items with
  | nil => exact Written.nil
  | cons value items =>
    have first := written_spaced value finite.1
    have later := written_spacedItems items finite.2
    cases items with
    | nil => exact first.congr (by rw [SingleLineItems, SingleLineItems, and_true])
    | cons next items =>
      rw [spacedItems_cons]
      exact first.append (later.after comma)

theorem written_spacedFields (fields : List (String × Json)) (finite : FiniteFields fields) :
    Written (spacedFields fields) (SingleLineFields fields) := by
  have comma : 32 ≤ ','.toNat ∧ ','.toNat ≤ 126 := by decide
  have colon : 32 ≤ ':'.toNat ∧ ':'.toNat ≤ 126 := by decide
  cases fields with
  | nil => exact Written.nil
  | cons field fields =>
    obtain ⟨key, value⟩ := field
    have name := written_dumpsText key
    have first := written_spaced value finite.1
    have later := written_spacedFields fields finite.2
    cases fields with
    | nil =>
      have pair := name.append (first.after colon)
      exact pair.congr (by rw [SingleLineFields, SingleLineFields, and_true])
    | cons next fields =>
      rw [spacedFields_cons]
      have rest := first.append (later.after comma)
      exact name.append (rest.after colon)
end

end Json
