import KSlide.Json.Value
import KSlide.Text.Patterns
import Mathlib.Data.String.Basic

/-
This file gives the reader of JSON text and proves that it inverts the writer.
-/

namespace Json
open List

def isGap (letter : Char) : Bool :=
  letter = ' ' || letter = '\t' || letter = '\n' || letter = '\r'

def skipGaps (letters : List Char) : List Char := letters.dropWhile isGap

def hexValue (letter : Char) : Option Nat :=
  if '0' ≤ letter ∧ letter ≤ '9' then some (letter.toNat - 48)
  else if 'a' ≤ letter ∧ letter ≤ 'f' then some (letter.toNat - 87)
  else if 'A' ≤ letter ∧ letter ≤ 'F' then some (letter.toNat - 55)
  else none

/-- Four hexadecimal digits are one code unit. -/
def readUnit : List Char → Option (Nat × List Char)
  | a :: b :: c :: d :: rest => do
    let a ← hexValue a
    let b ← hexValue b
    let c ← hexValue c
    let d ← hexValue d
    return (((a * 16 + b) * 16 + c) * 16 + d, rest)
  | _ => none

/-- A high surrogate needs the low surrogate after it. -/
def readEscaped (letters : List Char) : Option (Char × List Char) := do
  let (unit, rest) ← readUnit letters
  if 0xD800 ≤ unit ∧ unit < 0xDC00 then
    match rest with
    | '\\' :: 'u' :: rest =>
      let (low, rest) ← readUnit rest
      if 0xDC00 ≤ low ∧ low < 0xE000 then
        return (Char.ofNat (0x10000 + (unit - 0xD800) * 0x400 + (low - 0xDC00)), rest)
      else none
    | _ => none
  else if 0xDC00 ≤ unit ∧ unit < 0xE000 then none
  else return (Char.ofNat unit, rest)

def unescape : Char → Option Char
  | '"' => some '"'
  | '\\' => some '\\'
  | '/' => some '/'
  | 'b' => some (Char.ofNat 8)
  | 'f' => some (Char.ofNat 12)
  | 'n' => some '\n'
  | 'r' => some '\r'
  | 't' => some '\t'
  | _ => none

/-- A text holds escapes and letters that are no control letters. -/
def readLetter : List Char → Option (Char × List Char)
  | [] => none
  | '\\' :: 'u' :: rest => readEscaped rest
  | '\\' :: letter :: rest => (unescape letter).map fun letter => (letter, rest)
  | letter :: rest => if letter.toNat < 32 ∨ letter = '\\' then none else some (letter, rest)

/-- A text ends with its first plain quote. -/
def readText : Nat → List Char → Option (List Char × List Char)
  | 0, _ => none
  | _ + 1, '"' :: rest => some ([], rest)
  | fuel + 1, letters => do
    let (letter, rest) ← readLetter letters
    let (text, rest) ← readText fuel rest
    return (letter :: text, rest)

def readExponent : List Char → List Char × List Char
  | mark :: sign :: rest =>
    if mark = 'e' ∨ mark = 'E' then
      if sign = '+' ∨ sign = '-' then
        let (digits, after) := Text.takeDigits rest
        if digits = [] then ([], mark :: sign :: rest) else (mark :: sign :: digits, after)
      else
        let (digits, after) := Text.takeDigits (sign :: rest)
        if digits = [] then ([], mark :: sign :: rest) else (mark :: digits, after)
    else ([], mark :: sign :: rest)
  | rest => ([], rest)

def readFraction : List Char → List Char × List Char
  | '.' :: rest =>
    let (digits, after) := Text.takeDigits rest
    if digits = [] then ([], '.' :: rest) else ('.' :: digits, after)
  | rest => ([], rest)

/-- A number without a fraction and an exponent is an integer. -/
def readMagnitude (negative : Bool) (letters : List Char) : Option (Json × List Char) :=
  let (digits, rest) := Text.takeDigits letters
  if digits = [] ∨ (digits.head? = some '0' ∧ digits ≠ ['0']) then none
  else
    let (fraction, rest) := readFraction rest
    let (exponent, rest) := readExponent rest
    if fraction = [] ∧ exponent = [] then
      let magnitude : Nat := Nat.ofDigitChars 10 digits 0
      some (.int (if negative then -magnitude else magnitude), rest)
    else
      let text := (if negative then ['-'] else []) ++ digits ++ fraction ++ exponent
      some (.real (String.ofList text), rest)

def readNumber : List Char → Option (Json × List Char)
  | '-' :: rest => readMagnitude true rest
  | letters => readMagnitude false letters

/-- The words of the grammar come before the numbers. -/
def words : List (List Char × Json) :=
  [("null".toList, .null), ("true".toList, .bool true), ("false".toList, .bool false),
    ("NaN".toList, .real "NaN"), ("Infinity".toList, .real "Infinity"),
    ("-Infinity".toList, .real "-Infinity")]

def readScalar (letters : List Char) : Option (Json × List Char) :=
  match words.find? fun word => word.1.isPrefixOf letters with
  | some word => some (word.2, letters.drop word.1.length)
  | none => readNumber letters

/-- A field of an object stands in the order of the keys, and a later field replaces an earlier. -/
def insertField (key : String) (value : Json) : List (String × Json) → List (String × Json)
  | [] => [(key, value)]
  | (other, found) :: fields =>
    if key < other then (key, value) :: (other, found) :: fields
    else if key = other then (key, value) :: fields
    else (other, found) :: insertField key value fields

def collect (fields : List (String × Json)) : Json :=
  .obj (fields.foldl (fun fields field => insertField field.1 field.2 fields) [])

mutual
def readValue : Nat → List Char → Option (Json × List Char)
  | 0, _ => none
  | _ + 1, '"' :: rest => do
    let (text, rest) ← readText rest.length rest
    return (.str (String.ofList text), rest)
  | fuel + 1, '[' :: rest =>
    match skipGaps rest with
    | ']' :: rest => some (.arr [], rest)
    | rest => do
      let (items, rest) ← readItems fuel rest
      return (.arr items, rest)
  | fuel + 1, '\x7b' :: rest =>
    match skipGaps rest with
    | '\x7d' :: rest => some (.obj [], rest)
    | rest => do
      let (fields, rest) ← readFields fuel rest
      return (collect fields, rest)
  | _ + 1, letters => readScalar letters

def readItems : Nat → List Char → Option (List Json × List Char)
  | 0, _ => none
  | fuel + 1, letters => do
    let (value, rest) ← readValue fuel letters
    match skipGaps rest with
    | ',' :: rest =>
      let (items, rest) ← readItems fuel (skipGaps rest)
      return (value :: items, rest)
    | ']' :: rest => return ([value], rest)
    | _ => none

def readFields : Nat → List Char → Option (List (String × Json) × List Char)
  | fuel + 1, '"' :: rest => do
    let (key, rest) ← readText rest.length rest
    match skipGaps rest with
    | ':' :: rest =>
      let (value, rest) ← readValue fuel (skipGaps rest)
      match skipGaps rest with
      | ',' :: rest =>
        let (fields, rest) ← readFields fuel (skipGaps rest)
        return ((String.ofList key, value) :: fields, rest)
      | '\x7d' :: rest => return ([(String.ofList key, value)], rest)
      | _ => none
    | _ => none
  | _, _ => none
end

/-- A document is one value between white space. -/
def loads (letters : List Char) : Option Json :=
  match readValue (2 * letters.length) (skipGaps letters) with
  | some (value, rest) => if skipGaps rest = [] then some value else none
  | none => none

/-- A number ends before a separator, a line feed or at the end of the text. -/
def Ends : List Char → Prop
  | [] => True
  | letter :: _ => letter = ',' ∨ letter = ']' ∨ letter = '\x7d' ∨ letter = '\n'

/-- The digits end before a letter that is no digit. -/
theorem takeDigits_stop {digits rest : List Char}
    (all : ∀ letter ∈ digits, Text.isDigit letter = true)
    (stop : ∀ letter ∈ rest.head?, Text.isDigit letter = false) :
    Text.takeDigits (digits ++ rest) = (digits, rest) := by
  induction digits with
  | nil =>
    cases rest with
    | nil => rfl
    | cons letter rest =>
      have other := stop letter rfl
      simp [Text.takeDigits, other]
  | cons letter digits ih =>
    have first := all letter mem_cons_self
    have later := ih fun letter listed => all letter (mem_cons_of_mem _ listed)
    simp [Text.takeDigits, first, later]

theorem ends_head {rest : List Char} (ends : Ends rest) :
    ∀ letter ∈ rest.head?, Text.isDigit letter = false := by
  intro letter listed
  cases rest with
  | nil => cases listed
  | cons first rest =>
    cases listed
    rcases ends with rfl | rfl | rfl | rfl <;> rfl

theorem takeDigits_append {digits rest : List Char}
    (all : ∀ letter ∈ digits, Text.isDigit letter = true) (ends : Ends rest) :
    Text.takeDigits (digits ++ rest) = (digits, rest) :=
  takeDigits_stop all (ends_head ends)

theorem readFraction_ends {rest : List Char} (ends : Ends rest) : readFraction rest = ([], rest) := by
  cases rest with
  | nil => rfl
  | cons letter rest => rcases ends with rfl | rfl | rfl | rfl <;> rfl

theorem readExponent_ends {rest : List Char} (ends : Ends rest) : readExponent rest = ([], rest) := by
  rcases rest with _ | ⟨letter, _ | ⟨other, rest⟩⟩
  · rfl
  · rfl
  · rcases ends with rfl | rfl | rfl | rfl <;> rfl

theorem isDigit_toDigits {value : Nat} {letter : Char} (listed : letter ∈ Nat.toDigits 10 value) :
    Text.isDigit letter = true := by
  have digit := Nat.isDigit_of_mem_toDigits (by decide) (by decide) listed
  simpa [Text.isDigit, Char.isDigit, Char.le_def] using digit

/-- Only zero is written with a leading zero. -/
theorem head_toDigits {value : Nat} (positive : 0 < value) :
    (Nat.toDigits 10 value).head? ≠ some '0' := by
  induction value using Nat.strong_induction_on with
  | _ value ih =>
    by_cases small : value < 10
    · rw [Nat.toDigits_of_lt_base small]
      simp only [head?_cons, ne_eq, Option.some.injEq, Nat.digitChar_eq_zero]
      omega
    · rw [Nat.toDigits_of_base_le (by decide) (by omega)]
      have smaller := ih (value / 10) (by omega) (by omega)
      rw [head?_append]
      cases found : (Nat.toDigits 10 (value / 10)).head? with
      | none => simp [Nat.toDigits_ne_nil] at found
      | some letter => simpa [found] using smaller

theorem readMagnitude_toDigits (negative : Bool) (value : Nat) {rest : List Char}
    (ends : Ends rest) : readMagnitude negative (Nat.toDigits 10 value ++ rest) =
      some (.int (if negative then -value else value), rest) := by
  have decimal : ∀ letter ∈ Nat.toDigits 10 value, Text.isDigit letter = true := by
    intro letter listed
    exact isDigit_toDigits listed
  have digits := takeDigits_append decimal ends
  have leading : ¬(Nat.toDigits 10 value = [] ∨
      ((Nat.toDigits 10 value).head? = some '0' ∧ Nat.toDigits 10 value ≠ ['0'])) := by
    rintro (empty | ⟨zero, other⟩)
    · exact Nat.toDigits_ne_nil empty
    · rcases Nat.eq_zero_or_pos value with rfl | positive
      · exact other (Nat.toDigits_zero 10)
      · exact head_toDigits positive zero
  rw [readMagnitude, digits]
  simp only [if_neg leading, readFraction_ends ends, readExponent_ends ends,
    Nat.ofDigitChars_ten_toDigits]
  simp

theorem hexValue_hexDigit {value : Nat} (small : value < 16) :
    hexValue (hexDigit value) = some value := by
  have all : ∀ value < 16, hexValue (hexDigit value) = some value := by decide
  exact all value small

/-- The reader inverts the escape of one letter. -/
theorem readLetter_escape (letter : Char) (rest : List Char) :
    readLetter (escape letter ++ rest) = some (letter, rest) := by
  unfold escape
  split_ifs with quote slash newline carriage tab back form control
  · rw [quote]
    rfl
  · rw [slash]
    rfl
  · rw [newline]
    rfl
  · rw [carriage]
    rfl
  · rw [tab]
    rfl
  · have same : Char.ofNat 8 = letter := back ▸ Char.ofNat_toNat letter
    rw [← same]
    rfl
  · have same : Char.ofNat 12 = letter := form ▸ Char.ofNat_toNat letter
    rw [← same]
    rfl
  · have high := hexValue_hexDigit (show letter.toNat / 16 < 16 by omega)
    have low := hexValue_hexDigit (show letter.toNat % 16 < 16 by omega)
    have zero : hexValue '0' = some 0 := rfl
    have whole : letter.toNat / 16 * 16 + letter.toNat % 16 = letter.toNat := by omega
    simp only [cons_append, nil_append, readLetter, readEscaped, readUnit, zero, high,
      low, Option.bind_eq_bind, Option.bind_some, pure, Nat.zero_mul, Nat.zero_add, whole]
    rw [if_neg (by omega), if_neg (by omega), Char.ofNat_toNat]
  · rw [singleton_append]
    unfold readLetter
    split
    · rename_i heq
      simp at heq
    · rename_i heq
      exact absurd (List.cons.inj heq).1 slash
    · rename_i heq
      exact absurd (List.cons.inj heq).1 slash
    · rename_i heq
      obtain ⟨rfl, rfl⟩ := List.cons.inj heq
      rw [if_neg]
      rintro (small | same)
      · exact control small
      · exact slash same

/-- No escape begins with a plain quote. -/
theorem escape_cons (letter : Char) : ∃ first later, escape letter = first :: later ∧ first ≠ '"' := by
  unfold escape
  split_ifs with quote <;> exact ⟨_, _, rfl, by first | decide | exact quote⟩

theorem readText_dumps (text rest : List Char) {fuel : Nat} (enough : text.length < fuel) :
    readText fuel (text.flatMap escape ++ '"' :: rest) = some (text, rest) := by
  induction text generalizing fuel with
  | nil =>
    cases fuel with
    | zero => omega
    | succ fuel => rfl
  | cons letter text ih =>
    cases fuel with
    | zero => omega
    | succ fuel =>
      have later := @ih fuel (by simpa using enough)
      obtain ⟨first, tail, shape, other⟩ := escape_cons letter
      have read := readLetter_escape letter (text.flatMap escape ++ '"' :: rest)
      rw [flatMap_cons, append_assoc]
      rw [shape, cons_append] at read ⊢
      rw [readText]
      · simp only [read, later, Option.bind_eq_bind, Option.bind_some, pure]
      · intro _ same
        exact other (List.cons.inj same).1

theorem length_flatMap_escape (text : List Char) : text.length ≤ (text.flatMap escape).length := by
  induction text with
  | nil => simp
  | cons letter text ih =>
    obtain ⟨first, later, shape, _⟩ := escape_cons letter
    rw [flatMap_cons, shape]
    simp only [length_append, length_cons]
    omega

theorem readText_dumpsText (text : String) (rest : List Char) :
    readText ((text.toList.flatMap escape ++ ['"']) ++ rest).length
      ((text.toList.flatMap escape ++ ['"']) ++ rest) = some (text.toList, rest) := by
  have bound := length_flatMap_escape text.toList
  rw [append_assoc]
  apply readText_dumps
  simp only [length_append, length_cons, length_nil]
  omega

mutual
/-- A plain value holds no number with a fraction. -/
def Plain : Json → Prop
  | .real _ => False
  | .arr items => PlainItems items
  | .obj fields => PlainFields fields
  | _ => True

def PlainItems : List Json → Prop
  | [] => True
  | value :: rest => Plain value ∧ PlainItems rest

def PlainFields : List (String × Json) → Prop
  | [] => True
  | (_, value) :: rest => Plain value ∧ PlainFields rest
end

theorem dumpsChars_int (value : Int) : dumpsChars (.int value) =
    if 0 ≤ value then Nat.toDigits 10 value.toNat else '-' :: Nat.toDigits 10 (-value).toNat := by
  rw [dumpsChars, Int.toString_eq_repr, Int.repr_eq_if]
  split_ifs
  · exact Nat.toList_repr
  · rw [String.toList_append, Nat.toList_repr]
    rfl

theorem toDigits_cons (value : Nat) :
    ∃ first rest, Nat.toDigits 10 value = first :: rest ∧ Text.isDigit first = true := by
  cases shape : Nat.toDigits 10 value with
  | nil => exact absurd shape Nat.toDigits_ne_nil
  | cons first rest => exact ⟨first, rest, rfl, isDigit_toDigits (shape ▸ mem_cons_self)⟩

theorem readNumber_int (value : Int) {rest : List Char} (ends : Ends rest) :
    readNumber (dumpsChars (.int value) ++ rest) = some (.int value, rest) := by
  rw [dumpsChars_int]
  split_ifs with nonneg
  · obtain ⟨first, later, shape, digit⟩ := toDigits_cons value.toNat
    have read := readMagnitude_toDigits false value.toNat ends
    rw [shape, cons_append] at read ⊢
    rw [readNumber]
    · rw [read, if_neg (by decide), Int.toNat_of_nonneg nonneg]
    · intro _ same
      rw [(List.cons.inj same).1] at digit
      cases digit
  · have negative : -((-value).toNat : Int) = value := by omega
    rw [cons_append, readNumber, readMagnitude_toDigits true _ ends, if_pos rfl, negative]

/-- A word of the grammar does not begin like an integer. -/
theorem words_number {word : List Char × Json} (listed : word ∈ words) {digits : List Char}
    (first : ∃ letter rest, digits = letter :: rest ∧ Text.isDigit letter = true) :
    ¬word.1 <+: digits ∧ ¬word.1 <+: '-' :: digits := by
  obtain ⟨letter, rest, rfl, digit⟩ := first
  simp only [words, mem_cons, not_mem_nil, or_false] at listed
  constructor
  · rintro ⟨tail, same⟩
    rcases listed with rfl | rfl | rfl | rfl | rfl | rfl <;>
      · rw [← (List.cons.inj same).1] at digit
        cases digit
  · rintro ⟨tail, same⟩
    rcases listed with rfl | rfl | rfl | rfl | rfl | rfl
    case inr.inr.inr.inr.inr =>
      rw [← (List.cons.inj (List.cons.inj same).2).1] at digit
      cases digit
    all_goals exact absurd (List.cons.inj same).1 (by decide)

theorem readScalar_int (value : Int) {rest : List Char} (ends : Ends rest) :
    readScalar (dumpsChars (.int value) ++ rest) = some (.int value, rest) := by
  have begins (magnitude : Nat) : ∃ letter later, Nat.toDigits 10 magnitude ++ rest =
      letter :: later ∧ Text.isDigit letter = true := by
    obtain ⟨first, later, shape, digit⟩ := toDigits_cons magnitude
    exact ⟨first, later ++ rest, by rw [shape, cons_append], digit⟩
  have other : words.find? (fun word => word.1.isPrefixOf (dumpsChars (.int value) ++ rest)) =
      none := by
    rw [find?_eq_none]
    intro word listed
    rw [List.isPrefixOf_iff_prefix, dumpsChars_int]
    split_ifs
    · exact (words_number listed (begins _)).1
    · exact (words_number listed (begins _)).2
  rw [readScalar, other]
  exact readNumber_int value ends

/-- A field with a later key stands after the other fields. -/
theorem insertField_last {fields : List (String × Json)} {key : String} (value : Json)
    (before : ∀ field ∈ fields, field.1 < key) :
    insertField key value fields = fields ++ [(key, value)] := by
  induction fields with
  | nil => rfl
  | cons field fields ih =>
    have first := before field mem_cons_self
    rw [insertField, if_neg (lt_asymm first), if_neg (ne_of_gt first),
      ih fun field listed => before field (mem_cons_of_mem _ listed)]
    rfl

theorem foldl_insertField {done fields : List (String × Json)}
    (sorted : ((done ++ fields).map Prod.fst).Pairwise (· < ·)) :
    fields.foldl (fun fields field => insertField field.1 field.2 fields) done = done ++ fields := by
  induction fields generalizing done with
  | nil => simp
  | cons field fields ih =>
    have before : ∀ other ∈ done, other.1 < field.1 := by
      intro other listed
      rw [map_append, pairwise_append] at sorted
      exact sorted.2.2 other.1 (mem_map_of_mem listed) field.1
        (mem_map_of_mem mem_cons_self)
    rw [foldl_cons, insertField_last field.2 before]
    rw [ih (by simpa using sorted)]
    simp

theorem collect_sorted {fields : List (String × Json)}
    (sorted : (fields.map Prod.fst).Pairwise (· < ·)) : collect fields = .obj fields := by
  rw [collect, foldl_insertField (by simpa using sorted)]
  rfl

theorem dumpsItems_cons (value next : Json) (items : List Json) :
    dumpsItems (value :: next :: items) = dumpsChars value ++ ',' :: dumpsItems (next :: items) := rfl

theorem dumpsFields_cons (key : String) (value : Json) (next : String × Json)
    (fields : List (String × Json)) : dumpsFields ((key, value) :: next :: fields) =
      dumpsText key ++ ':' :: (dumpsChars value ++ ',' :: dumpsFields (next :: fields)) := rfl

theorem readValue_scalar {fuel : Nat} {first : Char} {later : List Char}
    (text : first ≠ '"') (list : first ≠ '[') (object : first ≠ '\x7b') :
    readValue (fuel + 1) (first :: later) = readScalar (first :: later) := by
  rw [readValue]
  · intro _ same
    exact text (List.cons.inj same).1
  · intro _ same
    exact list (List.cons.inj same).1
  · intro _ same
    exact object (List.cons.inj same).1

theorem readValue_int (value : Int) {fuel : Nat} {rest : List Char} (ends : Ends rest) :
    readValue (fuel + 1) (dumpsChars (.int value) ++ rest) = some (.int value, rest) := by
  have read := readScalar_int value ends
  have begins : ∃ first later, dumpsChars (.int value) = first :: later ∧
      first ≠ '"' ∧ first ≠ '[' ∧ first ≠ '\x7b' := by
    rw [dumpsChars_int]
    split_ifs
    · obtain ⟨first, later, shape, digit⟩ := toDigits_cons value.toNat
      refine ⟨first, later, shape, ?_, ?_, ?_⟩ <;>
        · rintro rfl
          cases digit
    · exact ⟨_, _, rfl, by decide, by decide, by decide⟩
  obtain ⟨first, later, shape, text, list, object⟩ := begins
  rw [shape, cons_append] at read ⊢
  rw [readValue_scalar text list object, read]

/-- A printed finite number has a fraction or an exponent. -/
structure RealShape (text : List Char) : Prop where
  shape : ∃ sign digits fraction exponent, text = sign ++ (digits ++ (fraction ++ exponent)) ∧
    (sign = [] ∨ sign = ['-']) ∧
    (digits ≠ [] ∧ ∀ letter ∈ digits, Text.isDigit letter = true) ∧
    (digits.head? = some '0' → digits = ['0']) ∧
    (fraction = [] ∨ ∃ later, fraction = '.' :: later ∧ later ≠ [] ∧
      ∀ letter ∈ later, Text.isDigit letter = true) ∧
    (exponent = [] ∨ ∃ mark later, exponent = 'e' :: mark :: later ∧ (mark = '+' ∨ mark = '-') ∧
      later ≠ [] ∧ ∀ letter ∈ later, Text.isDigit letter = true) ∧
    ¬(fraction = [] ∧ exponent = [])

theorem readExponent_real {exponent rest : List Char} (ends : Ends rest)
    (shape : exponent = [] ∨ ∃ mark later, exponent = 'e' :: mark :: later ∧
      (mark = '+' ∨ mark = '-') ∧ later ≠ [] ∧ ∀ letter ∈ later, Text.isDigit letter = true) :
    readExponent (exponent ++ rest) = (exponent, rest) := by
  rcases shape with rfl | ⟨mark, later, rfl, signed, present, digits⟩
  · exact readExponent_ends ends
  · have taken := takeDigits_stop digits (ends_head ends)
    rw [cons_append, cons_append, readExponent, if_pos (.inl rfl), if_pos signed, taken]
    dsimp only
    rw [if_neg present]

theorem readFraction_real {fraction exponent rest : List Char} (ends : Ends rest)
    (point : fraction = [] ∨ ∃ later, fraction = '.' :: later ∧ later ≠ [] ∧
      ∀ letter ∈ later, Text.isDigit letter = true)
    (power : exponent = [] ∨ ∃ mark later, exponent = 'e' :: mark :: later ∧
      (mark = '+' ∨ mark = '-') ∧ later ≠ [] ∧ ∀ letter ∈ later, Text.isDigit letter = true) :
    readFraction (fraction ++ (exponent ++ rest)) = (fraction, exponent ++ rest) := by
  have stop : ∀ letter ∈ (exponent ++ rest).head?, Text.isDigit letter = false := by
    rcases power with rfl | ⟨mark, later, rfl, -⟩
    · exact ends_head ends
    · intro letter listed
      cases listed
      rfl
  rcases point with rfl | ⟨later, rfl, present, digits⟩
  · rcases power with rfl | ⟨mark, later, rfl, -⟩
    · exact readFraction_ends ends
    · rfl
  · rw [cons_append, readFraction, takeDigits_stop digits stop]
    dsimp only
    rw [if_neg present]

theorem readNumber_real {text rest : List Char} (real : RealShape text) (ends : Ends rest) :
    readNumber (text ++ rest) = some (.real (String.ofList text), rest) := by
  obtain ⟨sign, digits, fraction, exponent, rfl, signed, ⟨present, all⟩, leading, point, power,
    fractional⟩ := real.shape
  have stop : ∀ letter ∈ (fraction ++ (exponent ++ rest)).head?, Text.isDigit letter = false := by
    rcases point with rfl | ⟨later, rfl, -⟩
    · rcases power with rfl | ⟨mark, later, rfl, -⟩
      · exact absurd ⟨rfl, rfl⟩ fractional
      · intro letter listed
        cases listed
        rfl
    · intro letter listed
      cases listed
      rfl
  have magnitude (negative : Bool) :
      readMagnitude negative (digits ++ (fraction ++ (exponent ++ rest))) = some (.real
        (String.ofList ((if negative then ['-'] else []) ++ digits ++ fraction ++ exponent)),
          rest) := by
    unfold readMagnitude
    rw [takeDigits_stop all stop]
    dsimp only
    rw [if_neg, readFraction_real ends point power]
    · dsimp only
      rw [readExponent_real ends power]
      dsimp only
      rw [if_neg fractional]
    · rintro (empty | ⟨zero, other⟩)
      · exact present empty
      · exact other (leading zero)
  rcases signed with rfl | rfl
  · obtain ⟨first, later, rfl⟩ := exists_cons_of_ne_nil present
    have digit := all first mem_cons_self
    have whole := magnitude false
    simp only [nil_append, append_assoc, cons_append] at whole ⊢
    rw [readNumber]
    · rw [whole]
      simp
    · intro _ same
      rw [(List.cons.inj same).1] at digit
      cases digit
  · have whole := magnitude true
    rw [if_pos rfl] at whole
    simp only [append_assoc, cons_append, nil_append] at whole ⊢
    rw [readNumber, whole]

theorem readScalar_real {text rest : List Char} (real : RealShape text) (ends : Ends rest) :
    readScalar (text ++ rest) = some (.real (String.ofList text), rest) := by
  have other : words.find? (fun word => word.1.isPrefixOf (text ++ rest)) = none := by
    obtain ⟨sign, digits, fraction, exponent, rfl, signed, ⟨present, all⟩, -⟩ := real.shape
    obtain ⟨first, later, rfl⟩ := exists_cons_of_ne_nil present
    have begins : ∃ letter others, (first :: later) ++ (fraction ++ exponent) ++ rest =
        letter :: others ∧ Text.isDigit letter = true :=
      ⟨first, _, rfl, all first mem_cons_self⟩
    rw [find?_eq_none]
    intro word listed
    rw [List.isPrefixOf_iff_prefix]
    rcases signed with rfl | rfl
    · exact (words_number listed begins).1
    · exact (words_number listed begins).2
  rw [readScalar, other]
  exact readNumber_real real ends

/-- A printed number begins with a digit or with its sign. -/
theorem realShape_cons {text : List Char} (real : RealShape text) : ∃ first later,
    text = first :: later ∧ (Text.isDigit first = true ∨ first = '-') := by
  obtain ⟨sign, digits, fraction, exponent, rfl, signed, ⟨present, all⟩, -⟩ := real.shape
  obtain ⟨first, later, rfl⟩ := exists_cons_of_ne_nil present
  rcases signed with rfl | rfl
  · exact ⟨first, _, rfl, .inl (all first mem_cons_self)⟩
  · exact ⟨'-', _, rfl, .inr rfl⟩

/-- A letter begins a value when it is neither a gap nor a closing bracket. -/
theorem begins_digit {letter : Char} (digit : Text.isDigit letter = true) :
    isGap letter = false ∧ letter ≠ ']' ∧ letter ≠ '"' ∧ letter ≠ '[' ∧ letter ≠ '\x7b' := by
  refine ⟨?_, ?_, ?_, ?_, ?_⟩
  · by_contra gap
    simp only [isGap, Bool.not_eq_false, Bool.or_eq_true, decide_eq_true_eq] at gap
    rcases gap with ((rfl | rfl) | rfl) | rfl <;> cases digit
  all_goals
    rintro rfl
    cases digit

theorem readValue_real {text : String} (real : RealShape text.toList) {fuel : Nat}
    {rest : List Char} (ends : Ends rest) :
    readValue (fuel + 1) (text.toList ++ rest) = some (.real text, rest) := by
  have read := readScalar_real real ends
  obtain ⟨first, later, shape, begins⟩ := realShape_cons real
  have plain : first ≠ '"' ∧ first ≠ '[' ∧ first ≠ '\x7b' := by
    rcases begins with digit | rfl
    · exact (begins_digit digit).2.2
    · decide
  rw [String.ofList_toList] at read
  rw [shape, cons_append] at read ⊢
  rw [readValue_scalar plain.1 plain.2.1 plain.2.2, read]

/-- The encoder prints a finite number or one of three words. -/
def Numeral (text : String) : Prop :=
  RealShape text.toList ∨ text = "NaN" ∨ text = "Infinity" ∨ text = "-Infinity"

mutual
def Readable : Json → Prop
  | .real text => Numeral text
  | .arr items => ReadableItems items
  | .obj fields => ReadableFields fields
  | _ => True

def ReadableItems : List Json → Prop
  | [] => True
  | value :: rest => Readable value ∧ ReadableItems rest

def ReadableFields : List (String × Json) → Prop
  | [] => True
  | (_, value) :: rest => Readable value ∧ ReadableFields rest
end

theorem readValue_numeral {text : String} (numeral : Numeral text) {fuel : Nat}
    {rest : List Char} (ends : Ends rest) :
    readValue (fuel + 1) (text.toList ++ rest) = some (.real text, rest) := by
  rcases numeral with finite | rfl | rfl | rfl
  · exact readValue_real finite ends
  · rfl
  · rfl
  · rfl

mutual
/-- Two objects are equal when their sorted forms are the same. -/
def sorted : Json → Json
  | .arr items => .arr (sortedItems items)
  | .obj fields => collect (sortedFields fields)
  | .null => .null
  | .bool value => .bool value
  | .int value => .int value
  | .real text => .real text
  | .str text => .str text

def sortedItems : List Json → List Json
  | [] => []
  | value :: rest => sorted value :: sortedItems rest

def sortedFields : List (String × Json) → List (String × Json)
  | [] => []
  | (key, value) :: rest => (key, sorted value) :: sortedFields rest
end

mutual
/-- A canonical value is its sorted form. -/
theorem sorted_canonical (value : Json) (canonical : value.Canonical) : value.sorted = value := by
  cases value with
  | arr items => rw [sorted, sortedItems_canonical items canonical]
  | obj fields =>
    rw [sorted, sortedFields_canonical fields canonical.2, collect_sorted canonical.1]
  | _ => rfl

theorem sortedItems_canonical (items : List Json) (canonical : CanonicalItems items) :
    sortedItems items = items := by
  cases items with
  | nil => rfl
  | cons value items =>
    rw [sortedItems, sorted_canonical value canonical.1, sortedItems_canonical items canonical.2]

theorem sortedFields_canonical (fields : List (String × Json))
    (canonical : CanonicalFields fields) : sortedFields fields = fields := by
  cases fields with
  | nil => rfl
  | cons field fields =>
    obtain ⟨key, value⟩ := field
    rw [sortedFields, sorted_canonical value canonical.1,
      sortedFields_canonical fields canonical.2]
end

/-- A layout puts gaps after the opening brackets, the commas and the colons and before the closing
brackets. -/
structure Layout where
  opening : Nat → List Char
  comma : Nat → List Char
  colon : List Char
  closing : Nat → List Char
  opens : ∀ depth rest, skipGaps (opening depth ++ rest) = skipGaps rest
  continues : ∀ depth rest, skipGaps (comma depth ++ rest) = skipGaps rest
  names : ∀ rest, skipGaps (colon ++ rest) = skipGaps rest
  closes : ∀ depth rest, skipGaps (closing depth ++ rest) = skipGaps rest
  ends : ∀ depth rest, Ends rest → Ends (closing depth ++ rest)

mutual
def laidChars (layout : Layout) (depth : Nat) : Json → List Char
  | .null => dumpsChars .null
  | .bool value => dumpsChars (.bool value)
  | .int value => dumpsChars (.int value)
  | .real text => text.toList
  | .str text => dumpsText text
  | .arr [] => ['[', ']']
  | .arr items => '[' :: (layout.opening (depth + 1) ++
      (laidItems layout (depth + 1) items ++ (layout.closing depth ++ [']'])))
  | .obj [] => ['\x7b', '\x7d']
  | .obj fields => '\x7b' :: (layout.opening (depth + 1) ++
      (laidFields layout (depth + 1) fields ++ (layout.closing depth ++ ['\x7d'])))

def laidItems (layout : Layout) (depth : Nat) : List Json → List Char
  | [] => []
  | [value] => laidChars layout depth value
  | value :: rest =>
    laidChars layout depth value ++ ',' :: (layout.comma depth ++ laidItems layout depth rest)

def laidFields (layout : Layout) (depth : Nat) : List (String × Json) → List Char
  | [] => []
  | [(key, value)] => dumpsText key ++ ':' :: (layout.colon ++ laidChars layout depth value)
  | (key, value) :: rest => dumpsText key ++ ':' :: (layout.colon ++
      (laidChars layout depth value ++ ',' :: (layout.comma depth ++ laidFields layout depth rest)))
end

/-- The letter is the first one of a value. -/
structure Opens (letter : Char) : Prop where
  gap : isGap letter = false
  bracket : letter ≠ ']'

theorem skipGaps_opens {letter : Char} (opening : Opens letter) (rest : List Char) :
    skipGaps (letter :: rest) = letter :: rest := by
  rw [skipGaps, dropWhile_cons_of_neg (by simp [opening.gap])]

section
variable {layout : Layout} {depth : Nat} {value : Json}

theorem laidChars_cons (layout : Layout) (depth : Nat) (readable : value.Readable) :
    ∃ first rest, laidChars layout depth value = first :: rest ∧ Opens first := by
  have digit {letter : Char} (digit : Text.isDigit letter = true) : Opens letter :=
    ⟨(begins_digit digit).1, (begins_digit digit).2.1⟩
  cases value with
  | null => exact ⟨_, _, rfl, rfl, by decide⟩
  | bool value => cases value <;> exact ⟨_, _, rfl, rfl, by decide⟩
  | int value =>
    rw [laidChars, dumpsChars_int]
    split_ifs
    · obtain ⟨first, rest, shape, isDigit⟩ := toDigits_cons value.toNat
      exact ⟨first, rest, shape, digit isDigit⟩
    · exact ⟨_, _, rfl, rfl, by decide⟩
  | real text =>
    rcases readable with finite | rfl | rfl | rfl
    · obtain ⟨first, later, shape, isDigit | rfl⟩ := realShape_cons finite
      · exact ⟨first, later, shape, digit isDigit⟩
      · exact ⟨_, later, shape, rfl, by decide⟩
    all_goals exact ⟨_, _, rfl, rfl, by decide⟩
  | str text => exact ⟨_, _, rfl, rfl, by decide⟩
  | arr items => cases items <;> exact ⟨_, _, rfl, rfl, by decide⟩
  | obj fields => cases fields <;> exact ⟨_, _, rfl, rfl, by decide⟩

theorem laidItems_begin (layout : Layout) (depth : Nat) (items : List Json)
    (readable : value.Readable) :
    ∃ first later, laidItems layout depth (value :: items) = first :: later ∧ Opens first := by
  obtain ⟨first, later, shape, opening⟩ := laidChars_cons layout depth readable
  cases items with
  | nil => exact ⟨first, later, shape, opening⟩
  | cons next items => exact ⟨first, _, by rw [laidItems, shape, cons_append]; simp, opening⟩

theorem laidFields_quote (layout : Layout) (depth : Nat) (field : String × Json)
    (fields : List (String × Json)) :
    ∃ later, laidFields layout depth (field :: fields) = '"' :: later := by
  cases fields with
  | nil => exact ⟨_, rfl⟩
  | cons next fields => exact ⟨_, rfl⟩

theorem skipGaps_laid (readable : value.Readable) (rest : List Char) :
    skipGaps (laidChars layout depth value ++ rest) = laidChars layout depth value ++ rest := by
  obtain ⟨first, later, shape, opening⟩ := laidChars_cons layout depth readable
  rw [shape, cons_append, skipGaps_opens opening]

theorem readValue_laidItems {items read : List Json} {fuel : Nat} {rest : List Char}
    (readable : value.Readable)
    (found : readItems fuel (laidItems layout (depth + 1) (value :: items) ++
      (layout.closing depth ++ ']' :: rest)) = some (read, rest)) :
    readValue (fuel + 1) (laidChars layout depth (.arr (value :: items)) ++ rest) =
      some (.arr read, rest) := by
  obtain ⟨first, later, shape, opening⟩ := laidItems_begin layout (depth + 1) items readable
  rw [laidChars]
  · simp only [cons_append, append_assoc, nil_append]
    rw [readValue, layout.opens]
    rw [shape, cons_append] at found ⊢
    rw [skipGaps_opens opening]
    split
    · rename_i same
      exact absurd (List.cons.inj same).1 opening.bracket
    · simp only [found, Option.bind_eq_bind, Option.bind_some, pure]
  · exact cons_ne_nil _ _

theorem readValue_laidFields {field : String × Json} {fields read : List (String × Json)}
    {fuel : Nat} {rest : List Char}
    (found : readFields fuel (laidFields layout (depth + 1) (field :: fields) ++
      (layout.closing depth ++ '\x7d' :: rest)) = some (read, rest)) :
    readValue (fuel + 1) (laidChars layout depth (.obj (field :: fields)) ++ rest) =
      some (collect read, rest) := by
  obtain ⟨later, shape⟩ := laidFields_quote layout (depth + 1) field fields
  have quote : Opens '"' := ⟨rfl, by decide⟩
  rw [laidChars]
  · simp only [cons_append, append_assoc, nil_append]
    rw [readValue, layout.opens]
    rw [shape, cons_append] at found ⊢
    rw [skipGaps_opens quote]
    split
    · rename_i same
      exact absurd (List.cons.inj same).1 (by decide)
    · simp only [found, Option.bind_eq_bind, Option.bind_some, pure]
  · exact cons_ne_nil _ _

/-- A field is read up to what stands after its value. -/
theorem readFields_named (key : String) (after : List Char) {fuel : Nat} {read : Json}
    (readable : value.Readable)
    (found : readValue fuel (laidChars layout depth value ++ after) = some (read, after)) :
    readFields (fuel + 1) (dumpsText key ++ ':' :: (layout.colon ++
        (laidChars layout depth value ++ after))) =
      match skipGaps after with
      | ',' :: rest => do
        let (fields, rest) ← readFields fuel (skipGaps rest)
        return ((key, read) :: fields, rest)
      | '\x7d' :: rest => some ([(key, read)], rest)
      | _ => none := by
  have named := readText_dumpsText key
    (':' :: (layout.colon ++ (laidChars layout depth value ++ after)))
  have stopped : skipGaps (':' :: (layout.colon ++ (laidChars layout depth value ++ after))) =
      ':' :: (layout.colon ++ (laidChars layout depth value ++ after)) := rfl
  rw [dumpsText, cons_append, readFields, named]
  simp only [Option.bind_eq_bind, Option.bind_some, stopped, layout.names, skipGaps_laid readable,
    found, String.ofList_toList, pure]

end

mutual
/-- The reader gives the sorted form of a value in any layout. -/
theorem readValue_laid (layout : Layout) (depth : Nat) (value : Json) (readable : value.Readable)
    (fuel : Nat) (rest : List Char) (ends : Ends rest)
    (enough : 2 * (laidChars layout depth value).length ≤ fuel + 1) :
    readValue fuel (laidChars layout depth value ++ rest) = some (value.sorted, rest) := by
  obtain ⟨first, later, shape, _⟩ := laidChars_cons layout depth readable
  cases fuel with
  | zero =>
    rw [shape, length_cons] at enough
    omega
  | succ fuel =>
    cases value with
    | null => rfl
    | bool value => cases value <;> rfl
    | int value => exact readValue_int value ends
    | real text => exact readValue_numeral readable ends
    | str text =>
      rw [laidChars, dumpsText, cons_append, readValue, readText_dumpsText]
      simp [sorted]
    | arr items =>
      cases items with
      | nil => rfl
      | cons head items =>
        have bound : 2 * (laidItems layout (depth + 1) (head :: items)).length ≤ fuel := by
          rw [laidChars] at enough
          · simp only [length_cons, length_append] at enough
            omega
          · exact cons_ne_nil _ _
        exact readValue_laidItems readable.1
          (readItems_laid layout (depth + 1) depth (head :: items) (by simp) readable fuel
            rest bound)
    | obj fields =>
      cases fields with
      | nil => rfl
      | cons field fields =>
        have bound : 2 * (laidFields layout (depth + 1) (field :: fields)).length ≤ fuel := by
          rw [laidChars] at enough
          · simp only [length_cons, length_append] at enough
            omega
          · exact cons_ne_nil _ _
        exact readValue_laidFields
          (readFields_laid layout (depth + 1) depth (field :: fields) (by simp) readable
            fuel rest bound)

theorem readItems_laid (layout : Layout) (depth outer : Nat) (items : List Json)
    (occupied : items ≠ []) (readable : ReadableItems items) (fuel : Nat) (rest : List Char)
    (enough : 2 * (laidItems layout depth items).length ≤ fuel) :
    readItems fuel (laidItems layout depth items ++ (layout.closing outer ++ ']' :: rest)) =
      some (sortedItems items, rest) := by
  cases items with
  | nil => exact absurd rfl occupied
  | cons value items =>
    obtain ⟨first, later, shape, _⟩ := laidItems_begin layout depth items readable.1
    cases fuel with
    | zero => simp [shape] at enough
    | succ fuel =>
      cases items with
      | nil =>
        have closed : skipGaps (layout.closing outer ++ ']' :: rest) = ']' :: rest := by
          rw [layout.closes]
          rfl
        have read := readValue_laid layout depth value readable.1 fuel
          (layout.closing outer ++ ']' :: rest)
          (layout.ends outer _ (Or.inr (Or.inl rfl))) enough
        rw [laidItems, readItems]
        simp only [read, Option.bind_eq_bind, Option.bind_some, closed, pure, sortedItems]
      | cons next items =>
        obtain ⟨letter, tail, begins, opening⟩ :=
          laidItems_begin layout depth items readable.2.1
        let after := layout.comma depth ++
          (laidItems layout depth (next :: items) ++ (layout.closing outer ++ ']' :: rest))
        have whole : laidItems layout depth (value :: next :: items) ++
            (layout.closing outer ++ ']' :: rest) =
              laidChars layout depth value ++ ',' :: after := by
          simp [laidItems, after]
        simp only [laidItems, length_append, length_cons] at enough
        have read := readValue_laid layout depth value readable.1 fuel (',' :: after)
          (Or.inl rfl) (by omega)
        have others := readItems_laid layout depth outer (next :: items) (by simp)
          readable.2 fuel rest (by omega)
        have stopped : skipGaps (',' :: after) = ',' :: after := rfl
        have skipped : skipGaps after =
            laidItems layout depth (next :: items) ++
              (layout.closing outer ++ ']' :: rest) := by
          rw [layout.continues, begins, cons_append, skipGaps_opens opening]
        rw [whole, readItems]
        simp only [read, Option.bind_eq_bind, Option.bind_some, stopped, skipped, others,
          pure, sortedItems]

theorem readFields_laid (layout : Layout) (depth outer : Nat) (fields : List (String × Json))
    (occupied : fields ≠ []) (readable : ReadableFields fields) (fuel : Nat) (rest : List Char)
    (enough : 2 * (laidFields layout depth fields).length ≤ fuel) :
    readFields fuel (laidFields layout depth fields ++ (layout.closing outer ++ '\x7d' :: rest)) =
      some (sortedFields fields, rest) := by
  cases fields with
  | nil => exact absurd rfl occupied
  | cons field fields =>
    cases fuel with
    | zero =>
      obtain ⟨later, shape⟩ := laidFields_quote layout depth field fields
      simp [shape] at enough
    | succ fuel =>
      obtain ⟨key, value⟩ := field
      cases fields with
      | nil =>
        simp only [laidFields, length_append, length_cons] at enough
        have closed : skipGaps (layout.closing outer ++ '\x7d' :: rest) = '\x7d' :: rest := by
          rw [layout.closes]
          rfl
        have read := readValue_laid layout depth value readable.1 fuel
          (layout.closing outer ++ '\x7d' :: rest)
          (layout.ends outer _ (Or.inr (Or.inr (Or.inl rfl)))) (by omega)
        have named := readFields_named key _ readable.1 read
        rw [closed] at named
        simpa [laidFields, sortedFields] using named
      | cons next fields =>
        obtain ⟨later, quoted⟩ := laidFields_quote layout depth next fields
        let after := layout.comma depth ++ (laidFields layout depth (next :: fields) ++
          (layout.closing outer ++ '\x7d' :: rest))
        simp only [laidFields, length_append, length_cons] at enough
        have read := readValue_laid layout depth value readable.1 fuel (',' :: after)
          (Or.inl rfl) (by omega)
        have others := readFields_laid layout depth outer (next :: fields) (by simp)
          readable.2 fuel rest (by omega)
        have stopped : skipGaps (',' :: after) = ',' :: after := rfl
        have skipped : skipGaps after = laidFields layout depth (next :: fields) ++
            (layout.closing outer ++ '\x7d' :: rest) := by
          rw [layout.continues, quoted]
          rfl
        have named := readFields_named key _ readable.1 read
        rw [stopped] at named
        simp only [skipped, others] at named
        simpa [laidFields, sortedFields, after] using named
end

/-- The reader gives the sorted form of a document, and gaps may follow it. -/
theorem loads_laid (layout : Layout) {value : Json} (readable : value.Readable) (rest : List Char)
    (gaps : skipGaps rest = []) (ends : Ends rest) :
    loads (laidChars layout 0 value ++ rest) = some value.sorted := by
  have read := readValue_laid layout 0 value readable
    (2 * (laidChars layout 0 value ++ rest).length) rest ends
    (by simp only [length_append]; omega)
  rw [loads, skipGaps_laid readable, read]
  simp [gaps]

/-- The compact layout has no gaps. -/
def compactLayout : Layout where
  opening _ := []
  comma _ := []
  colon := []
  closing _ := []
  opens _ _ := rfl
  continues _ _ := rfl
  names _ := rfl
  closes _ _ := rfl
  ends _ _ ends := ends

mutual
theorem laid_compact (depth : Nat) (value : Json) (plain : value.Plain) :
    laidChars compactLayout depth value = dumpsChars value ∧ value.Readable := by
  cases value with
  | real text => exact absurd plain (by simp [Plain])
  | arr items =>
    obtain ⟨same, readable⟩ := laid_compactItems (depth + 1) items plain
    constructor
    · cases items with
      | nil => rfl
      | cons value items => simp [laidChars, dumpsChars, compactLayout, ← same]
    · exact readable
  | obj fields =>
    obtain ⟨same, readable⟩ := laid_compactFields (depth + 1) fields plain
    constructor
    · cases fields with
      | nil => rfl
      | cons field fields => simp [laidChars, dumpsChars, compactLayout, ← same]
    · exact readable
  | _ => exact ⟨rfl, trivial⟩

theorem laid_compactItems (depth : Nat) (items : List Json) (plain : PlainItems items) :
    laidItems compactLayout depth items = dumpsItems items ∧ ReadableItems items := by
  cases items with
  | nil => exact ⟨rfl, trivial⟩
  | cons value items =>
    obtain ⟨first, readable⟩ := laid_compact depth value plain.1
    obtain ⟨others, later⟩ := laid_compactItems depth items plain.2
    constructor
    · cases items with
      | nil => exact first
      | cons next items => simp [laidItems, dumpsItems, compactLayout, ← first, ← others]
    · exact ⟨readable, later⟩

theorem laid_compactFields (depth : Nat) (fields : List (String × Json))
    (plain : PlainFields fields) :
    laidFields compactLayout depth fields = dumpsFields fields ∧ ReadableFields fields := by
  cases fields with
  | nil => exact ⟨rfl, trivial⟩
  | cons field fields =>
    obtain ⟨key, value⟩ := field
    obtain ⟨first, readable⟩ := laid_compact depth value plain.1
    obtain ⟨others, later⟩ := laid_compactFields depth fields plain.2
    constructor
    · cases fields with
      | nil => simp [laidFields, dumpsFields, compactLayout, ← first]
      | cons next fields => simp [laidFields, dumpsFields, compactLayout, ← first, ← others]
    · exact ⟨readable, later⟩
end

/-- The reader inverts the writer on a whole document. -/
theorem loads_dumps {value : Json} (plain : value.Plain) (canonical : value.Canonical) :
    loads (dumpsChars value) = some value := by
  obtain ⟨same, readable⟩ := laid_compact 0 value plain
  have read := loads_laid compactLayout readable [] rfl trivial
  rw [append_nil, same, sorted_canonical value canonical] at read
  exact read

end Json
