import KSlide.Json.Conversions
import KSlide.Json.Lines
import KSlide.Json.Tokens
import KSlide.Text.Rewriting

/-
This file reads the configuration of the host and describes the texts that comments and trailing
commas make of a serialization.
-/

open Json

namespace KSlide
namespace Runtime

/-- A comment runs up to the line end. -/
def commentLength : List Char → Nat
  | '/' :: '/' :: rest => (rest.takeWhile (· ≠ '\n')).length + 2
  | _ => 0

def isCloser (letter : Char) : Bool := letter = '\x7d' || letter = ']'

/-- White space and a closing bracket come next. -/
def closesNext (letters : List Char) : Bool :=
  match letters.dropWhile Text.isSpace with
  | letter :: _ => isCloser letter
  | [] => false

/-- A comma and the white space behind it match before a closing bracket, which stays. -/
def trailingLength : List Char → Nat
  | ',' :: rest => if closesNext rest then (rest.takeWhile Text.isSpace).length + 1 else 0
  | _ => 0

/-- The configuration is empty when the file cannot be read or holds no object. -/
def readConfig : Option (List Char) → Json
  | none => .obj []
  | some content =>
    let text := Text.universalNewlines content
    let text := Rewriting.sub commentLength [] text
    let text := Rewriting.sub trailingLength [] text
    ((loads text).filter isObject).getD (.obj [])

/-- The model and its provider. -/
structure Identity where
  provider : Option String
  reportedModelId : Option String
  providerBackend : Option String
  quantizationOrDtype : Option String
  modelRevision : Option String
deriving DecidableEq

/-- The provider is named before the first slash. -/
def providerOf (model : String) : Option String :=
  if '/' ∈ model.toList then some (String.ofList (model.toList.takeWhile (· ≠ '/'))) else none

def firstText (config : Json) (keys : List String) : Option String :=
  keys.findSome? fun key => Python.text? (config.field key)

/-- The environment names the model before the configuration does, and the effective configuration
stands in for an empty file. -/
def discoverIdentity (environment : List (Option String)) (effective fileConfig : Json) :
    Identity :=
  let config := if fileConfig.truthy then fileConfig else effective
  let reported := ((environment.filterMap id).find? (· ≠ "")).or
    (Python.text? (config.field "model"))
  let provider := reported.bind providerOf
  let providers := config.field "provider"
  let found := match provider with
    | some name => if name ≠ "" ∧ providers.isObject = true then providers.field name else .obj []
    | none => .obj []
  let providerConfig := if found.isObject then found else .obj []
  { provider
    reportedModelId := reported
    providerBackend := firstText providerConfig ["backend", "npm"]
    quantizationOrDtype := firstText providerConfig ["quantization", "dtype"]
    modelRevision := firstText providerConfig ["revision"] }

/-- A string literal without its quotes. -/
structure Literal where
  raw : List Char
  text : List Char
  spelled : ∀ rest, SpellsText text (raw ++ '"' :: rest) rest

/-- A text is woven from the letters and literals of a serialization, from comments, and from
trailing commas with the white space behind them. -/
inductive Piece where
  | letter (mark : Char)
  | literal (body : Literal)
  | note (text : List Char)
  | trailing
  | blank (mark : Char)

def quoted (raw : List Char) : List Char := '"' :: (raw ++ ['"'])

/-- The serialization has the letters and the literals. -/
def Piece.source : Piece → List Char
  | .letter mark => [mark]
  | .literal body => quoted body.raw
  | _ => []

def Piece.written : Piece → List Char
  | .letter mark => [mark]
  | .literal body => quoted body.raw
  | .note text => '/' :: '/' :: text
  | .trailing => [',']
  | .blank mark => [mark]

def source (pieces : List Piece) : List Char := pieces.flatMap Piece.source

def written (pieces : List Piece) : List Char := pieces.flatMap Piece.written

/-- A comment ends with the line or with the text. -/
def EndsLine : List Piece → Prop
  | [] => True
  | .letter mark :: _ => mark = '\n'
  | .blank mark :: _ => mark = '\n'
  | _ => False

/-- Behind a trailing comma only white space and comments stand before the closing bracket. -/
inductive Woven : Bool → List Piece → Prop
  | done : Woven false []
  | letter {mark : Char} {rest : List Piece} (unquoted : mark ≠ '"') (later : Woven false rest) :
      Woven false (.letter mark :: rest)
  | closer {mark : Char} {rest : List Piece} (closes : isCloser mark = true)
      (later : Woven false rest) : Woven true (.letter mark :: rest)
  | literal {rest : List Piece} (body : Literal) (later : Woven false rest) :
      Woven false (.literal body :: rest)
  | note {behind : Bool} {text : List Char} {rest : List Piece} (line : '\n' ∉ text)
      (ended : EndsLine rest) (later : Woven behind rest) : Woven behind (.note text :: rest)
  | trailing {rest : List Piece} (later : Woven true rest) : Woven false (.trailing :: rest)
  | blank {mark : Char} {rest : List Piece} (gap : isGap mark = true) (later : Woven true rest) :
      Woven true (.blank mark :: rest)

section
variable {behind : Bool} {rest : List Char} {texts : List (List Char)}

theorem isSpace_printed {letter : Char} (low : 33 ≤ letter.toNat) (high : letter.toNat < 128) :
    Text.isSpace letter = false := by
  simp only [Text.isSpace, Bool.or_eq_false_iff, Bool.and_eq_false_iff, decide_eq_false_iff_not,
    beq_eq_false_iff_ne]
  omega

theorem bare_bounds {letter : Char} (bare : isBare letter = true) :
    33 ≤ letter.toNat ∧ letter.toNat < 128 := by
  rcases isPlain_bounds (isPlain_bare bare) with gap | printed
  · rcases isGap_cases gap with rfl | rfl | rfl | rfl <;> cases bare
  · exact printed

/-- What stands behind a letter outside of the literals. -/
structure Follows (behind next : Bool) (mark : Char) : Prop where
  plain : isPlain mark = true
  comma : mark = ',' → next = true
  kept : behind = true → (isGap mark = true ∧ next = true) ∨
    (Text.isSpace mark = false ∧ isCloser mark = false)

theorem follows_bare {mark : Char} (bare : isBare mark = true) : Follows behind false mark := by
  obtain ⟨low, high⟩ := bare_bounds bare
  refine ⟨isPlain_bare bare, ?_, fun _ => Or.inr ⟨isSpace_printed low high, ?_⟩⟩
  · rintro rfl
    cases bare
  · apply eq_false_of_ne_true
    intro closes
    simp only [isCloser, Bool.or_eq_true, decide_eq_true_eq] at closes
    rcases closes with rfl | rfl
    · cases bare
    · cases bare

/-- A letter outside of the literals is a token, and no bracket stands behind a comma. -/
theorem tokens_letter {mark : Char} (unquoted : mark ≠ '"')
    (tokens : Tokens behind (mark :: rest) texts) :
    ∃ next, Tokens next rest texts ∧ Follows behind next mark := by
  cases tokens with
  | gap blank later =>
    refine ⟨behind, later, by simp [isPlain, blank], ?_, fun open_ => Or.inl ⟨blank, open_⟩⟩
    rintro rfl
    cases blank
  | text body later => exact absurd rfl unquoted
  | bare known later => exact ⟨false, later, follows_bare known⟩
  | opening known later =>
    refine ⟨false, later, ?_⟩
    rcases known with rfl | rfl | rfl
    all_goals exact ⟨rfl, fun same => absurd same (by decide), fun _ => Or.inr ⟨rfl, rfl⟩⟩
  | closing known later =>
    refine ⟨false, later, ?_⟩
    rcases known with rfl | rfl
    all_goals exact ⟨rfl, fun same => absurd same (by decide), fun open_ => by cases open_⟩
  | comma later => exact ⟨true, later, rfl, fun _ => rfl, fun open_ => by cases open_⟩

theorem tokens_literal {raw text : List Char}
    (spelled : ∀ rest, SpellsText text (raw ++ '"' :: rest) rest)
    (tokens : Tokens behind (quoted raw ++ rest) texts) :
    ∃ others, texts = text :: others ∧ Tokens false rest others := by
  have shape : quoted raw ++ rest = '"' :: (raw ++ '"' :: rest) := by simp [quoted]
  rw [shape] at tokens
  generalize letters : raw ++ '"' :: rest = inside at tokens
  cases tokens with
  | gap blank later => cases blank
  | text body later =>
    have known := spelled rest
    rw [letters] at known
    obtain ⟨same, rests⟩ := spellsText_unique known body
    rw [same, rests]
    exact ⟨_, rfl, later⟩
  | bare known later => cases known
  | opening known later => rcases known with same | same | same <;> cases same
  | closing known later => rcases known with same | same <;> cases same

end
end Runtime
end KSlide
