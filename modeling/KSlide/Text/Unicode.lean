import KSlide.Text.Regex
import Mathlib.Data.List.DropRight

/-
This file gives the letter tables of the interpreter and the pattern letters that ignore case.
-/

/-- The interpreter brings tables of letters, and the model takes them as a parameter. -/
class Unicode where
  isWord : Char → Bool
  lower : List Char → List Char
  casefold : List Char → List Char
  isWord_basic : ∀ letter, letter.toNat < 128 →
    isWord letter = (Text.isAlnum letter || letter == '_')
  lower_basic : ∀ letters, (∀ letter ∈ letters, letter.toNat < 128) →
    lower letters = letters.map Char.toLower
  casefold_basic : ∀ letters, (∀ letter ∈ letters, letter.toNat < 128) →
    casefold letters = letters.map Char.toLower
  /-- Only the capital sigma depends on the letters around it. -/
  lower_part : ∀ before part after, 'Σ' ∉ part →
    ∃ left right, lower (before ++ part ++ after) = left ++ lower part ++ right

namespace Unicode

/-- This table maps the basic letters only and serves the closed runs. -/
@[reducible] def basic : Unicode where
  isWord letter := Text.isAlnum letter || letter == '_'
  lower letters := letters.map Char.toLower
  casefold letters := letters.map Char.toLower
  isWord_basic _ _ := rfl
  lower_basic _ _ := rfl
  casefold_basic _ _ := rfl
  lower_part before part after _ := ⟨before.map Char.toLower, after.map Char.toLower, by simp⟩

end Unicode

namespace Text
open List

/-- A run of white space becomes one space. -/
def collapse : List Char → List Char
  | [] => []
  | letter :: rest =>
    if isSpace letter then
      if rest.head?.any isSpace then collapse rest else ' ' :: collapse rest
    else letter :: collapse rest

def strip (letters : List Char) : List Char :=
  ((letters.dropWhile isSpace).reverse.dropWhile isSpace).reverse

/-- A text without white space around it stays as it is. -/
theorem strip_strip (letters : List Char) : strip (strip letters) = strip letters := by
  have shape (text : List Char) :
      strip text = (text.dropWhile isSpace).rdropWhile isSpace := rfl
  have kept : (strip letters).dropWhile isSpace = strip letters := by
    rw [dropWhile_eq_self_iff]
    intro present space
    have start : strip letters <+: letters.dropWhile isSpace := List.rdropWhile_prefix _ _
    obtain ⟨rest, joined⟩ := start
    have first : (letters.dropWhile isSpace).head? = (strip letters).head? := by
      rw [← joined, head?_append_of_ne_nil _ (ne_nil_of_length_pos present)]
    have stops := head?_dropWhile_not isSpace letters
    rw [first, List.head?_eq_getElem?, getElem?_eq_getElem present] at stops
    simp_all
  rw [shape (strip letters), kept, shape letters, rdropWhile_idempotent]

/-- These are the letters whose upper case has basic letters only. -/
def upperLetter (letter : Char) : List Char :=
  match letter with
  | 'ß' => ['S', 'S']
  | 'ı' => ['I']
  | 'ſ' => ['S']
  | 'ﬀ' => ['F', 'F']
  | 'ﬁ' => ['F', 'I']
  | 'ﬂ' => ['F', 'L']
  | 'ﬃ' => ['F', 'F', 'I']
  | 'ﬄ' => ['F', 'F', 'L']
  | 'ﬅ' | 'ﬆ' => ['S', 'T']
  | letter => [letter.toUpper]

/-- The upper case of a text is a basic word exactly when it is one for the interpreter. -/
def upper (letters : List Char) : List Char := letters.flatMap upperLetter

/-- One text is a part of the other. -/
def within (part whole : List Char) : Bool := decide (part <:+: whole)

end Text

namespace Regex

/-- A pattern that ignores case treats four more letters like basic letters. -/
def folded (letter : Char) : Char :=
  let point := letter.toNat
  if point = 304 ∨ point = 305 then 'i'
  else if point = 383 then 's'
  else if point = 8490 then 'k'
  else letter.toLower

def ignoringCase (known letter : Char) : Bool := folded letter == folded known

namespace Pattern

def literal (text : String) : Pattern :=
  text.toList.foldr (fun letter rest => .seq (.letter (ignoringCase letter)) rest) .empty

def oneOf (texts : List String) : Pattern :=
  match texts with
  | [] => .letter fun _ => false
  | [text] => literal text
  | text :: rest => .alt (literal text) (oneOf rest)

def letters (known : String) : Pattern := .letter fun letter => known.toList.contains letter

def optional (inner : Pattern) : Pattern := .many inner 0 (some 1)

def star (inner : Pattern) : Pattern := .many inner 0 none

def plus (inner : Pattern) : Pattern := .many inner 1 none

def gap : Pattern := star (.letter Text.isSpace)

def digit : Pattern := .letter Text.isDecimal

def all : List Pattern → Pattern
  | [] => .empty
  | [last] => last
  | first :: rest => .seq first (all rest)

end Pattern

/-- Basic letters and digits, also in the patterns that ignore case. -/
def isBasic (letter : Char) : Bool := Text.isAlnum (folded letter)

end Regex
