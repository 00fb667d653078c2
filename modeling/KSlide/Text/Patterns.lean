import Mathlib.Data.List.Infix
import Mathlib.Tactic.Common

/-
This file gives the anchored text patterns and the case-folded word search.
-/

namespace Text
open List

def isUpper (letter : Char) : Bool := 'A' ≤ letter && letter ≤ 'Z'
def isLower (letter : Char) : Bool := 'a' ≤ letter && letter ≤ 'z'
def isDigit (letter : Char) : Bool := '0' ≤ letter && letter ≤ '9'
def isHex (letter : Char) : Bool := isDigit letter || ('a' ≤ letter && letter ≤ 'f')
def isAlnum (letter : Char) : Bool := isUpper letter || isLower letter || isDigit letter

/-- The code point of each zero that a pattern counts as a decimal digit. -/
def decimalZeros : List Nat :=
  [48, 1632, 1776, 1984, 2406, 2534, 2662, 2790, 2918, 3046, 3174, 3302, 3430, 3558, 3664, 3792,
   3872, 4160, 4240, 6112, 6160, 6470, 6608, 6784, 6800, 6992, 7088, 7232, 7248, 42528, 43216,
   43264, 43472, 43504, 43600, 44016, 65296, 66720, 68912, 69734, 69872, 69942, 70096, 70384,
   70736, 70864, 71248, 71360, 71472, 71904, 72016, 72784, 73040, 73120, 92768, 92864, 93008,
   120782, 120792, 120802, 120812, 120822, 123200, 123632, 125264, 130032]

/-- The pattern digit accepts every Unicode decimal digit. -/
def isDecimal (letter : Char) : Bool :=
  decimalZeros.any fun start => start ≤ letter.toNat && letter.toNat < start + 10

/-- These letters count as white space. -/
def isSpace (letter : Char) : Bool :=
  let point := letter.toNat
  (9 ≤ point && point ≤ 13) || (28 ≤ point && point ≤ 32) || point == 133 || point == 160 ||
    point == 5760 || (8192 ≤ point && point ≤ 8202) || point == 8232 || point == 8233 ||
    point == 8239 || point == 8287 || point == 12288

/-- A text with no letter but white space is blank. -/
def isBlank (text : String) : Bool := text.toList.all isSpace

/-- One first letter and a bounded rest form a token. -/
def isToken (first rest : Char → Bool) (limit : Nat) (text : String) : Bool :=
  match text.toList with
  | [] => false
  | letter :: letters => first letter && letters.all rest && letters.length ≤ limit

def isExactly (letter : Char → Bool) (count : Nat) (text : String) : Bool :=
  text.toList.all letter && text.toList.length == count

/-- A 64-digit lower-case hexadecimal text. -/
def isSha256 (text : String) : Bool := isExactly isHex 64 text

def decimals : List Char → Bool
  | letters => !letters.isEmpty && letters.all isDecimal

/-- The fraction of a second is optional and ends with the zone letter. -/
def isFractionZ : List Char → Bool
  | ['Z'] => true
  | '.' :: letters => letters.getLast? == some 'Z' && decimals letters.dropLast
  | _ => false

/-- A UTC timestamp has fixed digit groups and an optional fraction. -/
def isTimestamp (text : String) : Bool :=
  match text.toList with
  | a :: b :: c :: d :: '-' :: e :: f :: '-' :: g :: h :: 'T' :: i :: j :: ':' :: k :: l :: ':' ::
      m :: n :: rest =>
      [a, b, c, d, e, f, g, h, i, j, k, l, m, n].all isDecimal && isFractionZ rest
  | _ => false

def takeDigits : List Char → List Char × List Char
  | [] => ([], [])
  | letter :: letters =>
    if isDigit letter then
      let (digits, rest) := takeDigits letters
      (letter :: digits, rest)
    else ([], letter :: letters)

def isVersionTag : List Char → Bool
  | [] => true
  | letter :: letters =>
    (letter == '-' || letter == '+') && !letters.isEmpty &&
      letters.all fun item => isAlnum item || item == '.' || item == '-'

def isVersionPatch : List Char → Bool
  | '.' :: letters =>
    let (digits, rest) := takeDigits letters
    !digits.isEmpty && isVersionTag rest
  | letters => isVersionTag letters

/-- An exact version has two or three numbers and an optional tag. -/
def isVersion (text : String) : Bool :=
  match takeDigits text.toList with
  | (major, '.' :: letters) =>
    let (minor, rest) := takeDigits letters
    !major.isEmpty && !minor.isEmpty && isVersionPatch rest
  | _ => false

/-- The case-folded text has the word as a part. -/
def contains (text word : String) : Bool :=
  decide (word.toList <:+: text.toList.map Char.toLower)

def mentions (words : List String) (text : String) : Bool := words.any (contains text)

theorem infix_append_cons {A : Type} {word left right : List A} {separator : A}
    (absent : separator ∉ word) (found : word <:+: left ++ separator :: right) :
    word <:+: left ∨ word <:+: right := by
  obtain ⟨before, after, split⟩ := found
  rw [append_assoc] at split
  rcases append_eq_append_iff.mp split with ⟨middle, leftEq, restEq⟩ | ⟨middle, beforeEq, restEq⟩
  · rcases append_eq_append_iff.mp restEq with ⟨tail, middleEq, _⟩ | ⟨tail, wordEq, tailEq⟩
    · left
      exact ⟨before, tail, by rw [leftEq, middleEq, append_assoc]⟩
    · cases tail with
      | nil =>
        left
        exact ⟨before, [], by rw [leftEq, wordEq]; simp⟩
      | cons head tail =>
        rw [cons_append, List.cons.injEq] at tailEq
        exact absurd (by rw [wordEq, tailEq.1]; simp) absent
  · cases middle with
    | nil =>
      cases word with
      | nil => exact Or.inl (List.nil_infix)
      | cons letter letters =>
        simp only [nil_append, cons_append, List.cons.injEq] at restEq
        exact absurd (by rw [restEq.1]; simp) absent
    | cons letter middle =>
      rw [cons_append, List.cons.injEq] at restEq
      right
      exact ⟨middle, after, by rw [restEq.2, append_assoc]⟩

end Text
