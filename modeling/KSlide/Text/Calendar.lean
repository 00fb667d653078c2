import KSlide.Text.Patterns

/-
This file gives the times that the calendar parser reads from UTC timestamps.
-/

namespace Text

/-- The parser reads digits of the basic Latin block only. -/
def number (letters : List Char) : Option Nat :=
  if letters.all isDigit then
    some (letters.foldl (fun total letter => total * 10 + (letter.toNat - 48)) 0)
  else none

def isLeapYear (year : Nat) : Bool := year % 4 == 0 && (year % 100 != 0 || year % 400 == 0)

def daysInMonth (year month : Nat) : Nat :=
  if month = 2 then if isLeapYear year then 29 else 28
  else if month ∈ [4, 6, 9, 11] then 30 else 31

/-- The parser reads six digits of a fraction and skips the rest. -/
def microseconds : List Char → Option Nat
  | '.' :: letters =>
    let read := letters.dropLast.take 6
    (number read).map fun value => value * Nat.pow 10 (6 - read.length)
  | _ => some 0

/-- The parsed time counts in mixed units, and its order is the order of the times. -/
def fromIsoformat (text : String) : Option Nat :=
  match text.toList with
  | a :: b :: c :: d :: '-' :: e :: f :: '-' :: g :: h :: 'T' :: i :: j :: ':' :: k :: l :: ':' ::
      m :: n :: rest => do
      let year ← number [a, b, c, d]
      let month ← number [e, f]
      let day ← number [g, h]
      let hour ← number [i, j]
      let minute ← number [k, l]
      let second ← number [m, n]
      let micro ← microseconds rest
      if 1 ≤ year ∧ 1 ≤ month ∧ month ≤ 12 ∧ 1 ≤ day ∧ day ≤ daysInMonth year month ∧ hour ≤ 23 ∧
          minute ≤ 59 ∧ second ≤ 59 then
        some ((((((year * 13 + month) * 32 + day) * 24 + hour) * 60 + minute) * 60 + second) *
          1000000 + micro)
      else none
  | _ => none

end Text
