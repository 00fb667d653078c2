import KSlide.Errors
import KSlide.Json.Record
import Mathlib.Data.Rat.Defs

/-
This file compares JSON values the way the interpreter does and reads their numbers as exact
rational numbers.
-/

namespace Json

/-- The text of a whole floating-point number ends with a zero fraction. -/
def wholeReal (text : String) : Option Int :=
  match text.toList.reverse with
  | '0' :: '.' :: digits => (String.ofList digits.reverse).toInt?
  | _ => none

/-- Python compares a number with truth values and with whole floating-point numbers. -/
def equalsInt (value : Json) (number : Int) : Bool :=
  match value with
  | .int other => other == number
  | .bool truth => (if truth then 1 else 0) == number
  | .real text => wholeReal text == some number
  | _ => false

/-- A value equals at most one number. -/
theorem equalsInt_unique {value : Json} {first second : Int}
    (one : value.equalsInt first = true) (other : value.equalsInt second = true) :
    first = second := by
  cases value with
  | int number =>
    simp only [equalsInt, beq_iff_eq] at one other
    exact one.symm.trans other
  | bool truth =>
    simp only [equalsInt, beq_iff_eq] at one other
    exact one.symm.trans other
  | real text =>
    simp only [equalsInt, beq_iff_eq] at one other
    exact Option.some.inj (one.symm.trans other)
  | _ => cases one

mutual
/-- Numbers and truth values of one size are equal, and so are the values built from them. -/
def equal : Json → Json → Bool
  | .int first, second | second, .int first => second.equalsInt first
  | .bool first, .bool second => first == second
  | .bool first, .real second | .real second, .bool first =>
    wholeReal second == some (if first then 1 else 0)
  | .real first, .real second => first == second
  | .null, .null => true
  | .str first, .str second => first == second
  | .arr first, .arr second => equalItems first second
  | .obj first, .obj second => equalFields first second
  | _, _ => false

def equalItems : List Json → List Json → Bool
  | [], [] => true
  | first :: rest, second :: others => equal first second && equalItems rest others
  | _, _ => false

def equalFields : List (String × Json) → List (String × Json) → Bool
  | [], [] => true
  | (key, first) :: rest, (other, second) :: others =>
    key == other && equal first second && equalFields rest others
  | _, _ => false
end

mutual
theorem equal_self : (value : Json) → value.equal value = true
  | .null => rfl
  | .bool truth => by simp [equal]
  | .int number => by simp [equal, equalsInt]
  | .real text => by simp [equal]
  | .str text => by simp [equal]
  | .arr items => by
    rw [equal]
    exact equalItems_self items
  | .obj fields => by
    rw [equal]
    exact equalFields_self fields

theorem equalItems_self : (items : List Json) → equalItems items items = true
  | [] => rfl
  | value :: rest => by rw [equalItems, equal_self value, equalItems_self rest, Bool.and_self]

theorem equalFields_self : (fields : List (String × Json)) → equalFields fields fields = true
  | [] => rfl
  | (key, value) :: rest => by
    rw [equalFields, equal_self value, equalFields_self rest, beq_self_eq_true]
    rfl
end

end Json

/-- The numbers with a fraction are read exactly, and the model takes the reading as a parameter. -/
class Fractions where
  exact : String → ℚ
  /-- The conversion of the interpreter also reads a text. -/
  read : String → Option ℚ

namespace Json

/-- A list or an object cannot be a member of a set. -/
def memberOf (value : Json) (texts : List String) : Except KSlide.Raised Bool :=
  match value with
  | .arr _ | .obj _ => .error (.other "TypeError")
  | .str text => .ok (texts.contains text)
  | _ => .ok false

variable [Fractions]

/-- A truth value is not a number. -/
def number? : Json → Option ℚ
  | .int value => some value
  | .real text => some (Fractions.exact text)
  | _ => none

/-- A comparison treats a truth value as a number. -/
def quantity? : Json → Option ℚ
  | .bool truth => some (if truth then 1 else 0)
  | value => value.number?

def float : Json → Except KSlide.Raised ℚ
  | .str text =>
    match Fractions.read text with
    | some value => .ok value
    | none => .error (.other "ValueError")
  | value =>
    match value.quantity? with
    | some value => .ok value
    | none => .error (.other "TypeError")

end Json
