import Mathlib.Data.List.Basic
import Mathlib.Order.Defs.LinearOrder

/-
This file gives parsed JSON values and their canonical text.
-/

/-- A parsed JSON value lists the fields of an object once, in the order of their keys. -/
inductive Json where
  | null
  | bool (value : Bool)
  | int (value : Int)
  | real (text : String)
  | str (text : String)
  | arr (items : List Json)
  | obj (fields : List (String × Json))

namespace Json

mutual
def decEq : (first second : Json) → Decidable (first = second)
  | .null, .null => isTrue rfl
  | .bool a, .bool b => decidable_of_iff (a = b) (by simp)
  | .int a, .int b => decidable_of_iff (a = b) (by simp)
  | .real a, .real b => decidable_of_iff (a = b) (by simp)
  | .str a, .str b => decidable_of_iff (a = b) (by simp)
  | .arr a, .arr b =>
    match decEqItems a b with
    | isTrue same => isTrue (by rw [same])
    | isFalse different => isFalse (by simpa using different)
  | .obj a, .obj b =>
    match decEqFields a b with
    | isTrue same => isTrue (by rw [same])
    | isFalse different => isFalse (by simpa using different)
  | .null, .bool _ | .null, .int _ | .null, .real _ | .null, .str _ | .null, .arr _
  | .null, .obj _ | .bool _, .null | .bool _, .int _ | .bool _, .real _ | .bool _, .str _
  | .bool _, .arr _ | .bool _, .obj _ | .int _, .null | .int _, .bool _ | .int _, .real _
  | .int _, .str _ | .int _, .arr _ | .int _, .obj _ | .real _, .null | .real _, .bool _
  | .real _, .int _ | .real _, .str _ | .real _, .arr _ | .real _, .obj _ | .str _, .null
  | .str _, .bool _ | .str _, .int _ | .str _, .real _ | .str _, .arr _ | .str _, .obj _
  | .arr _, .null | .arr _, .bool _ | .arr _, .int _ | .arr _, .real _ | .arr _, .str _
  | .arr _, .obj _ | .obj _, .null | .obj _, .bool _ | .obj _, .int _ | .obj _, .real _
  | .obj _, .str _ | .obj _, .arr _ => isFalse (by simp)

def decEqItems : (first second : List Json) → Decidable (first = second)
  | [], [] => isTrue rfl
  | [], _ :: _ => isFalse (by simp)
  | _ :: _, [] => isFalse (by simp)
  | a :: first, b :: second =>
    match decEq a b, decEqItems first second with
    | isTrue head, isTrue tail => isTrue (by rw [head, tail])
    | isFalse head, _ => isFalse (by simp [head])
    | _, isFalse tail => isFalse (by simp [tail])

def decEqFields : (first second : List (String × Json)) → Decidable (first = second)
  | [], [] => isTrue rfl
  | [], _ :: _ => isFalse (by simp)
  | _ :: _, [] => isFalse (by simp)
  | (key, a) :: first, (other, b) :: second =>
    if sameKey : key = other then
      match decEq a b, decEqFields first second with
      | isTrue head, isTrue tail => isTrue (by rw [sameKey, head, tail])
      | isFalse head, _ => isFalse (by simp [head])
      | _, isFalse tail => isFalse (by simp [tail])
    else isFalse (by simp [sameKey])
end

instance : DecidableEq Json := decEq

/-- A present text is stored as a text, and an absent text is stored as null. -/
def ofText? : Option String → Json
  | none => .null
  | some text => .str text

@[simp] theorem ofText?_none : ofText? none = .null := rfl
@[simp] theorem ofText?_some (text : String) : ofText? (some text) = .str text := rfl

@[simp] theorem ofText?_inj {first second : Option String} :
    ofText? first = ofText? second ↔ first = second := by
  cases first <;> cases second <;> simp

/-- Python treats empty and zero values as false. -/
def truthy : Json → Bool
  | .null => false
  | .bool value => value
  | .int value => value != 0
  | .real text => text != "0.0" && text != "-0.0"
  | .str text => text != ""
  | .arr items => !items.isEmpty
  | .obj fields => !fields.isEmpty

@[simp] theorem truthy_null : Json.null.truthy = false := rfl
@[simp] theorem truthy_str (text : String) : (Json.str text).truthy = (text != "") := rfl
@[simp] theorem truthy_obj (fields : List (String × Json)) :
    (Json.obj fields).truthy = !fields.isEmpty := rfl

def isObject : Json → Bool
  | .obj _ => true
  | _ => false

/-- A false value stands for an empty object. -/
def orEmpty (value : Json) : Json := if value.truthy then value else .obj []

theorem orEmpty_object {value : Json} (object : value.isObject = true) : value.orEmpty = value := by
  cases value with
  | obj fields => cases fields <;> rfl
  | _ => cases object

def keys : Json → List String
  | .obj fields => fields.map Prod.fst
  | _ => []

def get? (value : Json) (key : String) : Option Json :=
  match value with
  | .obj fields => fields.lookup key
  | _ => none

/-- An object has exactly the named fields. -/
def hasKeys (value : Json) (names : List String) : Bool :=
  match value with
  | .obj fields =>
    (fields.map Prod.fst).all (· ∈ names) && names.all (· ∈ fields.map Prod.fst)
  | _ => false

mutual
/-- Every object of a canonical value has strictly increasing keys. -/
def Canonical : Json → Prop
  | .arr items => CanonicalItems items
  | .obj fields => (fields.map Prod.fst).Pairwise (· < ·) ∧ CanonicalFields fields
  | _ => True

def CanonicalItems : List Json → Prop
  | [] => True
  | value :: rest => Canonical value ∧ CanonicalItems rest

def CanonicalFields : List (String × Json) → Prop
  | [] => True
  | (_, value) :: rest => Canonical value ∧ CanonicalFields rest
end

def hexDigit (value : Nat) : Char :=
  if value < 10 then Char.ofNat (48 + value) else Char.ofNat (87 + value)

/-- The encoder escapes quotes, backslashes and control characters only. -/
def escape (letter : Char) : List Char :=
  if letter = '"' then ['\\', '"']
  else if letter = '\\' then ['\\', '\\']
  else if letter = '\n' then ['\\', 'n']
  else if letter = '\r' then ['\\', 'r']
  else if letter = '\t' then ['\\', 't']
  else if letter.toNat = 8 then ['\\', 'b']
  else if letter.toNat = 12 then ['\\', 'f']
  else if letter.toNat < 32 then
    ['\\', 'u', '0', '0', hexDigit (letter.toNat / 16), hexDigit (letter.toNat % 16)]
  else [letter]

def dumpsText (text : String) : List Char :=
  '"' :: (text.toList.flatMap escape ++ ['"'])

mutual
/-- The canonical text sorts keys and has no spaces. -/
def dumpsChars : Json → List Char
  | .null => "null".toList
  | .bool value => (if value then "true" else "false").toList
  | .int value => (toString value).toList
  | .real text => text.toList
  | .str text => dumpsText text
  | .arr items => '[' :: (dumpsItems items ++ [']'])
  | .obj fields => '\x7b' :: (dumpsFields fields ++ ['\x7d'])

def dumpsItems : List Json → List Char
  | [] => []
  | [value] => dumpsChars value
  | value :: rest => dumpsChars value ++ ',' :: dumpsItems rest

def dumpsFields : List (String × Json) → List Char
  | [] => []
  | [(key, value)] => dumpsText key ++ ':' :: dumpsChars value
  | (key, value) :: rest => dumpsText key ++ ':' :: (dumpsChars value ++ ',' :: dumpsFields rest)
end

def dumps (value : Json) : String := String.ofList (dumpsChars value)

end Json
