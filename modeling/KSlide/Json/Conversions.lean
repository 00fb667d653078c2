import KSlide.Json.Number
import KSlide.Text.Unicode
import Mathlib.Data.List.Sort
import Mathlib.Data.String.Basic

/-
This file gives the conversions of the interpreter between JSON values and its own types.
-/

namespace KSlide.Python

/-- The interpreter prints lists and objects, and the model takes their texts as a parameter. -/
class Printing where
  text : Json → String

def str [Printing] : Json → String
  | .null => "None"
  | .bool true => "True"
  | .bool false => "False"
  | .int value => toString value
  | .real text => text
  | .str text => text
  | value => Printing.text value

/-- A decimal digit stands for its distance from its zero. -/
def digitValue (letter : Char) : Option Nat :=
  (Text.decimalZeros.find? fun start => start ≤ letter.toNat && letter.toNat < start + 10).map
    fun start => letter.toNat - start

/-- Single underscores may stand between the digits. -/
def readDigits (value : Nat) : List Char → Option Nat
  | [] => some value
  | '_' :: letter :: rest =>
    (digitValue letter).bind fun digit => readDigits (value * 10 + digit) rest
  | letter :: rest => (digitValue letter).bind fun digit => readDigits (value * 10 + digit) rest

def readNatural : List Char → Option Nat
  | [] => none
  | letter :: rest => (digitValue letter).bind fun digit => readDigits digit rest

def readWhole (letters : List Char) : Option Int :=
  match Text.strip letters with
  | '-' :: digits => (readNatural digits).map fun value => -(value : Int)
  | '+' :: digits => (readNatural digits).map fun value => (value : Int)
  | digits => (readNatural digits).map fun value => (value : Int)

/-- The interpreter reads a whole number of at most 4300 digits. -/
def readInt (text : String) : Option Int :=
  if (text.toList.filter Text.isDecimal).length ≤ 4300 then readWhole text.toList else none

/-- The conversion cuts the fraction of a number and reads the digits of a text. -/
def int [Fractions] : Json → Except Raised Int
  | .int value => .ok value
  | .bool truth => .ok (if truth then 1 else 0)
  | .real text =>
    if text = "NaN" then .error (.other "ValueError")
    else if text = "Infinity" ∨ text = "-Infinity" then .error (.other "OverflowError")
    else .ok ((Fractions.exact text).num.tdiv (Fractions.exact text).den)
  | .str text =>
    match readInt text with
    | some value => .ok value
    | none => .error (.other "ValueError")
  | _ => .error (.other "TypeError")

def text? : Json → Option String
  | .str text => some text
  | _ => none

/-- A text has its letters as its items, and an object has its keys. -/
def tuple : Json → Except Raised (List Json)
  | .arr items => .ok items
  | .str text => .ok (text.toList.map fun letter => .str (String.singleton letter))
  | .obj fields => .ok (fields.map fun field => .str field.1)
  | _ => .error (.other "TypeError")

/-- Only a known key of an object can be read without a default. -/
def item (value : Json) (key : String) : Except Raised Json :=
  if value.isObject then
    match value.get? key with
    | some found => .ok found
    | none => .error (.other "KeyError")
  else .error (.other "TypeError")

/-- A missing key has the default. -/
def get (value : Json) (key : String) (default : Json) : Json := (value.get? key).getD default

/-- A text is searched for a part, a list for an item and an object for a key. -/
def contains (whole : Json) (part : String) : Except Raised Bool :=
  match whole with
  | .str text => .ok (Text.within part.toList text.toList)
  | .arr items => .ok (items.any (·.equal (.str part)))
  | .obj fields => .ok (fields.any (·.1 == part))
  | _ => .error (.other "TypeError")

@[simp] theorem int_int [Fractions] (value : Int) : int (.int value) = .ok value := rfl
@[simp] theorem str_str [Printing] (text : String) : str (.str text) = text := rfl
@[simp] theorem tuple_arr (items : List Json) : tuple (.arr items) = .ok items := rfl

/-- Written numbers are read back. -/
theorem mapM_int [Fractions] (values : List Int) : (values.map Json.int).mapM int = .ok values :=
  mapM_written fun value _ => int_int value

/-- A dictionary has texts as its keys, or it was built from a list with other keys. -/
inductive Dict where
  | named (fields : List (String × Json))
  | keyed (entries : List (Json × Json))
deriving DecidableEq

namespace Dict

/-- A list or an object cannot be a key. -/
def pair (entry : Json) : Except Raised (Json × Json) := do
  match ← tuple entry with
  | [key, value] =>
    match key with
    | .arr _ | .obj _ => throw (.other "TypeError")
    | key => return (key, value)
  | _ => throw (.other "ValueError")

/-- A later value replaces the value of an equal key. -/
def put (entries : List (Json × Json)) (entry : Json × Json) : List (Json × Json) :=
  if entries.any (·.1.equal entry.1) then
    entries.map fun known => if known.1.equal entry.1 then (known.1, entry.2) else known
  else entries ++ [entry]

/-- The fields of a dictionary with texts as its keys stand in the order of these texts. -/
def ofEntries (entries : List (Json × Json)) : Dict :=
  let fields := entries.filterMap fun entry => (text? entry.1).map fun key => (key, entry.2)
  if entries.all fun entry => (text? entry.1).isSome then
    .named (fields.insertionSort fun first second => first.1 ≤ second.1)
  else .keyed entries

/-- The constructor copies an object and also builds a dictionary from a list of pairs. -/
def ofJson : Json → Except Raised Dict
  | .obj fields => .ok (.named fields)
  | value => do
    let entries ← (← tuple value).mapM pair
    return ofEntries (entries.foldl put [])

def get? (dict : Dict) (key : String) : Option Json :=
  match dict with
  | .named fields => fields.lookup key
  | .keyed entries => (entries.find? (·.1.equal (.str key))).map Prod.snd

/-- The encoder writes every key as a text. -/
def writtenKey : Json → String
  | .null => "null"
  | .bool truth => if truth then "true" else "false"
  | .int value => toString value
  | .real text => text
  | .str text => text
  | .arr _ | .obj _ => ""

/-- The encoder sorts the keys and cannot compare a number with another kind of key. -/
def written [Fractions] : Dict → Except Raised Json
  | .named fields => .ok (.obj fields)
  | .keyed [entry] => .ok (.obj [(writtenKey entry.1, entry.2)])
  | .keyed entries => do
    require (entries.all (·.1.quantity?.isSome)) (.other "TypeError")
    let sorted := entries.insertionSort fun first second =>
      first.1.quantity?.getD 0 ≤ second.1.quantity?.getD 0
    return .obj (sorted.map fun entry => (writtenKey entry.1, entry.2))

def isNamed : Dict → Bool
  | .named _ => true
  | .keyed _ => false

theorem isNamed_iff {dict : Dict} : dict.isNamed = true ↔ ∃ fields, dict = .named fields := by
  cases dict <;> simp [isNamed]

end Dict
end KSlide.Python
