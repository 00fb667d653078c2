import KSlide.Text.Enumeration
import KSlide.Text.Unicode

/-
This file gives the numbers and periods that the extraction finds in a text.
-/

namespace KSlide
open Regex Regex.Pattern

/-- The interpreter computes with floating-point numbers, and the model takes them as a parameter. -/
class Floating where
  Value : Type
  ofDecimal : List Char → Value
  ofNat : Nat → Value
  mul : Value → Value → Value
  sub : Value → Value → Value
  abs : Value → Value
  less : Value → Value → Bool
  /-- The smallest tolerance of a comparison. -/
  tiny : Value
  less_irrefl : ∀ value, less value value = false
  /-- The difference of a value and itself is zero or no number. -/
  steady : ∀ value tolerance, less tolerance tiny = false →
    less tolerance (abs (sub value value)) = false

inductive SemanticQuantity where
  | number | scaledNumber | currency | percentage | percentagePoint | period
deriving DecidableEq, Repr

instance : Text.Enumeration SemanticQuantity where
  value
    | .number => "number"
    | .scaledNumber => "scaled_number"
    | .currency => "currency"
    | .percentage => "percentage"
    | .percentagePoint => "percentage_point"
    | .period => "period"
  all := [.number, .scaledNumber, .currency, .percentage, .percentagePoint, .period]

inductive NumericDirection where
  | positive | negative
deriving DecidableEq, Repr

instance : Text.Enumeration NumericDirection where
  value
    | .positive => "positive"
    | .negative => "negative"
  all := [.positive, .negative]

namespace Numeric

def isHangul (letter : Char) : Bool := '가' ≤ letter && letter ≤ '힣'

def isNumberNeighbour (letter : Char) : Bool := isBasic letter || isHangul letter

def token : Pattern := all [
  .notAfter isNumberNeighbour,
  .group "sign" (Pattern.optional (letters "+-▲▼")), gap,
  Pattern.optional (.group "prefix" (oneOf ["$", "€", "¥", "₩", "USD", "KRW", "EUR", "JPY"])), gap,
  .group "open" (all [Pattern.optional (letters "("), gap]),
  .group "number" (all [digit, star (.letter fun letter => Text.isDecimal letter || letter == ','),
    Pattern.optional (all [letters ".", plus digit])]),
  .group "close" (all [gap, Pattern.optional (letters ")")]),
  gap,
  Pattern.optional (.group "unit" (.alt (oneOf ["%p", "%"]) (.alt
    (all [literal "percentage", plus (.letter Text.isSpace), literal "point",
      Pattern.optional (literal "s")])
    (oneOf ["percent", "trillion", "billion", "million", "조원", "억원", "만원", "원", "조", "억",
      "만", "KRW", "USD", "달러"])))),
  .notBefore isNumberNeighbour]

/-- Two digits of a year follow a quarter. -/
def year : Pattern :=
  Pattern.optional (all [Pattern.optional (letters "'’"), .many digit 2 (some 2)])

def period : Pattern := all [
  .notAfter isBasic,
  .alt (all [letters "1234", literal "Q", year]) (.alt (all [literal "Q", letters "1234", year])
    (.alt (all [literal "1H", .many digit 0 (some 2)])
      (.alt (all [literal "2H", .many digit 0 (some 2)])
        (.alt (all [letters "12", literal "분기"])
          (oneOf ["상반기", "하반기", "YoY", "QoQ", "전년比", "전분기比"]))))),
  .notBefore isBasic]

/-- The factor, the quantity and the currency of a unit. -/
def unitInfo : List (String × Nat × SemanticQuantity × Option String) := [
  ("만", Nat.pow 10 4, .scaledNumber, none),
  ("만원", Nat.pow 10 4, .currency, some "KRW"),
  ("억", Nat.pow 10 8, .scaledNumber, none),
  ("억원", Nat.pow 10 8, .currency, some "KRW"),
  ("조", Nat.pow 10 12, .scaledNumber, none),
  ("조원", Nat.pow 10 12, .currency, some "KRW"),
  ("원", 1, .currency, some "KRW"),
  ("krw", 1, .currency, some "KRW"),
  ("usd", 1, .currency, some "USD"),
  ("달러", 1, .currency, some "USD"),
  ("%", 1, .percentage, none),
  ("percent", 1, .percentage, none),
  ("%p", 1, .percentagePoint, none),
  ("percentage point", 1, .percentagePoint, none),
  ("percentage points", 1, .percentagePoint, none),
  ("trillion", Nat.pow 10 12, .currency, some "KRW"),
  ("billion", Nat.pow 10 9, .currency, some "KRW"),
  ("million", Nat.pow 10 6, .currency, some "KRW")]

def prefixCurrency : List (String × String) :=
  [("$", "USD"), ("€", "EUR"), ("¥", "JPY"), ("₩", "KRW")]

end Numeric

/-- These identities bind a fact to its source. -/
structure NumericSource where
  regionId : Option String := none
  objectId : Option String := none
  tableId : Option String := none
  cellId : Option String := none
deriving DecidableEq

/-- The first present identity names the object. -/
def NumericSource.object (source : NumericSource) : String :=
  let present (id : Option String) := id.filter (· != "")
  (present source.objectId).getD ((present source.regionId).getD "source")

/-- A fact of the source has its value, its unit and its direction. -/
structure NumericFact [Floating] where
  factId : String
  sourceObjectId : String
  sourceRegionId : Option String
  sourceTableId : Option String
  sourceCellId : Option String
  sourceString : List Char
  rawValue : Option Floating.Value
  canonicalValue : Option Floating.Value
  scaleFactor : Nat
  sourceUnit : Option (List Char)
  semanticQuantity : SemanticQuantity
  currency : Option String
  timePeriod : Option (List Char)
  direction : Option NumericDirection
  approximation : Option String

namespace Numeric

section
variable [Unicode]

def normalUnit (unit : Option (List Char)) : Option String :=
  unit.map fun unit => String.ofList (Text.collapse (Text.strip (Unicode.lower unit)))

/-- A bracket before the number makes it negative. -/
def directionOf (sign opening : List Char) : Option NumericDirection :=
  if sign = ['+'] ∨ sign = ['▲'] then some .positive
  else if sign = ['-'] ∨ sign = ['▼'] ∨ '(' ∈ opening then some .negative
  else none

/-- The first period near the number counts. -/
def periodAfter (rest : List Char) : Option (List Char) :=
  (search period [] (rest.take 48)).map (·.text)

variable [Floating]

/-- The number of a match is scaled by its unit. -/
def tokenFact (source : NumericSource) (factId : String) (found : Match) : NumericFact :=
  let prefixed := found.group "prefix"
  let displayed := found.group "unit"
  let raw := Floating.ofDecimal (((found.group "number").getD []).filter (· != ','))
  let (factor, quantity, currency) :=
    (unitInfo.lookup ((normalUnit displayed).getD "")).getD (1, .number, none)
  let named := prefixed.map fun text =>
    (prefixCurrency.lookup (String.ofList text)).getD (String.ofList text)
  { factId
    sourceObjectId := source.object
    sourceRegionId := source.regionId
    sourceTableId := source.tableId
    sourceCellId := source.cellId
    sourceString := found.text
    rawValue := some raw
    canonicalValue := some (Floating.mul raw (Floating.ofNat factor))
    scaleFactor := factor
    sourceUnit :=
      match prefixed, displayed with
      | some symbol, some unit => some (symbol ++ ' ' :: unit)
      | some symbol, none => some symbol
      | none, unit => unit
    semanticQuantity := if named.isSome && quantity == .number then .currency else quantity
    currency := if named.isSome then named else currency
    timePeriod := periodAfter found.rest
    direction := directionOf ((found.group "sign").getD []) ((found.group "open").getD [])
    approximation :=
      if '~' ∈ found.before.take 2 ∨ (found.text ++ found.rest).head? = some '~' then
        some "approximate"
      else none }

/-- A period outside the numbers is a fact without a value. -/
def periodFact (source : NumericSource) (factId : String) (found : Match) : NumericFact where
  factId
  sourceObjectId := source.object
  sourceRegionId := source.regionId
  sourceTableId := source.tableId
  sourceCellId := source.cellId
  sourceString := found.text
  rawValue := none
  canonicalValue := none
  scaleFactor := 1
  sourceUnit := none
  semanticQuantity := .period
  currency := none
  timePeriod := some found.text
  direction := none
  approximation := none

/-- A number has at least two digits in an identity. -/
def factId (object : String) (index : Nat) : String :=
  object ++ "-n" ++ (if index + 1 < 10 then "0" else "") ++ toString (index + 1)

/-- A period inside a number is no fact of its own. -/
def periodsOutside (tokens : List Match) (text : List Char) : List Match :=
  (findAll period text).filter fun found =>
    !tokens.any fun token => token.before.length ≤ found.before.length &&
      found.before.length < token.before.length + token.text.length

def extractNumericFacts (text : Option (List Char)) (source : NumericSource) :
    List NumericFact :=
  match text with
  | none => []
  | some text =>
    let tokens := findAll token text
    let found := tokens.map (fun found => (tokenFact source · found)) ++
      (periodsOutside tokens text).map fun found => (periodFact source · found)
    found.zipIdx.map fun entry => entry.1 (factId source.object entry.2)

end
end Numeric
end KSlide
