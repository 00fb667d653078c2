import KSlide.Numeric.Extraction

/-
This file binds the unit of a table to the numbers of its cells.
-/

namespace KSlide
open Regex Regex.Pattern

/-- A cell of a native table, and whether the table marks it as a header. -/
structure NativeTableCell where
  cellId : String
  text : Option (List Char)
  isSpanned : Bool
  isBlank : Bool
  isHeader : Bool

structure NativeTable where
  tableId : String
  unit : Option (List Char)
  cells : List NativeTableCell

namespace NativeTableCell

/-- A spanned cell has no text, and a blank cell has an empty text. -/
def sourceText (cell : NativeTableCell) : Option (List Char) :=
  if cell.isSpanned then none
  else if cell.isBlank || (cell.text.getD []).all Text.isSpace then some []
  else cell.text

end NativeTableCell

namespace Numeric
section
variable [Unicode]

def currencyUnits : List String := ["usd", "krw", "eur", "jpy", "$", "€", "¥", "₩"]

/-- Ten thousands count unless they are a part of another unit. -/
def tenThousands : Pattern :=
  all [.notAfter fun letter => letter == '조' || letter == '억', literal "만",
    .notBefore fun letter => letter == '원']

/-- The first scale that the unit mentions counts. -/
def unitFactor (normalized : List Char) : Nat :=
  let mentions (word : String) := Text.within word.toList normalized
  if mentions "trillion" || mentions "조" then Nat.pow 10 12
  else if mentions "billion" then Nat.pow 10 9
  else if mentions "억" then Nat.pow 10 8
  else if mentions "million" || mentions "백만" then Nat.pow 10 6
  else if mentions "thousand" || mentions "천" then Nat.pow 10 3
  else if mentions "만원" || (search tenThousands [] normalized).isSome then Nat.pow 10 4
  else 1

def namedCurrency (normalized : List Char) : Option String :=
  ["USD", "KRW", "EUR", "JPY"].find? fun value =>
    Text.within (Unicode.casefold value.toList) normalized

/-- A unit without a currency may make its numbers percentages. -/
def unitQuantity (normalized : List Char) (quantity : SemanticQuantity) : SemanticQuantity :=
  let mentions (word : String) := Text.within word.toList normalized
  if (namedCurrency normalized).isSome then .currency
  else if mentions "%" || mentions "percent" then
    if mentions "point" then .percentagePoint else .percentage
  else quantity

variable [Floating]

/-- The unit of a table scales a number that has no unit but a currency. -/
def bindTableUnit (fact : NumericFact) (unit : Option (List Char)) : NumericFact :=
  match unit, fact.rawValue with
  | some unit, some raw =>
    let normalized := Unicode.casefold unit
    let existing := Unicode.casefold (fact.sourceUnit.getD [])
    if unit = [] ∨ existing ≠ [] ∧ String.ofList existing ∉ currencyUnits then fact
    else
      let factor := fact.scaleFactor * unitFactor normalized
      { fact with
        sourceUnit := some unit
        scaleFactor := factor
        canonicalValue := some (Floating.mul raw (Floating.ofNat factor))
        currency := (namedCurrency normalized).or fact.currency
        semanticQuantity := unitQuantity normalized fact.semanticQuantity }
  | _, _ => fact

/-- The unit changes neither the identity nor the source of a fact. -/
theorem bindTableUnit_source (fact : NumericFact) (unit : Option (List Char)) :
    (bindTableUnit fact unit).factId = fact.factId ∧
      (bindTableUnit fact unit).sourceRegionId = fact.sourceRegionId ∧
      (bindTableUnit fact unit).sourceTableId = fact.sourceTableId ∧
      (bindTableUnit fact unit).sourceCellId = fact.sourceCellId := by
  unfold bindTableUnit
  split
  · dsimp only
    split
    · exact ⟨rfl, rfl, rfl, rfl⟩
    · exact ⟨rfl, rfl, rfl, rfl⟩
  · exact ⟨rfl, rfl, rfl, rfl⟩

/-- The facts of a cell, with the unit of its table outside the headers. -/
def cellFacts (table : NativeTable) (cell : NativeTableCell) : List NumericFact :=
  let facts := extractNumericFacts cell.sourceText
    { objectId := some cell.cellId, tableId := some table.tableId, cellId := some cell.cellId }
  if cell.isHeader then facts else facts.map fun fact => bindTableUnit fact table.unit

end
end Numeric
end KSlide
