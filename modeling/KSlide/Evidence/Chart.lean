import KSlide.Json.Number

/-
This file gives the checks of the charts in the evidence.
-/

namespace KSlide.EvidenceIR
variable [Fractions]

def chartError (elementId : Json) (message : String) : Raised :=
  .kslide ⟨.schemaInvalid, message, [("element_id", elementId)]⟩

/-- A missing place stands for the position in the array. -/
def statesPlace (item : Json) (name : String) (place : Nat) : Bool :=
  match item.get? name with
  | none => true
  | some (.bool _) => false
  | some value => value.quantity? == some (place : ℚ)

/-- A missing name is empty. -/
def seriesName (series : Json) : Option String :=
  match series.get? "name" with
  | none => some ""
  | some (.str name) => some name
  | some _ => none

def checkPoint (elementId : Json) (place : Nat) (point : Json) : Except Raised Unit :=
  let value := point.field "value"
  require (point.isObject && statesPlace point "point_index" place &&
      (value == .null && point.field "is_blank" == .bool true ||
        value.number?.isSome && point.field "is_blank" == .bool false))
    (chartError elementId "Evidence chart point order or value type is invalid.")

def checkPoints (elementId : Json) : Nat → List Json → Except Raised Unit
  | _, [] => .ok ()
  | place, point :: rest => do
    checkPoint elementId place point
    checkPoints elementId (place + 1) rest

/-- The categories of a chart, and none when they are missing. -/
def categories (chart : Json) : List Json :=
  match chart.get? "categories" with
  | some (.arr categories) => categories
  | _ => []

/-- Missing points are none. -/
def statedPoints (elementId series : Json) : Except Raised (List Json) :=
  match series.get? "points" with
  | none => .ok []
  | some (.arr points) => .ok points
  | some _ => .error (chartError elementId "Evidence chart points must be an array.")

/-- The series stand in order and have distinct names. -/
def checkSeries (elementId chart : Json) : Nat → List String → List Json → Except Raised Unit
  | _, _, [] => .ok ()
  | place, names, series :: rest => do
    require (series.isObject && statesPlace series "series_index" place &&
        (seriesName series).any (!names.contains ·))
      (chartError elementId "Evidence chart series is invalid.")
    let points ← statedPoints elementId series
    require ((categories chart).isEmpty || points.isEmpty ||
        points.length == (categories chart).length)
      (chartError elementId "Evidence chart point cardinality does not match category order.")
    checkPoints elementId 0 points
    checkSeries elementId chart (place + 1) (names ++ (seriesName series).toList) rest

/-- The chart of an element has typed series and points. -/
def checkChart (elementId chart : Json) : Except Raised Unit := do
  let isArray : Json → Bool
    | .arr _ => true
    | _ => false
  let isText : Json → Bool
    | .str _ => true
    | _ => false
  require (chart.isObject && isText (chart.field "chart_type") &&
      (chart.get? "categories").all isArray && (chart.get? "series").all isArray)
    (chartError elementId "Evidence chart structure is not typed and closed.")
  match chart.get? "series" with
  | some (.arr series) => do
    checkSeries elementId chart 0 [] series
    let names : Json := .arr (series.map fun item => .str ((seriesName item).getD ""))
    require ((chart.get? "series_order").all (· == names))
      (chartError elementId "Evidence chart series order does not match typed series facts.")
  -- the check indexes the series that it only defaults before
  | _ => throw (.other "KeyError")

end KSlide.EvidenceIR
