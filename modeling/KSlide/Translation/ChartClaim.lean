import KSlide.Evidence.Chart
import KSlide.Translation.Fields

/-
This file gives the check of a chart claim against the charts that it cites.
-/

namespace KSlide

inductive ChartClaimKind where
  | trend | pointValue | ranking | comparison
deriving DecidableEq, Repr

instance : Text.Enumeration ChartClaimKind where
  value
    | .trend => "trend"
    | .pointValue => "point_value"
    | .ranking => "ranking"
    | .comparison => "comparison"
  all := [.trend, .pointValue, .ranking, .comparison]

inductive ChartTrend where
  | increasing | decreasing | flat
deriving DecidableEq, Repr

instance : Text.Enumeration ChartTrend where
  value
    | .increasing => "increasing"
    | .decreasing => "decreasing"
    | .flat => "flat"
  all := [.increasing, .decreasing, .flat]

inductive ChartRanking where
  | highest | lowest
deriving DecidableEq, Repr

instance : Text.Enumeration ChartRanking where
  value
    | .highest => "highest"
    | .lowest => "lowest"
  all := [.highest, .lowest]

inductive ChartOperator where
  | greaterThan | lessThan | equalTo
deriving DecidableEq, Repr

instance : Text.Enumeration ChartOperator where
  value
    | .greaterThan => "greater_than"
    | .lessThan => "less_than"
    | .equalTo => "equal_to"
  all := [.greaterThan, .lessThan, .equalTo]

namespace ChartClaimKind

/-- The fields of a claim are closed by its kind. -/
def fields (kind : ChartClaimKind) : List String :=
  ["chart_element_id", "kind", "series_index", "series_name"] ++
    match kind with
    | .trend => ["direction"]
    | .pointValue => ["point_index", "category", "value", "is_blank"]
    | .ranking => ["point_index", "category", "ranking", "rank"]
    | .comparison =>
      ["point_index", "category", "other_series_index", "other_series_name", "operator"]

end ChartClaimKind

namespace Translation

def chartMismatch (message : String) (details : List (String × Json) := []) : Raised :=
  .kslide ⟨.chartInterpretationMismatch, message, details⟩

/-- The member of a closed set that a text names. -/
def wordOf (Word : Type) [Text.Enumeration Word] (value : Json) (refused : Raised) :
    Except Raised Word := do
  require (← value.memberOf (Text.Enumeration.all.map fun (word : Word) =>
    Text.Enumeration.value word)) refused
  match value with
  | .str text =>
    match Text.Enumeration.parse Word text with
    | some word => return word
    | none => throw refused
  | _ => throw refused

section
variable [Fractions]

def legacyPoint (index : Nat) (value : Json) : Json := .obj [
  ("is_blank", .bool (value == .null)), ("point_index", .int index), ("value", value)]

/-- An older chart has a list of values instead of points. -/
def chartPoints (series : Json) : List Json :=
  match series.get? "points" with
  | some (.arr points) => points.filter (·.isObject)
  | _ =>
    match series.get? "values" with
    | some (.arr values) => values.mapIdx legacyPoint
    | _ => []

def chartSeriesItems (chart : Json) : List Json :=
  match chart.get? "series" with
  | some (.arr series) => series
  | _ => []

def seriesKeys (other : Bool) : String × String :=
  if other then ("other_series_index", "other_series_name") else ("series_index", "series_name")

/-- The claim names a series by its index and its name. -/
def namedSeries (claim : Json) (other : Bool) : Option (Nat × String) :=
  match claim.field (seriesKeys other).1, claim.field (seriesKeys other).2 with
  | .int index, .str name => if 0 ≤ index then some (index.toNat, name) else none
  | _, _ => none

def chartSeries (chart claim : Json) (other : Bool) : Except Raised Json :=
  match namedSeries claim other with
  | none =>
    .error (chartMismatch "Chart claim must identify an exact series index and name.")
  | some (index, name) =>
    let refused := chartMismatch "Chart claim identifies the wrong engine series."
      [("series_index", .int index), ("series_name", .str name)]
    match (chartSeriesItems chart).find? fun item =>
        item.isObject && (item.field "series_index").quantity? == some (index : ℚ) with
    | none => .error refused
    | some series => if series.field "name" == .str name then .ok series else .error refused

/-- The claim names a point by its index and its category. -/
def namedPoint (claim : Json) : Option (Nat × String) :=
  match claim.field "point_index", claim.field "category" with
  | .int index, .str category => if 0 ≤ index then some (index.toNat, category) else none
  | _, _ => none

def isBlankPoint (point : Json) : Bool :=
  point.field "is_blank" == .bool true || point.field "value" == .null

def chartPoint (chart claim series : Json) (allowBlank : Bool) : Except Raised Json :=
  let refused := chartMismatch "Chart claim category/order does not match engine evidence."
  match namedPoint claim with
  | none => .error refused
  | some (index, category) =>
    if (EvidenceIR.categories chart)[index]? != some (.str category) then .error refused
    else
      match (chartPoints series).find? fun item =>
          (item.field "point_index").quantity? == some (index : ℚ) with
      | none => .error (chartMismatch
          "Chart claim point identity is not present in engine evidence.")
      | some point =>
        if isBlankPoint point && !allowBlank then
          .error (chartMismatch "Chart claim cannot treat a blank/null point as numeric data.")
        else .ok point

def chartNumericPoint (chart claim series : Json) : Except Raised ℚ := do
  let point ← chartPoint chart claim series false
  match (point.field "value").number? with
  | some value => return value
  | none => throw (chartMismatch "Chart claim requires an engine numeric point.")

/-- The direction of some numbers is decided by their neighbours. -/
def trendOf (values : List ℚ) : Option ChartTrend :=
  let neighbours := values.zip values.tail
  if neighbours.all fun pair => pair.1 == pair.2 then some .flat
  else if neighbours.all fun pair => decide (pair.1 ≤ pair.2) then some .increasing
  else if neighbours.all fun pair => decide (pair.2 ≤ pair.1) then some .decreasing
  else none

def validateTrend (claim series : Json) : Except Raised Unit := do
  let direction ← wordOf ChartTrend (claim.field "direction") (schemaError
    "Trend chart claims require increasing, decreasing, or flat direction.")
  let unsupported := chartMismatch
    "Chart trend is unsupported because the named series contains blank/null points."
  match (chartPoints series).mapM fun point => (point.field "value").number? with
  | none => throw unsupported
  | some values => do
    require (2 ≤ values.length) unsupported
    match trendOf values with
    | none => throw (chartMismatch
        "Chart trend is non-monotonic and cannot support a closed one-way trend claim.")
    | some actual =>
      require (direction == actual) (chartMismatch
        "Chart claim reverses or misstates the named series trend."
        [("expected", .str (Text.Enumeration.value actual)),
          ("actual", claim.field "direction")])

def hasFields (claim : Json) (required : List String) : Bool :=
  required.all (claim.keys.contains ·)

def claimedBlank (claim : Json) : Except Raised Bool :=
  match (claim.get? "is_blank").getD (.bool false) with
  | .bool blank => .ok blank
  | _ => .error (schemaError "Chart point blank state must be boolean.")

/-- The claim gives a number only for a point that is not blank. -/
def validateClaimedValue (claim point : Json) : Except Raised Unit := do
  let claimedBlank ← claimedBlank claim
  require (claimedBlank == isBlankPoint point)
    (chartMismatch "Chart claim misstates the engine blank/null state.")
  if isBlankPoint point then
    require (claim.get? "value").isNone
      (chartMismatch "Blank/null chart points cannot claim a numeric value.")
  else
    let refused :=
      chartMismatch "Chart claim value is not the engine value for the named category."
    match (claim.field "value").number? with
    | none => throw refused
    | some claimed => do
      require (claimed == (← (point.field "value").float)) refused

def validatePointValue (chart claim series : Json) : Except Raised Unit := do
  require (hasFields claim ["point_index", "category"])
    (schemaError "Point-value chart claims require an exact category and point index.")
  validateClaimedValue claim (← chartPoint chart claim series true)

/-- A series is ranked by its value unless its point is blank. -/
def rankedValue (chart claim candidate : Json) : Except Raised (Option (ℚ × ℚ)) := do
  let point ← chartPoint chart claim candidate true
  if isBlankPoint point then return none
  else
    let value ← (point.field "value").float
    match candidate.get? "series_index" with
    | none => throw (.other "KeyError")
    | some index => return some (value, index.quantity?.getD 0)

/-- The ranked values of the series come with the indices of their series. -/
def rankedValues (chart claim : Json) : List Json → Except Raised (List (ℚ × ℚ))
  | [] => .ok []
  | candidate :: rest => do
    let first ← rankedValue chart claim candidate
    return first.toList ++ (← rankedValues chart claim rest)

def claimedRank (claim : Json) (refused : Raised) : Except Raised Nat :=
  match claim.field "rank" with
  | .int rank => if 1 ≤ rank then .ok rank.toNat else .error refused
  | _ => .error refused

def rankedBy (ranking : ChartRanking) (values : List (ℚ × ℚ)) : List (ℚ × ℚ) :=
  match ranking with
  | .highest => values.insertionSort fun first second => second.1 ≤ first.1
  | .lowest => values.insertionSort fun first second => first.1 ≤ second.1

def validateRanking (chart claim series : Json) : Except Raised Unit := do
  let refused := schemaError
    "Ranking chart claims require an exact category, rank, and highest/lowest direction."
  require (hasFields claim ["point_index", "category", "ranking", "rank"]) refused
  let ranking ← wordOf ChartRanking (claim.field "ranking") refused
  let rank ← claimedRank claim refused
  let values ← rankedValues chart claim (chartSeriesItems chart)
  require (!values.isEmpty && decide (values.map Prod.fst).Nodup)
    (chartMismatch "Chart ranking is unsupported because values are blank or tied.")
  require ((rankedBy ranking values)[rank - 1]?.any fun expected =>
      (series.field "series_index").quantity? == some expected.2)
    (chartMismatch "Chart claim ranking is not supported by engine values.")

def operatorOf (left right : ℚ) : ChartOperator :=
  if right < left then .greaterThan else if left < right then .lessThan else .equalTo

def validateComparison (chart claim series : Json) : Except Raised Unit := do
  let refused := schemaError
    "Comparison chart claims require two exact series, category, point, and operator."
  require (hasFields claim
    ["point_index", "category", "other_series_index", "other_series_name", "operator"]) refused
  let operator ← wordOf ChartOperator (claim.field "operator") refused
  let other ← chartSeries chart claim true
  require ((other.field "series_index").quantity? != (series.field "series_index").quantity?)
    (chartMismatch "Chart comparison requires two distinct series.")
  let left ← chartNumericPoint chart claim series
  let right ← chartNumericPoint chart claim other
  require (operator == operatorOf left right)
    (chartMismatch "Chart comparison is not supported by engine values.")

/-- Each kind of claim has its own rule. -/
def judge (kind : ChartClaimKind) (chart claim : Json) : Except Raised Unit := do
  let series ← chartSeries chart claim false
  match kind with
  | .trend => validateTrend claim series
  | .pointValue => validatePointValue chart claim series
  | .ranking => validateRanking chart claim series
  | .comparison => validateComparison chart claim series

def citedElement (charts : List Json) (chartId : String) : Except Raised Json :=
  match charts.find? fun item => item.field "element_id" == .str chartId with
  | none => .error (chartMismatch "Chart claim does not identify a cited engine chart."
      [("element_id", .str chartId)])
  | some element => .ok element

def validateChartClaim (claim : Json) (charts : List Json) : Except Raised Unit := do
  require claim.isObject (schemaError "chart_claim must be an object.")
  onlyFields claim ["chart_element_id", "kind", "series_index", "series_name", "point_index",
    "category", "value", "is_blank", "direction", "ranking", "rank", "other_series_index",
    "other_series_name", "operator"] "chart claim"
  let refused := schemaError "chart_claim requires an engine chart and closed claim kind."
  let chartId ← checkedText (fun _ => true) refused (claim.field "chart_element_id")
  let kind ← wordOf ChartClaimKind (claim.field "kind") refused
  let unsupported := sortedSet (claim.keys.filter (· ∉ kind.fields))
  require unsupported.isEmpty (.kslide ⟨.schemaInvalid,
    "Chart claim contains fields outside its closed claim kind.",
    [("fields", .arr (unsupported.map .str))]⟩)
  let element ← citedElement charts chartId
  judge kind (element.field "chart") claim

end
end Translation
end KSlide
