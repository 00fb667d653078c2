import KSlide.Order.Rank
import KSlide.Translation.ChartClaim

/-
This file says which chart claims are true and which of them the check can read.
-/

namespace KSlide
open Translation

/-- A value of a chart is a number, and an older chart may hold any other value. -/
inductive PlottedValue where
  | blank
  | number (value : ℚ)
  | other (reading : Except Raised ℚ)

namespace PlottedValue

/-- The value as a number, which is absent when the value is blank. -/
def Measures (value : PlottedValue) (number : Option ℚ) : Prop :=
  match number with
  | none => value = .blank
  | some measured => value = .number measured

/-- The value as the conversion reads it. -/
def Converts (value : PlottedValue) (number : Option ℚ) : Prop :=
  value.Measures number ∨ ∃ reading, number = some reading ∧ value = .other (.ok reading)

end PlottedValue

/-- A point may leave its place to its position. -/
structure PlottedPoint where
  stated : Bool
  value : PlottedValue

/-- A series may leave its index and its name out. -/
structure PlottedSeries where
  statedIndex : Bool
  statedName : Bool
  name : String
  points : List PlottedPoint

structure PlottedChart where
  categories : List Json
  series : List PlottedSeries

section
variable [Fractions]

def PlottedValue.ofJson (value : Json) : PlottedValue :=
  if value = .null then .blank
  else match value.number? with
    | some measured => .number measured
    | none => .other value.float

def PlottedPoint.ofJson (point : Json) : PlottedPoint where
  stated := (point.get? "point_index").isSome
  value := .ofJson (point.field "value")

def PlottedSeries.ofJson (series : Json) : PlottedSeries where
  statedIndex := (series.get? "series_index").isSome
  statedName := (series.get? "name").isSome
  name := (EvidenceIR.seriesName series).getD ""
  points := match series.get? "points" with
    | some (.arr points) => points.map .ofJson
    | _ => match series.get? "values" with
      | some (.arr values) => values.map fun value => ⟨true, .ofJson value⟩
      | _ => []

def PlottedChart.ofJson (chart : Json) : PlottedChart where
  categories := EvidenceIR.categories chart
  series := (chartSeriesItems chart).map .ofJson

end

def ChartTrend.Describes (trend : ChartTrend) (numbers : List ℚ) : Prop :=
  match trend with
  | .flat => numbers.Pairwise (· = ·)
  | .increasing => numbers.Pairwise (· ≤ ·) ∧ ¬numbers.Pairwise (· = ·)
  | .decreasing => numbers.Pairwise (· ≥ ·) ∧ ¬numbers.Pairwise (· = ·)

/-- The first number stands closer to the stated end. -/
def ChartRanking.Leads (ranking : ChartRanking) (first second : ℚ) : Prop :=
  match ranking with
  | .highest => second < first
  | .lowest => first < second

instance (ranking : ChartRanking) (first second : ℚ) : Decidable (ranking.Leads first second) := by
  cases ranking <;> unfold ChartRanking.Leads <;> infer_instance

def ChartOperator.Compares (operator : ChartOperator) (left right : ℚ) : Prop :=
  match operator with
  | .greaterThan => right < left
  | .lessThan => left < right
  | .equalTo => left = right

/-- A field of the claim names a member of a closed set. -/
def Says {Word : Type} [Text.Enumeration Word] (claim : Json) (field : String) (word : Word) :
    Prop :=
  claim.field field = .str (Text.Enumeration.value word)

/-- A list or an object stands where a word should stand. -/
def Unhashable (claim : Json) (field : String) : Prop :=
  (∃ items, claim.field field = .arr items) ∨ ∃ fields, claim.field field = .obj fields

/-- The point stands in the series and states its place. -/
def PlottedSeries.Reads (series : PlottedSeries) (place : Nat) (value : PlottedValue) : Prop :=
  series.points[place]? = some ⟨true, value⟩

namespace PlottedChart
variable (chart : PlottedChart) (claim : Json)

/-- The claim names a series of the chart by its index and its name. -/
def Names (other : Bool) (index : Nat) (series : PlottedSeries) : Prop :=
  namedSeries claim other = some (index, series.name) ∧ chart.series[index]? = some series

/-- The named series states its index and its name. -/
def Finds (other : Bool) (index : Nat) (series : PlottedSeries) : Prop :=
  chart.Names claim other index series ∧ series.statedIndex = true ∧ series.statedName = true

def Places (place : Nat) : Prop :=
  ∃ category, namedPoint claim = some (place, category) ∧
    chart.categories[place]? = some (.str category)

/-- The claim gives the value of a point, or says that the point is blank. -/
def Gives [Fractions] (value : PlottedValue) : Prop :=
  match value with
  | .blank => claim.get? "is_blank" = some (.bool true) ∧ claim.get? "value" = none
  | .number number => (claim.get? "is_blank").getD (.bool false) = .bool false ∧
      (claim.field "value").number? = some number
  | .other _ => False

/-- One number has the claimed rank among distinct numbers. -/
def Ranks (numbers : List (Option ℚ)) (index : Nat) : Prop :=
  ∃ ranking : ChartRanking, Says claim "ranking" ranking ∧ ∃ rank : Nat,
    claim.field "rank" = .int (rank + 1) ∧ (numbers.filterMap id).Nodup ∧
      ∃ number, numbers[index]? = some (some number) ∧
        (numbers.filterMap id).countP (fun other => decide (ranking.Leads other number)) = rank

/-- The claim is true of the chart. -/
def Holds [Fractions] : ChartClaimKind → Prop
  | .trend => ∃ index series, chart.Names claim false index series ∧ ∃ numbers : List ℚ,
      series.points.map (·.value) = numbers.map .number ∧ 2 ≤ numbers.length ∧
        ∃ trend : ChartTrend, Says claim "direction" trend ∧ trend.Describes numbers
  | .pointValue => ∃ index series, chart.Names claim false index series ∧ ∃ place,
      chart.Places claim place ∧ ∃ point, series.points[place]? = some point ∧
        Gives claim point.value
  | .ranking => ∃ index series, chart.Names claim false index series ∧ ∃ place,
      chart.Places claim place ∧ ∃ numbers : List (Option ℚ),
        List.Forall₂ (fun series number => ∃ point, series.points[place]? = some point ∧
          point.value.Measures number) chart.series numbers ∧ Ranks claim numbers index
  | .comparison => ∃ first series second other, chart.Names claim false first series ∧
      chart.Names claim true second other ∧ first ≠ second ∧ ∃ place,
        chart.Places claim place ∧ ∃ one two, series.points[place]? = some one ∧
          other.points[place]? = some two ∧ ∃ left right, one.value = .number left ∧
            two.value = .number right ∧ ∃ operator : ChartOperator,
              Says claim "operator" operator ∧ operator.Compares left right

/-- What the check reads of a true claim states its own place and its own name. -/
def States : ChartClaimKind → Prop
  | .trend => ∃ index series, chart.Finds claim false index series
  | .pointValue => ∃ index series, chart.Finds claim false index series ∧ ∃ place,
      chart.Places claim place ∧ ∃ value, series.Reads place value
  | .ranking => ∃ index series, chart.Finds claim false index series ∧ ∃ place,
      chart.Places claim place ∧ ∀ series ∈ chart.series, ∃ value, series.Reads place value ∧
        (value = .blank ∨ series.statedIndex = true)
  | .comparison => ∃ first series second other, chart.Finds claim false first series ∧
      chart.Finds claim true second other ∧ ∃ place, chart.Places claim place ∧
        ∃ left right, series.Reads place left ∧ other.Reads place right

/-- The ranking counts the number of the series or passes over its blank point. -/
def Counts (place : Nat) (series : PlottedSeries) (number : Option ℚ) : Prop :=
  ∃ value, series.Reads place value ∧ value.Converts number ∧
    (number.isSome → series.statedIndex = true)

/-- A value that is no number is converted to the claimed number or decides the rank. -/
def Misreads [Fractions] : ChartClaimKind → Prop
  | .pointValue => ∃ index series, chart.Finds claim false index series ∧ ∃ place,
      chart.Places claim place ∧ ∃ number, series.Reads place (.other (.ok number)) ∧
        Gives claim (.number number)
  | .ranking => ∃ index series, chart.Finds claim false index series ∧ ∃ place,
      chart.Places claim place ∧ ∃ numbers : List (Option ℚ),
        List.Forall₂ (Counts place) chart.series numbers ∧ Ranks claim numbers index ∧
          ∃ series ∈ chart.series, ∃ reading, series.Reads place (.other reading)
  | .trend | .comparison => False

/-- The ranking breaks at a value that cannot be converted or whose series states no index. -/
def Stops (place : Nat) (series : PlottedSeries) : Prop :=
  ∃ value, series.Reads place value ∧ value ≠ .blank ∧
    (series.statedIndex = false ∨ ∃ raised, value = .other (.error raised))

/-- The check ends with an exception that is no package error. -/
def Breaking [Fractions] : ChartClaimKind → Prop
  | .trend => (∃ index series, chart.Finds claim false index series) ∧
      Unhashable claim "direction"
  | .pointValue => ∃ index series, chart.Finds claim false index series ∧ ∃ place,
      chart.Places claim place ∧ ∃ raised number, series.Reads place (.other (.error raised)) ∧
        Gives claim (.number number)
  | .ranking => (∃ index series, chart.Finds claim false index series) ∧
      (hasFields claim ["point_index", "category", "ranking", "rank"] = true ∧
          Unhashable claim "ranking" ∨
        (∃ ranking : ChartRanking, Says claim "ranking" ranking) ∧
          (∃ rank : Nat, claim.field "rank" = .int (rank + 1)) ∧
            ∃ place, chart.Places claim place ∧ ∃ before series after,
              chart.series = before ++ series :: after ∧
                (∀ earlier ∈ before, ∃ number, Counts place earlier number) ∧
                  Stops place series)
  | .comparison => (∃ index series, chart.Finds claim false index series) ∧
      hasFields claim ["point_index", "category", "other_series_index", "other_series_name",
        "operator"] = true ∧ Unhashable claim "operator"

end PlottedChart
end KSlide
